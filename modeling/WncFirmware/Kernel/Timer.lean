import Mathlib.Data.List.Nodup
import Mathlib.Logic.Function.Basic
import WncFirmware.Foundation.Runs

/-!
# Timers

`timer.c` for the timers of the tick interrupt, with lists of one level.  A
timer is started in two sections with the interrupts off, and its time is taken
between them; the tick interrupt can come before that and behind it.
`rt_timer_stop` is one step: a tick on either side of its section leaves what a
tick before it leaves.
-/

namespace WncFirmware.Kernel

open WncFirmware.Foundation

def rtTickMaxHalf : UInt32 := 0x7fffffff

/-- `struct rt_timer` without its callback -/
structure RtTimer where
  timeoutTick : UInt32
  initTick : UInt32
  periodic : Bool
  activated : Bool
  deriving DecidableEq, Repr

/-- How far a call of `rt_timer_start` has come with a timer. -/
inductive StartPhase where
  | notStarting
  | removed
  | timed
  deriving DecidableEq, Repr

structure TimerSystem (Timer : Type) where
  rtTick : UInt32
  timer : Timer → RtTimer
  timerList : List Timer
  starting : Timer → StartPhase

variable {Timer : Type}

def insertByTimeout (timer : Timer → RtTimer) (id : Timer) : List Timer → List Timer
  | [] => [id]
  | t :: list =>
      if (timer t).timeoutTick - (timer id).timeoutTick = 0 then
        t :: insertByTimeout timer id list
      else if (timer t).timeoutTick - (timer id).timeoutTick < rtTickMaxHalf then
        id :: t :: list
      else
        t :: insertByTimeout timer id list

variable [DecidableEq Timer]

namespace TimerSystem

def setTimer (system : TimerSystem Timer) (id : Timer) (timer : RtTimer) :
    TimerSystem Timer :=
  { system with timer := Function.update system.timer id timer }

/-- The first section of `rt_timer_start`. -/
def remove (system : TimerSystem Timer) (id : Timer) : TimerSystem Timer :=
  { system.setTimer id { system.timer id with activated := false } with
    timerList := system.timerList.erase id }

def takeTime (system : TimerSystem Timer) (id : Timer) : TimerSystem Timer :=
  system.setTimer id { system.timer id with
    timeoutTick := system.rtTick + (system.timer id).initTick }

/-- The second section of `rt_timer_start`. -/
def insert (system : TimerSystem Timer) (id : Timer) : TimerSystem Timer :=
  { system.setTimer id { system.timer id with activated := true } with
    timerList := insertByTimeout system.timer id system.timerList }

/-- With the interrupts off, as in `rt_timer_check`. -/
def rtTimerStart (system : TimerSystem Timer) (id : Timer) : TimerSystem Timer :=
  ((system.remove id).takeTime id).insert id

def rtTimerStop (system : TimerSystem Timer) (id : Timer) : TimerSystem Timer :=
  if (system.timer id).activated then
    { system.setTimer id { system.timer id with activated := false } with
      timerList := system.timerList.erase id }
  else system

/-- What `rt_timer_check` does with a timer behind its callback. -/
def restart (system : TimerSystem Timer) (id : Timer) : TimerSystem Timer :=
  let again := (system.timer id).periodic && (system.timer id).activated
  let system :=
    system.setTimer id { system.timer id with activated := false }
  if again then system.rtTimerStart id else system

/--
`rt_timer_check`, for at most `fuel` turns, with the timers that time out.
A callback sends a message or resumes a thread; of the timers it can stop some,
and it starts none.
-/
def rtTimerCheck (callback : Timer → List Timer) :
    Nat → TimerSystem Timer → List Timer × TimerSystem Timer
  | 0, system => ([], system)
  | fuel + 1, system =>
      match system.timerList with
      | [] => ([], system)
      | t :: list =>
          if system.rtTick - (system.timer t).timeoutTick < rtTickMaxHalf then
            let called := (callback t).foldl rtTimerStop
              { system with timerList := list }
            let later := rtTimerCheck callback fuel (called.restart t)
            (t :: later.1, later.2)
          else ([], system)

def rtTickIncrease (callback : Timer → List Timer) (system : TimerSystem Timer) :
    List Timer × TimerSystem Timer :=
  rtTimerCheck callback system.timerList.length
    { system with rtTick := system.rtTick + 1 }

end TimerSystem

inductive TimerStep (Timer : Type) where
  | setTime (id : Timer) (tick : UInt32)
  | setPeriodic (id : Timer) (periodic : Bool)
  | remove (id : Timer)
  | takeTime (id : Timer)
  | insert (id : Timer)
  | stop (id : Timer)
  | tick

def TimerSystem.step (callback : Timer → List Timer) (system : TimerSystem Timer) :
    TimerStep Timer → Option (List Timer × TimerSystem Timer)
  | .setTime id tick =>
      some ([], system.setTimer id { system.timer id with initTick := tick })
  | .setPeriodic id periodic =>
      some ([], system.setTimer id { system.timer id with periodic := periodic })
  | .remove id =>
      if system.starting id = .notStarting then
        some ([], { system.remove id with
          starting := Function.update system.starting id .removed })
      else none
  | .takeTime id =>
      if system.starting id = .removed then
        some ([], { system.takeTime id with
          starting := Function.update system.starting id .timed })
      else none
  | .insert id =>
      if system.starting id = .timed then
        some ([], { system.insert id with
          starting := Function.update system.starting id .notStarting })
      else none
  | .stop id => some ([], system.rtTimerStop id)
  | .tick => some (system.rtTickIncrease callback)

/-! ## What the timers are for -/

/--
The time as a number, the time that each started timer asks for, the tick at
which it is due, and the alarms: the timer, when it was due and when it rang.
A timer is armed from the end of its start until it is stopped or started anew,
or rings without being periodic.
-/
structure Alarms (Timer : Type) where
  now : Nat
  asked : Timer → Nat
  due : Timer → Nat
  armed : Timer → Bool
  rung : List (Timer × Nat × Nat)

/-- What an alarm leaves armed: the callback comes before the new start. -/
def armedAfterRing (callback : Timer → List Timer) (periodic : Timer → Bool)
    (armed : Timer → Bool) (t : Timer) : Timer → Bool :=
  let called := (callback t).foldl
    (fun armed id => Function.update armed id false) armed
  Function.update called t (periodic t && called t)

def Alarms.after (callback : Timer → List Timer) (alarms : Alarms Timer)
    (before after : TimerSystem Timer) (rung : List Timer) :
    TimerStep Timer → Alarms Timer
  | .remove id | .stop id =>
      { alarms with armed := Function.update alarms.armed id false }
  | .takeTime id =>
      { alarms with
        asked := Function.update alarms.asked id
          (alarms.now + (before.timer id).initTick.toNat) }
  | .insert id =>
      { alarms with
        due := Function.update alarms.due id
          (max (alarms.asked id) (alarms.now + 1))
        armed := Function.update alarms.armed id true }
  | .tick =>
      let again (id : Timer) (time : Nat) : Nat :=
        if id ∈ rung ∧ id ∈ after.timerList then
          alarms.now + 1 + (after.timer id).initTick.toNat
        else time
      { now := alarms.now + 1
        asked := fun id => again id (alarms.asked id)
        due := fun id => again id (alarms.due id)
        armed := rung.foldl (armedAfterRing callback fun id =>
          (before.timer id).periodic) alarms.armed
        rung := alarms.rung ++
          rung.map fun id => (id, alarms.due id, alarms.now + 1) }
  | .setTime _ _ | .setPeriodic _ _ => alarms

def timedStep (callback : Timer → List Timer) (state : TimerSystem Timer × Alarms Timer)
    (input : TimerStep Timer) : Option (TimerSystem Timer × Alarms Timer) :=
  (state.1.step callback input).map fun result =>
    (result.2, state.2.after callback state.1 result.2 result.1 input)

end WncFirmware.Kernel
