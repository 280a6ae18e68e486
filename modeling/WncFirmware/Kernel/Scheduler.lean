import WncFirmware.Foundation.Runs
import WncFirmware.Kernel.ReadyTable

/-!
# The scheduler

`scheduler.c` with the parts of `thread.c` and `clock.c` that move threads
between the ready lists.  One step is at most what runs with interrupts off:
`rt_thread_startup` and `rt_thread_resume` come in parts, a check made before a
section may be out of date in it, and an `rt_schedule()` that ends a function
is a step of its own.  `rt_thread_delete` and `rt_thread_detach`, which nothing
here calls, are left out.
-/

namespace WncFirmware.Kernel

open WncFirmware.Foundation

/-- `thread->stat`. -/
inductive ThreadStat
  | init
  | ready
  | suspend
  | close
  deriving DecidableEq

/-- The fields of `struct rt_thread` the scheduler works on. -/
structure ThreadRecord where
  stat : ThreadStat := .init
  initPriority : Nat
  currentPriority : Nat
  masks : PriorityMasks := {}
  initTick : BitVec 32
  remainingTick : BitVec 32

/-- `_rt_thread_init` on an object with all bytes zero. -/
def rtThreadInit (priority : Nat) (tick : BitVec 32) : ThreadRecord :=
  { initPriority := priority
    currentPriority := priority
    initTick := tick
    remainingTick := tick }

/-- How far a call has come that makes a thread ready, where interrupts come
in between. -/
inductive CallPhase
  | outside
  /-- `rt_thread_startup` has written the priority. -/
  | numbered
  /-- `rt_thread_resume` has taken the thread out of the list it was in. -/
  | unlinked
  deriving DecidableEq

structure Scheduler (Thread : Type) where
  thread : Thread → ThreadRecord
  map : ReadyMap := {}
  /-- `rt_thread_priority_table` -/
  lists : Nat → List Thread := fun _ => []
  current : Option Thread := none
  currentPriority : Nat
  lockNest : BitVec 16 := 0
  phase : Thread → CallPhase := fun _ => .outside

variable {Thread : Type} [DecidableEq Thread]

def rtSystemSchedulerInit (priorityMax : Nat) (thread : Thread → ThreadRecord) :
    Scheduler Thread :=
  { thread := thread
    currentPriority := priorityMax - 1 }

/-- Records as `rt_thread_init` leaves them, the idle thread's among them. -/
def initRecords (priorityMax : Nat) (idle : Thread) (priority : Thread → Nat)
    (tick : Thread → BitVec 32) (t : Thread) : ThreadRecord :=
  if t = idle then rtThreadInit (priorityMax - 1) 32
  else rtThreadInit (priority t) (tick t)

namespace Scheduler

variable (priorityMax : Nat)

def setThread (s : Scheduler Thread) (t : Thread) (record : ThreadRecord) :
    Scheduler Thread :=
  { s with thread := Function.update s.thread t record }

/-- `rt_list_remove`: a node leaves whichever list it is in. -/
def unlink (s : Scheduler Thread) (t : Thread) : Scheduler Thread :=
  { s with lists := fun priority => (s.lists priority).erase t }

/-- `rt_list_insert_before` the head of a list puts a node at its end. -/
def linkLast (s : Scheduler Thread) (priority : Nat) (t : Thread) :
    Scheduler Thread :=
  { s with
    lists := Function.update s.lists priority (s.lists priority ++ [t]) }

def rtScheduleInsertThread (s : Scheduler Thread) (t : Thread) :
    Scheduler Thread :=
  let record := { s.thread t with stat := .ready }
  let s := (s.setThread t record).linkLast record.currentPriority t
  { s with map := s.map.mark priorityMax record.masks }

def rtScheduleRemoveThread (s : Scheduler Thread) (t : Thread) :
    Scheduler Thread :=
  let record := s.thread t
  let s := s.unlink t
  if s.lists record.currentPriority = [] then
    { s with map := s.map.unmark priorityMax record.masks }
  else s

/-- The first thread of the first list that is marked; nothing where the
source would take something else for a thread. -/
def toThread (s : Scheduler Thread) : Option (Nat × Thread) := do
  let priority ← s.map.highest priorityMax
  if priority < priorityMax then
    let t ← (s.lists priority).head?
    return (priority, t)
  else none

def rtSystemSchedulerStart (s : Scheduler Thread) : Option (Scheduler Thread) :=
  do
    let (_, t) ← s.toThread priorityMax
    return { s with current := some t }

def rtSchedule (s : Scheduler Thread) : Option (Scheduler Thread) :=
  if s.lockNest = 0 then do
    let (priority, t) ← s.toThread priorityMax
    -- the switch saves the registers of the thread it leaves
    let fromThread ← s.current
    if t ≠ fromThread then
      return { s with
        currentPriority := priority % 256
        current := some t }
    else return s
  else some s

def rtEnterCritical (s : Scheduler Thread) : Scheduler Thread :=
  { s with lockNest := s.lockNest + 1 }

/-- `rt_schedule()` follows when the level is back at zero. -/
def rtExitCritical (s : Scheduler Thread) : Scheduler Thread :=
  let nest := s.lockNest - 1
  { s with lockNest := if nest.toInt ≤ 0 then 0 else nest }

/-- "Recalculate priority attribute". -/
def setPriority (s : Scheduler Thread) (t : Thread) (priority : Nat) :
    Scheduler Thread :=
  s.setThread t { s.thread t with
    currentPriority := priority
    masks := priorityMasks priorityMax priority }

def setStat (s : Scheduler Thread) (t : Thread) (stat : ThreadStat) :
    Scheduler Thread :=
  s.setThread t { s.thread t with stat := stat }

/-- Two sections: `rt_schedule_insert_thread` makes its own. -/
def rtThreadResume (s : Scheduler Thread) (t : Thread) : Scheduler Thread :=
  if (s.thread t).stat ≠ .suspend then s
  else (s.unlink t).rtScheduleInsertThread priorityMax t

/-- "Set current priority to init priority." -/
def startupPriority (s : Scheduler Thread) (t : Thread) : Scheduler Thread :=
  s.setPriority priorityMax t (s.thread t).initPriority

/-- `rt_schedule()` follows when threads are running already. -/
def rtThreadStartup (s : Scheduler Thread) (t : Thread) : Scheduler Thread :=
  ((s.startupPriority priorityMax t).setStat t .suspend).rtThreadResume
    priorityMax t

/-- `rt_thread_suspend` behind its check that the thread is ready. -/
def suspendSection (s : Scheduler Thread) (t : Thread) : Scheduler Thread :=
  (s.setStat t .suspend).rtScheduleRemoveThread priorityMax t

/-- The part of `rt_thread_timeout` for the lists; `rt_schedule()` follows. -/
def rtThreadTimeout (s : Scheduler Thread) (t : Thread) : Scheduler Thread :=
  (s.unlink t).rtScheduleInsertThread priorityMax t

def rtThreadControl (s : Scheduler Thread) (t : Thread) (priority : Nat) :
    Scheduler Thread :=
  if (s.thread t).stat = .ready then
    let s := s.rtScheduleRemoveThread priorityMax t
    (s.setPriority priorityMax t priority).rtScheduleInsertThread priorityMax t
  else s.setPriority priorityMax t priority

/-- `rt_schedule()` follows. -/
def rtThreadExit (s : Scheduler Thread) : Option (Scheduler Thread) := do
  let t ← s.current
  return (s.rtScheduleRemoveThread priorityMax t).setStat t .close

/-- A thread that is alone in its list has the head on both sides and stays;
otherwise `rt_schedule()` follows. -/
def rtThreadYield (s : Scheduler Thread) : Option (Scheduler Thread) := do
  let t ← s.current
  let priority := (s.thread t).currentPriority
  if (s.thread t).stat = .ready ∧ s.lists priority ≠ [t] then
    return (s.unlink t).linkLast priority t
  else return s

/-- "Check time slice": `thread` is the one that ran when the tick came. -/
def chargeTick (s : Scheduler Thread) (t : Thread) : Scheduler Thread :=
  let left := (s.thread t).remainingTick - 1
  s.setThread t { s.thread t with
    remainingTick := if left = 0 then (s.thread t).initTick else left }

/-- `rt_tick_increase` up to `rt_timer_check`, when no other interrupt comes
between its parts. -/
def rtTickIncrease (s : Scheduler Thread) : Option (Scheduler Thread) := do
  let t ← s.current
  if (s.thread t).remainingTick - 1 = 0 then
    (s.chargeTick t).rtThreadYield
  else
    return s.chargeTick t

/-! ## Records after the operations -/

variable {priorityMax : Nat} {s : Scheduler Thread} {t : Thread}

@[simp] theorem setThread_thread (record : ThreadRecord) :
    (s.setThread t record).thread = Function.update s.thread t record := rfl

@[simp] theorem unlink_thread : (s.unlink t).thread = s.thread := rfl

omit [DecidableEq Thread] in
@[simp] theorem linkLast_thread (priority : Nat) :
    (s.linkLast priority t).thread = s.thread := rfl

@[simp] theorem insert_thread :
    (s.rtScheduleInsertThread priorityMax t).thread =
      Function.update s.thread t { s.thread t with stat := .ready } := rfl

@[simp] theorem remove_thread :
    (s.rtScheduleRemoveThread priorityMax t).thread = s.thread := by
  rw [rtScheduleRemoveThread]
  split <;> rfl

@[simp] theorem setPriority_thread (priority : Nat) :
    (s.setPriority priorityMax t priority).thread =
      Function.update s.thread t { s.thread t with
        currentPriority := priority
        masks := priorityMasks priorityMax priority } := rfl

@[simp] theorem setStat_thread (stat : ThreadStat) :
    (s.setStat t stat).thread =
      Function.update s.thread t { s.thread t with stat := stat } := rfl

@[simp] theorem unlink_phase : (s.unlink t).phase = s.phase := rfl

@[simp] theorem insert_phase :
    (s.rtScheduleInsertThread priorityMax t).phase = s.phase := rfl

@[simp] theorem remove_phase :
    (s.rtScheduleRemoveThread priorityMax t).phase = s.phase := by
  rw [rtScheduleRemoveThread]
  split <;> rfl

@[simp] theorem setThread_phase (record : ThreadRecord) :
    (s.setThread t record).phase = s.phase := rfl

@[simp] theorem setPriority_phase (priority : Nat) :
    (s.setPriority priorityMax t priority).phase = s.phase := rfl

@[simp] theorem setStat_phase (stat : ThreadStat) :
    (s.setStat t stat).phase = s.phase := rfl

/-! ## What the steps of the running thread do -/

theorem rtSchedule_unlocked {priority : Nat} {running : Thread}
    (hunlocked : s.lockNest = 0)
    (hto : s.toThread priorityMax = some (priority, t))
    (hrunning : s.current = some running) :
    s.rtSchedule priorityMax = some (if t ≠ running then
      { s with
        currentPriority := priority % 256
        current := some t } else s) := by
  rw [rtSchedule, if_pos hunlocked, hto, hrunning]
  by_cases ht : t = running <;> simp [ht]

theorem rtSchedule_same {next : Scheduler Thread}
    (h : s.rtSchedule priorityMax = some next) :
    next.thread = s.thread ∧ next.lists = s.lists ∧ next.map = s.map ∧
      next.phase = s.phase := by
  rw [rtSchedule] at h
  split at h
  · obtain ⟨⟨priority, t⟩, _, h⟩ := Option.bind_eq_some_iff.mp h
    obtain ⟨fromThread, _, h⟩ := Option.bind_eq_some_iff.mp h
    split at h <;> cases h <;> exact ⟨rfl, rfl, rfl, rfl⟩
  · cases h
    exact ⟨rfl, rfl, rfl, rfl⟩

theorem rtThreadYield_cases {next : Scheduler Thread}
    (h : s.rtThreadYield = some next) :
    ∃ t, s.current = some t ∧
      ((s.thread t).stat = .ready ∧
          s.lists (s.thread t).currentPriority ≠ [t] ∧
          next = (s.unlink t).linkLast (s.thread t).currentPriority t ∨
        ¬ ((s.thread t).stat = .ready ∧
          s.lists (s.thread t).currentPriority ≠ [t]) ∧ next = s) := by
  obtain ⟨t, hcurrent, h⟩ := Option.bind_eq_some_iff.mp h
  refine ⟨t, hcurrent, ?_⟩
  simp only at h
  split at h
  · next hready =>
      cases h
      exact .inl ⟨hready.1, hready.2, rfl⟩
  · next hstays =>
      cases h
      exact .inr ⟨hstays, rfl⟩

theorem rtTickIncrease_cases {next : Scheduler Thread}
    (h : s.rtTickIncrease = some next) :
    ∃ t, s.current = some t ∧
      ((s.thread t).remainingTick - 1 = 0 ∧
          (s.setThread t { s.thread t with
            remainingTick := (s.thread t).initTick }).rtThreadYield =
              some next ∨
        (s.thread t).remainingTick - 1 ≠ 0 ∧
          next = s.setThread t { s.thread t with
            remainingTick := (s.thread t).remainingTick - 1 }) := by
  obtain ⟨t, hcurrent, h⟩ := Option.bind_eq_some_iff.mp h
  refine ⟨t, hcurrent, ?_⟩
  split at h
  · next hzero =>
      rw [chargeTick, if_pos hzero] at h
      exact .inl ⟨hzero, h⟩
  · next hleft =>
      cases h
      exact .inr ⟨hleft, by rw [chargeTick, if_neg hleft]⟩

end Scheduler

inductive SchedStep (Thread : Type)
  | startup (t : Thread)
  | startupStat (t : Thread)
  | start
  | schedule
  | suspend (t : Thread)
  | resume (t : Thread)
  | resumeInsert (t : Thread)
  | timeout (t : Thread)
  | changePriority (t : Thread) (priority : Nat)
  | exit
  | yield
  | tick
  /-- A tick that another interrupt comes into before it yields. -/
  | charge (t : Thread)
  | enterCritical
  | exitCritical

def Scheduler.setPhase (s : Scheduler Thread) (t : Thread) (phase : CallPhase) :
    Scheduler Thread :=
  { s with phase := Function.update s.phase t phase }

@[simp] theorem Scheduler.setPhase_thread (s : Scheduler Thread) (t : Thread)
    (phase : CallPhase) : (s.setPhase t phase).thread = s.thread := rfl

@[simp] theorem Scheduler.setPhase_phase (s : Scheduler Thread) (t : Thread)
    (phase : CallPhase) :
    (s.setPhase t phase).phase = Function.update s.phase t phase := rfl

def Scheduler.step (priorityMax : Nat) (s : Scheduler Thread) :
    SchedStep Thread → Option (Scheduler Thread)
  | .startup t =>
      some ((s.startupPriority priorityMax t).setPhase t .numbered)
  | .startupStat t => some ((s.setStat t .suspend).setPhase t .outside)
  | .start => s.rtSystemSchedulerStart priorityMax
  | .schedule => s.rtSchedule priorityMax
  | .suspend t => some (s.suspendSection priorityMax t)
  | .resume t => some ((s.unlink t).setPhase t .unlinked)
  | .resumeInsert t =>
      some ((s.rtScheduleInsertThread priorityMax t).setPhase t .outside)
  | .timeout t => some (s.rtThreadTimeout priorityMax t)
  | .changePriority t priority =>
      some (s.rtThreadControl priorityMax t priority)
  | .exit => s.rtThreadExit priorityMax
  | .yield => s.rtThreadYield
  | .tick => s.rtTickIncrease
  | .charge t => some (s.chargeTick t)
  | .enterCritical => some s.rtEnterCritical
  | .exitCritical => some s.rtExitCritical

def startupSteps (t : Thread) : List (SchedStep Thread) :=
  [.startup t, .startupStat t, .resume t, .resumeInsert t]

/-- What the callers promise: the assertions of the source, priorities that
exist, an idle thread that neither waits nor ends, and nothing that needs a
running thread before there is one.  Only one call at a time makes a thread
ready: it still waits when the section begins, and its timer, which that
section stops, does not ring before the call is through. -/
def Promised (priorityMax : Nat) (idle : Thread) (s : Scheduler Thread) :
    SchedStep Thread → Prop
  | .startup t => (s.thread t).stat = .init ∧ s.phase t = .outside
  | .startupStat t => s.phase t = .numbered
  | .resume t => (s.thread t).stat = .suspend ∧ s.phase t = .outside
  | .resumeInsert t => s.phase t = .unlinked
  | .timeout t => (s.thread t).stat = .suspend ∧ s.phase t = .outside
  -- it was ready at the check, and may have been suspended since
  | .suspend t => t ≠ idle ∧
      ((s.thread t).stat = .ready ∨ (s.thread t).stat = .suspend)
  | .changePriority _ priority => priority < priorityMax
  | .exit => s.current ≠ none ∧ s.current ≠ some idle
  | .schedule => s.current ≠ none
  | .yield => s.current ≠ none
  | .tick => s.current ≠ none
  | .start | .charge _ | .enterCritical | .exitCritical => True

instance (priorityMax : Nat) (idle : Thread) (s : Scheduler Thread)
    (input : SchedStep Thread) : Decidable (Promised priorityMax idle s input) :=
  match input with
  | .startup _ | .resume _ | .timeout _ | .suspend _ | .exit =>
      inferInstanceAs (Decidable (_ ∧ _))
  | .startupStat _ | .resumeInsert _ => inferInstanceAs (Decidable (_ = _))
  | .changePriority _ _ => inferInstanceAs (Decidable (_ < _))
  | .schedule | .yield | .tick => inferInstanceAs (Decidable (_ ≠ _))
  | .start | .charge _ | .enterCritical | .exitCritical => .isTrue trivial

/-- The lists are set up and `rt_thread_idle_init` has started its thread. -/
def Scheduler.boot (priorityMax : Nat) (idle : Thread)
    (priority : Thread → Nat) (tick : Thread → BitVec 32) : Scheduler Thread :=
  (rtSystemSchedulerInit priorityMax
    (initRecords priorityMax idle priority tick)).rtThreadStartup
      priorityMax idle

end WncFirmware.Kernel
