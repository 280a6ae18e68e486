import WncFirmware.Sysctrl.SoftDogs

/-!
# The system control thread

`thread_system_control` of `thread_sysctrl.c` takes one message after another.
It watches the link to the server and the other threads, and stops feeding the
watchdog when something does not recover.
-/

namespace WncFirmware.Sysctrl

open WncFirmware.Foundation

inductive NetworkState where
  | linkError
  | linkGood
  deriving DecidableEq, Repr

/-- `MSG_SYS_...` -/
inductive SysctrlMsg where
  | oneSec
  | userReboot
  | udpConfirm
  | other
  deriving DecidableEq, Repr

inductive SysctrlAct where
  | setNetLed (on : Bool)
  | addLog (text : Bytes)
  | networkRestart
  | requestFeedSoftDogs
  | workStateTimePeriod
  | stopFeeding
  deriving DecidableEq, Repr

/-- The variables of the thread, with those that are `static` in a block. -/
structure SystemControl where
  timerCnt : Int := 0
  netState : NetworkState := .linkError
  networkNoPackTime : Nat := 0
  netResetCnt : Nat := 0
  dogs : SoftDogs := .cleared
  /-- The thread is in its last loop and waits for the watchdog. -/
  rebooting : Bool := false
  /-- All that was done so far. -/
  acts : List SysctrlAct := []

namespace SystemControl

def act (s : SystemControl) (acts : List SysctrlAct) : SystemControl :=
  { s with acts := s.acts ++ acts }

/-- "Check network"; `restart` is the answer of `network_restart()` if it is
called.  The flag is `need_reboot`. -/
def checkNetwork (restart : RtErr) (s : SystemControl) : SystemControl × Bool :=
  match s.netState with
  | .linkGood =>
      let s := (s.act [.setNetLed true])
      let time := s.networkNoPackTime + 1
      if 120 < time then
        (({ s with
          networkNoPackTime := time
          netState := .linkError }).act
            [.addLog (ascii "no network data over 2 min")], false)
      else ({ s with networkNoPackTime := time }, false)
  | .linkError =>
      let s := s.act [.setNetLed false]
      let cnt := s.netResetCnt + 1
      if 20 < cnt then
        let s := ({ s with netResetCnt := 0 }).act [.networkRestart]
        if restart ≠ .eok then
          (s.act [.addLog (ascii "restart network failed")], true)
        else (s, false)
      else ({ s with netResetCnt := cnt }, false)

/-- "Check threads every minute". -/
def checkThreads (s : SystemControl) : SystemControl × Bool :=
  let (result, logs, dogs) := checkThreadsAlive s.dogs
  (({ s with dogs := dogs }).act (logs.map .addLog), result ≠ .eok)

def countSecond (s : SystemControl) : SystemControl :=
  { s with timerCnt := (s.timerCnt + 1).bmod (2 ^ 32) }

def everyTwentySeconds (s : SystemControl) : SystemControl :=
  if s.timerCnt.tmod 20 = 0 then s.act [.requestFeedSoftDogs] else s

def everyMinute (s : SystemControl) : SystemControl × Bool :=
  if s.timerCnt.tmod 60 = 0 then s.checkThreads else (s, false)

/-- `TIME_WRITE_WORK_STATE_LOG` -/
def everyHour (s : SystemControl) : SystemControl :=
  if s.timerCnt.tmod (1 * 60 * 60) = 0 then s.act [.workStateTimePeriod] else s

/-- `MSG_SYS_1_SEC` -/
def oneSecond (restart : RtErr) (s : SystemControl) : SystemControl × Bool :=
  let (s, failed) := s.countSecond.checkNetwork restart
  let (s, dead) := s.everyTwentySeconds.everyMinute
  (s.everyHour, failed || dead)

def handle (restart : RtErr) (s : SystemControl) : SysctrlMsg → SystemControl × Bool
  | .oneSec => s.oneSecond restart
  | .userReboot => (s.act [.addLog (ascii "user reboot")], true)
  | .udpConfirm =>
      let s := { s with networkNoPackTime := 0 }
      if s.netState ≠ .linkGood then
        (({ s with netState := .linkGood }).act
          [.addLog (ascii "network recovered")], false)
      else (s, false)
  | .other => (s, false)

def round (restart : RtErr) (s : SystemControl) (msg : SysctrlMsg) : SystemControl :=
  let (s, needReboot) := s.handle restart msg
  if needReboot then
    ({ s with rebooting := true }).act
      [.addLog (ascii "system reboot..."), .stopFeeding]
  else s

end SystemControl

inductive SysctrlEvent where
  | feed (dog : ThreadsSoftDog)
  | message (msg : SysctrlMsg) (restart : RtErr)
  deriving DecidableEq, Repr

/-- A thread that waits for the watchdog takes no message any more. -/
def SystemControl.step (s : SystemControl) : SysctrlEvent → SystemControl
  | .feed dog => { s with dogs := threadsFeedDog s.dogs dog }
  | .message msg restart => if s.rebooting then s else s.round restart msg

def systemControl (events : List SysctrlEvent) : SystemControl :=
  events.foldl SystemControl.step {}

/-! ## What the events amount to -/

/-- What has happened since the start, counted without bounds. -/
structure Ledger where
  seconds : Nat := 0
  /-- seconds since the last confirmation of the server -/
  unconfirmed : Option Nat := none
  /-- seconds that began without a link -/
  offline : Nat := 0
  /-- feeds since the last check -/
  feeds : ThreadsSoftDog → Nat := fun _ => 0

namespace Ledger

def Online (ledger : Ledger) : Prop := ∃ time ≤ 120, ledger.unconfirmed = some time

instance (ledger : Ledger) : Decidable ledger.Online :=
  match h : ledger.unconfirmed with
  | none => .isFalse (by simp [Online, h])
  | some time =>
      decidable_of_iff (time ≤ 120) (by simp [Online, h])

def note (ledger : Ledger) : SysctrlEvent → Ledger
  | .feed dog =>
      { ledger with
        feeds := fun other =>
          if other = dog then ledger.feeds other + 1 else ledger.feeds other }
  | .message .oneSec _ =>
      { seconds := ledger.seconds + 1
        unconfirmed := ledger.unconfirmed.map (· + 1)
        offline := if ledger.Online then ledger.offline else ledger.offline + 1
        feeds :=
          if (ledger.seconds + 1) % 60 = 0 then fun _ => 0 else ledger.feeds }
  | .message .udpConfirm _ => { ledger with unconfirmed := some 0 }
  | .message .userReboot _ => ledger
  | .message .other _ => ledger

def Cause (ledger : Ledger) : SysctrlEvent → Prop
  | .message .userReboot _ => True
  | .message .oneSec restart =>
      ¬ ledger.Online ∧ ledger.offline % 21 = 20 ∧ restart ≠ .eok ∨
        (ledger.seconds + 1) % 60 = 0 ∧ ∃ dog, ledger.feeds dog % 256 = 0
  | .message .udpConfirm _ => False
  | .message .other _ => False
  | .feed _ => False

end Ledger

def ledger (events : List SysctrlEvent) : Ledger :=
  events.foldl Ledger.note {}

end WncFirmware.Sysctrl
