import Mathlib.Data.List.Induction
import WncFirmware.Sysctrl.SystemControl

/-!
# Why the device starts again

The system control thread against the ledger of what has happened: when it
holds the link for good, when it starts the network again, and when it gives
the device up to the watchdog.
-/

namespace WncFirmware.Sysctrl

open WncFirmware.Foundation

/-! ## The thread keeps the ledger -/

namespace SystemControl

def times (s : SystemControl) (what : SysctrlAct) : Nat := s.acts.count what

@[simp] theorem times_act (s : SystemControl) (acts : List SysctrlAct)
    (what : SysctrlAct) :
    (s.act acts).times what = s.times what + acts.count what :=
  List.count_append

variable (s : SystemControl) (acts : List SysctrlAct)

@[simp] theorem act_timerCnt : (s.act acts).timerCnt = s.timerCnt := rfl

@[simp] theorem act_dogs : (s.act acts).dogs = s.dogs := rfl

@[simp] theorem act_rebooting : (s.act acts).rebooting = s.rebooting := rfl

theorem act_nil : s.act [] = s := by
  simp [act]

end SystemControl

structure KnowsLink (s : SystemControl) (ledger : Ledger) : Prop where
  link : s.netState = .linkGood ↔ ledger.Online
  noPack : ∀ time ≤ 120, ledger.unconfirmed = some time →
    s.networkNoPackTime = time
  reset : s.netResetCnt = ledger.offline % 21
  restarts : s.times .networkRestart = ledger.offline / 21

theorem Ledger.online_of_some {ledger : Ledger} {time : Nat}
    (h : ledger.unconfirmed = some time) : ledger.Online ↔ time ≤ 120 := by
  simp [Ledger.Online, h]

theorem checkNetwork_of_good {s : SystemControl} {ledger : Ledger}
    (h : KnowsLink s ledger) (hstate : s.netState = .linkGood)
    (restart : RtErr) :
    (s.checkNetwork restart).2 = false ∧
      KnowsLink (s.checkNetwork restart).1
        (ledger.note (.message .oneSec restart)) := by
  have honline := h.link.mp hstate
  obtain ⟨time, hle, hsome⟩ := id honline
  have htime := h.noPack time hle hsome
  have hnext : (ledger.note (.message .oneSec restart)).unconfirmed =
      some (time + 1) := by
    simp [Ledger.note, hsome]
  have hoffline : (ledger.note (.message .oneSec restart)).offline =
      ledger.offline := by
    simp [Ledger.note, honline]
  rw [SystemControl.checkNetwork, hstate]
  simp only
  split
  · next hlate =>
      refine ⟨rfl, ⟨?_, ?_, ?_, ?_⟩⟩
      · rw [Ledger.online_of_some hnext]
        simp only [SystemControl.act] at hlate ⊢
        simp
        omega
      · intro other hother hconfirmed
        rw [hnext, Option.some.injEq] at hconfirmed
        simp only [SystemControl.act] at hlate
        omega
      · rw [hoffline]
        exact h.reset
      · rw [hoffline, ← h.restarts]
        simp [SystemControl.times, SystemControl.act]
  · next hintime =>
      refine ⟨rfl, ⟨?_, ?_, ?_, ?_⟩⟩
      · rw [Ledger.online_of_some hnext]
        simp only [SystemControl.act] at hintime ⊢
        simp [hstate]
        omega
      · intro other hother hconfirmed
        rw [hnext, Option.some.injEq] at hconfirmed
        simp only [SystemControl.act]
        omega
      · rw [hoffline]
        exact h.reset
      · rw [hoffline, ← h.restarts]
        simp [SystemControl.times, SystemControl.act]

/-- A second without a link: every twenty-first starts the network again. -/
theorem checkNetwork_of_error {s : SystemControl} {ledger : Ledger}
    (h : KnowsLink s ledger) (hstate : s.netState = .linkError)
    (restart : RtErr) :
    ((s.checkNetwork restart).2 = true ↔
        ledger.offline % 21 = 20 ∧ restart ≠ .eok) ∧
      KnowsLink (s.checkNetwork restart).1
        (ledger.note (.message .oneSec restart)) := by
  have hoff : ¬ ledger.Online := by
    rw [← h.link, hstate]
    decide
  have hreset := h.reset
  have hrestarts := h.restarts
  have hoffline : (ledger.note (.message .oneSec restart)).offline =
      ledger.offline + 1 := by
    simp [Ledger.note, hoff]
  have hnext : ¬ (ledger.note (.message .oneSec restart)).Online := by
    rintro ⟨time, hle, hsome⟩
    obtain ⟨before, hbefore, heq⟩ := Option.map_eq_some_iff.mp hsome
    exact hoff ⟨before, by omega, hbefore⟩
  have hnoPack (noPack : Nat) : ∀ time ≤ 120,
      (ledger.note (.message .oneSec restart)).unconfirmed = some time →
        noPack = time :=
    fun time hle hsome => absurd ⟨time, hle, hsome⟩ hnext
  -- the link stays down, whatever is done about it
  have hknows {after : SystemControl} (hafter : after.netState = .linkError)
      (hcnt : after.netResetCnt = (ledger.offline + 1) % 21)
      (hdone : after.times .networkRestart = (ledger.offline + 1) / 21) :
      KnowsLink after (ledger.note (.message .oneSec restart)) :=
    ⟨by simp [hafter, hnext], hnoPack _, by rw [hoffline, hcnt],
      by rw [hoffline, hdone]⟩
  rw [SystemControl.checkNetwork, hstate]
  simp only
  split
  · next hdue =>
      have hlast : ledger.offline % 21 = 20 := by
        simp only [SystemControl.act] at hdue
        omega
      have hcnt : 0 = (ledger.offline + 1) % 21 := by omega
      have hdone : s.times .networkRestart + 1 = (ledger.offline + 1) / 21 := by
        omega
      split
      · next hfailed =>
          refine ⟨by simp [hlast, hfailed], hknows hstate hcnt ?_⟩
          rw [← hdone]
          simp [SystemControl.times, SystemControl.act]
      · next hworked =>
          refine ⟨by simp [hworked], hknows hstate hcnt ?_⟩
          rw [← hdone]
          simp [SystemControl.times, SystemControl.act]
  · next hearly =>
      simp only [SystemControl.act] at hearly
      have hlast : ledger.offline % 21 ≠ 20 := by omega
      refine ⟨by simp [hlast], hknows hstate ?_ ?_⟩
      · simp only [SystemControl.act]
        omega
      · have hsame : s.times .networkRestart = (ledger.offline + 1) / 21 := by
          omega
        rw [← hsame]
        simp [SystemControl.times, SystemControl.act]

theorem checkNetwork_knowsLink {s : SystemControl} {ledger : Ledger}
    (h : KnowsLink s ledger) (restart : RtErr) :
    ((s.checkNetwork restart).2 = true ↔ ¬ ledger.Online ∧
        ledger.offline % 21 = 20 ∧ restart ≠ .eok) ∧
      KnowsLink (s.checkNetwork restart).1
        (ledger.note (.message .oneSec restart)) := by
  cases hstate : s.netState with
  | linkGood =>
      obtain ⟨hflag, hknows⟩ := checkNetwork_of_good h hstate restart
      exact ⟨by simp [hflag, h.link.mp hstate], hknows⟩
  | linkError =>
      obtain ⟨hflag, hknows⟩ := checkNetwork_of_error h hstate restart
      have hoff : ¬ ledger.Online := by
        rw [← h.link, hstate]
        decide
      exact ⟨by simp [hflag, hoff], hknows⟩

structure Keeps (s : SystemControl) (ledger : Ledger) : Prop where
  link : KnowsLink s ledger
  timer : s.timerCnt = ledger.seconds
  dogs : ∀ dog, s.dogs dog = UInt8.ofNat (ledger.feeds dog)
  requests : s.times .requestFeedSoftDogs = ledger.seconds / 20
  periods : s.times .workStateTimePeriod = ledger.seconds / 3600
  feeding : s.times .stopFeeding = 0
  running : s.rebooting = false

theorem checkNetwork_frame (s : SystemControl) (restart : RtErr) :
    (s.checkNetwork restart).1.timerCnt = s.timerCnt ∧
      (s.checkNetwork restart).1.dogs = s.dogs ∧
      (s.checkNetwork restart).1.rebooting = s.rebooting ∧
      ∀ what ∈ [SysctrlAct.requestFeedSoftDogs, .workStateTimePeriod,
        .stopFeeding],
        (s.checkNetwork restart).1.times what = s.times what := by
  rw [SystemControl.checkNetwork]
  cases s.netState with
  | linkGood =>
      simp only
      split <;> simp [SystemControl.act, SystemControl.times]
  | linkError =>
      simp only
      split
      · split <;> simp [SystemControl.act, SystemControl.times]
      · simp [SystemControl.act, SystemControl.times]

theorem checkThreads_eq (s : SystemControl) :
    s.checkThreads = (({ s with dogs := .cleared }).act
      ((checkThreadsAlive s.dogs).2.1.map .addLog),
        decide ((checkThreadsAlive s.dogs).1 ≠ .eok)) := rfl

theorem times_logs (s : SystemControl) (logs : List Bytes) {what : SysctrlAct}
    (hwhat : ∀ text, what ≠ .addLog text) :
    (s.act (logs.map .addLog)).times what = s.times what := by
  rw [SystemControl.times_act, List.count_eq_zero.mpr, Nat.add_zero]
  intro hmem
  obtain ⟨text, _, heq⟩ := List.mem_map.mp hmem
  exact hwhat text heq.symm

theorem checkThreads_frame (s : SystemControl) {what : SysctrlAct}
    (hwhat : ∀ text, what ≠ .addLog text) :
    s.checkThreads.1.times what = s.times what :=
  times_logs { s with dogs := .cleared } _ hwhat

theorem checkThreads_dead {s : SystemControl} {feeds : ThreadsSoftDog → Nat}
    (h : ∀ dog, s.dogs dog = UInt8.ofNat (feeds dog)) :
    s.checkThreads.2 = true ↔ ∃ dog, feeds dog % 256 = 0 := by
  rw [checkThreads_eq]
  simp only [decide_eq_true_eq, ne_eq, checkThreadsAlive_eok_iff, not_forall,
    not_not]
  refine exists_congr fun dog => ?_
  rw [h dog, ← UInt8.toNat_inj]
  simp

theorem tmod_eq_zero_iff (count period : Nat) :
    (count : Int).tmod period = 0 ↔ count % period = 0 := by
  rw [← Int.ofNat_tmod]
  omega

theorem KnowsLink.congr {s after : SystemControl} {ledger : Ledger}
    (h : KnowsLink s ledger) (hstate : after.netState = s.netState)
    (hnoPack : after.networkNoPackTime = s.networkNoPackTime)
    (hreset : after.netResetCnt = s.netResetCnt)
    (htimes : after.times .networkRestart = s.times .networkRestart) :
    KnowsLink after ledger :=
  ⟨by rw [hstate]; exact h.link,
    fun time hle hsome => hnoPack.trans (h.noPack time hle hsome),
    hreset.trans h.reset, htimes.trans h.restarts⟩

theorem KnowsLink.act {s : SystemControl} {ledger : Ledger}
    (h : KnowsLink s ledger) {acts : List SysctrlAct}
    (hacts : acts.count .networkRestart = 0) : KnowsLink (s.act acts) ledger :=
  h.congr rfl rfl rfl (by simp [hacts])

section

variable {s : SystemControl} {count : Nat}

theorem everyTwentySeconds_eq (hcount : s.timerCnt = count) :
    s.everyTwentySeconds =
      s.act (if count % 20 = 0 then [.requestFeedSoftDogs] else []) := by
  have hdue : (count : Int).tmod 20 = 0 ↔ count % 20 = 0 :=
    tmod_eq_zero_iff count 20
  rw [SystemControl.everyTwentySeconds, hcount]
  by_cases h : count % 20 = 0
  · rw [if_pos (hdue.mpr h), if_pos h]
  · rw [if_neg (fun hzero => h (hdue.mp hzero)), if_neg h, s.act_nil]

theorem everyHour_eq (hcount : s.timerCnt = count) :
    s.everyHour =
      s.act (if count % 3600 = 0 then [.workStateTimePeriod] else []) := by
  have hdue : (count : Int).tmod (1 * 60 * 60) = 0 ↔ count % 3600 = 0 :=
    tmod_eq_zero_iff count 3600
  rw [SystemControl.everyHour, hcount]
  by_cases h : count % 3600 = 0
  · rw [if_pos (hdue.mpr h), if_pos h]
  · rw [if_neg (fun hzero => h (hdue.mp hzero)), if_neg h, s.act_nil]

theorem everyMinute_eq (hcount : s.timerCnt = count) :
    s.everyMinute = if count % 60 = 0 then s.checkThreads else (s, false) := by
  have hdue : (count : Int).tmod 60 = 0 ↔ count % 60 = 0 :=
    tmod_eq_zero_iff count 60
  rw [SystemControl.everyMinute, hcount]
  by_cases h : count % 60 = 0
  · rw [if_pos (hdue.mpr h), if_pos h]
  · rw [if_neg (fun hzero => h (hdue.mp hzero)), if_neg h]

theorem everyMinute_frame (s : SystemControl) :
    s.everyMinute.1.timerCnt = s.timerCnt ∧
      s.everyMinute.1.rebooting = s.rebooting ∧
      ∀ what, (∀ text, what ≠ SysctrlAct.addLog text) →
        s.everyMinute.1.times what = s.times what := by
  rw [SystemControl.everyMinute]
  split
  · exact ⟨rfl, rfl, fun what hwhat => checkThreads_frame s hwhat⟩
  · exact ⟨rfl, rfl, fun _ _ => rfl⟩

theorem KnowsLink.everyMinute {ledger : Ledger} (h : KnowsLink s ledger) :
    KnowsLink s.everyMinute.1 ledger := by
  refine h.congr ?_ ?_ ?_ ((everyMinute_frame s).2.2 _ (by simp)) <;>
    rw [SystemControl.everyMinute] <;> split <;> rfl

theorem everyMinute_dogs (hcount : s.timerCnt = count)
    {feeds : ThreadsSoftDog → Nat}
    (hdogs : ∀ dog, s.dogs dog = UInt8.ofNat (feeds dog)) :
    (s.everyMinute.2 = true ↔
        count % 60 = 0 ∧ ∃ dog, feeds dog % 256 = 0) ∧
      ∀ dog, s.everyMinute.1.dogs dog =
        UInt8.ofNat ((if count % 60 = 0 then fun _ => 0 else feeds) dog) := by
  rw [everyMinute_eq hcount]
  by_cases h : count % 60 = 0
  · rw [if_pos h, if_pos h, checkThreads_dead hdogs]
    exact ⟨by simp [h], fun dog => rfl⟩
  · rw [if_neg h, if_neg h]
    exact ⟨by simp [h], hdogs⟩

end

theorem oneSecond_keeps {s : SystemControl} {ledger : Ledger}
    (h : Keeps s ledger) (hseconds : ledger.seconds + 1 < 2 ^ 31)
    (restart : RtErr) :
    ((s.oneSecond restart).2 = true ↔
        ledger.Cause (.message .oneSec restart)) ∧
      Keeps (s.oneSecond restart).1
        (ledger.note (.message .oneSec restart)) := by
  have htimer : s.countSecond.timerCnt = (ledger.seconds + 1 : Nat) := by
    simp only [SystemControl.countSecond, h.timer]
    rw [Int.bmod_eq_of_le (by omega) (by omega)]
    omega
  have hlink : KnowsLink s.countSecond ledger := h.link.congr rfl rfl rfl rfl
  obtain ⟨hfailed, hnetwork⟩ := checkNetwork_knowsLink hlink restart
  obtain ⟨hcnt, hfed, hrunning, hdone⟩ :=
    checkNetwork_frame s.countSecond restart
  rw [SystemControl.oneSecond]
  generalize s.countSecond.checkNetwork restart = checked at *
  obtain ⟨checked, failed⟩ := checked
  simp only at hfailed hnetwork hcnt hfed hrunning hdone ⊢
  have hcount : checked.timerCnt = (ledger.seconds + 1 : Nat) :=
    hcnt.trans htimer
  rw [everyTwentySeconds_eq hcount]
  generalize hasked : checked.act (if (ledger.seconds + 1) % 20 = 0 then
    [.requestFeedSoftDogs] else []) = asked
  have haskedCount : asked.timerCnt = (ledger.seconds + 1 : Nat) := by
    rw [← hasked]
    exact hcount
  obtain ⟨hdead, hdogs⟩ := everyMinute_dogs haskedCount
    (by rw [← hasked]; exact fun dog => hfed ▸ h.dogs dog)
  obtain ⟨hminute, hstill, hkept⟩ := everyMinute_frame asked
  rw [everyHour_eq (hminute.trans haskedCount)]
  have hsame {what : SysctrlAct} (hwhat : what ∈
      [.requestFeedSoftDogs, .workStateTimePeriod, .stopFeeding]) :
      asked.everyMinute.1.times what = s.times what +
        (if (ledger.seconds + 1) % 20 = 0 then
          [SysctrlAct.requestFeedSoftDogs] else []).count what := by
    rw [hkept what (by rintro text rfl; simp at hwhat), ← hasked,
      SystemControl.times_act, hdone what hwhat]
    rfl
  refine ⟨?_, ?_, hminute.trans haskedCount, hdogs, ?_, ?_, ?_, ?_⟩
  · simp only [Bool.or_eq_true, hfailed, hdead]
    rfl
  · refine KnowsLink.act (KnowsLink.everyMinute ?_) (by split <;> rfl)
    rw [← hasked]
    exact hnetwork.act (by split <;> rfl)
  · rw [SystemControl.times_act, hsame (by simp), h.requests]
    simp only [Ledger.note]
    split <;> split <;> simp <;> omega
  · rw [SystemControl.times_act, hsame (by simp), h.periods]
    simp only [Ledger.note]
    split <;> split <;> simp <;> omega
  · rw [SystemControl.times_act, hsame (by simp), h.feeding]
    split <;> split <;> rfl
  · rw [SystemControl.act_rebooting, hstill, ← hasked,
      SystemControl.act_rebooting, hrunning]
    exact h.running

theorem Keeps.addLog {s : SystemControl} {ledger : Ledger}
    (h : Keeps s ledger) (text : Bytes) :
    Keeps (s.act [.addLog text]) ledger := by
  refine ⟨h.link.act rfl, h.timer, h.dogs, ?_, ?_, ?_, h.running⟩
  · rw [SystemControl.times_act, h.requests]
    rfl
  · rw [SystemControl.times_act, h.periods]
    rfl
  · rw [SystemControl.times_act, h.feeding]
    rfl

theorem Keeps.confirm {s : SystemControl} {ledger : Ledger}
    (h : Keeps s ledger) (restart : RtErr) :
    Keeps { s with
        networkNoPackTime := 0
        netState := .linkGood }
      (ledger.note (.message .udpConfirm restart)) := by
  have honline : (ledger.note (.message .udpConfirm restart)).Online :=
    ⟨0, by decide, rfl⟩
  refine ⟨⟨by simp [honline], fun time _ hsome => ?_, h.link.reset,
    h.link.restarts⟩, h.timer, h.dogs, h.requests, h.periods, h.feeding,
    h.running⟩
  exact Option.some.inj hsome

/-- A message is handled as the ledger says, and a cause for a new start is
noticed. -/
theorem handle_keeps {s : SystemControl} {ledger : Ledger}
    (h : Keeps s ledger) {msg : SysctrlMsg} {restart : RtErr}
    (hseconds : (ledger.note (.message msg restart)).seconds < 2 ^ 31) :
    ((s.handle restart msg).2 = true ↔ ledger.Cause (.message msg restart)) ∧
      Keeps (s.handle restart msg).1 (ledger.note (.message msg restart)) := by
  cases msg with
  | oneSec => exact oneSecond_keeps h hseconds restart
  | userReboot =>
      exact ⟨by simp [SystemControl.handle, Ledger.Cause], h.addLog _⟩
  | udpConfirm =>
      rw [SystemControl.handle]
      simp only
      split
      · exact ⟨by simp [Ledger.Cause], (h.confirm restart).addLog _⟩
      · next hgood =>
          refine ⟨by simp [Ledger.Cause], ?_⟩
          have hsame := h.confirm restart
          rw [← not_not.mp hgood] at hsame
          exact hsame
  | other =>
      exact ⟨by simp [SystemControl.handle, Ledger.Cause], h⟩

/-! ## Runs -/

theorem step_keeps {s : SystemControl} {ledger : Ledger} (h : Keeps s ledger)
    {event : SysctrlEvent} (hseconds : (ledger.note event).seconds < 2 ^ 31) :
    (ledger.Cause event → (s.step event).rebooting = true) ∧
      (¬ ledger.Cause event → Keeps (s.step event) (ledger.note event)) := by
  cases event with
  | feed dog =>
      refine ⟨False.elim, fun _ => ⟨⟨h.link.link, h.link.noPack, h.link.reset,
        h.link.restarts⟩, h.timer, fun other => ?_, h.requests, h.periods,
        h.feeding, h.running⟩⟩
      by_cases hother : other = dog
      · simp [SystemControl.step, threadsFeedDog, Ledger.note, hother, h.dogs]
      · simp [SystemControl.step, threadsFeedDog, Ledger.note, hother, h.dogs]
  | message msg restart =>
      obtain ⟨hflag, hkeeps⟩ := handle_keeps h hseconds
      rw [SystemControl.step, h.running, if_neg (by decide),
        SystemControl.round]
      generalize s.handle restart msg = handled at *
      obtain ⟨after, needReboot⟩ := handled
      simp only at hflag hkeeps ⊢
      refine ⟨fun hcause => ?_, fun hcause => ?_⟩
      · rw [if_pos (hflag.mpr hcause)]
        rfl
      · rw [if_neg (fun htrue => hcause (hflag.mp htrue))]
        exact hkeeps

theorem step_rebooting {s : SystemControl} (h : s.rebooting = true)
    (event : SysctrlEvent) : (s.step event).rebooting = true := by
  cases event with
  | feed dog => exact h
  | message msg restart =>
      rw [SystemControl.step, if_pos h]
      exact h

theorem systemControl_concat (events : List SysctrlEvent)
    (event : SysctrlEvent) :
    systemControl (events ++ [event]) = (systemControl events).step event := by
  simp [systemControl]

theorem ledger_concat (events : List SysctrlEvent) (event : SysctrlEvent) :
    ledger (events ++ [event]) = (ledger events).note event := by
  simp [ledger]

theorem note_seconds_le (before : Ledger) (event : SysctrlEvent) :
    before.seconds ≤ (before.note event).seconds := by
  cases event with
  | feed dog => exact Nat.le_refl _
  | message msg restart =>
      cases msg with
      | oneSec => exact Nat.le_succ _
      | userReboot | udpConfirm | other => exact Nat.le_refl _

def NoCause (events : List SysctrlEvent) : Prop :=
  ∀ before event after, events = before ++ event :: after →
    ¬ (ledger before).Cause event

theorem NoCause.init {events : List SysctrlEvent} {event : SysctrlEvent}
    (h : NoCause (events ++ [event])) : NoCause events := by
  intro before cause after heq
  exact h before cause (after ++ [event]) (by simp [heq])

theorem keeps_of_noCause {events : List SysctrlEvent} (h : NoCause events)
    (hseconds : (ledger events).seconds < 2 ^ 31) :
    Keeps (systemControl events) (ledger events) := by
  induction events using List.reverseRecOn with
  | nil =>
      refine ⟨⟨?_, ?_, rfl, rfl⟩, rfl, fun _ => rfl, rfl, rfl, rfl, rfl⟩
      · simp [systemControl, ledger, Ledger.Online]
      · simp [ledger]
  | append_singleton events event ih =>
      rw [ledger_concat] at hseconds ⊢
      rw [systemControl_concat]
      have hle := note_seconds_le (ledger events) event
      have hkeeps := ih h.init (by omega)
      exact (step_keeps hkeeps hseconds).2 (h events event [] rfl)

theorem NoCause.concat {events : List SysctrlEvent} {event : SysctrlEvent}
    (h : NoCause events) (hevent : ¬ (ledger events).Cause event) :
    NoCause (events ++ [event]) := by
  intro before cause after heq
  rcases List.eq_nil_or_concat after with rfl | ⟨rest, last, rfl⟩
  · obtain ⟨rfl, hlast⟩ := List.append_inj' heq rfl
    cases hlast
    exact hevent
  · rw [List.concat_eq_append, ← List.cons_append, ← List.append_assoc] at heq
    exact h before cause rest (List.append_inj' heq rfl).1

theorem rebooting_iff {events : List SysctrlEvent}
    (hseconds : (ledger events).seconds < 2 ^ 31) :
    (systemControl events).rebooting = true ↔ ¬ NoCause events := by
  induction events using List.reverseRecOn with
  | nil =>
      have hnone : NoCause [] := fun before event after heq => by simp at heq
      simp [hnone, systemControl]
  | append_singleton events event ih =>
      rw [ledger_concat] at hseconds
      have hle := note_seconds_le (ledger events) event
      rw [systemControl_concat]
      by_cases hnone : NoCause events
      · have hkeeps := keeps_of_noCause hnone (by omega)
        obtain ⟨hreboots, hgoes⟩ := step_keeps hkeeps hseconds
        by_cases hcause : (ledger events).Cause event
        · simp only [hreboots hcause, true_iff]
          exact fun hnone => hnone events event [] rfl hcause
        · simp [(hgoes hcause).running, hnone.concat hcause]
      · have hrebooting := (ih (by omega)).mpr hnone
        simp only [step_rebooting hrebooting event, true_iff]
        exact fun hlater => hnone hlater.init

/-- The device starts again exactly when there is a cause: the user's command,
a network that does not come up when it is started again, or a minute in which
a thread has not fed its soft dog (or a multiple of 256 times). -/
theorem reboots_exactly_for_cause {events : List SysctrlEvent}
    (hseconds : (ledger events).seconds < 2 ^ 31) :
    (systemControl events).rebooting = true ↔
      ∃ before event after, events = before ++ event :: after ∧
        (ledger before).Cause event := by
  rw [rebooting_iff hseconds, NoCause]
  simp only [not_forall, not_not, exists_prop]

def silentMinute : List SysctrlEvent :=
  List.replicate 60 (.message .oneSec .eok)

theorem reboots_exactly_for_cause_silent_minute :
    (systemControl silentMinute).rebooting = true ∧
      ∃ before event after, silentMinute = before ++ event :: after ∧
        (ledger before).Cause event := by
  have hrebooting : (systemControl silentMinute).rebooting = true := by
    decide +kernel
  exact ⟨hrebooting,
    (reboots_exactly_for_cause (by decide +kernel)).mp hrebooting⟩

/-- As long as there is no new start, the thread holds the link for good
exactly while the server has confirmed within 120 seconds, starts the network
again at every twenty-first second without a link, asks for feeds every twenty
seconds and writes the work state every hour. -/
theorem link_follows_confirmations {events : List SysctrlEvent}
    (hseconds : (ledger events).seconds < 2 ^ 31)
    (hrunning : (systemControl events).rebooting = false) :
    ((systemControl events).netState = .linkGood ↔
        ∃ time ≤ 120, (ledger events).unconfirmed = some time) ∧
      (systemControl events).times .networkRestart =
        (ledger events).offline / 21 ∧
      (systemControl events).times .requestFeedSoftDogs =
        (ledger events).seconds / 20 ∧
      (systemControl events).times .workStateTimePeriod =
        (ledger events).seconds / 3600 ∧
      (systemControl events).times .stopFeeding = 0 := by
  have hnone : NoCause events := by
    by_contra hcause
    rw [(rebooting_iff hseconds).mpr hcause] at hrunning
    cases hrunning
  have h := keeps_of_noCause hnone hseconds
  exact ⟨h.link.link, h.link.restarts, h.requests, h.periods, h.feeding⟩

/-- Three minutes in which all threads feed and the server confirms only at
their beginning. -/
def lonelyMinutes : List SysctrlEvent :=
  .message .udpConfirm .eok :: (List.replicate 3
    (ThreadsSoftDog.all.map .feed ++
      List.replicate 60 (.message .oneSec .eok))).flatten

theorem link_follows_confirmations_in_lonely_minutes :
    (systemControl lonelyMinutes).netState ≠ .linkGood ∧
      (systemControl lonelyMinutes).times .networkRestart = 2 ∧
      (systemControl lonelyMinutes).times .requestFeedSoftDogs = 9 ∧
      (systemControl lonelyMinutes).times .workStateTimePeriod = 0 ∧
      (systemControl lonelyMinutes).times .stopFeeding = 0 := by
  have hledger : (ledger lonelyMinutes).unconfirmed = some 180 ∧
      (ledger lonelyMinutes).offline = 59 ∧
      (ledger lonelyMinutes).seconds = 180 := by
    decide +kernel
  obtain ⟨hunconfirmed, hoffline, hseconds⟩ := hledger
  obtain ⟨hlink, hrestarts, hrequests, hperiods, hfeeding⟩ :=
    @link_follows_confirmations lonelyMinutes (by rw [hseconds]; decide)
      (by decide +kernel)
  rw [hunconfirmed] at hlink
  rw [hoffline] at hrestarts
  rw [hseconds] at hrequests hperiods
  refine ⟨fun hgood => ?_, hrestarts, hrequests, hperiods, hfeeding⟩
  obtain ⟨time, htime, hsame⟩ := hlink.mp hgood
  cases hsame
  exact absurd htime (by decide)

/-! ## Threads that do not feed -/

theorem checks_le_feeds {before stretch : List SysctrlEvent}
    {dog : ThreadsSoftDog} (h : NoCause (before ++ stretch)) :
    (ledger (before ++ stretch)).seconds / 60 ≤
        (ledger before).seconds / 60 ∨
      (ledger (before ++ stretch)).seconds / 60 +
          (if (ledger (before ++ stretch)).feeds dog = 0 then 0 else 1) ≤
        (ledger before).seconds / 60 + 1 + stretch.count (.feed dog) := by
  induction stretch using List.reverseRecOn with
  | nil => simp
  | append_singleton stretch event ih =>
      rw [← List.append_assoc] at h ⊢
      rw [ledger_concat, List.count_append]
      have hevent := h (before ++ stretch) event [] (by simp)
      have hbefore := ih h.init
      generalize ledger (before ++ stretch) = reached at *
      cases event with
      | feed other =>
          by_cases hother : dog = other
          · subst hother
            simp only [Ledger.note, if_pos, List.count_singleton_self]
            split at hbefore <;> simp <;> omega
          · have hcount : [SysctrlEvent.feed other].count (.feed dog) = 0 := by
              simp [Ne.symm hother]
            simpa [Ledger.note, hother, hcount] using hbefore
      | message msg restart =>
          have hcount : [SysctrlEvent.message msg restart].count
              (.feed dog) = 0 := by
            simp
          rw [hcount]
          cases msg with
          | oneSec =>
              have hseconds : (reached.note (.message .oneSec
                  restart)).seconds = reached.seconds + 1 := rfl
              by_cases hcheck : (reached.seconds + 1) % 60 = 0
              · -- the check has found a feed
                have hfed : reached.feeds dog ≠ 0 := by
                  intro hzero
                  exact hevent (.inr ⟨hcheck, dog, by rw [hzero]⟩)
                have hcleared : (reached.note (.message .oneSec
                    restart)).feeds dog = 0 := by
                  simp [Ledger.note, hcheck]
                rw [if_neg hfed] at hbefore
                rw [hseconds, if_pos hcleared]
                omega
              · have hkept : (reached.note (.message .oneSec
                    restart)).feeds dog = reached.feeds dog := by
                  simp [Ledger.note, hcheck]
                have hsame : (reached.seconds + 1) / 60 =
                    reached.seconds / 60 := by omega
                simp only [hseconds, hsame, hkept]
                exact hbefore
          | userReboot | udpConfirm | other => exact hbefore

/-- A thread that feeds `n` times gets the device through at most `n + 1`
checks. -/
theorem starving_thread_reboots {before stretch : List SysctrlEvent}
    {dog : ThreadsSoftDog}
    (hseconds : (ledger (before ++ stretch)).seconds < 2 ^ 31)
    (hlong : (ledger before).seconds + 60 * (stretch.count (.feed dog) + 2) ≤
      (ledger (before ++ stretch)).seconds) :
    (systemControl (before ++ stretch)).rebooting = true := by
  rw [rebooting_iff hseconds]
  intro hnone
  have hchecks := @checks_le_feeds before stretch dog hnone
  split at hchecks <;> omega

theorem starving_thread_reboots_after_two_minutes :
    (systemControl ([.feed .loraRecvDog] ++
      List.replicate 120 (.message .oneSec .eok))).rebooting = true :=
  @starving_thread_reboots [.feed .loraRecvDog]
    (List.replicate 120 (.message .oneSec .eok)) .loraRecvDog
    (by decide +kernel) (by decide +kernel)

end WncFirmware.Sysctrl
