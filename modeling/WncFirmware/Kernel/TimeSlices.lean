import Mathlib.Algebra.Order.BigOperators.Group.List
import Mathlib.Data.List.TakeWhile
import WncFirmware.Kernel.SchedulerRuns

/-!
# Time slices

A thread that is ready waits behind others of its priority.  Whatever happens
meanwhile, those ahead of it run for no longer than their slices.
-/

namespace WncFirmware.Kernel

open WncFirmware.Foundation

variable {Thread : Type} [DecidableEq Thread]

/-! ## The threads ahead -/

def ahead (t : Thread) (list : List Thread) : List Thread :=
  list.takeWhile (· ≠ t)

theorem ahead_cons (t first : Thread) (rest : List Thread) :
    ahead t (first :: rest) = if first = t then [] else first :: ahead t rest := by
  by_cases h : first = t <;> simp [ahead, h]

theorem ahead_erase {t u : Thread} (hu : u ≠ t) (list : List Thread) :
    ahead t (list.erase u) = (ahead t list).erase u := by
  induction list with
  | nil => rfl
  | cons first rest ih =>
      by_cases hfirst : first = u
      · subst hfirst
        simp [ahead_cons, hu]
      · rw [List.erase_cons_tail (by simpa using hfirst)]
        by_cases ht : first = t
        · simp [ahead_cons, ht]
        · simp [ahead_cons, ht, hfirst, ih]

theorem ahead_append {t : Thread} {list : List Thread} (ht : t ∈ list)
    (others : List Thread) : ahead t (list ++ others) = ahead t list := by
  induction list with
  | nil => simp at ht
  | cons first rest ih =>
      by_cases hfirst : first = t
      · simp [ahead_cons, hfirst]
      · have hrest : t ∈ rest :=
          (List.mem_cons.mp ht).resolve_left (Ne.symm hfirst)
        simp [ahead_cons, hfirst, ih hrest]

theorem eq_cons_of_ahead_eq_nil {t : Thread} {list : List Thread}
    (ht : t ∈ list) (h : ahead t list = []) : ∃ rest, list = t :: rest := by
  cases list with
  | nil => simp at ht
  | cons first rest =>
      by_cases hfirst : first = t
      · exact ⟨rest, by rw [hfirst]⟩
      · simp [ahead_cons, hfirst] at h

theorem mem_of_mem_ahead {t u : Thread} {list : List Thread}
    (h : u ∈ ahead t list) : u ∈ list ∧ u ≠ t :=
  ⟨List.takeWhile_subset _ h, by simpa using List.mem_takeWhile_imp h⟩

def slices (s : Scheduler Thread) (list : List Thread) : Nat :=
  (list.map fun u => (s.thread u).remainingTick.toNat).sum

def waitingTime (s : Scheduler Thread) (t : Thread) : Nat :=
  slices s (ahead t (s.lists (s.thread t).currentPriority))

/-! ## One step -/

variable {priorityMax : Nat} {idle t u : Thread} {s next : Scheduler Thread}

structure Behind (t : Thread) (s next : Scheduler Thread) : Prop where
  record : next.thread t = s.thread t
  place : t ∈ s.lists (s.thread t).currentPriority →
    t ∈ next.lists (s.thread t).currentPriority ∧
      (ahead t (next.lists (s.thread t).currentPriority)).Sublist
        (ahead t (s.lists (s.thread t).currentPriority))

namespace Behind

theorem of_same (hthread : next.thread = s.thread)
    (hlists : next.lists = s.lists) : Behind t s next :=
  ⟨by rw [hthread], fun hmem => by rw [hlists]; exact ⟨hmem, .refl _⟩⟩

theorem trans {later : Scheduler Thread} (h : Behind t s next)
    (hlater : Behind t next later) : Behind t s later := by
  refine ⟨hlater.record.trans h.record, fun hmem => ?_⟩
  obtain ⟨hnext, hfirst⟩ := h.place hmem
  have hplace := hlater.place
  rw [h.record] at hplace
  exact ⟨(hplace hnext).1, (hplace hnext).2.trans hfirst⟩

theorem setThread (hu : u ≠ t) (record : ThreadRecord) :
    Behind t s (s.setThread u record) :=
  ⟨by simp [Ne.symm hu], fun hmem => ⟨hmem, .refl _⟩⟩

theorem unlink (hu : u ≠ t) : Behind t s (s.unlink u) := by
  refine ⟨rfl, fun hmem => ⟨?_, ?_⟩⟩
  · exact (List.mem_erase_of_ne (Ne.symm hu)).mpr hmem
  · simp only [Scheduler.unlink, ahead_erase hu]
    exact List.erase_sublist

theorem linkLast (priority : Nat) : Behind t s (s.linkLast priority u) := by
  refine ⟨rfl, fun hmem => ?_⟩
  by_cases hpriority : (s.thread t).currentPriority = priority
  · subst hpriority
    simp only [Scheduler.linkLast, Function.update_self]
    rw [ahead_append hmem]
    exact ⟨List.mem_append_left _ hmem, .refl _⟩
  · simp only [Scheduler.linkLast, Function.update_of_ne hpriority]
    exact ⟨hmem, .refl _⟩

theorem insert (hu : u ≠ t) :
    Behind t s (s.rtScheduleInsertThread priorityMax u) :=
  ((setThread hu _).trans (linkLast _)).trans (of_same rfl rfl)

theorem remove (hu : u ≠ t) :
    Behind t s (s.rtScheduleRemoveThread priorityMax u) := by
  rw [Scheduler.rtScheduleRemoveThread]
  by_cases hrest : (s.unlink u).lists (s.thread u).currentPriority = []
  · rw [if_pos hrest]
    exact (unlink hu).trans (of_same rfl rfl)
  · rw [if_neg hrest]
    exact unlink hu

theorem timeout (hu : u ≠ t) :
    Behind t s (s.rtThreadTimeout priorityMax u) :=
  (unlink hu).trans (insert hu)

theorem setPhase (h : Behind t s next) (u : Thread) (phase : CallPhase) :
    Behind t s (next.setPhase u phase) :=
  h.trans (of_same rfl rfl)

theorem suspend (hu : u ≠ t) :
    Behind t s (s.suspendSection priorityMax u) :=
  (setThread hu _).trans (remove hu)

theorem exit (hu : u ≠ t) :
    Behind t s ((s.rtScheduleRemoveThread priorityMax u).setStat u .close) :=
  (remove hu).trans (setThread hu _)

theorem control (hu : u ≠ t) (priority : Nat) :
    Behind t s (s.rtThreadControl priorityMax u priority) := by
  rw [Scheduler.rtThreadControl]
  split
  · exact ((remove hu).trans (setThread hu _)).trans (insert hu)
  · exact setThread hu _

theorem yield (ht : s.current ≠ some t)
    (h : s.rtThreadYield = some next) : Behind t s next := by
  obtain ⟨u, hcurrent, ⟨_, _, rfl⟩ | ⟨_, rfl⟩⟩ :=
    Scheduler.rtThreadYield_cases h
  · have hu : u ≠ t := by
      rintro rfl
      exact ht hcurrent
    exact (unlink hu).trans (linkLast _)
  · exact of_same rfl rfl

end Behind

/-- The thread is not taken out of its list by others, it does not run, and no
interrupt comes into a tick. -/
def WaitsReady (priorityMax : Nat) (idle t : Thread) (s : Scheduler Thread)
    (input : SchedStep Thread) : Prop :=
  Promised priorityMax idle s input ∧ s.current ≠ some t ∧
    match input with
    | .suspend u | .changePriority u _ => u ≠ t
    | .charge _ => False
    | _ => True

instance (priorityMax : Nat) (idle t : Thread) (s : Scheduler Thread)
    (input : SchedStep Thread) : Decidable (WaitsReady priorityMax idle t s input) :=
  match input with
  | .suspend _ | .changePriority _ _ =>
      inferInstanceAs (Decidable (_ ∧ _ ∧ _ ≠ _))
  | .charge _ => inferInstanceAs (Decidable (_ ∧ _ ∧ False))
  | .startup _ | .startupStat _ | .start | .schedule | .resume _
  | .resumeInsert _ | .timeout _ | .exit | .yield | .tick | .enterCritical
  | .exitCritical =>
      inferInstanceAs (Decidable (_ ∧ _ ∧ True))

theorem Behind.step {input : SchedStep Thread} (hinput : input ≠ .tick)
    (h : Queued priorityMax idle s) (hready : (s.thread t).stat = .ready)
    (hwaits : WaitsReady priorityMax idle t s input)
    (hstep : s.step priorityMax input = some next) : Behind t s next := by
  obtain ⟨hpromised, hcurrent, huntouched⟩ := hwaits
  -- a thread that is ready is not about to become so
  have hmoving (u : Thread) (hu : s.phase u ≠ .outside) : u ≠ t := by
    rintro rfl
    exact (h.fit u).moving hu hready
  cases input with
  | startup u =>
      cases hstep
      refine (Behind.setThread ?_ _).setPhase u _
      rintro rfl
      simp [Promised, hready] at hpromised
  | startupStat u =>
      cases hstep
      refine (Behind.setThread (hmoving u ?_) _).setPhase u _
      simp [show s.phase u = _ from hpromised]
  | start =>
      obtain ⟨⟨_, u⟩, _, hstep⟩ := Option.bind_eq_some_iff.mp hstep
      cases hstep
      exact Behind.of_same rfl rfl
  | schedule =>
      obtain ⟨hthread, hlists, _⟩ := Scheduler.rtSchedule_same hstep
      exact Behind.of_same hthread hlists
  | suspend u =>
      cases hstep
      exact Behind.suspend huntouched
  | resume u =>
      cases hstep
      refine (Behind.unlink ?_).setPhase u _
      rintro rfl
      simp [Promised, hready] at hpromised
  | resumeInsert u =>
      cases hstep
      refine (Behind.insert (hmoving u ?_)).setPhase u _
      simp [show s.phase u = _ from hpromised]
  | timeout u =>
      cases hstep
      refine Behind.timeout ?_
      rintro rfl
      simp [Promised, hready] at hpromised
  | changePriority u priority =>
      cases hstep
      exact Behind.control huntouched priority
  | exit =>
      obtain ⟨u, hu, hstep⟩ := Option.bind_eq_some_iff.mp hstep
      cases hstep
      refine Behind.exit ?_
      rintro rfl
      exact hcurrent hu
  | yield => exact Behind.yield hcurrent hstep
  | tick => exact absurd rfl hinput
  | charge u => exact huntouched.elim
  | enterCritical =>
      cases hstep
      exact Behind.of_same rfl rfl
  | exitCritical =>
      cases hstep
      exact Behind.of_same rfl rfl

/-! ## Slices -/

omit [DecidableEq Thread] in
theorem slices_congr {list : List Thread}
    (h : ∀ u ∈ list, (next.thread u).remainingTick =
      (s.thread u).remainingTick) : slices next list = slices s list := by
  rw [slices, slices, List.map_congr_left fun u hu => by rw [h u hu]]

theorem slices_erase {list : List Thread} (h : u ∈ list) :
    slices s list =
      (s.thread u).remainingTick.toNat + slices s (list.erase u) :=
  ((List.perm_cons_erase h).map _).sum_nat

omit [DecidableEq Thread] in
theorem slices_le_of_sublist {few many : List Thread} (h : few.Sublist many) :
    slices s few ≤ slices s many :=
  (h.map _).sum_le_sum fun _ _ => Nat.zero_le _

def Sliced (s : Scheduler Thread) : Prop :=
  ∀ u, (s.thread u).initTick ≠ 0 ∧ (s.thread u).remainingTick ≠ 0

theorem step_ticks {input : SchedStep Thread} (hinput : input ≠ .tick)
    (hcharge : ∀ u, input ≠ .charge u)
    (hstep : s.step priorityMax input = some next) (u : Thread) :
    (next.thread u).initTick = (s.thread u).initTick ∧
      (next.thread u).remainingTick = (s.thread u).remainingTick := by
  cases input with
  | startup t =>
      cases hstep
      by_cases hu : u = t <;> simp [Scheduler.startupPriority, hu]
  | startupStat t =>
      cases hstep
      by_cases hu : u = t <;> simp [hu]
  | start =>
      obtain ⟨⟨_, t⟩, _, hstep⟩ := Option.bind_eq_some_iff.mp hstep
      cases hstep
      exact ⟨rfl, rfl⟩
  | schedule =>
      rw [(Scheduler.rtSchedule_same hstep).1]
      exact ⟨rfl, rfl⟩
  | suspend t =>
      cases hstep
      by_cases hu : u = t <;> simp [Scheduler.suspendSection, hu]
  | resume t =>
      cases hstep
      exact ⟨rfl, rfl⟩
  | resumeInsert t =>
      cases hstep
      by_cases hu : u = t <;> simp [hu]
  | timeout t =>
      cases hstep
      by_cases hu : u = t <;> simp [Scheduler.rtThreadTimeout, hu]
  | changePriority t priority =>
      cases hstep
      rw [Scheduler.rtThreadControl]
      split <;> by_cases hu : u = t <;> simp [hu]
  | exit =>
      obtain ⟨t, _, hstep⟩ := Option.bind_eq_some_iff.mp hstep
      cases hstep
      by_cases hu : u = t <;> simp [hu]
  | yield =>
      obtain ⟨t, _, ⟨_, _, rfl⟩ | ⟨_, rfl⟩⟩ :=
        Scheduler.rtThreadYield_cases hstep
      · exact ⟨rfl, rfl⟩
      · exact ⟨rfl, rfl⟩
  | tick => exact absurd rfl hinput
  | charge t => exact absurd rfl (hcharge t)
  | enterCritical =>
      cases hstep
      exact ⟨rfl, rfl⟩
  | exitCritical =>
      cases hstep
      exact ⟨rfl, rfl⟩

theorem Sliced.setRemaining (h : Sliced s) {ticks : BitVec 32}
    (hticks : ticks ≠ 0) :
    Sliced (s.setThread t { s.thread t with remainingTick := ticks }) := by
  intro u
  by_cases hu : u = t
  · subst hu
    simpa using ⟨(h u).1, hticks⟩
  · simpa [hu] using h u

omit [DecidableEq Thread] in
theorem Sliced.of_ticks (h : Sliced s)
    (hticks : ∀ u, (next.thread u).initTick = (s.thread u).initTick ∧
      (next.thread u).remainingTick = (s.thread u).remainingTick) :
    Sliced next := by
  intro u
  rw [(hticks u).1, (hticks u).2]
  exact h u

theorem Sliced.charge (h : Sliced s) (t : Thread) :
    Sliced (s.chargeTick t) := by
  refine h.setRemaining ?_
  split
  · exact (h t).1
  · next hleft => exact hleft

theorem Sliced.step (h : Sliced s) {input : SchedStep Thread}
    (hstep : s.step priorityMax input = some next) : Sliced next := by
  by_cases hcharge : ∃ t, input = .charge t
  · obtain ⟨t, rfl⟩ := hcharge
    cases hstep
    exact h.charge t
  by_cases hinput : input = .tick
  · subst hinput
    obtain ⟨t, _, ⟨_, hyield⟩ | ⟨hleft, rfl⟩⟩ :=
      Scheduler.rtTickIncrease_cases hstep
    · exact (h.setRemaining (h t).1).of_ticks
        (@step_ticks _ _ priorityMax _ _ .yield (by simp) (by simp) hyield)
    · exact h.setRemaining hleft
  · exact h.of_ticks (step_ticks hinput (not_exists.mp hcharge) hstep)

omit [DecidableEq Thread] in
theorem Queued.mem_own_list (h : Queued priorityMax idle s)
    (hready : (s.thread t).stat = .ready) :
    t ∈ s.lists (s.thread t).currentPriority :=
  (h.linkage.mem_iff t _).mpr ⟨hready, rfl⟩

theorem Queued.ahead_nodup (h : Queued priorityMax idle s) (t : Thread) :
    (ahead t (s.lists (s.thread t).currentPriority)).Nodup :=
  (h.linkage.nodup _).sublist (List.takeWhile_sublist _)

theorem ahead_rotate (hu : u ≠ t)
    (ht : t ∈ s.lists (s.thread t).currentPriority) (priority : Nat) :
    ahead t (((s.unlink u).linkLast priority u).lists
        (s.thread t).currentPriority) =
      (ahead t (s.lists (s.thread t).currentPriority)).erase u := by
  have hleft : t ∈ (s.lists (s.thread t).currentPriority).erase u :=
    (List.mem_erase_of_ne (Ne.symm hu)).mpr ht
  by_cases hpriority : (s.thread t).currentPriority = priority
  · subst hpriority
    simp only [Scheduler.linkLast, Scheduler.unlink, Function.update_self]
    rw [ahead_append hleft, ahead_erase hu]
  · simp only [Scheduler.linkLast, Scheduler.unlink,
      Function.update_of_ne hpriority]
    rw [ahead_erase hu]

/-- What a tick writes: the slice of the running thread, and its place when
the slice is used up. -/
theorem rtTickIncrease_fields (h : s.rtTickIncrease = some next) :
    ∃ u ticks, s.current = some u ∧
      next.thread = Function.update s.thread u
        { s.thread u with remainingTick := ticks } ∧
      ((s.thread u).remainingTick - 1 = 0 ∧
          ((s.thread u).stat = .ready ∧ next.lists =
              ((s.unlink u).linkLast (s.thread u).currentPriority u).lists ∨
            ¬ ((s.thread u).stat = .ready ∧
              s.lists (s.thread u).currentPriority ≠ [u]) ∧
              next.lists = s.lists) ∨
        ticks = (s.thread u).remainingTick - 1 ∧ next.lists = s.lists) := by
  obtain ⟨u, hcurrent, ⟨hzero, hyield⟩ | ⟨_, rfl⟩⟩ :=
    Scheduler.rtTickIncrease_cases h
  · obtain ⟨same, hsame, hyielded⟩ := Scheduler.rtThreadYield_cases hyield
    obtain rfl : same = u := Option.some.inj (hsame.symm.trans hcurrent)
    refine ⟨same, (s.thread same).initTick, hcurrent, ?_⟩
    obtain ⟨hready, _, rfl⟩ | ⟨hstays, rfl⟩ := hyielded
    · refine ⟨rfl, .inl ⟨hzero, .inl ⟨by simpa using hready, ?_⟩⟩⟩
      simp [Scheduler.setThread, Scheduler.unlink, Scheduler.linkLast]
    · refine ⟨rfl, .inl ⟨hzero, .inr ⟨?_, rfl⟩⟩⟩
      simpa [Scheduler.setThread] using hstays
  · exact ⟨u, _, hcurrent, rfl, .inr ⟨rfl, rfl⟩⟩

theorem tick_waitingTime (h : Queued priorityMax idle s)
    (hready : (s.thread t).stat = .ready) (hcurrent : s.current = some u)
    (hu : u ≠ t) (hsliced : Sliced s)
    (htick : s.rtTickIncrease = some next) :
    next.thread t = s.thread t ∧
      (if u ∈ ahead t (s.lists (s.thread t).currentPriority) then 1 else 0) +
        waitingTime next t ≤ waitingTime s t := by
  obtain ⟨running, ticks, hrunning, hthread, hcases⟩ :=
    rtTickIncrease_fields htick
  obtain rfl : running = u := Option.some.inj (hrunning.symm.trans hcurrent)
  have ht := h.mem_own_list hready
  have hslice := (hsliced running).2
  have hnext : next.thread t = s.thread t := by
    rw [hthread, Function.update_of_ne (Ne.symm hu)]
  -- who is not the running thread is charged nothing
  have hcharged {list : List Thread} (hlist : running ∉ list) :
      slices next list = slices s list := by
    refine slices_congr fun other hother => ?_
    rw [hthread, Function.update_of_ne]
    rintro rfl
    exact hlist hother
  have herased :
      running ∉ (ahead t (s.lists (s.thread t).currentPriority)).erase running :=
    (h.ahead_nodup t).not_mem_erase
  refine ⟨hnext, ?_⟩
  rw [waitingTime, waitingTime, hnext]
  obtain ⟨hzero, ⟨_, hlists⟩ | ⟨hstays, hlists⟩⟩ | ⟨hticks, hlists⟩ := hcases
  · have hone : (s.thread running).remainingTick.toNat = 1 := by bv_omega
    rw [hlists, ahead_rotate hu ht, hcharged herased]
    split
    · next hmem =>
        rw [slices_erase hmem, hone]
    · next hmem =>
        rw [List.erase_of_not_mem hmem, Nat.zero_add]
  · -- the thread is not alone in its list if it is ahead of another
    have hmem : running ∉ ahead t (s.lists (s.thread t).currentPriority) := by
      intro hmem
      have hrunningMem := (mem_of_mem_ahead hmem).1
      obtain ⟨hstat, hpriority⟩ := (h.linkage.mem_iff running _).mp hrunningMem
      refine hstays ⟨hstat, fun halone => hu ?_⟩
      rw [hpriority] at halone
      rw [halone, List.mem_singleton] at ht
      exact ht.symm
    rw [hlists, if_neg hmem, hcharged hmem, Nat.zero_add]
  · rw [hlists]
    split
    · next hmem =>
        have hself : (next.thread running).remainingTick.toNat + 1 =
            (s.thread running).remainingTick.toNat := by
          rw [hthread, Function.update_self, hticks]
          bv_omega
        have hbefore : slices s (ahead t (s.lists
            (s.thread t).currentPriority)) = _ := slices_erase hmem
        have hafter : slices next (ahead t (s.lists
            (s.thread t).currentPriority)) = _ := slices_erase hmem
        rw [hbefore, hafter, hcharged herased]
        omega
    · next hmem => rw [hcharged hmem, Nat.zero_add]

/-! ## Runs -/

def ticksAhead (t : Thread) (s : Scheduler Thread) : SchedStep Thread → Nat
  | .tick =>
      match s.current with
      | some u =>
          if u ∈ ahead t (s.lists (s.thread t).currentPriority) then 1 else 0
      | none => 0
  | _ => 0

theorem ticksAhead_of_ne_tick {input : SchedStep Thread}
    (h : input ≠ .tick) : ticksAhead t s input = 0 := by
  cases input <;> first | rfl | exact absurd rfl h

def servedStep (priorityMax : Nat) (t : Thread) (state : Scheduler Thread × Nat)
    (input : SchedStep Thread) : Option (Scheduler Thread × Nat) :=
  (state.1.step priorityMax input).map fun next =>
    (next, state.2 + ticksAhead t state.1 input)

theorem waitingTime_step (h : Queued priorityMax idle s)
    (hready : (s.thread t).stat = .ready) (hsliced : Sliced s)
    {input : SchedStep Thread} (hwaits : WaitsReady priorityMax idle t s input)
    {served after : Nat}
    (hstep : servedStep priorityMax t (s, served) input = some (next, after)) :
    next.thread t = s.thread t ∧
      after + waitingTime next t ≤ served + waitingTime s t := by
  obtain ⟨reached, hreached, heq⟩ := Option.map_eq_some_iff.mp hstep
  cases heq
  simp only at hreached ⊢
  by_cases hinput : input = .tick
  · subst hinput
    obtain ⟨u, _, hcurrent, _⟩ := rtTickIncrease_fields hreached
    have hu : u ≠ t := by
      rintro rfl
      exact hwaits.2.1 hcurrent
    obtain ⟨hrecord, hwaiting⟩ :=
      tick_waitingTime h hready hcurrent hu hsliced hreached
    refine ⟨hrecord, ?_⟩
    simp only [ticksAhead, hcurrent]
    omega
  · have hbehind := Behind.step hinput h hready hwaits hreached
    have hcharge (u : Thread) : input ≠ .charge u := by
      rintro rfl
      exact hwaits.2.2
    refine ⟨hbehind.record, ?_⟩
    have hticks : slices next
          (ahead t (next.lists (s.thread t).currentPriority)) =
        slices s (ahead t (next.lists (s.thread t).currentPriority)) :=
      slices_congr fun u _ => (step_ticks hinput hcharge hreached u).2
    have hfewer := slices_le_of_sublist (s := s)
      (hbehind.place (h.mem_own_list hready)).2
    rw [waitingTime, waitingTime, hbehind.record, hticks,
      ticksAhead_of_ne_tick hinput]
    omega

theorem ahead_eq_nil_of_waitingTime (h : Sliced s)
    (hzero : waitingTime s t = 0) :
    ahead t (s.lists (s.thread t).currentPriority) = [] := by
  rw [waitingTime] at hzero
  cases hahead : ahead t (s.lists (s.thread t).currentPriority) with
  | nil => rfl
  | cons u rest =>
      have hslice := (h u).2
      rw [hahead, slices, List.map_cons, List.sum_cons] at hzero
      bv_omega

theorem Sliced.boot {priority : Thread → Nat} {tick : Thread → BitVec 32}
    (htick : ∀ u, tick u ≠ 0) :
    Sliced (Scheduler.boot priorityMax idle priority tick) := by
  have hinit : Sliced (rtSystemSchedulerInit priorityMax
      (initRecords priorityMax idle priority tick)) := by
    intro u
    simp only [rtSystemSchedulerInit, initRecords]
    split
    · simp [rtThreadInit]
    · simpa [rtThreadInit] using htick u
  refine hinit.of_ticks fun u => ?_
  rw [Scheduler.boot, Scheduler.rtThreadStartup, Scheduler.rtThreadResume,
    if_neg (by simp)]
  by_cases hu : u = idle <;> simp [Scheduler.startupPriority, hu]

/-- While a ready thread waits, the threads ahead of it in the list of its
priority run for no more ticks than they have left of their slices.  Once they
have had them, the next unlocked `rt_schedule()` goes to the thread unless
somebody more urgent is ready. -/
theorem slices_bound_the_wait {priority : Thread → Nat}
    {tick : Thread → BitVec 32} (hmin : 0 < priorityMax)
    (hmax : priorityMax ≤ 256) (hpriority : ∀ u, priority u < priorityMax)
    (htick : ∀ u, tick u ≠ 0) {earlier steps : List (SchedStep Thread)}
    (before : Run (Scheduler.step priorityMax) (Promised priorityMax idle)
      (Scheduler.boot priorityMax idle priority tick) earlier s)
    (hready : (s.thread t).stat = .ready) {served : Nat}
    (run : Run (servedStep priorityMax t)
      (fun state => WaitsReady priorityMax idle t state.1) (s, 0) steps
      (next, served)) :
    served + waitingTime next t ≤ waitingTime s t ∧
      next.thread t = s.thread t ∧
      (served = waitingTime s t → next.lockNest = 0 →
        (∀ u, (next.thread u).stat = .ready →
          (next.thread t).currentPriority ≤
            (next.thread u).currentPriority) →
        ∀ running, next.current = some running →
          ∃ later, next.rtSchedule priorityMax = some later ∧
            later.current = some t) := by
  have hstart : Queued priorityMax idle s ∧ Sliced s :=
    @Run.invariant _ _ _ _ (fun state =>
      Queued priorityMax idle state ∧ Sliced state)
      (fun state input after hstate hpromised hstep =>
        ⟨hstate.1.step hmax hpromised hstep, hstate.2.step hstep⟩)
      _ _ _ before ⟨Queued.boot hmin hmax hpriority, Sliced.boot htick⟩
  have hfinal : (Queued priorityMax idle next ∧ Sliced next) ∧
      next.thread t = s.thread t ∧
      served + waitingTime next t ≤ waitingTime s t :=
    @Run.invariant _ _ _ _ (fun state =>
      (Queued priorityMax idle state.1 ∧ Sliced state.1) ∧
        state.1.thread t = s.thread t ∧
        state.2 + waitingTime state.1 t ≤ waitingTime s t)
      (fun state input after hstate hwaits hstep => by
        obtain ⟨⟨hqueued, hsliced⟩, hrecord, hbound⟩ := hstate
        obtain ⟨hsame, hwaiting⟩ := waitingTime_step hqueued
          (by rw [hrecord]; exact hready) hsliced hwaits hstep
        obtain ⟨reached, hreached, heq⟩ := Option.map_eq_some_iff.mp hstep
        cases heq
        exact ⟨⟨hqueued.step hmax hwaits.1 hreached, hsliced.step hreached⟩,
          hsame.trans hrecord, by omega⟩)
      _ _ _ run ⟨hstart, rfl, (Nat.zero_add _).le⟩
  obtain ⟨⟨hqueued, hsliced⟩, hrecord, hbound⟩ := hfinal
  refine ⟨hbound, hrecord, fun hserved hunlocked hurgent running hrunning => ?_⟩
  -- nobody is ahead any more, so the thread heads the list that is chosen
  have hnobody := ahead_eq_nil_of_waitingTime hsliced
    (show waitingTime next t = 0 by omega)
  have hmem := hqueued.mem_own_list (t := t) (by rw [hrecord]; exact hready)
  obtain ⟨rest, hlist⟩ := eq_cons_of_ahead_eq_nil hmem hnobody
  obtain ⟨first, others, hto, hfirst, hhead, hleast⟩ :=
    hqueued.toThread_eq hmax
  have hpriority : (next.thread first).currentPriority =
      (next.thread t).currentPriority :=
    Nat.le_antisymm (hleast t (by rw [hrecord]; exact hready))
      (hurgent first hfirst)
  rw [hpriority, hlist] at hhead
  obtain rfl : t = first := (List.cons.inj hhead).1
  refine ⟨_, Scheduler.rtSchedule_unlocked hunlocked hto hrunning, ?_⟩
  split
  · rfl
  · next hsame => rw [hrunning, not_not.mp hsame]

def threeStarted : List (SchedStep (Fin 5)) :=
  startupSteps 1 ++ startupSteps 2 ++ startupSteps 3 ++ [.start]

def threeSlices : Option (Scheduler (Fin 5)) :=
  threeStarted.foldlM (fun s input =>
    if Promised 32 (0 : Fin 5) s input then s.step 32 input else none)
    (Scheduler.boot 32 0 (fun _ => 9) fun _ => 2)

def twoServed : List (SchedStep (Fin 5)) :=
  [.tick, .startup 4, .startupStat 4, .resume 4, .tick, .schedule, .tick,
    .schedule, .resumeInsert 4, .tick]

theorem slices_bound_the_wait_of_three :
    ∃ (s next : Scheduler (Fin 5)) (served : Nat),
      waitingTime s 3 = 4 ∧ served = 4 ∧ next.current = some 2 ∧
      served + waitingTime next 3 ≤ waitingTime s 3 ∧
      next.thread 3 = s.thread 3 ∧
      (served = waitingTime s 3 → next.lockNest = 0 →
        (∀ u, (next.thread u).stat = .ready →
          (next.thread 3).currentPriority ≤
            (next.thread u).currentPriority) →
        ∀ running, next.current = some running →
          ∃ later, next.rtSchedule 32 = some later ∧
            later.current = some 3) := by
  have computed : (do
      let s ← threeSlices
      let reached ← twoServed.foldlM (fun state input =>
          if WaitsReady 32 (0 : Fin 5) 3 state.1 input then
            servedStep 32 3 state input else none) (s, 0)
      return ((s.thread 3).stat, waitingTime s 3, reached.2,
        reached.1.current)) = some (.ready, 4, 4, some 2) := by
    decide +kernel
  obtain ⟨s, hs, computed⟩ := Option.bind_eq_some_iff.mp computed
  obtain ⟨⟨next, served⟩, hreached, computed⟩ :=
    Option.bind_eq_some_iff.mp computed
  have seen := Option.some.inj computed
  simp only [Prod.mk.injEq] at seen
  obtain ⟨hready, hwaiting, hserved, hcurrent⟩ := seen
  exact ⟨s, next, served, hwaiting, hserved, hcurrent,
    slices_bound_the_wait (by decide) (by decide) (by decide) (by decide)
      (Run.of_checked hs) hready (Run.of_checked hreached)⟩

end WncFirmware.Kernel
