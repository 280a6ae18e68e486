import Mathlib.Data.List.Perm.Subperm
import WncFirmware.Foundation.WrappingCounters
import WncFirmware.Kernel.Timer

/-!
# Timers ring when they are due

The list of the timers is in the order of the ticks at which they are due, also
when the tick counter has wrapped in between.
-/

namespace WncFirmware.Kernel

open WncFirmware.Foundation

variable {Timer : Type}

/-- The longest time of a timer here: half of what the code asserts. -/
def span : Nat := 0x3fffffff

/-- `asked` are the times that the timers of the list ask for. -/
structure TimerQueue (system : TimerSystem Timer) (now : Nat)
    (asked : Timer → Nat) : Prop where
  tick_eq : system.rtTick = UInt32.ofNat now
  nodup : system.timerList.Nodup
  ordered : system.timerList.Pairwise fun first second =>
    asked first ≤ asked second
  listed : ∀ id ∈ system.timerList,
    (system.timer id).timeoutTick = UInt32.ofNat (asked id) ∧
      asked id ≤ now + span ∧ now ≤ asked id + span

variable {system after : TimerSystem Timer} {now : Nat}
  {asked later : Timer → Nat} {id : Timer} {timer : Timer → RtTimer}
  {list : List Timer}

theorem insertByTimeout_perm (timer : Timer → RtTimer) (id : Timer)
    (list : List Timer) :
    (insertByTimeout timer id list).Perm (id :: list) := by
  induction list with
  | nil => exact List.Perm.refl _
  | cons t list ih =>
      have hlater := (ih.cons t).trans (List.Perm.swap id t list)
      rw [insertByTimeout]
      split
      · exact hlater
      · split
        · exact List.Perm.refl _
        · exact hlater

theorem insertByTimeout_cons {t : Timer}
    (hid : (timer id).timeoutTick = UInt32.ofNat (asked id))
    (ht : (timer t).timeoutTick = UInt32.ofNat (asked t))
    (hle : asked t ≤ asked id + 0x7ffffffe)
    (hge : asked id ≤ asked t + 0x7ffffffe) :
    insertByTimeout timer id (t :: list) =
      if asked id < asked t then id :: t :: list
      else t :: insertByTimeout timer id list := by
  have hzero := ofNat_sub_eq_zero_iff hle hge
  have hlt := ofNat_sub_lt_half_iff hle hge
  simp only [insertByTimeout, hid, ht, rtTickMaxHalf, hzero, hlt]
  split
  · next heq => rw [if_neg (by omega)]
  · next hne =>
    by_cases hcase : asked id ≤ asked t
    · rw [if_pos hcase, if_pos (by omega)]
    · rw [if_neg hcase, if_neg (by omega)]

theorem insertByTimeout_ordered
    (hid : (timer id).timeoutTick = UInt32.ofNat (asked id))
    (hbound : asked id ≤ now + span ∧ now ≤ asked id + span)
    (hlisted : ∀ t ∈ list, (timer t).timeoutTick = UInt32.ofNat (asked t) ∧
      asked t ≤ now + span ∧ now ≤ asked t + span)
    (h : list.Pairwise fun first second => asked first ≤ asked second) :
    (insertByTimeout timer id list).Pairwise fun first second =>
      asked first ≤ asked second := by
  induction list with
  | nil => exact List.pairwise_singleton _ id
  | cons t list ih =>
      obtain ⟨hfirst, hrest⟩ := List.pairwise_cons.mp h
      obtain ⟨ht, hhigh, hlow⟩ := hlisted t List.mem_cons_self
      rw [insertByTimeout_cons hid ht (by unfold span at *; omega)
        (by unfold span at *; omega)]
      split
      · next hlt =>
        refine List.pairwise_cons.mpr ⟨fun other hother => ?_, h⟩
        rcases List.mem_cons.mp hother with rfl | hother
        · exact Nat.le_of_lt hlt
        · exact Nat.le_trans (Nat.le_of_lt hlt) (hfirst other hother)
      · next hge =>
        refine List.pairwise_cons.mpr ⟨fun other hother => ?_, ih
          (fun u hu => hlisted u (List.mem_cons_of_mem t hu)) hrest⟩
        rw [(insertByTimeout_perm ..).mem_iff] at hother
        rcases List.mem_cons.mp hother with rfl | hother
        · exact Nat.not_lt.mp hge
        · exact hfirst other hother

namespace TimerQueue

theorem sublist (h : TimerQueue system now asked)
    (htick : after.rtTick = system.rtTick)
    (hlist : after.timerList.Sublist system.timerList)
    (hsame : ∀ id ∈ after.timerList,
      (after.timer id).timeoutTick = (system.timer id).timeoutTick ∧
        later id = asked id) :
    TimerQueue after now later where
  tick_eq := htick.trans h.tick_eq
  nodup := h.nodup.sublist hlist
  ordered := by
    refine (h.ordered.sublist hlist).imp_of_mem ?_
    intro first second hfirst hsecond hle
    rw [(hsame first hfirst).2, (hsame second hsecond).2]
    exact hle
  listed id hid := by
    rw [(hsame id hid).1, (hsame id hid).2]
    exact h.listed id (hlist.subset hid)

variable [DecidableEq Timer]

theorem insert (h : TimerQueue system now asked) (hout : id ∉ system.timerList)
    (hid : (system.timer id).timeoutTick = UInt32.ofNat (asked id))
    (hbound : asked id ≤ now + span ∧ now ≤ asked id + span) :
    TimerQueue (system.insert id) now asked := by
  have hperm := insertByTimeout_perm system.timer id system.timerList
  refine ⟨h.tick_eq, ?_, insertByTimeout_ordered hid hbound h.listed h.ordered,
    fun t ht => ?_⟩
  · exact hperm.nodup_iff.mpr (List.nodup_cons.mpr ⟨hout, h.nodup⟩)
  · have htimeout : ((system.insert id).timer t).timeoutTick =
        (system.timer t).timeoutTick := by
      by_cases hsame : t = id
      · subst hsame
        simp [TimerSystem.insert, TimerSystem.setTimer]
      · simp [TimerSystem.insert, TimerSystem.setTimer, hsame]
    rw [htimeout]
    rcases List.mem_cons.mp (hperm.mem_iff.mp ht) with rfl | ht
    · exact ⟨hid, hbound⟩
    · exact h.listed t ht

end TimerQueue

/-! ## One tick -/

structure TimerFrame (system after : TimerSystem Timer)
    (touched : Timer → Prop) : Prop where
  rtTick_eq : after.rtTick = system.rtTick
  starting_eq : after.starting = system.starting
  initTick_eq : ∀ id, (after.timer id).initTick = (system.timer id).initTick
  periodic_eq : ∀ id, (after.timer id).periodic = (system.timer id).periodic
  timeoutTick_eq : ∀ id, ¬touched id →
    (after.timer id).timeoutTick = (system.timer id).timeoutTick

theorem TimerFrame.refl (system : TimerSystem Timer) (touched : Timer → Prop) :
    TimerFrame system system touched :=
  ⟨rfl, rfl, fun _ => rfl, fun _ => rfl, fun _ _ => rfl⟩

theorem TimerFrame.trans {middle : TimerSystem Timer}
    {first second touched : Timer → Prop}
    (hfirst : TimerFrame system middle first)
    (hsecond : TimerFrame middle after second)
    (htouched : ∀ id, first id ∨ second id → touched id) :
    TimerFrame system after touched where
  rtTick_eq := hsecond.rtTick_eq.trans hfirst.rtTick_eq
  starting_eq := hsecond.starting_eq.trans hfirst.starting_eq
  initTick_eq id := (hsecond.initTick_eq id).trans (hfirst.initTick_eq id)
  periodic_eq id := (hsecond.periodic_eq id).trans (hfirst.periodic_eq id)
  timeoutTick_eq id hout :=
    (hsecond.timeoutTick_eq id fun hid => hout (htouched id (.inr hid))).trans
      (hfirst.timeoutTick_eq id fun hid => hout (htouched id (.inl hid)))

variable [DecidableEq Timer]

theorem TimerFrame.setTimer (system : TimerSystem Timer) (id : Timer)
    {timer : RtTimer} (hinit : timer.initTick = (system.timer id).initTick)
    (hperiodic : timer.periodic = (system.timer id).periodic)
    {list : List Timer} {touched : Timer → Prop}
    (htimeout : ¬touched id →
      timer.timeoutTick = (system.timer id).timeoutTick) :
    TimerFrame system { system.setTimer id timer with timerList := list }
      touched := by
  refine ⟨rfl, rfl, fun other => ?_, fun other => ?_, fun other hout => ?_⟩
  · by_cases hsame : other = id
    · subst hsame
      simpa [TimerSystem.setTimer] using hinit
    · simp [TimerSystem.setTimer, hsame]
  · by_cases hsame : other = id
    · subst hsame
      simpa [TimerSystem.setTimer] using hperiodic
    · simp [TimerSystem.setTimer, hsame]
  · by_cases hsame : other = id
    · subst hsame
      simpa [TimerSystem.setTimer] using htimeout hout
    · simp [TimerSystem.setTimer, hsame]

theorem rtTimerStop_spec (system : TimerSystem Timer) (id : Timer) :
    TimerFrame system (system.rtTimerStop id) (fun _ => False) ∧
      (system.rtTimerStop id).timerList.Sublist system.timerList := by
  rw [TimerSystem.rtTimerStop]
  split
  · refine ⟨?_, List.erase_sublist⟩
    apply TimerFrame.setTimer <;> intros <;> rfl
  · exact ⟨.refl system _, List.Sublist.refl _⟩

theorem foldl_rtTimerStop_spec (system : TimerSystem Timer)
    (stopped : List Timer) :
    TimerFrame system (stopped.foldl TimerSystem.rtTimerStop system)
        (fun _ => False) ∧
      (stopped.foldl TimerSystem.rtTimerStop system).timerList.Sublist
        system.timerList := by
  induction stopped generalizing system with
  | nil => exact ⟨.refl system _, List.Sublist.refl _⟩
  | cons id stopped ih =>
      obtain ⟨hframe, hlist⟩ := rtTimerStop_spec system id
      obtain ⟨hlater, hrest⟩ := ih (system.rtTimerStop id)
      exact ⟨hframe.trans hlater fun _ h => h.elim False.elim False.elim, hrest.trans hlist⟩

theorem remove_frame (system : TimerSystem Timer) (id : Timer)
    (touched : Timer → Prop) : TimerFrame system (system.remove id) touched := by
  apply TimerFrame.setTimer <;> intros <;> rfl

theorem takeTime_frame (system : TimerSystem Timer) (id : Timer) :
    TimerFrame system (system.takeTime id) (· = id) := by
  apply TimerFrame.setTimer
  · rfl
  · rfl
  · exact fun hout => absurd rfl hout

theorem takeTime_timeoutTick (htick : system.rtTick = UInt32.ofNat now)
    (id : Timer) :
    ((system.takeTime id).timer id).timeoutTick =
      UInt32.ofNat (now + (system.timer id).initTick.toNat) := by
  simp only [TimerSystem.takeTime, TimerSystem.setTimer, Function.update_self,
    htick]
  exact ofNat_add_ofNat now _

theorem insert_frame (system : TimerSystem Timer) (id : Timer) :
    TimerFrame system (system.insert id) (fun _ => False) := by
  apply TimerFrame.setTimer <;> intros <;> rfl

theorem restart_spec (h : TimerQueue system now asked)
    (hout : id ∉ system.timerList)
    (hinit : (system.timer id).initTick.toNat ≤ span) :
    TimerFrame system (system.restart id) (· = id) ∧
      (system.restart id).timerList ⊆ id :: system.timerList ∧
      TimerQueue (system.restart id) now (Function.update asked id
        (now + (system.timer id).initTick.toNat)) := by
  have hoff : TimerFrame system
      (system.setTimer id { system.timer id with activated := false })
      (· = id) := by
    apply TimerFrame.setTimer <;> intros <;> rfl
  have hqueue (after : TimerSystem Timer)
      (hframe : TimerFrame system after (· = id))
      (hlist : after.timerList = system.timerList) :
      TimerQueue after now (Function.update asked id
        (now + (system.timer id).initTick.toNat)) := by
    refine h.sublist hframe.rtTick_eq (by rw [hlist]) fun other hother => ?_
    have hne : other ≠ id := by
      rintro rfl
      exact hout (hlist ▸ hother)
    exact ⟨hframe.timeoutTick_eq other hne, Function.update_of_ne hne ..⟩
  rw [TimerSystem.restart]
  dsimp only
  split
  · have htimed : TimerFrame system (((system.setTimer id { system.timer id with
        activated := false }).remove id).takeTime id) (· = id) :=
      (hoff.trans (remove_frame _ id (· = id)) fun other hother =>
        hother.elim (fun h => h) (fun h => h)).trans (takeTime_frame _ id)
          fun other hother => hother.elim (fun h => h) (fun h => h)
    have hlist : (((system.setTimer id { system.timer id with
        activated := false }).remove id).takeTime id).timerList =
          system.timerList :=
      List.erase_of_not_mem hout
    refine ⟨htimed.trans (insert_frame _ id) fun other hother =>
      hother.elim (fun h => h) False.elim, ?_, ?_⟩
    · intro other hother
      have hmem := (insertByTimeout_perm ..).mem_iff.mp hother
      rwa [hlist] at hmem
    · refine (hqueue _ htimed hlist).insert (hlist ▸ hout) ?_ ?_
      · have hremoved := hoff.trans (remove_frame _ id (· = id))
          fun other hother => hother.elim (fun h => h) (fun h => h)
        have htimeout := takeTime_timeoutTick
          (hremoved.rtTick_eq.trans h.tick_eq) id
        rw [hremoved.initTick_eq id] at htimeout
        rw [htimeout, Function.update_self]
      · rw [Function.update_self]
        omega
  · exact ⟨hoff, List.subset_cons_self id system.timerList,
      hqueue _ hoff rfl⟩

theorem restart_periodic (system : TimerSystem Timer) (id other : Timer) :
    ((system.restart id).timer other).periodic =
      (system.timer other).periodic := by
  by_cases hsame : other = id
  · subst hsame
    rw [TimerSystem.restart]
    dsimp only
    split <;> simp [TimerSystem.rtTimerStart, TimerSystem.insert,
      TimerSystem.takeTime, TimerSystem.remove, TimerSystem.setTimer]
  · rw [TimerSystem.restart]
    dsimp only
    split <;> simp [TimerSystem.rtTimerStart, TimerSystem.insert,
      TimerSystem.takeTime, TimerSystem.remove, TimerSystem.setTimer, hsame]

def dueCount (asked : Timer → Nat) (now : Nat) (list : List Timer) : Nat :=
  list.countP fun id => asked id ≤ now

def askedAfter (system : TimerSystem Timer) (now : Nat) (asked : Timer → Nat)
    (rung : List Timer) (id : Timer) : Nat :=
  if id ∈ rung then now + (system.timer id).initTick.toNat else asked id

structure Rings (system : TimerSystem Timer) (now : Nat) (asked : Timer → Nat)
    (rung : List Timer) (after : TimerSystem Timer) : Prop where
  frame : TimerFrame system after (· ∈ system.timerList)
  subset : after.timerList ⊆ system.timerList
  due : ∀ id ∈ rung, id ∈ system.timerList ∧ asked id ≤ now
  queue : TimerQueue after now (askedAfter system now asked rung)
  left : ∀ id ∈ after.timerList, now < askedAfter system now asked rung id

theorem rings_none (h : TimerQueue system now asked)
    (hnone : ∀ id ∈ system.timerList, now < asked id) :
    Rings system now asked [] system := by
  have hasked : askedAfter system now asked [] = asked := by
    funext id
    simp [askedAfter]
  refine ⟨.refl system _, List.Subset.refl _, fun id hid => absurd hid (by simp),
    ?_, ?_⟩
  · rwa [hasked]
  · rwa [hasked]

omit [DecidableEq Timer] in
theorem TimerQueue.due_iff (h : TimerQueue system now asked)
    (hid : id ∈ system.timerList) :
    system.rtTick - (system.timer id).timeoutTick < rtTickMaxHalf ↔
      asked id ≤ now := by
  obtain ⟨htimeout, hhigh, hlow⟩ := h.listed id hid
  rw [h.tick_eq, htimeout]
  apply ofNat_sub_lt_half_iff <;> unfold span at * <;> omega

/-- One turn of the loop: the first timer rings, and the others follow. -/
theorem Rings.cons {t : Timer} {list : List Timer}
    (hlist : system.timerList = t :: list) (hdue : asked t ≤ now)
    (hinit : ∀ id, 0 < (system.timer id).initTick.toNat)
    {middle : TimerSystem Timer}
    (hframe : TimerFrame system middle (· = t))
    (hsubset : middle.timerList ⊆ t :: list)
    {rung : List Timer}
    (hlater : Rings middle now (Function.update asked t
      (now + (system.timer t).initTick.toNat)) rung after) :
    Rings system now asked (t :: rung) after := by
  have hinside (id : Timer) (hid : id ∈ middle.timerList) :
      id ∈ system.timerList := by
    rw [hlist]
    exact hsubset hid
  have hnot : t ∉ rung := by
    intro ht
    have hle := (hlater.due t ht).2
    rw [Function.update_self] at hle
    have hpos := hinit t
    omega
  have hasked : askedAfter middle now (Function.update asked t
      (now + (system.timer t).initTick.toNat)) rung =
      askedAfter system now asked (t :: rung) := by
    funext id
    simp only [askedAfter, hframe.initTick_eq, List.mem_cons]
    by_cases hsame : id = t
    · subst hsame
      simp [hnot]
    · simp [hsame]
  constructor
  · refine hframe.trans hlater.frame fun id hid => ?_
    rcases hid with rfl | hid
    · simp [hlist]
    · exact hinside id hid
  · exact fun id hid => hinside id (hlater.subset hid)
  · intro id hid
    rcases List.mem_cons.mp hid with rfl | hmember
    · exact ⟨by simp [hlist], hdue⟩
    · obtain ⟨hmem, hle⟩ := hlater.due id hmember
      have hne : id ≠ t := by
        rintro rfl
        exact hnot hmember
      rw [Function.update_of_ne hne] at hle
      exact ⟨hinside id hmem, hle⟩
  · rw [← hasked]
    exact hlater.queue
  · rw [← hasked]
    exact hlater.left

theorem dueCount_lt {t : Timer} {list shorter : List Timer} {next : Nat}
    (hout : t ∉ list) (hdue : asked t ≤ now) (hnext : now < next)
    (hnodup : shorter.Nodup) (hsubset : shorter ⊆ t :: list) :
    dueCount (Function.update asked t next) now shorter <
      dueCount asked now (t :: list) := by
  have hle := (List.subperm_of_subset hnodup hsubset).countP_le
    fun id => decide (Function.update asked t next id ≤ now)
  have hrest : list.countP
      (fun id => decide (Function.update asked t next id ≤ now)) =
      list.countP fun id => decide (asked id ≤ now) := by
    apply List.countP_congr
    intro id hid
    have hne : id ≠ t := by
      rintro rfl
      exact hout hid
    rw [Function.update_of_ne hne]
  have hnot : ¬next ≤ now := Nat.not_le.mpr hnext
  rw [List.countP_cons, hrest] at hle
  simp only [dueCount, List.countP_cons, Function.update_self, hnot, hdue,
    decide_true, if_true, decide_false, Bool.false_eq_true, if_false] at hle ⊢
  omega

/-- The loop of `rt_timer_check`. -/
theorem rtTimerCheck_rings (callback : Timer → List Timer) (fuel : Nat)
    (h : TimerQueue system now asked)
    (hinit : ∀ id, 0 < (system.timer id).initTick.toNat ∧
      (system.timer id).initTick.toNat ≤ span)
    (hfuel : dueCount asked now system.timerList ≤ fuel) :
    Rings system now asked (TimerSystem.rtTimerCheck callback fuel system).1
      (TimerSystem.rtTimerCheck callback fuel system).2 := by
  induction fuel generalizing system asked with
  | zero =>
      refine rings_none h fun id hid => ?_
      have hzero := List.countP_eq_zero.mp (Nat.le_zero.mp hfuel) id hid
      simpa using hzero
  | succ fuel ih =>
      rw [TimerSystem.rtTimerCheck]
      split
      · next hnil => exact rings_none h (by simp [hnil])
      · next t list hlist =>
        have ht : t ∈ system.timerList := by simp [hlist]
        have hordered := h.ordered
        have hnodup := h.nodup
        rw [hlist] at hordered hnodup hfuel
        obtain ⟨hfirst, -⟩ := List.pairwise_cons.mp hordered
        obtain ⟨hout, -⟩ := List.nodup_cons.mp hnodup
        split
        · next hcheck =>
          have hdue := (h.due_iff ht).mp hcheck
          obtain ⟨hstopped, hsub⟩ := foldl_rtTimerStop_spec
            { system with timerList := list } (callback t)
          have hcalled : TimerQueue ((callback t).foldl TimerSystem.rtTimerStop
              { system with timerList := list }) now asked := by
            refine h.sublist hstopped.rtTick_eq ?_ fun id _ =>
              ⟨hstopped.timeoutTick_eq id fun h => h, rfl⟩
            rw [hlist]
            exact hsub.trans (List.sublist_cons_self t list)
          obtain ⟨hframe, hsubset, hqueue⟩ := restart_spec hcalled
            (fun hmem => hout (hsub.subset hmem))
            ((hstopped.initTick_eq t).symm ▸ (hinit t).2)
          have hinside := List.Subset.trans hsubset
            (List.cons_subset_cons t hsub.subset)
          -- the callback and the restart touch the times of the first only
          have hwhole : TimerFrame system (((callback t).foldl
              TimerSystem.rtTimerStop { system with timerList := list }).restart
              t) (· = t) :=
            TimerFrame.trans ⟨hstopped.rtTick_eq, hstopped.starting_eq,
              hstopped.initTick_eq, hstopped.periodic_eq,
              hstopped.timeoutTick_eq⟩ hframe
              fun _ hid => hid.elim False.elim (fun h => h)
          rw [hstopped.initTick_eq t] at hqueue
          have hpos := (hinit t).1
          refine Rings.cons hlist hdue (fun id => (hinit id).1) hwhole hinside
            (ih hqueue (fun id => ?_) ?_)
          · rw [hwhole.initTick_eq id]
            exact hinit id
          · have hlt := dueCount_lt hout hdue
              (Nat.lt_add_of_pos_right hpos) hqueue.nodup hinside
            exact Nat.le_of_lt_succ (Nat.lt_of_lt_of_le hlt hfuel)
        · next hcheck =>
          have hearly := Nat.not_le.mp (mt (h.due_iff ht).mpr hcheck)
          refine rings_none h fun id hid => ?_
          rw [hlist] at hid
          rcases List.mem_cons.mp hid with rfl | hid
          · exact hearly
          · exact Nat.lt_of_lt_of_le hearly (hfirst id hid)

/-! ## Whole runs -/

structure Timed (system : TimerSystem Timer) (alarms : Alarms Timer) :
    Prop where
  queue : TimerQueue system alarms.now alarms.asked
  fresh : ∀ id ∈ system.timerList, alarms.now < alarms.asked id + span
  init : ∀ id, 0 < (system.timer id).initTick.toNat ∧
    (system.timer id).initTick.toNat ≤ span
  starting : ∀ id, system.starting id ≠ .notStarting →
    id ∉ system.timerList
  timed : ∀ id, system.starting id = .timed →
    (system.timer id).timeoutTick = UInt32.ofNat (alarms.asked id) ∧
      alarms.asked id ≤ alarms.now + span
  due_eq : ∀ id ∈ system.timerList,
    alarms.due id = max (alarms.asked id) (alarms.now + 1)
  rung_eq : ∀ id due ring, (id, due, ring) ∈ alarms.rung → ring = due

/--
Times are not longer than a quarter of the turn of the counter, and a thread is
not held up that long in the middle of `rt_timer_start`.
-/
def InTime (state : TimerSystem Timer × Alarms Timer) :
    TimerStep Timer → Prop
  | .setTime _ tick => 0 < tick.toNat ∧ tick.toNat ≤ span
  | .insert id => state.2.now < state.2.asked id + span
  | _ => True

instance (state : TimerSystem Timer × Alarms Timer) (input : TimerStep Timer) :
    Decidable (InTime state input) :=
  match input with
  | .setTime _ _ => inferInstanceAs (Decidable (_ ∧ _))
  | .insert _ => inferInstanceAs (Decidable (_ < _))
  | .setPeriodic _ _ | .remove _ | .takeTime _ | .stop _ | .tick =>
      .isTrue trivial

variable {alarms : Alarms Timer}

theorem Timed.setTimer (h : Timed system alarms) {timer : RtTimer}
    (htimeout : timer.timeoutTick = (system.timer id).timeoutTick)
    (hinit : 0 < timer.initTick.toNat ∧ timer.initTick.toNat ≤ span) :
    Timed (system.setTimer id timer) alarms := by
  have hsame (other : Timer) :
      ((system.setTimer id timer).timer other).timeoutTick =
        (system.timer other).timeoutTick := by
    by_cases hother : other = id
    · subst hother
      simpa [TimerSystem.setTimer] using htimeout
    · simp [TimerSystem.setTimer, hother]
  refine ⟨?_, h.fresh, fun other => ?_, h.starting, fun other hother => ?_,
    h.due_eq, h.rung_eq⟩
  · exact h.queue.sublist rfl (List.Sublist.refl _)
      fun other _ => ⟨hsame other, rfl⟩
  · by_cases hother : other = id
    · subst hother
      simpa [TimerSystem.setTimer] using hinit
    · simpa [TimerSystem.setTimer, hother] using h.init other
  · rw [hsame other]
    exact h.timed other hother

theorem Timed.stop (h : Timed system alarms) (id : Timer)
    (armed : Timer → Bool) :
    Timed (system.rtTimerStop id) { alarms with armed := armed } := by
  obtain ⟨hframe, hlist⟩ := rtTimerStop_spec system id
  refine ⟨?_, fun other hother => h.fresh other (hlist.subset hother),
    fun other => ?_, fun other hother => ?_, fun other hother => ?_,
    fun other hother => h.due_eq other (hlist.subset hother), h.rung_eq⟩
  · exact h.queue.sublist hframe.rtTick_eq hlist
      fun other _ => ⟨hframe.timeoutTick_eq other fun h => h, rfl⟩
  · rw [hframe.initTick_eq]
    exact h.init other
  · rw [hframe.starting_eq] at hother
    exact fun hmem => h.starting other hother (hlist.subset hmem)
  · rw [hframe.starting_eq] at hother
    rw [hframe.timeoutTick_eq other fun h => h]
    exact h.timed other hother

theorem Timed.remove (h : Timed system alarms)
    (hidle : system.starting id = .notStarting) (armed : Timer → Bool) :
    Timed { system.remove id with
        starting := Function.update system.starting id .removed }
      { alarms with armed := armed } := by
  have hframe := remove_frame system id fun _ => False
  have hmem (other : Timer) (hother : other ∈ (system.remove id).timerList) :
      other ≠ id ∧ other ∈ system.timerList :=
    h.queue.nodup.mem_erase_iff.mp hother
  refine ⟨?_, fun other hother => h.fresh other (hmem other hother).2,
    fun other => ?_, fun other hother hin => ?_, fun other hother => ?_,
    fun other hother => h.due_eq other (hmem other hother).2, h.rung_eq⟩
  · exact h.queue.sublist rfl List.erase_sublist
      fun other _ => ⟨hframe.timeoutTick_eq other fun h => h, rfl⟩
  · have hinit := hframe.initTick_eq other
    simp only [hinit]
    exact h.init other
  · obtain ⟨hne, hold⟩ := hmem other hin
    simp only [Function.update_of_ne hne] at hother
    exact h.starting other hother hold
  · by_cases hsame : other = id
    · subst hsame
      simp at hother
    · simp only [Function.update_of_ne hsame] at hother
      have htimeout := hframe.timeoutTick_eq other fun h => h
      simp only [htimeout]
      exact h.timed other hother

theorem Timed.takeTime (h : Timed system alarms)
    (hremoved : system.starting id = .removed) :
    Timed { system.takeTime id with
        starting := Function.update system.starting id .timed }
      { alarms with
        asked := Function.update alarms.asked id
          (alarms.now + (system.timer id).initTick.toNat) } := by
  have hframe := takeTime_frame system id
  have hout : id ∉ system.timerList :=
    h.starting id (by rw [hremoved]; exact StartPhase.noConfusion)
  have hne (other : Timer) (hother : other ∈ system.timerList) : other ≠ id := by
    rintro rfl
    exact hout hother
  refine ⟨?_, fun other hother => ?_, fun other => ?_, fun other hother => ?_,
    fun other hother => ?_, fun other hother => ?_, h.rung_eq⟩
  · exact h.queue.sublist rfl (List.Sublist.refl _) fun other hother =>
      ⟨hframe.timeoutTick_eq other (hne other hother),
        Function.update_of_ne (hne other hother) ..⟩
  · simp only [Function.update_of_ne (hne other hother)]
    exact h.fresh other hother
  · have hinit := hframe.initTick_eq other
    simp only [hinit]
    exact h.init other
  · by_cases hsame : other = id
    · subst hsame
      exact hout
    · simp only [Function.update_of_ne hsame] at hother
      exact h.starting other hother
  · by_cases hsame : other = id
    · subst hsame
      have hinit := h.init other
      simp only [Function.update_self]
      exact ⟨takeTime_timeoutTick h.queue.tick_eq other, by omega⟩
    · simp only [Function.update_of_ne hsame] at hother ⊢
      have htimeout := hframe.timeoutTick_eq other hsame
      simp only [htimeout]
      exact h.timed other hother
  · simp only [Function.update_of_ne (hne other hother)]
    exact h.due_eq other hother

theorem Timed.insert (h : Timed system alarms)
    (htimed : system.starting id = .timed)
    (hfresh : alarms.now < alarms.asked id + span) (armed : Timer → Bool) :
    Timed { system.insert id with
        starting := Function.update system.starting id .notStarting }
      { alarms with
        due := Function.update alarms.due id
          (max (alarms.asked id) (alarms.now + 1))
        armed := armed } := by
  have hframe := insert_frame system id
  have hout : id ∉ system.timerList :=
    h.starting id (by rw [htimed]; exact StartPhase.noConfusion)
  obtain ⟨htimeout, hle⟩ := h.timed id htimed
  have hmem (other : Timer) (hother : other ∈ (system.insert id).timerList) :
      other = id ∨ other ∈ system.timerList :=
    List.mem_cons.mp ((insertByTimeout_perm ..).mem_iff.mp hother)
  have hne {other : Timer} {phase : StartPhase}
      (hphase : phase ≠ .notStarting)
      (hother : Function.update system.starting id .notStarting other = phase) :
      other ≠ id := by
    rintro rfl
    rw [Function.update_self] at hother
    exact hphase hother.symm
  refine ⟨?_, fun other hother => ?_, fun other => ?_,
    fun other hother hin => ?_, fun other hother => ?_, fun other hother => ?_,
    h.rung_eq⟩
  · have hqueue := h.queue.insert hout htimeout ⟨hle, Nat.le_of_lt hfresh⟩
    exact ⟨hqueue.tick_eq, hqueue.nodup, hqueue.ordered, hqueue.listed⟩
  · rcases hmem other hother with rfl | hin
    · exact hfresh
    · exact h.fresh other hin
  · have hinit := hframe.initTick_eq other
    simp only [hinit]
    exact h.init other
  · have hother' := hne hother rfl
    simp only [Function.update_of_ne hother'] at hother
    exact h.starting other hother ((hmem other hin).resolve_left hother')
  · have hother' := hne StartPhase.noConfusion hother
    simp only [Function.update_of_ne hother'] at hother
    have htime := hframe.timeoutTick_eq other fun h => h
    simp only [htime]
    exact h.timed other hother
  · by_cases hsame : other = id
    · subst hsame
      simp only [Function.update_self]
    · simp only [Function.update_of_ne hsame]
      exact h.due_eq other ((hmem other hother).resolve_left hsame)

/-- The tick interrupt: what rings is due now, and what is left is due later. -/
theorem Timed.tick (h : Timed system alarms) (callback : Timer → List Timer)
    {rung : List Timer}
    (hcheck : system.rtTickIncrease callback = (rung, after)) :
    Timed after (alarms.after callback system after rung .tick) := by
  have hqueue : TimerQueue { system with rtTick := system.rtTick + 1 }
      (alarms.now + 1) alarms.asked := by
    refine ⟨?_, h.queue.nodup, h.queue.ordered, fun id hid => ?_⟩
    · rw [h.queue.tick_eq]
      exact ofNat_add_ofNat alarms.now 1
    · obtain ⟨htimeout, hle, -⟩ := h.queue.listed id hid
      have hfresh := h.fresh id hid
      exact ⟨htimeout, by omega, by omega⟩
  have hrings := rtTimerCheck_rings callback system.timerList.length hqueue
    h.init List.countP_le_length
  rw [TimerSystem.rtTickIncrease] at hcheck
  rw [hcheck] at hrings
  obtain ⟨hframe, hsubset, hdue, hafter, hleft⟩ := hrings
  have hinit (id : Timer) : (after.timer id).initTick =
      (system.timer id).initTick := hframe.initTick_eq id
  have hasked (id : Timer) (hid : id ∈ after.timerList) :
      (alarms.after callback system after rung .tick).asked id =
        askedAfter { system with rtTick := system.rtTick + 1 }
          (alarms.now + 1) alarms.asked rung id := by
    simp only [Alarms.after, askedAfter, hid, and_true, hinit id]
  refine ⟨?_, fun id hid => ?_, fun id => ?_, fun id hid hin => ?_,
    fun id hid => ?_, fun id hid => ?_, fun id due ring hring => ?_⟩
  · exact hafter.sublist rfl (List.Sublist.refl _)
      fun id hid => ⟨rfl, hasked id hid⟩
  · have hlt := hleft id hid
    rw [hasked id hid]
    exact Nat.lt_of_lt_of_le hlt (Nat.le_add_right ..)
  · rw [hframe.initTick_eq id]
    exact h.init id
  · rw [hframe.starting_eq] at hid
    exact h.starting id hid (hsubset hin)
  · rw [hframe.starting_eq] at hid
    have hout : id ∉ system.timerList :=
      h.starting id (by rw [hid]; exact StartPhase.noConfusion)
    obtain ⟨htimeout, hle⟩ := h.timed id hid
    have hnot : id ∉ after.timerList := fun hin => hout (hsubset hin)
    refine ⟨?_, ?_⟩
    · rw [hframe.timeoutTick_eq id hout]
      simpa [Alarms.after, hnot] using htimeout
    · simp only [Alarms.after, hnot, and_false, if_false]
      omega
  · have hlt := hleft id hid
    rw [hasked id hid]
    simp only [askedAfter] at hlt ⊢
    by_cases hin : id ∈ rung
    · simp only [hin, if_true] at hlt ⊢
      simp only [Alarms.after, hin, hid, and_self, if_true, hinit id]
      omega
    · have hwas := h.due_eq id (hsubset hid)
      simp only [hin, if_false] at hlt ⊢
      simp only [Alarms.after, hin, false_and, if_false]
      omega
  · rcases List.mem_append.mp hring with hold | hnew
    · exact h.rung_eq id due ring hold
    · obtain ⟨other, hother, heq⟩ := List.mem_map.mp hnew
      cases heq
      obtain ⟨hin, hle⟩ := hdue id hother
      rw [h.due_eq id hin]
      omega

theorem Timed.step (h : Timed system alarms) {callback : Timer → List Timer}
    {input : TimerStep Timer} {later : Alarms Timer}
    (hguard : InTime (system, alarms) input)
    (hstep : timedStep callback (system, alarms) input = some (after, later)) :
    Timed after later := by
  obtain ⟨⟨rung, next⟩, hnext, heq⟩ := Option.map_eq_some_iff.mp hstep
  cases heq
  cases input with
  | setTime id tick =>
      cases hnext
      exact h.setTimer rfl hguard
  | setPeriodic id periodic =>
      cases hnext
      exact h.setTimer rfl (h.init id)
  | remove id =>
      rw [TimerSystem.step] at hnext
      split at hnext
      · next hidle =>
        cases hnext
        exact h.remove hidle _
      · cases hnext
  | takeTime id =>
      rw [TimerSystem.step] at hnext
      split at hnext
      · next hremoved =>
        cases hnext
        exact h.takeTime hremoved
      · cases hnext
  | insert id =>
      rw [TimerSystem.step] at hnext
      split at hnext
      · next htimed =>
        cases hnext
        exact h.insert htimed hguard _
      · cases hnext
  | stop id =>
      cases hnext
      exact h.stop id _
  | tick => exact h.tick callback (Option.some.inj hnext)

/-! ## Armed timers are in the list -/

/-- `out` is the timer whose callback runs: it is in no list. -/
structure Listed (system : TimerSystem Timer) (armed : Timer → Bool)
    (out : Option Timer) : Prop where
  nodup : system.timerList.Nodup
  mem_iff : ∀ id, id ∈ system.timerList ↔ armed id = true ∧ out ≠ some id
  activated_eq : ∀ id, (system.timer id).activated = armed id

variable {armed : Timer → Bool} {out : Option Timer}

omit [DecidableEq Timer] in
theorem Listed.congr (h : Listed system armed out)
    (hlist : after.timerList = system.timerList)
    (hactivated : ∀ id,
      (after.timer id).activated = (system.timer id).activated) :
    Listed after armed out where
  nodup := hlist ▸ h.nodup
  mem_iff id := by rw [hlist, h.mem_iff]
  activated_eq id := by rw [hactivated, h.activated_eq]

theorem Listed.erase (h : Listed system armed out) {timer : RtTimer}
    (hactivated : timer.activated = false) :
    Listed { system.setTimer id timer with
        timerList := system.timerList.erase id }
      (Function.update armed id false) out where
  nodup := h.nodup.erase id
  mem_iff other := by
    rw [h.nodup.mem_erase_iff, h.mem_iff]
    by_cases hsame : other = id
    · subst hsame
      simp
    · simp [hsame]
  activated_eq other := by
    by_cases hsame : other = id
    · subst hsame
      simp [TimerSystem.setTimer, hactivated]
    · simp [TimerSystem.setTimer, hsame, h.activated_eq]

theorem Listed.insert (h : Listed system armed out)
    (hout : id ∉ system.timerList) (hgoes : ∀ other, out = some other → other = id) :
    Listed (system.insert id) (Function.update armed id true) none := by
  have hperm := insertByTimeout_perm system.timer id system.timerList
  refine ⟨hperm.nodup_iff.mpr (List.nodup_cons.mpr ⟨hout, h.nodup⟩),
    fun other => ?_, fun other => ?_⟩
  · rw [TimerSystem.insert, hperm.mem_iff, List.mem_cons, h.mem_iff]
    by_cases hsame : other = id
    · subst hsame
      simp
    · have hnot : out ≠ some other := fun hsome => hsame (hgoes other hsome)
      simp [hsame, hnot]
  · by_cases hsame : other = id
    · subst hsame
      simp [TimerSystem.insert, TimerSystem.setTimer]
    · simp [TimerSystem.insert, TimerSystem.setTimer, hsame, h.activated_eq]

theorem Listed.stop (h : Listed system armed out) (id : Timer) :
    Listed (system.rtTimerStop id) (Function.update armed id false) out := by
  rw [TimerSystem.rtTimerStop]
  split
  · exact h.erase rfl
  · next hidle =>
    rw [h.activated_eq, Bool.not_eq_true] at hidle
    rwa [Function.update_eq_self_iff.mpr hidle.symm]

theorem Listed.stopAll (h : Listed system armed out) (stopped : List Timer) :
    Listed (stopped.foldl TimerSystem.rtTimerStop system)
      (stopped.foldl (fun armed id => Function.update armed id false) armed)
      out := by
  induction stopped generalizing system armed with
  | nil => exact h
  | cons id stopped ih => exact ih (h.stop id)

theorem Listed.remove (h : Listed system armed out) (id : Timer) :
    Listed (system.remove id) (Function.update armed id false) out :=
  h.erase rfl

theorem Listed.takeTime (h : Listed system armed out) (id : Timer) :
    Listed (system.takeTime id) armed out := by
  refine h.congr rfl fun other => ?_
  by_cases hsame : other = id
  · subst hsame
    simp [TimerSystem.takeTime, TimerSystem.setTimer]
  · simp [TimerSystem.takeTime, TimerSystem.setTimer, hsame]

theorem Listed.restart (h : Listed system armed (some id))
    {periodic : Timer → Bool}
    (hperiodic : (system.timer id).periodic = periodic id) :
    Listed (system.restart id)
      (Function.update armed id (periodic id && armed id)) none := by
  have hout : id ∉ system.timerList := fun hmem =>
    ((h.mem_iff id).mp hmem).2 rfl
  have hoff : Listed (system.setTimer id { system.timer id with
      activated := false }) (Function.update armed id false) (some id) :=
    (h.remove id).congr (List.erase_of_not_mem hout).symm fun _ => rfl
  rw [TimerSystem.restart, hperiodic, h.activated_eq]
  dsimp only
  split
  · next hagain =>
    rw [hagain]
    have hstarted := ((hoff.remove id).takeTime id).insert
      (fun hmem => hout (List.mem_of_mem_erase hmem))
      fun other hother => (Option.some.inj hother).symm
    rwa [Function.update_idem, Function.update_idem] at hstarted
  · next hagain =>
    rw [Bool.not_eq_true] at hagain
    rw [hagain]
    refine ⟨hoff.nodup, fun other => ?_, hoff.activated_eq⟩
    rw [hoff.mem_iff]
    by_cases hsame : other = id
    · subst hsame
      simp
    · simp [hsame, Ne.symm hsame]

theorem Listed.check (h : Listed system armed none)
    (callback : Timer → List Timer) (fuel : Nat) {periodic : Timer → Bool}
    (hperiodic : ∀ id, (system.timer id).periodic = periodic id) :
    Listed (TimerSystem.rtTimerCheck callback fuel system).2
      ((TimerSystem.rtTimerCheck callback fuel system).1.foldl
        (armedAfterRing callback periodic) armed) none := by
  induction fuel generalizing system armed with
  | zero => exact h
  | succ fuel ih =>
      rw [TimerSystem.rtTimerCheck]
      split
      · exact h
      · next t list hlist =>
        split
        · have hnodup := h.nodup
          rw [hlist, List.nodup_cons] at hnodup
          have hpopped : Listed { system with timerList := list } armed
              (some t) := by
            refine ⟨hnodup.2, fun id => ?_, h.activated_eq⟩
            have hmem := h.mem_iff id
            simp only [hlist, List.mem_cons] at hmem
            by_cases hsame : id = t
            · subst hsame
              simp [hnodup.1]
            · simpa [hsame, Ne.symm hsame] using hmem
          have hcalled := hpopped.stopAll (callback t)
          have hsettings := (foldl_rtTimerStop_spec
            { system with timerList := list } (callback t)).1
          have hrestarted := hcalled.restart
            ((hsettings.periodic_eq t).trans (hperiodic t))
          exact ih hrestarted fun id => by
            rw [restart_periodic, hsettings.periodic_eq id]
            exact hperiodic id
        · exact h

theorem Listed.step (h : Listed system alarms.armed none)
    (htimed : Timed system alarms) {callback : Timer → List Timer}
    {input : TimerStep Timer} {later : Alarms Timer}
    (hstep : timedStep callback (system, alarms) input = some (after, later)) :
    Listed after later.armed none := by
  obtain ⟨⟨rung, next⟩, hnext, heq⟩ := Option.map_eq_some_iff.mp hstep
  cases heq
  cases input with
  | setTime id tick | setPeriodic id periodic =>
      cases hnext
      refine h.congr rfl fun other => ?_
      by_cases hsame : other = id
      · subst hsame
        simp [TimerSystem.setTimer]
      · simp [TimerSystem.setTimer, hsame]
  | remove id =>
      rw [TimerSystem.step] at hnext
      split at hnext <;> cases hnext
      exact (h.remove id).congr rfl fun _ => rfl
  | takeTime id =>
      rw [TimerSystem.step] at hnext
      split at hnext <;> cases hnext
      exact (h.takeTime id).congr rfl fun _ => rfl
  | insert id =>
      rw [TimerSystem.step] at hnext
      split at hnext
      · next hphase =>
        cases hnext
        have hout := htimed.starting id
          (by rw [hphase]; exact StartPhase.noConfusion)
        exact (h.insert hout (by simp)).congr rfl fun _ => rfl
      · cases hnext
  | stop id =>
      cases hnext
      exact h.stop id
  | tick =>
      have hticked : Listed { system with rtTick := system.rtTick + 1 }
          alarms.armed none := h.congr rfl fun _ => rfl
      have hchecked := hticked.check callback system.timerList.length
        (fun _ => rfl)
      have heq := Option.some.inj hnext
      rw [TimerSystem.rtTickIncrease] at heq
      rw [heq] at hchecked
      exact hchecked

/-! ## Whole runs of the timers -/

/-- No timer was started; the tick counter stands anywhere in its turn. -/
def TimerSystem.start (timer : Timer → RtTimer) (now : Nat) :
    TimerSystem Timer × Alarms Timer :=
  ({ rtTick := UInt32.ofNat now, timer := fun id => { timer id with
       activated := false }, timerList := [],
     starting := fun _ => .notStarting },
   { now, asked := fun _ => 0, due := fun _ => 0, armed := fun _ => false,
     rung := [] })

/--
The list holds the armed timers in the order of the ticks at which they are
due, all of them later than now, and whatever rang did so at the tick at which
it was due: the one for which it was started, or the next one if the thread that
started it was held up behind it.
-/
theorem timers_ring_when_due {callback : Timer → List Timer}
    {timer : Timer → RtTimer} {start : Nat} {inputs : List (TimerStep Timer)}
    (hinit : ∀ id, 0 < (timer id).initTick.toNat ∧
      (timer id).initTick.toNat ≤ span)
    (run : Run (timedStep callback) InTime (TimerSystem.start timer start) inputs
      (system, alarms)) :
    (∀ id due ring, (id, due, ring) ∈ alarms.rung → ring = due) ∧
      (∀ id, alarms.armed id = true ↔ id ∈ system.timerList) ∧
      (system.timerList.Pairwise fun first second =>
        alarms.due first ≤ alarms.due second) ∧
      ∀ id ∈ system.timerList, alarms.now < alarms.due id := by
  have hkeep (state : TimerSystem Timer × Alarms Timer)
      (input : TimerStep Timer) (after : TimerSystem Timer × Alarms Timer)
      (h : Timed state.1 state.2 ∧ Listed state.1 state.2.armed none)
      (hguard : InTime state input)
      (hstep : timedStep callback state input = some after) :
      Timed after.1 after.2 ∧ Listed after.1 after.2.armed none :=
    ⟨h.1.step hguard hstep, h.2.step h.1 hstep⟩
  have hstart : Timed (TimerSystem.start timer start).1
      (TimerSystem.start timer start).2 := by
    refine ⟨⟨rfl, List.nodup_nil, List.Pairwise.nil, ?_⟩, ?_, hinit, ?_, ?_,
      ?_, ?_⟩ <;> simp [TimerSystem.start]
  have hlisted : Listed (TimerSystem.start timer start).1
      (TimerSystem.start timer start).2.armed none :=
    ⟨List.nodup_nil, by simp [TimerSystem.start], fun _ => rfl⟩
  obtain ⟨h, hin⟩ := @Run.invariant _ _ _ _
    (fun state => Timed state.1 state.2 ∧ Listed state.1 state.2.armed none)
    hkeep _ _ _ run ⟨hstart, hlisted⟩
  refine ⟨h.rung_eq, fun id => ?_, ?_, fun id hid => ?_⟩
  · simp [hin.mem_iff]
  · refine h.queue.ordered.imp_of_mem fun hfirst hsecond hle => ?_
    rw [h.due_eq _ hfirst, h.due_eq _ hsecond]
    omega
  · rw [h.due_eq id hid]
    exact Nat.lt_of_lt_of_le (Nat.lt_succ_self _) (Nat.le_max_right ..)

/-- A timer of two ticks that starts again, and one of a single tick. -/
def twoTimers : Bool → RtTimer
  | true => { timeoutTick := 0, initTick := 2, periodic := true, activated := false }
  | false => { timeoutTick := 0, initTick := 1, periodic := false, activated := false }

/-- Both are started just before the counter wraps. -/
theorem timers_ring_when_due_wrapping :
    ∃ (system : TimerSystem Bool) (alarms : Alarms Bool),
      alarms.rung = [(false, 0xffffffff, 0xffffffff),
        (true, 0x100000000, 0x100000000)] ∧
      (∀ id due ring, (id, due, ring) ∈ alarms.rung → ring = due) ∧
      (∀ id, alarms.armed id = true ↔ id ∈ system.timerList) ∧
      (system.timerList.Pairwise fun first second =>
        alarms.due first ≤ alarms.due second) ∧
      ∀ id ∈ system.timerList, alarms.now < alarms.due id := by
  have hrung : (([.remove true, .takeTime true, .insert true, .remove false,
      .takeTime false, .insert false, .tick, .tick, .tick] :
        List (TimerStep Bool)).foldlM (fun state input =>
        if InTime state input then timedStep (fun _ => []) state input
        else none) (TimerSystem.start twoTimers 0xfffffffe)).map
          (fun state => state.2.rung) =
      some [(false, 0xffffffff, 0xffffffff),
        (true, 0x100000000, 0x100000000)] := by decide +kernel
  obtain ⟨⟨system, alarms⟩, hstate, hrung⟩ := Option.map_eq_some_iff.mp hrung
  refine ⟨system, alarms, hrung, timers_ring_when_due (fun id => ?_)
    (Run.of_checked hstate)⟩
  cases id <;> decide

end WncFirmware.Kernel
