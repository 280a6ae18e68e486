import WncFirmware.Kernel.Scheduler

/-!
# The most urgent thread runs

In every order of steps the lists hold the ready threads, each once and under
its priority, and the bit maps mark the lists that are not empty.
-/

namespace WncFirmware.Kernel

open WncFirmware.Foundation

variable {Thread : Type} [DecidableEq Thread]

/-! ## Lists and marks -/

structure Linkage (priorityMax : Nat) (linked : Thread → Prop)
    (s : Scheduler Thread) : Prop where
  mem_iff : ∀ t priority, t ∈ s.lists priority ↔
    linked t ∧ (s.thread t).currentPriority = priority
  nodup : ∀ priority, (s.lists priority).Nodup
  bounded : ∀ t, (s.thread t).currentPriority < priorityMax
  masks : ∀ t, (s.thread t).masks =
      priorityMasks priorityMax (s.thread t).currentPriority ∨
    ¬ linked t ∧ (s.thread t).masks = {}
  marks : Marks priorityMax s.map (fun priority => s.lists priority ≠ [])

namespace Linkage

variable {priorityMax : Nat} {linked : Thread → Prop} {s : Scheduler Thread}
  {t : Thread}

omit [DecidableEq Thread] in
theorem of_iff {other : Thread → Prop} (h : Linkage priorityMax linked s)
    (hsame : ∀ u, linked u ↔ other u) : Linkage priorityMax other s := by
  have : linked = other := funext fun u => propext (hsame u)
  exact this ▸ h

omit [DecidableEq Thread] in
theorem not_mem (h : Linkage priorityMax linked s) (ht : ¬ linked t)
    (priority : Nat) : t ∉ s.lists priority :=
  fun hmem => ht ((h.mem_iff t priority).mp hmem).1

theorem unlink_eq (h : Linkage priorityMax linked s) (ht : ¬ linked t) :
    s.unlink t = s := by
  have hlists : (fun priority => (s.lists priority).erase t) = s.lists :=
    funext fun priority => List.erase_of_not_mem (h.not_mem ht priority)
  rw [Scheduler.unlink, hlists]

theorem setThread_same (h : Linkage priorityMax linked s)
    {record : ThreadRecord}
    (hpriority : record.currentPriority = (s.thread t).currentPriority)
    (hmasks : record.masks = (s.thread t).masks) :
    Linkage priorityMax linked (s.setThread t record) := by
  have hthread (u : Thread) :
      ((s.setThread t record).thread u).currentPriority =
          (s.thread u).currentPriority ∧
        ((s.setThread t record).thread u).masks = (s.thread u).masks := by
    by_cases hu : u = t
    · subst hu
      simp [Scheduler.setThread, hpriority, hmasks]
    · simp [Scheduler.setThread, hu]
  refine ⟨fun u priority => ?_, h.nodup, fun u => ?_, fun u => ?_, h.marks⟩
  · rw [(hthread u).1]
    exact h.mem_iff u priority
  · rw [(hthread u).1]
    exact h.bounded u
  · rw [(hthread u).1, (hthread u).2]
    exact h.masks u

theorem setPriority (h : Linkage priorityMax linked s) (ht : ¬ linked t)
    {priority : Nat} (hpriority : priority < priorityMax) :
    Linkage priorityMax linked (s.setPriority priorityMax t priority) := by
  refine ⟨fun u other => ?_, h.nodup, fun u => ?_, fun u => ?_, h.marks⟩ <;>
    by_cases hu : u = t
  · subst hu
    exact ⟨fun hmem => absurd hmem (h.not_mem ht other),
      fun hlinked => absurd hlinked.1 ht⟩
  · simpa [Scheduler.setPriority, Scheduler.setThread, hu] using
      h.mem_iff u other
  · subst hu
    simpa [Scheduler.setPriority, Scheduler.setThread] using hpriority
  · simpa [Scheduler.setPriority, Scheduler.setThread, hu] using h.bounded u
  · subst hu
    simp [Scheduler.setPriority, Scheduler.setThread]
  · simpa [Scheduler.setPriority, Scheduler.setThread, hu] using h.masks u

theorem remove (h : Linkage priorityMax linked s) (hmax : priorityMax ≤ 256) :
    Linkage priorityMax (fun u => u ≠ t ∧ linked u)
      (s.rtScheduleRemoveThread priorityMax t) := by
  have hmem (u : Thread) (priority : Nat) :
      u ∈ (s.lists priority).erase t ↔
        (u ≠ t ∧ linked u) ∧ (s.thread u).currentPriority = priority := by
    rw [(h.nodup priority).mem_erase_iff, h.mem_iff u priority, and_assoc]
  have hnodup (priority : Nat) : ((s.lists priority).erase t).Nodup :=
    (h.nodup priority).erase t
  have hmasks (u : Thread) : (s.thread u).masks =
        priorityMasks priorityMax (s.thread u).currentPriority ∨
      ¬ (u ≠ t ∧ linked u) ∧ (s.thread u).masks = {} := by
    rcases h.masks u with hright | ⟨hnot, hblank⟩
    · exact .inl hright
    · exact .inr ⟨fun hu => hnot hu.2, hblank⟩
  -- the thread is in no list but the one of its priority
  have hother {priority : Nat}
      (hpriority : priority ≠ (s.thread t).currentPriority) :
      (s.lists priority).erase t = s.lists priority := by
    refine List.erase_of_not_mem fun ht => hpriority ?_
    exact ((h.mem_iff t priority).mp ht).2.symm
  rw [Scheduler.rtScheduleRemoveThread]
  by_cases hrest : (s.unlink t).lists (s.thread t).currentPriority = []
  · rw [if_pos hrest]
    have hempty : (s.lists (s.thread t).currentPriority).erase t = [] := hrest
    refine ⟨hmem, hnodup, h.bounded, hmasks, ?_⟩
    rcases h.masks t with hright | ⟨hnot, hblank⟩
    · rw [hright]
      refine (h.marks.unmark hmax (h.bounded t)).congr fun priority => ?_
      by_cases hpriority : priority = (s.thread t).currentPriority
      · subst hpriority
        simp [Scheduler.unlink, hempty]
      · simp [Scheduler.unlink, hpriority, hother hpriority]
    · rw [hblank, Marks.unmark_blank]
      rw [h.unlink_eq hnot]
      exact h.marks
  · rw [if_neg hrest]
    refine ⟨hmem, hnodup, h.bounded, hmasks, h.marks.congr fun priority => ?_⟩
    by_cases hpriority : priority = (s.thread t).currentPriority
    · subst hpriority
      refine ⟨fun _ => hrest, fun _ hnil => hrest ?_⟩
      simp [Scheduler.unlink, hnil]
    · simp [Scheduler.unlink, hother hpriority]

theorem insert (h : Linkage priorityMax linked s) (hmax : priorityMax ≤ 256)
    (ht : ¬ linked t)
    (hmasks : (s.thread t).masks =
      priorityMasks priorityMax (s.thread t).currentPriority) :
    Linkage priorityMax (fun u => u = t ∨ linked u)
      (s.rtScheduleInsertThread priorityMax t) := by
  have hthread (u : Thread) :
      ((s.rtScheduleInsertThread priorityMax t).thread u).currentPriority =
          (s.thread u).currentPriority ∧
        ((s.rtScheduleInsertThread priorityMax t).thread u).masks =
          (s.thread u).masks := by
    by_cases hu : u = t
    · subst hu
      simp [Scheduler.rtScheduleInsertThread, Scheduler.setThread,
        Scheduler.linkLast]
    · simp [Scheduler.rtScheduleInsertThread, Scheduler.setThread,
        Scheduler.linkLast, hu]
  have hlists (priority : Nat) :
      (s.rtScheduleInsertThread priorityMax t).lists priority =
        if priority = (s.thread t).currentPriority then
          s.lists priority ++ [t]
        else s.lists priority := by
    by_cases hpriority : priority = (s.thread t).currentPriority
    · subst hpriority
      simp [Scheduler.rtScheduleInsertThread, Scheduler.setThread,
        Scheduler.linkLast]
    · simp [Scheduler.rtScheduleInsertThread, Scheduler.setThread,
        Scheduler.linkLast, hpriority]
  refine ⟨fun u priority => ?_, fun priority => ?_, fun u => ?_, fun u => ?_,
    ?_⟩
  · rw [(hthread u).1, hlists]
    split
    · next hpriority =>
        rw [List.mem_append, List.mem_singleton, h.mem_iff, hpriority]
        constructor
        · rintro (⟨hlinked, heq⟩ | rfl)
          · exact ⟨.inr hlinked, heq⟩
          · exact ⟨.inl rfl, rfl⟩
        · rintro ⟨rfl | hlinked, heq⟩
          · exact .inr rfl
          · exact .inl ⟨hlinked, heq⟩
    · next hpriority =>
        rw [h.mem_iff]
        refine ⟨fun hu => ⟨.inr hu.1, hu.2⟩, ?_⟩
        rintro ⟨rfl | hlinked, heq⟩
        · exact absurd heq.symm hpriority
        · exact ⟨hlinked, heq⟩
  · rw [hlists]
    split
    · have hnew := h.not_mem ht priority
      refine List.nodup_append.mpr ⟨h.nodup priority, by simp, ?_⟩
      intro u hu other hother
      rw [List.mem_singleton.mp hother]
      rintro rfl
      exact hnew hu
    · exact h.nodup priority
  · rw [(hthread u).1]
    exact h.bounded u
  · rw [(hthread u).1, (hthread u).2]
    by_cases hu : u = t
    · subst hu
      exact .inl hmasks
    · rcases h.masks u with hright | ⟨hnot, hblank⟩
      · exact .inl hright
      · exact .inr ⟨by simp [hu, hnot], hblank⟩
  · have hmap : (s.rtScheduleInsertThread priorityMax t).map =
        s.map.mark priorityMax (s.thread t).masks := by
      simp [Scheduler.rtScheduleInsertThread, Scheduler.setThread,
        Scheduler.linkLast]
    rw [hmap, hmasks]
    refine (h.marks.mark hmax (h.bounded t)).congr fun priority => ?_
    rw [hlists]
    split
    · next hpriority => simp [hpriority]
    · next hpriority => simp [hpriority]

theorem setPhase (h : Linkage priorityMax linked s) (t : Thread)
    (phase : CallPhase) : Linkage priorityMax linked (s.setPhase t phase) :=
  ⟨h.mem_iff, h.nodup, h.bounded, h.masks, h.marks⟩

theorem rotate (h : Linkage priorityMax linked s) (ht : linked t) :
    Linkage priorityMax linked
      ((s.unlink t).linkLast (s.thread t).currentPriority t) := by
  have hlists (priority : Nat) :
      ((s.unlink t).linkLast (s.thread t).currentPriority t).lists priority =
        if priority = (s.thread t).currentPriority then
          (s.lists priority).erase t ++ [t]
        else s.lists priority := by
    by_cases hpriority : priority = (s.thread t).currentPriority
    · subst hpriority
      simp [Scheduler.unlink, Scheduler.linkLast]
    · have hnot : t ∉ s.lists priority := fun hmem =>
        hpriority ((h.mem_iff t priority).mp hmem).2.symm
      simp [Scheduler.unlink, Scheduler.linkLast, hpriority,
        List.erase_of_not_mem hnot]
  have hperm (priority : Nat) :
      (((s.unlink t).linkLast (s.thread t).currentPriority t).lists
        priority).Perm (s.lists priority) := by
    rw [hlists]
    split
    · next hpriority =>
        have hmem := (h.mem_iff t priority).mpr ⟨ht, hpriority.symm⟩
        exact (List.perm_append_singleton t _).trans
          (List.perm_cons_erase hmem).symm
    · exact List.Perm.refl _
  refine ⟨fun u priority => ?_, fun priority => ?_, h.bounded, h.masks,
    h.marks.congr fun priority => ?_⟩
  · rw [(hperm priority).mem_iff]
    exact h.mem_iff u priority
  · exact (hperm priority).nodup_iff.mpr (h.nodup priority)
  · rw [ne_eq, ne_eq, ← List.length_eq_zero_iff, ← List.length_eq_zero_iff,
      (hperm priority).length_eq]

end Linkage

/-! ## The invariant -/

/-- A record is fit to go to the lists when its thread waits or is on its way
to them. -/
structure Fit (priorityMax : Nat) (record : ThreadRecord) (phase : CallPhase) :
    Prop where
  masks : record.stat = .suspend ∨ phase ≠ .outside → record.masks =
    priorityMasks priorityMax record.currentPriority
  moving : phase ≠ .outside → record.stat ≠ .ready
  initPriority : record.initPriority < priorityMax

structure Queued (priorityMax : Nat) (idle : Thread) (s : Scheduler Thread) :
    Prop where
  linkage : Linkage priorityMax (fun t => (s.thread t).stat = .ready) s
  fit : ∀ t, Fit priorityMax (s.thread t) (s.phase t)
  idle : (s.thread idle).stat = .ready

namespace Queued

variable {priorityMax : Nat} {idle : Thread} {s next : Scheduler Thread}
  {t : Thread}

omit [DecidableEq Thread] in
theorem masks_of_ready (h : Queued priorityMax idle s)
    (hready : (s.thread t).stat = .ready) : (s.thread t).masks =
      priorityMasks priorityMax (s.thread t).currentPriority :=
  (h.linkage.masks t).resolve_right fun hblank => hblank.1 hready

theorem of_update (h : Queued priorityMax idle s) (t : Thread)
    {linked : Thread → Prop} (hlinkage : Linkage priorityMax linked next)
    (hsame : ∀ u ≠ t, next.thread u = s.thread u ∧ next.phase u = s.phase u)
    (hothers : ∀ u ≠ t, linked u ↔ (s.thread u).stat = .ready)
    (hself : linked t ↔ (next.thread t).stat = .ready)
    (hfit : Fit priorityMax (next.thread t) (next.phase t))
    (hidle : t = idle → (next.thread t).stat = .ready) :
    Queued priorityMax idle next := by
  refine ⟨hlinkage.of_iff fun u => ?_, fun u => ?_, ?_⟩
  · by_cases hu : u = t
    · subst hu
      exact hself
    · rw [(hsame u hu).1]
      exact hothers u hu
  · by_cases hu : u = t
    · subst hu
      exact hfit
    · rw [(hsame u hu).1, (hsame u hu).2]
      exact h.fit u
  · by_cases hu : t = idle
    · subst hu
      exact hidle rfl
    · rw [(hsame idle (Ne.symm hu)).1]
      exact h.idle

theorem startup (h : Queued priorityMax idle s)
    (ht : (s.thread t).stat = .init) :
    Queued priorityMax idle
      ((s.startupPriority priorityMax t).setPhase t .numbered) := by
  have hout : ¬ (s.thread t).stat = .ready := by simp [ht]
  refine h.of_update t
    ((h.linkage.setPriority hout (h.fit t).initPriority).setPhase t _)
    (fun u hu => ?_) (fun u hu => Iff.rfl) ?_ ⟨?_, ?_, ?_⟩ ?_
  · simp [Scheduler.startupPriority, hu]
  · simp [Scheduler.startupPriority]
  · simp [Scheduler.startupPriority]
  · simp [Scheduler.startupPriority, ht]
  · simpa [Scheduler.startupPriority] using (h.fit t).initPriority
  · rintro rfl
    simp [h.idle] at ht

theorem startupStat (h : Queued priorityMax idle s)
    (ht : s.phase t ≠ .outside) :
    Queued priorityMax idle ((s.setStat t .suspend).setPhase t .outside) := by
  have hstat := (h.fit t).moving ht
  have hmasks := (h.fit t).masks (.inr ht)
  have hlinkage : Linkage priorityMax (fun u => (s.thread u).stat = .ready)
      (s.setStat t .suspend) := h.linkage.setThread_same rfl rfl
  refine h.of_update t (hlinkage.setPhase t _)
    (fun u hu => ?_) (fun u hu => Iff.rfl) ?_ ⟨?_, ?_, ?_⟩ ?_
  · simp [hu]
  · simpa using hstat
  · simpa using hmasks
  · simp
  · simpa using (h.fit t).initPriority
  · rintro rfl
    exact absurd h.idle hstat

/-- A thread that waits is in none of the lists, so taking it out of its own
changes none of them. -/
theorem resume (h : Queued priorityMax idle s)
    (ht : (s.thread t).stat = .suspend) :
    Queued priorityMax idle ((s.unlink t).setPhase t .unlinked) := by
  have hout : ¬ (s.thread t).stat = .ready := by simp [ht]
  rw [h.linkage.unlink_eq hout]
  refine h.of_update t (h.linkage.setPhase t _)
    (fun u hu => ?_) (fun u hu => Iff.rfl) ?_ ⟨?_, ?_, ?_⟩ ?_
  · simp [hu]
  · simp
  · simpa using (h.fit t).masks (.inl ht)
  · simp [ht]
  · simpa using (h.fit t).initPriority
  · rintro rfl
    exact absurd h.idle hout

theorem insert (h : Queued priorityMax idle s) (hmax : priorityMax ≤ 256)
    (hout : (s.thread t).stat ≠ .ready)
    (hmasks : (s.thread t).masks =
      priorityMasks priorityMax (s.thread t).currentPriority) :
    Queued priorityMax idle
      ((s.rtScheduleInsertThread priorityMax t).setPhase t .outside) := by
  refine h.of_update t ((h.linkage.insert hmax hout hmasks).setPhase t _)
    (fun u hu => ?_) (fun u hu => ?_) ?_ ⟨?_, ?_, ?_⟩ ?_
  · simp [hu]
  · simp [hu]
  · simp
  · simp
  · simp
  · simpa using (h.fit t).initPriority
  · simp

theorem resumeInsert (h : Queued priorityMax idle s)
    (hmax : priorityMax ≤ 256) (ht : s.phase t ≠ .outside) :
    Queued priorityMax idle
      ((s.rtScheduleInsertThread priorityMax t).setPhase t .outside) :=
  h.insert hmax ((h.fit t).moving ht) ((h.fit t).masks (.inr ht))

theorem timeout (h : Queued priorityMax idle s) (hmax : priorityMax ≤ 256)
    (ht : (s.thread t).stat = .suspend) (hphase : s.phase t = .outside) :
    Queued priorityMax idle (s.rtThreadTimeout priorityMax t) := by
  have hout : ¬ (s.thread t).stat = .ready := by simp [ht]
  rw [Scheduler.rtThreadTimeout, h.linkage.unlink_eq hout]
  -- the whole call is one section, so it leaves no trace in the phase
  have hsame : (s.rtScheduleInsertThread priorityMax t).setPhase t .outside =
      s.rtScheduleInsertThread priorityMax t := by
    rw [Scheduler.setPhase, ← hphase]
    exact congrArg (fun phase =>
      { s.rtScheduleInsertThread priorityMax t with phase := phase })
      (Function.update_eq_self t s.phase)
  rw [← hsame]
  exact h.insert hmax hout ((h.fit t).masks (.inl ht))

theorem suspend (h : Queued priorityMax idle s) (hmax : priorityMax ≤ 256)
    (ht : t ≠ idle)
    (hstat : (s.thread t).stat = .ready ∨ (s.thread t).stat = .suspend) :
    Queued priorityMax idle (s.suspendSection priorityMax t) := by
  have hmasks : (s.thread t).masks =
      priorityMasks priorityMax (s.thread t).currentPriority := by
    rcases hstat with hready | hwaits
    · exact h.masks_of_ready hready
    · exact (h.fit t).masks (.inl hwaits)
  have hlinkage : Linkage priorityMax (fun u => (s.thread u).stat = .ready)
      (s.setStat t .suspend) := h.linkage.setThread_same rfl rfl
  refine h.of_update t (hlinkage.remove hmax)
    (fun u hu => ?_) (fun u hu => ?_) ?_ ⟨?_, ?_, ?_⟩ ?_
  · simp [hu, Scheduler.suspendSection]
  · simp [hu]
  · simp [Scheduler.suspendSection]
  · simpa [Scheduler.suspendSection] using hmasks
  · simp [Scheduler.suspendSection]
  · simpa [Scheduler.suspendSection] using (h.fit t).initPriority
  · exact fun heq => absurd heq ht

theorem exit (h : Queued priorityMax idle s) (hmax : priorityMax ≤ 256)
    (ht : t ≠ idle) :
    Queued priorityMax idle
      ((s.rtScheduleRemoveThread priorityMax t).setStat t .close) := by
  refine h.of_update t ((h.linkage.remove hmax).setThread_same rfl rfl)
    (fun u hu => ?_) (fun u hu => ?_) ?_ ⟨?_, ?_, ?_⟩ ?_
  · simp [hu]
  · simp [hu]
  · simp
  · simpa using fun hphase => (h.fit t).masks (.inr hphase)
  · simp
  · simpa using (h.fit t).initPriority
  · exact fun heq => absurd heq ht

theorem control (h : Queued priorityMax idle s) (hmax : priorityMax ≤ 256)
    (t : Thread) {priority : Nat} (hpriority : priority < priorityMax) :
    Queued priorityMax idle (s.rtThreadControl priorityMax t priority) := by
  rw [Scheduler.rtThreadControl]
  split
  · next hready =>
      have hphase : s.phase t = .outside :=
        not_not.mp fun hmoving => (h.fit t).moving hmoving hready
      have hremoved := h.linkage.remove (t := t) hmax
      have hmoved := hremoved.setPriority (t := t) (by simp) hpriority
      refine h.of_update t (hmoved.insert hmax (by simp) (by simp))
        (fun u hu => ?_) (fun u hu => ?_) ?_ ⟨?_, ?_, ?_⟩ ?_
      · simp [hu]
      · simp [hu]
      · simp
      · simp [hphase]
      · simp [hphase]
      · simpa using (h.fit t).initPriority
      · simp
  · next hready =>
      refine h.of_update t (h.linkage.setPriority hready hpriority)
        (fun u hu => ?_) (fun u hu => Iff.rfl) ?_ ⟨?_, ?_, ?_⟩ ?_
      · simp [hu]
      · simp
      · simp
      · exact fun _ => by simpa using hready
      · simpa using (h.fit t).initPriority
      · rintro rfl
        simpa using h.idle

omit [DecidableEq Thread] in
theorem of_same (h : Queued priorityMax idle s)
    (hthread : next.thread = s.thread) (hlists : next.lists = s.lists)
    (hmap : next.map = s.map) (hphase : next.phase = s.phase) :
    Queued priorityMax idle next := by
  obtain ⟨⟨hmem, hnodup, hbounded, hmasks, hmarks⟩, hfit, hidle⟩ := h
  refine ⟨⟨?_, ?_, ?_, ?_, ?_⟩, ?_, ?_⟩ <;>
    simp only [hthread, hlists, hmap, hphase] <;> assumption

theorem yield (h : Queued priorityMax idle s)
    (hyield : s.rtThreadYield = some next) : Queued priorityMax idle next := by
  obtain ⟨t, _, ⟨hready, _, rfl⟩ | ⟨_, rfl⟩⟩ :=
    Scheduler.rtThreadYield_cases hyield
  · exact ⟨h.linkage.rotate hready, h.fit, h.idle⟩
  · exact h

theorem setRemaining (h : Queued priorityMax idle s) (t : Thread)
    (ticks : BitVec 32) :
    Queued priorityMax idle
      (s.setThread t { s.thread t with remainingTick := ticks }) := by
  refine h.of_update t (h.linkage.setThread_same rfl rfl) (fun u hu => ?_)
    (fun u hu => Iff.rfl) ?_ ⟨?_, ?_, ?_⟩ ?_
  · simp [hu]
  · simp
  · simpa using (h.fit t).masks
  · simpa using (h.fit t).moving
  · simpa using (h.fit t).initPriority
  · rintro rfl
    simpa using h.idle

theorem tick (h : Queued priorityMax idle s)
    (htick : s.rtTickIncrease = some next) : Queued priorityMax idle next := by
  obtain ⟨t, _, ⟨_, hyield⟩ | ⟨_, rfl⟩⟩ := Scheduler.rtTickIncrease_cases htick
  · exact (h.setRemaining t _).yield hyield
  · exact h.setRemaining t _

omit [DecidableEq Thread] in
theorem toThread_eq (h : Queued priorityMax idle s)
    (hmax : priorityMax ≤ 256) :
    ∃ t rest, s.toThread priorityMax =
        some ((s.thread t).currentPriority, t) ∧
      (s.thread t).stat = .ready ∧
      s.lists (s.thread t).currentPriority = t :: rest ∧
      ∀ u, (s.thread u).stat = .ready →
        (s.thread t).currentPriority ≤ (s.thread u).currentPriority := by
  have hmem (u : Thread) (hu : (s.thread u).stat = .ready) :
      s.lists (s.thread u).currentPriority ≠ [] :=
    List.ne_nil_of_mem ((h.linkage.mem_iff u _).mpr ⟨hu, rfl⟩)
  obtain ⟨first, hfirst, hlowest⟩ :=
    h.linkage.marks.highest hmax (hmem idle h.idle)
  obtain ⟨t, rest, hlist⟩ := List.exists_cons_of_ne_nil hlowest.here
  obtain ⟨hready, rfl⟩ : (s.thread t).stat = .ready ∧
      (s.thread t).currentPriority = first :=
    (h.linkage.mem_iff t first).mp (by rw [hlist]; exact List.mem_cons_self)
  refine ⟨t, rest, ?_, hready, hlist, fun u hu => hlowest.le (hmem u hu)⟩
  simp [Scheduler.toThread, hfirst, h.linkage.bounded t, hlist]

theorem step (h : Queued priorityMax idle s) (hmax : priorityMax ≤ 256)
    {input : SchedStep Thread} (hpromised : Promised priorityMax idle s input)
    (hstep : s.step priorityMax input = some next) :
    Queued priorityMax idle next := by
  cases input with
  | startup t =>
      cases hstep
      exact h.startup hpromised.1
  | startupStat t =>
      cases hstep
      exact h.startupStat (by simp [show s.phase t = _ from hpromised])
  | start =>
      obtain ⟨⟨_, t⟩, _, hstep⟩ := Option.bind_eq_some_iff.mp hstep
      cases hstep
      exact h.of_same rfl rfl rfl rfl
  | schedule =>
      obtain ⟨hthread, hlists, hmap, hphase⟩ := Scheduler.rtSchedule_same hstep
      exact h.of_same hthread hlists hmap hphase
  | suspend t =>
      cases hstep
      exact h.suspend hmax hpromised.1 hpromised.2
  | resume t =>
      cases hstep
      exact h.resume hpromised.1
  | resumeInsert t =>
      cases hstep
      exact h.resumeInsert hmax (by simp [show s.phase t = _ from hpromised])
  | timeout t =>
      cases hstep
      exact h.timeout hmax hpromised.1 hpromised.2
  | changePriority t priority =>
      cases hstep
      exact h.control hmax t hpromised
  | exit =>
      obtain ⟨t, hcurrent, hstep⟩ := Option.bind_eq_some_iff.mp hstep
      cases hstep
      refine h.exit hmax fun ht => hpromised.2 ?_
      rw [hcurrent, ht]
  | yield => exact h.yield hstep
  | tick => exact h.tick hstep
  | charge t =>
      cases hstep
      exact h.setRemaining t _
  | enterCritical =>
      cases hstep
      exact h.of_same rfl rfl rfl rfl
  | exitCritical =>
      cases hstep
      exact h.of_same rfl rfl rfl rfl

theorem boot {priority : Thread → Nat} {tick : Thread → BitVec 32}
    (hmin : 0 < priorityMax) (hmax : priorityMax ≤ 256)
    (hpriority : ∀ t, priority t < priorityMax) :
    Queued priorityMax idle
      (Scheduler.boot priorityMax idle priority tick) := by
  have hinit (t : Thread) :
      (initRecords priorityMax idle priority tick t).stat = .init ∧
        (initRecords priorityMax idle priority tick t).masks = {} ∧
        (initRecords priorityMax idle priority tick t).initPriority <
          priorityMax ∧
        (initRecords priorityMax idle priority tick t).currentPriority <
          priorityMax := by
    rw [initRecords]
    split
    · exact ⟨rfl, rfl, by simp only [rtThreadInit]; omega,
        by simp only [rtThreadInit]; omega⟩
    · exact ⟨rfl, rfl, hpriority t, hpriority t⟩
  have hempty : Linkage priorityMax (fun _ : Thread => False)
      (rtSystemSchedulerInit priorityMax
        (initRecords priorityMax idle priority tick)) :=
    ⟨by simp [rtSystemSchedulerInit], by simp [rtSystemSchedulerInit],
      fun t => (hinit t).2.2.2, fun t => .inr ⟨not_false, (hinit t).2.1⟩,
      Marks.empty.congr (by simp [rtSystemSchedulerInit])⟩
  have hsuspended : Linkage priorityMax (fun _ : Thread => False)
      (((rtSystemSchedulerInit priorityMax
        (initRecords priorityMax idle priority tick)).setPriority priorityMax
          idle ((rtSystemSchedulerInit priorityMax
            (initRecords priorityMax idle priority tick)).thread
              idle).initPriority).setStat idle .suspend) :=
    (hempty.setPriority not_false (hinit idle).2.2.1).setThread_same rfl rfl
  have hready := hsuspended.insert (t := idle) hmax not_false (by simp)
  have houtside (t : Thread) : (((rtSystemSchedulerInit priorityMax
      (initRecords priorityMax idle priority tick)).setPriority priorityMax
        idle ((rtSystemSchedulerInit priorityMax
          (initRecords priorityMax idle priority tick)).thread
            idle).initPriority).setStat idle .suspend).phase t = .outside := rfl
  rw [Scheduler.boot, Scheduler.rtThreadStartup, Scheduler.startupPriority,
    Scheduler.rtThreadResume, if_neg (by simp),
    Linkage.unlink_eq hsuspended not_false]
  refine ⟨hready.of_iff fun u => ?_, fun u => ?_, by simp⟩
  · by_cases hu : u = idle
    · simp [hu]
    · simp [hu, rtSystemSchedulerInit, (hinit u).1]
  · by_cases hu : u = idle
    · subst hu
      exact ⟨by simp, by simp [houtside],
        by simpa [rtSystemSchedulerInit] using (hinit u).2.2.1⟩
    · exact ⟨by simp [hu, rtSystemSchedulerInit, (hinit u).1],
        by simp [houtside],
        by simpa [hu, rtSystemSchedulerInit] using (hinit u).2.2.1⟩

end Queued

/-- In every order of steps an unlocked `rt_schedule()` finds a thread, it is
ready, no ready thread is more urgent, and it heads the list of its priority;
a locked one changes nothing. -/
theorem most_urgent_thread_runs {priorityMax : Nat} {idle : Thread}
    {priority : Thread → Nat} {tick : Thread → BitVec 32}
    (hmin : 0 < priorityMax) (hmax : priorityMax ≤ 256)
    (hpriority : ∀ t, priority t < priorityMax)
    {steps : List (SchedStep Thread)} {s : Scheduler Thread}
    (run : Run (Scheduler.step priorityMax) (Promised priorityMax idle)
      (Scheduler.boot priorityMax idle priority tick) steps s) :
    (∀ t priority, t ∈ s.lists priority ↔
      (s.thread t).stat = .ready ∧ (s.thread t).currentPriority = priority) ∧
    (∀ priority, (s.lists priority).Nodup) ∧
    ∀ running, s.current = some running →
      ∃ next, s.rtSchedule priorityMax = some next ∧
        (s.lockNest ≠ 0 → next = s) ∧
        (s.lockNest = 0 → ∃ t rest,
          next.current = some t ∧ (next.thread t).stat = .ready ∧
            next.lists (next.thread t).currentPriority = t :: rest ∧
            (t ≠ running →
              next.currentPriority = (next.thread t).currentPriority) ∧
            ∀ u, (next.thread u).stat = .ready →
              (next.thread t).currentPriority ≤
                (next.thread u).currentPriority) := by
  have h : Queued priorityMax idle s :=
    run.invariant (fun state input next hstate hpromised hstep =>
      hstate.step hmax hpromised hstep) (Queued.boot hmin hmax hpriority)
  refine ⟨h.linkage.mem_iff, h.linkage.nodup, fun running hrunning => ?_⟩
  obtain ⟨t, rest, hto, hready, hlist, hurgent⟩ := h.toThread_eq hmax
  by_cases hunlocked : s.lockNest = 0
  · have hbyte := h.linkage.bounded t
    refine ⟨_, Scheduler.rtSchedule_unlocked hunlocked hto hrunning,
      fun hlocked => absurd hunlocked hlocked, fun _ => ⟨t, rest, ?_⟩⟩
    by_cases ht : t = running
    · simpa [ht, hrunning] using ⟨ht ▸ hready, ht ▸ hlist, ht ▸ hurgent⟩
    · have hmod : (s.thread t).currentPriority % 256 =
          (s.thread t).currentPriority := Nat.mod_eq_of_lt (by omega)
      simpa [ht, hmod] using ⟨hready, hlist, hurgent⟩
  · refine ⟨s, ?_, fun _ => rfl, fun hopen => absurd hopen hunlocked⟩
    rw [Scheduler.rtSchedule, if_neg hunlocked]

/-- Two threads share a priority, and the first starts a third that is raised
above them; ticks come into its call. -/
def raisedSteps : List (SchedStep (Fin 4)) :=
  startupSteps 1 ++ startupSteps 2 ++
    [.start, .startup 3, .tick, .startupStat 3, .resume 3, .charge 1,
      .schedule, .resumeInsert 3, .schedule, .suspend 1, .schedule, .yield,
      .changePriority 3 4, .schedule, .enterCritical, .resume 1, .tick,
      .resumeInsert 1]

theorem most_urgent_thread_runs_raised :
    ∃ s : Scheduler (Fin 4), s.current = some 3 ∧ s.lists 9 = [2, 1] ∧
      (∀ t priority, t ∈ s.lists priority ↔ (s.thread t).stat = .ready ∧
        (s.thread t).currentPriority = priority) ∧
      (∀ priority, (s.lists priority).Nodup) ∧
      ∀ running, s.current = some running →
        ∃ next, s.rtSchedule 64 = some next ∧
          (s.lockNest ≠ 0 → next = s) ∧
          (s.lockNest = 0 → ∃ t rest,
            next.current = some t ∧ (next.thread t).stat = .ready ∧
              next.lists (next.thread t).currentPriority = t :: rest ∧
              (t ≠ running →
                next.currentPriority = (next.thread t).currentPriority) ∧
              ∀ u, (next.thread u).stat = .ready →
                (next.thread t).currentPriority ≤
                  (next.thread u).currentPriority) := by
  have computed : (raisedSteps.foldlM (fun s input =>
      if Promised 64 (0 : Fin 4) s input then s.step 64 input else none)
      (Scheduler.boot 64 0 (fun t => if t = 3 then 40 else 9) fun _ => 5)).map
        (fun s => (s.current, s.lists 9)) = some (some 3, [2, 1]) := by
    decide +kernel
  obtain ⟨s, hs, hseen⟩ := Option.map_eq_some_iff.mp computed
  exact ⟨s, congrArg Prod.fst hseen, congrArg Prod.snd hseen,
    most_urgent_thread_runs (by decide) (by decide) (by decide)
      (Run.of_checked hs)⟩

end WncFirmware.Kernel
