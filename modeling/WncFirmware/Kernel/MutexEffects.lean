import WncFirmware.Kernel.MutexExclusion

/-!
# What a thread sees of its calls

The effect of a take without a time limit, and of a release by the owner, on
the caller and on everybody else.
-/

namespace WncFirmware.Kernel

open WncFirmware.Foundation

variable {Thread Name : Type} [DecidableEq Thread] [DecidableEq Name]
  {system after : MutexSystem Thread Name} {depth later : Depth Thread Name}
  {thread other : Thread} {name : Name} {result : RtErr}

def rtWaitingForever : Int32 := -1

omit [DecidableEq Thread] in
theorem Exclusive.owner_of_inside (h : Exclusive system depth)
    (hinside : 0 < depth name thread) :
    (system.mutex name).owner = some thread := by
  by_contra hne
  rw [(h name).outside thread hne] at hinside
  exact Nat.lt_irrefl 0 hinside

omit [DecidableEq Thread] in
theorem Exclusive.eq_of_inside (h : Exclusive system depth)
    (hthread : 0 < depth name thread) (hother : 0 < depth name other) :
    thread = other :=
  Option.some.inj
    ((h.owner_of_inside hthread).symm.trans (h.owner_of_inside hother))

omit [DecidableEq Thread] in
theorem Exclusive.outside (h : Exclusive system depth)
    (howner : (system.mutex name).owner ≠ some thread) :
    depth name thread = 0 := (h name).outside thread howner

theorem Exclusive.take_effect (h : Exclusive system depth)
    (hrunning : system.caller thread = .running result)
    (hstep : countedStep (system, depth)
      (.take thread name rtWaitingForever) = some (after, later)) :
    (∀ other ≠ thread, after.caller other = system.caller other ∧
        later name other = depth name other) ∧
      (after.caller thread = .running .eok ∧
          later name thread = depth name thread + 1 ∨
        after.caller thread = .waiting name rtWaitingForever ∧
          later name thread = depth name thread ∧
          depth name thread = 0 ∧ ∃ owner ≠ thread, 0 < depth name owner) := by
  obtain ⟨reached, hreached, heq⟩ := Option.map_eq_some_iff.mp hstep
  cases heq
  simp only [MutexSystem.step, hrunning] at hreached
  have hdepth := @Depth.after_take Thread Name _ _ system after depth thread
    name rtWaitingForever name
  simp only [hdepth, true_and]
  rcases MutexSystem.rtMutexTake_cases hreached with
    ⟨_, rfl⟩ | ⟨_, _, rfl⟩ | ⟨_, hzero, _⟩ | ⟨owner, howner, hne, rfl⟩
  · refine ⟨fun other hother => ?_, .inl ?_⟩
    · simp [MutexSystem.goOn, MutexSystem.setMutex, MutexCaller.returnsEok,
        hother]
    · simp [MutexSystem.goOn, MutexCaller.returnsEok]
  · refine ⟨fun other hother => ?_, .inl ?_⟩
    · simp [MutexSystem.goOn, MutexSystem.setMutex, MutexCaller.returnsEok,
        hother]
    · simp [MutexSystem.goOn, MutexCaller.returnsEok]
  · exact absurd hzero (by decide)
  · refine ⟨fun other hother => ?_, .inr ⟨?_, ?_, ?_, owner, hne, ?_⟩⟩
    · simp [MutexSystem.goOn, MutexSystem.setMutex, MutexCaller.returnsEok,
        hother]
    · simp [MutexSystem.goOn]
    · simp [MutexSystem.goOn, MutexCaller.returnsEok]
    · refine h.outside ?_
      rw [howner]
      exact fun hsame => hne (Option.some.inj hsame)
    · exact ((h name).hold_eq owner howner).2

/-- The caller is inside no more than before, and who waits may enter when it
has left. -/
theorem Exclusive.release_effect (h : Exclusive system depth)
    (hrunning : system.caller thread = .running result)
    (hinside : 0 < depth name thread)
    (hstep : countedStep (system, depth) (.release thread name) =
      some (after, later)) :
    after.caller thread = .running .eok ∧
      later name thread = depth name thread - 1 ∧
      ∀ other ≠ thread,
        after.caller other = system.caller other ∧
            later name other = depth name other ∨
          (system.caller other).waitsFor name = true ∧
            after.caller other = .running .eok ∧
            later name other = depth name other + 1 ∧
            depth name thread = 1 := by
  have howner := h.owner_of_inside hinside
  obtain ⟨reached, hreached, heq⟩ := Option.map_eq_some_iff.mp hstep
  cases heq
  simp only [MutexSystem.step, hrunning, Option.some.injEq] at hreached
  have hown := @Depth.after_release_of_running Thread Name _ _ system after
    depth thread name result hrunning name
  rcases MutexSystem.rtMutexRelease_cases system thread name with
    ⟨hne, _⟩ | ⟨_, _, hafter⟩ | ⟨_, hhold⟩
  · exact absurd howner hne
  · rw [hafter] at hreached
    have hcaller : after.caller =
        Function.update system.caller thread (.running .eok) := by
      rw [← hreached]
      rfl
    refine ⟨by simp [hcaller], ?_, fun other hother => .inl ?_⟩
    · simp [hown, hcaller, MutexCaller.returnsEok]
    · have hsame : after.caller other = system.caller other := by
        simp [hcaller, hother]
      exact ⟨hsame, Depth.after_release_of_same name hsame
        fun hboth => hother hboth.2⟩
  · have hlast : depth name thread = 1 := by
      have hcount := (h name).hold_sub_one howner
      rw [hhold] at hcount
      have hzero : (0 : UInt8).toNat = 0 := rfl
      omega
    cases hlist : (system.mutex name).suspendThread with
    | nil =>
        have hcaller := (MutexSystem.rtMutexRelease_of_nil howner hhold hlist
          hreached.symm).2.1
        refine ⟨by simp [hcaller], ?_, fun other hother => .inl ?_⟩
        · simp [hown, hcaller, MutexCaller.returnsEok]
        · have hsame : after.caller other = system.caller other := by
            simp [hcaller, hother]
          exact ⟨hsame, Depth.after_release_of_same name hsame
            fun hboth => hother hboth.2⟩
    | cons first rest =>
        have hcaller := (MutexSystem.rtMutexRelease_of_cons howner hhold hlist
          hreached.symm).2.1
        have hwaits : (system.caller first).waitsFor name = true :=
          ((h name).waits_iff first).mp (by rw [hlist]; exact .head _)
        have hfirst : thread ≠ first := by
          rintro rfl
          rw [hrunning] at hwaits
          cases hwaits
        refine ⟨by simp [hcaller, hfirst], ?_, fun other hother => ?_⟩
        · simp [hown, hcaller, hfirst, MutexCaller.returnsEok]
        · by_cases hsame : other = first
          · subst hsame
            refine .inr ⟨hwaits, by simp [hcaller], ?_, hlast⟩
            simp [Depth.after, hother, hwaits, hcaller,
              MutexCaller.returnsEok]
          · have hcallers : after.caller other = system.caller other := by
              simp [hcaller, hother, hsame]
            exact .inl ⟨hcallers, Depth.after_release_of_same name hcallers
              fun hboth => hother hboth.2⟩

end WncFirmware.Kernel
