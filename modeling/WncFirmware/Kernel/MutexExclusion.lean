import WncFirmware.Kernel.Mutex

/-!
# Mutexes exclude

At most one thread is inside a mutex, whatever the threads do, as long as no
thread enters the same mutex 256 times.
-/

namespace WncFirmware.Kernel

open WncFirmware.Foundation

variable {Thread Name : Type} [DecidableEq Thread] [DecidableEq Name]
  {system after : MutexSystem Thread Name} {depth : Depth Thread Name}
  {thread : Thread} {name : Name}

def Exclusive (system : MutexSystem Thread Name) (depth : Depth Thread Name) :
    Prop :=
  ∀ name, Guarded (system.mutex name) (depth name)
    fun thread => (system.caller thread).waitsFor name = true

theorem Depth.after_take (time : Int32) (other : Name) :
    depth.after system after (.take thread name time) other =
      if other = name ∧ (after.caller thread).returnsEok then
        Function.update (depth other) thread (depth other thread + 1)
      else depth other := by
  funext who
  by_cases hwho : who = thread
  · subst hwho
    simp only [Depth.after, true_and]
    split <;> simp
  · simp only [Depth.after, hwho, false_and, and_false, if_false]
    split
    · rw [Function.update_of_ne hwho]
    · rfl

omit [DecidableEq Thread] in
theorem Exclusive.update (h : Exclusive system depth)
    {mutex : RtMutex Thread} {later : Depth Thread Name}
    (hmutex : after.mutex = Function.update system.mutex name mutex)
    (hown : Guarded mutex (later name)
      fun thread => (after.caller thread).waitsFor name = true)
    (hdepth : ∀ other, other ≠ name → later other = depth other)
    (hwaits : ∀ other, other ≠ name → ∀ thread,
      (after.caller thread).waitsFor other =
        (system.caller thread).waitsFor other) :
    Exclusive after later := by
  intro other
  by_cases hsame : other = name
  · subst hsame
    rw [hmutex, Function.update_self]
    exact hown
  · rw [hmutex, Function.update_of_ne hsame]
    refine (h other).congr (fun thread => ?_) fun thread => ?_
    · rw [hdepth other hsame]
    · rw [hwaits other hsame]

theorem waitsFor_update {result next : RtErr}
    (hcaller : system.caller thread = .running result) (who : Thread) :
    (Function.update system.caller thread (.running next) who).waitsFor name =
      (system.caller who).waitsFor name := by
  by_cases hsame : who = thread
  · subst hsame
    rw [Function.update_self, hcaller]
    rfl
  · rw [Function.update_of_ne hsame]

theorem Exclusive.take (h : Exclusive system depth) {result : RtErr}
    (hcaller : system.caller thread = .running result) {time : Int32}
    (hhold : (system.mutex name).owner = some thread →
      (system.mutex name).hold ≠ 255)
    (hstep : system.rtMutexTake thread name time = some after) :
    Exclusive after (depth.after system after (.take thread name time)) := by
  obtain ⟨howner, rfl⟩ | ⟨howner, hvalue, rfl⟩ | ⟨hvalue, htime, rfl⟩ |
    ⟨owner, howner, hne, rfl⟩ := MutexSystem.rtMutexTake_cases hstep
  · refine h.update rfl ?_ (fun other hother => ?_)
      fun other _ who => waitsFor_update hcaller who
    · refine ((h name).again howner (hhold howner)).congr (fun who => ?_)
        fun who => ?_
      · simp [Depth.after_take, MutexSystem.goOn, MutexCaller.returnsEok]
      · exact iff_of_eq (congrArg (· = true) (waitsFor_update hcaller who))
    · simp [Depth.after_take, hother]
  · have hfree := (h name).owner_eq_none_iff.mpr hvalue
    refine h.update rfl ?_ (fun other hother => ?_)
      fun other _ who => waitsFor_update hcaller who
    · refine ((h name).enter hfree (system.currentPriority thread)).congr
        (fun who => ?_) fun who => ?_
      · simp [Depth.after_take, MutexSystem.goOn, MutexCaller.returnsEok]
      · exact iff_of_eq (congrArg (· = true) (waitsFor_update hcaller who))
    · simp [Depth.after_take, hother]
  · intro other
    refine (h other).congr (fun who => ?_) fun who => ?_
    · simp [Depth.after_take, MutexSystem.goOn, MutexCaller.returnsEok]
    · exact iff_of_eq (congrArg (· = true) (waitsFor_update hcaller who))
  · refine h.update (congrArg (Function.update · name _)
      (MutexSystem.inherit_mutex owner)) ?_ (fun other hother => ?_)
      fun other hother who => ?_
    · have howner : (system.mutex name).owner ≠ none := by simp [howner]
      refine ((h name).wait howner ?_ (rtIpcListSuspend_perm ..)).congr
        (fun who => ?_) fun who => ?_
      · simp [hcaller, MutexCaller.waitsFor]
      · simp [Depth.after_take, MutexSystem.goOn, MutexCaller.returnsEok]
      · by_cases hsame : who = thread
        · subst hsame
          simp [MutexSystem.goOn, MutexCaller.waitsFor]
        · simp [MutexSystem.goOn, MutexSystem.setMutex, hsame]
    · simp [Depth.after_take, hother]
    · by_cases hsame : who = thread
      · subst hsame
        simp [MutexSystem.goOn, hcaller, MutexCaller.waitsFor, Ne.symm hother]
      · simp [MutexSystem.goOn, MutexSystem.setMutex, hsame]

theorem MutexCaller.waitsFor_inj {caller : MutexCaller Name} {first second : Name}
    (hfirst : caller.waitsFor first = true)
    (hsecond : caller.waitsFor second = true) : first = second := by
  cases caller with
  | running result => cases hfirst
  | waiting other time =>
      simp only [waitsFor, decide_eq_true_eq] at hfirst hsecond
      exact hfirst.symm.trans hsecond

theorem MutexCaller.returnsEok_of_waitsFor {caller : MutexCaller Name}
    (h : caller.waitsFor name = true) : caller.returnsEok = false := by
  cases caller with
  | running result => cases h
  | waiting other time => rfl

theorem Depth.after_release_of_same {who : Thread} (other : Name)
    (hwho : after.caller who = system.caller who)
    (hne : ¬(other = name ∧ who = thread)) :
    depth.after system after (.release thread name) other who =
      depth other who := by
  simp only [Depth.after]
  split
  · next hown => exact absurd ⟨hown.1, hown.2.1⟩ hne
  · split
    · next hwaits =>
      rw [hwho, MutexCaller.returnsEok_of_waitsFor hwaits.1] at hwaits
      cases hwaits.2
    · rfl

theorem Depth.after_release_of_running {result : RtErr}
    (hcaller : system.caller thread = .running result) (other : Name) :
    depth.after system after (.release thread name) other thread =
      if other = name ∧ (after.caller thread).returnsEok then
        depth other thread - 1
      else depth other thread := by
  simp [Depth.after, hcaller, MutexCaller.waitsFor]

theorem Exclusive.release_error (h : Exclusive system depth) {result : RtErr}
    (hcaller : system.caller thread = .running result) :
    Exclusive (system.goOn thread (.running .error))
      (depth.after system (system.goOn thread (.running .error))
        (.release thread name)) := by
  intro other
  refine (h other).congr (fun who => ?_) fun who => ?_
  · by_cases hsame : who = thread
    · subst hsame
      simp [Depth.after_release_of_running hcaller, MutexSystem.goOn,
        MutexCaller.returnsEok]
    · apply Depth.after_release_of_same
      · simp [MutexSystem.goOn, hsame]
      · exact fun hboth => hsame hboth.2
  · exact iff_of_eq (congrArg (· = true) (waitsFor_update hcaller who))

theorem Exclusive.release_inside (h : Exclusive system depth) {result : RtErr}
    (hcaller : system.caller thread = .running result)
    (howner : (system.mutex name).owner = some thread)
    (hhold : (system.mutex name).hold - 1 ≠ 0)
    (hafter : after = (system.setMutex name { system.mutex name with
      hold := (system.mutex name).hold - 1 }).goOn thread (.running .eok)) :
    Exclusive after
      (depth.after system after (.release thread name)) := by
  have hsame (who : Thread) (hwho : who ≠ thread) :
      after.caller who = system.caller who := by
    simp [hafter, MutexSystem.goOn, MutexSystem.setMutex, hwho]
  have hown : (after.caller thread).returnsEok = true := by
    simp [hafter, MutexSystem.goOn, MutexCaller.returnsEok]
  refine h.update (by rw [hafter]; rfl) ?_ (fun other hother => ?_)
    fun other _ who => ?_
  · refine ((h name).leave howner hhold).congr (fun who => ?_) fun who => ?_
    · by_cases hwho : who = thread
      · subst hwho
        simp [Depth.after_release_of_running hcaller, hown]
      · rw [Depth.after_release_of_same name (hsame who hwho)
          (fun hboth => hwho hboth.2), Function.update_of_ne hwho]
    · rw [hafter]
      exact iff_of_eq (congrArg (· = true) (waitsFor_update hcaller who))
  · funext who
    by_cases hwho : who = thread
    · subst hwho
      simp [Depth.after_release_of_running hcaller, hother]
    · exact Depth.after_release_of_same other (hsame who hwho)
        fun hboth => hwho hboth.2
  · rw [hafter]
    exact waitsFor_update hcaller who

theorem Exclusive.release_handOver (h : Exclusive system depth)
    {result : RtErr} (hcaller : system.caller thread = .running result)
    (howner : (system.mutex name).owner = some thread)
    (hhold : (system.mutex name).hold - 1 = 0)
    {first : Thread} {rest : List Thread}
    (hlist : (system.mutex name).suspendThread = first :: rest)
    {priority : UInt8}
    (hmutex : after.mutex = Function.update system.mutex name
      { system.mutex name with
        owner := some first
        originalPriority := priority
        hold := (system.mutex name).hold - 1 + 1
        suspendThread := rest })
    (hafter : after.caller = Function.update
      (Function.update system.caller thread (.running .eok)) first
      (.running .eok)) :
    Exclusive after
      (depth.after system after (.release thread name)) := by
  have hwaits : (system.caller first).waitsFor name = true := by
    rw [← (h name).waits_iff, hlist]
    exact List.mem_cons_self
  have hne : first ≠ thread := by
    rintro rfl
    rw [hcaller] at hwaits
    cases hwaits
  have hfirst : after.caller first = .running .eok := by simp [hafter]
  have hthread : after.caller thread = .running .eok := by
    simp [hafter, hne.symm]
  have hsame (who : Thread) (hwho : who ≠ thread) (hother : who ≠ first) :
      after.caller who = system.caller who := by
    simp [hafter, hwho, hother]
  have honly (other : Name) (hother : other ≠ name) :
      (system.caller first).waitsFor other = false := by
    rw [← Bool.not_eq_true]
    exact fun hwaiting => hother (MutexCaller.waitsFor_inj hwaiting hwaits)
  have hdepth := (h name).depth_eq howner
  refine h.update hmutex ?_ (fun other hother => ?_) fun other hother who => ?_
  · refine ((h name).handOver howner hhold hlist priority).congr
      (fun who => ?_) fun who => ?_
    · by_cases hwho : who = thread
      · subst hwho
        have hone := (h name).hold_sub_one howner
        rw [hhold] at hone
        simp only [Depth.after_release_of_running hcaller, hthread, hne.symm,
          if_false, MutexCaller.returnsEok, and_self, if_true]
        exact hone.symm
      · by_cases hwas : who = first
        · subst hwas
          simp [Depth.after, hne, hwaits, hfirst, MutexCaller.returnsEok, hdepth]
        · rw [Depth.after_release_of_same name (hsame who hwho hwas)
            (fun hboth => hwho hboth.2), hdepth, if_neg hwho, if_neg hwas]
    · by_cases hwho : who = thread
      · subst hwho
        simp [hthread, hcaller, MutexCaller.waitsFor]
      · by_cases hwas : who = first
        · subst hwas
          simp [hfirst, MutexCaller.waitsFor]
        · simp [hsame who hwho hwas, hwas]
  · funext who
    by_cases hwho : who = thread
    · subst hwho
      simp [Depth.after_release_of_running hcaller, hother]
    · by_cases hwas : who = first
      · subst hwas
        simp [Depth.after, hother, honly other hother]
      · exact Depth.after_release_of_same other (hsame who hwho hwas)
          fun hboth => hwho hboth.2
  · by_cases hwho : who = thread
    · subst hwho
      simp [hthread, hcaller, MutexCaller.waitsFor]
    · by_cases hwas : who = first
      · subst hwas
        rw [hfirst, honly other hother]
        rfl
      · rw [hsame who hwho hwas]

theorem Exclusive.release_free (h : Exclusive system depth)
    {result : RtErr} (hcaller : system.caller thread = .running result)
    (howner : (system.mutex name).owner = some thread)
    (hhold : (system.mutex name).hold - 1 = 0)
    (hlist : (system.mutex name).suspendThread = [])
    (hmutex : after.mutex = Function.update system.mutex name
      { system.mutex name with
        value := (system.mutex name).value + 1
        owner := none
        originalPriority := 0xff
        hold := (system.mutex name).hold - 1 })
    (hafter : after.caller =
      Function.update system.caller thread (.running .eok)) :
    Exclusive after
      (depth.after system after (.release thread name)) := by
  have hthread : (after.caller thread).returnsEok = true := by
    simp [hafter, MutexCaller.returnsEok]
  have hsame (who : Thread) (hwho : who ≠ thread) :
      after.caller who = system.caller who := by
    simp [hafter, hwho]
  refine h.update hmutex ?_ (fun other hother => ?_) fun other hother who => ?_
  · refine ((h name).setFree howner hhold hlist).congr (fun who => ?_)
      fun who => ?_
    · by_cases hwho : who = thread
      · subst hwho
        have hone := (h name).hold_sub_one howner
        rw [hhold] at hone
        simp only [Depth.after_release_of_running hcaller, hthread, and_self,
          if_true]
        exact hone.symm
      · rw [Depth.after_release_of_same name (hsame who hwho)
          (fun hboth => hwho hboth.2), (h name).depth_eq howner, if_neg hwho]
    · rw [hafter, waitsFor_update hcaller]
  · funext who
    by_cases hwho : who = thread
    · subst hwho
      simp [Depth.after_release_of_running hcaller, hother]
    · exact Depth.after_release_of_same other (hsame who hwho)
        fun hboth => hwho hboth.2
  · rw [hafter, waitsFor_update hcaller]

theorem Exclusive.release (h : Exclusive system depth) {result : RtErr}
    (hcaller : system.caller thread = .running result) :
    Exclusive (system.rtMutexRelease thread name)
      (depth.after system (system.rtMutexRelease thread name)
        (.release thread name)) := by
  obtain ⟨howner, heq⟩ | ⟨howner, hhold, heq⟩ | ⟨howner, hhold⟩ :=
    system.rtMutexRelease_cases thread name
  · rw [heq]
    exact h.release_error hcaller
  · exact h.release_inside hcaller howner hhold heq
  · cases hlist : (system.mutex name).suspendThread with
    | nil =>
        obtain ⟨hmutex, hafter, -⟩ :=
          MutexSystem.rtMutexRelease_of_nil howner hhold hlist rfl
        exact h.release_free hcaller howner hhold hlist hmutex hafter
    | cons first rest =>
        obtain ⟨hmutex, hafter, -⟩ :=
          MutexSystem.rtMutexRelease_of_cons howner hhold hlist rfl
        exact h.release_handOver hcaller howner hhold hlist hmutex hafter

theorem Exclusive.expire (h : Exclusive system depth) {time : Int32}
    (hcaller : system.caller thread = .waiting name time) :
    Exclusive (system.rtThreadTimeout thread name) depth := by
  have hwaits : (system.caller thread).waitsFor name = true := by
    simp [hcaller, MutexCaller.waitsFor]
  refine h.update rfl ?_ (fun _ _ => rfl) fun other hother who => ?_
  · refine ((h name).expire hwaits).congr (fun _ => rfl) fun who => ?_
    by_cases hwho : who = thread
    · subst hwho
      simp [MutexSystem.rtThreadTimeout, MutexSystem.goOn, MutexCaller.waitsFor]
    · simp [MutexSystem.rtThreadTimeout, MutexSystem.goOn,
        MutexSystem.setMutex, hwho]
  · by_cases hwho : who = thread
    · subst hwho
      simp [MutexSystem.rtThreadTimeout, MutexSystem.goOn, hcaller,
        MutexCaller.waitsFor, Ne.symm hother]
    · simp [MutexSystem.rtThreadTimeout, MutexSystem.goOn,
        MutexSystem.setMutex, hwho]

def NotTooDeep (system : MutexSystem Thread Name) :
    MutexStep Thread Name → Prop
  | .take thread name _ => (system.mutex name).owner = some thread →
      (system.mutex name).hold ≠ 255
  | _ => True

instance (system : MutexSystem Thread Name) (input : MutexStep Thread Name) :
    Decidable (NotTooDeep system input) :=
  match input with
  | .take _ _ _ => inferInstanceAs (Decidable (_ → _))
  | .release _ _ => .isTrue trivial
  | .expire _ => .isTrue trivial

theorem Exclusive.step (h : Exclusive system depth)
    {input : MutexStep Thread Name} {later : Depth Thread Name}
    (hguard : NotTooDeep system input)
    (hstep : countedStep (system, depth) input = some (after, later)) :
    Exclusive after later := by
  obtain ⟨next, hnext, heq⟩ := Option.map_eq_some_iff.mp hstep
  cases heq
  simp only at hnext ⊢
  cases input with
  | take thread name time =>
      rw [MutexSystem.step] at hnext
      split at hnext
      · next result hcaller => exact h.take hcaller hguard hnext
      · cases hnext
  | release thread name =>
      rw [MutexSystem.step] at hnext
      split at hnext
      · next result hcaller =>
        cases hnext
        exact h.release hcaller
      · cases hnext
  | expire thread =>
      rw [MutexSystem.step] at hnext
      split at hnext
      · next name time hcaller =>
        split at hnext <;> cases hnext
        exact h.expire hcaller
      · cases hnext

def MutexSystem.start (flag : Name → RtIpcFlag) (priority : Thread → UInt8) :
    MutexSystem Thread Name where
  mutex name := rtMutexInit (flag name)
  currentPriority := priority
  caller _ := .running .eok

omit [DecidableEq Thread] in
theorem exclusive_start (flag : Name → RtIpcFlag) (priority : Thread → UInt8) :
    Exclusive (.start flag priority) (fun _ _ => 0) := by
  intro name
  exact {
    value_eq := rfl
    free := fun _ => ⟨rfl, rfl⟩
    hold_eq := fun _ howner => by cases howner
    outside := fun _ _ => rfl
    nodup := List.nodup_nil
    waits_iff := fun thread => by
      simp [MutexSystem.start, rtMutexInit, MutexCaller.waitsFor] }

variable {flag : Name → RtIpcFlag} {priority : Thread → UInt8}
  {inputs : List (MutexStep Thread Name)}

theorem exclusive_of_run
    {guard : MutexSystem Thread Name × Depth Thread Name →
      MutexStep Thread Name → Prop}
    (hguard : ∀ state input, guard state input → NotTooDeep state.1 input)
    (run : Run countedStep guard (.start flag priority, fun _ _ => 0) inputs
      (system, depth)) : Exclusive system depth := by
  have hkeep (state : MutexSystem Thread Name × Depth Thread Name)
      (input : MutexStep Thread Name)
      (after : MutexSystem Thread Name × Depth Thread Name)
      (h : Exclusive state.1 state.2) (hdeep : guard state input)
      (hstep : countedStep state input = some after) :
      Exclusive after.1 after.2 := h.step (hguard state input hdeep) hstep
  exact @Run.invariant _ _ _ _ (fun state => Exclusive state.1 state.2) hkeep
    _ _ _ run (exclusive_start flag priority)

/--
At most one thread is inside a mutex; it is the owner, as deep inside as the
mutex counts.  A mutex that nobody is inside of is free, and nobody waits.
-/
theorem mutex_excludes
    (run : Run countedStep (fun state => NotTooDeep state.1)
      (.start flag priority, fun _ _ => 0) inputs (system, depth)) :
    (∀ name first second, 0 < depth name first → 0 < depth name second →
      first = second) ∧
    (∀ name thread, depth name thread =
      if (system.mutex name).owner = some thread then
        (system.mutex name).hold.toNat else 0) ∧
    ∀ name, (∀ thread, depth name thread = 0) →
      (system.mutex name).value = 1 ∧
        ∀ thread, (system.caller thread).waitsFor name = false := by
  have h := exclusive_of_run (fun _ _ => id) run
  have howner (name : Name) (thread : Thread) (hpos : 0 < depth name thread) :
      (system.mutex name).owner = some thread := by
    by_contra hne
    exact absurd ((h name).outside thread hne) (Nat.ne_of_gt hpos)
  refine ⟨?_, ?_, ?_⟩
  · intro name first second hfirst hsecond
    exact Option.some.inj
      ((howner name first hfirst).symm.trans (howner name second hsecond))
  · intro name thread
    split
    · next hsome => exact ((h name).hold_eq thread hsome).1.symm
    · next hne => exact (h name).outside thread hne
  · intro name hzero
    have hfree : (system.mutex name).owner = none := by
      cases hcase : (system.mutex name).owner with
      | none => rfl
      | some thread =>
          have hpos := ((h name).hold_eq thread hcase).2
          rw [hzero thread] at hpos
          cases hpos
    refine ⟨by simp [(h name).value_eq, hfree], fun thread => ?_⟩
    rw [← Bool.not_eq_true, ← (h name).waits_iff, ((h name).free hfree).2]
    exact List.not_mem_nil

/-! ## Two threads at one mutex -/

/-- The thread 0 has the mutex when the more urgent 1 comes, and leaves it. -/
def urgentWaits : List (MutexStep (Fin 2) Unit) :=
  [.take 0 () (-1), .take 0 () (-1), .take 1 () (-1), .release 0 ()]

def urgentPriority : Fin 2 → UInt8
  | 0 => 12
  | 1 => 9

theorem mutex_excludes_urgent :
    ∃ (system : MutexSystem (Fin 2) Unit) (depth : Depth (Fin 2) Unit),
      depth () 0 = 1 ∧
      (∀ name first second, 0 < depth name first → 0 < depth name second →
        first = second) ∧
      (∀ name thread, depth name thread =
        if (system.mutex name).owner = some thread then
          (system.mutex name).hold.toNat else 0) ∧
      ∀ name, (∀ thread, depth name thread = 0) →
        (system.mutex name).value = 1 ∧
          ∀ thread, (system.caller thread).waitsFor name = false := by
  have run : Run countedStep (fun state => NotTooDeep state.1)
      (.start (fun _ => .prio) urgentPriority, fun _ _ => 0) urgentWaits _ :=
    Run.of_checked rfl
  exact ⟨_, _, rfl, mutex_excludes run⟩

end WncFirmware.Kernel
