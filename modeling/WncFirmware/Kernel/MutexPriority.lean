import Mathlib.Data.Fintype.Basic
import WncFirmware.Kernel.MutexExclusion

/-!
# Mutexes and priorities

A thread that is inside of one mutex at a time is as urgent as all that wait
for it, and as it was before when it has left.
-/

namespace WncFirmware.Kernel

open WncFirmware.Foundation

variable {Thread Name : Type} [DecidableEq Thread] [DecidableEq Name]
  {system after : MutexSystem Thread Name} {depth : Depth Thread Name}
  {thread : Thread} {name : Name} {base priority : Thread → UInt8}
  {inputs : List (MutexStep Thread Name)}

omit [DecidableEq Thread] in
theorem Exclusive.notMem_of_running (h : Exclusive system depth)
    {result : RtErr} (hcaller : system.caller thread = .running result)
    (name : Name) : thread ∉ (system.mutex name).suspendThread := by
  rw [(h name).waits_iff, hcaller]
  exact Bool.false_ne_true

/-- `base` are the priorities that the threads were created with. -/
structure Inherits (system : MutexSystem Thread Name) (base : Thread → UInt8) :
    Prop where
  flag : ∀ name, (system.mutex name).flag = .prio
  /-- a thread that owns nothing is as it was -/
  base_eq : ∀ thread, (∀ name, (system.mutex name).owner ≠ some thread) →
    system.currentPriority thread = base thread
  original_eq : ∀ name thread, (system.mutex name).owner = some thread →
    (system.mutex name).originalPriority = base thread
  once : ∀ name other thread, (system.mutex name).owner = some thread →
    (system.mutex other).owner = some thread → name = other
  waits_free : ∀ name thread, thread ∈ (system.mutex name).suspendThread →
    ∀ other, (system.mutex other).owner ≠ some thread
  owner_le : ∀ name thread, (system.mutex name).owner = some thread →
    system.currentPriority thread ≤ base thread ∧
      ∀ waiting ∈ (system.mutex name).suspendThread,
        system.currentPriority thread ≤ system.currentPriority waiting
  ordered : ∀ name, (system.mutex name).suspendThread.Pairwise
    fun first second =>
      system.currentPriority first ≤ system.currentPriority second

def OneAtATime (system : MutexSystem Thread Name) :
    MutexStep Thread Name → Prop
  | .take thread name _ => ∀ other,
      (system.mutex other).owner = some thread → other = name
  | _ => True

instance [Fintype Name] (system : MutexSystem Thread Name)
    (input : MutexStep Thread Name) : Decidable (OneAtATime system input) :=
  match input with
  | .take _ _ _ => inferInstanceAs (Decidable (∀ _, _))
  | .release _ _ => .isTrue trivial
  | .expire _ => .isTrue trivial

omit [DecidableEq Thread] [DecidableEq Name] in
theorem Inherits.congr (h : Inherits system base)
    (hpriority : after.currentPriority = system.currentPriority)
    (hmutex : ∀ name, (after.mutex name).flag = (system.mutex name).flag ∧
      (after.mutex name).owner = (system.mutex name).owner ∧
      (after.mutex name).originalPriority =
        (system.mutex name).originalPriority ∧
      (after.mutex name).suspendThread.Sublist
        (system.mutex name).suspendThread) :
    Inherits after base where
  flag name := by rw [(hmutex name).1, h.flag]
  base_eq thread hnone := by
    rw [hpriority]
    refine h.base_eq thread fun name => ?_
    rw [← (hmutex name).2.1]
    exact hnone name
  original_eq name thread howner := by
    rw [(hmutex name).2.1] at howner
    rw [(hmutex name).2.2.1]
    exact h.original_eq name thread howner
  once name other thread hname hother := by
    rw [(hmutex name).2.1] at hname
    rw [(hmutex other).2.1] at hother
    exact h.once name other thread hname hother
  waits_free name thread hmem other := by
    rw [(hmutex other).2.1]
    exact h.waits_free name thread ((hmutex name).2.2.2.subset hmem) other
  owner_le name thread howner := by
    rw [(hmutex name).2.1] at howner
    rw [hpriority]
    refine ⟨(h.owner_le name thread howner).1, fun waiting hwaiting => ?_⟩
    exact (h.owner_le name thread howner).2 waiting
      ((hmutex name).2.2.2.subset hwaiting)
  ordered name := by
    rw [hpriority]
    exact (h.ordered name).sublist (hmutex name).2.2.2

omit [DecidableEq Thread] [DecidableEq Name] in
/-- A change of priorities that those who wait do not see keeps their order. -/
theorem Inherits.ordered_of_same (h : Inherits system base)
    {priority : Thread → UInt8} {list : List Thread}
    (hlist : list.Sublist (system.mutex name).suspendThread)
    (hsame : ∀ who ∈ (system.mutex name).suspendThread,
      priority who = system.currentPriority who) :
    list.Pairwise fun first second => priority first ≤ priority second := by
  refine ((h.ordered name).sublist hlist).imp_of_mem ?_
  intro first second hfirst hsecond hle
  rw [hsame first (hlist.subset hfirst), hsame second (hlist.subset hsecond)]
  exact hle

/--
A mutex passes to a thread that owned nothing, or to nobody; the owner before
gets its own priority back.
-/
theorem Inherits.pass (h : Inherits system base) {mutex : RtMutex Thread}
    (hmutex : after.mutex = Function.update system.mutex name mutex)
    (hflag : mutex.flag = .prio)
    (hpriority : ∀ who, after.currentPriority who =
      if (system.mutex name).owner = some who then base who
      else system.currentPriority who)
    (hlist : mutex.suspendThread.Sublist (system.mutex name).suspendThread)
    (hnew : ∀ who, mutex.owner = some who →
      (∀ other, (system.mutex other).owner ≠ some who) ∧
      mutex.originalPriority = base who ∧
      (∀ other, who ∉ (after.mutex other).suspendThread) ∧
      ∀ waiting ∈ mutex.suspendThread,
        system.currentPriority who ≤ system.currentPriority waiting) :
    Inherits after base := by
  have hself : after.mutex name = mutex := by rw [hmutex, Function.update_self]
  have hrest (other : Name) (hother : other ≠ name) :
      after.mutex other = system.mutex other := by
    rw [hmutex, Function.update_of_ne hother]
  have hsub (other : Name) : (after.mutex other).suspendThread.Sublist
      (system.mutex other).suspendThread := by
    by_cases hother : other = name
    · rw [hother, hself]
      exact hlist
    · rw [hrest other hother]
  have hwaiting (other : Name) (who : Thread)
      (hwho : who ∈ (system.mutex other).suspendThread) :
      after.currentPriority who = system.currentPriority who := by
    rw [hpriority, if_neg (h.waits_free other who hwho name)]
  constructor
  case flag =>
    intro other
    by_cases hother : other = name
    · rw [hother, hself, hflag]
    · rw [hrest other hother, h.flag]
  case base_eq =>
    intro who hnone
    rw [hpriority]
    split
    · rfl
    · next howner =>
      refine h.base_eq who fun other => ?_
      by_cases hother : other = name
      · rwa [hother]
      · rw [← hrest other hother]
        exact hnone other
  case original_eq =>
    intro other who howner
    by_cases hother : other = name
    · rw [hother, hself] at howner ⊢
      exact (hnew who howner).2.1
    · rw [hrest other hother] at howner ⊢
      exact h.original_eq other who howner
  case once =>
    intro first second who hfirst hsecond
    by_cases hone : first = name <;> by_cases htwo : second = name
    · rw [hone, htwo]
    · rw [hone, hself] at hfirst
      rw [hrest second htwo] at hsecond
      exact absurd hsecond ((hnew who hfirst).1 second)
    · rw [htwo, hself] at hsecond
      rw [hrest first hone] at hfirst
      exact absurd hfirst ((hnew who hsecond).1 first)
    · rw [hrest first hone] at hfirst
      rw [hrest second htwo] at hsecond
      exact h.once first second who hfirst hsecond
  case waits_free =>
    intro other who hwho second hsecond
    by_cases htwo : second = name
    · rw [htwo, hself] at hsecond
      exact (hnew who hsecond).2.2.1 other hwho
    · rw [hrest second htwo] at hsecond
      exact h.waits_free other who ((hsub other).subset hwho) second hsecond
  case owner_le =>
    intro other who howner
    by_cases hother : other = name
    · subst hother
      rw [hself] at howner ⊢
      obtain ⟨hnone, -, -, hle⟩ := hnew who howner
      have hsame : after.currentPriority who = system.currentPriority who := by
        rw [hpriority, if_neg (hnone other)]
      refine ⟨?_, fun waiting hmem => ?_⟩
      · rw [hsame, h.base_eq who hnone]
        exact UInt8.le_refl _
      · rw [hsame, hwaiting other waiting (hlist.subset hmem)]
        exact hle waiting hmem
    · rw [hrest other hother] at howner ⊢
      have hsame : after.currentPriority who = system.currentPriority who := by
        rw [hpriority, if_neg]
        exact fun hname => hother (h.once other name who howner hname)
      rw [hsame]
      refine ⟨(h.owner_le other who howner).1, fun waiting hmem => ?_⟩
      rw [hwaiting other waiting hmem]
      exact (h.owner_le other who howner).2 waiting hmem
  case ordered =>
    intro other
    exact h.ordered_of_same (hsub other) (hwaiting other)

omit [DecidableEq Name] in
theorem MutexSystem.inherit_priority (owner who : Thread) :
    (system.inherit owner thread).currentPriority who =
      if who = owner ∧ system.currentPriority thread <
          system.currentPriority owner then system.currentPriority thread
      else system.currentPriority who := by
  rw [inherit]
  by_cases hlt : system.currentPriority thread < system.currentPriority owner
  · simp only [hlt, if_true, and_true, changePriority, Function.update_apply]
  · simp [hlt]

theorem Inherits.wait (h : Inherits system base)
    {owner : Thread} (howner : (system.mutex name).owner = some owner)
    (hnone : ∀ other, (system.mutex other).owner ≠ some thread)
    (hpriority : after.currentPriority =
      (system.inherit owner thread).currentPriority)
    {list : List Thread}
    (hmutex : after.mutex = Function.update system.mutex name
      { system.mutex name with suspendThread := list })
    (hlist : list = insertByPriority after.currentPriority thread
      (system.mutex name).suspendThread) :
    Inherits after base := by
  have hself : after.mutex name =
      { system.mutex name with suspendThread := list } := by
    rw [hmutex, Function.update_self]
  have hrest (other : Name) (hother : other ≠ name) :
      after.mutex other = system.mutex other := by
    rw [hmutex, Function.update_of_ne hother]
  have hkept (other : Name) : (after.mutex other).flag =
        (system.mutex other).flag ∧
      (after.mutex other).owner = (system.mutex other).owner ∧
      (after.mutex other).originalPriority =
        (system.mutex other).originalPriority := by
    by_cases hother : other = name
    · rw [hother, hself]
      exact ⟨rfl, rfl, rfl⟩
    · rw [hrest other hother]
      exact ⟨rfl, rfl, rfl⟩
  have hmem (other : Name) (who : Thread)
      (hwho : who ∈ (after.mutex other).suspendThread) :
      (other = name ∧ who = thread) ∨
        who ∈ (system.mutex other).suspendThread := by
    by_cases hother : other = name
    · subst hother
      rw [hself, hlist, (insertByPriority_perm ..).mem_iff] at hwho
      rcases List.mem_cons.mp hwho with hsame | hwho
      · exact .inl ⟨rfl, hsame⟩
      · exact .inr hwho
    · rw [hrest other hother] at hwho
      exact .inr hwho
  have hsame (who : Thread) (hwho : who ≠ owner) :
      after.currentPriority who = system.currentPriority who := by
    rw [hpriority, MutexSystem.inherit_priority]
    simp [hwho]
  have hlower : after.currentPriority owner ≤ system.currentPriority owner ∧
      after.currentPriority owner ≤ system.currentPriority thread := by
    rw [hpriority, MutexSystem.inherit_priority]
    split
    · next hlt => exact ⟨UInt8.le_of_lt hlt.2, UInt8.le_refl _⟩
    · next hge =>
      refine ⟨UInt8.le_refl _, UInt8.not_lt.mp fun hlt => hge ⟨rfl, hlt⟩⟩
  have hne : thread ≠ owner := by
    rintro rfl
    exact hnone name howner
  have hwaiting (other : Name) (who : Thread)
      (hwho : who ∈ (system.mutex other).suspendThread) :
      after.currentPriority who = system.currentPriority who := by
    apply hsame
    rintro rfl
    exact h.waits_free other who hwho name howner
  constructor
  case flag =>
    intro other
    rw [(hkept other).1, h.flag]
  case base_eq =>
    intro who hwho
    rw [hsame]
    · refine h.base_eq who fun other => ?_
      rw [← (hkept other).2.1]
      exact hwho other
    · rintro rfl
      exact hwho name ((hkept name).2.1.trans howner)
  case original_eq =>
    intro other who hwho
    rw [(hkept other).2.1] at hwho
    rw [(hkept other).2.2, h.original_eq other who hwho]
  case once =>
    intro first second who hfirst hsecond
    rw [(hkept first).2.1] at hfirst
    rw [(hkept second).2.1] at hsecond
    exact h.once first second who hfirst hsecond
  case waits_free =>
    intro other who hwho second
    rw [(hkept second).2.1]
    rcases hmem other who hwho with ⟨-, rfl⟩ | hwho
    · exact hnone second
    · exact h.waits_free other who hwho second
  case owner_le =>
    intro other who hwho
    rw [(hkept other).2.1] at hwho
    obtain ⟨hbase, hle⟩ := h.owner_le other who hwho
    have hwas : after.currentPriority who ≤ system.currentPriority who := by
      by_cases heq : who = owner
      · rw [heq]
        exact hlower.1
      · rw [hsame who heq]
        exact UInt8.le_refl _
    refine ⟨UInt8.le_trans hwas hbase, fun waiting hmember => ?_⟩
    rcases hmem other waiting hmember with ⟨rfl, rfl⟩ | hmember
    · obtain rfl : who = owner := Option.some.inj (hwho.symm.trans howner)
      rw [hsame waiting hne]
      exact hlower.2
    · rw [hwaiting other waiting hmember]
      exact UInt8.le_trans hwas (hle waiting hmember)
  case ordered =>
    intro other
    by_cases hother : other = name
    · subst hother
      rw [hself, hlist]
      exact insertByPriority_pairwise
        (h.ordered_of_same (List.Sublist.refl _) (hwaiting other))
    · rw [hrest other hother]
      exact h.ordered_of_same (List.Sublist.refl _) (hwaiting other)

theorem Inherits.take (h : Inherits system base)
    (hexclusive : Exclusive system depth) {result : RtErr}
    (hcaller : system.caller thread = .running result) {time : Int32}
    (hone : OneAtATime system (.take thread name time))
    (hstep : system.rtMutexTake thread name time = some after) :
    Inherits after base := by
  have hrunning := hexclusive.notMem_of_running hcaller
  obtain ⟨howner, rfl⟩ | ⟨-, hvalue, rfl⟩ | ⟨-, -, rfl⟩ |
    ⟨owner, howner, hne, rfl⟩ := MutexSystem.rtMutexTake_cases hstep
  · refine h.congr rfl fun other => ?_
    by_cases hother : other = name
    · subst hother
      simp [MutexSystem.goOn, MutexSystem.setMutex]
    · simp [MutexSystem.goOn, MutexSystem.setMutex, hother]
  · have hfree := (hexclusive name).owner_eq_none_iff.mpr hvalue
    have hempty := ((hexclusive name).free hfree).2
    have hnone (other : Name) : (system.mutex other).owner ≠ some thread := by
      intro hother
      obtain rfl := hone other hother
      rw [hfree] at hother
      cases hother
    refine h.pass rfl (h.flag name) (fun who => ?_) (List.Sublist.refl _)
      fun who hwho => ?_
    · rw [if_neg (by simp [hfree])]
      rfl
    · obtain rfl : thread = who := Option.some.inj hwho
      refine ⟨hnone, h.base_eq thread hnone, fun other => ?_, ?_⟩
      · by_cases hother : other = name
        · subst hother
          simpa [MutexSystem.goOn, MutexSystem.setMutex] using hrunning other
        · simpa [MutexSystem.goOn, MutexSystem.setMutex, hother] using
            hrunning other
      · simp [hempty]
  · exact h.congr rfl fun other => ⟨rfl, rfl, rfl, List.Sublist.refl _⟩
  · refine h.wait howner (fun other hother => ?_) rfl
      (congrArg (Function.update · name _) (MutexSystem.inherit_mutex owner)) ?_
    · obtain rfl := hone other hother
      exact hne (Option.some.inj (howner.symm.trans hother))
    · rw [h.flag name]
      rfl

theorem Inherits.release (h : Inherits system base)
    (hexclusive : Exclusive system depth) :
    Inherits (system.rtMutexRelease thread name) base := by
  obtain ⟨-, heq⟩ | ⟨howner, -, heq⟩ | ⟨howner, hhold⟩ :=
    system.rtMutexRelease_cases thread name
  · rw [heq]
    exact h.congr rfl fun other => ⟨rfl, rfl, rfl, List.Sublist.refl _⟩
  · rw [heq]
    refine h.congr rfl fun other => ?_
    by_cases hother : other = name
    · subst hother
      simp [MutexSystem.goOn, MutexSystem.setMutex]
    · simp [MutexSystem.goOn, MutexSystem.setMutex, hother]
  · have hpriority (after : MutexSystem Thread Name)
        (hafter : ∀ who, after.currentPriority who =
          if who = thread then (system.mutex name).originalPriority
          else system.currentPriority who) (who : Thread) :
        after.currentPriority who =
          if (system.mutex name).owner = some who then base who
          else system.currentPriority who := by
      rw [hafter, howner]
      by_cases hwho : who = thread
      · rw [if_pos hwho, if_pos (by rw [hwho]), hwho,
          h.original_eq name thread howner]
      · rw [if_neg hwho, if_neg fun heq => hwho (Option.some.inj heq).symm]
    cases hlist : (system.mutex name).suspendThread with
    | nil =>
        obtain ⟨hmutex, -, hafter⟩ :=
          MutexSystem.rtMutexRelease_of_nil howner hhold hlist rfl
        refine h.pass hmutex (h.flag name) (hpriority _ hafter)
          (List.Sublist.refl _) fun who hwho => ?_
        cases hwho
    | cons first rest =>
        obtain ⟨hmutex, -, hafter⟩ :=
          MutexSystem.rtMutexRelease_of_cons howner hhold hlist rfl
        have hfirst : first ∈ (system.mutex name).suspendThread := by
          simp [hlist]
        have hnone := h.waits_free name first hfirst
        have hbase : (system.rtMutexRelease thread name).currentPriority first =
            system.currentPriority first := by
          rw [hpriority _ hafter, if_neg (hnone name)]
        have hordered := h.ordered name
        rw [hlist] at hordered
        refine h.pass hmutex (h.flag name) (hpriority _ hafter) ?_
          fun who hwho => ?_
        · rw [hlist]
          exact List.sublist_cons_self first rest
        · obtain rfl : first = who := Option.some.inj hwho
          refine ⟨hnone, hbase.trans (h.base_eq first hnone), fun other => ?_,
            (List.pairwise_cons.mp hordered).1⟩
          rw [hmutex]
          by_cases hother : other = name
          · have hnodup := (hexclusive name).nodup
            rw [hlist, List.nodup_cons] at hnodup
            rw [hother, Function.update_self]
            exact hnodup.1
          · rw [Function.update_of_ne hother, (hexclusive other).waits_iff]
            rw [(hexclusive name).waits_iff] at hfirst
            exact fun hwaiting =>
              hother (MutexCaller.waitsFor_inj hwaiting hfirst)

omit [DecidableEq Thread] [DecidableEq Name] in
theorem inherits_start (priority : Thread → UInt8) :
    Inherits (.start (fun _ : Name => .prio) priority) priority where
  flag _ := rfl
  base_eq _ _ := rfl
  original_eq _ _ howner := by cases howner
  once _ _ _ howner := by cases howner
  waits_free _ _ hmem := by cases hmem
  owner_le _ _ howner := by cases howner
  ordered _ := List.Pairwise.nil

theorem Inherits.step (h : Inherits system base)
    (hexclusive : Exclusive system depth) {input : MutexStep Thread Name}
    (hone : OneAtATime system input) (hstep : system.step input = some after) :
    Inherits after base := by
  cases input with
  | take thread name time =>
      rw [MutexSystem.step] at hstep
      split at hstep
      · next result hcaller => exact h.take hexclusive hcaller hone hstep
      · cases hstep
  | release thread name =>
      rw [MutexSystem.step] at hstep
      split at hstep
      · cases hstep
        exact h.release hexclusive
      · cases hstep
  | expire thread =>
      rw [MutexSystem.step] at hstep
      split at hstep
      · next name time hcaller =>
        split at hstep <;> cases hstep
        refine h.congr rfl fun other => ?_
        by_cases hother : other = name
        · subst hother
          simp [MutexSystem.rtThreadTimeout, MutexSystem.goOn,
            MutexSystem.setMutex, List.erase_sublist]
        · simp [MutexSystem.rtThreadTimeout, MutexSystem.goOn,
            MutexSystem.setMutex, hother]
      · cases hstep

/--
With mutexes in the order of priority, and threads that are inside of one at a
time: a thread outside runs at its own priority, the thread inside is as urgent
as each that waits for it, and the waiting list holds those that wait in the
order of their priorities.
-/
theorem mutex_priorities
    (run : Run countedStep
      (fun state input => NotTooDeep state.1 input ∧ OneAtATime state.1 input)
      (.start (fun _ => .prio) priority, fun _ _ => 0) inputs
      (system, depth)) :
    (∀ thread, (∀ name, depth name thread = 0) →
      system.currentPriority thread = priority thread) ∧
    (∀ name inside waiting, 0 < depth name inside →
      (system.caller waiting).waitsFor name = true →
      system.currentPriority inside ≤ priority waiting) ∧
    ∀ name,
      (∀ waiting, waiting ∈ (system.mutex name).suspendThread ↔
        (system.caller waiting).waitsFor name = true) ∧
      (system.mutex name).suspendThread.Pairwise
        fun first second => priority first ≤ priority second := by
  have hkeep (state : MutexSystem Thread Name × Depth Thread Name)
      (input : MutexStep Thread Name)
      (after : MutexSystem Thread Name × Depth Thread Name)
      (h : Exclusive state.1 state.2 ∧ Inherits state.1 priority)
      (hguard : NotTooDeep state.1 input ∧ OneAtATime state.1 input)
      (hstep : countedStep state input = some after) :
      Exclusive after.1 after.2 ∧ Inherits after.1 priority := by
    refine ⟨h.1.step hguard.1 hstep, ?_⟩
    obtain ⟨next, hnext, rfl⟩ := Option.map_eq_some_iff.mp hstep
    exact h.2.step h.1 hguard.2 hnext
  obtain ⟨hexclusive, h⟩ := @Run.invariant _ _ _ _
    (fun state => Exclusive state.1 state.2 ∧ Inherits state.1 priority) hkeep
    _ _ _ run ⟨exclusive_start _ priority, inherits_start priority⟩
  have howner (name : Name) (thread : Thread) :
      (system.mutex name).owner = some thread ↔ 0 < depth name thread := by
    constructor
    · exact fun hsome => ((hexclusive name).hold_eq thread hsome).2
    · intro hpos
      by_contra hne
      exact absurd ((hexclusive name).outside thread hne) (Nat.ne_of_gt hpos)
  have hbase (name : Name) (waiting : Thread)
      (hwaiting : waiting ∈ (system.mutex name).suspendThread) :
      system.currentPriority waiting = priority waiting :=
    h.base_eq waiting (h.waits_free name waiting hwaiting)
  refine ⟨fun thread hzero => ?_, fun name inside waiting hinside hwaiting => ?_,
    fun name => ⟨(hexclusive name).waits_iff, ?_⟩⟩
  · refine h.base_eq thread fun name => ?_
    rw [Ne, howner, hzero name]
    exact Nat.lt_irrefl 0
  · rw [← (hexclusive name).waits_iff] at hwaiting
    rw [← hbase name waiting hwaiting]
    exact (h.owner_le name inside ((howner name inside).mpr hinside)).2
      waiting hwaiting
  · refine (h.ordered name).imp_of_mem fun hfirst hsecond hle => ?_
    rwa [hbase name _ hfirst, hbase name _ hsecond] at hle

theorem mutex_priorities_urgent :
    ∃ (system : MutexSystem (Fin 2) Unit) (depth : Depth (Fin 2) Unit),
      system.currentPriority 0 = 9 ∧
      (∀ thread, (∀ name, depth name thread = 0) →
        system.currentPriority thread = urgentPriority thread) ∧
      (∀ name inside waiting, 0 < depth name inside →
        (system.caller waiting).waitsFor name = true →
        system.currentPriority inside ≤ urgentPriority waiting) ∧
      ∀ name,
        (∀ waiting, waiting ∈ (system.mutex name).suspendThread ↔
          (system.caller waiting).waitsFor name = true) ∧
        (system.mutex name).suspendThread.Pairwise
          fun first second => urgentPriority first ≤ urgentPriority second := by
  have run : Run countedStep
      (fun state input => NotTooDeep state.1 input ∧ OneAtATime state.1 input)
      (.start (fun _ => .prio) urgentPriority, fun _ _ => 0) urgentWaits _ :=
    Run.of_checked rfl
  exact ⟨_, _, rfl, mutex_priorities run⟩

end WncFirmware.Kernel
