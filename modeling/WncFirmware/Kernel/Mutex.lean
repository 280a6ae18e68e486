import Mathlib.Logic.Function.Basic
import WncFirmware.Foundation.Runs
import WncFirmware.Kernel.Ipc

/-!
# Mutexes

`rt_mutex_take` and `rt_mutex_release` of `ipc.c`, for several mutexes and any
number of threads.  Each call is one section with the interrupts off; a thread
that waits in between is resumed by the one that releases the mutex to it, or
by its timer.
-/

namespace WncFirmware.Kernel

open WncFirmware.Foundation

/-- `struct rt_mutex` -/
structure RtMutex (Thread : Type) where
  value : UInt16
  originalPriority : UInt8
  hold : UInt8
  owner : Option Thread
  flag : RtIpcFlag
  suspendThread : List Thread

variable {Thread Name : Type}

def rtMutexInit (flag : RtIpcFlag) : RtMutex Thread where
  value := 1
  originalPriority := 0xff
  hold := 0
  owner := none
  flag := flag
  suspendThread := []

inductive MutexCaller (Name : Type) where
  | running (result : RtErr)
  | waiting (name : Name) (time : Int32)

structure MutexSystem (Thread Name : Type) where
  mutex : Name → RtMutex Thread
  currentPriority : Thread → UInt8
  caller : Thread → MutexCaller Name

inductive MutexStep (Thread Name : Type) where
  | take (thread : Thread) (name : Name) (time : Int32)
  | release (thread : Thread) (name : Name)
  | expire (thread : Thread)

variable [DecidableEq Thread] [DecidableEq Name]

namespace MutexSystem

def goOn (system : MutexSystem Thread Name) (thread : Thread)
    (caller : MutexCaller Name) : MutexSystem Thread Name :=
  { system with caller := Function.update system.caller thread caller }

def setMutex (system : MutexSystem Thread Name) (name : Name)
    (mutex : RtMutex Thread) : MutexSystem Thread Name :=
  { system with mutex := Function.update system.mutex name mutex }

def changePriority (system : MutexSystem Thread Name) (thread : Thread)
    (priority : UInt8) : MutexSystem Thread Name :=
  { system with
    currentPriority := Function.update system.currentPriority thread priority }

def inherit (system : MutexSystem Thread Name) (owner thread : Thread) :
    MutexSystem Thread Name :=
  if system.currentPriority thread < system.currentPriority owner then
    system.changePriority owner (system.currentPriority thread)
  else system

/-- Nothing when the owner is a null pointer that is followed. -/
def rtMutexTake (system : MutexSystem Thread Name) (thread : Thread)
    (name : Name) (time : Int32) : Option (MutexSystem Thread Name) :=
  let mutex := system.mutex name
  if mutex.owner = some thread then
    some ((system.setMutex name { mutex with hold := mutex.hold + 1 }).goOn
      thread (.running .eok))
  else if 0 < mutex.value then
    some ((system.setMutex name { mutex with
      value := mutex.value - 1
      owner := some thread
      originalPriority := system.currentPriority thread
      hold := mutex.hold + 1 }).goOn thread (.running .eok))
  else if time = 0 then
    some (system.goOn thread (.running .etimeout))
  else
    match mutex.owner with
    | none => none
    | some owner =>
        let system := system.inherit owner thread
        some ((system.setMutex name { mutex with
          suspendThread := rtIpcListSuspend system.currentPriority
            mutex.suspendThread thread mutex.flag }).goOn thread
          (.waiting name time))

/-- The owner gets back the priority that it came with. -/
def restore (system : MutexSystem Thread Name) (thread : Thread) (name : Name) :
    MutexSystem Thread Name :=
  if (system.mutex name).originalPriority ≠ system.currentPriority thread then
    system.changePriority thread (system.mutex name).originalPriority
  else system

/-- The part of `rt_mutex_release` behind `mutex->hold == 0`. -/
def letGo (system : MutexSystem Thread Name) (thread : Thread) (name : Name) :
    MutexSystem Thread Name :=
  let mutex := system.mutex name
  let system := system.restore thread name
  match mutex.suspendThread with
  | first :: rest =>
      (system.setMutex name { mutex with
        owner := some first
        originalPriority := system.currentPriority first
        hold := mutex.hold + 1
        suspendThread := rest }).goOn first (.running .eok)
  | [] =>
      system.setMutex name { mutex with
        value := mutex.value + 1
        owner := none
        originalPriority := 0xff }

def rtMutexRelease (system : MutexSystem Thread Name) (thread : Thread)
    (name : Name) : MutexSystem Thread Name :=
  let mutex := system.mutex name
  if mutex.owner ≠ some thread then system.goOn thread (.running .error)
  else
    let system :=
      (system.setMutex name { mutex with hold := mutex.hold - 1 }).goOn thread
        (.running .eok)
    if mutex.hold - 1 = 0 then system.letGo thread name else system

/-- `rt_thread_timeout` of a thread in the waiting list -/
def rtThreadTimeout (system : MutexSystem Thread Name) (thread : Thread)
    (name : Name) : MutexSystem Thread Name :=
  let mutex := system.mutex name
  (system.setMutex name { mutex with
    suspendThread := mutex.suspendThread.erase thread }).goOn thread
    (.running .etimeout)

def step (system : MutexSystem Thread Name) :
    MutexStep Thread Name → Option (MutexSystem Thread Name)
  | .take thread name time =>
      match system.caller thread with
      | .running _ => system.rtMutexTake thread name time
      | .waiting _ _ => none
  | .release thread name =>
      match system.caller thread with
      | .running _ => some (system.rtMutexRelease thread name)
      | .waiting _ _ => none
  | .expire thread =>
      match system.caller thread with
      | .waiting name time =>
          if 0 < time then some (system.rtThreadTimeout thread name) else none
      | .running _ => none

variable {system after : MutexSystem Thread Name} {thread : Thread} {name : Name}

theorem rtMutexTake_cases {time : Int32}
    (h : system.rtMutexTake thread name time = some after) :
    ((system.mutex name).owner = some thread ∧
      after = (system.setMutex name { system.mutex name with
        hold := (system.mutex name).hold + 1 }).goOn thread (.running .eok)) ∨
    ((system.mutex name).owner ≠ some thread ∧ 0 < (system.mutex name).value ∧
      after = (system.setMutex name { system.mutex name with
        value := (system.mutex name).value - 1
        owner := some thread
        originalPriority := system.currentPriority thread
        hold := (system.mutex name).hold + 1 }).goOn thread (.running .eok)) ∨
    (¬0 < (system.mutex name).value ∧ time = 0 ∧
      after = system.goOn thread (.running .etimeout)) ∨
    ∃ owner, (system.mutex name).owner = some owner ∧ owner ≠ thread ∧
      after = ((system.inherit owner thread).setMutex name
        { system.mutex name with
          suspendThread := rtIpcListSuspend
            (system.inherit owner thread).currentPriority
            (system.mutex name).suspendThread thread
            (system.mutex name).flag }).goOn thread (.waiting name time) := by
  rw [rtMutexTake] at h
  dsimp only at h
  split at h
  · next howner =>
    cases h
    exact .inl ⟨howner, rfl⟩
  · next howner =>
    split at h
    · next hvalue =>
      cases h
      exact .inr (.inl ⟨howner, hvalue, rfl⟩)
    · next hvalue =>
      split at h
      · next htime =>
        cases h
        exact .inr (.inr (.inl ⟨hvalue, htime, rfl⟩))
      · split at h
        · cases h
        · next owner hsome =>
          cases h
          refine .inr (.inr (.inr ⟨owner, hsome, ?_, rfl⟩))
          rintro rfl
          exact howner hsome

/-- All that a release can do; the last case has two lemmas of its own. -/
theorem rtMutexRelease_cases (system : MutexSystem Thread Name)
    (thread : Thread) (name : Name) :
    ((system.mutex name).owner ≠ some thread ∧
      system.rtMutexRelease thread name =
        system.goOn thread (.running .error)) ∨
    ((system.mutex name).owner = some thread ∧
      (system.mutex name).hold - 1 ≠ 0 ∧
      system.rtMutexRelease thread name =
        (system.setMutex name { system.mutex name with
          hold := (system.mutex name).hold - 1 }).goOn thread (.running .eok)) ∨
    ((system.mutex name).owner = some thread ∧
      (system.mutex name).hold - 1 = 0) := by
  by_cases howner : (system.mutex name).owner = some thread
  · by_cases hhold : (system.mutex name).hold - 1 = 0
    · exact .inr (.inr ⟨howner, hhold⟩)
    · refine .inr (.inl ⟨howner, hhold, ?_⟩)
      simp [rtMutexRelease, howner, hhold]
  · refine .inl ⟨howner, ?_⟩
    simp [rtMutexRelease, howner]

omit [DecidableEq Name] in
@[simp] theorem inherit_mutex (owner : Thread) :
    (system.inherit owner thread).mutex = system.mutex := by
  rw [inherit]
  split <;> rfl

omit [DecidableEq Name] in
@[simp] theorem inherit_caller (owner : Thread) :
    (system.inherit owner thread).caller = system.caller := by
  rw [inherit]
  split <;> rfl

omit [DecidableEq Name] in
@[simp] theorem restore_mutex :
    (system.restore thread name).mutex = system.mutex := by
  rw [restore]
  split <;> rfl

omit [DecidableEq Name] in
@[simp] theorem restore_caller :
    (system.restore thread name).caller = system.caller := by
  rw [restore]
  split <;> rfl

omit [DecidableEq Name] in
theorem restore_priority (who : Thread) :
    (system.restore thread name).currentPriority who =
      if who = thread then (system.mutex name).originalPriority
      else system.currentPriority who := by
  rw [restore]
  split
  · simp [changePriority, Function.update_apply]
  · next hsame =>
    split
    · next hwho =>
      rw [hwho]
      exact (Classical.not_not.mp hsame).symm
    · rfl

theorem rtMutexRelease_of_cons
    (howner : (system.mutex name).owner = some thread)
    (hhold : (system.mutex name).hold - 1 = 0) {first : Thread}
    {rest : List Thread}
    (hlist : (system.mutex name).suspendThread = first :: rest)
    (hafter : after = system.rtMutexRelease thread name) :
    after.mutex = Function.update system.mutex name
        { system.mutex name with
          owner := some first
          originalPriority := after.currentPriority first
          hold := (system.mutex name).hold - 1 + 1
          suspendThread := rest } ∧
      after.caller = Function.update
        (Function.update system.caller thread (.running .eok)) first
        (.running .eok) ∧
      ∀ who, after.currentPriority who =
        if who = thread then (system.mutex name).originalPriority
        else system.currentPriority who := by
  subst hafter
  refine ⟨?_, ?_, fun who => ?_⟩
  · simp [rtMutexRelease, howner, hhold, letGo, hlist, goOn, setMutex]
  · simp [rtMutexRelease, howner, hhold, letGo, hlist, goOn, setMutex]
  · simp [rtMutexRelease, howner, hhold, letGo, hlist, goOn, setMutex,
      restore_priority]

theorem rtMutexRelease_of_nil
    (howner : (system.mutex name).owner = some thread)
    (hhold : (system.mutex name).hold - 1 = 0)
    (hlist : (system.mutex name).suspendThread = [])
    (hafter : after = system.rtMutexRelease thread name) :
    after.mutex = Function.update system.mutex name
        { system.mutex name with
          value := (system.mutex name).value + 1
          owner := none
          originalPriority := 0xff
          hold := (system.mutex name).hold - 1 } ∧
      after.caller =
        Function.update system.caller thread (.running .eok) ∧
      ∀ who, after.currentPriority who =
        if who = thread then (system.mutex name).originalPriority
        else system.currentPriority who := by
  subst hafter
  refine ⟨?_, ?_, fun who => ?_⟩
  · simp [rtMutexRelease, howner, hhold, letGo, hlist, goOn, setMutex]
  · simp [rtMutexRelease, howner, hhold, letGo, hlist, goOn, setMutex]
  · simp [rtMutexRelease, howner, hhold, letGo, hlist, goOn, setMutex,
      restore_priority]

end MutexSystem

/-! ## Who is inside -/

def MutexCaller.returnsEok : MutexCaller Name → Bool
  | .running .eok => true
  | _ => false

def MutexCaller.waitsFor (name : Name) : MutexCaller Name → Bool
  | .running _ => false
  | .waiting other _ => other = name

abbrev Depth (Thread Name : Type) := Name → Thread → Nat

/--
What the threads see of a step: a take that returns `RT_EOK`, at once or after
a wait, is an entry, and a release that returns `RT_EOK` is a leave.
-/
def Depth.after (depth : Depth Thread Name)
    (before after : MutexSystem Thread Name) :
    MutexStep Thread Name → Depth Thread Name
  | .take thread name _ => fun other who =>
      if other = name ∧ who = thread ∧ (after.caller who).returnsEok then
        depth other who + 1
      else depth other who
  | .release thread name => fun other who =>
      if other = name ∧ who = thread ∧ (after.caller who).returnsEok then
        depth other who - 1
      else if (before.caller who).waitsFor other ∧
          (after.caller who).returnsEok then
        depth other who + 1
      else depth other who
  | .expire _ => depth

def countedStep (state : MutexSystem Thread Name × Depth Thread Name)
    (input : MutexStep Thread Name) :
    Option (MutexSystem Thread Name × Depth Thread Name) :=
  (state.1.step input).map fun after =>
    (after, state.2.after state.1 after input)

/-! ## One mutex -/

variable {mutex : RtMutex Thread} {depth later : Thread → Nat}
  {waits waiting : Thread → Prop} {thread : Thread}

/-- `depth` are the entries of the threads, `waits` those that wait for it. -/
structure Guarded (mutex : RtMutex Thread) (depth : Thread → Nat)
    (waits : Thread → Prop) : Prop where
  value_eq : mutex.value = if mutex.owner = none then 1 else 0
  free : mutex.owner = none → mutex.hold = 0 ∧ mutex.suspendThread = []
  hold_eq : ∀ thread, mutex.owner = some thread →
    mutex.hold.toNat = depth thread ∧ 0 < depth thread
  outside : ∀ thread, mutex.owner ≠ some thread → depth thread = 0
  nodup : mutex.suspendThread.Nodup
  waits_iff : ∀ thread, thread ∈ mutex.suspendThread ↔ waits thread

omit [DecidableEq Thread] in
theorem Guarded.owner_eq_none_iff (h : Guarded mutex depth waits) :
    mutex.owner = none ↔ 0 < mutex.value := by
  rw [h.value_eq]
  split <;> simp_all

omit [DecidableEq Thread] in
theorem Guarded.congr (h : Guarded mutex depth waits)
    (hdepth : ∀ thread, later thread = depth thread)
    (hwaits : ∀ thread, waiting thread ↔ waits thread) :
    Guarded mutex later waiting where
  value_eq := h.value_eq
  free := h.free
  hold_eq thread howner := by
    rw [hdepth]
    exact h.hold_eq thread howner
  outside thread howner := by
    rw [hdepth]
    exact h.outside thread howner
  nodup := h.nodup
  waits_iff thread := by rw [hwaits, h.waits_iff]

omit [DecidableEq Thread] in
theorem Guarded.hold_add_one (h : Guarded mutex depth waits)
    (howner : mutex.owner = some thread) (hhold : mutex.hold ≠ 255) :
    (mutex.hold + 1).toNat = depth thread + 1 := by
  have hlt := mutex.hold.toNat_lt
  have hne : mutex.hold.toNat ≠ 255 := fun heq =>
    hhold (UInt8.toNat_inj.mp heq)
  rw [UInt8.toNat_add, (h.hold_eq thread howner).1] at *
  exact Nat.mod_eq_of_lt (by simp at *; omega)

theorem Guarded.of_owner {owner : Thread} (count : Nat)
    (howner : mutex.owner = some owner) (hvalue : mutex.value = 0)
    (hhold : mutex.hold.toNat = count) (hpos : 0 < count)
    (hdepth : ∀ thread, later thread = if thread = owner then count else 0)
    (hnodup : mutex.suspendThread.Nodup)
    (hwaits : ∀ thread, thread ∈ mutex.suspendThread ↔ waits thread) :
    Guarded mutex later waits where
  value_eq := by simp [howner, hvalue]
  free hnone := by
    rw [howner] at hnone
    cases hnone
  hold_eq thread hthread := by
    obtain rfl : owner = thread := Option.some.inj (howner.symm.trans hthread)
    rw [hdepth, if_pos rfl]
    exact ⟨hhold, hpos⟩
  outside thread hthread := by
    rw [hdepth, if_neg]
    rintro rfl
    exact hthread howner
  nodup := hnodup
  waits_iff := hwaits

theorem Guarded.depth_eq (h : Guarded mutex depth waits) {owner : Thread}
    (howner : mutex.owner = some owner) (other : Thread) :
    depth other = if other = owner then mutex.hold.toNat else 0 := by
  split
  · next hsame => rw [hsame, (h.hold_eq owner howner).1]
  · next hne =>
    apply h.outside
    rw [howner]
    exact fun hsame => hne (Option.some.inj hsame).symm

theorem Guarded.again (h : Guarded mutex depth waits)
    (howner : mutex.owner = some thread) (hhold : mutex.hold ≠ 255) :
    Guarded { mutex with hold := mutex.hold + 1 }
      (Function.update depth thread (depth thread + 1)) waits := by
  refine .of_owner _ howner ?_ (h.hold_add_one howner hhold) (Nat.succ_pos _)
    (fun other => ?_) h.nodup h.waits_iff
  · simpa [howner] using h.value_eq
  · rw [Function.update_apply, h.depth_eq howner other]
    split <;> rfl

theorem Guarded.enter (h : Guarded mutex depth waits)
    (howner : mutex.owner = none) (priority : UInt8) :
    Guarded { mutex with
        value := mutex.value - 1
        owner := some thread
        originalPriority := priority
        hold := mutex.hold + 1 }
      (Function.update depth thread (depth thread + 1)) waits := by
  obtain ⟨hhold, hempty⟩ := h.free howner
  have hzero (other : Thread) : depth other = 0 := by
    apply h.outside
    simp [howner]
  refine .of_owner 1 rfl ?_ ?_ Nat.one_pos (fun other => ?_)
    h.nodup h.waits_iff
  · have hvalue : mutex.value = 1 := by simpa [howner] using h.value_eq
    simp [hvalue]
  · simp [hhold]
  · rw [Function.update_apply, hzero, hzero]

omit [DecidableEq Thread] in
theorem Guarded.wait (h : Guarded mutex depth waits)
    (howner : mutex.owner ≠ none) (hthread : ¬waits thread)
    {list : List Thread} (hperm : list.Perm (thread :: mutex.suspendThread)) :
    Guarded { mutex with suspendThread := list } depth
      (fun other => other = thread ∨ waits other) where
  value_eq := h.value_eq
  free hnone := absurd hnone howner
  hold_eq := h.hold_eq
  outside := h.outside
  nodup := by
    refine hperm.nodup_iff.mpr (List.nodup_cons.mpr ⟨?_, h.nodup⟩)
    rwa [h.waits_iff]
  waits_iff other := by
    rw [hperm.mem_iff, List.mem_cons, h.waits_iff]

theorem Guarded.expire (h : Guarded mutex depth waits) (hwaits : waits thread) :
    Guarded { mutex with suspendThread := mutex.suspendThread.erase thread }
      depth (fun other => other ≠ thread ∧ waits other) where
  value_eq := h.value_eq
  free hnone := by
    have hmem := (h.waits_iff thread).mpr hwaits
    rw [(h.free hnone).2] at hmem
    cases hmem
  hold_eq := h.hold_eq
  outside := h.outside
  nodup := h.nodup.erase thread
  waits_iff other := by rw [h.nodup.mem_erase_iff, h.waits_iff]

omit [DecidableEq Thread] in
theorem Guarded.hold_sub_one (h : Guarded mutex depth waits)
    (howner : mutex.owner = some thread) :
    (mutex.hold - 1).toNat = depth thread - 1 := by
  obtain ⟨hhold, hpos⟩ := h.hold_eq thread howner
  rw [← hhold] at hpos ⊢
  exact UInt8.toNat_sub_of_le _ _ (UInt8.le_iff_toNat_le.mpr hpos)

theorem Guarded.leave (h : Guarded mutex depth waits)
    (howner : mutex.owner = some thread) (hhold : mutex.hold - 1 ≠ 0) :
    Guarded { mutex with hold := mutex.hold - 1 }
      (Function.update depth thread (depth thread - 1)) waits := by
  have hcount := h.hold_sub_one howner
  refine .of_owner _ howner ?_ hcount ?_ (fun other => ?_) h.nodup h.waits_iff
  · simpa [howner] using h.value_eq
  · have hne : (mutex.hold - 1).toNat ≠ 0 := fun hzero =>
      hhold (UInt8.toNat_inj.mp hzero)
    omega
  · rw [Function.update_apply, h.depth_eq howner other]
    split <;> rfl

theorem Guarded.handOver (h : Guarded mutex depth waits)
    (howner : mutex.owner = some thread) (hhold : mutex.hold - 1 = 0)
    {first : Thread} {rest : List Thread}
    (hlist : mutex.suspendThread = first :: rest) (priority : UInt8) :
    Guarded { mutex with
        owner := some first
        originalPriority := priority
        hold := mutex.hold - 1 + 1
        suspendThread := rest }
      (fun other => if other = first then 1 else 0)
      (fun other => other ≠ first ∧ waits other) := by
  have hnodup := h.nodup
  rw [hlist, List.nodup_cons] at hnodup
  refine .of_owner 1 rfl ?_ ?_ Nat.one_pos (fun _ => rfl) hnodup.2
    fun other => ?_
  · simpa [howner] using h.value_eq
  · simp [hhold]
  · rw [← h.waits_iff, hlist, List.mem_cons]
    constructor
    · intro hmem
      exact ⟨fun hsame => hnodup.1 (hsame ▸ hmem), .inr hmem⟩
    · rintro ⟨hne, hsame | hmem⟩
      · exact absurd hsame hne
      · exact hmem

omit [DecidableEq Thread] in
theorem Guarded.setFree (h : Guarded mutex depth waits)
    (howner : mutex.owner = some thread) (hhold : mutex.hold - 1 = 0)
    (hlist : mutex.suspendThread = []) :
    Guarded { mutex with
        value := mutex.value + 1
        owner := none
        originalPriority := 0xff
        hold := mutex.hold - 1 }
      (fun _ => 0) waits where
  value_eq := by
    have hvalue : mutex.value = 0 := by simpa [howner] using h.value_eq
    simp [hvalue]
  free _ := ⟨hhold, hlist⟩
  hold_eq _ hsome := by cases hsome
  outside _ _ := rfl
  nodup := h.nodup
  waits_iff := h.waits_iff

end WncFirmware.Kernel
