import Mathlib.Logic.Function.Basic
import WncFirmware.Foundation.Runs
import WncFirmware.Kernel.HeapRelease

/-!
# Histories of the heap

Threads allocate, release and shorten blocks in any order and write into those
they hold.  A ledger beside the heap says who was given what and what the
holders wrote.
-/

namespace WncFirmware.Kernel

open Foundation

namespace Heap

variable {heap : Heap} {row front back : List Piece}

/-! ## Set-up -/

theorem rtSystemHeapInit_shape {alignSize beginAddr endAddr : UInt32}
    {memory : Memory} (halign : ∃ k, alignSize.toNat = 2 ^ k)
    (h : rtSystemHeapInit alignSize memory beginAddr endAddr = some heap)
    (hroomy : heap.minSizeAligned ≤ heap.memSizeAligned) : heap.Shaped := by
  obtain ⟨k, hk⟩ := halign
  simp only [rtSystemHeapInit] at h
  split at h
  · next hroom =>
      have hend := (rtAlignDown endAddr alignSize).toNat_lt
      have hdvdEnd : 2 ^ k ∣ (rtAlignDown endAddr alignSize).toNat := by
        rw [rtAlignDown, toNat_and_mask hk]
        exact Nat.dvd_mul_left _ _
      have hdvdBegin := hk ▸ @dvd_rtAlign beginAddr alignSize k hk
      have hdvdStruct := hk ▸ @dvd_rtAlign 12 alignSize k hk
      cases h
      refine ⟨⟨k, hk⟩, ?_, hroomy, ?_⟩
      · rw [create_alignSize, create_alignSize, hk]
        exact Nat.dvd_sub (Nat.dvd_sub hdvdEnd hdvdBegin)
          (Dvd.dvd.mul_left hdvdStruct 2)
      · simp only [create_memSizeAligned, sizeofStructMem, create_alignSize]
        omega
  · cases h

theorem tiled_create (hshape : heap.Shaped) (hlfree : heap.lfree = 0)
    (hused : heap.usedMem = 0) :
    ((heap.create 0 0 heap.heapEnd 0).create heap.heapEnd 1 heap.heapEnd
      heap.heapEnd).Tiled [⟨heap.heapEnd, false⟩] := by
  have hstruct := hshape.twelve_le
  have hbounded := hshape.bounded
  have hroomy := hshape.roomy
  have hend : heap.heapEnd = heap.memSizeAligned + heap.sizeofStructMem := rfl
  rw [minSizeAligned_eq] at hroomy
  have hapart : 0 + 12 ≤ heap.heapEnd ∨ heap.heapEnd + 12 ≤ 0 := by omega
  refine ⟨⟨hshape.congr (by simp) (by simp),
    ⟨⟨?_, ?_, ?_, ?_⟩, trivial⟩, ?_, ?_⟩, .singleton _, ?_, ?_, ?_, ?_⟩
  · rw [get_create_of_apart hapart, get_create_magic]
  · rw [get_create_of_apart hapart, get_create_used (by omega)]
    rfl
  · rw [get_create_of_apart hapart, get_create_next (by omega)]
    simp
  · rw [get_create_of_apart hapart, get_create_prev (by omega)]
  · intro piece hpiece
    obtain rfl := List.mem_singleton.mp hpiece
    simp only [create_sizeofStructMem, create_alignSize]
    exact ⟨by omega, Nat.dvd_add hshape.divides hshape.dvd_sizeofStructMem⟩
  · simp
  · intro q hq
    obtain rfl : q = (0, ⟨heap.heapEnd, false⟩) := by simpa using hq
    simp only [create_sizeofStructMem, create_heapEnd]
    omega
  · exact .inr ⟨(0, ⟨heap.heapEnd, false⟩), by simp, by simp [hlfree], rfl⟩
  · simp [hused]
  · simp only [create_lfree, create_heapEnd]
    omega

theorem rtSystemHeapInit_spec {alignSize beginAddr endAddr : UInt32}
    {memory : Memory} (halign : ∃ k, alignSize.toNat = 2 ^ k)
    (h : rtSystemHeapInit alignSize memory beginAddr endAddr = some heap)
    (hroomy : heap.minSizeAligned ≤ heap.memSizeAligned) :
    heap.Tiled [⟨heap.heapEnd, false⟩] ∧ heap.lfree = 0 ∧ heap.usedMem = 0 ∧
      heap.maxMem = 0 := by
  have hshape := rtSystemHeapInit_shape halign h hroomy
  simp only [rtSystemHeapInit] at h
  split at h
  · cases h
    refine ⟨@tiled_create ⟨alignSize, _, memory, 0, 0, 0⟩ ?_ rfl rfl,
      rfl, rfl, rfl⟩
    exact hshape.congr rfl rfl
  · cases h

end Heap

/-! ## The ledger -/

structure HeapSystem where
  heap : Heap
  granted : Nat → Option Nat
  contents : Memory
  peak : Nat

inductive HeapCall
  | malloc (request : UInt32)
  | free (rmem : Nat)
  | resize (rmem : Nat) (request : UInt32)
  | write (rmem index : Nat) (byte : UInt8)

namespace HeapSystem

def start (heap : Heap) : HeapSystem :=
  { heap := heap, granted := fun _ => none, contents := heap.memory, peak := 0 }

/-- The bytes from `low` on that a holder gets to see for the first time. -/
def reveal (s : HeapSystem) (heap : Heap) (low high : Nat) : Memory :=
  fun place =>
    if low ≤ place ∧ place < high then heap.memory place else s.contents place

/-- A block at `p` is now held with `size` bytes, of which those before `seen`
were held before. -/
def grant (s : HeapSystem) (heap : Heap) (p seen size : Nat) : HeapSystem :=
  { heap := heap
    granted := Function.update s.granted p (some size)
    contents := s.reveal heap (p + seen) (p + size)
    peak := max s.peak heap.usedMem }

/-- `resize` stands for a call of `rt_realloc`; when the block cannot stay,
that call goes on as `malloc`, writes and `free`. -/
def step (s : HeapSystem) : HeapCall → Option HeapSystem
  | .malloc request =>
      (s.heap.rtMalloc request).map fun
        | (heap, none) => { s with heap := heap }
        | (heap, some p) => s.grant heap p 0 request.toNat
  | .free rmem =>
      (s.heap.rtFree rmem).map fun heap =>
        { s with heap := heap, granted := Function.update s.granted rmem none }
  | .resize rmem request =>
      (s.heap.resize rmem (rtAlign request s.heap.alignSize).toNat).map fun
        | (heap, false) => { s with heap := heap }
        | (heap, true) =>
            s.grant heap rmem ((s.granted rmem).getD 0) request.toNat
  | .write rmem index byte =>
      some { s with
        heap := { s.heap with
          memory := Function.update s.heap.memory (rmem + index) byte }
        contents := Function.update s.contents (rmem + index) byte }

/-- Callers release, change and write what they hold.  A request is refused a
sum that wraps. -/
def Allowed (s : HeapSystem) : HeapCall → Prop
  | .malloc request => request.toNat + s.heap.alignSize.toNat ≤ 2 ^ 32
  | .free rmem => (s.granted rmem).isSome
  | .resize rmem request => (s.granted rmem).isSome ∧
      request.toNat + s.heap.alignSize.toNat ≤ 2 ^ 32
  | .write rmem index _ => index < (s.granted rmem).getD 0

instance (s : HeapSystem) (call : HeapCall) : Decidable (s.Allowed call) :=
  match call with
  | .malloc _ => inferInstanceAs (Decidable (_ ≤ _))
  | .free _ => inferInstanceAs (Decidable (_ = true))
  | .resize _ _ => inferInstanceAs (Decidable (_ ∧ _))
  | .write _ _ _ => inferInstanceAs (Decidable (_ < _))

structure Sound (s : HeapSystem) (row : List Piece) : Prop where
  tiled : s.heap.Tiled row
  blocks : ∀ p size, s.granted p = some size → ∃ q ∈ placed 0 row,
    q.2.used = true ∧ q.1 + s.heap.sizeofStructMem = p ∧
      s.heap.sizeofStructMem + size ≤ q.2.size
  known : ∀ q ∈ placed 0 row, q.2.used = true →
    (s.granted (q.1 + s.heap.sizeofStructMem)).isSome
  contents : ∀ p size, s.granted p = some size → ∀ index < size,
    s.heap.memory (p + index) = s.contents (p + index)
  maxMem : s.heap.maxMem = s.peak
  usedMem_le : s.heap.usedMem ≤ s.peak

namespace Sound

variable {s : HeapSystem} {row row' : List Piece} {heap' : Heap}
  {mem whole size p : Nat}

theorem sizeofStructMem_eq (hkept : s.heap.Kept heap' row') :
    heap'.sizeofStructMem = s.heap.sizeofStructMem := by
  simp only [Heap.sizeofStructMem, hkept.alignSize]

theorem memory_eq (hkept : s.heap.Kept heap' row') (hshape : s.heap.Shaped)
    {q : Nat × Piece} (hq : q ∈ placed 0 row') (hused : q.2.used = true)
    (hfit : s.heap.sizeofStructMem + size ≤ q.2.size) {index : Nat}
    (hindex : index < size) :
    heap'.memory (q.1 + s.heap.sizeofStructMem + index) =
      s.heap.memory (q.1 + s.heap.sizeofStructMem + index) := by
  have hstruct := hshape.twelve_le
  exact hkept.payload q hq hused _ (by omega) (by omega)

theorem grant {seen : Nat} (h : s.Sound row) (htiled : heap'.Tiled row')
    (hkept : s.heap.Kept heap' row')
    (hused : ∀ q, q.2.used = true → (q ∈ placed 0 row' ↔
      (q ∈ placed 0 row ∧ q.1 ≠ mem) ∨ q = (mem, ⟨whole, true⟩)))
    (hfit : s.heap.sizeofStructMem + size ≤ whole)
    (hmax : heap'.maxMem = max s.heap.maxMem heap'.usedMem)
    (hseen : seen = 0 ∨
      s.granted (mem + s.heap.sizeofStructMem) = some seen) :
    (s.grant heap' (mem + s.heap.sizeofStructMem) seen size).Sound row' := by
  have hstruct : heap'.sizeofStructMem = s.heap.sizeofStructMem :=
    sizeofStructMem_eq hkept
  have hshape := h.tiled.cut.shaped
  have htwelve := hshape.twelve_le
  have hnew := (hused (mem, ⟨whole, true⟩) rfl).mpr (.inr rfl)
  refine ⟨htiled, ?_, ?_, ?_, ?_, Nat.le_max_right _ _⟩
  · intro p given hp
    simp only [HeapSystem.grant, hstruct] at hp ⊢
    by_cases hsame : p = mem + s.heap.sizeofStructMem
    · subst hsame
      obtain rfl : size = given := by simpa using hp
      exact ⟨_, hnew, rfl, rfl, hfit⟩
    · rw [Function.update_of_ne hsame] at hp
      obtain ⟨q, hq, hq', rfl, hlarge⟩ := h.blocks p given hp
      refine ⟨q, (hused q hq').mpr (.inl ⟨hq, ?_⟩), hq', rfl, hlarge⟩
      rintro rfl
      exact hsame rfl
  · intro q hq hq'
    simp only [HeapSystem.grant, hstruct]
    by_cases hsame : q.1 = mem
    · simp [hsame]
    · rw [Function.update_of_ne (by omega)]
      rcases (hused q hq').mp hq with ⟨hold, -⟩ | rfl
      · exact h.known q hold hq'
      · exact absurd rfl hsame
  · intro p given hp index hindex
    simp only [HeapSystem.grant, HeapSystem.reveal] at hp ⊢
    by_cases hsame : p = mem + s.heap.sizeofStructMem
    · subst hsame
      obtain rfl : size = given := by simpa using hp
      split
      · rfl
      · next hbefore =>
          rcases hseen with rfl | hseen
          · omega
          · rw [memory_eq hkept hshape hnew rfl hfit hindex]
            exact h.contents _ seen hseen index (by omega)
    · rw [Function.update_of_ne hsame] at hp
      obtain ⟨q, hq, hq', rfl, hlarge⟩ := h.blocks p given hp
      have hplace : q.1 ≠ mem := by
        rintro rfl
        exact hsame rfl
      have hq'' := (hused q hq').mpr (.inl ⟨hq, hplace⟩)
      -- the two blocks lie apart, so nothing of this one is revealed
      have hapart := placed_apart hq'' hnew
      rw [if_neg, memory_eq hkept hshape hq'' hq' hlarge hindex]
      · exact h.contents _ given hp index hindex
      · rcases hapart with rfl | hapart | hapart
        · exact absurd rfl hplace
        · omega
        · simp only at hapart
          omega
  · rw [HeapSystem.grant, hmax, h.maxMem]

theorem release (h : s.Sound row) {q : Nat × Piece}
    (hreleased : s.heap.Released row q.1 heap' row') :
    ({ s with
      heap := heap'
      granted := Function.update s.granted (q.1 + s.heap.sizeofStructMem)
        none } : HeapSystem).Sound row' := by
  have hstruct : heap'.sizeofStructMem = s.heap.sizeofStructMem :=
    sizeofStructMem_eq hreleased.kept
  have hother : ∀ p size, Function.update s.granted
      (q.1 + s.heap.sizeofStructMem) none p = some size →
      s.granted p = some size ∧ ∃ other ∈ placed 0 row', other.2.used = true ∧
        other.1 + s.heap.sizeofStructMem = p ∧
        s.heap.sizeofStructMem + size ≤ other.2.size := by
    intro p size hp
    by_cases hsame : p = q.1 + s.heap.sizeofStructMem
    · subst hsame
      simp at hp
    · rw [Function.update_of_ne hsame] at hp
      obtain ⟨other, hmem, hused, rfl, hlarge⟩ := h.blocks p size hp
      refine ⟨hp, other, (hreleased.used_iff other hused).mpr ⟨hmem, ?_⟩,
        hused, rfl, hlarge⟩
      rintro hplace
      exact hsame (by rw [hplace])
  refine ⟨hreleased.tiled, ?_, ?_, ?_, hreleased.maxMem.trans h.maxMem,
    hreleased.usedMem_le.trans h.usedMem_le⟩
  · intro p size hp
    simp only [hstruct]
    exact (hother p size hp).2
  · intro other hmem hused
    obtain ⟨hold, hplace⟩ := (hreleased.used_iff other hused).mp hmem
    simp only [hstruct]
    rw [Function.update_of_ne (by omega)]
    exact h.known other hold hused
  · intro p size hp index hindex
    obtain ⟨hold, other, hmem, hused, rfl, hlarge⟩ := hother p size hp
    rw [memory_eq hreleased.kept h.tiled.cut.shaped hmem hused hlarge hindex]
    exact h.contents _ size hold index hindex

theorem write (h : s.Sound row) {memory contents : Memory} {count : Nat}
    (hp : s.granted p = some size) (hcount : count ≤ size)
    (hsame : ∀ place, place < p ∨ p + count ≤ place →
      memory place = s.heap.memory place ∧ contents place = s.contents place)
    (hwritten : ∀ index < count, memory (p + index) = contents (p + index)) :
    ({ s with
      heap := { s.heap with memory := memory }
      contents := contents } : HeapSystem).Sound row := by
  obtain ⟨block, hblock, hused, hplace, hlarge⟩ := h.blocks p size hp
  have hstruct := h.tiled.cut.shaped.twelve_le
  have hget : ∀ q ∈ placed 0 row, ∀ field, ({ s.heap with
      memory := memory } : Heap).get q.1 field = s.heap.get q.1 field := by
    intro q hq field
    have hsize := h.tiled.cut.twelve_le_size q.2 (mem_of_mem_placed hq)
    refine loadWord_congr fun place hlow hhigh => (hsame place ?_).1
    have hfield : field.offset + field.width ≤ 12 := by
      cases field <;> decide
    rcases placed_apart hblock hq with rfl | hapart | hapart <;> omega
  refine ⟨⟨h.tiled.cut.congr rfl rfl hget, h.tiled.separated, h.tiled.inside,
    h.tiled.opening, h.tiled.usedMem, h.tiled.busy⟩, h.blocks, h.known, ?_,
    h.maxMem, h.usedMem_le⟩
  intro other given hother index hindex
  by_cases hinside : p ≤ other + index ∧ other + index < p + count
  · have := hwritten (other + index - p) (by omega)
    rwa [Nat.add_sub_cancel' hinside.1] at this
  · obtain ⟨hmemory, hcontents⟩ := hsame (other + index) (by omega)
    simp only [hmemory, hcontents]
    exact h.contents other given hother index hindex

theorem apart (h : s.Sound row) {q other : Nat} (hp : s.granted p = some size)
    (hq : s.granted q = some other) (hne : p ≠ q) :
    p + size + 12 ≤ q ∨ q + other + 12 ≤ p := by
  have hstruct := h.tiled.cut.shaped.twelve_le
  obtain ⟨first, hfirst, -, rfl, hlarge⟩ := h.blocks p size hp
  obtain ⟨second, hsecond, -, rfl, hlarge'⟩ := h.blocks q other hq
  rcases placed_apart hfirst hsecond with rfl | hapart | hapart
  · exact absurd rfl hne
  · omega
  · omega

end Sound

def Shortens (s : HeapSystem) : HeapCall → Prop
  | .resize rmem request =>
      (rtAlign request s.heap.alignSize).toNat + s.heap.sizeofStructMem +
        minSize < subSize (subSize
          (s.heap.get (rmem - s.heap.sizeofStructMem) .next)
          (rmem - s.heap.sizeofStructMem)) s.heap.sizeofStructMem
  | _ => False

instance (s : HeapSystem) (call : HeapCall) : Decidable (s.Shortens call) :=
  match call with
  | .resize _ _ => inferInstanceAs (Decidable (_ < _))
  | .malloc _ | .free _ | .write _ _ _ => inferInstanceAs (Decidable False)

/-! ## One call -/

variable {s : HeapSystem} {row : List Piece}

/-- What a call promises: it returns, the ledger stays true, and `lfree` stays
the lowest free block unless a block is cut short. -/
def Goes (s : HeapSystem) (row : List Piece) (call : HeapCall) : Prop :=
  ∃ s' row', s.step call = some s' ∧ s'.Sound row' ∧
    (¬s.Shortens call → Heap.Lowest row s.heap.lfree →
      Heap.Lowest row' s'.heap.lfree)

theorem malloc_goes (h : s.Sound row) {request : UInt32}
    (hrequest : request.toNat + s.heap.alignSize.toNat ≤ 2 ^ 32) :
    s.Goes row (.malloc request) := by
  obtain ⟨front, back, rfl, hlfree⟩ := h.tiled.exists_front
  by_cases hzero : request = 0
  · refine ⟨s, _, ?_, h, fun _ => id⟩
    rw [step, Heap.rtMalloc, if_pos hzero]
    rfl
  · rcases Heap.rtMalloc_cases h.tiled hlfree hzero with
      ⟨-, hnone⟩ | ⟨q, heap', row', -, hsome, hallocated⟩
    · refine ⟨s, _, ?_, h, fun _ => id⟩
      rw [step, hnone]
      rfl
    · obtain ⟨k, hk⟩ := h.tiled.cut.shaped.align
      obtain ⟨whole, hlarge, hused⟩ := hallocated.block
      have hsize := (le_rtAlign hk hrequest).1.trans
        (Heap.le_allotment s.heap request)
      refine ⟨_, row', by rw [step, hsome]; rfl, h.grant hallocated.tiled
        hallocated.kept (fun other hother => (hused other hother).trans ?_)
        (show _ + request.toNat ≤ whole by omega) hallocated.maxMem (.inl rfl),
        fun _ => hallocated.lowest⟩
      exact or_congr_left ⟨fun hmem =>
        ⟨hmem, hallocated.fresh other hmem hother⟩, And.left⟩

theorem free_goes (h : s.Sound row) {rmem : Nat}
    (hheld : (s.granted rmem).isSome) : s.Goes row (.free rmem) := by
  obtain ⟨size, hsize⟩ := Option.isSome_iff_exists.mp hheld
  obtain ⟨q, hq, hused, rfl, -⟩ := h.blocks rmem size hsize
  obtain ⟨heap', row', hfree, hreleased⟩ := Heap.rtFree_spec h.tiled hq hused
  refine ⟨_, row', ?_, h.release hreleased, fun _ => hreleased.lowest⟩
  rw [step, hfree]
  rfl

theorem resize_goes (h : s.Sound row) {rmem : Nat} {request : UInt32}
    (hheld : (s.granted rmem).isSome)
    (hrequest : request.toNat + s.heap.alignSize.toNat ≤ 2 ^ 32) :
    s.Goes row (.resize rmem request) := by
  obtain ⟨size, hsize⟩ := Option.isSome_iff_exists.mp hheld
  obtain ⟨q, hq, hused, rfl, hlarge⟩ := h.blocks rmem size hsize
  obtain ⟨k, hk⟩ := h.tiled.cut.shaped.align
  have haligned := (le_rtAlign hk hrequest).1
  have hkept := h.usedMem_le
  have hmax := h.maxMem
  rcases Heap.resize_spec h.tiled hq hused (dvd_rtAlign hk) with
    ⟨hsame, hexact⟩ | hmoves | ⟨heap', row', hshorter, hroom, hshrunk⟩
  · refine ⟨s.grant s.heap (q.1 + s.heap.sizeofStructMem) size request.toNat,
      row, ?_, ?_, fun _ => id⟩
    · rw [step, hsame, hsize]
      rfl
    · refine h.grant h.tiled ⟨rfl, rfl, fun _ _ _ _ _ _ => rfl⟩
        (fun other _ => ?_) (show _ + request.toNat ≤ q.2.size by omega)
        (by omega) (.inr hsize)
      have hself : (q.1, (⟨q.2.size, true⟩ : Piece)) = q := by rw [← hused]
      rw [hself]
      constructor
      · intro hother
        by_cases heq : other = q
        · exact .inr heq
        · exact .inl ⟨hother, h.tiled.cut.place_ne hother hq heq⟩
      · rintro (⟨hother, -⟩ | rfl)
        · exact hother
        · exact hq
  · refine ⟨s, row, ?_, h, fun _ => id⟩
    rw [step, hmoves]
    rfl
  · refine ⟨_, row', ?_, h.grant hshrunk.tiled hshrunk.kept hshrunk.used_iff
      (Nat.add_le_add_left haligned _) ?_ (.inr hsize), ?_⟩
    · rw [step, hshorter, hsize]
      rfl
    · have := hshrunk.usedMem_le
      rw [hshrunk.maxMem]
      omega
    · intro hlong
      refine absurd ?_ hlong
      rw [Shortens, Nat.add_sub_cancel, h.tiled.cut.data hq]
      exact hroom

theorem write_goes (h : s.Sound row) {rmem index : Nat} {byte : UInt8}
    (hindex : index < (s.granted rmem).getD 0) :
    s.Goes row (.write rmem index byte) := by
  cases hsize : s.granted rmem with
  | none => simp [hsize] at hindex
  | some size =>
      rw [hsize, Option.getD_some] at hindex
      refine ⟨_, row, rfl, h.write hsize (show index + 1 ≤ size by omega) ?_ ?_,
        fun _ => id⟩
      · intro place hplace
        have hne : place ≠ rmem + index := by omega
        simp [hne]
      · intro other hother
        by_cases hsame : other = index
        · simp [hsame]
        · simpa [hsame] using h.contents rmem size hsize other (by omega)

theorem call_goes (h : s.Sound row) {call : HeapCall} (hallowed : s.Allowed call) :
    s.Goes row call := by
  cases call with
  | malloc request => exact malloc_goes h hallowed
  | free rmem => exact free_goes h hallowed
  | resize rmem request => exact resize_goes h hallowed.1 hallowed.2
  | write rmem index byte => exact write_goes h hallowed

theorem sound_of_run {calls : List HeapCall} {next : HeapSystem}
    (h : s.Sound row) (run : Run step Allowed s calls next) :
    ∃ row', next.Sound row' := by
  refine @Run.invariant _ _ _ _ (fun s => ∃ row, s.Sound row) ?_ _ _ _ run
    ⟨row, h⟩
  rintro s call next ⟨row, hsound⟩ hallowed hstep
  obtain ⟨s', row', hgoes, hsound', -⟩ := call_goes hsound hallowed
  rw [hstep] at hgoes
  cases hgoes
  exact ⟨row', hsound'⟩

end HeapSystem

/-! ## Whole histories -/

namespace Heap

def walk (heap : Heap) : Nat → Nat → List (Nat × Piece)
  | 0, _ => []
  | turns + 1, ptr =>
      if ptr = heap.heapEnd then []
      else (ptr, ⟨heap.get ptr .next - ptr, heap.get ptr .used != 0⟩) ::
        heap.walk turns (heap.get ptr .next)

def blocks (heap : Heap) : List (Nat × Piece) := heap.walk heap.turns 0

theorem walk_eq {heap : Heap} {front back : List Piece} {turns : Nat}
    (h : heap.Cut (front ++ back)) (hturns : back.length < turns) :
    heap.walk turns (extent front) = placed (extent front) back := by
  induction back generalizing front turns with
  | nil =>
      have hwhole := h.whole
      simp only [extent_append, extent_nil, Nat.add_zero] at hwhole
      cases turns with
      | zero => rfl
      | succ turns => rw [walk, if_pos hwhole, placed_nil]
  | cons piece back ih =>
      have hwhole := h.whole
      have hsize := h.twelve_le_size piece (by simp)
      simp only [extent_append, extent_cons] at hwhole
      obtain ⟨-, hused, hnext, -⟩ := h.head
      obtain ⟨hcut, hstep⟩ := h.step
      cases turns with
      | zero => simp at hturns
      | succ turns =>
          have hlater := @ih (front ++ [piece]) turns hcut (by
            simp only [List.length_cons] at hturns
            omega)
          rw [walk, if_neg (by omega), placed_cons, hused]
          rw [← hstep, hnext] at hlater
          rw [hnext, hlater, Nat.add_sub_cancel_left]
          cases hmark : piece.used <;> simp [← hmark]

theorem blocks_eq {heap : Heap} {row : List Piece} (h : heap.Cut row) :
    heap.blocks = placed 0 row := by
  have hwalk := @walk_eq heap [] row heap.turns h
    (@Cut.length_lt_turns heap [] row h)
  simpa [blocks] using hwalk

end Heap

section Histories

variable {alignSize beginAddr endAddr : UInt32} {memory : Memory}
  {heap : Heap} {calls : List HeapCall} {s : HeapSystem}

theorem start_sound (halign : ∃ k, alignSize.toNat = 2 ^ k)
    (hinit : Heap.rtSystemHeapInit alignSize memory beginAddr endAddr =
      some heap)
    (hroomy : heap.minSizeAligned ≤ heap.memSizeAligned) :
    (HeapSystem.start heap).Sound [⟨heap.heapEnd, false⟩] ∧
      Heap.Lowest [⟨heap.heapEnd, false⟩] heap.lfree := by
  obtain ⟨htiled, hlfree, hused, hmax⟩ :=
    Heap.rtSystemHeapInit_spec halign hinit hroomy
  refine ⟨⟨htiled, ?_, ?_, ?_, hmax, hused.le⟩, ?_⟩
  · intro p size hp
    cases hp
  · intro q hq hused
    obtain rfl : q = (0, ⟨heap.heapEnd, false⟩) := by simpa using hq
    cases hused
  · intro p size hp
    cases hp
  · intro q _ _
    rw [hlfree]
    exact Nat.zero_le _

theorem run_sound (halign : ∃ k, alignSize.toNat = 2 ^ k)
    (hinit : Heap.rtSystemHeapInit alignSize memory beginAddr endAddr =
      some heap)
    (hroomy : heap.minSizeAligned ≤ heap.memSizeAligned)
    (run : Run HeapSystem.step HeapSystem.Allowed (.start heap) calls s) :
    ∃ row, s.Sound row :=
  HeapSystem.sound_of_run (start_sound halign hinit hroomy).1 run

/-- A heap of 100 bytes between the two marks. -/
def smallHeap : Option Heap :=
  Heap.rtSystemHeapInit 4 (fun _ => 0) 0x20000001 0x20000080

/-- As long as no block is cut short, `rt_malloc` gives the first block that
is large enough and no exact fit at the end of the heap, and null only when
there is none. -/
theorem malloc_takes_first_fit (halign : ∃ k, alignSize.toNat = 2 ^ k)
    (hinit : Heap.rtSystemHeapInit alignSize memory beginAddr endAddr =
      some heap)
    (hroomy : heap.minSizeAligned ≤ heap.memSizeAligned)
    (run : Run HeapSystem.step
      (fun s call => s.Allowed call ∧ ¬s.Shortens call) (.start heap) calls s)
    {request : UInt32} (hrequest : request ≠ 0) :
    (s.heap.rtMalloc request).map Prod.snd =
      some ((s.heap.blocks.find? fun q =>
        s.heap.Fits (s.heap.allotment request) q).map fun q =>
          q.1 + s.heap.sizeofStructMem) := by
  have hlowest : ∃ row, s.Sound row ∧ Heap.Lowest row s.heap.lfree := by
    refine @Run.invariant _ _ _ _
      (fun s => ∃ row, s.Sound row ∧ Heap.Lowest row s.heap.lfree) ?_ _ _ _ run
      ⟨_, start_sound halign hinit hroomy⟩
    rintro s call next ⟨row, hsound, hlowest⟩ ⟨hallowed, hlong⟩ hstep
    obtain ⟨s', row', hgoes, hsound', hkeeps⟩ :=
      HeapSystem.call_goes hsound hallowed
    rw [hstep] at hgoes
    cases hgoes
    exact ⟨row', hsound', hkeeps hlong hlowest⟩
  obtain ⟨row, hsound, hlowest⟩ := hlowest
  obtain ⟨front, back, rfl, hlfree⟩ := hsound.tiled.exists_front
  -- below `lfree` every block is in use
  have hfront : (placed 0 front).find? (fun q =>
      s.heap.Fits (s.heap.allotment request) q) = none := by
    refine List.find?_eq_none.mpr fun q hq => ?_
    rw [decide_eq_true_eq]
    rintro ⟨hfree, -⟩
    have hplace := hlowest q (by simp [hq]) hfree
    have hbound := le_of_mem_placed hq
    have hsize := hsound.tiled.cut.twelve_le_size q.2
      (by simp [mem_of_mem_placed hq])
    omega
  rw [Heap.blocks_eq hsound.tiled.cut, placed_append, List.find?_append,
    hfront, Option.none_or, Nat.zero_add]
  rcases Heap.rtMalloc_cases hsound.tiled hlfree hrequest with
    ⟨hnone, hanswer⟩ | ⟨q, heap', row', hsome, hanswer, -⟩
  · rw [hnone, hanswer]
    rfl
  · rw [hsome, hanswer]
    rfl

theorem malloc_takes_first_fit_between :
    ∃ s : HeapSystem, s.heap.blocks.map (·.2.used) = [false, true, false] ∧
      (s.heap.rtMalloc 8).map Prod.snd = some (some 12) := by
  have computed : (do
      let heap ← smallHeap
      let s ← [HeapCall.malloc 40, .malloc 20, .free 12].foldlM
        (fun s call => if s.Allowed call ∧ ¬s.Shortens call then s.step call
          else none) (HeapSystem.start heap)
      return (decide (heap.minSizeAligned ≤ heap.memSizeAligned),
        s.heap.blocks.map (·.2.used), (s.heap.blocks.find? fun q =>
          s.heap.Fits (s.heap.allotment 8) q).map fun q =>
            q.1 + s.heap.sizeofStructMem)) =
        some (true, [false, true, false], some 12) := by
    decide +kernel
  obtain ⟨heap, hinit, computed⟩ := Option.bind_eq_some_iff.mp computed
  obtain ⟨s, hrun, computed⟩ := Option.bind_eq_some_iff.mp computed
  have seen := Option.some.inj computed
  simp only [Prod.mk.injEq, decide_eq_true_eq] at seen
  obtain ⟨hroomy, hblocks, hfind⟩ := seen
  refine ⟨s, hblocks, ?_⟩
  rw [malloc_takes_first_fit ⟨2, rfl⟩ hinit hroomy (Run.of_checked hrun)
    (by decide), hfind]

/-- A block that was cut short leaves a free block below `lfree`: it is passed
over although it is large enough. -/
example : (do
    let heap ← smallHeap
    let s ← [HeapCall.malloc 40, .malloc 20, .resize 12 10].foldlM
      HeapSystem.step (HeapSystem.start heap)
    let taken ← s.heap.rtMalloc 8
    return (s.heap.blocks, s.heap.lfree, taken.2)) =
      some ([(0, ⟨24, true⟩), (24, ⟨28, false⟩), (52, ⟨32, true⟩),
        (84, ⟨28, false⟩)], 84, some 96) := by
  decide +kernel

/-- The statistics are right in every history, neighbours are never both free,
and once everything is given back the heap is as it was after the set-up. -/
theorem heap_becomes_whole_again (halign : ∃ k, alignSize.toNat = 2 ^ k)
    (hinit : Heap.rtSystemHeapInit alignSize memory beginAddr endAddr =
      some heap)
    (hroomy : heap.minSizeAligned ≤ heap.memSizeAligned)
    (run : Run HeapSystem.step HeapSystem.Allowed (.start heap) calls s) :
    s.heap.usedMem =
      ((s.heap.blocks.filter (·.2.used)).map (·.2.size)).sum ∧
    s.heap.maxMem = s.peak ∧
    (s.heap.blocks.map (·.2)).IsChain
      (fun first second => first.used = true ∨ second.used = true) ∧
    ((∀ p, s.granted p = none) →
      s.heap.blocks = [(0, ⟨s.heap.heapEnd, false⟩)] ∧ s.heap.lfree = 0 ∧
        s.heap.usedMem = 0) := by
  obtain ⟨row, hsound⟩ := run_sound halign hinit hroomy run
  rw [Heap.blocks_eq hsound.tiled.cut, map_snd_placed]
  refine ⟨?_, hsound.maxMem, hsound.tiled.separated, fun hnone => ?_⟩
  · rw [hsound.tiled.usedMem, sum_used_placed]
  · have hfree : ∀ q ∈ placed 0 row, q.2.used = false := by
      intro q hq
      by_contra hused
      have := hsound.known q hq (by simpa using hused)
      rw [hnone] at this
      cases this
    have hwhole := hsound.tiled.cut.whole
    have hrow : row = [⟨s.heap.heapEnd, false⟩] := by
      match row with
      | [] =>
          have hstruct := hsound.tiled.cut.shaped.twelve_le
          simp only [extent_nil, Heap.heapEnd] at hwhole
          omega
      | [⟨size, used⟩] =>
          obtain rfl : used = false := hfree (0, ⟨size, used⟩) (by simp)
          simp only [extent_cons, extent_nil, Nat.add_zero] at hwhole
          rw [hwhole]
      | first :: second :: row =>
          have hfirst := hfree (0, first) (by simp)
          have hsecond := hfree (0 + first.size, second) (by simp)
          rcases hsound.tiled.separated.rel with hused | hused
          · rw [hfirst] at hused
            cases hused
          · rw [hsecond] at hused
            cases hused
    subst hrow
    refine ⟨rfl, ?_, ?_⟩
    · rcases hsound.tiled.opening with hend | ⟨q, hq, hplace, -⟩
      · obtain ⟨q, hq, hused⟩ := hsound.tiled.busy hend
        rw [hfree q hq] at hused
        cases hused
      · obtain rfl : q = (0, ⟨s.heap.heapEnd, false⟩) := by simpa using hq
        exact hplace.symm
    · rw [hsound.tiled.usedMem]
      simp

theorem heap_becomes_whole_again_after_three :
    ∃ s : HeapSystem, s.heap.usedMem = 0 ∧ s.heap.maxMem = 84 ∧
      s.heap.blocks = [(0, ⟨s.heap.heapEnd, false⟩)] ∧ s.heap.lfree = 0 := by
  have computed : (do
      let heap ← smallHeap
      let s ← [HeapCall.malloc 40, .malloc 20, .resize 12 10, .free 64,
        .free 12].foldlM (fun s call =>
          if s.Allowed call then s.step call else none)
          (HeapSystem.start heap)
      return (decide (heap.minSizeAligned ≤ heap.memSizeAligned), s.peak,
        s.heap.blocks.all (!·.2.used))) = some (true, 84, true) := by
    decide +kernel
  obtain ⟨heap, hinit, computed⟩ := Option.bind_eq_some_iff.mp computed
  obtain ⟨s, hrun, computed⟩ := Option.bind_eq_some_iff.mp computed
  have seen := Option.some.inj computed
  simp only [Prod.mk.injEq, decide_eq_true_eq] at seen
  obtain ⟨hroomy, hpeak, hfree⟩ := seen
  have run := Run.of_checked hrun
  -- what is held has a block, and no block is used
  have hnone (p : Nat) : s.granted p = none := by
    obtain ⟨row, hsound⟩ := run_sound ⟨2, rfl⟩ hinit hroomy run
    refine Option.eq_none_iff_forall_ne_some.mpr fun size hsize => ?_
    obtain ⟨q, hq, hused, -⟩ := hsound.blocks p size hsize
    rw [← Heap.blocks_eq hsound.tiled.cut] at hq
    simpa [hused] using List.all_eq_true.mp hfree q hq
  obtain ⟨-, hmax, -, hwhole⟩ :=
    heap_becomes_whole_again ⟨2, rfl⟩ hinit hroomy run
  obtain ⟨hblocks, hlfree, hused⟩ := hwhole hnone
  exact ⟨s, hused, hmax.trans hpeak, hblocks, hlfree⟩

end Histories

end WncFirmware.Kernel
