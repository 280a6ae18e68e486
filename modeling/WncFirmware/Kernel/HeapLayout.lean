import WncFirmware.Foundation.Tilings
import WncFirmware.Kernel.Heap

/-!
# The blocks of the heap

Read from its first byte on, the heap is a row of adjacent blocks.  Every
block starts with a header that says where the next and the previous block
start, and the calls of the allocator rewrite nothing but headers.
-/

namespace WncFirmware.Kernel

open Foundation

/-! ## Alignment -/

theorem toNat_and_mask {x align : UInt32} {k : Nat} (h : align.toNat = 2 ^ k) :
    (x &&& ~~~(align - 1)).toNat = x.toNat / 2 ^ k * 2 ^ k := by
  have halign := align.toNat_lt
  have hk : k < 32 := by
    rw [h] at halign
    exact (Nat.pow_lt_pow_iff_right (by omega)).mp halign
  have hpos : 0 < 2 ^ k := Nat.two_pow_pos k
  have hle : 2 ^ k ≤ 2 ^ 32 := by omega
  have hone : (1 : UInt32) ≤ align := by
    rw [UInt32.le_iff_toNat_le, h]
    exact hpos
  have hmask : (~~~(align - 1)).toNat = 2 ^ 32 - (2 ^ k - 1 + 1) := by
    rw [UInt32.toNat_not, UInt32.toNat_sub_of_le _ _ hone, h]
    simp only [UInt32.size, UInt32.toNat_one]
    omega
  rw [UInt32.toNat_and, hmask, ← Nat.shiftRight_eq_div_pow,
    ← Nat.shiftLeft_eq]
  refine Nat.eq_of_testBit_eq fun i => ?_
  rw [Nat.testBit_and, Nat.testBit_two_pow_sub_succ (by omega),
    Nat.testBit_two_pow_sub_one, Nat.testBit_shiftLeft,
    Nat.testBit_shiftRight]
  by_cases hi : k ≤ i
  · by_cases hlt : i < 32
    · simp [hi, hlt, Nat.not_lt.mpr hi]
    · have hbig : x.toNat < 2 ^ i :=
        Nat.lt_of_lt_of_le x.toNat_lt (Nat.pow_le_pow_right (by omega) (by omega))
      simp [hi, hlt, Nat.testBit_lt_two_pow hbig]
  · simp [hi, Nat.not_le.mp hi]

theorem toNat_rtAlign {size align : UInt32} {k : Nat} (h : align.toNat = 2 ^ k) :
    (rtAlign size align).toNat =
      (size.toNat + 2 ^ k - 1) % 2 ^ 32 / 2 ^ k * 2 ^ k := by
  have hpos : 0 < 2 ^ k := Nat.two_pow_pos k
  have hlt : 2 ^ k < 2 ^ 32 := h ▸ align.toNat_lt
  have hsum : (size + align - 1).toNat = (size.toNat + 2 ^ k - 1) % 2 ^ 32 := by
    rw [UInt32.toNat_sub, UInt32.toNat_add, h, UInt32.toNat_one]
    omega
  rw [rtAlign, toNat_and_mask h, hsum]

theorem dvd_rtAlign {size align : UInt32} {k : Nat} (h : align.toNat = 2 ^ k) :
    align.toNat ∣ (rtAlign size align).toNat := by
  rw [toNat_rtAlign h, h]
  exact Nat.dvd_mul_left _ _

theorem le_rtAlign {size align : UInt32} {k : Nat} (h : align.toNat = 2 ^ k)
    (hsize : size.toNat + align.toNat ≤ 2 ^ 32) :
    size.toNat ≤ (rtAlign size align).toNat ∧
      (rtAlign size align).toNat < size.toNat + align.toNat := by
  have hpos : 0 < 2 ^ k := Nat.two_pow_pos k
  rw [h] at hsize ⊢
  rw [toNat_rtAlign h, Nat.mod_eq_of_lt (by omega)]
  have hdiv := Nat.div_add_mod (size.toNat + 2 ^ k - 1) (2 ^ k)
  have hmod := Nat.mod_lt (size.toNat + 2 ^ k - 1) hpos
  rw [Nat.mul_comm] at hdiv
  omega

namespace Heap

variable {heap : Heap} {mem place : Nat} {field other : HeapMem}

/-! ## Fields -/

section Fields

variable (heap : Heap) (mem : Nat) (field : HeapMem) (number : Nat)

@[simp] theorem set_alignSize :
    (heap.set mem field number).alignSize = heap.alignSize := rfl

@[simp] theorem set_memSizeAligned :
    (heap.set mem field number).memSizeAligned = heap.memSizeAligned := rfl

@[simp] theorem set_lfree : (heap.set mem field number).lfree = heap.lfree := rfl

@[simp] theorem set_usedMem :
    (heap.set mem field number).usedMem = heap.usedMem := rfl

@[simp] theorem set_maxMem :
    (heap.set mem field number).maxMem = heap.maxMem := rfl

@[simp] theorem set_sizeofStructMem :
    (heap.set mem field number).sizeofStructMem = heap.sizeofStructMem := rfl

@[simp] theorem set_heapEnd :
    (heap.set mem field number).heapEnd = heap.heapEnd := rfl

@[simp] theorem get_set_self :
    (heap.set mem field number).get mem field = number % 256 ^ field.width :=
  loadWord_storeWord _ _ _ _

end Fields

theorem get_set_of_ne (number : Nat) (h : other ≠ field) :
    (heap.set mem field number).get mem other = heap.get mem other := by
  refine loadWord_storeWord_of_apart number ?_
  cases other <;> cases field <;>
    first
    | exact absurd rfl h
    | simp only [HeapMem.offset, HeapMem.width]; omega

theorem get_set_of_apart (number : Nat) (h : place + 12 ≤ mem ∨ mem + 12 ≤ place) :
    (heap.set mem field number).get place other = heap.get place other := by
  refine loadWord_storeWord_of_apart number ?_
  cases other <;> cases field <;>
    simp only [HeapMem.offset, HeapMem.width] <;> omega

theorem set_memory_of_outside (number : Nat) (h : place < mem ∨ mem + 12 ≤ place) :
    (heap.set mem field number).memory place = heap.memory place := by
  refine storeWord_of_outside number ?_
  cases field <;> simp only [HeapMem.offset, HeapMem.width] <;> omega

section Create

variable {used next prev : Nat}

@[simp] theorem create_alignSize :
    (heap.create mem used next prev).alignSize = heap.alignSize := rfl

@[simp] theorem create_memSizeAligned :
    (heap.create mem used next prev).memSizeAligned = heap.memSizeAligned := rfl

@[simp] theorem create_sizeofStructMem :
    (heap.create mem used next prev).sizeofStructMem =
      heap.sizeofStructMem := rfl

@[simp] theorem create_heapEnd :
    (heap.create mem used next prev).heapEnd = heap.heapEnd := rfl

@[simp] theorem create_lfree :
    (heap.create mem used next prev).lfree = heap.lfree := rfl

@[simp] theorem create_usedMem :
    (heap.create mem used next prev).usedMem = heap.usedMem := rfl

@[simp] theorem create_maxMem :
    (heap.create mem used next prev).maxMem = heap.maxMem := rfl

theorem get_create_magic :
    (heap.create mem used next prev).get mem .magic = heapMagic := by
  rw [create, get_set_of_ne _ (by decide), get_set_of_ne _ (by decide),
    get_set_of_ne _ (by decide), get_set_self]
  rfl

theorem get_create_used (h : used ≤ 1) :
    (heap.create mem used next prev).get mem .used = used := by
  rw [create, get_set_of_ne _ (by decide), get_set_of_ne _ (by decide),
    get_set_self, Nat.mod_eq_of_lt]
  simp only [HeapMem.width]
  omega

theorem get_create_next (h : next < 2 ^ 32) :
    (heap.create mem used next prev).get mem .next = next := by
  rw [create, get_set_of_ne _ (by decide), get_set_self, Nat.mod_eq_of_lt]
  simpa [HeapMem.width] using h

theorem get_create_prev (h : prev < 2 ^ 32) :
    (heap.create mem used next prev).get mem .prev = prev := by
  rw [create, get_set_self, Nat.mod_eq_of_lt]
  simpa [HeapMem.width] using h

theorem get_create_of_apart (h : place + 12 ≤ mem ∨ mem + 12 ≤ place) :
    (heap.create mem used next prev).get place other = heap.get place other := by
  rw [create, get_set_of_apart _ h, get_set_of_apart _ h,
    get_set_of_apart _ h, get_set_of_apart _ h]

theorem create_memory_of_outside (h : place < mem ∨ mem + 12 ≤ place) :
    (heap.create mem used next prev).memory place = heap.memory place := by
  rw [create, set_memory_of_outside _ h, set_memory_of_outside _ h,
    set_memory_of_outside _ h, set_memory_of_outside _ h]

end Create

/-! ## Shape -/

structure Shaped (heap : Heap) : Prop where
  align : ∃ k, heap.alignSize.toNat = 2 ^ k
  divides : heap.alignSize.toNat ∣ heap.memSizeAligned
  roomy : heap.minSizeAligned ≤ heap.memSizeAligned
  bounded : heap.memSizeAligned + 2 * heap.sizeofStructMem ≤ 2 ^ 32

theorem minSizeAligned_eq (heap : Heap) :
    heap.minSizeAligned = heap.sizeofStructMem := rfl

theorem Shaped.twelve_le (h : heap.Shaped) : 12 ≤ heap.sizeofStructMem := by
  obtain ⟨k, hk⟩ := h.align
  have hlt : 2 ^ k < 2 ^ 32 := hk ▸ heap.alignSize.toNat_lt
  have hk32 : k < 32 := (Nat.pow_lt_pow_iff_right (by omega)).mp hlt
  have hhalf : 2 ^ k ≤ 2 ^ 31 := Nat.pow_le_pow_right (by omega) (by omega)
  refine (@le_rtAlign 12 heap.alignSize k hk ?_).1
  rw [hk, show (12 : UInt32).toNat = 12 from rfl]
  omega

theorem Shaped.dvd_sizeofStructMem (h : heap.Shaped) :
    heap.alignSize.toNat ∣ heap.sizeofStructMem := by
  obtain ⟨k, hk⟩ := h.align
  exact dvd_rtAlign hk

theorem Shaped.congr {heap' : Heap} (h : heap.Shaped)
    (halign : heap'.alignSize = heap.alignSize)
    (hsize : heap'.memSizeAligned = heap.memSizeAligned) : heap'.Shaped := by
  obtain ⟨align, divides, roomy, bounded⟩ := h
  refine ⟨?_, ?_, ?_, ?_⟩ <;>
    simpa only [minSizeAligned, sizeofStructMem, halign, hsize]

/-! ## Headers in a row -/

/-- The headers from `start` on describe `row`; the block before starts at
`prev`. -/
def Laid (heap : Heap) : Nat → Nat → List Piece → Prop
  | _, _, [] => True
  | prev, start, piece :: row =>
      (heap.get start .magic = heapMagic ∧
        heap.get start .used = piece.used.toNat ∧
        heap.get start .next = start + piece.size ∧
        heap.get start .prev = prev) ∧
      heap.Laid start (start + piece.size) row

def lastStart : Nat → Nat → List Piece → Nat
  | prev, _, [] => prev
  | _, start, piece :: row => lastStart start (start + piece.size) row

theorem lastStart_append_singleton (prev start : Nat) (front : List Piece)
    (piece : Piece) :
    lastStart prev start (front ++ [piece]) = start + extent front := by
  induction front generalizing prev start with
  | nil => simp [lastStart]
  | cons first front ih => simp [lastStart, ih, Nat.add_assoc]

variable {heap' : Heap} {prev start : Nat} {front back row : List Piece}
  {piece : Piece}

theorem laid_append :
    heap.Laid prev start (front ++ back) ↔
      heap.Laid prev start front ∧
        heap.Laid (lastStart prev start front) (start + extent front) back := by
  induction front generalizing prev start with
  | nil => simp [Laid, lastStart]
  | cons first front ih =>
      simp [Laid, lastStart, ih, and_assoc, Nat.add_assoc]

theorem Laid.congr (h : heap.Laid prev start row)
    (hsame : ∀ q ∈ placed start row, ∀ field,
      heap'.get q.1 field = heap.get q.1 field) :
    heap'.Laid prev start row := by
  induction row generalizing prev start with
  | nil => trivial
  | cons piece row ih =>
      have hhead := hsame (start, piece) (by simp)
      refine ⟨?_, ih h.2 fun q hq => hsame q (by simp [hq])⟩
      rw [hhead, hhead, hhead, hhead]
      exact h.1

theorem Laid.set_of_apart (h : heap.Laid prev start row)
    (hsizes : ∀ piece ∈ row, 12 ≤ piece.size) (field : HeapMem) (number : Nat)
    (hmem : mem + 12 ≤ start ∨ start + extent row ≤ mem) :
    (heap.set mem field number).Laid prev start row := by
  refine h.congr fun q hq _ => get_set_of_apart number ?_
  have hsize := hsizes q.2 (mem_of_mem_placed hq)
  have hplace := le_of_mem_placed hq
  omega

theorem Laid.create_of_apart {used next before : Nat}
    (h : heap.Laid prev start row) (hsizes : ∀ piece ∈ row, 12 ≤ piece.size)
    (hmem : mem + 12 ≤ start ∨ start + extent row ≤ mem) :
    (heap.create mem used next before).Laid prev start row := by
  refine h.congr fun q hq _ => get_create_of_apart ?_
  have hsize := hsizes q.2 (mem_of_mem_placed hq)
  have hplace := le_of_mem_placed hq
  omega

theorem Laid.set_prev (h : heap.Laid prev start row)
    (hsizes : ∀ piece ∈ row, 12 ≤ piece.size) (hmem : mem < 2 ^ 32) :
    (heap.set start .prev mem).Laid mem start row := by
  cases row with
  | nil => trivial
  | cons piece row =>
      have hsize := hsizes piece List.mem_cons_self
      refine ⟨⟨?_, ?_, ?_, ?_⟩, ?_⟩
      · rw [get_set_of_ne mem (by decide)]
        exact h.1.1
      · rw [get_set_of_ne mem (by decide)]
        exact h.1.2.1
      · rw [get_set_of_ne mem (by decide)]
        exact h.1.2.2.1
      · rw [get_set_self]
        exact Nat.mod_eq_of_lt (by simpa [HeapMem.width] using hmem)
      · exact h.2.set_of_apart
          (fun piece hpiece => hsizes piece (List.mem_cons_of_mem _ hpiece))
          _ mem (.inl (by omega))

/-! ## The heap as a row of blocks -/

structure Cut (heap : Heap) (row : List Piece) : Prop where
  shaped : heap.Shaped
  laid : heap.Laid 0 0 row
  sizes : ∀ piece ∈ row, heap.sizeofStructMem ≤ piece.size ∧
    heap.alignSize.toNat ∣ piece.size
  whole : extent row = heap.heapEnd

namespace Cut

variable {size : Nat} {used : Bool}

theorem heapEnd_lt (h : heap.Cut row) : heap.heapEnd < 2 ^ 32 := by
  have hstruct := h.shaped.twelve_le
  have hbounded := h.shaped.bounded
  simp only [heapEnd]
  omega

theorem twelve_le_size (h : heap.Cut row) :
    ∀ piece ∈ row, 12 ≤ piece.size := fun piece hpiece =>
  h.shaped.twelve_le.trans (h.sizes piece hpiece).1

theorem place_lt (h : heap.Cut row) {q : Nat × Piece} (hq : q ∈ placed 0 row) :
    q.1 + 12 ≤ heap.heapEnd := by
  have hsize := h.twelve_le_size q.2 (mem_of_mem_placed hq)
  have hplace := le_of_mem_placed hq
  rw [h.whole] at hplace
  omega

theorem rebuild (old new : List Piece) (h : heap.Cut (front ++ (old ++ back)))
    (halign : heap'.alignSize = heap.alignSize)
    (hsize : heap'.memSizeAligned = heap.memSizeAligned)
    (hfront : heap'.Laid 0 0 front)
    (hback : heap'.Laid (lastStart 0 0 front) (extent front) (new ++ back))
    (hnew : ∀ piece ∈ new, heap.sizeofStructMem ≤ piece.size ∧
      heap.alignSize.toNat ∣ piece.size)
    (hextent : extent new = extent old) :
    heap'.Cut (front ++ (new ++ back)) := by
  refine ⟨h.shaped.congr halign hsize, ?_, ?_, ?_⟩
  · rw [laid_append, Nat.zero_add]
    exact ⟨hfront, hback⟩
  · simp only [sizeofStructMem, halign]
    intro piece hpiece
    rw [List.mem_append, List.mem_append] at hpiece
    rcases hpiece with hpiece | hpiece | hpiece
    · exact h.sizes piece (by simp [hpiece])
    · exact hnew piece hpiece
    · exact h.sizes piece (by simp [hpiece])
  · have hwhole := h.whole
    simp only [extent_append, heapEnd, sizeofStructMem, halign, hsize]
      at hwhole ⊢
    omega

theorem congr (h : heap.Cut row) (halign : heap'.alignSize = heap.alignSize)
    (hsize : heap'.memSizeAligned = heap.memSizeAligned)
    (hsame : ∀ q ∈ placed 0 row, ∀ field,
      heap'.get q.1 field = heap.get q.1 field) : heap'.Cut row := by
  refine ⟨h.shaped.congr halign hsize, h.laid.congr hsame, ?_, ?_⟩
  · simpa only [sizeofStructMem, halign] using h.sizes
  · simpa only [heapEnd, sizeofStructMem, halign, hsize] using h.whole

theorem set_used (h : heap.Cut (front ++ ⟨size, used⟩ :: back)) (now : Bool) :
    (heap.set (extent front) .used now.toNat).Cut
      (front ++ ⟨size, now⟩ :: back) := by
  have hsizes := h.twelve_le_size
  have hlaid := h.laid
  rw [laid_append, Nat.zero_add] at hlaid
  obtain ⟨hfront, ⟨hmagic, -, hnext, hprev⟩, hback⟩ := hlaid
  have hsize : 12 ≤ size := hsizes ⟨size, used⟩ (by simp)
  refine h.rebuild [⟨size, used⟩] [⟨size, now⟩] rfl rfl
    ?_ ⟨⟨?_, ?_, ?_, ?_⟩, ?_⟩ ?_ (by simp)
  · exact hfront.set_of_apart (fun piece hpiece => hsizes piece (by simp [hpiece]))
      _ _ (.inr (by simp))
  · rw [get_set_of_ne _ (by decide), hmagic]
  · rw [get_set_self]
    cases now <;> rfl
  · rw [get_set_of_ne _ (by decide), hnext]
  · rw [get_set_of_ne _ (by decide), hprev]
  · exact hback.set_of_apart (fun piece hpiece => hsizes piece (by simp [hpiece]))
      _ _ (.inl (by simp only; omega))
  · intro piece hpiece
    rw [List.mem_singleton] at hpiece
    subst hpiece
    exact h.sizes ⟨size, used⟩ (by simp)

theorem set_magic (h : heap.Cut (front ++ piece :: back)) :
    (heap.set (extent front) .magic heapMagic).Cut (front ++ piece :: back) := by
  have hsizes := h.twelve_le_size
  have hlaid := h.laid
  rw [laid_append, Nat.zero_add] at hlaid
  obtain ⟨hfront, ⟨-, hused, hnext, hprev⟩, hback⟩ := hlaid
  have hsize : 12 ≤ piece.size := hsizes piece (by simp)
  refine h.rebuild [piece] [piece] rfl rfl
    ?_ ⟨⟨?_, ?_, ?_, ?_⟩, ?_⟩ ?_ rfl
  · exact hfront.set_of_apart (fun piece hpiece => hsizes piece (by simp [hpiece]))
      _ _ (.inr (by simp))
  · rw [get_set_self]
    rfl
  · rw [get_set_of_ne _ (by decide), hused]
  · rw [get_set_of_ne _ (by decide), hnext]
  · rw [get_set_of_ne _ (by decide), hprev]
  · exact hback.set_of_apart (fun piece hpiece => hsizes piece (by simp [hpiece]))
      _ _ (.inl (by omega))
  · intro other hother
    rw [List.mem_singleton] at hother
    subst hother
    exact h.sizes other (by simp)

theorem join (h : heap.Cut (front ++ ⟨size, used⟩ :: piece :: back)) :
    ((heap.set (extent front) .next (extent front + size + piece.size)).set
      (extent front + size + piece.size) .prev (extent front)).Cut
        (front ++ ⟨size + piece.size, used⟩ :: back) := by
  have hsizes := h.twelve_le_size
  have hend := h.heapEnd_lt
  have hlaid := h.laid
  have hwhole := h.whole
  rw [laid_append, Nat.zero_add] at hlaid
  simp only [extent_append, extent_cons] at hwhole
  obtain ⟨hfront, ⟨hmagic, hused, hnext, hprev⟩, -, hback⟩ := hlaid
  have hsize : 12 ≤ size := hsizes ⟨size, used⟩ (by simp)
  have happart : extent front + 12 ≤ extent front + size + piece.size := by
    omega
  have hfrontSizes : ∀ piece ∈ front, 12 ≤ piece.size :=
    fun piece hpiece => hsizes piece (by simp [hpiece])
  have hbackSizes : ∀ piece ∈ back, 12 ≤ piece.size :=
    fun piece hpiece => hsizes piece (by simp [hpiece])
  refine h.rebuild [⟨size, used⟩, piece] [⟨size + piece.size, used⟩] rfl rfl
    ?_ ⟨⟨?_, ?_, ?_, ?_⟩, ?_⟩ ?_ (by simp)
  · exact (hfront.set_of_apart hfrontSizes _ _ (.inr (by simp))).set_of_apart
      hfrontSizes _ _ (.inr (by omega))
  · rw [get_set_of_apart _ (.inl happart), get_set_of_ne _ (by decide), hmagic]
  · rw [get_set_of_apart _ (.inl happart), get_set_of_ne _ (by decide), hused]
  · rw [get_set_of_apart _ (.inl happart), get_set_self, Nat.add_assoc]
    refine Nat.mod_eq_of_lt ?_
    simp only [HeapMem.width]
    omega
  · rw [get_set_of_apart _ (.inl happart), get_set_of_ne _ (by decide), hprev]
  · have hmoved := (hback.set_of_apart hbackSizes .next
      (extent front + size + piece.size) (.inl happart)).set_prev
      hbackSizes (show extent front < 2 ^ 32 by omega)
    change Heap.Laid _ _ _ back
    simpa only [Nat.add_assoc] using hmoved
  · intro other hother
    rw [List.mem_singleton] at hother
    subst hother
    have hfirst := h.sizes ⟨size, used⟩ (by simp)
    have hsecond := h.sizes piece (by simp)
    exact ⟨by simp only; omega, Nat.dvd_add hfirst.2 hsecond.2⟩

theorem split {cut : Nat} (h : heap.Cut (front ++ ⟨size, used⟩ :: back))
    (hfit : heap.sizeofStructMem + cut + heap.sizeofStructMem ≤ size)
    (hdvd : heap.alignSize.toNat ∣ cut) :
    (heap.split (extent front) cut).Cut
      (front ++ ⟨heap.sizeofStructMem + cut, used⟩ ::
        ⟨size - (heap.sizeofStructMem + cut), false⟩ :: back) := by
  have hsizes := h.twelve_le_size
  have hend := h.heapEnd_lt
  have hstruct := h.shaped.twelve_le
  have hlaid := h.laid
  have hwhole := h.whole
  rw [laid_append, Nat.zero_add] at hlaid
  simp only [extent_append, extent_cons] at hwhole
  obtain ⟨hfront, ⟨hmagic, hused, hnext, hprev⟩, hback⟩ := hlaid
  simp only at hnext hback
  have hfrontSizes : ∀ piece ∈ front, 12 ≤ piece.size :=
    fun piece hpiece => hsizes piece (by simp [hpiece])
  have hbackSizes : ∀ piece ∈ back, 12 ≤ piece.size :=
    fun piece hpiece => hsizes piece (by simp [hpiece])
  -- the three headers that are written lie apart
  have hfirst : extent front + 12 ≤
      extent front + heap.sizeofStructMem + cut := by omega
  have hsecond : extent front + heap.sizeofStructMem + cut + 12 ≤
      extent front + size := by omega
  have hcut : (((heap.create (extent front + heap.sizeofStructMem + cut) 0
      (extent front + size) (extent front)).set (extent front) .next
      (extent front + heap.sizeofStructMem + cut)).set (extent front + size)
      .prev (extent front + heap.sizeofStructMem + cut)).Cut
        (front ++ ⟨heap.sizeofStructMem + cut, used⟩ ::
          ⟨size - (heap.sizeofStructMem + cut), false⟩ :: back) := by
    refine h.rebuild [⟨size, used⟩] [⟨heap.sizeofStructMem + cut, used⟩,
      ⟨size - (heap.sizeofStructMem + cut), false⟩] (by simp) (by simp) ?_
      ⟨⟨?_, ?_, ?_, ?_⟩, ⟨?_, ?_, ?_, ?_⟩, ?_⟩ ?_ ?_
    · exact ((hfront.create_of_apart hfrontSizes (.inr (by omega))).set_of_apart
        hfrontSizes _ _ (.inr (by omega))).set_of_apart
        hfrontSizes _ _ (.inr (by omega))
    · rw [get_set_of_apart _ (.inl (by omega)), get_set_of_ne _ (by decide),
        get_create_of_apart (.inl hfirst), hmagic]
    · rw [get_set_of_apart _ (.inl (by omega)), get_set_of_ne _ (by decide),
        get_create_of_apart (.inl hfirst), hused]
    · rw [get_set_of_apart _ (.inl (by omega)), get_set_self, Nat.add_assoc]
      refine Nat.mod_eq_of_lt ?_
      simp only [HeapMem.width]
      omega
    · rw [get_set_of_apart _ (.inl (by omega)), get_set_of_ne _ (by decide),
        get_create_of_apart (.inl hfirst), hprev]
    · simp only [← Nat.add_assoc]
      rw [get_set_of_apart _ (.inl hsecond), get_set_of_apart _ (.inr hfirst),
        get_create_magic]
    · simp only [← Nat.add_assoc]
      rw [get_set_of_apart _ (.inl hsecond), get_set_of_apart _ (.inr hfirst),
        get_create_used (by omega)]
      rfl
    · simp only [← Nat.add_assoc]
      rw [get_set_of_apart _ (.inl hsecond), get_set_of_apart _ (.inr hfirst),
        get_create_next (by omega)]
      omega
    · simp only [← Nat.add_assoc]
      rw [get_set_of_apart _ (.inl hsecond), get_set_of_apart _ (.inr hfirst),
        get_create_prev (by omega)]
    · have hplace : extent front + (heap.sizeofStructMem + cut) +
          (size - (heap.sizeofStructMem + cut)) = extent front + size := by
        omega
      change Heap.Laid _ (extent front + (heap.sizeofStructMem + cut))
        (extent front + (heap.sizeofStructMem + cut) +
          (size - (heap.sizeofStructMem + cut))) back
      rw [hplace, ← Nat.add_assoc]
      exact ((hback.create_of_apart hbackSizes (.inl hsecond)).set_of_apart
        hbackSizes _ _ (.inl (by omega))).set_prev hbackSizes (by omega)
    · have hold := h.sizes ⟨size, used⟩ (by simp)
      have hfirstDvd := Nat.dvd_add h.shaped.dvd_sizeofStructMem hdvd
      simp only [List.mem_cons, List.not_mem_nil, or_false]
      rintro piece (rfl | rfl)
      · exact ⟨by simp only; omega, hfirstDvd⟩
      · exact ⟨by simp only; omega, Nat.dvd_sub hold.2 hfirstDvd⟩
    · simp only [extent_cons, extent_nil]
      omega
  rw [Heap.split]
  simp only [hnext]
  split
  · exact hcut
  · next hlast =>
      refine hcut.congr (by simp) (by simp) fun q hq field => ?_
      have hplace : q.1 + 12 ≤ heap.heapEnd := by
        simpa only [set_heapEnd, create_heapEnd] using hcut.place_lt hq
      rw [heapEnd] at hplace
      exact (get_set_of_apart _ (.inl (by omega))).symm

end Cut

end Heap

end WncFirmware.Kernel
