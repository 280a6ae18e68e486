import WncFirmware.Kernel.HeapAllocation

/-!
# Release and change of size

`rt_free` gives a block back and joins it with its free neighbours.  The part
of `rt_realloc` under the semaphore shortens a block where it lies, unless the
difference is too small.  It does not look after `lfree`.
-/

namespace WncFirmware.Kernel

open Foundation

namespace Heap

variable {heap heap' : Heap} {row row' front back : List Piece}
  {piece : Piece} {whole size mem place : Nat}

theorem mem_placed_middle {q : Nat × Piece} {used : Bool} (now : Bool)
    (h : q ∈ placed 0 (front ++ ⟨whole, used⟩ :: back)) :
    q = (extent front, ⟨whole, used⟩) ∨
      q ∈ placed 0 (front ++ ⟨whole, now⟩ :: back) := by
  simp only [placed_append, placed_cons, List.mem_append, List.mem_cons,
    Nat.zero_add] at h ⊢
  rcases h with h | rfl | h
  · exact .inr (.inl h)
  · exact .inl rfl
  · exact .inr (.inr (.inr h))

theorem Tiled.usedMem_lt (h : heap.Tiled row) : heap.usedMem < 2 ^ 32 := by
  have hused := usedExtent_le row
  have hend := h.cut.heapEnd_lt
  rw [h.usedMem]
  rw [h.cut.whole] at hused
  omega

/-! ## Release -/

structure Released (heap : Heap) (row : List Piece) (mem : Nat) (heap' : Heap)
    (row' : List Piece) : Prop where
  tiled : heap'.Tiled row'
  kept : heap.Kept heap' row'
  used_iff : ∀ q, q.2.used = true →
    (q ∈ placed 0 row' ↔ q ∈ placed 0 row ∧ q.1 ≠ mem)
  lowest : Lowest row heap.lfree → Lowest row' heap'.lfree
  maxMem : heap'.maxMem = heap.maxMem
  usedMem_le : heap'.usedMem ≤ heap.usedMem

theorem freed_lfree (heap : Heap) (mem : Nat) :
    (if mem < heap.lfree then { heap with lfree := mem } else heap) =
      { heap with lfree := min mem heap.lfree } := by
  split
  · next hlt => rw [Nat.min_eq_left (by omega)]
  · next hge => rw [Nat.min_eq_right (by omega)]

def freed (heap : Heap) (mem whole : Nat) : Heap :=
  { (heap.set mem .used 0).set mem .magic heapMagic with
    lfree := min mem heap.lfree
    usedMem := heap.usedMem - whole }

theorem rtFree_eq (h : heap.Tiled (front ++ ⟨whole, true⟩ :: back)) :
    heap.rtFree (extent front + heap.sizeofStructMem) =
      (heap.freed (extent front) whole).plugHoles (extent front) := by
  have hplace : (extent front, ⟨whole, true⟩) ∈
      placed 0 (front ++ ⟨whole, true⟩ :: back) := by simp
  have hinside := h.inside _ hplace
  have hend := h.cut.heapEnd_lt
  have hwhole := h.cut.whole
  have hlt := h.usedMem_lt
  have hused := h.usedMem
  simp only [extent_append, extent_cons] at hwhole
  simp only [usedExtent_append, usedExtent_cons, if_true] at hused
  obtain ⟨hmagic, hmark, hnext, -⟩ := h.cut.head
  have haligned : (extent front + heap.sizeofStructMem) %
      heap.alignSize.toNat = 0 :=
    Nat.mod_eq_zero_of_dvd (Nat.dvd_add (h.cut.dvd_place hplace)
      h.cut.shaped.dvd_sizeofStructMem)
  have hnextFreed : ((heap.set (extent front) .used 0).set (extent front)
      .magic heapMagic).get (extent front) .next = extent front + whole := by
    rw [get_set_of_ne _ (by decide), get_set_of_ne _ (by decide), hnext]
  simp only [rtFree, Nat.add_sub_cancel, freed_lfree]
  rw [if_pos ⟨by omega, haligned, hinside, by simp [hmark], hmagic⟩]
  have hblock : subSize (extent front + whole) (extent front) = whole := by
    rw [subSize_eq (by omega) (by omega), Nat.add_sub_cancel_left]
  have hsizes : subSize heap.usedMem (subSize (extent front + whole)
      (extent front)) = heap.usedMem - whole := by
    rw [hblock, subSize_eq (by omega) hlt]
  simp only [freed]
  rw [← hsizes, ← hnextFreed]
  rfl

theorem freed_cut (h : heap.Cut (front ++ ⟨whole, true⟩ :: back)) :
    (heap.freed (extent front) whole).Cut (front ++ ⟨whole, false⟩ :: back) :=
  (h.set_used false).set_magic.globals rfl rfl rfl

theorem freed_opening (h : heap.Tiled (front ++ ⟨whole, true⟩ :: back)) :
    (heap.freed (extent front) whole).Opening
      (front ++ ⟨whole, false⟩ :: back) (min (extent front) heap.lfree) := by
  by_cases hlow : extent front ≤ heap.lfree
  · rw [Nat.min_eq_left hlow]
    exact .inr ⟨(extent front, ⟨whole, false⟩), by simp, rfl, rfl⟩
  · rw [Nat.min_eq_right (by omega)]
    rcases h.opening with hend | ⟨q, hq, hplace, hfree⟩
    · exact .inl hend
    · rcases mem_placed_middle false hq with rfl | hq
      · cases hfree
      · exact .inr ⟨q, hq, hplace, hfree⟩

theorem freed_lowest
    (h : Lowest (front ++ ⟨whole, true⟩ :: back) heap.lfree) :
    Lowest (front ++ ⟨whole, false⟩ :: back) (min (extent front) heap.lfree) := by
  intro q hq hfree
  rcases mem_placed_middle true hq with rfl | hq
  · simp
  · exact (Nat.min_le_right _ _).trans (h q hq hfree)

theorem freed_used_iff (h : heap.Cut (front ++ ⟨whole, true⟩ :: back))
    {q : Nat × Piece} (hq : q.2.used = true) :
    q ∈ placed 0 (front ++ ⟨whole, false⟩ :: back) ↔
      q ∈ placed 0 (front ++ ⟨whole, true⟩ :: back) ∧ q.1 ≠ extent front := by
  constructor
  · intro hmem
    rcases mem_placed_middle true hmem with rfl | hold
    · cases hq
    · refine ⟨hold, (freed_cut h).place_ne hmem
        (show (extent front, ⟨whole, false⟩) ∈ _ by simp) ?_⟩
      rintro rfl
      cases hq
  · rintro ⟨hmem, hother⟩
    rcases mem_placed_middle false hmem with rfl | hnew
    · exact absurd rfl hother
    · exact hnew

theorem rtFree_spec (h : heap.Tiled row) (hmem : (mem, piece) ∈ placed 0 row)
    (hused : piece.used = true) :
    ∃ heap' row', heap.rtFree (mem + heap.sizeofStructMem) = some heap' ∧
      heap.Released row mem heap' row' := by
  obtain ⟨front, back, rfl, hplace⟩ := exists_split_of_mem_placed hmem
  obtain ⟨whole, used⟩ := piece
  obtain rfl : used = true := hused
  obtain rfl : mem = extent front := by omega
  obtain ⟨hfront, hback⟩ := h.separated.parts
  obtain ⟨heap', row', hplug, hplugged, hseparated⟩ :=
    plugHoles_spec (freed_cut h.cut) hfront hback
  have hinside := h.inside _ hmem
  have hlfree : heap'.lfree ≤ extent front :=
    hplugged.lfree_le.trans (Nat.min_le_left _ _)
  have hend : heap'.heapEnd = heap.heapEnd := hplugged.heapEnd
  have hstruct : heap'.sizeofStructMem = heap.sizeofStructMem := by
    rw [sizeofStructMem, hplugged.alignSize]
    rfl
  refine ⟨heap', row', (rtFree_eq h).trans hplug,
    ⟨hplugged.cut, hseparated, ?_, hplugged.opening (freed_opening h), ?_, ?_⟩,
    ⟨hplugged.alignSize, hplugged.memSizeAligned, ?_⟩, ?_, ?_,
    hplugged.maxMem, ?_⟩
  · intro q hq
    obtain ⟨p, hp, hsame, -⟩ := hplugged.heads q hq
    rw [hend, hstruct, ← hsame]
    rcases mem_placed_middle true hp with rfl | hp
    · exact hinside
    · exact h.inside p hp
  · rw [hplugged.usedMem, hplugged.usedExtent]
    have hbefore := h.usedMem
    simp only [usedExtent_append, usedExtent_cons, if_true] at hbefore
    simp only [freed, hbefore, usedExtent_append, usedExtent_cons]
    simp only [Bool.false_eq_true, if_false]
    omega
  · intro hlast
    simp only at hinside
    omega
  · intro q hq hq' place hlow hhigh
    have hold := (hplugged.used_iff q hq').mp hq
    have hpayload := payload_of_mem hold (freed_cut h.cut).twelve_le_size hlow hhigh
    have hbound := le_of_mem_placed hold
    rw [(freed_cut h.cut).whole] at hbound
    have hheader := hpayload (extent front, ⟨whole, false⟩) (by simp)
    exact (hplugged.keeps place (by omega) hpayload).trans
      ((set_memory_of_outside _ hheader).trans
        (set_memory_of_outside _ hheader))
  · exact fun q hq => (hplugged.used_iff q hq).trans (freed_used_iff h.cut hq)
  · exact fun hlowest => hplugged.lowest_after (freed_lowest hlowest)
  · rw [hplugged.usedMem]
    exact Nat.sub_le _ _

/-! ## Change of size -/

structure Shrunk (heap : Heap) (row : List Piece) (mem size : Nat)
    (heap' : Heap) (row' : List Piece) : Prop where
  tiled : heap'.Tiled row'
  kept : heap.Kept heap' row'
  used_iff : ∀ q, q.2.used = true →
    (q ∈ placed 0 row' ↔ (q ∈ placed 0 row ∧ q.1 ≠ mem) ∨
      q = (mem, ⟨heap.sizeofStructMem + size, true⟩))
  maxMem : heap'.maxMem = heap.maxMem
  usedMem_le : heap'.usedMem ≤ heap.usedMem

def shortened (heap : Heap) (front back : List Piece) (whole size : Nat) :
    List Piece :=
  front ++ ⟨heap.sizeofStructMem + size, true⟩ ::
    ⟨whole - (heap.sizeofStructMem + size), false⟩ :: back

theorem mem_placed_shortened {q : Nat × Piece}
    (hfit : heap.sizeofStructMem + size ≤ whole) :
    q ∈ placed 0 (heap.shortened front back whole size) ↔
      q ∈ placed 0 front ∨
      q = (extent front, ⟨heap.sizeofStructMem + size, true⟩) ∨
      q = (extent front + (heap.sizeofStructMem + size),
        ⟨whole - (heap.sizeofStructMem + size), false⟩) ∨
      q ∈ placed (extent front + whole) back := by
  have hplace : extent front + (heap.sizeofStructMem + size) +
      (whole - (heap.sizeofStructMem + size)) = extent front + whole := by
    omega
  simp [shortened, hplace]

theorem mem_placed_shortened_of_mem {q : Nat × Piece} {used : Bool}
    (hfit : heap.sizeofStructMem + size ≤ whole)
    (h : q ∈ placed 0 (front ++ ⟨whole, used⟩ :: back)) :
    q = (extent front, ⟨whole, used⟩) ∨
      q ∈ placed 0 (heap.shortened front back whole size) := by
  rw [mem_placed_shortened hfit]
  simp only [placed_append, placed_cons, List.mem_append, List.mem_cons,
    Nat.zero_add] at h
  rcases h with h | rfl | h
  · exact .inr (.inl h)
  · exact .inl rfl
  · exact .inr (.inr (.inr (.inr h)))

theorem shortened_used_iff {q : Nat × Piece}
    (h : heap.Cut (front ++ ⟨whole, true⟩ :: back))
    (hfit : heap.sizeofStructMem + size ≤ whole) (hq : q.2.used = true) :
    q ∈ placed 0 (heap.shortened front back whole size) ↔
      (q ∈ placed 0 (front ++ ⟨whole, true⟩ :: back) ∧ q.1 ≠ extent front) ∨
        q = (extent front, ⟨heap.sizeofStructMem + size, true⟩) := by
  have hapart : ∀ q ∈ placed 0 (front ++ ⟨whole, true⟩ :: back),
      q ≠ (extent front, ⟨whole, true⟩) → q.1 ≠ extent front := fun q hq hne =>
    h.place_ne hq (show (extent front, ⟨whole, true⟩) ∈ _ by simp) hne
  have hwhole := h.twelve_le_size ⟨whole, true⟩ (by simp)
  simp only at hwhole
  constructor
  · rw [mem_placed_shortened hfit]
    rintro (hmem | rfl | rfl | hmem)
    · have hbound := le_of_mem_placed hmem
      have hsize := h.twelve_le_size q.2 (by simp [mem_of_mem_placed hmem])
      exact .inl ⟨by simp [hmem], by omega⟩
    · exact .inr rfl
    · cases hq
    · have hbound := le_of_mem_placed hmem
      exact .inl ⟨by simp [hmem], by omega⟩
  · rintro (⟨hmem, hother⟩ | rfl)
    · rcases mem_placed_shortened_of_mem hfit hmem with rfl | hmem
      · exact absurd rfl hother
      · exact hmem
    · rw [mem_placed_shortened hfit]
      exact .inr (.inl rfl)

def cutShort (heap : Heap) (mem whole size : Nat) : Heap :=
  { heap with
    usedMem := heap.usedMem - (whole - heap.sizeofStructMem - size) }.split
      mem size

theorem cutShort_globals (heap : Heap) (mem whole size : Nat) :
    (heap.cutShort mem whole size).alignSize = heap.alignSize ∧
      (heap.cutShort mem whole size).memSizeAligned = heap.memSizeAligned ∧
      (heap.cutShort mem whole size).lfree = heap.lfree ∧
      (heap.cutShort mem whole size).usedMem =
        heap.usedMem - (whole - heap.sizeofStructMem - size) ∧
      (heap.cutShort mem whole size).maxMem = heap.maxMem :=
  split_globals _ _ _

theorem cutShort_heapEnd (heap : Heap) (mem whole size : Nat) :
    (heap.cutShort mem whole size).heapEnd = heap.heapEnd := by
  obtain ⟨halign, hmemSize, -⟩ := heap.cutShort_globals mem whole size
  simp only [heapEnd, sizeofStructMem, halign, hmemSize]

theorem cutShort_cut (h : heap.Cut (front ++ ⟨whole, true⟩ :: back))
    (hfit : heap.sizeofStructMem + size + heap.sizeofStructMem ≤ whole)
    (hdvd : heap.alignSize.toNat ∣ size) :
    (heap.cutShort (extent front) whole size).Cut
      (heap.shortened front back whole size) := by
  have hcharged : ({ heap with usedMem := heap.usedMem -
      (whole - heap.sizeofStructMem - size) } : Heap).Cut
        (front ++ ⟨whole, true⟩ :: back) := h.globals rfl rfl rfl
  exact hcharged.split hfit hdvd

theorem cutShort_memory (h : heap.Cut (front ++ ⟨whole, true⟩ :: back))
    (hfit : heap.sizeofStructMem + size ≤ whole)
    (hpayload : Payload (heap.shortened front back whole size) place) :
    (heap.cutShort (extent front) whole size).memory place =
      heap.memory place := by
  have hcharged : ({ heap with usedMem := heap.usedMem -
      (whole - heap.sizeofStructMem - size) } : Heap).Cut
        (front ++ ⟨whole, true⟩ :: back) := h.globals rfl rfl rfl
  exact split_memory hcharged hfit hpayload

theorem cutShort_opening (h : heap.Tiled (front ++ ⟨whole, true⟩ :: back))
    (hfit : heap.sizeofStructMem + size ≤ whole) :
    (heap.cutShort (extent front) whole size).Opening
      (heap.shortened front back whole size)
      (heap.cutShort (extent front) whole size).lfree := by
  rw [(heap.cutShort_globals (extent front) whole size).2.2.1]
  rcases h.opening with hend | ⟨q, hq, hplace, hfree⟩
  · exact .inl (hend.trans (heap.cutShort_heapEnd _ _ _).symm)
  · rcases mem_placed_shortened_of_mem hfit hq with rfl | hq
    · cases hfree
    · exact .inr ⟨q, hq, hplace, hfree⟩

theorem shortened_inside (h : heap.Tiled (front ++ ⟨whole, true⟩ :: back))
    (hroom : size + heap.sizeofStructMem + minSize <
      whole - heap.sizeofStructMem) {q : Nat × Piece}
    (hq : q ∈ placed 0 (heap.shortened front back whole size)) :
    q.1 + heap.sizeofStructMem < heap.heapEnd := by
  have hwhole := h.cut.whole
  simp only [extent_append, extent_cons] at hwhole
  rw [mem_placed_shortened (by omega)] at hq
  rcases hq with hq | rfl | rfl | hq
  · exact h.inside q (by simp [hq])
  · exact h.inside (extent front, ⟨whole, true⟩) (by simp)
  · simp only
    omega
  · exact h.inside q (by simp [hq])

theorem shrink_spec (h : heap.Tiled (front ++ ⟨whole, true⟩ :: back))
    (hroom : size + heap.sizeofStructMem + minSize <
      whole - heap.sizeofStructMem)
    (hdvd : heap.alignSize.toNat ∣ size) :
    ∃ heap' row', (heap.cutShort (extent front) whole size).plugHoles
        (extent front + heap.sizeofStructMem + size) = some heap' ∧
      heap.Shrunk (front ++ ⟨whole, true⟩ :: back) (extent front) size heap'
        row' := by
  have hfit : heap.sizeofStructMem + size ≤ whole := by omega
  have hcut : (heap.cutShort (extent front) whole size).Cut
      (heap.shortened front back whole size) :=
    cutShort_cut h.cut (by omega) hdvd
  have hcut' : (heap.cutShort (extent front) whole size).Cut
      ((front ++ [⟨heap.sizeofStructMem + size, true⟩]) ++
        ⟨whole - (heap.sizeofStructMem + size), false⟩ :: back) := by
    simpa [shortened] using hcut
  obtain ⟨hfront, hback⟩ := h.separated.parts
  have hfront' : Separated (front ++ [⟨heap.sizeofStructMem + size, true⟩]) := by
    refine hfront.append (.singleton _) fun _ _ second hsecond => ?_
    obtain rfl : second = ⟨heap.sizeofStructMem + size, true⟩ := by
      simpa using hsecond.symm
    exact .inr rfl
  obtain ⟨heap', row', hplug, hplugged, hseparated⟩ :=
    plugHoles_spec hcut' hfront' hback
  have hrow : (front ++ [⟨heap.sizeofStructMem + size, true⟩]) ++
      ⟨whole - (heap.sizeofStructMem + size), false⟩ :: back =
        heap.shortened front back whole size := by
    simp [shortened]
  rw [hrow] at hplugged
  obtain ⟨halign, hmemSize, hlfree, husedMem, hmaxMem⟩ :=
    heap.cutShort_globals (extent front) whole size
  have hend : heap'.heapEnd = heap.heapEnd :=
    hplugged.heapEnd.trans (heap.cutShort_heapEnd _ _ _)
  have hstruct : heap'.sizeofStructMem = heap.sizeofStructMem := by
    rw [sizeofStructMem, hplugged.alignSize, halign, sizeofStructMem]
  have hused : ∀ q, q.2.used = true → (q ∈ placed 0 row' ↔ _) := fun q hq =>
    (hplugged.used_iff q hq).trans (shortened_used_iff h.cut hfit hq)
  refine ⟨heap', row', ?_, ⟨hplugged.cut, hseparated, ?_,
    hplugged.opening (cutShort_opening h hfit), ?_, fun _ =>
      ⟨_, (hused (extent front, ⟨heap.sizeofStructMem + size, true⟩) rfl).mpr
        (.inr rfl), rfl⟩⟩,
    ⟨hplugged.alignSize.trans halign, hplugged.memSizeAligned.trans hmemSize,
      ?_⟩, hused, hplugged.maxMem.trans hmaxMem, ?_⟩
  · rw [← hplug]
    simp [Nat.add_assoc]
  · intro q hq
    obtain ⟨p, hp, hsame, -⟩ := hplugged.heads q hq
    rw [hend, hstruct, ← hsame]
    exact shortened_inside h hroom hp
  · rw [hplugged.usedMem, husedMem, hplugged.usedExtent, h.usedMem]
    simp only [shortened, usedExtent_append, usedExtent_cons, if_true,
      Bool.false_eq_true, if_false]
    omega
  · intro q hq hq' place hlow hhigh
    have hold := (hplugged.used_iff q hq').mp hq
    have hpayload := payload_of_mem hold hcut.twelve_le_size hlow hhigh
    have hbound := le_of_mem_placed hold
    rw [hcut.whole] at hbound
    exact (hplugged.keeps place (by omega) hpayload).trans
      (cutShort_memory h.cut hfit hpayload)
  · rw [hplugged.usedMem, husedMem]
    exact Nat.sub_le _ _

/-- The size of a block's data as `rt_realloc` computes it. -/
theorem Cut.data (h : heap.Cut row) {q : Nat × Piece} (hq : q ∈ placed 0 row) :
    subSize (subSize (heap.get q.1 .next) q.1) heap.sizeofStructMem =
      q.2.size - heap.sizeofStructMem := by
  obtain ⟨place, piece⟩ := q
  obtain ⟨front, back, rfl, hplace⟩ := exists_split_of_mem_placed hq
  obtain rfl : place = extent front := by omega
  have hend := h.heapEnd_lt
  have hwhole := h.whole
  have hlarge := (h.sizes piece (by simp)).1
  simp only [extent_append, extent_cons] at hwhole
  have hblock : subSize (extent front + piece.size) (extent front) =
      piece.size := by
    rw [subSize_eq (by omega) (by omega), Nat.add_sub_cancel_left]
  rw [h.head.2.2.1, hblock]
  exact subSize_eq hlarge (by omega)

theorem resize_spec (h : heap.Tiled row) (hmem : (mem, piece) ∈ placed 0 row)
    (hused : piece.used = true) (hdvd : heap.alignSize.toNat ∣ size) :
    (heap.resize (mem + heap.sizeofStructMem) size = some (heap, true) ∧
      heap.sizeofStructMem + size = piece.size) ∨
    (heap.resize (mem + heap.sizeofStructMem) size = some (heap, false)) ∨
    ∃ heap' row', heap.resize (mem + heap.sizeofStructMem) size =
        some (heap', true) ∧
      size + heap.sizeofStructMem + minSize <
        piece.size - heap.sizeofStructMem ∧
      heap.Shrunk row mem size heap' row' := by
  have hdata := h.cut.data hmem
  obtain ⟨front, back, rfl, hplace⟩ := exists_split_of_mem_placed hmem
  obtain ⟨whole, used⟩ := piece
  obtain rfl : used = true := hused
  obtain rfl : mem = extent front := by omega
  have hlarge := (h.cut.sizes ⟨whole, true⟩ (by simp)).1
  have hlt := h.usedMem_lt
  have hcharge := h.usedMem
  simp only [usedExtent_append, usedExtent_cons, if_true] at hcharge hlarge
  simp only at hdata
  simp only [resize, Nat.add_sub_cancel, hdata]
  rw [if_neg (by omega)]
  by_cases hsame : whole - heap.sizeofStructMem = size
  · rw [if_pos hsame]
    exact .inl ⟨rfl, by omega⟩
  · rw [if_neg hsame]
    by_cases hroom : size + heap.sizeofStructMem + minSize <
        whole - heap.sizeofStructMem
    · obtain ⟨heap', row', hplug, hshrunk⟩ := shrink_spec h hroom hdvd
      refine .inr (.inr ⟨heap', row', ?_, hroom, hshrunk⟩)
      rw [if_pos hroom, subSize_eq (by omega) hlt]
      rw [cutShort] at hplug
      rw [hplug]
      rfl
    · rw [if_neg hroom]
      exact .inr (.inl rfl)

end Heap

end WncFirmware.Kernel
