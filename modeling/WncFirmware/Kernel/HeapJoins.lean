import WncFirmware.Kernel.HeapLayout

/-!
# Joining free blocks

`plug_holes` joins a block that became free with its free neighbours.  The
blocks in use stay where they are, and afterwards no two neighbours are free.
-/

namespace WncFirmware.Kernel

open Foundation

namespace Heap

variable {heap heap' heap'' : Heap} {row row' row'' front back : List Piece}
  {piece : Piece} {size next place : Nat} {used : Bool}

def Opening (heap : Heap) (row : List Piece) (place : Nat) : Prop :=
  place = heap.heapEnd ∨ ∃ q ∈ placed 0 row, q.1 = place ∧ q.2.used = false

def Lowest (row : List Piece) (place : Nat) : Prop :=
  ∀ q ∈ placed 0 row, q.2.used = false → place ≤ q.1

def Payload (row : List Piece) (place : Nat) : Prop :=
  ∀ q ∈ placed 0 row, place < q.1 ∨ q.1 + 12 ≤ place

theorem Cut.head (h : heap.Cut (front ++ piece :: back)) :
    heap.get (extent front) .magic = heapMagic ∧
      heap.get (extent front) .used = piece.used.toNat ∧
      heap.get (extent front) .next = extent front + piece.size ∧
      heap.get (extent front) .prev = lastStart 0 0 front := by
  have hlaid := h.laid
  rw [laid_append, Nat.zero_add] at hlaid
  exact hlaid.2.1

structure Plugged (heap : Heap) (row : List Piece) (heap' : Heap)
    (row' : List Piece) : Prop where
  cut : heap'.Cut row'
  alignSize : heap'.alignSize = heap.alignSize
  memSizeAligned : heap'.memSizeAligned = heap.memSizeAligned
  usedMem : heap'.usedMem = heap.usedMem
  maxMem : heap'.maxMem = heap.maxMem
  usedExtent : usedExtent row' = usedExtent row
  used_iff : ∀ q, q.2.used = true → (q ∈ placed 0 row' ↔ q ∈ placed 0 row)
  heads : ∀ q ∈ placed 0 row', ∃ p ∈ placed 0 row, p.1 = q.1 ∧
    p.2.used = q.2.used
  opening : heap.Opening row heap.lfree → heap'.Opening row' heap'.lfree
  lfree_le : heap'.lfree ≤ heap.lfree
  lowest : Lowest row heap.lfree → heap'.lfree = heap.lfree
  keeps : ∀ place < heap.heapEnd, Payload row place →
    heap'.memory place = heap.memory place

theorem Plugged.refl (h : heap.Cut row) : Plugged heap row heap row where
  cut := h
  alignSize := rfl
  memSizeAligned := rfl
  usedMem := rfl
  maxMem := rfl
  usedExtent := rfl
  used_iff _ _ := .rfl
  heads q hq := ⟨q, hq, rfl, rfl⟩
  opening := id
  lfree_le := Nat.le_refl _
  lowest _ := rfl
  keeps _ _ _ := rfl

theorem Plugged.heapEnd (h : Plugged heap row heap' row') :
    heap'.heapEnd = heap.heapEnd := by
  simp only [Heap.heapEnd, sizeofStructMem, h.alignSize, h.memSizeAligned]

theorem Plugged.lowest_after (h : Plugged heap row heap' row')
    (hlowest : Lowest row heap.lfree) : Lowest row' heap'.lfree := by
  intro q hq hfree
  obtain ⟨p, hp, hplace, hsame⟩ := h.heads q hq
  rw [h.lowest hlowest, ← hplace]
  exact hlowest p hp (hsame.trans hfree)

theorem Plugged.payload (h : Plugged heap row heap' row')
    (hplace : Payload row place) : Payload row' place := by
  intro q hq
  obtain ⟨p, hp, hsame, -⟩ := h.heads q hq
  rw [← hsame]
  exact hplace p hp

theorem Plugged.trans (h : Plugged heap row heap' row')
    (h' : Plugged heap' row' heap'' row'') : Plugged heap row heap'' row'' where
  cut := h'.cut
  alignSize := h'.alignSize.trans h.alignSize
  memSizeAligned := h'.memSizeAligned.trans h.memSizeAligned
  usedMem := h'.usedMem.trans h.usedMem
  maxMem := h'.maxMem.trans h.maxMem
  usedExtent := h'.usedExtent.trans h.usedExtent
  used_iff q hq := (h'.used_iff q hq).trans (h.used_iff q hq)
  heads q hq := by
    obtain ⟨p, hp, hplace, hused⟩ := h'.heads q hq
    obtain ⟨o, ho, hplace', hused'⟩ := h.heads p hp
    exact ⟨o, ho, hplace'.trans hplace, hused'.trans hused⟩
  opening hopening := h'.opening (h.opening hopening)
  lfree_le := h'.lfree_le.trans h.lfree_le
  lowest hlowest :=
    (h'.lowest (h.lowest_after hlowest)).trans (h.lowest hlowest)
  keeps place hplace hpayload :=
    (h'.keeps place (h.heapEnd ▸ hplace) (h.payload hpayload)).trans
      (h.keeps place hplace hpayload)

/-! ## One join -/

theorem mem_placed_joined {q : Nat × Piece} (hq : q.2.used = true) :
    q ∈ placed 0 (front ++ ⟨size + next, false⟩ :: back) ↔
      q ∈ placed 0 (front ++ ⟨size, false⟩ :: ⟨next, false⟩ :: back) := by
  have hne : ∀ place size, q ≠ (place, ⟨size, false⟩) := by
    rintro place size rfl
    cases hq
  simp [hne, Nat.add_assoc]

/-- The block at `mem` swallows the free block behind it, and `lfree` moves
with it. -/
def join (heap : Heap) (mem nmem behind : Nat) : Heap :=
  (({ heap with lfree := if heap.lfree = nmem then mem else heap.lfree }).set
    mem .next behind).set behind .prev mem

theorem Plugged.join
    (h : heap.Cut (front ++ ⟨size, false⟩ :: ⟨next, false⟩ :: back)) :
    Plugged heap (front ++ ⟨size, false⟩ :: ⟨next, false⟩ :: back)
      (heap.join (extent front) (extent front + size)
        (extent front + size + next))
      (front ++ ⟨size + next, false⟩ :: back) where
  cut := by
    refine @Cut.join _ front back ⟨next, false⟩ size false ?_
    exact h.congr rfl rfl fun _ _ _ => rfl
  alignSize := rfl
  memSizeAligned := rfl
  usedMem := rfl
  maxMem := rfl
  usedExtent := by simp
  used_iff q hq := mem_placed_joined hq
  heads q hq := by
    simp only [placed_append, placed_cons, List.mem_append, List.mem_cons] at hq ⊢
    rcases hq with hq | rfl | hq
    · exact ⟨q, .inl hq, rfl, rfl⟩
    · exact ⟨_, .inr (.inl rfl), rfl, rfl⟩
    · exact ⟨q, .inr (.inr (.inr (by simpa only [Nat.add_assoc] using hq))),
        rfl, rfl⟩
  opening hopening := by
    change heap.Opening _ (if heap.lfree = extent front + size then
      extent front else heap.lfree)
    split
    · exact .inr ⟨(extent front, ⟨size + next, false⟩), by simp, rfl, rfl⟩
    · next hother =>
        rcases hopening with hend | ⟨q, hq, hplace, hfree⟩
        · exact .inl hend
        · refine .inr ?_
          simp only [placed_append, placed_cons, List.mem_append,
            List.mem_cons, Nat.zero_add] at hq
          rcases hq with hq | rfl | rfl | hq
          · exact ⟨q, by simp [hq], hplace, hfree⟩
          · exact ⟨(extent front, ⟨size + next, false⟩), by simp, hplace, rfl⟩
          · exact absurd hplace.symm hother
          · exact ⟨q, by simp [← Nat.add_assoc, hq], hplace, hfree⟩
  lfree_le := by
    change (if heap.lfree = extent front + size then extent front
      else heap.lfree) ≤ heap.lfree
    split <;> omega
  lowest hlowest := by
    have hfirst := hlowest (extent front, ⟨size, false⟩) (by simp) rfl
    have hsize := h.twelve_le_size ⟨size, false⟩ (by simp)
    simp only at hfirst hsize
    exact if_neg (by omega)
  keeps place hplace hpayload := by
    have hfirst := hpayload (extent front, ⟨size, false⟩) (by simp)
    refine (set_memory_of_outside _ ?_).trans (set_memory_of_outside _ hfirst)
    -- behind the joined blocks stands a header, or the end of the heap
    cases back with
    | nil =>
        have hwhole := h.whole
        simp only [extent_append, extent_cons, extent_nil] at hwhole
        omega
    | cons piece back =>
        exact hpayload (extent front + size + next, piece) (by simp)

theorem lowered_eq (heap : Heap) (mem nmem : Nat) :
    (if heap.lfree = nmem then { heap with lfree := mem } else heap) =
      { heap with lfree := if heap.lfree = nmem then mem else heap.lfree } := by
  split <;> rfl

/-! ## The calls -/

theorem plugForward_join
    (h : heap.Cut (front ++ ⟨size, false⟩ :: ⟨next, false⟩ :: back)) :
    heap.plugForward (extent front) =
      heap.join (extent front) (extent front + size)
        (extent front + size + next) := by
  have hsizes := h.twelve_le_size
  have hsize : 12 ≤ size := hsizes ⟨size, false⟩ (by simp)
  have hnextSize : 12 ≤ next := hsizes ⟨next, false⟩ (by simp)
  have hwhole := h.whole
  simp only [extent_append, extent_cons] at hwhole
  obtain ⟨-, -, hnext, -⟩ := h.head
  have hsecond : heap.Cut
      ((front ++ [⟨size, false⟩]) ++ ⟨next, false⟩ :: back) := by simpa using h
  obtain ⟨-, hused, hbehind, -⟩ := hsecond.head
  simp only [extent_append, extent_cons, extent_nil, Nat.add_zero]
    at hused hbehind
  rw [plugForward]
  simp only [hnext, lowered_eq]
  rw [if_pos ⟨by omega, hused, by omega⟩]
  have hget : ∀ lfree, ({ heap with lfree := lfree } : Heap).get
      (extent front + size) .next = extent front + size + next :=
    fun _ => hbehind
  rw [hget, get_set_of_apart _ (.inr (by omega)), hget]
  rfl

theorem plugForward_used (h : heap.Cut (front ++ ⟨size, false⟩ :: back))
    (hback : ∀ piece ∈ back.head?, piece.used = true) :
    heap.plugForward (extent front) = heap := by
  obtain ⟨-, -, hnext, -⟩ := h.head
  rw [plugForward]
  simp only [hnext]
  refine if_neg fun hfree => ?_
  cases back with
  | nil =>
      have hwhole := h.whole
      simp only [extent_append, extent_cons, extent_nil] at hwhole
      exact hfree.2.2 (by omega)
  | cons piece back =>
      have hsecond : heap.Cut
          ((front ++ [⟨size, false⟩]) ++ piece :: back) := by simpa using h
      obtain ⟨-, hused, -, -⟩ := hsecond.head
      rw [hback piece (by simp)] at hused
      simp only [extent_append, extent_cons, extent_nil, Nat.add_zero] at hused
      rw [hused] at hfree
      exact absurd hfree.2.1 (by decide)

theorem plugForward_spec (h : heap.Cut (front ++ ⟨size, false⟩ :: back))
    (hback : Separated back) :
    ∃ now rest, Plugged heap (front ++ ⟨size, false⟩ :: back)
      (heap.plugForward (extent front)) (front ++ ⟨now, false⟩ :: rest) ∧
      Separated (⟨now, false⟩ :: rest) := by
  match back with
  | ⟨next, false⟩ :: back =>
      rw [plugForward_join h]
      refine ⟨size + next, back, .join h, ?_⟩
      exact hback.resize _
  | ⟨next, true⟩ :: back =>
      rw [plugForward_used h (by simp)]
      exact ⟨size, _, .refl h, .cons_cons (.inr rfl) hback⟩
  | [] =>
      rw [plugForward_used h (by simp)]
      exact ⟨size, [], .refl h, .singleton _⟩

theorem plugBackward_join
    (h : heap.Cut ((front ++ [⟨size, false⟩]) ++ ⟨next, false⟩ :: back)) :
    heap.plugBackward (extent front + size) =
      heap.join (extent front) (extent front + size)
        (extent front + size + next) := by
  have hsizes := h.twelve_le_size
  have hsize : 12 ≤ size := hsizes ⟨size, false⟩ (by simp)
  obtain ⟨-, -, hbehind, hprev⟩ := h.head
  rw [lastStart_append_singleton] at hprev
  simp only [extent_append, extent_cons, extent_nil, Nat.add_zero, Nat.zero_add]
    at hbehind hprev
  have hfirst : heap.Cut
      (front ++ ⟨size, false⟩ :: ⟨next, false⟩ :: back) := by simpa using h
  obtain ⟨-, hused, -, -⟩ := hfirst.head
  rw [plugBackward]
  simp only [hprev, lowered_eq]
  rw [if_pos ⟨by omega, hused⟩]
  have hget : ∀ lfree, ({ heap with lfree := lfree } : Heap).get
      (extent front + size) .next = extent front + size + next :=
    fun _ => hbehind
  rw [hget, get_set_of_apart _ (.inr (by omega)), hget]
  rfl

theorem plugBackward_used (h : heap.Cut (front ++ piece :: back))
    (hfront : ∀ piece ∈ front.getLast?, piece.used = true) :
    heap.plugBackward (extent front) = heap := by
  obtain ⟨-, -, -, hprev⟩ := h.head
  rw [plugBackward]
  simp only [hprev]
  refine if_neg fun hfree => ?_
  rcases List.eq_nil_or_concat' front with rfl | ⟨front, last, rfl⟩
  · exact hfree.1 rfl
  · have hlast : heap.Cut (front ++ last :: piece :: back) := by simpa using h
    obtain ⟨-, hused, -, -⟩ := hlast.head
    rw [lastStart_append_singleton, Nat.zero_add, hused,
      hfront last (by simp)] at hfree
    exact absurd hfree.2 (by decide)

theorem plugBackward_spec (h : heap.Cut (front ++ ⟨size, false⟩ :: back))
    (hfront : Separated front) (hback : Separated (⟨size, false⟩ :: back)) :
    ∃ row', Plugged heap (front ++ ⟨size, false⟩ :: back)
      (heap.plugBackward (extent front)) row' ∧ Separated row' := by
  by_cases hlast : ∀ piece ∈ front.getLast?, piece.used = true
  · rw [plugBackward_used h hlast]
    refine ⟨_, .refl h, hfront.append hback ?_⟩
    intro first hfirst second _
    exact .inl (hlast first hfirst)
  · rcases List.eq_nil_or_concat' front with rfl | ⟨front, ⟨last, used⟩, rfl⟩
    · simp at hlast
    · obtain rfl : used = false := by simpa using hlast
      have hjoin : heap.Cut
          (front ++ ⟨last, false⟩ :: ⟨size, false⟩ :: back) := by
        simpa using h
      have hplace : extent (front ++ [⟨last, false⟩]) = extent front + last := by
        simp
      rw [hplace, plugBackward_join h]
      refine ⟨_, by simpa using Plugged.join hjoin, ?_⟩
      have hfront' := List.isChain_append.mp hfront
      refine hfront'.1.append (hback.resize _) ?_
      intro first hfirst second hsecond
      obtain rfl : second = ⟨last + size, false⟩ := by simpa using hsecond.symm
      have := hfront'.2.2 first hfirst ⟨last, false⟩ (by simp)
      simpa using this

theorem plugHoles_spec (h : heap.Cut (front ++ ⟨size, false⟩ :: back))
    (hfront : Separated front) (hback : Separated back) :
    ∃ heap' row', heap.plugHoles (extent front) = some heap' ∧
      Plugged heap (front ++ ⟨size, false⟩ :: back) heap' row' ∧
      Separated row' := by
  obtain ⟨now, rest, hforward, hseparated⟩ := plugForward_spec h hback
  obtain ⟨row', hbackward, hall⟩ :=
    plugBackward_spec hforward.cut hfront hseparated
  have hplace := h.place_lt (show (extent front, ⟨size, false⟩) ∈ _ by simp)
  refine ⟨_, row', ?_, hforward.trans hbackward, hall⟩
  rw [plugHoles, if_pos ⟨by omega, h.head.2.1⟩]

end Heap

end WncFirmware.Kernel
