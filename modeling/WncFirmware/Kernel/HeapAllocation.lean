import WncFirmware.Kernel.HeapJoins

/-!
# Allocation

`rt_malloc` takes the first free block that is large enough.  What it does not
need of that block stays behind as a free block, if one fits there.
-/

namespace WncFirmware.Kernel

open Foundation

theorem subSize_eq {first second : Nat} (hle : second ≤ first)
    (hlt : first < 2 ^ 32) : subSize first second = first - second := by
  rw [subSize]
  omega

namespace Heap

variable {heap heap' : Heap} {row row' front back : List Piece}
  {piece : Piece} {size turns place : Nat}

structure Tiled (heap : Heap) (row : List Piece) : Prop where
  cut : heap.Cut row
  separated : Separated row
  inside : ∀ q ∈ placed 0 row, q.1 + heap.sizeofStructMem < heap.heapEnd
  opening : heap.Opening row heap.lfree
  usedMem : heap.usedMem = usedExtent row
  busy : heap.lfree = heap.heapEnd → ∃ q ∈ placed 0 row, q.2.used = true

structure Kept (heap heap' : Heap) (row' : List Piece) : Prop where
  alignSize : heap'.alignSize = heap.alignSize
  memSizeAligned : heap'.memSizeAligned = heap.memSizeAligned
  payload : ∀ q ∈ placed 0 row', q.2.used = true → ∀ place,
    q.1 + 12 ≤ place → place < q.1 + q.2.size →
      heap'.memory place = heap.memory place

theorem payload_of_mem {q : Nat × Piece} (hq : q ∈ placed 0 row)
    (hsizes : ∀ piece ∈ row, 12 ≤ piece.size) (hlow : q.1 + 12 ≤ place)
    (hhigh : place < q.1 + q.2.size) : Payload row place := by
  intro p hp
  have hsize := hsizes p.2 (mem_of_mem_placed hp)
  rcases placed_apart hp hq with rfl | hapart | hapart <;> omega

theorem Tiled.exists_front (h : heap.Tiled row) :
    ∃ front back, row = front ++ back ∧ heap.lfree = extent front := by
  rcases h.opening with hend | ⟨q, hq, hplace, -⟩
  · exact ⟨row, [], by simp, hend.trans h.cut.whole.symm⟩
  · obtain ⟨front, back, rfl, hfront⟩ := exists_split_of_mem_placed hq
    exact ⟨front, _, rfl, by omega⟩

theorem Cut.length_lt_turns (h : heap.Cut (front ++ back)) :
    back.length < heap.turns := by
  have hlength : ∀ row : List Piece, (∀ piece ∈ row, 12 ≤ piece.size) →
      row.length ≤ extent row := by
    intro row hsizes
    induction row with
    | nil => simp
    | cons piece row ih =>
        have hpiece := hsizes piece (by simp)
        have hrest := ih fun piece hpiece => hsizes piece (by simp [hpiece])
        simp only [List.length_cons, extent_cons]
        omega
  have hback := hlength back fun piece hpiece =>
    h.twelve_le_size piece (by simp [hpiece])
  have hwhole := h.whole
  rw [extent_append] at hwhole
  rw [turns]
  omega

/-! ## The loops -/

/-- A free block that `rt_malloc` accepts: an exact fit at the very end of the
heap is not one. -/
def Fits (heap : Heap) (size : Nat) (q : Nat × Piece) : Prop :=
  q.2.used = false ∧ heap.sizeofStructMem + size ≤ q.2.size ∧
    q.1 + heap.sizeofStructMem + size < heap.heapEnd

instance (heap : Heap) (size : Nat) (q : Nat × Piece) :
    Decidable (heap.Fits size q) :=
  inferInstanceAs (Decidable (_ ∧ _ ∧ _))

theorem Cut.step (h : heap.Cut (front ++ piece :: back)) :
    heap.Cut ((front ++ [piece]) ++ back) ∧
      heap.get (extent front) .next = extent (front ++ [piece]) := by
  refine ⟨by simpa using h, ?_⟩
  simpa using h.head.2.2.1

theorem Cut.room (h : heap.Cut (front ++ piece :: back)) :
    subSize (heap.get (extent front) .next)
      (extent front + heap.sizeofStructMem) =
        piece.size - heap.sizeofStructMem := by
  have hend := h.heapEnd_lt
  have hwhole := h.whole
  have hpiece := h.sizes piece (by simp)
  simp only [extent_append, extent_cons] at hwhole
  rw [h.head.2.2.1, subSize_eq (by omega) (by omega)]
  omega

theorem firstFit_eq (h : heap.Cut (front ++ back))
    (hsize : size ≤ heap.memSizeAligned) (hturns : back.length < turns) :
    heap.firstFit size turns (extent front) =
      some (((placed (extent front) back).find?
        fun q => heap.Fits size q).map Prod.fst) := by
  have hend := h.heapEnd_lt
  have hbound : subSize heap.memSizeAligned size = heap.memSizeAligned - size :=
    subSize_eq hsize (by simp only [heapEnd] at hend; omega)
  induction turns generalizing front back with
  | zero => omega
  | succ turns ih =>
      rw [firstFit, hbound]
      by_cases hlow : extent front < heap.memSizeAligned - size
      · rw [if_pos hlow]
        cases back with
        | nil =>
            have hwhole := h.whole
            simp only [extent_append, extent_nil, heapEnd] at hwhole
            omega
        | cons piece back =>
            obtain ⟨hcut, hnext⟩ := h.step
            have hpiece := h.sizes piece (by simp)
            rw [h.room, h.head.2.1, placed_cons, List.find?_cons]
            by_cases hfits : heap.Fits size (extent front, piece)
            · have hfree : piece.used = false := hfits.1
              have hlarge : heap.sizeofStructMem + size ≤ piece.size :=
                hfits.2.1
              rw [if_pos ⟨by simp [hfree], by omega⟩]
              simp [hfits]
            · have hskip : ¬(piece.used.toNat = 0 ∧
                  size ≤ piece.size - heap.sizeofStructMem) := by
                rintro ⟨hfree, hlarge⟩
                refine hfits ⟨?_, ?_, ?_⟩
                · simpa using hfree
                · simp only
                  omega
                · simp only [heapEnd]
                  omega
              rw [if_neg hskip, hnext,
                ih hcut (by simp only [List.length_cons] at hturns; omega)]
              simp [hfits]
      · -- the blocks from here on end too close to the end of the heap
        rw [if_neg hlow, List.find?_eq_none.mpr]
        · rfl
        · intro q hq
          have hplace := (le_of_mem_placed hq).1
          rw [decide_eq_true_eq]
          rintro ⟨-, -, hlast⟩
          simp only [heapEnd] at hlast
          omega

theorem nextFree_eq (h : heap.Cut (front ++ back)) (hturns : back.length < turns) :
    heap.nextFree turns (extent front) =
      some ((((placed (extent front) back).find?
        fun q => !q.2.used).map Prod.fst).getD heap.heapEnd) := by
  induction turns generalizing front back with
  | zero => omega
  | succ turns ih =>
      have hwhole := h.whole
      cases back with
      | nil =>
          simp only [extent_append, extent_nil, Nat.add_zero] at hwhole
          rw [nextFree, if_neg (by omega), hwhole]
          rfl
      | cons piece back =>
          obtain ⟨hcut, hnext⟩ := h.step
          have hpiece := h.twelve_le_size piece (by simp)
          simp only [extent_append, extent_cons] at hwhole
          rw [nextFree, h.head.2.1, placed_cons, List.find?_cons]
          cases hused : piece.used with
          | false => simp
          | true =>
              rw [if_pos ⟨by decide, by omega⟩, hnext,
                ih hcut (by simp only [List.length_cons] at hturns; omega)]
              simp

/-! ## Taking a block -/

def carved (heap : Heap) (whole size : Nat) : List Piece :=
  if size + heap.sizeofStructMem + heap.minSizeAligned ≤
      whole - heap.sizeofStructMem then
    [⟨heap.sizeofStructMem + size, true⟩,
      ⟨whole - (heap.sizeofStructMem + size), false⟩]
  else [⟨whole, true⟩]

theorem split_memory {whole cut : Nat} {used now : Bool}
    (h : heap.Cut (front ++ ⟨whole, used⟩ :: back))
    (hfit : heap.sizeofStructMem + cut ≤ whole)
    (hpayload : Payload (front ++ ⟨heap.sizeofStructMem + cut, now⟩ ::
      ⟨whole - (heap.sizeofStructMem + cut), false⟩ :: back) place) :
    (heap.split (extent front) cut).memory place = heap.memory place := by
  have hfirst := hpayload (extent front, ⟨heap.sizeofStructMem + cut, now⟩)
    (by simp)
  have hsecond := hpayload (extent front + heap.sizeofStructMem + cut,
    ⟨whole - (heap.sizeofStructMem + cut), false⟩) (by simp [Nat.add_assoc])
  have hheads : ((heap.create (extent front + heap.sizeofStructMem + cut) 0
      (extent front + whole) (extent front)).set (extent front) .next
        (extent front + heap.sizeofStructMem + cut)).memory place =
          heap.memory place :=
    (set_memory_of_outside _ hfirst).trans (create_memory_of_outside hsecond)
  rw [split, h.head.2.2.1]
  split
  · next hlast =>
      refine (set_memory_of_outside _ ?_).trans hheads
      cases back with
      | nil =>
          have hwhole := h.whole
          simp only [extent_append, extent_cons, extent_nil, heapEnd] at hwhole
          exact absurd hwhole hlast
      | cons piece back =>
          refine hpayload (extent front + whole, piece) ?_
          simp [show extent front + (heap.sizeofStructMem + cut) +
            (whole - (heap.sizeofStructMem + cut)) = extent front + whole by
              omega]
  · exact hheads

@[simp] theorem addUsed_alignSize (heap : Heap) (size : Nat) :
    (heap.addUsed size).alignSize = heap.alignSize := rfl

@[simp] theorem addUsed_memSizeAligned (heap : Heap) (size : Nat) :
    (heap.addUsed size).memSizeAligned = heap.memSizeAligned := rfl

@[simp] theorem addUsed_lfree (heap : Heap) (size : Nat) :
    (heap.addUsed size).lfree = heap.lfree := rfl

theorem addUsed_maxMem (heap : Heap) (size : Nat) :
    (heap.addUsed size).maxMem = max heap.maxMem (heap.addUsed size).usedMem := by
  simp only [addUsed]
  split <;> omega

structure Occupied (heap : Heap) (front back : List Piece) (whole size : Nat)
    (heap' : Heap) : Prop where
  cut : heap'.Cut (front ++ (heap.carved whole size ++ back))
  alignSize : heap'.alignSize = heap.alignSize
  memSizeAligned : heap'.memSizeAligned = heap.memSizeAligned
  usedMem : heap'.usedMem =
    (heap.usedMem + usedExtent (heap.carved whole size)) % 2 ^ 32
  maxMem : heap'.maxMem = max heap.maxMem heap'.usedMem
  keeps : ∀ place,
    Payload (front ++ (heap.carved whole size ++ back)) place →
      heap'.memory place = heap.memory place

theorem Cut.globals (h : heap.Cut row) (hmemory : heap'.memory = heap.memory)
    (halign : heap'.alignSize = heap.alignSize)
    (hsize : heap'.memSizeAligned = heap.memSizeAligned) : heap'.Cut row :=
  h.congr halign hsize fun _ _ _ => by rw [get, get, hmemory]

theorem Cut.addUsed (h : heap.Cut row) (size : Nat) : (heap.addUsed size).Cut row :=
  h.globals rfl rfl rfl

theorem split_globals (heap : Heap) (ptr cut : Nat) :
    (heap.split ptr cut).alignSize = heap.alignSize ∧
      (heap.split ptr cut).memSizeAligned = heap.memSizeAligned ∧
      (heap.split ptr cut).lfree = heap.lfree ∧
      (heap.split ptr cut).usedMem = heap.usedMem ∧
      (heap.split ptr cut).maxMem = heap.maxMem := by
  simp only [split]
  split <;> simp

theorem occupy_spec {whole : Nat}
    (h : heap.Cut (front ++ ⟨whole, false⟩ :: back))
    (hdvd : heap.alignSize.toNat ∣ size) :
    heap.Occupied front back whole size (heap.occupy (extent front) size) := by
  have hstruct := h.shaped.twelve_le
  simp only [occupy, h.room]
  by_cases hroom : size + heap.sizeofStructMem + heap.minSizeAligned ≤
      whole - heap.sizeofStructMem
  · have hcarved : heap.carved whole size = _ := if_pos hroom
    rw [if_pos hroom]
    obtain ⟨halign, hmemSize, -, husedMem, hmaxMem⟩ :=
      heap.split_globals (extent front) size
    rw [minSizeAligned_eq] at hroom
    have hcut := (h.split (by omega) hdvd).set_used true
    refine ⟨?_, ?_, ?_, ?_, ?_, ?_⟩
    · rw [hcarved]
      exact hcut.addUsed _
    · simpa using halign
    · simpa using hmemSize
    · rw [hcarved]
      simp [addUsed, husedMem, Nat.add_comm]
    · rw [addUsed_maxMem, set_maxMem, hmaxMem]
    · rw [hcarved]
      intro place hpayload
      exact (set_memory_of_outside _ (hpayload
        (extent front, ⟨heap.sizeofStructMem + size, true⟩) (by simp))).trans
          (split_memory h (by omega) hpayload)
  · have hcarved : heap.carved whole size = _ := if_neg hroom
    have hend := h.heapEnd_lt
    have hwhole := h.whole
    simp only [extent_append, extent_cons] at hwhole
    have hsize : subSize (heap.get (extent front) .next) (extent front) =
        whole := by
      rw [h.head.2.2.1, subSize_eq (by omega) (by simp only; omega)]
      simp
    rw [if_neg hroom, hsize]
    refine ⟨?_, rfl, rfl, ?_, ?_, ?_⟩
    · rw [hcarved]
      exact (h.set_used true).addUsed _
    · rw [hcarved]
      simp [addUsed]
    · rw [addUsed_maxMem, set_maxMem]
    · rw [hcarved]
      intro place hpayload
      exact set_memory_of_outside _
        (hpayload (extent front, ⟨whole, true⟩) (by simp))

theorem occupy_lfree (heap : Heap) (mem size : Nat) :
    (heap.occupy mem size).lfree = heap.lfree := by
  simp only [occupy]
  split
  · rw [addUsed_lfree, set_lfree]
    exact (heap.split_globals mem size).2.2.1
  · simp

theorem Opening.get_used (h : heap.Cut row) (hplace : heap.Opening row place) :
    place = heap.heapEnd ∨ heap.get place .used = 0 := by
  rcases hplace with hend | ⟨q, hq, rfl, hfree⟩
  · exact .inl hend
  · obtain ⟨front, back, rfl, hfront⟩ := exists_split_of_mem_placed hq
    rw [Nat.zero_add] at hfront
    rw [hfront, h.head.2.1, hfree]
    exact .inr rfl

theorem opening_find (heap : Heap) (front back : List Piece) :
    heap.Opening (front ++ back) ((((placed (extent front) back).find?
      fun q => !q.2.used).map Prod.fst).getD heap.heapEnd) := by
  cases hfind : (placed (extent front) back).find? fun q => !q.2.used with
  | none => exact .inl rfl
  | some q =>
      have hq := List.mem_of_find?_eq_some hfind
      have hfree := List.find?_some hfind
      exact .inr ⟨q, by simp [hq], rfl, by simpa using hfree⟩

theorem lowest_find (heap : Heap)
    (hfront : ∀ q ∈ placed 0 front, q.2.used = true) :
    Lowest (front ++ back) ((((placed (extent front) back).find?
      fun q => !q.2.used).map Prod.fst).getD heap.heapEnd) := by
  intro q hq hfree
  rw [placed_append, Nat.zero_add, List.mem_append] at hq
  rcases hq with hq | hq
  · rw [hfront q hq] at hfree
    cases hfree
  · cases hfind : (placed (extent front) back).find? fun q => !q.2.used with
    | none =>
        have := List.find?_eq_none.mp hfind q hq
        simp [hfree] at this
    | some found =>
        exact find?_placed_le hfind hq (by simp [hfree])

theorem raiseLfree_spec (h : heap.Cut (front ++ back))
    (hopening : heap.lfree ≠ extent front →
      heap.Opening (front ++ back) heap.lfree) :
    ∃ lfree, heap.raiseLfree (extent front) =
        some { heap with lfree := lfree } ∧
      heap.Opening (front ++ back) lfree ∧
      (heap.lfree ≠ extent front → lfree = heap.lfree) ∧
      (heap.lfree = extent front → (∀ q ∈ placed 0 front, q.2.used = true) →
        Lowest (front ++ back) lfree) := by
  rw [raiseLfree]
  by_cases hlfree : extent front = heap.lfree
  · rw [if_pos hlfree, ← hlfree, nextFree_eq h h.length_lt_turns,
      Option.bind_some, if_pos ((opening_find heap front back).get_used h)]
    exact ⟨_, rfl, opening_find heap front back, fun hother => absurd rfl hother,
      fun _ => lowest_find heap⟩
  · rw [if_neg hlfree]
    exact ⟨heap.lfree, rfl, hopening (Ne.symm hlfree), fun _ => rfl,
      fun hsame => absurd hsame.symm hlfree⟩

section Carved

variable {whole : Nat}

def grant (heap : Heap) (whole size : Nat) : Nat :=
  if size + heap.sizeofStructMem + heap.minSizeAligned ≤
      whole - heap.sizeofStructMem then heap.sizeofStructMem + size
  else whole

theorem le_grant (hfit : heap.sizeofStructMem + size ≤ whole) :
    heap.sizeofStructMem + size ≤ heap.grant whole size := by
  rw [grant]
  split <;> omega

theorem carved_eq (heap : Heap) (whole size : Nat) :
    ∃ rest, heap.carved whole size = ⟨heap.grant whole size, true⟩ :: rest := by
  rw [carved, grant]
  split
  · exact ⟨_, rfl⟩
  · exact ⟨[], rfl⟩

theorem usedExtent_carved (heap : Heap) (whole size : Nat) :
    usedExtent (heap.carved whole size) = heap.grant whole size := by
  rw [carved, grant]
  split <;> simp

theorem separated_carved
    (h : Separated (front ++ ⟨whole, false⟩ :: back)) :
    Separated (front ++ (heap.carved whole size ++ back)) := by
  rw [carved]
  split
  · exact h.carve _ _
  · exact h.use whole

/-- Where the pieces lie after a block was taken: the rest of it, if any, has
room for a smallest block. -/
theorem mem_placed_carved {q : Nat × Piece}
    (h : q ∈ placed 0 (front ++ (heap.carved whole size ++ back))) :
    q ∈ placed 0 (front ++ ⟨whole, false⟩ :: back) ∨
      q = (extent front, ⟨heap.grant whole size, true⟩) ∨
      (q.2.used = false ∧ extent front ≤ q.1 ∧
        q.1 + heap.sizeofStructMem + heap.minSizeAligned ≤
          extent front + whole) := by
  rw [carved] at h
  rw [grant]
  split at h
  · next hroom =>
      simp only [List.cons_append, List.nil_append, placed_append, placed_cons,
        List.mem_append, List.mem_cons, Nat.zero_add] at h
      rcases h with h | rfl | rfl | h
      · exact .inl (by simp [h])
      · exact .inr (.inl (by rw [if_pos hroom]))
      · exact .inr (.inr ⟨rfl, by simp, by simp only; omega⟩)
      · rw [show extent front + (heap.sizeofStructMem + size) +
          (whole - (heap.sizeofStructMem + size)) = extent front + whole by
            omega] at h
        exact .inl (by simp [h])
  · next hroom =>
      simp only [List.cons_append, List.nil_append, placed_append, placed_cons,
        List.mem_append, List.mem_cons, Nat.zero_add] at h
      rcases h with h | rfl | h
      · exact .inl (by simp [h])
      · exact .inr (.inl (by rw [if_neg hroom]))
      · exact .inl (by simp [h])

theorem mem_placed_of_mem {q : Nat × Piece} (hfit : heap.sizeofStructMem + size ≤ whole)
    (h : q ∈ placed 0 (front ++ ⟨whole, false⟩ :: back))
    (hother : q.1 ≠ extent front) :
    q ∈ placed 0 (front ++ (heap.carved whole size ++ back)) := by
  simp only [placed_append, placed_cons, List.mem_append, List.mem_cons,
    Nat.zero_add] at h
  rcases h with h | rfl | h
  · simp [h]
  · exact absurd rfl hother
  · have hextent : extent (heap.carved whole size) = whole := by
      rw [carved]
      split
      · simp only [extent_cons, extent_nil]
        omega
      · simp
    simp [hextent, h]

end Carved

structure Allocated (heap : Heap) (row : List Piece) (mem size : Nat)
    (heap' : Heap) (row' : List Piece) : Prop where
  tiled : heap'.Tiled row'
  kept : heap.Kept heap' row'
  block : ∃ whole, heap.sizeofStructMem + size ≤ whole ∧
    ∀ q, q.2.used = true →
      (q ∈ placed 0 row' ↔ q ∈ placed 0 row ∨ q = (mem, ⟨whole, true⟩))
  fresh : ∀ q ∈ placed 0 row, q.2.used = true → q.1 ≠ mem
  lowest : Lowest row heap.lfree → Lowest row' heap'.lfree
  maxMem : heap'.maxMem = max heap.maxMem heap'.usedMem

theorem Cut.place_ne {first second : Nat × Piece} (h : heap.Cut row)
    (hfirst : first ∈ placed 0 row) (hsecond : second ∈ placed 0 row)
    (hne : first ≠ second) : first.1 ≠ second.1 := by
  have hfirstSize := h.twelve_le_size _ (mem_of_mem_placed hfirst)
  have hsecondSize := h.twelve_le_size _ (mem_of_mem_placed hsecond)
  rcases placed_apart hfirst hsecond with heq | hapart | hapart
  · exact absurd heq hne
  · omega
  · omega

theorem Cut.dvd_place (h : heap.Cut row) {q : Nat × Piece}
    (hq : q ∈ placed 0 row) : heap.alignSize.toNat ∣ q.1 := by
  obtain ⟨front, back, rfl, hplace⟩ := exists_split_of_mem_placed hq
  rw [hplace, Nat.zero_add]
  have hall : ∀ piece ∈ front, heap.alignSize.toNat ∣ piece.size :=
    fun piece hpiece => (h.sizes piece (by simp [hpiece])).2
  clear h hq hplace
  induction front with
  | nil => simp
  | cons piece front ih =>
      rw [extent_cons]
      exact Nat.dvd_add (hall piece (by simp))
        (ih fun piece hpiece => hall piece (by simp [hpiece]))

namespace Occupied

variable {whole lfree : Nat}

theorem heapEnd (h : heap.Occupied front back whole size heap') :
    heap'.heapEnd = heap.heapEnd := by
  simp only [Heap.heapEnd, sizeofStructMem, h.alignSize, h.memSizeAligned]

theorem sizeofStructMem (h : heap.Occupied front back whole size heap') :
    heap'.sizeofStructMem = heap.sizeofStructMem := by
  simp only [Heap.sizeofStructMem, h.alignSize]

theorem set_magic (h : heap.Occupied front back whole size heap') :
    heap.Occupied front back whole size
      (heap'.set (extent front) .magic heapMagic) := by
  obtain ⟨rest, hcarved⟩ := carved_eq heap whole size
  refine ⟨?_, h.alignSize, h.memSizeAligned, h.usedMem, h.maxMem, ?_⟩
  · have hcut := h.cut
    rw [hcarved] at hcut ⊢
    exact hcut.set_magic
  · intro place hpayload
    refine (set_memory_of_outside _ ?_).trans (h.keeps place hpayload)
    exact hpayload (extent front, ⟨heap.grant whole size, true⟩)
      (by simp [hcarved])

theorem with_lfree (h : heap.Occupied front back whole size heap')
    (lfree : Nat) :
    heap.Occupied front back whole size { heap' with lfree := lfree } :=
  ⟨h.cut.globals rfl rfl rfl, h.alignSize, h.memSizeAligned, h.usedMem,
    h.maxMem, h.keeps⟩

theorem mem_placed (heap : Heap) (front back : List Piece) (whole size : Nat) :
    (extent front, ⟨heap.grant whole size, true⟩) ∈
      placed 0 (front ++ (heap.carved whole size ++ back)) := by
  obtain ⟨rest, hcarved⟩ := carved_eq heap whole size
  simp [hcarved]

theorem tiled (h : heap.Occupied front back whole size heap')
    (hbefore : heap.Tiled (front ++ ⟨whole, false⟩ :: back))
    (hopening : heap'.Opening (front ++ (heap.carved whole size ++ back))
      heap'.lfree) :
    heap'.Tiled (front ++ (heap.carved whole size ++ back)) := by
  have hstruct := hbefore.cut.shaped.twelve_le
  have hend := hbefore.cut.heapEnd_lt
  have hwhole := hbefore.cut.whole
  simp only [extent_append, extent_cons] at hwhole
  refine ⟨h.cut, separated_carved hbefore.separated, ?_, hopening, ?_,
    fun _ => ⟨_, mem_placed heap front back whole size, rfl⟩⟩
  · intro q hq
    rw [h.heapEnd, h.sizeofStructMem]
    rcases mem_placed_carved hq with hq | rfl | ⟨-, -, hroom⟩
    · exact hbefore.inside q hq
    · exact hbefore.inside (extent front, ⟨whole, false⟩) (by simp)
    · rw [minSizeAligned_eq] at hroom
      omega
  · have hall := usedExtent_le (front ++ (heap.carved whole size ++ back))
    have hused := hbefore.usedMem
    rw [h.cut.whole, h.heapEnd] at hall
    simp only [usedExtent_append, usedExtent_carved, usedExtent_cons] at hall hused
    rw [h.usedMem, hused]
    simp only [usedExtent_append, usedExtent_carved]
    rw [Nat.mod_eq_of_lt] <;> simp only [Bool.false_eq_true, if_false] <;> omega

theorem kept (h : heap.Occupied front back whole size heap') :
    heap.Kept heap' (front ++ (heap.carved whole size ++ back)) where
  alignSize := h.alignSize
  memSizeAligned := h.memSizeAligned
  payload _ hq _ place hlow hhigh :=
    h.keeps place (payload_of_mem hq h.cut.twelve_le_size hlow hhigh)

theorem used_iff (hbefore : heap.Cut (front ++ ⟨whole, false⟩ :: back))
    (hfit : heap.sizeofStructMem + size ≤ whole) {q : Nat × Piece}
    (hq : q.2.used = true) :
    q ∈ placed 0 (front ++ (heap.carved whole size ++ back)) ↔
      q ∈ placed 0 (front ++ ⟨whole, false⟩ :: back) ∨
        q = (extent front, ⟨heap.grant whole size, true⟩) := by
  constructor
  · intro hmem
    rcases mem_placed_carved hmem with hmem | heq | ⟨hfree, -⟩
    · exact .inl hmem
    · exact .inr heq
    · rw [hq] at hfree
      cases hfree
  · rintro (hmem | rfl)
    · refine mem_placed_of_mem hfit hmem ?_
      refine hbefore.place_ne hmem
        (show (extent front, ⟨whole, false⟩) ∈ _ by simp) ?_
      rintro rfl
      cases hq
    · exact mem_placed heap front back whole size

theorem allocated (h : heap.Occupied front back whole size heap')
    (hbefore : heap.Tiled (front ++ ⟨whole, false⟩ :: back))
    (hfit : heap.sizeofStructMem + size ≤ whole)
    (hopening : heap'.Opening (front ++ (heap.carved whole size ++ back))
      heap'.lfree)
    (hlowest : Lowest (front ++ ⟨whole, false⟩ :: back) heap.lfree →
      Lowest (front ++ (heap.carved whole size ++ back)) heap'.lfree) :
    heap.Allocated (front ++ ⟨whole, false⟩ :: back) (extent front) size heap'
      (front ++ (heap.carved whole size ++ back)) where
  tiled := h.tiled hbefore hopening
  kept := h.kept
  block := ⟨heap.grant whole size, le_grant hfit,
    fun _ => used_iff hbefore.cut hfit⟩
  fresh q hq hused := by
    refine hbefore.cut.place_ne hq
      (show (extent front, ⟨whole, false⟩) ∈ _ by simp) ?_
    rintro rfl
    cases hused
  lowest := hlowest
  maxMem := h.maxMem

theorem granted (h : heap.Occupied front back whole size heap')
    (hbefore : heap.Cut (front ++ ⟨whole, false⟩ :: back))
    (hfit : heap.sizeofStructMem + size ≤ whole) :
    heap'.Granted (extent front) size := by
  have hwhole := hbefore.whole
  simp only [extent_append, extent_cons] at hwhole
  have hplace := hbefore.dvd_place
    (show (extent front, ⟨whole, false⟩) ∈ _ by simp)
  have hstruct := hbefore.shaped.dvd_sizeofStructMem
  rw [Granted, h.heapEnd, h.sizeofStructMem, h.alignSize]
  exact ⟨by omega, Nat.mod_eq_zero_of_dvd (Nat.dvd_add hplace hstruct),
    Nat.mod_eq_zero_of_dvd hplace⟩

end Occupied

theorem taken_spec {whole : Nat}
    (h : heap.Tiled (front ++ ⟨whole, false⟩ :: back))
    (hlfree : heap.lfree ≤ extent front)
    (hfit : heap.sizeofStructMem + size ≤ whole)
    (hdvd : heap.alignSize.toNat ∣ size) :
    ∃ heap' row', ((heap.occupy (extent front) size).set (extent front)
        .magic heapMagic).raiseLfree (extent front) = some heap' ∧
      heap'.Granted (extent front) size ∧
      heap.Allocated (front ++ ⟨whole, false⟩ :: back) (extent front) size
        heap' row' := by
  have hoccupied := (occupy_spec h.cut hdvd).set_magic
  obtain ⟨lfree, hraise, hopening, hsame, hlowest⟩ :=
    raiseLfree_spec hoccupied.cut (by
      rw [set_lfree, occupy_lfree]
      intro hother
      rcases h.opening with hlast | ⟨q, hq, hplace, hfree⟩
      · exact .inl (hlast.trans hoccupied.heapEnd.symm)
      · exact .inr ⟨q, mem_placed_of_mem hfit hq (hplace ▸ hother), hplace,
          hfree⟩)
  rw [set_lfree, occupy_lfree] at hsame hlowest
  have hraised := hoccupied.with_lfree lfree
  refine ⟨_, _, hraise, hraised.granted h.cut hfit,
    hraised.allocated h hfit hopening fun hbefore => ?_⟩
  by_cases hfirst : heap.lfree = extent front
  · refine hlowest hfirst fun q hq => ?_
    have hplace := le_of_mem_placed hq
    have hsize := h.cut.twelve_le_size q.2 (by simp [mem_of_mem_placed hq])
    by_contra hfree
    have := hbefore q (by simp [hq]) (by simpa using hfree)
    omega
  · change Lowest _ lfree
    rw [hsame hfirst]
    intro q hq hfree
    rcases mem_placed_carved hq with hq | rfl | ⟨-, hplace, -⟩
    · exact hbefore q hq hfree
    · cases hfree
    · omega

/-! ## The call -/

def allotment (heap : Heap) (request : UInt32) : Nat :=
  heap.blockSize (rtAlign request heap.alignSize).toNat

theorem dvd_allotment (h : heap.Shaped) (request : UInt32) :
    heap.alignSize.toNat ∣ heap.allotment request := by
  obtain ⟨k, hk⟩ := h.align
  rw [allotment, blockSize]
  split
  · exact dvd_rtAlign hk
  · exact dvd_rtAlign hk

theorem le_allotment (heap : Heap) (request : UInt32) :
    (rtAlign request heap.alignSize).toNat ≤ heap.allotment request := by
  rw [allotment, blockSize]
  split <;> omega

theorem rtMalloc_cases {request : UInt32} (h : heap.Tiled (front ++ back))
    (hlfree : heap.lfree = extent front) (hrequest : request ≠ 0) :
    ((placed (extent front) back).find?
        (fun q => heap.Fits (heap.allotment request) q) = none ∧
      heap.rtMalloc request = some (heap, none)) ∨
    ∃ q heap' row', (placed (extent front) back).find?
        (fun q => heap.Fits (heap.allotment request) q) = some q ∧
      heap.rtMalloc request =
        some (heap', some (q.1 + heap.sizeofStructMem)) ∧
      heap.Allocated (front ++ back) q.1 (heap.allotment request) heap' row' := by
  by_cases hlarge : heap.memSizeAligned < (rtAlign request heap.alignSize).toNat
  · have hallotment := le_allotment heap request
    refine .inl ⟨List.find?_eq_none.mpr fun q _ => ?_, ?_⟩
    · rw [decide_eq_true_eq]
      rintro ⟨-, -, hinside⟩
      simp only [heapEnd] at hinside
      omega
    · simp only [rtMalloc, if_neg hrequest, if_pos hlarge]
  · have hsize : heap.allotment request ≤ heap.memSizeAligned := by
      have hroomy := h.cut.shaped.roomy
      rw [allotment, blockSize]
      split <;> omega
    have hfind := firstFit_eq h.cut hsize h.cut.length_lt_turns
    simp only [rtMalloc, if_neg hrequest, if_neg hlarge, hlfree]
    rw [← allotment, hfind]
    cases hfound : (placed (extent front) back).find?
        fun q => heap.Fits (heap.allotment request) q with
    | none => exact .inl ⟨rfl, rfl⟩
    | some q =>
        have hq := List.mem_of_find?_eq_some hfound
        have hfits : heap.Fits (heap.allotment request) q := by
          simpa using List.find?_some hfound
        obtain ⟨middle, later, rfl, hplace⟩ := exists_split_of_mem_placed hq
        obtain ⟨place, ⟨whole, used⟩⟩ := q
        obtain ⟨rfl, hfit, -⟩ : used = false ∧ _ ≤ whole ∧ _ := hfits
        have hfront : place = extent (front ++ middle) := by
          rw [extent_append]
          exact hplace
        have htiled : heap.Tiled ((front ++ middle) ++ ⟨whole, false⟩ :: later) := by
          simpa using h
        obtain ⟨heap', row', hraise, hgranted, hallocated⟩ := taken_spec htiled
          (by rw [hlfree, extent_append]; omega) hfit
          (dvd_allotment h.cut.shaped request)
        refine .inr ⟨_, heap', row', rfl, ?_, ?_⟩
        · rw [← hfront] at hraise hgranted
          simp [hraise, hgranted]
        · rw [List.append_assoc] at hallocated
          rw [hfront]
          exact hallocated

end Heap

end WncFirmware.Kernel
