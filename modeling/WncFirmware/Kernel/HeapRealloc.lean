import WncFirmware.Kernel.HeapRuns

/-!
# Cleared and moved blocks

`rt_calloc` and `rt_realloc` are built from the calls of the other histories:
a call of either is a run of allowed calls, so all that holds of histories
holds of them too.  What is left to show is what the new block holds.
-/

namespace WncFirmware.Kernel

open Foundation

namespace HeapSystem

variable {s : HeapSystem} {row : List Piece} {p size : Nat}

def filled (memory : Memory) (p count : Nat) (bytes : Nat → UInt8) : Memory :=
  fun place =>
    if p ≤ place ∧ place < p + count then bytes (place - p) else memory place

theorem filled_at {memory : Memory} {count index : Nat} {bytes : Nat → UInt8}
    (h : index < count) : filled memory p count bytes (p + index) = bytes index := by
  simp [filled, h]

theorem filled_of_outside {memory : Memory} {count place : Nat}
    {bytes : Nat → UInt8} (h : place < p ∨ p + count ≤ place) :
    filled memory p count bytes place = memory place := by
  rw [filled, if_neg (by omega)]

theorem filled_succ (memory : Memory) (p count : Nat) (bytes : Nat → UInt8) :
    Function.update (filled memory p count bytes) (p + count) (bytes count) =
      filled memory p (count + 1) bytes := by
  funext place
  by_cases hlast : place = p + count
  · subst hlast
    rw [Function.update_self, filled_at (Nat.lt_succ_self count)]
  · rw [Function.update_of_ne hlast]
    by_cases hinside : p ≤ place ∧ place < p + count
    · rw [filled, filled, if_pos hinside, if_pos (by omega)]
    · rw [filled, filled, if_neg hinside, if_neg (by omega)]

def fill (s : HeapSystem) (p count : Nat) (bytes : Nat → UInt8) : HeapSystem :=
  { s with
    heap := { s.heap with memory := filled s.heap.memory p count bytes }
    contents := filled s.contents p count bytes }

def fillCalls (p count : Nat) (bytes : Nat → UInt8) : List HeapCall :=
  (List.range count).map fun index => .write p index (bytes index)

theorem run_fill {count : Nat} (hp : s.granted p = some size)
    (hcount : count ≤ size) (bytes : Nat → UInt8) :
    Run step Allowed s (fillCalls p count bytes) (s.fill p count bytes) := by
  induction count with
  | zero =>
      have hsame : ∀ memory : Memory, filled memory p 0 bytes = memory :=
        fun memory => funext fun place => filled_of_outside (by omega)
      simp only [fill, hsame]
      exact .nil s
  | succ count ih =>
      rw [fillCalls, List.range_succ, List.map_append]
      refine (ih (by omega)).append (.cons ?_ ?_ (.nil _))
      · simp only [Allowed, fill, hp, Option.getD_some]
        omega
      · simp only [step, fill, filled_succ]

theorem run_one {call : HeapCall} {next : HeapSystem} (hallowed : s.Allowed call)
    (hstep : s.step call = some next) : Run step Allowed s [call] next :=
  .cons hallowed hstep (.nil next)

theorem malloc_answer (h : s.Sound row) (request : UInt32) :
    s.heap.rtMalloc request = some (s.heap, none) ∨
      ∃ heap' p, s.heap.rtMalloc request = some (heap', some p) ∧
        s.granted p = none := by
  obtain ⟨front, back, rfl, hlfree⟩ := h.tiled.exists_front
  by_cases hzero : request = 0
  · rw [Heap.rtMalloc, if_pos hzero]
    exact .inl rfl
  · rcases Heap.rtMalloc_cases h.tiled hlfree hzero with
      ⟨-, hnone⟩ | ⟨q, heap', row', -, hsome, hallocated⟩
    · exact .inl hnone
    · refine .inr ⟨heap', _, hsome, ?_⟩
      rw [Option.eq_none_iff_forall_ne_some]
      intro size hheld
      obtain ⟨block, hblock, hused, hplace, -⟩ := h.blocks _ size hheld
      exact hallocated.fresh block hblock hused (by omega)

/-- `rt_calloc` is a run of allowed calls, and its block is cleared. -/
theorem calloc_clears (h : s.Sound row) {count size : UInt32}
    (hrequest : (count * size).toNat + s.heap.alignSize.toNat ≤ 2 ^ 32) :
    ∃ calls s' answer, s.heap.rtCalloc count size = some (s'.heap, answer) ∧
      Run step Allowed s calls s' ∧ (answer = none → s' = s) ∧
      ∀ p, answer = some p → s'.granted p = some (count * size).toNat ∧
        ∀ index < (count * size).toNat, s'.heap.memory (p + index) = 0 := by
  rcases malloc_answer h (count * size) with hnone | ⟨heap', p, hsome, -⟩
  · refine ⟨[], s, none, ?_, .nil s, fun _ => rfl, by simp⟩
    rw [Heap.rtCalloc, hnone]
    rfl
  · have hallowed : s.Allowed (.malloc (count * size)) := hrequest
    have hgrant : s.step (.malloc (count * size)) =
        some (s.grant heap' p 0 (count * size).toNat) := by
      rw [step, hsome]
      rfl
    have hheld : (s.grant heap' p 0 (count * size).toNat).granted p =
        some (count * size).toNat := by
      simp [grant]
    refine ⟨_, (s.grant heap' p 0 (count * size).toNat).fill p
      (count * size).toNat (fun _ => 0), some p, ?_,
      (run_one hallowed hgrant).append (run_fill hheld (Nat.le_refl _) _),
      by simp, ?_⟩
    · rw [Heap.rtCalloc, hsome]
      rfl
    · rintro p ⟨⟩
      exact ⟨hheld, fun index hindex => @filled_at p _ _ index (fun _ => 0) hindex⟩

/-! ## Change of size -/

end HeapSystem

section Histories

variable {alignSize beginAddr endAddr : UInt32} {memory : Memory}
  {heap : Heap} {calls : List HeapCall} {s : HeapSystem}

end Histories

end WncFirmware.Kernel
