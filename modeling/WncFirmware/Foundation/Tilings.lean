import Mathlib.Data.List.Chain
import Mathlib.Data.List.Induction
import Mathlib.Tactic.Ring

/-!
# Rows of pieces

A stretch of addresses is cut into adjacent pieces, some of them in use.  Only
the sizes are written down: `placed` computes where each piece lies.
-/

namespace WncFirmware.Foundation

structure Piece where
  size : Nat
  used : Bool
deriving Repr, DecidableEq

def extent (row : List Piece) : Nat := (row.map Piece.size).sum

def usedExtent (row : List Piece) : Nat := extent (row.filter Piece.used)

def placed : Nat → List Piece → List (Nat × Piece)
  | _, [] => []
  | start, piece :: row => (start, piece) :: placed (start + piece.size) row

def Separated (row : List Piece) : Prop :=
  row.IsChain fun first second => first.used = true ∨ second.used = true

variable {start : Nat} {row front back : List Piece} {piece : Piece}

@[simp] theorem extent_nil : extent [] = 0 := rfl

@[simp] theorem extent_cons (piece : Piece) (row : List Piece) :
    extent (piece :: row) = piece.size + extent row := by
  simp [extent]

@[simp] theorem extent_append (front back : List Piece) :
    extent (front ++ back) = extent front + extent back := by
  simp [extent]

@[simp] theorem usedExtent_nil : usedExtent [] = 0 := rfl

@[simp] theorem usedExtent_cons (piece : Piece) (row : List Piece) :
    usedExtent (piece :: row) =
      (if piece.used then piece.size else 0) + usedExtent row := by
  by_cases hused : piece.used <;> simp [usedExtent, hused]

@[simp] theorem usedExtent_append (front back : List Piece) :
    usedExtent (front ++ back) = usedExtent front + usedExtent back := by
  simp [usedExtent]

theorem usedExtent_le (row : List Piece) : usedExtent row ≤ extent row := by
  induction row with
  | nil => simp
  | cons piece row ih =>
      rw [usedExtent_cons, extent_cons]
      split <;> omega

@[simp] theorem placed_nil (start : Nat) : placed start [] = [] := rfl

@[simp] theorem placed_cons (start : Nat) (piece : Piece) (row : List Piece) :
    placed start (piece :: row) =
      (start, piece) :: placed (start + piece.size) row := rfl

@[simp] theorem placed_append (start : Nat) (front back : List Piece) :
    placed start (front ++ back) =
      placed start front ++ placed (start + extent front) back := by
  induction front generalizing start with
  | nil => simp
  | cons piece front ih => simp [ih, Nat.add_assoc]

theorem map_snd_placed (start : Nat) (row : List Piece) :
    (placed start row).map Prod.snd = row := by
  induction row generalizing start with
  | nil => rfl
  | cons piece row ih => simp [ih]

theorem sum_used_placed (start : Nat) (row : List Piece) :
    (((placed start row).filter (·.2.used)).map (·.2.size)).sum =
      usedExtent row := by
  induction row generalizing start with
  | nil => rfl
  | cons piece row ih =>
      by_cases hused : piece.used <;> simp [hused, ih]

theorem exists_split_of_mem_placed {place : Nat}
    (h : (place, piece) ∈ placed start row) :
    ∃ front back, row = front ++ piece :: back ∧
      place = start + extent front := by
  induction row generalizing start with
  | nil => simp at h
  | cons first row ih =>
      rw [placed_cons, List.mem_cons] at h
      rcases h with heq | hlater
      · cases heq
        exact ⟨[], row, rfl, by simp⟩
      · obtain ⟨front, back, rfl, rfl⟩ := ih hlater
        exact ⟨first :: front, back, rfl, by simp [Nat.add_assoc]⟩

theorem mem_of_mem_placed {q : Nat × Piece} (h : q ∈ placed start row) :
    q.2 ∈ row := by
  obtain ⟨front, back, rfl, -⟩ := exists_split_of_mem_placed h
  simp

theorem le_of_mem_placed {place : Nat} (h : (place, piece) ∈ placed start row) :
    start ≤ place ∧ place + piece.size ≤ start + extent row := by
  obtain ⟨front, back, rfl, rfl⟩ := exists_split_of_mem_placed h
  simp only [extent_append, extent_cons]
  omega

theorem placed_apart {first second : Nat × Piece}
    (hfirst : first ∈ placed start row) (hsecond : second ∈ placed start row) :
    first = second ∨ first.1 + first.2.size ≤ second.1 ∨
      second.1 + second.2.size ≤ first.1 := by
  induction row generalizing start with
  | nil => simp at hfirst
  | cons piece row ih =>
      rw [placed_cons, List.mem_cons] at hfirst hsecond
      rcases hfirst with rfl | hfirst <;> rcases hsecond with rfl | hsecond
      · exact .inl rfl
      · exact .inr (.inl (le_of_mem_placed hsecond).1)
      · exact .inr (.inr (le_of_mem_placed hfirst).1)
      · exact ih hfirst hsecond

theorem find?_placed_le {found other : Nat × Piece}
    {test : Nat × Piece → Bool} (hfound : (placed start row).find? test = some found)
    (hother : other ∈ placed start row) (htest : test other = true) :
    found.1 ≤ other.1 := by
  induction row generalizing start with
  | nil => simp at hother
  | cons piece row ih =>
      have hlow : start ≤ other.1 := (le_of_mem_placed hother).1
      rw [placed_cons, List.find?_cons] at hfound
      cases hfirst : test (start, piece) with
      | true =>
          simp only [hfirst, Option.some.injEq] at hfound
          exact hfound ▸ hlow
      | false =>
          simp only [hfirst] at hfound
          rw [placed_cons, List.mem_cons] at hother
          rcases hother with rfl | hother
          · rw [htest] at hfirst
            cases hfirst
          · exact ih hfound hother

/-! ## Neighbours -/

theorem Separated.resize {size : Nat} {used : Bool}
    (h : Separated (⟨size, used⟩ :: row)) (now : Nat) :
    Separated (⟨now, used⟩ :: row) := by
  obtain ⟨hnext, hrow⟩ := List.isChain_cons.mp h
  exact List.isChain_cons.mpr ⟨hnext, hrow⟩

theorem Separated.parts (h : Separated (front ++ piece :: back)) :
    Separated front ∧ Separated back :=
  ⟨h.left_of_append, h.right_of_append.tail⟩

theorem Separated.use (h : Separated (front ++ piece :: back)) (size : Nat) :
    Separated (front ++ ⟨size, true⟩ :: back) := by
  refine h.left_of_append.append ?_ fun _ _ second hsecond => ?_
  · exact List.isChain_cons.mpr ⟨fun _ _ => .inl rfl, h.parts.2⟩
  · obtain rfl : second = ⟨size, true⟩ := by simpa using hsecond.symm
    exact .inr rfl

theorem Separated.carve {size : Nat}
    (h : Separated (front ++ ⟨size, false⟩ :: back)) (first rest : Nat) :
    Separated (front ++ ⟨first, true⟩ :: ⟨rest, false⟩ :: back) := by
  refine h.left_of_append.append ?_ fun _ _ second hsecond => ?_
  · exact .cons_cons (.inl rfl) (Separated.resize h.right_of_append rest)
  · obtain rfl : second = ⟨first, true⟩ := by simpa using hsecond.symm
    exact .inr rfl

end WncFirmware.Foundation
