import Mathlib.Data.List.Basic
import Mathlib.Data.Nat.ModEq

/-!
# Rings of sectors

A history that is cut into pieces of one length, and a ring that keeps the last
pieces of it.  The piece of a number lies at the place which is that number
modulo the number of places.
-/

namespace WncFirmware.Foundation

/-! ## Pieces of a history -/

section Pieces

variable {Item : Type}

def piece (limit : Nat) (history : List Item) (number : Nat) : List Item :=
  (history.drop (number * limit)).take limit

theorem length_piece (limit : Nat) (history : List Item) (number : Nat) :
    (piece limit history number).length =
      min limit (history.length - number * limit) := by
  simp [piece]

theorem piece_of_length_le {limit number : Nat} {history : List Item}
    (h : history.length ≤ number * limit) : piece limit history number = [] := by
  simp [piece, List.drop_eq_nil_of_le h]

theorem piece_append_of_full {limit number : Nat} {history : List Item}
    (more : List Item) (h : (number + 1) * limit ≤ history.length) :
    piece limit (history ++ more) number = piece limit history number := by
  have hfull : limit ≤ (history.drop (number * limit)).length := by
    rw [List.length_drop]
    rw [Nat.add_mul, Nat.one_mul] at h
    omega
  have hinside : number * limit ≤ history.length := by
    rw [Nat.add_mul] at h
    omega
  rw [piece, List.drop_append_of_le_length hinside,
    List.take_append_of_le_length hfull, piece]

theorem piece_append_of_room {limit number : Nat} {history more : List Item}
    (hinside : number * limit ≤ history.length)
    (hroom : history.length + more.length ≤ (number + 1) * limit) :
    piece limit (history ++ more) number = piece limit history number ++ more := by
  rw [Nat.add_mul, Nat.one_mul] at hroom
  have hall : ((history ++ more).drop (number * limit)).length ≤ limit := by
    rw [List.length_drop, List.length_append]
    omega
  have hfront : (history.drop (number * limit)).length ≤ limit := by
    rw [List.length_drop]
    omega
  rw [piece, piece, List.take_of_length_le hall, List.take_of_length_le hfront,
    List.drop_append_of_le_length hinside]

theorem take_drop_piece {limit number offset count : Nat}
    (history : List Item) (h : offset + count ≤ limit) :
    ((piece limit history number).drop offset).take count =
      (history.drop (number * limit + offset)).take count := by
  rw [piece, List.drop_take, List.drop_drop, List.take_take,
    Nat.min_eq_left (by omega)]

theorem mem_of_mem_piece {limit number : Nat} {history : List Item}
    {item : Item} (h : item ∈ piece limit history number) : item ∈ history :=
  List.mem_of_mem_drop (List.mem_of_mem_take h)

end Pieces

/-! ## Places -/

theorem succ_mod_of_last {size number : Nat}
    (h : number % size + 1 = size) : (number + 1) % size = 0 := by
  rw [← Nat.mod_add_mod, h, Nat.mod_self]

theorem succ_mod_of_not_last {size number : Nat} (hlt : number % size < size)
    (h : number % size + 1 ≠ size) :
    (number + 1) % size = number % size + 1 := by
  rw [← Nat.mod_add_mod, Nat.mod_eq_of_lt (by omega)]

/-! ## The numbers that a ring keeps -/

/-- The last `kept` of the numbers below `opened`. -/
def InWindow (opened kept number : Nat) : Prop :=
  number < opened ∧ opened ≤ number + kept

def latestAt (size opened place : Nat) : Nat :=
  place + (opened - 1 - place) / size * size

theorem latestAt_mod {size place : Nat} (opened : Nat) (h : place < size) :
    latestAt size opened place % size = place := by
  rw [latestAt, Nat.add_mul_mod_self_right, Nat.mod_eq_of_lt h]

theorem inWindow_latestAt {size opened place : Nat} (hplace : place < size)
    (hopened : place < opened) :
    InWindow opened size (latestAt size opened place) := by
  have hle := Nat.div_mul_le_self (opened - 1 - place) size
  have hlt := Nat.lt_div_mul_add (show 0 < size by omega)
    (a := opened - 1 - place)
  simp only [InWindow, latestAt]
  omega

theorem InWindow.eq_of_mod_eq {size opened kept first second : Nat}
    (hfirst : InWindow opened kept first) (hsecond : InWindow opened kept second)
    (hkept : kept ≤ size) (h : first % size = second % size) :
    first = second := by
  simp only [InWindow] at hfirst hsecond
  rcases Nat.le_total first second with hle | hle
  · have hdvd := (Nat.modEq_iff_dvd' hle).mp h
    have hzero := Nat.eq_zero_of_dvd_of_lt hdvd (by omega)
    omega
  · have hdvd := (Nat.modEq_iff_dvd' hle).mp h.symm
    have hzero := Nat.eq_zero_of_dvd_of_lt hdvd (by omega)
    omega

theorem InWindow.mono {opened kept kept' number : Nat}
    (h : InWindow opened kept number) (hle : kept ≤ kept') :
    InWindow opened kept' number := by
  simp only [InWindow] at *
  omega

/-- The next number takes the place of the oldest one that a full ring keeps. -/
theorem InWindow.mod_ne {size opened number : Nat}
    (h : InWindow opened (size - 1) number) : number % size ≠ opened % size := by
  intro hmod
  simp only [InWindow] at h
  have hdvd := (Nat.modEq_iff_dvd' h.1.le).mp hmod
  have hzero := Nat.eq_zero_of_dvd_of_lt hdvd (by omega)
  omega

theorem InWindow.cases {size opened number : Nat} (h : InWindow opened size number) :
    InWindow opened (size - 1) number ∨ number % size = opened % size := by
  simp only [InWindow] at *
  by_cases hlast : opened = number + size
  · right
    rw [hlast, Nat.add_mod_right]
  · left
    omega

/-- A place that is opened again while it is in use holds the oldest sector. -/
theorem InWindow.eq_oldest {size newest kept number : Nat}
    (h : InWindow (newest + 1) kept number) (hkept : kept ≤ size)
    (hmod : number % size = (newest + 1) % size) :
    number = newest + 1 - kept := by
  simp only [InWindow] at h
  have hdvd := (Nat.modEq_iff_dvd' h.1.le).mp hmod
  have hle := Nat.le_of_dvd (by omega) hdvd
  omega

theorem inWindow_succ {size opened number : Nat} (hsize : 0 < size) :
    InWindow (opened + 1) size number ↔
      number = opened ∨ InWindow opened (size - 1) number := by
  simp only [InWindow]
  omega

theorem inWindow_newest {size newest : Nat} (h : 0 < size) :
    InWindow (newest + 1) size newest := by
  simp only [InWindow]
  omega

theorem latestAt_newest {size newest : Nat} (h : 0 < size) :
    latestAt size (newest + 1) (newest % size) = newest := by
  have hplace := Nat.mod_lt newest h
  have hle := Nat.mod_le newest size
  exact (inWindow_latestAt hplace (by omega)).eq_of_mod_eq (inWindow_newest h) le_rfl
    (latestAt_mod (newest + 1) hplace)

structure ScanStops (size opened kept stop : Nat) : Prop where
  seen : ∀ place, place < stop →
    place < size ∧ InWindow opened kept (latestAt size opened place)
  stops : stop = size ∨ stop < size ∧
    ∀ number, InWindow opened kept number → number % size ≠ stop

theorem scanStops_full (size opened : Nat) :
    ScanStops size opened size (min opened size) where
  seen := by
    intro place hplace
    exact ⟨by omega, inWindow_latestAt (by omega) (by omega)⟩
  stops := by
    by_cases hwrapped : size ≤ opened
    · left
      omega
    · right
      refine ⟨by omega, ?_⟩
      intro number hkept
      have hlt := hkept.1
      rw [Nat.mod_eq_of_lt (by omega)]
      omega

theorem scanStops_erased {size : Nat} (opened : Nat) (h : 0 < size) :
    ScanStops size opened (size - 1) (opened % size) where
  seen := by
    intro place hplace
    have hlt := Nat.mod_lt opened h
    have hle := Nat.mod_le opened size
    refine ⟨by omega, ?_⟩
    have hlatest : InWindow opened size (latestAt size opened place) :=
      inWindow_latestAt (by omega) (by omega)
    rcases hlatest.cases with hkept | hmod
    · exact hkept
    · rw [latestAt_mod opened (by omega)] at hmod
      omega
  stops := .inr ⟨Nat.mod_lt opened h, fun _ hkept => hkept.mod_ne⟩

/-! ## How many pieces a history has -/

def pieceCount (limit length : Nat) : Nat := (length + limit - 1) / limit

end WncFirmware.Foundation
