import Mathlib.Data.Nat.Bitwise

/-!
# The lowest mark of a row

`Lowest marked place` says that a row of marks begins at `place`.  A row that
is cut into groups of equal width is searched group by group.
-/

namespace WncFirmware.Foundation

structure Lowest (marked : Nat → Prop) (place : Nat) : Prop where
  here : marked place
  clear : ∀ lower < place, ¬ marked lower

namespace Lowest

variable {marked : Nat → Prop} {place width group : Nat}

theorem le (h : Lowest marked place) {other : Nat} (hother : marked other) :
    place ≤ other := by
  by_contra hlt
  exact h.clear other (by omega) hother

theorem of_group (hwidth : place < width)
    (hgroup : Lowest (fun number =>
      ∃ offset < width, marked (width * number + offset)) group)
    (hplace : Lowest (fun offset => marked (width * group + offset)) place) :
    Lowest marked (width * group + place) := by
  refine ⟨hplace.here, fun lower hlower hmarked => ?_⟩
  have hpos : 0 < width := by omega
  have hsplit : width * (lower / width) + lower % width = lower :=
    Nat.div_add_mod lower width
  rcases Nat.lt_trichotomy (lower / width) group with hlt | heq | hgt
  · refine hgroup.clear _ hlt ⟨lower % width, Nat.mod_lt _ hpos, ?_⟩
    rw [hsplit]
    exact hmarked
  · rw [heq] at hsplit
    refine hplace.clear (lower % width) (by omega) ?_
    rw [hsplit]
    exact hmarked
  · have hle : width * (group + 1) ≤ width * (lower / width) :=
      Nat.mul_le_mul_left _ hgt
    rw [Nat.mul_add] at hle
    omega

theorem congr {other : Nat → Prop} (h : Lowest marked place)
    (hsame : ∀ lower ≤ place, (marked lower ↔ other lower)) :
    Lowest other place :=
  ⟨(hsame place (Nat.le_refl _)).mp h.here, fun lower hlower hmarked =>
    h.clear lower hlower ((hsame lower (by omega)).mpr hmarked)⟩

end Lowest

theorem and_shiftLeft_eq (value mask shift : Nat) :
    value &&& (mask <<< shift) = ((value >>> shift) &&& mask) <<< shift := by
  apply Nat.eq_of_testBit_eq
  intro place
  rw [Nat.testBit_and, Nat.testBit_shiftLeft, Nat.testBit_shiftLeft,
    Nat.testBit_and, Nat.testBit_shiftRight]
  by_cases hplace : shift ≤ place
  · have hback : shift + (place - shift) = place := by omega
    simp [hplace, hback]
  · simp [hplace]

end WncFirmware.Foundation
