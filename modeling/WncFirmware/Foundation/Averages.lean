import Mathlib.Algebra.BigOperators.Group.List.Basic
import Mathlib.Algebra.Ring.Int.Defs

/-!
# Truncated averages

The average of a list of integers, rounded towards zero as C divides.  A sum
that is kept in too few bits still has the right average only if nothing was
lost: a whole modulus moves the quotient by a short divisor.
-/

namespace WncFirmware.Foundation

variable {values other : List Int} {low high : Int}

def average (values : List Int) : Int := values.sum.tdiv values.length

theorem average_perm (h : values.Perm other) : average values = average other := by
  rw [average, average, h.sum_eq, h.length_eq]

theorem sum_mem (h : ∀ value ∈ values, low ≤ value ∧ value ≤ high) :
    low * values.length ≤ values.sum ∧ values.sum ≤ high * values.length := by
  induction values with
  | nil => simp
  | cons value values ih =>
      have hvalue := h value List.mem_cons_self
      have hrest := ih fun other hother => h other (List.mem_cons_of_mem _ hother)
      simp only [List.sum_cons, List.length_cons, Int.natCast_add, Int.mul_add]
      omega

theorem tdiv_mem {number divisor : Int} (hpos : 0 < divisor)
    (hlow : low * divisor ≤ number) (hhigh : number ≤ high * divisor) :
    low ≤ number.tdiv divisor ∧ number.tdiv divisor ≤ high := by
  have hleft := Int.tdiv_le_tdiv hpos hlow
  have hright := Int.tdiv_le_tdiv hpos hhigh
  rw [Int.mul_tdiv_cancel _ (Int.ne_of_gt hpos)] at hleft hright
  exact ⟨hleft, hright⟩

theorem average_mem (hne : values ≠ [])
    (h : ∀ value ∈ values, low ≤ value ∧ value ≤ high) :
    low ≤ average values ∧ average values ≤ high := by
  obtain ⟨hlow, hhigh⟩ := sum_mem h
  exact tdiv_mem (Int.natCast_pos.mpr (List.length_pos_of_ne_nil hne)) hlow hhigh

theorem sub_lt_of_tdiv_eq {first second divisor : Int} (hpos : 0 < divisor)
    (h : first.tdiv divisor = second.tdiv divisor) :
    first - second < 2 * divisor := by
  have hfirst := Int.mul_tdiv_add_tmod first divisor
  have hsecond := Int.mul_tdiv_add_tmod second divisor
  have hupper := Int.tmod_lt_of_pos first hpos
  have hlower := Int.lt_tmod_of_pos second hpos
  rw [h] at hfirst
  omega

theorem bmod_tdiv_eq_iff {number divisor : Int} {modulus : Nat}
    (hpos : 0 < divisor) (hshort : 2 * divisor ≤ modulus) :
    (number.bmod modulus).tdiv divisor = number.tdiv divisor ↔
      number.bmod modulus = number := by
  constructor
  · intro h
    have hover := sub_lt_of_tdiv_eq hpos h
    have hunder := sub_lt_of_tdiv_eq hpos h.symm
    have hzero : number.bmod modulus - number = 0 :=
      Int.eq_zero_of_dvd_of_natAbs_lt_natAbs Int.dvd_bmod_sub_self (by omega)
    omega
  · intro h
    rw [h]

end WncFirmware.Foundation
