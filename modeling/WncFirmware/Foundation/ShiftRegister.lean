import Mathlib.Algebra.BigOperators.Group.Finset.Basic
import Mathlib.Algebra.Field.ZMod

/-!
# Shift registers

A register that is shifted to the right, with a polynomial added whenever a one
falls out.  A step is linear over the field of two elements, and invertible when
the polynomial has its top bit set; a polynomial with an odd number of ones keeps
the parity of the register.
-/

namespace WncFirmware.Foundation

variable {width : Nat} {poly : BitVec width}

def shiftStep (poly register : BitVec width) : BitVec width :=
  if register.getLsbD 0 then (register >>> 1) ^^^ poly else register >>> 1

/-! ## Linearity -/

theorem shiftStep_zero (poly : BitVec width) :
    shiftStep poly (BitVec.ofNat width 0) = BitVec.ofNat width 0 := by
  simp [shiftStep]

theorem shiftStep_xor (first second : BitVec width) :
    shiftStep poly (first ^^^ second) =
      shiftStep poly first ^^^ shiftStep poly second := by
  have hcancel : ∀ a b : BitVec width, a ^^^ poly ^^^ (b ^^^ poly) =
      a ^^^ b := by
    intro a b
    rw [BitVec.xor_comm b poly, BitVec.xor_assoc, ← BitVec.xor_assoc poly,
      BitVec.xor_self, BitVec.zero_xor]
  simp only [shiftStep, BitVec.getLsbD_xor, BitVec.ushiftRight_xor_distrib]
  cases first.getLsbD 0 <;> cases second.getLsbD 0
  · simp
  · simp [BitVec.xor_assoc]
  · simp only [Bool.xor_false, if_true, Bool.false_eq_true, if_false]
    rw [BitVec.xor_assoc, BitVec.xor_comm _ poly, ← BitVec.xor_assoc]
  · simpa using (hcancel _ _).symm

theorem iterate_shiftStep_zero (steps : Nat) :
    (shiftStep poly)^[steps] (BitVec.ofNat width 0) = BitVec.ofNat width 0 :=
  Function.iterate_fixed (shiftStep_zero poly) steps

theorem iterate_shiftStep_xor (steps : Nat) (first second : BitVec width) :
    (shiftStep poly)^[steps] (first ^^^ second) =
      (shiftStep poly)^[steps] first ^^^ (shiftStep poly)^[steps] second := by
  induction steps generalizing first second with
  | zero => rfl
  | succ steps ih =>
      rw [Function.iterate_succ_apply, shiftStep_xor, ih,
        Function.iterate_succ_apply, Function.iterate_succ_apply]

/-! ## Nothing is lost -/

theorem eq_zero_of_shiftStep (htop : poly.msb = true)
    {register : BitVec width}
    (h : shiftStep poly register = BitVec.ofNat width 0) :
    register = BitVec.ofNat width 0 := by
  rw [shiftStep] at h
  cases hlow : register.getLsbD 0 with
  | true =>
      rw [hlow, if_pos rfl, BitVec.xor_eq_zero_iff] at h
      rw [← h, BitVec.msb_ushiftRight] at htop
      simp at htop
  | false =>
      rw [hlow, if_neg Bool.false_ne_true] at h
      apply BitVec.eq_of_getLsbD_eq
      intro index _
      cases index with
      | zero => simpa using hlow
      | succ index =>
          have hbit := congrArg (·.getLsbD index) h
          simpa [Nat.add_comm] using hbit

theorem iterate_shiftStep_inj (htop : poly.msb = true) (steps : Nat)
    {first second : BitVec width}
    (h : (shiftStep poly)^[steps] first = (shiftStep poly)^[steps] second) :
    first = second := by
  rw [← BitVec.xor_eq_zero_iff, ← iterate_shiftStep_xor] at h
  rw [← BitVec.xor_eq_zero_iff]
  induction steps with
  | zero => exact h
  | succ steps ih =>
      rw [Function.iterate_succ_apply'] at h
      exact ih (eq_zero_of_shiftStep htop h)

/-! ## A single one -/

theorem getLsbD_single {bit : Nat} (h : bit < width) (index : Nat) :
    (BitVec.ofNat width 1 <<< bit).getLsbD index = decide (index = bit) := by
  rw [BitVec.getLsbD_shiftLeft, BitVec.getLsbD_one, Bool.eq_iff_iff]
  simp only [Bool.and_eq_true, Bool.not_eq_true', decide_eq_true_eq,
    decide_eq_false_iff_not]
  omega

theorem iterate_shiftStep_single {bit : Nat} (h : bit < width) :
    (shiftStep poly)^[bit] (BitVec.ofNat width 1 <<< bit) =
      BitVec.ofNat width 1 := by
  induction bit with
  | zero => rw [Function.iterate_zero, id, BitVec.shiftLeft_zero]
  | succ bit ih =>
      have hlow : (BitVec.ofNat width 1 <<< (bit + 1)).getLsbD 0 = false := by
        simp
      have hstep : shiftStep poly (BitVec.ofNat width 1 <<< (bit + 1)) =
          BitVec.ofNat width 1 <<< bit := by
        rw [shiftStep, hlow, if_neg Bool.false_ne_true]
        apply BitVec.eq_of_getLsbD_eq
        intro index _
        rw [BitVec.getLsbD_ushiftRight, getLsbD_single h,
          getLsbD_single (by omega), decide_eq_decide]
        omega
      rw [Function.iterate_succ_apply, hstep]
      exact ih (by omega)

/-! ## Parity -/

def parity (register : BitVec width) : ZMod 2 :=
  ∑ index ∈ Finset.range width, if register.getLsbD index then 1 else 0

theorem parity_zero : parity (BitVec.ofNat width 0) = 0 := by
  simp [parity]

theorem parity_xor (first second : BitVec width) :
    parity (first ^^^ second) = parity first + parity second := by
  rw [parity, parity, parity, ← Finset.sum_add_distrib]
  apply Finset.sum_congr rfl
  intro index _
  rw [BitVec.getLsbD_xor]
  cases first.getLsbD index <;> cases second.getLsbD index <;> decide

theorem parity_ushiftRight_one (register : BitVec width) :
    parity register = parity (register >>> 1) +
      if register.getLsbD 0 then 1 else 0 := by
  have hbehind : register.getLsbD width = false :=
    BitVec.getLsbD_of_ge register width le_rfl
  have hsum := Finset.sum_range_succ' (fun index =>
    if register.getLsbD index then (1 : ZMod 2) else 0) width
  rw [Finset.sum_range_succ, hbehind, if_neg Bool.false_ne_true,
    add_zero] at hsum
  rw [parity, hsum, parity]
  simp only [BitVec.getLsbD_ushiftRight, Nat.add_comm 1]

theorem parity_shiftStep (hodd : parity poly = 1) (register : BitVec width) :
    parity (shiftStep poly register) = parity register := by
  rw [parity_ushiftRight_one register, shiftStep]
  cases register.getLsbD 0 with
  | true => rw [if_pos rfl, if_pos rfl, parity_xor, hodd]
  | false =>
      rw [if_neg Bool.false_ne_true, if_neg Bool.false_ne_true, add_zero]

theorem parity_iterate_shiftStep (hodd : parity poly = 1) (steps : Nat)
    (register : BitVec width) :
    parity ((shiftStep poly)^[steps] register) = parity register := by
  induction steps with
  | zero => rfl
  | succ steps ih =>
      rw [Function.iterate_succ_apply', parity_shiftStep hodd, ih]

theorem parity_single {bit : Nat} (h : bit < width) :
    parity (BitVec.ofNat width 1 <<< bit) = 1 := by
  simp only [parity, getLsbD_single h, decide_eq_true_eq]
  rw [Finset.sum_ite_eq', if_pos (Finset.mem_range.mpr h)]

end WncFirmware.Foundation
