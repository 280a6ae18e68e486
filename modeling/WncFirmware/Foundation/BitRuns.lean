import Mathlib.Data.Nat.Factorization.Basic
import Mathlib.Tactic.Ring

/-!
# Ones followed by zeros

A word together with its predecessor has all bits set if and only if, from its
most significant bit on, the word has only ones and then only zeros.
-/

namespace WncFirmware.Foundation

def OnesAbove {width : Nat} (zeros : Nat) (word : BitVec width) : Prop :=
  ∀ bit < width, word.getLsbD bit = decide (zeros ≤ bit)

/-! ## The lowest one -/

theorem lowest_one_split (place rest : Nat) :
    2 ^ place * (2 * rest + 1) = 2 ^ (place + 1) * rest + 2 ^ place := by
  rw [pow_succ]
  ring

theorem testBit_lowest_one (place rest bit : Nat) :
    (2 ^ place * (2 * rest + 1)).testBit bit =
      (decide (bit = place) ||
        (decide (place < bit) && rest.testBit (bit - place - 1))) := by
  have hlow : 2 ^ place < 2 ^ (place + 1) :=
    Nat.pow_lt_pow_right (by decide) (Nat.lt_succ_self _)
  rw [lowest_one_split, Nat.testBit_two_pow_mul_add _ hlow,
    Nat.testBit_two_pow]
  rcases Nat.lt_trichotomy bit place with hlt | rfl | hgt
  · simp [Nat.lt_succ_of_lt hlt, hlt.ne, hlt.ne', Nat.not_lt_of_lt hlt]
  · simp
  · simp [Nat.not_lt.mpr (Nat.succ_le_of_lt hgt), hgt, hgt.ne', Nat.sub_sub]

theorem testBit_lowest_one_pred (place rest bit : Nat) :
    (2 ^ place * (2 * rest + 1) - 1).testBit bit =
      (decide (bit < place) ||
        (decide (place < bit) && rest.testBit (bit - place - 1))) := by
  have hpos := Nat.two_pow_pos place
  have hlow : 2 ^ place - 1 < 2 ^ (place + 1) := by
    rw [pow_succ]
    omega
  rw [lowest_one_split, Nat.add_sub_assoc hpos,
    Nat.testBit_two_pow_mul_add _ hlow, Nat.testBit_two_pow_sub_one]
  rcases Nat.lt_trichotomy bit place with hlt | rfl | hgt
  · simp [Nat.lt_succ_of_lt hlt, hlt]
  · simp
  · simp [Nat.not_lt.mpr (Nat.succ_le_of_lt hgt), hgt, Nat.not_lt_of_lt hgt,
      Nat.sub_sub]

/-! ## The word and its predecessor -/

section Word

variable {width place rest : Nat} {word : BitVec width}

theorem getLsbD_lowest_one (hword : word.toNat = 2 ^ place * (2 * rest + 1)) :
    word.getLsbD place = true ∧ ∀ bit < place, word.getLsbD bit = false := by
  constructor
  · rw [BitVec.getLsbD, hword, testBit_lowest_one]
    simp
  · intro bit hbit
    rw [BitVec.getLsbD, hword, testBit_lowest_one]
    simp [hbit.ne, Nat.not_lt_of_lt hbit]

theorem getLsbD_or_pred (hword : word.toNat = 2 ^ place * (2 * rest + 1))
    (bit : Nat) :
    ((word - BitVec.ofNat width 1) ||| word).getLsbD bit =
      (decide (bit ≤ place) || word.getLsbD bit) := by
  have hpos : 1 ≤ word.toNat := by
    rw [hword]
    exact Nat.mul_pos (Nat.two_pow_pos _) (Nat.succ_pos _)
  have hwidth : 1 < 2 ^ width := hpos.trans_lt word.isLt
  have hone : (BitVec.ofNat width 1).toNat = 1 := by
    rw [BitVec.toNat_ofNat, Nat.mod_eq_of_lt hwidth]
  have hpred : (word - BitVec.ofNat width 1).toNat = word.toNat - 1 := by
    rw [BitVec.toNat_sub_of_le (by rw [BitVec.le_def, hone]; exact hpos), hone]
  rw [BitVec.getLsbD_or, BitVec.getLsbD, BitVec.getLsbD, hpred, hword,
    testBit_lowest_one, testBit_lowest_one_pred]
  rcases Nat.lt_trichotomy bit place with hlt | rfl | hgt
  · simp [hlt, hlt.le]
  · simp
  · simp [hgt, hgt.ne', Nat.not_lt_of_lt hgt, Nat.not_le_of_lt hgt]

theorem onesAbove_of_or_pred (hword : word.toNat = 2 ^ place * (2 * rest + 1))
    (hones : (word - BitVec.ofNat width 1) ||| word = BitVec.allOnes width) :
    OnesAbove place word := by
  obtain ⟨hplace, hbelow⟩ := getLsbD_lowest_one hword
  intro bit hbit
  rcases Nat.lt_trichotomy bit place with hlt | rfl | hgt
  · rw [hbelow bit hlt, decide_eq_false (Nat.not_le_of_lt hlt)]
  · rw [hplace, decide_eq_true le_rfl]
  · -- above the lowest one only the word itself can set a bit
    have hset := getLsbD_or_pred hword bit
    rw [hones, BitVec.getLsbD_allOnes, decide_eq_true hbit,
      decide_eq_false (Nat.not_le_of_lt hgt), Bool.false_or] at hset
    rw [← hset, decide_eq_true hgt.le]

theorem or_pred_of_onesAbove {zeros : Nat}
    (hword : word.toNat = 2 ^ place * (2 * rest + 1))
    (hones : OnesAbove zeros word) :
    (word - BitVec.ofNat width 1) ||| word = BitVec.allOnes width := by
  have hplace := (getLsbD_lowest_one hword).1
  -- the zeros end at the lowest one
  have hzeros : zeros ≤ place := by
    have hlowest := hones place (BitVec.lt_of_getLsbD hplace)
    rwa [hplace, eq_comm, decide_eq_true_iff] at hlowest
  apply BitVec.eq_of_getLsbD_eq
  intro bit hbit
  rw [getLsbD_or_pred hword, hones bit hbit, BitVec.getLsbD_allOnes,
    decide_eq_true hbit, Bool.or_eq_true, decide_eq_true_iff,
    decide_eq_true_iff]
  omega

end Word

theorem or_pred_eq_allOnes_iff {width : Nat} (word : BitVec width) :
    (word - BitVec.ofNat width 1) ||| word = BitVec.allOnes width ↔
      ∃ zeros ≤ width, OnesAbove zeros word := by
  by_cases hzero : word.toNat = 0
  · have hword : word = BitVec.ofNat width 0 :=
      BitVec.eq_of_toNat_eq (by simpa using hzero)
    subst hword
    refine iff_of_true (by simp [BitVec.neg_one_eq_allOnes])
      ⟨width, le_rfl, fun bit hbit => ?_⟩
    simp [Nat.not_le_of_lt hbit]
  · obtain ⟨place, odd, ⟨rest, rfl⟩, hword⟩ :=
      Nat.exists_eq_two_pow_mul_odd hzero
    have hplace := (getLsbD_lowest_one hword).1
    constructor
    · intro hones
      exact ⟨place, (BitVec.lt_of_getLsbD hplace).le,
        onesAbove_of_or_pred hword hones⟩
    · rintro ⟨zeros, -, hones⟩
      exact or_pred_of_onesAbove hword hones

end WncFirmware.Foundation
