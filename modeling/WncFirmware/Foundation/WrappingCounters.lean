import Mathlib.Data.List.Basic

/-!
# Counters that wrap

Two readings of a counter of 32 bits are compared by their difference.  As long
as the counts themselves are less than half a turn apart, that is the order of
the counts.
-/

namespace WncFirmware.Foundation

variable {first second : Nat}

theorem toNat_ofNat_sub (first second : Nat) :
    (UInt32.ofNat first - UInt32.ofNat second).toNat =
      (4294967296 - second % 4294967296 + first % 4294967296) % 4294967296 := by
  simp [UInt32.toNat_sub]

theorem ofNat_sub_lt_half_iff (hfirst : first ≤ second + 0x7ffffffe)
    (hsecond : second ≤ first + 0x7ffffffe) :
    UInt32.ofNat first - UInt32.ofNat second < 0x7fffffff ↔
      second ≤ first := by
  rw [UInt32.lt_iff_toNat_lt, toNat_ofNat_sub]
  change _ < 2147483647 ↔ _
  omega

theorem ofNat_sub_eq_zero_iff (hfirst : first ≤ second + 0x7ffffffe)
    (hsecond : second ≤ first + 0x7ffffffe) :
    UInt32.ofNat first - UInt32.ofNat second = 0 ↔ first = second := by
  rw [← UInt32.toNat_inj, toNat_ofNat_sub]
  change _ = 0 ↔ _
  omega

theorem ofNat_add_ofNat (count : Nat) (tick : UInt32) :
    UInt32.ofNat count + tick = UInt32.ofNat (count + tick.toNat) := by
  rw [← UInt32.toNat_inj]
  simp

end WncFirmware.Foundation
