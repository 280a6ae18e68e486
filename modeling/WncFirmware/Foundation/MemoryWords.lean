import WncFirmware.Foundation.NorFlash

/-!
# Numbers in memory

A number of `count` bytes stands in memory least significant byte first.
Fields of a structure are such numbers at fixed distances from its address.
-/

namespace WncFirmware.Foundation

def loadWord (memory : Memory) : Nat → Nat → Nat
  | _, 0 => 0
  | address, count + 1 =>
      (memory address).toNat + 256 * loadWord memory (address + 1) count

def storeWord (memory : Memory) (address count number : Nat) : Memory :=
  fun place =>
    if address ≤ place ∧ place < address + count then
      byteOf number (place - address)
    else memory place

theorem loadWord_congr {first second : Memory} {address count : Nat}
    (h : AgreeOn address (address + count) first second) :
    loadWord first address count = loadWord second address count := by
  induction count generalizing address with
  | zero => rfl
  | succ count ih =>
      rw [loadWord, loadWord, h address (by omega) (by omega),
        ih (h.mono (by omega) (by omega))]

theorem loadWord_of_bytes {memory : Memory} {address count number : Nat}
    (h : ∀ index < count, memory (address + index) = byteOf number index) :
    loadWord memory address count = number % 256 ^ count := by
  induction count generalizing address number with
  | zero => simp [loadWord, Nat.mod_one]
  | succ count ih =>
      have hfirst := h 0 (by omega)
      have hrest : loadWord memory (address + 1) count =
          number / 256 % 256 ^ count := by
        refine ih fun index hindex => ?_
        rw [Nat.add_assoc, Nat.add_comm 1, h (index + 1) (by omega)]
        simp [byteOf, Nat.pow_succ', Nat.div_div_eq_div_mul]
      rw [Nat.add_zero] at hfirst
      rw [loadWord, hfirst, hrest, toNat_byteOf, Nat.pow_zero, Nat.div_one,
        Nat.pow_succ', Nat.mod_mul]

theorem loadWord_storeWord (memory : Memory) (address count number : Nat) :
    loadWord (storeWord memory address count number) address count =
      number % 256 ^ count := by
  refine loadWord_of_bytes fun index hindex => ?_
  simp [storeWord, hindex]

theorem storeWord_of_outside {memory : Memory} {address count place : Nat}
    (number : Nat) (h : place < address ∨ address + count ≤ place) :
    storeWord memory address count number place = memory place := by
  rw [storeWord, if_neg (by omega)]

theorem loadWord_storeWord_of_apart {memory : Memory}
    {address count other size : Nat} (number : Nat)
    (h : address + count ≤ other ∨ other + size ≤ address) :
    loadWord (storeWord memory other size number) address count =
      loadWord memory address count := by
  refine loadWord_congr fun place hlow hhigh => ?_
  exact storeWord_of_outside number (by omega)

end WncFirmware.Foundation
