import Mathlib.Data.List.Basic
import Mathlib.Tactic.Ring

/-!
# Byte strings

Byte strings are lists of `UInt8`.  A C buffer that was cleared before it was
filled is read with `byteAt`, which gives zero behind the filled part.  Numbers
are laid out in memory least significant byte first, and on the wire most
significant byte first.
-/

namespace WncFirmware.Foundation

abbrev Bytes := List UInt8

/-- The byte at `index` of a cleared buffer that holds `bytes` at its start. -/
def byteAt (bytes : Bytes) (index : Nat) : UInt8 := bytes.getD index 0

theorem byteAt_append_left {front : Bytes} {index : Nat} (back : Bytes)
    (h : index < front.length) :
    byteAt (front ++ back) index = byteAt front index := by
  simp [byteAt, List.getElem?_append_left h]

theorem byteAt_append_right (front back : Bytes) (index : Nat) :
    byteAt (front ++ back) (front.length + index) = byteAt back index := by
  simp [byteAt, List.getElem?_append_right]

theorem byteAt_of_length_le {bytes : Bytes} {index : Nat}
    (h : bytes.length ≤ index) : byteAt bytes index = 0 := by
  simp [byteAt, h]

theorem lt_length_of_byteAt_ne_zero (bytes : Bytes) (index : Nat)
    (h : byteAt bytes index ≠ 0) : index < bytes.length := by
  by_contra hlength
  exact h (byteAt_of_length_le (by omega))

@[simp] theorem byteAt_cons_zero (byte : UInt8) (bytes : Bytes) :
    byteAt (byte :: bytes) 0 = byte := rfl

@[simp] theorem byteAt_cons_succ (byte : UInt8) (bytes : Bytes) (index : Nat) :
    byteAt (byte :: bytes) (index + 1) = byteAt bytes index := rfl

theorem bytes_ext {first second : Bytes} (hlength : first.length = second.length)
    (h : ∀ index, index < first.length →
      byteAt first index = byteAt second index) : first = second := by
  apply List.ext_getElem hlength
  intro index hfirst hsecond
  simpa [byteAt, List.getD_eq_getElem?_getD, hfirst, hsecond] using
    h index hfirst

def slice (bytes : Bytes) (index count : Nat) : Bytes :=
  (List.range count).map fun offset => byteAt bytes (index + offset)

@[simp] theorem length_slice (bytes : Bytes) (index count : Nat) :
    (slice bytes index count).length = count := by
  simp [slice]

theorem byteAt_slice {index count offset : Nat} (bytes : Bytes)
    (h : offset < count) :
    byteAt (slice bytes index count) offset = byteAt bytes (index + offset) := by
  simp [slice, byteAt, List.getD_eq_getElem?_getD, h]

theorem slice_append (front middle back : Bytes) :
    slice (front ++ (middle ++ back)) front.length middle.length = middle := by
  apply List.ext_getElem (by simp)
  intro offset _ hoffset
  simp only [slice, List.getElem_map, List.getElem_range]
  rw [byteAt_append_right, byteAt_append_left back hoffset]
  simp [byteAt, hoffset]

/-! ## Numbers on the wire -/

def bigEndian16 (high low : UInt8) : Nat := high.toNat * 256 + low.toNat

def bigEndian32 (first second third fourth : UInt8) : UInt32 :=
  UInt32.ofNat (((first.toNat * 256 + second.toNat) * 256 + third.toNat) * 256 +
    fourth.toNat)

/-! ## Numbers in memory -/

def byteOf (number index : Nat) : UInt8 := UInt8.ofNat (number / 256 ^ index)

def littleEndian16 (number : UInt16) : Bytes :=
  [byteOf number.toNat 0, byteOf number.toNat 1]

def littleEndian32 (number : UInt32) : Bytes :=
  [byteOf number.toNat 0, byteOf number.toNat 1, byteOf number.toNat 2,
    byteOf number.toNat 3]

def read16 (bytes : Bytes) (index : Nat) : UInt16 :=
  UInt16.ofNat ((byteAt bytes index).toNat +
    256 * (byteAt bytes (index + 1)).toNat)

def read32 (bytes : Bytes) (index : Nat) : UInt32 :=
  UInt32.ofNat ((byteAt bytes index).toNat +
    256 * ((byteAt bytes (index + 1)).toNat +
      256 * ((byteAt bytes (index + 2)).toNat +
        256 * (byteAt bytes (index + 3)).toNat)))

theorem toNat_byteOf (number index : Nat) :
    (byteOf number index).toNat = number / 256 ^ index % 256 := by
  simp [byteOf]

theorem bigEndian32_byteOf (number : UInt32) :
    bigEndian32 (byteOf number.toNat 3) (byteOf number.toNat 2)
      (byteOf number.toNat 1) (byteOf number.toNat 0) = number := by
  have hlt := number.toNat_lt
  apply UInt32.toNat_inj.mp
  rw [bigEndian32, toNat_byteOf, toNat_byteOf, toNat_byteOf, toNat_byteOf,
    UInt32.toNat_ofNat']
  omega

theorem read16_of_bytes {bytes : Bytes} {index : Nat} {number : UInt16}
    (hlow : byteAt bytes index = byteOf number.toNat 0)
    (hhigh : byteAt bytes (index + 1) = byteOf number.toNat 1) :
    read16 bytes index = number := by
  have hlt := number.toNat_lt
  apply UInt16.toNat_inj.mp
  rw [read16, hlow, hhigh, toNat_byteOf, toNat_byteOf, UInt16.toNat_ofNat']
  omega

theorem read32_of_bytes {bytes : Bytes} {index : Nat} {number : UInt32}
    (hfirst : byteAt bytes index = byteOf number.toNat 0)
    (hsecond : byteAt bytes (index + 1) = byteOf number.toNat 1)
    (hthird : byteAt bytes (index + 2) = byteOf number.toNat 2)
    (hfourth : byteAt bytes (index + 3) = byteOf number.toNat 3) :
    read32 bytes index = number := by
  have hlt := number.toNat_lt
  apply UInt32.toNat_inj.mp
  rw [read32, hfirst, hsecond, hthird, hfourth, toNat_byteOf, toNat_byteOf,
    toNat_byteOf, toNat_byteOf, UInt32.toNat_ofNat']
  omega

/-! ## Text -/

def ascii (text : String) : Bytes :=
  text.toList.map fun char => UInt8.ofNat char.toNat

/-- A C string ends at the first zero byte. -/
def cString (bytes : Bytes) : Bytes := bytes.takeWhile (· != 0)

theorem length_cString_lt {bytes : Bytes} (h : 0 ∈ bytes) :
    (cString bytes).length < bytes.length := by
  induction bytes with
  | nil => cases h
  | cons byte rest ih =>
      by_cases hbyte : byte = 0
      · simp [cString, hbyte]
      · have hrest : 0 ∈ rest := by
          simpa [Ne.symm hbyte] using h
        simpa [cString, hbyte] using ih hrest

end WncFirmware.Foundation
