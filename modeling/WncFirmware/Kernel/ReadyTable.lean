import Mathlib.Data.Nat.Bitwise
import Mathlib.Tactic.IntervalCases
import WncFirmware.Foundation.BitSearch

/-!
# The ready bits of the scheduler

`__rt_ffs` and the bit maps of `scheduler.c`: one word with a bit for each
priority up to 32 priorities, a word of groups over a table of bytes above.
The configured number of priorities is a parameter.
-/

namespace WncFirmware.Kernel

open WncFirmware.Foundation

/-! ## `__rt_ffs` -/

def lowestBitBitmap : List Nat :=
  [0, 0, 1, 0, 2, 0, 1, 0, 3, 0, 1, 0, 2, 0, 1, 0,
   4, 0, 1, 0, 2, 0, 1, 0, 3, 0, 1, 0, 2, 0, 1, 0,
   5, 0, 1, 0, 2, 0, 1, 0, 3, 0, 1, 0, 2, 0, 1, 0,
   4, 0, 1, 0, 2, 0, 1, 0, 3, 0, 1, 0, 2, 0, 1, 0,
   6, 0, 1, 0, 2, 0, 1, 0, 3, 0, 1, 0, 2, 0, 1, 0,
   4, 0, 1, 0, 2, 0, 1, 0, 3, 0, 1, 0, 2, 0, 1, 0,
   5, 0, 1, 0, 2, 0, 1, 0, 3, 0, 1, 0, 2, 0, 1, 0,
   4, 0, 1, 0, 2, 0, 1, 0, 3, 0, 1, 0, 2, 0, 1, 0,
   7, 0, 1, 0, 2, 0, 1, 0, 3, 0, 1, 0, 2, 0, 1, 0,
   4, 0, 1, 0, 2, 0, 1, 0, 3, 0, 1, 0, 2, 0, 1, 0,
   5, 0, 1, 0, 2, 0, 1, 0, 3, 0, 1, 0, 2, 0, 1, 0,
   4, 0, 1, 0, 2, 0, 1, 0, 3, 0, 1, 0, 2, 0, 1, 0,
   6, 0, 1, 0, 2, 0, 1, 0, 3, 0, 1, 0, 2, 0, 1, 0,
   4, 0, 1, 0, 2, 0, 1, 0, 3, 0, 1, 0, 2, 0, 1, 0,
   5, 0, 1, 0, 2, 0, 1, 0, 3, 0, 1, 0, 2, 0, 1, 0,
   4, 0, 1, 0, 2, 0, 1, 0, 3, 0, 1, 0, 2, 0, 1, 0]

def rtFfs (value : BitVec 32) : Nat :=
  if value = 0 then 0
  else if value &&& 0xff#32 ≠ 0 then
    lowestBitBitmap.getD (value &&& 0xff#32).toNat 0 + 1
  else if value &&& 0xff00#32 ≠ 0 then
    lowestBitBitmap.getD ((value &&& 0xff00#32) >>> 8).toNat 0 + 9
  else if value &&& 0xff0000#32 ≠ 0 then
    lowestBitBitmap.getD ((value &&& 0xff0000#32) >>> 16).toNat 0 + 17
  else
    lowestBitBitmap.getD ((value &&& 0xff000000#32) >>> 24).toNat 0 + 25

/-! ## Priority masks and the bit maps -/

/-- The fields of `struct rt_thread` that say where the priority is marked. -/
structure PriorityMasks where
  number : Nat := 0
  numberMask : BitVec 32 := 0
  highMask : BitVec 8 := 0
  deriving DecidableEq

/-- "Calculate priority attribute". -/
def priorityMasks (priorityMax priority : Nat) : PriorityMasks :=
  if 32 < priorityMax then
    { number := priority >>> 3
      numberMask := 1#32 <<< (priority >>> 3)
      highMask := 1#8 <<< (priority &&& 0x07) }
  else
    { numberMask := 1#32 <<< priority }

/-- `rt_thread_ready_priority_group` and `rt_thread_ready_table`. -/
structure ReadyMap where
  group : BitVec 32 := 0
  table : Nat → BitVec 8 := fun _ => 0

namespace ReadyMap

def mark (priorityMax : Nat) (map : ReadyMap) (masks : PriorityMasks) :
    ReadyMap :=
  if 32 < priorityMax then
    { group := map.group ||| masks.numberMask
      table := Function.update map.table masks.number
        (map.table masks.number ||| masks.highMask) }
  else
    { map with group := map.group ||| masks.numberMask }

def unmark (priorityMax : Nat) (map : ReadyMap)
    (masks : PriorityMasks) : ReadyMap :=
  if 32 < priorityMax then
    let left := map.table masks.number &&& ~~~masks.highMask
    { group :=
        if left = 0 then map.group &&& ~~~masks.numberMask else map.group
      table := Function.update map.table masks.number left }
  else
    { map with group := map.group &&& ~~~masks.numberMask }

/-- The index of the first one in unsigned arithmetic; an empty word gives the
largest number. -/
def firstIndex (value : BitVec 32) : Nat :=
  (rtFfs value + (2 ^ 32 - 1)) % 2 ^ 32

/-- `highest_ready_priority`; nothing when the table is read past its end. -/
def highest (priorityMax : Nat) (map : ReadyMap) : Option Nat :=
  if priorityMax ≤ 32 then
    some (firstIndex map.group)
  else
    let number := firstIndex map.group
    if number < 32 then
      some (((number <<< 3) + rtFfs ((map.table number).setWidth 32) +
        (2 ^ 32 - 1)) % 2 ^ 32)
    else none

end ReadyMap

/-! ## The first one of a word -/

def byteAt (value : BitVec 32) (number : Nat) : Nat :=
  (value.toNat >>> (8 * number)) &&& 255

theorem lowestBitBitmap_spec : ∀ byte < 256, byte ≠ 0 →
    lowestBitBitmap.getD byte 0 < 8 ∧
      byte.testBit (lowestBitBitmap.getD byte 0) = true ∧
      ∀ lower < lowestBitBitmap.getD byte 0, ¬ byte.testBit lower = true := by
  decide +kernel

theorem byteAt_lt (value : BitVec 32) (number : Nat) :
    byteAt value number < 256 :=
  Nat.lt_of_le_of_lt Nat.and_le_right (by decide)

theorem byteAt_testBit (value : BitVec 32) (number : Nat) {offset : Nat}
    (hoffset : offset < 8) :
    (byteAt value number).testBit offset =
      value.getLsbD (8 * number + offset) := by
  have hmask : (255 : Nat).testBit offset = true := by
    have := Nat.testBit_two_pow_sub_one 8 offset
    simpa [hoffset] using this
  rw [byteAt, Nat.testBit_and, hmask, Nat.testBit_shiftRight, Bool.and_true,
    BitVec.testBit_toNat]

theorem exists_bit_of_byteAt_ne_zero {value : BitVec 32} {number : Nat}
    (h : byteAt value number ≠ 0) :
    ∃ offset < 8, value.getLsbD (8 * number + offset) = true := by
  obtain ⟨hlt, hbit, _⟩ :=
    lowestBitBitmap_spec _ (byteAt_lt value number) h
  exact ⟨_, hlt, by rw [← byteAt_testBit value number hlt]; exact hbit⟩

theorem byte_lowest {value : BitVec 32} {number : Nat}
    (h : byteAt value number ≠ 0)
    (hlower : ∀ lower < number, byteAt value lower = 0) :
    lowestBitBitmap.getD (byteAt value number) 0 < 8 ∧
      Lowest (fun place => value.getLsbD place = true)
        (8 * number + lowestBitBitmap.getD (byteAt value number) 0) := by
  obtain ⟨hlt, hbit, hclear⟩ :=
    lowestBitBitmap_spec _ (byteAt_lt value number) h
  refine ⟨hlt, Lowest.of_group hlt ⟨?_, ?_⟩ ⟨?_, ?_⟩⟩
  · exact exists_bit_of_byteAt_ne_zero h
  · rintro lower hlt' ⟨offset, hoffset, hmarked⟩
    rw [← byteAt_testBit value lower hoffset, hlower lower hlt'] at hmarked
    simp at hmarked
  · rw [← byteAt_testBit value number hlt]
    exact hbit
  · intro lower hlt'
    rw [← byteAt_testBit value number (by omega)]
    exact hclear lower hlt'

theorem masked_toNat (value : BitVec 32) {mask : BitVec 32} {number : Nat}
    (hmask : mask.toNat = 255 <<< (8 * number)) :
    (value &&& mask).toNat = byteAt value number <<< (8 * number) := by
  rw [BitVec.toNat_and, hmask, and_shiftLeft_eq, byteAt]

theorem masked_ne_zero_iff (value : BitVec 32) {mask : BitVec 32}
    {number : Nat} (hmask : mask.toNat = 255 <<< (8 * number)) :
    value &&& mask ≠ 0 ↔ byteAt value number ≠ 0 := by
  rw [not_iff_not, ← BitVec.toNat_inj, masked_toNat value hmask]
  simp [Nat.shiftLeft_eq_zero_iff]

theorem masked_shift (value : BitVec 32) {mask : BitVec 32} {number : Nat}
    (hmask : mask.toNat = 255 <<< (8 * number)) :
    ((value &&& mask) >>> (8 * number)).toNat = byteAt value number := by
  rw [BitVec.toNat_ushiftRight, masked_toNat value hmask,
    Nat.shiftLeft_shiftRight]

theorem eq_zero_of_bytes {value : BitVec 32}
    (h : ∀ number < 4, byteAt value number = 0) : value = 0 := by
  apply BitVec.eq_of_getLsbD_eq
  intro place hplace
  have hbyte := h (place / 8) (by omega)
  have hbit := byteAt_testBit value (place / 8)
    (Nat.mod_lt place (by decide : 0 < 8))
  rw [Nat.div_add_mod, hbyte] at hbit
  simpa using hbit.symm

theorem rtFfs_eq (value : BitVec 32) :
    rtFfs value =
      if value = 0 then 0
      else if byteAt value 0 ≠ 0 then
        lowestBitBitmap.getD (byteAt value 0) 0 + 1
      else if byteAt value 1 ≠ 0 then
        lowestBitBitmap.getD (byteAt value 1) 0 + 9
      else if byteAt value 2 ≠ 0 then
        lowestBitBitmap.getD (byteAt value 2) 0 + 17
      else lowestBitBitmap.getD (byteAt value 3) 0 + 25 := by
  have mask0 : (0xff#32).toNat = 255 <<< (8 * 0) := by decide
  have mask1 : (0xff00#32).toNat = 255 <<< (8 * 1) := by decide
  have mask2 : (0xff0000#32).toNat = 255 <<< (8 * 2) := by decide
  have mask3 : (0xff000000#32).toNat = 255 <<< (8 * 3) := by decide
  have byte0 : (value &&& 0xff#32).toNat = byteAt value 0 :=
    masked_shift value mask0
  have byte1 : ((value &&& 0xff00#32) >>> 8).toNat = byteAt value 1 :=
    masked_shift value mask1
  have byte2 : ((value &&& 0xff0000#32) >>> 16).toNat = byteAt value 2 :=
    masked_shift value mask2
  have byte3 : ((value &&& 0xff000000#32) >>> 24).toNat = byteAt value 3 :=
    masked_shift value mask3
  simp only [rtFfs, masked_ne_zero_iff value mask0,
    masked_ne_zero_iff value mask1, masked_ne_zero_iff value mask2, byte0,
    byte1, byte2, byte3]

theorem rtFfs_lowest {value : BitVec 32} (h : value ≠ 0) :
    ∃ place < 32, rtFfs value = place + 1 ∧
      Lowest (fun place => value.getLsbD place = true) place := by
  have hfirst (number : Nat) (hnumber : number < 4)
      (hbyte : byteAt value number ≠ 0)
      (hlower : ∀ lower < number, byteAt value lower = 0)
      (hffs : rtFfs value =
        lowestBitBitmap.getD (byteAt value number) 0 + (8 * number + 1)) :
      ∃ place < 32, rtFfs value = place + 1 ∧
        Lowest (fun place => value.getLsbD place = true) place := by
    obtain ⟨hlt, hlowest⟩ := byte_lowest hbyte hlower
    exact ⟨_, by omega, by omega, hlowest⟩
  have hffs := rtFfs_eq value
  rw [if_neg h] at hffs
  by_cases h0 : byteAt value 0 = 0
  · by_cases h1 : byteAt value 1 = 0
    · by_cases h2 : byteAt value 2 = 0
      · -- three empty bytes leave the highest
        have h3 : byteAt value 3 ≠ 0 := by
          intro h3
          refine h (eq_zero_of_bytes fun number hnumber => ?_)
          interval_cases number <;> assumption
        refine hfirst 3 (by decide) h3 ?_ (by simpa [h0, h1, h2] using hffs)
        intro lower hlower
        interval_cases lower <;> assumption
      · refine hfirst 2 (by decide) h2 ?_ (by simpa [h0, h1, h2] using hffs)
        intro lower hlower
        interval_cases lower <;> assumption
    · refine hfirst 1 (by decide) h1 ?_ (by simpa [h0, h1] using hffs)
      intro lower hlower
      interval_cases lower
      assumption
  · refine hfirst 0 (by decide) h0 ?_ (by simpa [h0] using hffs)
    intro lower hlower
    omega

/-! ## What the bit maps mean -/

structure Marks (priorityMax : Nat) (map : ReadyMap) (ready : Nat → Prop) :
    Prop where
  bounded : ∀ priority, ready priority → priority < priorityMax
  narrow : priorityMax ≤ 32 → ∀ priority,
    map.group.getLsbD priority = true ↔ ready priority
  wide : 32 < priorityMax → ∀ number, ∀ offset < 8,
    (map.table number).getLsbD offset = true ↔ ready (8 * number + offset)
  groups : 32 < priorityMax → ∀ number,
    map.group.getLsbD number = true ↔ ∃ offset < 8, ready (8 * number + offset)

theorem one_shiftLeft_getLsbD {width place : Nat} (hplace : place < width)
    (other : Nat) :
    (BitVec.ofNat width 1 <<< place).getLsbD other = true ↔ other = place := by
  rw [← BitVec.twoPow_eq, BitVec.getLsbD_twoPow]
  simp [hplace, eq_comm]

theorem priorityMasks_narrow {priorityMax priority : Nat}
    (hmax : priorityMax ≤ 32) :
    priorityMasks priorityMax priority =
      { numberMask := 1#32 <<< priority } := by
  rw [priorityMasks, if_neg (by omega)]

theorem priorityMasks_wide {priorityMax : Nat} (priority : Nat)
    (hmax : 32 < priorityMax) :
    priorityMasks priorityMax priority =
      { number := priority / 8
        numberMask := 1#32 <<< (priority / 8)
        highMask := 1#8 <<< (priority % 8) } := by
  have hshift : priority >>> 3 = priority / 8 :=
    Nat.shiftRight_eq_div_pow priority 3
  have hand : priority &&& 0x07 = priority % 8 :=
    Nat.and_two_pow_sub_one_eq_mod priority 3
  rw [priorityMasks, if_pos hmax, hshift, hand]

theorem exists_getLsbD_of_ne_zero {width : Nat} {word : BitVec width}
    (h : word ≠ 0) : ∃ place < width, word.getLsbD place = true := by
  by_contra hnone
  refine h (BitVec.eq_of_getLsbD_eq fun place hplace => ?_)
  simp only [not_exists, not_and, Bool.not_eq_true] at hnone
  simpa using hnone place hplace

theorem ne_zero_of_bit {width place : Nat} {word : BitVec width}
    (h : word.getLsbD place = true) : word ≠ 0 := by
  rintro rfl
  simp at h

namespace Marks

variable {priorityMax : Nat} {map : ReadyMap} {ready : Nat → Prop}
  {priority : Nat}

theorem empty : Marks priorityMax {} (fun _ => False) :=
  ⟨by simp, by simp, by simp, by simp⟩

theorem congr {other : Nat → Prop} (h : Marks priorityMax map ready)
    (hsame : ∀ priority, ready priority ↔ other priority) :
    Marks priorityMax map other := by
  have : ready = other := funext fun priority => propext (hsame priority)
  exact this ▸ h

theorem mark (h : Marks priorityMax map ready) (hmax : priorityMax ≤ 256)
    (hpriority : priority < priorityMax) :
    Marks priorityMax
      (map.mark priorityMax (priorityMasks priorityMax priority))
      (fun other => other = priority ∨ ready other) := by
  refine ⟨?_, ?_, ?_, ?_⟩
  · rintro other (rfl | hready)
    · exact hpriority
    · exact h.bounded other hready
  · intro hnarrow other
    rw [ReadyMap.mark, if_neg (by omega), priorityMasks_narrow hnarrow,
      BitVec.getLsbD_or, Bool.or_eq_true, h.narrow hnarrow,
      one_shiftLeft_getLsbD (by omega), or_comm]
  · intro hwide number offset hoffset
    rw [ReadyMap.mark, if_pos hwide, priorityMasks_wide priority hwide]
    simp only
    by_cases hnumber : number = priority / 8
    · subst hnumber
      rw [Function.update_self, BitVec.getLsbD_or, Bool.or_eq_true,
        h.wide hwide _ offset hoffset,
        one_shiftLeft_getLsbD (Nat.mod_lt _ (by decide)), or_comm]
      exact or_congr_left (by omega)
    · rw [Function.update_of_ne hnumber, h.wide hwide number offset hoffset]
      refine ⟨Or.inr, fun hready => hready.resolve_left ?_⟩
      omega
  · intro hwide number
    rw [ReadyMap.mark, if_pos hwide, priorityMasks_wide priority hwide,
      BitVec.getLsbD_or, Bool.or_eq_true, h.groups hwide,
      one_shiftLeft_getLsbD (by omega)]
    constructor
    · rintro (⟨offset, hoffset, hready⟩ | rfl)
      · exact ⟨offset, hoffset, .inr hready⟩
      · exact ⟨priority % 8, Nat.mod_lt _ (by decide), .inl (by omega)⟩
    · rintro ⟨offset, hoffset, heq | hready⟩
      · exact .inr (by omega)
      · exact .inl ⟨offset, hoffset, hready⟩

theorem unmark (h : Marks priorityMax map ready) (hmax : priorityMax ≤ 256)
    (hpriority : priority < priorityMax) :
    Marks priorityMax
      (map.unmark priorityMax (priorityMasks priorityMax priority))
      (fun other => other ≠ priority ∧ ready other) := by
  have hleft (hwide : 32 < priorityMax) {offset : Nat} (hoffset : offset < 8) :
      (map.table (priority / 8) &&&
          ~~~(1#8 <<< (priority % 8))).getLsbD offset = true ↔
        8 * (priority / 8) + offset ≠ priority ∧
          ready (8 * (priority / 8) + offset) := by
    rw [BitVec.getLsbD_and, Bool.and_eq_true, BitVec.getLsbD_not,
      h.wide hwide _ offset hoffset, decide_eq_true hoffset, Bool.true_and,
      Bool.not_eq_true', ← Bool.not_eq_true,
      one_shiftLeft_getLsbD (Nat.mod_lt _ (by decide)), and_comm]
    exact and_congr_left fun _ => by omega
  refine ⟨fun other hready => h.bounded other hready.2, ?_, ?_, ?_⟩
  · intro hnarrow other
    rw [ReadyMap.unmark, if_neg (by omega), priorityMasks_narrow hnarrow,
      BitVec.getLsbD_and, Bool.and_eq_true, h.narrow hnarrow,
      BitVec.getLsbD_not]
    constructor
    · rintro ⟨hready, hnot⟩
      refine ⟨?_, hready⟩
      rintro rfl
      have hself : (1#32 <<< other).getLsbD other = true :=
        (one_shiftLeft_getLsbD (by omega) other).mpr rfl
      simp [hself] at hnot
    · rintro ⟨hne, hready⟩
      have hlt := h.bounded other hready
      have hother : ¬ (1#32 <<< priority).getLsbD other = true :=
        (one_shiftLeft_getLsbD (by omega) other).not.mpr hne
      refine ⟨hready, ?_⟩
      simp [hother]
      omega
  · intro hwide number offset hoffset
    rw [ReadyMap.unmark, if_pos hwide, priorityMasks_wide priority hwide]
    simp only
    by_cases hnumber : number = priority / 8
    · subst hnumber
      rw [Function.update_self]
      exact hleft hwide hoffset
    · rw [Function.update_of_ne hnumber, h.wide hwide number offset hoffset]
      refine ⟨fun hready => ⟨by omega, hready⟩, fun hready => hready.2⟩
  · intro hwide number
    rw [ReadyMap.unmark, if_pos hwide, priorityMasks_wide priority hwide]
    simp only
    by_cases hnumber : number = priority / 8
    · subst hnumber
      split
      · next hzero =>
          rw [BitVec.getLsbD_and, BitVec.getLsbD_not,
            (one_shiftLeft_getLsbD (by omega) _).mpr rfl]
          simp only [Bool.not_true, Bool.and_false, Bool.false_eq_true,
            false_iff]
          rintro ⟨offset, hoffset, hready⟩
          have hbit := (hleft hwide hoffset).mpr hready
          simp [hzero] at hbit
      · next hsome =>
          obtain ⟨offset, hoffset, hbit⟩ := exists_getLsbD_of_ne_zero hsome
          have hready := (hleft hwide hoffset).mp hbit
          rw [h.groups hwide]
          exact ⟨fun _ => ⟨offset, hoffset, hready⟩,
            fun _ => ⟨offset, hoffset, hready.2⟩⟩
    · have hkept : (if map.table (priority / 8) &&&
            ~~~(1#8 <<< (priority % 8)) = 0 then
              map.group &&& ~~~(1#32 <<< (priority / 8))
            else map.group).getLsbD number = true ↔
          map.group.getLsbD number = true := by
        split
        · rw [BitVec.getLsbD_and, BitVec.getLsbD_not, Bool.and_eq_true]
          have hother : ¬ (1#32 <<< (priority / 8)).getLsbD number = true :=
            (one_shiftLeft_getLsbD (by omega) number).not.mpr hnumber
          refine ⟨fun hbit => hbit.1, fun hbit => ⟨hbit, ?_⟩⟩
          simp only [hother, Bool.not_false, Bool.and_true, decide_eq_true_eq]
          exact BitVec.lt_of_getLsbD hbit
        · exact Iff.rfl
      rw [hkept, h.groups hwide]
      constructor
      · rintro ⟨offset, hoffset, hready⟩
        exact ⟨offset, hoffset, by omega, hready⟩
      · rintro ⟨offset, hoffset, _, hready⟩
        exact ⟨offset, hoffset, hready⟩

theorem unmark_blank : map.unmark priorityMax {} = map := by
  have hall {width : Nat} (word : BitVec width) : word &&& ~~~0 = word := by
    simp
  rw [ReadyMap.unmark]
  split
  · simp only [hall, ite_self, Function.update_eq_self]
  · simp only [hall]

theorem firstIndex_eq {value : BitVec 32} {place : Nat} (hplace : place < 32)
    (h : rtFfs value = place + 1) : ReadyMap.firstIndex value = place := by
  rw [ReadyMap.firstIndex, h]
  omega

theorem highest (h : Marks priorityMax map ready) (hmax : priorityMax ≤ 256)
    (hready : ready priority) :
    ∃ first, map.highest priorityMax = some first ∧ Lowest ready first := by
  rw [ReadyMap.highest]
  by_cases hnarrow : priorityMax ≤ 32
  · have hbit := (h.narrow hnarrow priority).mpr hready
    obtain ⟨place, hlt, hffs, hlowest⟩ := rtFfs_lowest (ne_zero_of_bit hbit)
    rw [if_pos hnarrow, firstIndex_eq hlt hffs]
    exact ⟨place, rfl, hlowest.congr fun lower _ => h.narrow hnarrow lower⟩
  · have hwide : 32 < priorityMax := by omega
    have hgroup : map.group.getLsbD (priority / 8) = true :=
      (h.groups hwide _).mpr ⟨priority % 8, Nat.mod_lt _ (by decide), by
        rw [Nat.div_add_mod]
        exact hready⟩
    obtain ⟨number, hlt, hffs, hlowest⟩ := rtFfs_lowest (ne_zero_of_bit hgroup)
    obtain ⟨offset, hoffset, hmarked⟩ :=
      (h.groups hwide number).mp hlowest.here
    have hbyte : ((map.table number).setWidth 32).getLsbD offset = true := by
      rw [BitVec.getLsbD_setWidth, (h.wide hwide number offset hoffset).mpr
        hmarked, decide_eq_true (by omega), Bool.true_and]
    obtain ⟨place, _, hplace, hfirst⟩ := rtFfs_lowest (ne_zero_of_bit hbyte)
    have hle : place ≤ offset := hfirst.le hbyte
    rw [if_neg hnarrow, firstIndex_eq hlt hffs, if_pos hlt, hplace]
    refine ⟨8 * number + place, ?_, ?_⟩
    · rw [Nat.shiftLeft_eq]
      rw [Option.some.injEq]
      omega
    · refine Lowest.of_group (by omega)
        (hlowest.congr fun lower _ => h.groups hwide lower)
        (hfirst.congr fun lower hlower => ?_)
      rw [BitVec.getLsbD_setWidth, decide_eq_true (by omega), Bool.true_and]
      exact h.wide hwide number lower (by omega)

end Marks

end WncFirmware.Kernel
