import WncFirmware.Foundation.ShiftRegister
import WncFirmware.Lora.Packets

/-!
# What the CRC of a frame detects

The CRC is a shift register that every byte is added to.  By linearity a frame
with flipped bits passes the check if and only if the contributions of these bits
cancel out.  The bits are numbered in the order in which `crc_calculate` takes
them: the lowest bit of a byte first.
-/

namespace WncFirmware.Lora

open WncFirmware.Foundation

/-! ## The CRC as a shift register -/

def crcPoly : BitVec 16 := 0xa001#16

def addByte (register : BitVec 16) (byte : UInt8) : BitVec 16 :=
  (shiftStep crcPoly)^[8] (register ^^^ byte.toBitVec.setWidth 16)

theorem toBitVec_crcBit (crc : UInt16) :
    (crcBit crc).toBitVec = shiftStep crcPoly crc.toBitVec := by
  have hlow : (crc &&& 1 ≠ 0) ↔ crc.toBitVec.getLsbD 0 = true := by
    rw [ne_eq, ← UInt16.toBitVec_inj, UInt16.toBitVec_and]
    have hand := @BitVec.and_one_eq_setWidth_ofBool_getLsbD 16 crc.toBitVec
    change ¬crc.toBitVec &&& 1#16 = 0#16 ↔ _
    rw [hand]
    cases crc.toBitVec.getLsbD 0 <;> decide
  rw [crcBit, shiftStep]
  by_cases hset : crc &&& 1 ≠ 0
  · rw [if_pos hset, if_pos (hlow.mp hset)]
    rfl
  · rw [if_neg hset, if_neg (mt hlow.mpr hset)]
    rfl

theorem toBitVec_crcByte (crc : UInt16) (byte : UInt8) :
    (crcByte crc byte).toBitVec = addByte crc.toBitVec byte := by
  have hrepeat : ∀ count (crc : UInt16), (Nat.repeat crcBit count crc).toBitVec =
      (shiftStep crcPoly)^[count] crc.toBitVec := by
    intro count crc
    induction count with
    | zero => rfl
    | succ count ih =>
        rw [Nat.repeat, toBitVec_crcBit, ih, Function.iterate_succ_apply']
  rw [crcByte, hrepeat, UInt16.toBitVec_xor]
  rfl

theorem toBitVec_crcCalculate (data : Bytes) (len : Nat) :
    (crcCalculate data len).toBitVec =
      (slice data 0 len).foldl addByte 0xffff#16 := by
  have hfold : ∀ (bytes : Bytes) (crc : UInt16),
      (bytes.foldl crcByte crc).toBitVec =
        bytes.foldl addByte crc.toBitVec := by
    intro bytes crc
    induction bytes generalizing crc with
    | nil => rfl
    | cons byte bytes ih =>
        rw [List.foldl_cons, List.foldl_cons, ih, toBitVec_crcByte]
  exact hfold _ _

/-- A difference in the register is only shifted by the bytes that follow. -/
theorem foldl_addByte_xor (register difference : BitVec 16) (bytes : Bytes) :
    bytes.foldl addByte (register ^^^ difference) =
      bytes.foldl addByte register ^^^
        (shiftStep crcPoly)^[8 * bytes.length] difference := by
  induction bytes generalizing register difference with
  | nil => rfl
  | cons byte bytes ih =>
      have hbyte : addByte (register ^^^ difference) byte =
          addByte register byte ^^^ (shiftStep crcPoly)^[8] difference := by
        rw [addByte, addByte, BitVec.xor_assoc, BitVec.xor_comm difference,
          ← BitVec.xor_assoc, iterate_shiftStep_xor]
      rw [List.foldl_cons, hbyte, ih, List.foldl_cons, List.length_cons,
        Nat.mul_add, Function.iterate_add_apply]

theorem foldl_addByte_modify {index : Nat} (register : BitVec 16)
    {bytes : Bytes} (mask : UInt8) (h : index < bytes.length) :
    (bytes.modify index (· ^^^ mask)).foldl addByte register =
      bytes.foldl addByte register ^^^
        (shiftStep crcPoly)^[8 * (bytes.length - index)]
          (mask.toBitVec.setWidth 16) := by
  induction bytes generalizing index register with
  | nil => exact absurd h (Nat.not_lt_zero _)
  | cons byte bytes ih =>
      cases index with
      | zero =>
          have hbyte : addByte register (byte ^^^ mask) =
              addByte register byte ^^^
                (shiftStep crcPoly)^[8] (mask.toBitVec.setWidth 16) := by
            rw [addByte, addByte, UInt8.toBitVec_xor, BitVec.setWidth_xor,
              ← BitVec.xor_assoc, iterate_shiftStep_xor]
          rw [List.modify_zero_cons, List.foldl_cons, hbyte,
            foldl_addByte_xor, List.foldl_cons, Nat.sub_zero,
            List.length_cons, Nat.mul_add, Function.iterate_add_apply]
      | succ index =>
          rw [List.modify_succ_cons, List.foldl_cons,
            ih _ (Nat.lt_of_succ_lt_succ h), List.foldl_cons,
            List.length_cons, Nat.succ_sub_succ]

/-! ## Flipped bits -/

def flipBit (frame : Bytes) (position : Nat) : Bytes :=
  frame.modify (position / 8) (· ^^^ (1 <<< UInt8.ofNat (position % 8)))

def flipBits (frame : Bytes) (positions : List Nat) : Bytes :=
  positions.foldl flipBit frame

def storedCrc (frame : Bytes) : BitVec 16 :=
  (byteAt frame 10).toBitVec ++ (byteAt frame 11).toBitVec

/-- What the check compares, as one number that is 0 for a correct frame. -/
def syndrome (frame : Bytes) : BitVec 16 :=
  (slice frame 0 10).foldl addByte 0xffff#16 ^^^ storedCrc frame

theorem crcCorrect_iff (pkt : LoraPkt) :
    pkt.crcCorrect = true ↔ syndrome pkt.payload = 0#16 := by
  have hstored : (storedCrc pkt.payload).toNat =
      bigEndian16 (byteAt pkt.payload 10) (byteAt pkt.payload 11) := by
    have hlow := (byteAt pkt.payload 11).toNat_lt
    rw [storedCrc, BitVec.toNat_append, bigEndian16, UInt8.toNat_toBitVec,
      UInt8.toNat_toBitVec, Nat.shiftLeft_eq,
      Nat.mul_comm, ← Nat.two_pow_add_eq_or_of_lt (by omega), Nat.mul_comm]
  rw [LoraPkt.crcCorrect, beq_iff_eq, syndrome, BitVec.xor_eq_zero_iff,
    ← toBitVec_crcCalculate, ← hstored, ← UInt16.toNat_toBitVec,
    BitVec.toNat_inj]

def bitSyndrome (position : Nat) : BitVec 16 :=
  if position < 80 then (shiftStep crcPoly)^[80 - position] 1#16
  else 1#16 <<< ((position - 72) % 16)

theorem slice_eq_take {bytes : Bytes} {count : Nat}
    (h : count ≤ bytes.length) : slice bytes 0 count = bytes.take count := by
  have hslice := slice_append [] (bytes.take count) (bytes.drop count)
  rw [List.nil_append, List.take_append_drop, List.length_nil,
    List.length_take, Nat.min_eq_left h] at hslice
  exact hslice

theorem byteAt_modify (bytes : Bytes) (index other : Nat) (mask : UInt8)
    (h : index < bytes.length) :
    byteAt (bytes.modify index (· ^^^ mask)) other =
      if index = other then byteAt bytes other ^^^ mask
      else byteAt bytes other := by
  simp only [byteAt, List.getD_eq_getElem?_getD, List.getElem?_modify]
  split
  case isTrue hsame =>
    subst hsame
    simp [h]
  case isFalse => simp

theorem toBitVec_bitMask {bit : Nat} (h : bit < 8) :
    ((1 : UInt8) <<< UInt8.ofNat bit).toBitVec.setWidth 16 = 1#16 <<< bit ∧
      ((1 : UInt8) <<< UInt8.ofNat bit).toBitVec ++ 0#8 = 1#16 <<< (bit + 8) ∧
      0#8 ++ ((1 : UInt8) <<< UInt8.ofNat bit).toBitVec = 1#16 <<< bit := by
  have hall : ∀ bit < 8,
      ((1 : UInt8) <<< UInt8.ofNat bit).toBitVec.setWidth 16 = 1#16 <<< bit ∧
      ((1 : UInt8) <<< UInt8.ofNat bit).toBitVec ++ 0#8 = 1#16 <<< (bit + 8) ∧
      0#8 ++ ((1 : UInt8) <<< UInt8.ofNat bit).toBitVec = 1#16 <<< bit := by
    decide
  exact hall bit h

@[simp] theorem length_flipBit (frame : Bytes) (position : Nat) :
    (flipBit frame position).length = frame.length := by
  rw [flipBit, List.length_modify]

theorem foldl_slice_flipBit {frame : Bytes} {position : Nat}
    (hlength : frame.length = 12) (h : position < 80) :
    (slice (flipBit frame position) 0 10).foldl addByte 0xffff#16 =
      (slice frame 0 10).foldl addByte 0xffff#16 ^^^
        (shiftStep crcPoly)^[80 - position] 1#16 := by
  have hbit := Nat.mod_lt position (show 0 < 8 by decide)
  have hindex : position / 8 < (frame.take 10).length := by
    rw [List.length_take]
    omega
  have hten : (frame.take 10).length = 10 := by
    rw [List.length_take]
    omega
  have hsteps : 8 * (10 - position / 8) =
      80 - position + position % 8 := by
    omega
  rw [slice_eq_take (by rw [length_flipBit]; omega), slice_eq_take (by omega),
    flipBit, List.take_modify, foldl_addByte_modify _ _ hindex, hten, (toBitVec_bitMask hbit).1,
    hsteps, Function.iterate_add_apply, iterate_shiftStep_single (by omega)]

theorem byteAt_flipBit {frame : Bytes} {position : Nat}
    (hlength : frame.length = 12) (h : position < 96) (index : Nat) :
    byteAt (flipBit frame position) index =
      if position / 8 = index then
        byteAt frame index ^^^ (1 <<< UInt8.ofNat (position % 8))
      else byteAt frame index :=
  byteAt_modify frame _ index _ (by omega)

theorem slice_flipBit_of_le {frame : Bytes} {position : Nat}
    (hlength : frame.length = 12) (hlow : 80 ≤ position) (h : position < 96) :
    slice (flipBit frame position) 0 10 = slice frame 0 10 := by
  apply List.map_congr_left
  intro index hindex
  rw [List.mem_range] at hindex
  rw [byteAt_flipBit hlength h, if_neg (by omega)]

theorem storedCrc_flipBit {frame : Bytes} {position : Nat}
    (hlength : frame.length = 12) (hlow : 80 ≤ position) (h : position < 96) :
    storedCrc (flipBit frame position) =
      storedCrc frame ^^^ 1#16 <<< ((position - 72) % 16) := by
  obtain ⟨-, hhigh, hlowByte⟩ :=
    toBitVec_bitMask (Nat.mod_lt position (show 0 < 8 by decide))
  rw [storedCrc, byteAt_flipBit hlength h, byteAt_flipBit hlength h, storedCrc]
  by_cases hfirst : position / 8 = 10
  · have hplace : (position - 72) % 16 = position % 8 + 8 := by omega
    rw [if_pos hfirst, if_neg (by omega), hplace, ← hhigh,
      BitVec.xor_append, BitVec.xor_zero, UInt8.toBitVec_xor]
  · have hplace : (position - 72) % 16 = position % 8 := by omega
    rw [if_neg hfirst, if_pos (by omega), hplace, ← hlowByte,
      BitVec.xor_append, BitVec.xor_zero, UInt8.toBitVec_xor]

theorem storedCrc_flipBit_of_lt {frame : Bytes} {position : Nat}
    (hlength : frame.length = 12) (h : position < 80) :
    storedCrc (flipBit frame position) = storedCrc frame := by
  rw [storedCrc, byteAt_flipBit hlength (by omega),
    byteAt_flipBit hlength (by omega), if_neg (by omega), if_neg (by omega),
    storedCrc]

theorem syndrome_flipBit {frame : Bytes} {position : Nat}
    (hlength : frame.length = 12) (h : position < 96) :
    syndrome (flipBit frame position) =
      syndrome frame ^^^ bitSyndrome position := by
  rw [syndrome, syndrome, bitSyndrome]
  by_cases hdata : position < 80
  · rw [if_pos hdata, foldl_slice_flipBit hlength hdata,
      storedCrc_flipBit_of_lt hlength hdata, BitVec.xor_assoc,
      BitVec.xor_comm _ (storedCrc frame), ← BitVec.xor_assoc]
  · rw [if_neg hdata, slice_flipBit_of_le hlength (by omega) h,
      storedCrc_flipBit hlength (by omega) h, BitVec.xor_assoc]

def totalSyndrome (positions : List Nat) : BitVec 16 :=
  positions.foldr (fun position total => bitSyndrome position ^^^ total) 0#16

theorem syndrome_flipBits {frame : Bytes} {positions : List Nat}
    (hlength : frame.length = 12)
    (h : ∀ position ∈ positions, position < 96) :
    syndrome (flipBits frame positions) =
      syndrome frame ^^^ totalSyndrome positions := by
  induction positions generalizing frame with
  | nil =>
      rw [totalSyndrome, List.foldr_nil, BitVec.xor_zero]
      rfl
  | cons position positions ih =>
      have hfirst := syndrome_flipBit hlength (h position List.mem_cons_self)
      have hlater := ih ((length_flipBit frame position).trans hlength)
        fun other hmem => h other (List.mem_cons_of_mem _ hmem)
      rw [totalSyndrome, List.foldr_cons, ← BitVec.xor_assoc, ← hfirst]
      exact hlater

/-! ## Contributions that do not cancel out -/

theorem crcPoly_msb : crcPoly.msb = true := by decide

theorem parity_crcPoly : parity crcPoly = 1 := by decide

theorem iterate_shiftStep_one_ne {steps : Nat} (hpos : 0 < steps)
    (h : steps < 96) : (shiftStep crcPoly)^[steps] 1#16 ≠ 1#16 := by
  have hall : ∀ steps < 96, 0 < steps →
      (shiftStep crcPoly)^[steps] 1#16 ≠ 1#16 := by
    decide +kernel
  exact hall steps h hpos

theorem parity_bitSyndrome (position : Nat) :
    parity (bitSyndrome position) = 1 := by
  have hone : parity (1#16) = 1 := by decide
  rw [bitSyndrome]
  split
  · rw [parity_iterate_shiftStep parity_crcPoly, hone]
  · exact parity_single (Nat.mod_lt _ (by decide))

theorem bitSyndrome_ne_of_lt {first second : Nat} (hlt : first < second)
    (h : second < 96) : bitSyndrome first ≠ bitSyndrome second := by
  intro hsame
  rw [bitSyndrome, bitSyndrome] at hsame
  by_cases hdata : second < 80
  · rw [if_pos (by omega), if_pos hdata,
      show 80 - first = (80 - second) + (second - first) by omega,
      Function.iterate_add_apply] at hsame
    exact iterate_shiftStep_one_ne (by omega) (by omega)
      (iterate_shiftStep_inj crcPoly_msb _ hsame)
  · have hplace : (second - 72) % 16 < 16 := Nat.mod_lt _ (by decide)
    rw [if_neg hdata] at hsame
    by_cases hfirst : first < 80
    · -- the stored bit is shifted to the lowest place, and the other one with it
      have hshifted := congrArg
        ((shiftStep crcPoly)^[(second - 72) % 16]) hsame
      rw [if_pos hfirst, ← Function.iterate_add_apply,
        iterate_shiftStep_single hplace] at hshifted
      exact iterate_shiftStep_one_ne (by omega) (by omega) hshifted
    · rw [if_neg hfirst] at hsame
      have hbit := congrArg (·.getLsbD ((second - 72) % 16)) hsame
      rw [getLsbD_single (Nat.mod_lt _ (by decide)), getLsbD_single hplace,
        decide_eq_true rfl, decide_eq_true_iff] at hbit
      omega

theorem bitSyndrome_ne {first second : Nat} (hne : first ≠ second)
    (hfirst : first < 96) (hsecond : second < 96) :
    bitSyndrome first ≠ bitSyndrome second := by
  rcases Nat.lt_or_gt_of_ne hne with hlt | hlt
  · exact bitSyndrome_ne_of_lt hlt hsecond
  · exact (bitSyndrome_ne_of_lt hlt hfirst).symm

theorem parity_totalSyndrome (positions : List Nat) :
    parity (totalSyndrome positions) = (positions.length : ZMod 2) := by
  induction positions with
  | nil => exact parity_zero
  | cons position positions ih =>
      calc
        parity (totalSyndrome (position :: positions)) =
            parity (bitSyndrome position) + parity (totalSyndrome positions) :=
          parity_xor _ _
        _ = 1 + (positions.length : ZMod 2) := by
          rw [parity_bitSyndrome, ih]
        _ = ((position :: positions).length : ZMod 2) := by
          rw [List.length_cons, Nat.cast_add, Nat.cast_one, add_comm]

theorem totalSyndrome_few {positions : List Nat} (hnodup : positions.Nodup)
    (hne : positions ≠ []) (hfew : positions.length ≤ 3)
    (h : ∀ position ∈ positions, position < 96) :
    totalSyndrome positions ≠ 0#16 := by
  intro hzero
  -- every bit contributes an odd pattern, so only two of them can cancel out
  have hparity : (positions.length : ZMod 2) = 0 := by
    rw [← parity_totalSyndrome, hzero, parity_zero]
  have heven : 2 ∣ positions.length :=
    (ZMod.natCast_eq_zero_iff _ _).mp hparity
  have hpos := List.length_pos_of_ne_nil hne
  have htwo : positions.length = 2 := by omega
  obtain ⟨first, second, rfl⟩ := List.length_eq_two.mp htwo
  have hdistinct : first ≠ second := by simpa using hnodup
  have hsame : bitSyndrome first = bitSyndrome second := by
    simpa only [totalSyndrome, List.foldr_cons, List.foldr_nil,
      BitVec.xor_zero, BitVec.xor_eq_zero_iff] using hzero
  exact bitSyndrome_ne hdistinct (h first (by simp)) (h second (by simp)) hsame

/-! ## Bursts -/

def burstPattern (start : Nat) (positions : List Nat) : BitVec 16 :=
  positions.foldr (fun position pattern =>
    1#16 <<< (position - start) ^^^ pattern) 0#16

theorem getLsbD_burstPattern {start bit : Nat} {positions : List Nat}
    (hnodup : positions.Nodup)
    (h : ∀ position ∈ positions, start ≤ position ∧ position < start + 16) :
    (burstPattern start positions).getLsbD bit =
      decide (start + bit ∈ positions) := by
  induction positions with
  | nil => simp [burstPattern]
  | cons position positions ih =>
      obtain ⟨hfresh, hnodup⟩ := List.nodup_cons.mp hnodup
      obtain ⟨hlow, hhigh⟩ := h position List.mem_cons_self
      have hlater := ih hnodup fun other hmem =>
        h other (List.mem_cons_of_mem _ hmem)
      rw [burstPattern, List.foldr_cons, BitVec.getLsbD_xor,
        getLsbD_single (by omega)]
      rw [burstPattern] at hlater
      rw [hlater]
      by_cases hsame : start + bit = position
      · have hbit : bit = position - start := by omega
        rw [hsame, decide_eq_true hbit, decide_eq_false hfresh,
          decide_eq_true List.mem_cons_self]
        rfl
      · have hbit : ¬bit = position - start := by omega
        simp [hsame, hbit]

theorem totalSyndrome_burst {start : Nat} {positions : List Nat}
    (hstart : start ≤ 64)
    (h : ∀ position ∈ positions, start ≤ position ∧ position < start + 16) :
    totalSyndrome positions =
      (shiftStep crcPoly)^[80 - start] (burstPattern start positions) := by
  induction positions with
  | nil => exact (iterate_shiftStep_zero _).symm
  | cons position positions ih =>
      obtain ⟨hlow, hhigh⟩ := h position List.mem_cons_self
      have hlater := ih fun other hmem => h other (List.mem_cons_of_mem _ hmem)
      have hbit : bitSyndrome position =
          (shiftStep crcPoly)^[80 - start] (1#16 <<< (position - start)) := by
        rw [bitSyndrome, if_pos (by omega),
          show 80 - start = (80 - position) + (position - start) by omega,
          Function.iterate_add_apply, iterate_shiftStep_single (by omega)]
      rw [burstPattern, List.foldr_cons, iterate_shiftStep_xor, ← hbit,
        totalSyndrome, List.foldr_cons]
      rw [totalSyndrome, burstPattern] at hlater
      rw [hlater]

/-- At most 16 bits apart, all of them in the first ten bytes. -/
def IsBurst (positions : List Nat) : Prop :=
  ∃ start, ∀ position ∈ positions,
    start ≤ position ∧ position < start + 16 ∧ position < 80

theorem IsBurst.totalSyndrome_ne {positions : List Nat}
    (hburst : IsBurst positions) (hnodup : positions.Nodup)
    (hne : positions ≠ []) : totalSyndrome positions ≠ 0#16 := by
  obtain ⟨start, hplaces⟩ := hburst
  -- a window that ends behind the data starts too late
  have hwindow : ∀ position ∈ positions,
      min start 64 ≤ position ∧ position < min start 64 + 16 := by
    intro position hmem
    have hplace := hplaces position hmem
    omega
  intro hzero
  rw [totalSyndrome_burst (Nat.min_le_right _ _) hwindow,
    ← iterate_shiftStep_zero (80 - min start 64)] at hzero
  have hpattern := iterate_shiftStep_inj crcPoly_msb _ hzero
  obtain ⟨position, hmem⟩ := List.exists_mem_of_ne_nil _ hne
  have hbit := @getLsbD_burstPattern _ (position - min start 64) _ hnodup
    hwindow
  rw [hpattern, Nat.add_sub_cancel' (hwindow position hmem).1,
    decide_eq_true hmem] at hbit
  simp at hbit

/-! ## The check -/

theorem small_errors_detected (pkt : LoraPkt) (positions : List Nat)
    (hlength : pkt.payload.length = 12) (hcorrect : pkt.crcCorrect = true)
    (hnodup : positions.Nodup) (hne : positions ≠ [])
    (hframe : ∀ position ∈ positions, position < 96)
    (hsmall : positions.length ≤ 3 ∨ IsBurst positions) :
    LoraPkt.crcCorrect
      { pkt with payload := flipBits pkt.payload positions } = false := by
  have htotal : totalSyndrome positions ≠ 0#16 := by
    rcases hsmall with hfew | hburst
    · exact totalSyndrome_few hnodup hne hfew hframe
    · exact hburst.totalSyndrome_ne hnodup hne
  rw [← Bool.not_eq_true, crcCorrect_iff]
  dsimp only
  rw [syndrome_flipBits hlength hframe, (crcCorrect_iff pkt).mp hcorrect,
    BitVec.zero_xor]
  exact htotal

/-- A heartbeat with four bits in a row flipped. -/
theorem flipped_heartbeat_rejected :
    LoraPkt.crcCorrect
      { nodePkt 1 .detectorHeartBeat [0, 150, 0, 1, 0] with
        payload := flipBits
          (nodePkt 1 .detectorHeartBeat [0, 150, 0, 1, 0]).payload
          [38, 39, 40, 41] } = false :=
  small_errors_detected (nodePkt 1 .detectorHeartBeat [0, 150, 0, 1, 0])
    [38, 39, 40, 41] (by decide) (by decide +kernel) (by decide) (by decide)
    (by decide) (.inr ⟨38, by decide⟩)

end WncFirmware.Lora
