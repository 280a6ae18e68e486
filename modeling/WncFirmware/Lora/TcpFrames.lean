import Mathlib.Tactic.IntervalCases
import WncFirmware.Lora.State
import WncFirmware.Tcp.Replies

/-!
# Frames of the data process thread

`lora_send_tcp_data` builds a frame in the static buffer `lora_tcp_buf` and sends
it.  The checksum is taken over `data` and stored one byte behind the frame, so
that the last byte sent is what the buffer held before.
-/

namespace WncFirmware.Lora

open WncFirmware.Foundation WncFirmware.Tcp

def pointed (data : Nat → UInt8) (count : Nat) : Bytes :=
  (List.range count).map data

/-- The two last bytes of `device_type` are not written. -/
def fillHeader (wncId : UInt32) (buf : Bytes) (cmd packSn : UInt8)
    (dataLen : Nat) : Bytes :=
  let named := putBytes buf 0 (cmd :: networkOrder32 wncId ++ ascii "LN")
  setDataLen (putBytes named 9 [packSn]) dataLen

/--
The buffer afterwards and the bytes sent.  A buffer that has become longer was
written behind its end.
-/
def loraSendTcpData (wncId : UInt32) (buf : Bytes) (cmd : UInt8)
    (data : Nat → UInt8) (packSn : UInt8) (dataLen : Nat) : Bytes × Bytes :=
  let filled := putBytes (fillHeader wncId buf cmd packSn dataLen) headerSize
    (pointed data dataLen)
  let len := headerSize + dataLen + 1
  let summed := putBytes filled (headerSize + dataLen + 1)
    [xorVerify (pointed data (len - 1))]
  (summed, slice summed 0 len)

structure SendsFrame (buf : Bytes) (data : Nat → UInt8) (dataLen : Nat)
    (result : Bytes × Bytes) : Prop where
  inside : result.1.length = buf.length
  length_eq : result.2.length = headerSize + dataLen + 1
  headerDataLen_eq : headerDataLen result.2 = dataLen
  payload_eq : slice result.2 headerSize dataLen = pointed data dataLen
  checksum : checksumCorrect result.2 = true

def sentHeader (wncId : UInt32) (buf : Bytes) (cmd packSn : UInt8)
    (dataLen : Nat) : Bytes :=
  cmd :: networkOrder32 wncId ++ ascii "LN" ++
    [byteAt buf 7, byteAt buf 8, packSn] ++
    networkOrder16 (UInt16.ofNat dataLen)

theorem length_sentHeader (wncId : UInt32) (buf : Bytes) (cmd packSn : UInt8)
    (dataLen : Nat) :
    (sentHeader wncId buf cmd packSn dataLen).length = headerSize := by
  simp [sentHeader, networkOrder32, littleEndian32, networkOrder16,
    littleEndian16, ascii, headerSize]

@[simp] theorem length_pointed (data : Nat → UInt8) (count : Nat) :
    (pointed data count).length = count := by
  simp [pointed]

theorem length_fillHeader {buf : Bytes} (wncId : UInt32) (cmd packSn : UInt8)
    (dataLen : Nat) (hbuf : buf.length = maxTcpDataLength) :
    (fillHeader wncId buf cmd packSn dataLen).length = maxTcpDataLength := by
  simp [fillHeader, setDataLen, length_putBytes, networkOrder32,
    littleEndian32, networkOrder16, littleEndian16, ascii, hbuf,
    maxTcpDataLength]

theorem byteAt_fillHeader {index : Nat} (wncId : UInt32) (buf : Bytes)
    (cmd packSn : UInt8) (dataLen : Nat) (h : index < headerSize) :
    byteAt (fillHeader wncId buf cmd packSn dataLen) index =
      byteAt (sentHeader wncId buf cmd packSn dataLen) index := by
  rw [headerSize] at h
  interval_cases index <;>
    simp [fillHeader, setDataLen, sentHeader, byteAt_putBytes, networkOrder32,
      littleEndian32, networkOrder16, littleEndian16, ascii]

theorem byteAt_fillHeader_behind {index : Nat} (wncId : UInt32) (buf : Bytes)
    (cmd packSn : UInt8) (dataLen : Nat) (h : headerSize ≤ index) :
    byteAt (fillHeader wncId buf cmd packSn dataLen) index =
      byteAt buf index := by
  rw [headerSize] at h
  have hnamed : ¬index < 7 := by omega
  have hnumbered : ¬index < 10 := by omega
  have hsized : ¬index < 12 := by omega
  simp [fillHeader, setDataLen, byteAt_putBytes, networkOrder32,
    littleEndian32, networkOrder16, littleEndian16, ascii, hnamed, hnumbered,
    hsized]

theorem headerDataLen_sentHeader {dataLen : Nat} (wncId : UInt32)
    (buf : Bytes) (cmd packSn : UInt8) (h : dataLen < 65536) :
    headerDataLen (sentHeader wncId buf cmd packSn dataLen) = dataLen := by
  rw [← headerDataLen_congr fun index _ hlt =>
    byteAt_fillHeader wncId buf cmd packSn dataLen hlt]
  exact headerDataLen_setDataLen _ h

/-! ## The frame that is sent -/

theorem loraSendTcpData_sent (wncId : UInt32) (buf : Bytes) (cmd : UInt8)
    (data : Nat → UInt8) (packSn : UInt8) (dataLen : Nat) :
    (loraSendTcpData wncId buf cmd data packSn dataLen).2 =
      (sentHeader wncId buf cmd packSn dataLen ++ pointed data dataLen) ++
        [byteAt buf (headerSize + dataLen)] := by
  have hheader := length_sentHeader wncId buf cmd packSn dataLen
  apply bytes_ext
  · simp [loraSendTcpData, hheader, Nat.add_assoc]
  · intro index hindex
    have hlt : index < headerSize + dataLen + 1 := by
      simpa [loraSendTcpData] using hindex
    have hsummed : byteAt (loraSendTcpData wncId buf cmd data packSn
        dataLen).2 index = byteAt (putBytes (fillHeader wncId buf cmd packSn
          dataLen) headerSize (pointed data dataLen)) index := by
      rw [loraSendTcpData, byteAt_slice _ hlt, Nat.zero_add]
      exact byteAt_putBytes_before _ _ hlt
    rw [hsummed, byteAt_putBytes, length_pointed]
    by_cases hfront : index < headerSize
    · rw [if_neg (by omega), byteAt_fillHeader _ _ _ _ _ hfront,
        byteAt_append_left _ (by rw [List.length_append]; omega),
        byteAt_append_left _ (by omega)]
    · obtain ⟨offset, rfl⟩ := Nat.exists_eq_add_of_le (Nat.not_lt.mp hfront)
      have hright : ∀ back : Bytes, byteAt (sentHeader wncId buf cmd packSn
          dataLen ++ back) (headerSize + offset) = byteAt back offset := by
        intro back
        rw [← hheader]
        exact byteAt_append_right _ back offset
      rw [List.append_assoc, hright]
      by_cases hpayload : offset < dataLen
      · rw [if_pos (by omega), byteAt_append_left _ (by simpa using hpayload),
          Nat.add_sub_cancel_left]
      · obtain rfl : offset = dataLen := by omega
        have hlast := byteAt_append_right (pointed data offset)
          [byteAt buf (headerSize + offset)] 0
        rw [length_pointed, Nat.add_zero] at hlast
        rw [if_neg (by omega), byteAt_fillHeader_behind _ _ _ _ _ (by omega),
          hlast, byteAt_cons_zero]

theorem byteAt_loraSendTcpData_cmd (wncId : UInt32) (buf : Bytes) (cmd : UInt8)
    (data : Nat → UInt8) (packSn : UInt8) (dataLen : Nat) :
    byteAt (loraSendTcpData wncId buf cmd data packSn dataLen).2 0 = cmd := by
  rw [loraSendTcpData_sent]
  rfl

theorem headerDataLen_loraSendTcpData {dataLen : Nat} (wncId : UInt32)
    (buf : Bytes) (cmd : UInt8) (data : Nat → UInt8) (packSn : UInt8)
    (h : dataLen < 65536) :
    headerDataLen (loraSendTcpData wncId buf cmd data packSn dataLen).2 =
      dataLen := by
  have hheader := length_sentHeader wncId buf cmd packSn dataLen
  rw [loraSendTcpData_sent, List.append_assoc,
    headerDataLen_congr fun index _ hlt =>
      byteAt_append_left _ (by rw [hheader, headerSize]; omega)]
  exact headerDataLen_sentHeader wncId buf cmd packSn h

theorem slice_loraSendTcpData (wncId : UInt32) (buf : Bytes) (cmd : UInt8)
    (data : Nat → UInt8) (packSn : UInt8) (dataLen : Nat) :
    slice (loraSendTcpData wncId buf cmd data packSn dataLen).2 headerSize
      dataLen = pointed data dataLen := by
  have hslice := slice_append (sentHeader wncId buf cmd packSn dataLen)
    (pointed data dataLen) [byteAt buf (headerSize + dataLen)]
  rw [length_sentHeader, length_pointed] at hslice
  rw [loraSendTcpData_sent, List.append_assoc]
  exact hslice

theorem length_loraSendTcpData_buf {buf : Bytes} {dataLen : Nat}
    (wncId : UInt32) (cmd : UInt8) (data : Nat → UInt8) (packSn : UInt8)
    (hbuf : buf.length = maxTcpDataLength) (hlen : dataLen ≤ 1011) :
    (loraSendTcpData wncId buf cmd data packSn dataLen).1.length =
      buf.length ↔ dataLen ≤ 1010 := by
  simp only [loraSendTcpData, length_putBytes, length_pointed,
    List.length_singleton, length_fillHeader _ _ _ _ hbuf, hbuf, headerSize,
    maxTcpDataLength]
  omega

theorem lora_frame_valid_iff (wncId : UInt32) (buf : Bytes) (cmd : UInt8)
    (data : Nat → UInt8) (packSn : UInt8) (dataLen : Nat)
    (hbuf : buf.length = maxTcpDataLength) (hlen : dataLen ≤ 1011) :
    SendsFrame buf data dataLen
        (loraSendTcpData wncId buf cmd data packSn dataLen) ↔
      dataLen ≤ 1010 ∧ byteAt buf (headerSize + dataLen) =
        xorVerify (sentHeader wncId buf cmd packSn dataLen ++
          pointed data dataLen) := by
  have hsent := loraSendTcpData_sent wncId buf cmd data packSn dataLen
  have hinside := length_loraSendTcpData_buf wncId cmd data packSn hbuf hlen
  have hheader := length_sentHeader wncId buf cmd packSn dataLen
  constructor
  · intro h
    have hchecksum := h.checksum
    rw [hsent, checksumCorrect_append_iff] at hchecksum
    exact ⟨hinside.mp h.inside, hchecksum.symm⟩
  · rintro ⟨hroom, hlast⟩
    constructor
    · exact hinside.mpr hroom
    · simp [hsent, hheader, Nat.add_assoc]
    · exact headerDataLen_loraSendTcpData wncId buf cmd data packSn (by omega)
    · exact slice_loraSendTcpData wncId buf cmd data packSn dataLen
    · rw [hsent, checksumCorrect_append_iff]
      exact hlast.symm

/-- A buffer whose byte behind the data happens to be the checksum. -/
def matchingBuf : Bytes :=
  List.replicate 13 0 ++ 52 :: List.replicate 1010 0

theorem lora_frame_valid_matching :
    SendsFrame matchingBuf (fun _ => 1) 1
      (loraSendTcpData 448 matchingBuf 246 (fun _ => 1) 1 1) :=
  (lora_frame_valid_iff 448 matchingBuf 246 (fun _ => 1) 1 1
    (by simp only [matchingBuf, maxTcpDataLength, List.length_append,
      List.length_cons, List.length_replicate]) (by omega)).mpr
    ⟨by omega, by decide⟩

theorem first_lora_frame_invalid :
    ¬SendsFrame LoraState.initial.loraTcpBuf (fun _ => 1) 1
      (loraSendTcpData 448 LoraState.initial.loraTcpBuf 246 (fun _ => 1)
        1 1) := by
  intro h
  have hchecksum := h.checksum
  rw [loraSendTcpData_sent, checksumCorrect_append_iff] at hchecksum
  revert hchecksum
  decide

end WncFirmware.Lora
