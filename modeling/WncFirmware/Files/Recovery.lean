import WncFirmware.Files.Packets

/-!
# Downloads after an error

`download_file` counts a packet before it checks it and does not reset the
transfer when it returns `DOWNLOAD_ERR`.
-/

namespace WncFirmware

open WncFirmware.Foundation

structure DownloadPacket where
  rtc : RtcTime
  packSn : UInt8
  payload : Payload

def downloadAll (device : Device) :
    List DownloadPacket → List DownloadRet × Device
  | [] => ([], device)
  | packet :: packets =>
      let first := downloadFile device packet.rtc packet.packSn packet.payload
      let later := downloadAll first.2 packets
      (first.1 :: later.1, later.2)

def Completes (rets : List DownloadRet) : Prop :=
  ∃ count, rets = List.replicate count .downloading ++ [.over]

theorem Completes.head_ne_err {ret : DownloadRet} {rets : List DownloadRet}
    (h : Completes (ret :: rets)) : ret ≠ .err := by
  obtain ⟨count, hrets⟩ := h
  cases count with
  | zero =>
      cases hrets
      simp
  | succ count =>
      cases hrets
      simp

theorem downloadFile_err_packetSeq {device : Device} {rtc : RtcTime}
    {packSn : UInt8} {payload : Payload}
    (h : (downloadFile device rtc packSn payload).1 = .err) :
    (downloadFile device rtc packSn payload).2.fileOperateState.packetSeq =
      device.fileOperateState.packetSeq + 1 := by
  have hcases := receivePacket_received device packSn payload
  generalize hreceived : receivePacket device packSn payload = result at hcases
  cases hcases with
  | wrong hseq =>
      rw [downloadFile_refused rtc hreceived]
      rfl
  | refuses fileType version hseq hsn hnone =>
      rw [downloadFile_refused rtc hreceived]
      rfl
  | opens type version base limit hseq hsn hopens =>
      rw [downloadFile_received rtc hreceived, Device.afterPayload] at h
      split at h <;> cases h
  | next hseq hsn =>
      rw [downloadFile_received rtc hreceived, Device.afterPayload] at h
      split at h <;> cases h

theorem idle_first_packet {device : Device} {rtc : RtcTime} {packSn : UInt8}
    {payload : Payload} (hidle : device.fileOperateState = .reset)
    (h : (downloadFile device rtc packSn payload).1 ≠ .err) :
    packSn = 1 ∧
      ∃ type version base limit, payload.Opens type version base limit := by
  have hcases := receivePacket_received device packSn payload
  generalize hreceived : receivePacket device packSn payload = result at hcases
  cases hcases with
  | wrong hseq =>
      rw [downloadFile_refused rtc hreceived] at h
      exact absurd rfl h
  | refuses fileType version hseq hsn hnone =>
      rw [downloadFile_refused rtc hreceived] at h
      exact absurd rfl h
  | opens type version base limit hseq hsn hopens =>
      exact ⟨hsn, type, version, base, limit, hopens⟩
  | next hseq hsn =>
      rw [hidle] at hseq
      exact absurd hseq.symm hsn

theorem begun_fileOperateReset {device : Device}
    (h : device.fileOperateState.packetSeq = 0) (payload : Payload)
    (type : FileType) (version : UInt32) (base : Nat) :
    (fileOperateReset device).begun payload type version base =
      device.begun payload type version base := by
  simp only [Device.begun, Device.accept, Device.opened, Device.typed,
    Device.startDownload, Device.countPacket, fileOperateReset, h,
    FileOperateState.reset]

theorem downloadFile_opens_from_reset {device : Device} {payload : Payload}
    {type : FileType} {version : UInt32} {base limit : Nat} (rtc : RtcTime)
    (h : device.fileOperateState.packetSeq = 0)
    (hopens : payload.Opens type version base limit) :
    downloadFile device rtc 1 payload =
      downloadFile (fileOperateReset device) rtc 1 payload := by
  rw [downloadFile_received rtc (receivePacket_opens h hopens),
    downloadFile_received rtc (receivePacket_opens rfl hopens),
    begun_fileOperateReset h]

theorem downloadFile_wrong_sn {device : Device} {packSn : UInt8}
    (rtc : RtcTime) (payload : Payload)
    (h : device.fileOperateState.packetSeq + 1 ≠ packSn) :
    (downloadFile device rtc packSn payload).1 = .err := by
  rw [downloadFile_refused rtc (receivePacket_wrong payload h)]

/--
After an error, a download that would succeed from the idle state does the same
from the state left behind exactly if the packet counter has come round to 0.
-/
theorem download_after_error_iff {device : Device} {rtc : RtcTime}
    {packSn : UInt8} {payload : Payload} {packets : List DownloadPacket}
    (herr : (downloadFile device rtc packSn payload).1 = .err)
    (hcorrect : Completes (downloadAll (fileOperateReset
      (downloadFile device rtc packSn payload).2) packets).1) :
    downloadAll (downloadFile device rtc packSn payload).2 packets =
        downloadAll (fileOperateReset
          (downloadFile device rtc packSn payload).2) packets ↔
      device.fileOperateState.packetSeq = 255 := by
  have hcounted := downloadFile_err_packetSeq herr
  generalize (downloadFile device rtc packSn payload).2 = failed at *
  cases packets with
  | nil =>
      obtain ⟨count, hrets⟩ := hcorrect
      simp [downloadAll] at hrets
  | cons packet packets =>
      have hfirst := hcorrect.head_ne_err
      obtain ⟨hsn, type, version, base, limit, hopens⟩ :=
        idle_first_packet rfl hfirst
      constructor
      · intro hsame
        by_contra hseq
        have hwrong : failed.fileOperateState.packetSeq + 1 ≠
            packet.packSn := by
          rw [hsn, hcounted]
          intro hone
          apply hseq
          grind
        have hrets := congrArg (fun result => result.1.head?) hsame
        simp only [downloadAll, List.head?_cons, Option.some.injEq] at hrets
        apply hfirst
        rw [← hrets]
        exact downloadFile_wrong_sn packet.rtc packet.payload hwrong
      · intro hseq
        have hzero : failed.fileOperateState.packetSeq = 0 := by
          rw [hcounted, hseq]
          rfl
        simp only [downloadAll, hsn,
          downloadFile_opens_from_reset packet.rtc hzero hopens]

/-- The whole of a file `LN_sensor_1` of one byte. -/
def sensorPacket : DownloadPacket where
  rtc := ⟨2017, 5, 3, 0, 0, 0⟩
  packSn := 1
  payload := .ofBytes ([1, 11] ++ ascii "LN_sensor_1" ++ [0, 0, 0, 1, 65])

def unknownPacket : DownloadPacket where
  rtc := ⟨2017, 5, 3, 0, 0, 0⟩
  packSn := 1
  payload := .ofBytes [1, 1, 88, 0, 0, 0, 1]

def afterUnknown (device : Device) : Device :=
  (downloadFile device unknownPacket.rtc unknownPacket.packSn
    unknownPacket.payload).2

/-- A device whose packet counter is about to come round. -/
def wrappingDevice : Device :=
  Device.blank.setTransfer fun transfer => { transfer with packetSeq := 255 }

theorem download_after_error_wrapping :
    downloadAll (afterUnknown wrappingDevice) [sensorPacket] =
        downloadAll (fileOperateReset (afterUnknown wrappingDevice))
          [sensorPacket] ↔
      wrappingDevice.fileOperateState.packetSeq = 255 :=
  download_after_error_iff (by decide) ⟨0, by decide⟩

/-- A file of an unknown type is refused, and so is the correct one after it. -/
theorem refused_file_blocks_next :
    (downloadFile Device.blank unknownPacket.rtc unknownPacket.packSn
        unknownPacket.payload).1 = .err ∧
      (downloadAll (fileOperateReset (afterUnknown Device.blank))
        [sensorPacket]).1 = [.over] ∧
      (downloadAll (afterUnknown Device.blank) [sensorPacket]).1 = [.err] := by
  refine ⟨by decide, by decide, by decide⟩

end WncFirmware
