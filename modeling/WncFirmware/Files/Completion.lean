import WncFirmware.Files.Catalogue
import WncFirmware.Files.Transfer

/-!
# Transfers of at most 256 packets

The packet numbers 2 to 256 are 2 to 255 and 0 modulo 256, so each packet after
the first one is appended to what the region holds already.
-/

namespace WncFirmware

open WncFirmware.Foundation WncFirmware.Tcp

/-! ## The region during the transfer -/

structure FileTransfer.Ready (file : FileTransfer) (device : Device)
    (sent : Nat) : Prop where
  sent_le : sent ≤ file.content.length
  filling : Filling device file.base file.limit file.content.length
    (file.content.take sent)

variable {file : FileTransfer}

theorem FileTransfer.bounds (file : FileTransfer) :
    file.base + file.limit ≤ 3801088 ∧ file.content.length ≤ file.limit := by
  have hbounds := FileType.region?_bounds file.region
  exact ⟨hbounds.2.1, file.length_content⟩

theorem FileTransfer.size_toNat (file : FileTransfer) :
    file.size.toNat = file.content.length := by
  have hbounds := file.bounds
  rw [FileTransfer.size, UInt32.toNat_ofNat', Nat.mod_eq_of_lt (by omega)]

theorem FileTransfer.Ready.remain {device : Device} {sent : Nat}
    (h : file.Ready device sent) :
    device.fileOperateState.remain.toNat = file.content.length - sent := by
  have hremain := h.filling.remain
  rw [List.length_take_of_le h.sent_le] at hremain
  omega

theorem FileTransfer.Ready.store {device : Device} {sent : Nat}
    (h : file.Ready device sent) (part : Payload) {rest : Bytes}
    (hcontent : file.content.drop sent = part.toBytes ++ rest) :
    file.Ready (storePayload device part) (sent + part.length.toNat) := by
  have hlength : part.length.toNat + rest.length =
      file.content.length - sent := by
    have hlengths := congrArg List.length hcontent
    simp only [List.length_drop, List.length_append,
      Payload.length_toBytes] at hlengths
    omega
  have hsent := h.sent_le
  have htake : file.content.take (sent + part.length.toNat) =
      file.content.take sent ++ part.toBytes := by
    rw [List.take_add, hcontent, List.take_left' part.length_toBytes]
  constructor
  · omega
  · rw [htake]
    apply h.filling.store file.region file.bounds.2
    rw [h.remain]
    omega

theorem FileTransfer.Ready.over {device : Device}
    (h : file.Ready device file.content.length) (rtc : RtcTime) :
    (device.afterPayload rtc).1 = .over ∧
      file.StoredIn (device.afterPayload rtc).2.flash := by
  have hzero : device.fileOperateState.remain = 0 := by
    apply UInt32.toNat_inj.mp
    simpa using h.remain
  have hholds := h.filling.holds
  rw [List.take_length] at hholds
  simp only [Device.afterPayload, hzero, if_true, true_and]
  exact hholds.congr (Nat.add_le_add_left file.bounds.2 file.base)
    (finishDownloadOption_agrees device rtc file.region)

theorem FileTransfer.Ready.downloading {device : Device} {sent : Nat}
    (h : file.Ready device sent) (hlt : sent < file.content.length)
    (rtc : RtcTime) : device.afterPayload rtc = (.downloading, device) := by
  have hremain := h.remain
  have hne : device.fileOperateState.remain ≠ 0 := by
    intro hzero
    rw [hzero, UInt32.toNat_zero] at hremain
    omega
  simp only [Device.afterPayload, if_neg hne]

/-! ## The catalogue during the transfer -/

def FileTransfer.download (file : FileTransfer) (sent : Nat) : Download :=
  ⟨file.type, file.version, file.name, file.size, file.content.take sent⟩

def FileTransfer.Closed (file : FileTransfer) (final : Device) : Prop :=
  ∃ stored rtc, file.Ready stored file.content.length ∧
    Downloading stored (file.download file.content.length) ∧
    final = (stored.afterPayload rtc).2

theorem FileTransfer.Closed.storedIn {final : Device} (h : file.Closed final) :
    file.StoredIn final.flash := by
  obtain ⟨stored, rtc, hready, -, rfl⟩ := h
  exact (hready.over rtc).2

theorem FileTransfer.Ready.store_download {device : Device} {sent : Nat}
    (h : file.Ready device sent)
    (hdownload : Downloading device (file.download sent)) (part : Payload)
    {rest : Bytes} (hcontent : file.content.drop sent = part.toBytes ++ rest) :
    Downloading (storePayload device part)
      (file.download (sent + part.length.toNat)) := by
  have hlengths := congrArg List.length hcontent
  simp only [List.length_drop, List.length_append,
    Payload.length_toBytes] at hlengths
  have hstored := hdownload.store (show part.length.toNat ≤
    device.fileOperateState.remain.toNat by rw [h.remain]; omega)
  have htake : file.content.take (sent + part.length.toNat) =
      file.content.take sent ++ part.toBytes := by
    rw [List.take_add, hcontent, List.take_left' part.length_toBytes]
  rw [FileTransfer.download, htake]
  exact hstored

/-! ## Delivering one frame -/

theorem downloadRets_downloadCommand (env : CommandEnv) (device : Device)
    (frame : Bytes) :
    downloadRets (downloadCommand env device frame).effects =
      [(downloadFile device env.rtc (headerPackSn frame)
        (cmdBufPayload env frame)).1] := by
  simp only [downloadCommand, downloadRets]
  split <;> rfl

theorem downloadCommand_device {env : CommandEnv} {device stored : Device}
    {target : Addressee} {packSn : UInt8} {payload : Bytes}
    (h : downloadFile device env.rtc packSn
      (cmdBufPayload env (target.fileCommand packSn payload)) =
        stored.afterPayload env.rtc) :
    (downloadCommand env device (target.fileCommand packSn payload)).device =
        (stored.afterPayload env.rtc).2 ∧
      downloadRets (downloadCommand env device
        (target.fileCommand packSn payload)).effects =
          [(stored.afterPayload env.rtc).1] := by
  constructor
  · rw [downloadCommand, headerPackSn_fileCommand, h]
  · rw [downloadRets_downloadCommand, headerPackSn_fileCommand, h]

section Deliver

variable {env : Nat → CommandEnv} {fd : Int} {number : Nat}
  {device stored : Device} {packSn : UInt8} {payload : Bytes}

theorem FileTransfer.Ready.deliver_last
    (h : file.Ready stored file.content.length)
    (hwhole : Downloading stored (file.download file.content.length))
    (hid : file.target.id = device.wncDevice.id ∨ file.target.id = 0)
    (hupload : isUpload (file.target.fileCommand packSn payload) = false)
    (hdownload : downloadFile device (env number).rtc packSn (cmdBufPayload
      (env number) (file.target.fileCommand packSn payload)) =
        stored.afterPayload (env number).rtc) :
    ∃ effects final, deliverAll env fd number device
        [file.target.fileCommand packSn payload] = some (effects, final) ∧
      ReturnsInOrder effects 1 ∧ file.Closed final := by
  have hover := (h.over (env number).rtc).1
  obtain ⟨hdevice, hrets⟩ := downloadCommand_device hdownload
  refine ⟨_, _, by
    simp [deliverAll, analyzeCommand_download file.target packSn payload hid
      hupload]
    exact ⟨rfl, rfl⟩, ?_, ?_⟩
  · simp only [ReturnsInOrder, List.map_cons, List.map_nil, hrets, hover]
    rfl
  · exact ⟨stored, (env number).rtc, h, hwhole, hdevice⟩

theorem FileTransfer.Ready.deliver_more {sent count : Nat}
    {frames : List Bytes} (h : file.Ready stored sent)
    (hsent : sent < file.content.length)
    (hid : file.target.id = device.wncDevice.id ∨ file.target.id = 0)
    (hupload : isUpload (file.target.fileCommand packSn payload) = false)
    (hdownload : downloadFile device (env number).rtc packSn (cmdBufPayload
      (env number) (file.target.fileCommand packSn payload)) =
        stored.afterPayload (env number).rtc)
    (hlater : ∃ effects final, deliverAll env fd (number + 1) stored frames =
        some (effects, final) ∧
      ReturnsInOrder effects (count + 1) ∧ file.Closed final) :
    ∃ effects final, deliverAll env fd number device
        (file.target.fileCommand packSn payload :: frames) =
          some (effects, final) ∧
      ReturnsInOrder effects (count + 2) ∧ file.Closed final := by
  obtain ⟨effects, final, hframes, horder, hclosed⟩ := hlater
  obtain ⟨hdevice, hrets⟩ := downloadCommand_device hdownload
  rw [h.downloading hsent] at hdevice hrets
  refine ⟨(downloadCommand (env number) device (file.target.fileCommand packSn
    payload)).effects :: effects, final, ?_, ?_, hclosed⟩
  · simp [deliverAll, analyzeCommand_download file.target packSn payload hid
      hupload, hdevice, hframes]
  · simp only [ReturnsInOrder, List.map_cons, hrets, Nat.add_sub_cancel] at *
    rw [horder]
    rfl

end Deliver

/-! ## The first packet -/

theorem FileTransfer.length_firstPayload (file : FileTransfer) :
    file.firstPayload.length = file.name.length + 6 + file.first.length := by
  simp [FileTransfer.firstPayload, networkOrder32, littleEndian32]
  omega

section FirstPacket

variable (env : CommandEnv) (file : FileTransfer)

def FileTransfer.received (packSn : UInt8) : Payload :=
  cmdBufPayload env (file.target.fileCommand packSn file.firstPayload)

theorem FileTransfer.firstPayload_le :
    file.firstPayload.length ≤ maxPayloadLength := by
  rw [file.length_firstPayload]
  exact file.length_first

theorem FileTransfer.received_fileNameLen (packSn : UInt8) :
    (file.received env packSn).fileNameLen = file.name.length := by
  have hlength := file.length_firstPayload
  have hname := file.length_name
  have hbyte : (file.received env packSn).bytes 1 =
      UInt8.ofNat file.name.length :=
    cmdBufPayload_bytes env file.target packSn file.firstPayload_le (by omega)
  rw [Payload.fileNameLen, hbyte, UInt8.toNat_ofNat',
    Nat.mod_eq_of_lt (by omega)]

theorem FileTransfer.received_slice (packSn : UInt8) {start count : Nat}
    (h : start + count ≤ file.firstPayload.length) :
    ((List.range count).map fun index =>
      (file.received env packSn).bytes (start + index)) =
        slice file.firstPayload start count :=
  cmdBufPayload_slice env file.target packSn file.firstPayload_le h

theorem FileTransfer.received_fileName (packSn : UInt8) :
    (file.received env packSn).fileName = file.name := by
  have hlength := file.length_firstPayload
  rw [Payload.fileName, file.received_fileNameLen env,
    file.received_slice env packSn (by omega)]
  exact slice_append [file.mark, UInt8.ofNat file.name.length] file.name _

theorem FileTransfer.received_fileSize (packSn : UInt8) :
    (file.received env packSn).fileSize = file.size := by
  have hlength := file.length_firstPayload
  let front := [file.mark, UInt8.ofNat file.name.length] ++ file.name
  have hfront : front.length = 2 + file.name.length := by
    simp [front]
    omega
  have hpayload : file.firstPayload =
      front ++ (networkOrder32 file.size ++ file.first) := by
    simp [front, FileTransfer.firstPayload]
  have hbyte : ∀ offset < 4, (file.received env packSn).bytes
      (2 + file.name.length + offset) =
        byteAt (networkOrder32 file.size ++ file.first) offset := by
    intro offset hoffset
    rw [FileTransfer.received, cmdBufPayload_bytes env file.target packSn
      file.firstPayload_le (by omega), hpayload, ← hfront, byteAt_append_right]
  have hzero := hbyte 0 (by omega)
  rw [Nat.add_zero] at hzero
  rw [Payload.fileSize, file.received_fileNameLen env, hzero, hbyte 1 (by omega),
    hbyte 2 (by omega), hbyte 3 (by omega)]
  exact bigEndian32_byteOf file.size

theorem FileTransfer.received_opens (packSn : UInt8) :
    (file.received env packSn).Opens file.type file.version file.base
      file.limit := by
  constructor
  · rw [file.received_fileName]
    exact file.fileType
  · rw [file.received_fileName]
    exact file.hasVersion
  · exact file.region
  · rw [file.received_fileSize, file.size_toNat]
    exact file.bounds.2

theorem FileTransfer.received_drop (packSn : UInt8) :
    ((file.received env packSn).drop (file.name.length + 6)).toBytes =
      file.first := by
  have hlength := file.length_firstPayload
  let front := [file.mark, UInt8.ofNat file.name.length] ++ file.name ++
    networkOrder32 file.size
  have hfront : front.length = file.name.length + 6 := by
    simp [front, networkOrder32, littleEndian32]
  have hpayload : file.firstPayload = front ++ (file.first ++ []) := by
    simp [front, FileTransfer.firstPayload]
  have htotal : (file.received env packSn).length.toNat =
      file.firstPayload.length :=
    cmdBufPayload_length env file.target packSn file.firstPayload_le
  have hcount : ((file.received env packSn).drop
      (file.name.length + 6)).length.toNat = file.first.length := by
    rw [Payload.length_drop (by omega), htotal]
    omega
  rw [Payload.toBytes, hcount]
  simp only [Payload.drop]
  rw [file.received_slice env packSn (by omega), hpayload, ← hfront]
  exact slice_append front file.first []

theorem FileTransfer.begun_ready (device : Device) :
    file.Ready (device.begun (file.received env 1) file.type file.version
      file.base) 0 := by
  have hfilling := begun_filling device (file.received_opens env 1)
  rw [file.received_fileSize, file.size_toNat] at hfilling
  exact ⟨Nat.zero_le _, hfilling⟩

theorem FileTransfer.begun_download (device : Device) :
    Downloading (device.begun (file.received env 1) file.type file.version
      file.base) (file.download 0) := by
  have hdownload := begun_downloading device (file.received_opens env 1)
  rw [file.received_fileName, file.received_fileSize] at hdownload
  exact hdownload

theorem FileTransfer.first_download {device : Device}
    (hidle : device.fileOperateState.packetSeq = 0) :
    ∃ stored, downloadFile device env.rtc 1 (file.received env 1) =
        stored.afterPayload env.rtc ∧
      file.Ready stored file.first.length ∧
      stored.fileOperateState.packetSeq = UInt8.ofNat 1 ∧
      stored.wncDevice = device.wncDevice ∧
      Downloading stored (file.download file.first.length) := by
  have hopens := file.received_opens env 1
  have hpart := file.received_drop env 1
  rw [← file.received_fileNameLen env 1] at hpart
  have hlength := congrArg List.length hpart
  rw [Payload.length_toBytes] at hlength
  have hcontent : file.content.drop 0 = ((file.received env 1).drop
      ((file.received env 1).fileNameLen + 6)).toBytes ++
        file.later.flatten := by
    rw [hpart]
    rfl
  have hready := (file.begun_ready env device).store _ hcontent
  have hdownload := (file.begun_ready env device).store_download
    (file.begun_download env device) _ hcontent
  rw [hlength, Nat.zero_add] at hready hdownload
  refine ⟨_, downloadFile_received env.rtc (receivePacket_opens hidle hopens),
    hready, ?_, rfl, hdownload⟩
  rw [storePayload_fileOperateState, Device.begun_fileOperateState]
  dsimp only
  rw [hidle]
  rfl

end FirstPacket

/-! ## The later packets -/

theorem ofNat_ne_one {number : Nat} (hlow : 2 ≤ number)
    (hhigh : number ≤ 256) : UInt8.ofNat number ≠ 1 := by
  intro hone
  have htoNat := congrArg UInt8.toNat hone
  rw [UInt8.toNat_ofNat'] at htoNat
  simp only [UInt8.reduceToNat] at htoNat
  omega

theorem FileTransfer.Ready.counted {device : Device} {sent : Nat}
    (h : file.Ready device sent) : file.Ready device.countPacket sent :=
  ⟨h.sent_le, h.filling.addr, h.filling.remain, h.filling.holds⟩

theorem FileTransfer.Ready.next_download {device : Device}
    {sent number : Nat} {part rest : Bytes} (h : file.Ready device sent)
    (env : CommandEnv)
    (hseq : device.fileOperateState.packetSeq = UInt8.ofNat number)
    (hsn : UInt8.ofNat (number + 1) ≠ 1)
    (hcontent : file.content.drop sent = part ++ rest)
    (hlength : part.length ≤ maxPayloadLength) :
    ∃ stored, downloadFile device env.rtc (UInt8.ofNat (number + 1))
        (cmdBufPayload env (file.target.fileCommand
          (UInt8.ofNat (number + 1)) part)) = stored.afterPayload env.rtc ∧
      file.Ready stored (sent + part.length) ∧
      stored.fileOperateState.packetSeq = UInt8.ofNat (number + 1) ∧
      stored.wncDevice = device.wncDevice ∧
      (Downloading device (file.download sent) →
        Downloading stored (file.download (sent + part.length))) := by
  let payload := cmdBufPayload env (file.target.fileCommand
    (UInt8.ofNat (number + 1)) part)
  have hbytes : payload.toBytes = part :=
    cmdBufPayload_toBytes env file.target _ hlength
  have hcount : payload.length.toNat = part.length :=
    cmdBufPayload_length env file.target _ hlength
  have hnext : device.fileOperateState.packetSeq + 1 =
      UInt8.ofNat (number + 1) := by
    rw [hseq]
    exact (UInt8.ofNat_add number 1).symm
  have hpart : file.content.drop sent = payload.toBytes ++ rest := by
    rw [hbytes, hcontent]
  have hready := h.counted.store payload hpart
  rw [hcount] at hready
  refine ⟨_, downloadFile_received env.rtc (receivePacket_next payload hnext hsn),
    hready, hnext, rfl, fun hdownload => ?_⟩
  rw [← hcount]
  exact h.counted.store_download hdownload.counted payload hpart

theorem FileTransfer.Ready.later_delivered {env : Nat → CommandEnv}
    {fd : Int} {parts : List Bytes} {device : Device} {sent number : Nat}
    (h : file.Ready device sent)
    (hdownload : Downloading device (file.download sent))
    (hseq : device.fileOperateState.packetSeq = UInt8.ofNat number)
    (hid : file.target.id = device.wncDevice.id ∨ file.target.id = 0)
    (hrest : file.content.drop sent = parts.flatten)
    (hparts : ∀ part ∈ parts, 1 ≤ part.length ∧
      part.length ≤ maxPayloadLength)
    (hne : parts ≠ []) (hlow : 1 ≤ number)
    (hcount : number + parts.length ≤ 256) :
    ∃ effects final, deliverAll env fd (number + 1) device
        (frameSequence file.target (number + 1) parts) =
          some (effects, final) ∧
      ReturnsInOrder effects parts.length ∧ file.Closed final := by
  induction parts generalizing device sent number with
  | nil => exact absurd rfl hne
  | cons part parts ih =>
      obtain ⟨hpos, hlength⟩ := hparts part List.mem_cons_self
      simp only [List.length_cons] at hcount
      have hsn : UInt8.ofNat (number + 1) ≠ 1 :=
        ofNat_ne_one (by omega) (by omega)
      have hpart : part ≠ [] := List.ne_nil_of_length_pos hpos
      have hupload : isUpload (file.target.fileCommand
          (UInt8.ofNat (number + 1)) part) = false := by
        rw [isUpload_fileCommand file.target _ hpart,
          beq_eq_false_iff_ne.mpr hsn, Bool.false_and]
      obtain ⟨stored, hstored, hready, hcounted, hdevice, hnext⟩ :=
        h.next_download (env (number + 1)) hseq hsn hrest hlength
      have hmoreDownload := hnext hdownload
      have hlengths := congrArg List.length hrest
      simp only [List.length_drop, List.flatten_cons,
        List.length_append] at hlengths
      cases parts with
      | nil =>
          have hall : sent + part.length = file.content.length := by
            simp only [List.flatten_nil, List.length_nil] at hlengths
            omega
          rw [hall] at hready hmoreDownload
          exact hready.deliver_last hmoreDownload hid hupload hstored
      | cons second parts =>
          have hsecond := (hparts second (by simp)).1
          have hmore : sent + part.length < file.content.length := by
            simp only [List.flatten_cons, List.length_append] at hlengths
            omega
          apply hready.deliver_more hmore hid hupload hstored
          apply ih hready hmoreDownload hcounted
          · rw [hdevice]
            exact hid
          · rw [← List.drop_drop, hrest, List.flatten_cons,
              List.drop_left]
          · exact fun later hlater => hparts later (List.mem_cons_of_mem _ hlater)
          · simp
          · omega
          · simp only [List.length_cons] at hcount ⊢
            omega

theorem FileTransfer.closed_of_few_packets (file : FileTransfer)
    (env : Nat → CommandEnv) (fd : Int) {device : Device}
    (hidle : device.fileOperateState = .reset)
    (hid : file.target.id = device.wncDevice.id ∨ file.target.id = 0)
    (hcount : file.payloads.length ≤ 256) :
    ∃ effects final, deliverAll env fd 1 device file.frames =
        some (effects, final) ∧
      ReturnsInOrder effects file.payloads.length ∧ file.Closed final := by
  have hseq : device.fileOperateState.packetSeq = 0 := by
    rw [hidle]
    rfl
  obtain ⟨stored, hstored, hready, hcounted, hdevice, hdownload⟩ :=
    file.first_download (env 1) hseq
  have hupload : isUpload (file.target.fileCommand 1 file.firstPayload) =
      false := by
    rw [isUpload_fileCommand file.target 1 (by simp [firstPayload])]
    simp [firstPayload, file.mark_ne_zero]
  have hfirst : file.content.drop file.first.length = file.later.flatten :=
    List.drop_left
  unfold FileTransfer.frames FileTransfer.payloads
  cases hlater : file.later with
  | nil =>
      have hall : file.first.length = file.content.length := by
        simp [content, hlater]
      rw [hall] at hready hdownload
      exact hready.deliver_last hdownload hid hupload hstored
  | cons second parts =>
      have hsecond := (file.length_later second (by simp [hlater])).1
      have hmore : file.first.length < file.content.length := by
        simp [content, hlater]
        omega
      have hlength : parts.length + 1 = file.later.length := by
        simp [hlater]
      apply hready.deliver_more hmore hid hupload hstored
      rw [← hlater, hlength]
      apply hready.later_delivered hdownload hcounted
      · rw [hdevice]
        exact hid
      · exact hfirst
      · exact file.length_later
      · simp [hlater]
      · exact le_rfl
      · simp only [payloads, List.length_cons] at hcount
        omega

theorem FileTransfer.received_of_few_packets (file : FileTransfer)
    (env : Nat → CommandEnv) (fd : Int) {device : Device}
    (hidle : device.fileOperateState = .reset)
    (hid : file.target.id = device.wncDevice.id ∨ file.target.id = 0)
    (hcount : file.payloads.length ≤ 256) : file.Received env fd device := by
  obtain ⟨effects, final, hdeliver, horder, hclosed⟩ :=
    file.closed_of_few_packets env fd hidle hid hcount
  exact ⟨effects, final, hdeliver, horder, hclosed.storedIn⟩

end WncFirmware
