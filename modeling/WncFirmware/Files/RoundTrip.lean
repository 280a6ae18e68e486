import WncFirmware.Files.Completion
import WncFirmware.Tcp.Replies

/-!
# A downloaded file can be uploaded again

After the last packet of a download the catalogue has the name and the size of
the file, and its region has the content; the upload loop sends them back.
-/

namespace WncFirmware

open WncFirmware.Foundation WncFirmware.Tcp

/-! ## The device after a download -/

theorem cString_append {name : Bytes} (h : 0 ∉ name) (rest : Bytes) :
    cString (name ++ rest) = name ++ cString rest := by
  apply List.takeWhile_append_of_pos
  intro byte hbyte
  simpa using fun hzero : byte = 0 => h (hzero ▸ hbyte)

theorem cString_eq_self {name : Bytes} (h : 0 ∉ name) : cString name = name := by
  simpa [cString] using cString_append h []

theorem cString_copy {name : Bytes} (hname : 0 ∉ name)
    (hlength : name.length ≤ 255) :
    cString (FileName.copy name).bytes = name := by
  obtain ⟨pad, hpad⟩ : ∃ pad, (FileName.copy name).bytes =
      name ++ (List.replicate pad 0 ++ [0]) := by
    refine ⟨255 - name.length, ?_⟩
    simp only [FileName.copy, cString_eq_self hname, List.take_append,
      List.take_of_length_le hlength, List.take_replicate, maxFileNameLen,
      List.append_assoc]
    rw [Nat.min_eq_left (by omega)]
  have hzeros : cString (List.replicate pad 0 ++ [0]) = [] := by
    cases pad <;> rfl
  rw [hpad, cString_append hname, hzeros, List.append_nil]

theorem zero_mem_copy (name : Bytes) : 0 ∈ (FileName.copy name).bytes := by
  simp [FileName.copy]

variable {file : FileTransfer}

def FileTransfer.info (file : FileTransfer) : SingleFileInfo :=
  ⟨file.version, file.size, .copy file.name⟩

theorem FileTransfer.Closed.catalogued {final : Device} (h : file.Closed final)
    (hmem : file.type ∈ FileType.catalogued) :
    final.fileInfoList.info? file.type = some file.info := by
  obtain ⟨stored, rtc, hready, hdownload, rfl⟩ := h
  have hzero : stored.fileOperateState.remain = 0 := by
    apply UInt32.toNat_inj.mp
    simpa using hready.remain
  obtain ⟨old, hold⟩ : ∃ old, stored.fileInfoList.info? file.type = some old := by
    simp only [FileType.catalogued, List.mem_cons, List.not_mem_nil,
      or_false] at hmem
    rcases hmem with htype | htype | htype <;> rw [htype] <;> exact ⟨_, rfl⟩
  have hinfo := (hdownload.describes hzero hold).info_eq
  simp only [Device.afterPayload, hzero, if_true, fileOperateReset]
  rw [finishDownloadOption_catalogued rtc hmem hdownload.fileType,
    recordVersion_fileInfoList, FileInfoList.info?_modifyEntry, hold,
    Option.map_some, hdownload.version]
  exact congrArg some hinfo

/-! ## Opening the file -/

theorem openUpload_catalogued {device : Device} {type : FileType}
    {base limit : Nat} {info : SingleFileInfo}
    (hmem : type ∈ FileType.catalogued)
    (hregion : type.region? = some (base, limit))
    (hentry : device.fileInfoList.info? type = some info) :
    openUpload device type = openConfigFile device base info := by
  simp only [FileType.catalogued, List.mem_cons, List.not_mem_nil,
    or_false] at hmem
  rcases hmem with rfl | rfl | rfl <;> cases hregion <;> cases hentry <;> rfl

theorem readFile_catalogued {device : Device} {type : FileType}
    (hmem : type ∈ FileType.catalogued)
    (htype : device.fileOperateState.fileType = some type) (maxSize : Nat) :
    readFile device maxSize = (device, readBytes device.flash
      device.fileOperateState.flashAddr.toNat maxSize) := by
  simp only [FileType.catalogued, List.mem_cons, List.not_mem_nil,
    or_false] at hmem
  rcases hmem with rfl | rfl | rfl <;> simp only [readFile, htype]

structure FileTransfer.Uploading (file : FileTransfer) (device : Device)
    (sent : Nat) : Prop where
  fileType : device.fileOperateState.fileType = some file.type
  flashAddr : device.fileOperateState.flashAddr.toNat = file.base + sent
  remain : device.fileOperateState.remain.toNat = file.content.length - sent
  sent_le : sent ≤ file.content.length
  stored : file.StoredIn device.flash

/-! ## One pass -/

def sentPayload (frame : Bytes) : Bytes :=
  slice frame headerSize (headerDataLen frame)

theorem sentPayload_withDataLen {dataLen : Nat} (filled : Bytes)
    (h : dataLen ≤ maxPayloadLength) :
    sentPayload (withChecksum (setDataLen filled dataLen)
      (headerSize + dataLen + 1)) = slice filled headerSize dataLen := by
  have hbyte : ∀ index < headerSize + dataLen,
      byteAt (withChecksum (setDataLen filled dataLen)
        (headerSize + dataLen + 1)) index =
          byteAt (setDataLen filled dataLen) index := by
    intro index hindex
    exact byteAt_withChecksum _ (by omega)
  have hlen : headerDataLen (withChecksum (setDataLen filled dataLen)
      (headerSize + dataLen + 1)) = dataLen := by
    rw [maxPayloadLength] at h
    rw [headerDataLen_congr fun index _ hlt => hbyte index (by
      rw [headerSize]
      omega)]
    exact headerDataLen_setDataLen filled (by omega)
  rw [sentPayload, hlen]
  apply List.map_congr_left
  intro offset hoffset
  rw [hbyte _ (by have := List.mem_range.mp hoffset; omega), setDataLen,
    byteAt_putBytes, if_neg]
  simp only [headerSize, networkOrder16, littleEndian16, List.length_reverse,
    List.length_cons, List.length_nil]
  omega

theorem slice_putBytes (buffer : Bytes) (index : Nat) {bytes : Bytes}
    {count : Nat} (h : count ≤ bytes.length) :
    slice (putBytes buffer index bytes) index count = slice bytes 0 count := by
  apply List.map_congr_left
  intro offset hoffset
  have hlt := List.mem_range.mp hoffset
  rw [byteAt_putBytes, if_pos (by omega), Nat.add_sub_cancel_left, Nat.zero_add]

theorem slice_all (bytes : Bytes) : slice bytes 0 bytes.length = bytes := by
  simpa using slice_append [] bytes []

theorem slice_putBytes_behind (buffer bytes : Bytes) (filled : Nat) :
    slice (putBytes buffer filled bytes) 0 (filled + bytes.length) =
      slice buffer 0 filled ++ bytes := by
  apply bytes_ext (by simp)
  intro position hposition
  rw [length_slice] at hposition
  rw [byteAt_slice _ hposition, Nat.zero_add, byteAt_putBytes]
  split
  case isTrue hin =>
    obtain ⟨offset, rfl⟩ := Nat.exists_eq_add_of_le hin.1
    have hsecond := byteAt_append_right (slice buffer 0 filled) bytes offset
    rw [length_slice] at hsecond
    rw [hsecond, Nat.add_sub_cancel_left]
  case isFalse hout =>
    have hfirst : position < filled := by omega
    rw [byteAt_append_left _ (by rw [length_slice]; exact hfirst),
      byteAt_slice _ hfirst, Nat.zero_add]

theorem FileTransfer.Uploading.read {device : Device} {sent count : Nat}
    (h : file.Uploading device sent)
    (hcount : sent + count ≤ file.content.length) :
    readBytes device.flash device.fileOperateState.flashAddr.toNat count =
      (file.content.drop sent).take count := by
  rw [h.flashAddr, readBytes_inside hcount, h.stored.stored]

structure FileTransfer.Passes (file : FileTransfer) (pass : UploadPass)
    (buffer : Bytes) (filled sent count : Nat) : Prop where
  ret : pass.ret = filled + count
  length : filled + count ≤ pass.buffer.length
  bytes : slice pass.buffer 0 (filled + count) =
    slice buffer 0 filled ++ (file.content.drop sent).take count
  next : file.Uploading pass.device (sent + count)

theorem FileTransfer.Uploading.advance {device : Device} {sent count : Nat}
    (h : file.Uploading device sent)
    (hcount : sent + count ≤ file.content.length) :
    file.Uploading (device.setTransfer fun transfer =>
      { transfer with
        remain := transfer.remain - UInt32.ofNat count
        flashAddr := transfer.flashAddr + UInt32.ofNat count })
      (sent + count) := by
  have hbounds := file.bounds
  have hremain := h.remain
  have hsmall : (UInt32.ofNat count).toNat = count := by
    rw [UInt32.toNat_ofNat', Nat.mod_eq_of_lt (by omega)]
  refine ⟨h.fileType, ?_, ?_, hcount, h.stored⟩
  · simp only [Device.setTransfer, UInt32.toNat_add, h.flashAddr, hsmall]
    rw [Nat.mod_eq_of_lt (by omega), Nat.add_assoc]
  · simp only [Device.setTransfer]
    rw [UInt32.toNat_sub_of_le _ _ (UInt32.le_iff_toNat_le.mpr (by omega)),
      hsmall]
    omega

theorem FileTransfer.Uploading.pass {device : Device} {sent : Nat}
    (h : file.Uploading device sent) (hmem : file.type ∈ FileType.catalogued)
    {buffer : Bytes} (bufSize : Nat) {filled : Nat}
    (hbuffer : filled ≤ buffer.length) :
    file.Passes (uploadData device buffer bufSize filled) buffer filled sent
      (min (bufSize - filled) (file.content.length - sent)) := by
  have hsent := h.sent_le
  unfold uploadData
  split
  case isTrue hpos =>
    rw [h.remain]
    have hcount : sent + min (bufSize - filled) (file.content.length - sent) ≤
        file.content.length := by
      omega
    generalize min (bufSize - filled) (file.content.length - sent) = count
      at hcount ⊢
    have hbytes := h.read hcount
    have hlength : ((file.content.drop sent).take count).length = count := by
      rw [List.length_take, List.length_drop]
      omega
    rw [readFile_catalogued hmem h.fileType, hbytes]
    dsimp only
    rw [hlength]
    have hput := slice_putBytes_behind buffer
      ((file.content.drop sent).take count) filled
    rw [hlength] at hput
    refine ⟨rfl, ?_, hput, h.advance hcount⟩
    dsimp only
    rw [length_putBytes, hlength]
    exact Nat.le_max_right _ _
  case isFalse hzero =>
    have hdone : file.content.length - sent = 0 := by
      rw [← h.remain]
      apply Nat.eq_zero_of_not_pos
      exact fun hpos => hzero (UInt32.lt_iff_toNat_lt.mpr hpos)
    rw [hdone, Nat.min_zero]
    refine ⟨rfl, hbuffer, ?_, h⟩
    rw [List.take_zero, List.append_nil]
    rfl

/-! ## The loop -/

structure SendsBack (run : UploadRun) (bytes : Bytes) : Prop where
  ret : run.ret = 0
  payloads : run.frames.flatMap sentPayload = bytes
  short : ∀ frame ∈ run.frames, (sentPayload frame).length ≤ maxPayloadLength

section Loop

variable {device : Device} {packSn : UInt8} {buffer : Bytes}
  {pass : UploadPass} {filled sent count : Nat}

theorem uploadLoop_last (limit : Nat)
    (hpass : uploadFile device packSn (buffer.drop headerSize)
      maxPayloadLength = some pass)
    (hret : pass.ret = 0) :
    ∃ run, uploadLoop (limit + 1) device packSn buffer = some run ∧
      SendsBack run [] := by
  have hloop : uploadLoop (limit + 1) device packSn buffer =
      some ⟨pass.ret, pass.device, []⟩ := by
    have hpass' : uploadFile device packSn (buffer.drop headerSize)
      (maxTcpDataLength - headerSize - 1) = some pass := hpass
    rw [uploadLoop, hpass', Option.bind_eq_bind, Option.bind_some, if_neg]
    · rfl
    · rw [hret]
      exact Int.lt_irrefl 0
  exact ⟨_, hloop, hret, rfl, List.forall_mem_nil _⟩

theorem uploadLoop_more {limit : Nat} {payload bytes : Bytes}
    (hpass : uploadFile device packSn (buffer.drop headerSize)
      maxPayloadLength = some pass)
    (hpasses : file.Passes pass payload filled sent count)
    (hpos : 0 < filled + count) (hmax : filled + count ≤ maxPayloadLength)
    (hlater : ∀ next, ∃ run, uploadLoop limit pass.device (packSn + 1) next =
      some run ∧ SendsBack run bytes) :
    ∃ run, uploadLoop (limit + 1) device packSn buffer = some run ∧
      SendsBack run (slice payload 0 filled ++
        ((file.content.drop sent).take count ++ bytes)) := by
  have hret : pass.ret = ((filled + count : Nat) : Int) := hpasses.ret
  let written := putBytes buffer headerSize pass.buffer
  let frame := withChecksum (setDataLen written (filled + count))
    (headerSize + (filled + count) + 1)
  obtain ⟨later, hloop, hsends⟩ :=
    hlater (putBytes (putBytes written 0 frame) 9 [packSn + 1])
  have hfirst : uploadLoop (limit + 1) device packSn buffer =
      some { later with frames := frame :: later.frames } := by
    have hpass' : uploadFile device packSn (buffer.drop headerSize)
      (maxTcpDataLength - headerSize - 1) = some pass := hpass
    rw [uploadLoop, hpass', Option.bind_eq_bind, Option.bind_some, hret,
      if_pos (Int.natCast_pos.mpr hpos), Int.toNat_natCast]
    simp only [frame, written] at hloop ⊢
    rw [hloop]
    rfl
  have hframe : sentPayload frame = slice payload 0 filled ++
      (file.content.drop sent).take count := by
    rw [sentPayload_withDataLen _ hmax, slice_putBytes _ _ hpasses.length]
    exact hpasses.bytes
  refine ⟨_, hfirst, hsends.ret, ?_, ?_⟩
  · rw [List.flatMap_cons, hframe, hsends.payloads, List.append_assoc]
  · refine List.forall_mem_cons.mpr ⟨?_, hsends.short⟩
    rw [hframe, ← hpasses.bytes, length_slice]
    exact hmax

theorem FileTransfer.Uploading.end_sent
    (h : file.Uploading device file.content.length)
    (hmem : file.type ∈ FileType.catalogued) (hsn : packSn ≠ 1)
    (limit : Nat) :
    ∃ run, uploadLoop (limit + 1) device packSn buffer = some run ∧
      SendsBack run [] := by
  have hpasses := h.pass hmem maxPayloadLength
    (Nat.zero_le (buffer.drop headerSize).length)
  rw [Nat.sub_self, Nat.min_zero] at hpasses
  exact uploadLoop_last limit (by rw [uploadFile, if_neg hsn]) hpasses.ret

/-- The passes behind the first one; `left` packets are enough for the rest. -/
theorem FileTransfer.Uploading.rest_sent {number left : Nat}
    (h : file.Uploading device sent) (hmem : file.type ∈ FileType.catalogued)
    (hlow : 2 ≤ number) (hhigh : number + left ≤ 256)
    (hleft : file.content.length ≤ sent + maxPayloadLength * left)
    (extra : Nat) :
    ∃ run, uploadLoop (left + extra + 1) device (UInt8.ofNat number) buffer =
      some run ∧ SendsBack run (file.content.drop sent) := by
  have hsent := h.sent_le
  induction left generalizing device sent number buffer with
  | zero =>
      obtain rfl : sent = file.content.length := by omega
      rw [List.drop_length]
      exact h.end_sent hmem (ofNat_ne_one hlow (by omega)) _
  | succ left ih =>
      have hsn : UInt8.ofNat number ≠ 1 := ofNat_ne_one hlow (by omega)
      rcases Nat.eq_or_lt_of_le hsent with rfl | hmore
      · rw [List.drop_length]
        exact h.end_sent hmem hsn _
      have hpasses := h.pass hmem maxPayloadLength
        (Nat.zero_le (buffer.drop headerSize).length)
      rw [Nat.sub_zero] at hpasses
      have hroom : 0 < maxPayloadLength := by decide
      generalize hcount : min maxPayloadLength (file.content.length - sent) =
        count at hpasses
      have hlater : ∀ next, ∃ run, uploadLoop (left + extra + 1)
          (uploadData device (buffer.drop headerSize) maxPayloadLength 0).device
          (UInt8.ofNat number + 1) next = some run ∧
            SendsBack run (file.content.drop (sent + count)) := by
        intro next
        have hnumber : UInt8.ofNat number + 1 = UInt8.ofNat (number + 1) :=
          (UInt8.ofNat_add number 1).symm
        rw [hnumber]
        rw [Nat.mul_succ] at hleft
        exact ih hpasses.next (by omega) (by omega) (by omega)
          hpasses.next.sent_le
      have hsends := uploadLoop_more (by rw [uploadFile, if_neg hsn]) hpasses
        (by omega) (by omega) hlater
      rw [← List.drop_drop, List.take_append_drop] at hsends
      rw [Nat.succ_add]
      exact hsends

end Loop

/-! ## The request -/

structure UploadRequest (device : Device) (type : FileType) (frame : Bytes) :
    Prop where
  accepted : commandAccepted device frame = true
  command : Command.ofCode? (byteAt frame 0) = some .configureFilesOpt
  upload : isUpload frame = true
  fileType : getFileType (frame.drop (headerSize + 2)) = some type

def FileTransfer.uploadHead (file : FileTransfer) : Bytes :=
  0 :: UInt8.ofNat file.name.length :: (file.name ++ networkOrder32 file.size)

theorem FileTransfer.length_uploadHead (file : FileTransfer) :
    file.uploadHead.length = file.name.length + 6 := by
  simp [FileTransfer.uploadHead, networkOrder32, littleEndian32]

theorem FileTransfer.content_le (file : FileTransfer)
    (hmem : file.type ∈ FileType.catalogued) :
    file.content.length ≤ 65536 := by
  have hregion := file.region
  have hlimit : file.limit = 65536 := by
    simp only [FileType.catalogued, List.mem_cons, List.not_mem_nil,
      or_false] at hmem
    rcases hmem with htype | htype | htype <;> rw [htype] at hregion <;>
      exact (congrArg Prod.snd (Option.some.inj hregion)).symm
  exact hlimit ▸ file.length_content

structure FileTransfer.Offered (file : FileTransfer) (device : Device) :
    Prop where
  entry : device.fileInfoList.info? file.type = some file.info
  stored : file.StoredIn device.flash

def FileTransfer.opened (file : FileTransfer) (device : Device) : Device :=
  device.setTransfer fun transfer =>
    { transfer with
      state := .upload
      fileType := some file.type
      flashAddr := UInt32.ofNat file.base
      remain := file.size }

theorem FileTransfer.Offered.uploading {device : Device}
    (h : file.Offered device) : file.Uploading (file.opened device) 0 := by
  have hbounds := file.bounds
  refine ⟨rfl, ?_, file.size_toNat, Nat.zero_le _, h.stored⟩
  exact Nat.mod_eq_of_lt (by omega)

theorem FileTransfer.Offered.first_pass {device : Device} {payload : Bytes}
    (h : file.Offered device) (hmem : file.type ∈ FileType.catalogued)
    (hname : 0 ∉ file.name) (hversion : file.version ≠ 0xffffffff)
    (htype : getFileType (payload.drop 2) = some file.type) :
    uploadFile device 1 payload maxPayloadLength =
      some (uploadData (file.opened device) (putBytes payload 0 file.uploadHead)
        maxPayloadLength file.uploadHead.length) := by
  let typed := device.setTransfer fun transfer =>
    { transfer with state := .upload, fileType := some file.type }
  have hopen : openUpload typed file.type =
      some (some ⟨file.size, file.name⟩, typed.setTransfer fun transfer =>
        { transfer with flashAddr := UInt32.ofNat file.base }) := by
    have hentry : typed.fileInfoList.info? file.type = some file.info := h.entry
    rw [openUpload_catalogued hmem file.region hentry]
    simp [openConfigFile, FileTransfer.info, hversion, zero_mem_copy,
      cString_copy hname file.length_name]
  simp only [uploadFile, if_true, htype]
  simp only [typed] at hopen
  rw [hopen]
  rfl

theorem FileTransfer.Offered.sent_back {device : Device} {frame : Bytes}
    (h : file.Offered device) (hmem : file.type ∈ FileType.catalogued)
    (hname : 0 ∉ file.name) (hversion : file.version ≠ 0xffffffff)
    (htype : getFileType (frame.drop (headerSize + 2)) = some file.type)
    {limit : Nat} (hlimit : 67 ≤ limit) :
    ∃ run, uploadLoop limit device 1 frame = some run ∧
      SendsBack run (file.uploadHead ++ file.content) := by
  obtain ⟨extra, rfl⟩ := Nat.exists_eq_add_of_le hlimit
  have hsize := file.content_le hmem
  have hnameLength := file.length_name
  have hhead := file.length_uploadHead
  have hpass := h.first_pass hmem hname hversion
    (show getFileType ((frame.drop headerSize).drop 2) = some file.type by
      rw [List.drop_drop]
      exact htype)
  have hpasses := h.uploading.pass hmem maxPayloadLength
    (show file.uploadHead.length ≤
        (putBytes (frame.drop headerSize) 0 file.uploadHead).length by
      rw [length_putBytes]
      omega)
  rw [Nat.sub_zero] at hpasses
  generalize hcount : min (maxPayloadLength - file.uploadHead.length)
    file.content.length = count at hpasses
  have hroom : maxPayloadLength = 1011 := rfl
  have hsends := uploadLoop_more hpass hpasses (by omega) (by omega)
    fun next => hpasses.next.rest_sent hmem (Nat.le_refl 2)
      (show 2 + 65 ≤ 256 by decide) (by omega) extra
  rw [slice_putBytes _ _ (Nat.le_refl _), slice_all, Nat.zero_add,
    List.drop_zero, List.take_append_drop] at hsends
  have hfuel : 67 + extra = 65 + extra + 1 + 1 := by omega
  rw [hfuel]
  exact hsends

/-! ## Download and upload -/

structure FileTransfer.SentBack (file : FileTransfer)
    (result : CommandResult) : Prop where
  packets : ∃ packets : List Bytes, result.effects = packets.map .send ∧
    (∀ packet ∈ packets, (sentPayload packet).length ≤ maxPayloadLength) ∧
    packets.flatMap sentPayload =
      0 :: UInt8.ofNat file.name.length ::
        (file.name ++ networkOrder32 file.size) ++ file.content
  idle : result.device.fileOperateState.state = .idle

theorem FileTransfer.Offered.answered {device : Device} {frame : Bytes}
    (h : file.Offered device) (hmem : file.type ∈ FileType.catalogued)
    (hname : 0 ∉ file.name) (hversion : file.version ≠ 0xffffffff)
    (hrequest : UploadRequest device file.type frame) {env : CommandEnv}
    (hlimit : 67 ≤ env.uploadLimit) (fd : Int) :
    ∃ result, analyzeCommand env fd device frame = some result ∧
      file.SentBack result := by
  have hsn : headerPackSn frame = 1 := by
    have hupload := hrequest.upload
    simp only [isUpload, Bool.and_eq_true, beq_iff_eq] at hupload
    exact hupload.1
  obtain ⟨run, hloop, hsends⟩ :=
    h.sent_back hmem hname hversion hrequest.fileType hlimit
  have hanswer : analyzeCommand env fd device frame =
      some ⟨fileOperateReset run.device, run.frames.map .send⟩ := by
    have hret : run.ret ≠ -1 := by
      rw [hsends.ret]
      decide
    simp [analyzeCommand, hrequest.accepted, hrequest.command, handleCommand,
      configureFilesOpt, hrequest.upload, uploadCommand, hsn, hloop, hret]
  exact ⟨_, hanswer, ⟨run.frames, rfl, hsends.short, hsends.payloads⟩, rfl⟩

/--
A file that was downloaded in at most 255 packets is sent back by the next
request for its type.  Of the passes of the upload loop 67 are enough.
-/
theorem upload_returns_download (file : FileTransfer) (env : Nat → CommandEnv)
    (fd : Int) {device : Device} (hmem : file.type ∈ FileType.catalogued)
    (hname : 0 ∉ file.name)
    (hversion : file.version ≠ 0xffffffff)
    (hidle : device.fileOperateState = .reset)
    (hid : file.target.id = device.wncDevice.id ∨ file.target.id = 0)
    (hcount : file.payloads.length ≤ 255) :
    ∃ effects final, deliverAll env fd 1 device file.frames =
        some (effects, final) ∧
      ReturnsInOrder effects file.payloads.length ∧
      ∀ uploadEnv uploadFd frame, 67 ≤ uploadEnv.uploadLimit →
        UploadRequest final file.type frame →
        ∃ result, analyzeCommand uploadEnv uploadFd final frame = some result ∧
          file.SentBack result := by
  obtain ⟨effects, final, hdeliver, horder, hclosed⟩ :=
    file.closed_of_few_packets env fd hidle hid (by omega)
  refine ⟨effects, final, hdeliver, horder, ?_⟩
  intro uploadEnv uploadFd frame hlimit hrequest
  have hoffered : file.Offered final :=
    ⟨hclosed.catalogued hmem, hclosed.storedIn⟩
  exact hoffered.answered hmem hname hversion hrequest hlimit uploadFd

/-- `LN_light_connect_1` with the content `ABC`, in two packets. -/
def shortFile : FileTransfer where
  target := ⟨0, ascii "LN" ++ [0, 0], rfl⟩
  mark := 2
  name := ascii "LN_light_connect_1"
  first := [65]
  later := [[66, 67]]
  type := .lightConnect
  version := 1
  base := lightConnectFileAddr
  limit := maxConfigFileSize
  mark_ne_zero := by decide
  length_name := by decide
  fileType := by decide
  hasVersion := by decide
  region := by decide
  length_first := by decide
  length_later := by
    intro part hpart
    rw [List.mem_singleton.mp hpart]
    decide
  length_content := by decide

def connectRequest : Bytes :=
  shortFile.target.fileCommand 1 ([0, 17] ++ ascii "LN_light_connect_")

theorem short_file_sent_back :
    ∃ effects final result, deliverAll (fun _ => .sample) 0 1 Device.blank
        shortFile.frames = some (effects, final) ∧
      analyzeCommand .sample 0 final connectRequest = some result ∧
      shortFile.SentBack result := by
  obtain ⟨effects, final, hdeliver, -, hupload⟩ :=
    upload_returns_download shortFile (fun _ => .sample) 0
      (show FileType.lightConnect ∈ FileType.catalogued by decide) (by decide)
      (by decide) (rfl : Device.blank.fileOperateState = .reset)
      (.inr rfl) (by decide)
  have hrequest : UploadRequest final shortFile.type connectRequest :=
    ⟨commandAccepted_fileCommand shortFile.target 1 _ (.inr rfl), by decide,
      by decide, by decide⟩
  obtain ⟨result, hresult, hsent⟩ :=
    hupload .sample 0 connectRequest (by decide) hrequest
  exact ⟨effects, final, result, hdeliver, hresult, hsent⟩

end WncFirmware
