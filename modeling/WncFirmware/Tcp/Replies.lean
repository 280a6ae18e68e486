import WncFirmware.Tcp.Buffers

/-!
# Replies are frames

Every buffer that `analyze_command` passes to `send` can be read by the peer as
a frame of the same protocol.
-/

namespace WncFirmware.Tcp

open WncFirmware.Foundation

structure ValidFrame (frame : Bytes) : Prop where
  length_eq : frame.length = declaredLength frame
  length_le : frame.length ≤ maxTcpDataLength
  deviceType : isDeviceType frame = true
  checksum : checksumCorrect frame = true

def Effect.Valid : Effect → Prop
  | .send frame => ValidFrame frame
  | .post _ => True
  | .downloaded _ => True

/-! ## Header fields of a rewritten buffer -/

theorem isDeviceType_congr {first second : Bytes}
    (h : ∀ index, 5 ≤ index → index < 7 →
      byteAt first index = byteAt second index) :
    isDeviceType first = isDeviceType second := by
  rw [isDeviceType, isDeviceType, h 5 (by omega) (by omega),
    h 6 (by omega) (by omega)]

theorem headerDataLen_congr {first second : Bytes}
    (h : ∀ index, 10 ≤ index → index < 12 →
      byteAt first index = byteAt second index) :
    headerDataLen first = headerDataLen second := by
  rw [headerDataLen, headerDataLen, h 10 (by omega) (by omega),
    h 11 (by omega) (by omega)]

theorem isDeviceType_putBytes {index : Nat} (buffer bytes : Bytes)
    (h : 7 ≤ index) :
    isDeviceType (putBytes buffer index bytes) = isDeviceType buffer :=
  isDeviceType_congr fun _ _ hlt =>
    byteAt_putBytes_before buffer bytes (by omega)

theorem headerDataLen_putBytes {index : Nat} (buffer bytes : Bytes)
    (h : headerSize ≤ index) :
    headerDataLen (putBytes buffer index bytes) = headerDataLen buffer := by
  rw [headerSize] at h
  exact headerDataLen_congr fun _ _ hlt =>
    byteAt_putBytes_before buffer bytes (by omega)

theorem headerDataLen_setDataLen {dataLen : Nat} (buffer : Bytes)
    (h : dataLen < 65536) :
    headerDataLen (setDataLen buffer dataLen) = dataLen := by
  have hmod : dataLen % 65536 = dataLen := Nat.mod_eq_of_lt h
  have hhigh : byteAt (setDataLen buffer dataLen) 10 = byteOf dataLen 1 := by
    simp [setDataLen, byteAt_putBytes, networkOrder16, littleEndian16, hmod]
  have hlow : byteAt (setDataLen buffer dataLen) 11 = byteOf dataLen 0 := by
    simp [setDataLen, byteAt_putBytes, networkOrder16, littleEndian16, hmod]
  rw [headerDataLen, hhigh, hlow, bigEndian16, toNat_byteOf, toNat_byteOf]
  omega

/-! ## The checksum at the end -/

theorem byteAt_withChecksum {len index : Nat} (buffer : Bytes)
    (h : index < len - 1) :
    byteAt (withChecksum buffer len) index = byteAt buffer index := by
  have hinside : index < (slice buffer 0 (len - 1)).length := by
    simpa using h
  rw [withChecksum, byteAt_append_left _ hinside, byteAt_slice buffer h,
    Nat.zero_add]

theorem length_withChecksum (buffer : Bytes) (dataLen : Nat) :
    (withChecksum buffer (headerSize + dataLen + 1)).length =
      headerSize + dataLen + 1 := by
  simp [withChecksum]

theorem withChecksum_valid {buffer : Bytes} {dataLen : Nat}
    (hlen : headerDataLen buffer = dataLen)
    (htype : isDeviceType buffer = true) (hmax : dataLen ≤ 1011) :
    ValidFrame (withChecksum buffer (headerSize + dataLen + 1)) := by
  have hheader : ∀ index, index < 12 →
      byteAt (withChecksum buffer (headerSize + dataLen + 1)) index =
        byteAt buffer index := by
    intro index hindex
    apply byteAt_withChecksum
    simp only [headerSize]
    omega
  constructor
  · rw [length_withChecksum, declaredLength,
      headerDataLen_congr fun index _ hlt => hheader index hlt, hlen]
  · rw [length_withChecksum]
    simp only [headerSize, maxTcpDataLength]
    omega
  · rw [isDeviceType_congr fun index _ hlt => hheader index (by omega)]
    exact htype
  · exact checksumCorrect_append _

theorem withDataLen_valid {buffer : Bytes} {dataLen : Nat}
    (htype : isDeviceType buffer = true) (hmax : dataLen ≤ 1011) :
    ValidFrame (withChecksum (setDataLen buffer dataLen)
      (headerSize + dataLen + 1)) := by
  apply withChecksum_valid
  · exact headerDataLen_setDataLen buffer (by omega)
  · rw [setDataLen, isDeviceType_putBytes _ _ (by omega)]
    exact htype
  · exact hmax

/-! ## The three kinds of reply -/

theorem reply_valid {frame payload : Bytes}
    (htype : isDeviceType frame = true) (hmax : payload.length ≤ 1011) :
    (reply frame payload).Valid := by
  apply withDataLen_valid
  · rw [isDeviceType_putBytes _ _ (by simp [headerSize])]
    exact htype
  · exact hmax

theorem replyInPlace_valid {frame : Bytes} (hframe : ValidFrame frame)
    (done : Bool) : (replyInPlace frame done).Valid := by
  have hlength := hframe.length_eq
  have hmax := hframe.length_le
  rw [declaredLength] at hlength
  rw [replyInPlace, hlength]
  apply withChecksum_valid
  · exact headerDataLen_putBytes _ _ (Nat.le_refl _)
  · rw [isDeviceType_putBytes _ _ (by simp [headerSize])]
    exact hframe.deviceType
  · simp only [headerSize, maxTcpDataLength] at *
    omega

theorem replyBad_valid (device : Device) (frame : Bytes) :
    (replyBad device frame).Valid := by
  apply withDataLen_valid
  · rw [isDeviceType_putBytes _ _ (by omega)]
    simp [isDeviceType, byteAt_putBytes, ascii]
  · omega

/-! ## Lengths of the payloads -/

theorem length_decimal_byte (byte : UInt8) :
    (decimal byte.toNat).length ≤ 3 := by
  have hlt := byte.toNat_lt
  have hdigits : (Nat.toDigits 10 byte.toNat).length ≤ 3 :=
    (Nat.length_toDigits_le_iff (by omega) (by omega)).mpr (by omega)
  have htext : toString (byte.toNat : Int) = Nat.repr byte.toNat := rfl
  simpa [decimal, ascii, htext] using hdigits

theorem length_ipDigitToStr_le (ip : UInt32) :
    (ipDigitToStr ip).length ≤ 16 := by
  have hfirst := length_decimal_byte (byteOf ip.toNat 0)
  have hsecond := length_decimal_byte (byteOf ip.toNat 1)
  have hthird := length_decimal_byte (byteOf ip.toNat 2)
  have hfourth := length_decimal_byte (byteOf ip.toNat 3)
  have hdot : (ascii ".").length = 1 := rfl
  simp only [ipDigitToStr, List.length_cons, List.length_append, hdot]
  omega

theorem length_getDeviceNetParams_le (env : CommandEnv) :
    (getDeviceNetParams env).length ≤ 49 := by
  have hip := length_ipDigitToStr_le env.ipAddr
  have hnetmask := length_ipDigitToStr_le env.netmask
  have hgateway := length_ipDigitToStr_le env.gwAddr
  simp only [getDeviceNetParams, List.length_cons, List.length_append]
  omega

theorem length_getDevAllInfo_le (env : CommandEnv) (device : Device)
    (payload : Bytes) : (getDevAllInfo env device payload).length ≤ 83 := by
  have hparams := length_getDeviceNetParams_le env
  simp only [getDevAllInfo, networkOrder32, littleEndian32, List.length_append,
    length_slice, List.length_reverse, List.length_cons, List.length_nil]
  omega

theorem length_getDatetime (env : CommandEnv) :
    (getDatetime env).length = 7 := by
  unfold getDatetime
  split <;> simp [networkOrder16, littleEndian16]

theorem length_getSelfDetectorInfo_le (device : Device) :
    (getSelfDetectorInfo device).length ≤ 601 := by
  have hnum := device.parkingLists.detectorInfoList.length_le
  have hrecord : ∀ detector, (detectorRecord detector).length = 10 := by
    intro detector
    simp [detectorRecord, networkOrder32, networkOrder16, littleEndian32,
      littleEndian16]
  have hrecords : ∀ detectors,
      (List.flatMap detectorRecord detectors).length = 10 * detectors.length := by
    intro detectors
    induction detectors with
    | nil => rfl
    | cons detector rest ih =>
        rw [List.flatMap_cons, List.length_append, ih, hrecord,
          List.length_cons]
        omega
  rw [maxDetectorPerWnc] at hnum
  rw [getSelfDetectorInfo, List.length_cons, hrecords]
  omega

/-! ## The passes of an upload -/

theorem length_readFile_le (device : Device) (maxSize : Nat) :
    (readFile device maxSize).2.length ≤ maxSize := by
  unfold readFile
  split
  · simp
  · simp
  · simp
  · simp
  · exact length_logRead_le _ _ _
  · exact length_logRead_le _ _ _
  · simp
  · simp
  · simp

theorem uploadData_ret_le {device : Device} {buffer : Bytes}
    {bufSize filled : Nat} (h : filled ≤ bufSize) :
    (uploadData device buffer bufSize filled).ret ≤ bufSize := by
  unfold uploadData
  split
  · have hread := length_readFile_le device
      (min (bufSize - filled) device.fileOperateState.remain.toNat)
    dsimp only
    omega
  · dsimp only
    omega

def NamesTerminated (list : FileInfoList) : Prop :=
  ∀ type info, list.info? type = some info → 0 ∈ info.fileName.bytes

theorem length_openConfigFile_name {device opened : Device} {addr : Nat}
    {info : SingleFileInfo} {source : UploadSource}
    (h : openConfigFile device addr info = some (some source, opened)) :
    source.name.length ≤ 255 := by
  unfold openConfigFile at h
  split at h
  · cases h
  · split at h
    case isFalse => cases h
    case isTrue hzero =>
      cases h
      have hlt := length_cString_lt hzero
      rw [info.fileName.length_eq, maxFileNameLen] at hlt
      dsimp only
      omega

theorem length_openUpload_name {device opened : Device} {type : FileType}
    {source : UploadSource}
    (h : openUpload device type = some (some source, opened)) :
    source.name.length ≤ 255 := by
  cases type with
  | regionConfig => exact length_openConfigFile_name h
  | lightConnect => exact length_openConfigFile_name h
  | lightParking => exact length_openConfigFile_name h
  | sensorList => exact length_openConfigFile_name h
  | systemLog =>
      cases h
      exact show FileType.systemLog.nameDef.length ≤ 255 by decide
  | workStateLog =>
      cases h
      exact show FileType.workStateLog.nameDef.length ≤ 255 by decide
  | upgradeBin => cases h
  | reservedParking => cases h

theorem openConfigFile_isSome {device : Device} {addr : Nat}
    {info : SingleFileInfo} (h : 0 ∈ info.fileName.bytes) :
    (openConfigFile device addr info).isSome := by
  unfold openConfigFile
  split
  · rfl
  · rfl

theorem openUpload_isSome {device : Device}
    (h : NamesTerminated device.fileInfoList) (type : FileType) :
    (openUpload device type).isSome := by
  cases type with
  | regionConfig => exact openConfigFile_isSome (h .regionConfig _ rfl)
  | lightConnect => exact openConfigFile_isSome (h .lightConnect _ rfl)
  | lightParking => exact openConfigFile_isSome (h .lightParking _ rfl)
  | sensorList => exact openConfigFile_isSome (h .sensorList _ rfl)
  | _ => rfl

theorem uploadFile_ret_le {device : Device} {packSn : UInt8} {buffer : Bytes}
    {bufSize : Nat} {pass : UploadPass} (hsize : 261 ≤ bufSize)
    (h : uploadFile device packSn buffer bufSize = some pass) :
    pass.ret ≤ bufSize := by
  unfold uploadFile at h
  split at h
  case isFalse =>
    cases h
    exact uploadData_ret_le (Nat.zero_le _)
  case isTrue =>
    dsimp only at h
    split at h
    · cases h
      dsimp only
      omega
    · split at h
      · cases h
      · cases h
        dsimp only
        omega
      · rename_i source opened hopen
        have hname := length_openUpload_name hopen
        cases h
        apply uploadData_ret_le
        simp only [networkOrder32, littleEndian32, List.length_cons,
          List.length_append, List.length_reverse, List.length_nil]
        omega

theorem uploadFile_isSome {device : Device}
    (h : NamesTerminated device.fileInfoList) (packSn : UInt8) (buffer : Bytes)
    (bufSize : Nat) :
    (uploadFile device packSn buffer bufSize).isSome := by
  unfold uploadFile
  split
  case isFalse => rfl
  case isTrue =>
    dsimp only
    split
    · rfl
    · rename_i type hfile
      split
      · rename_i hnone
        exact absurd hnone (Option.isSome_iff_ne_none.mp
          (openUpload_isSome (by exact h) type))
      · rfl
      · rfl

def uploadFrames : Nat → Device → UInt8 → Bytes → List Bytes
  | 0, _, _, _ => []
  | limit + 1, device, packSn, buffer =>
      match uploadFile device packSn (buffer.drop headerSize)
        (maxTcpDataLength - headerSize - 1) with
      | none => []
      | some pass =>
          let filled := putBytes buffer headerSize pass.buffer
          if 0 < pass.ret then
            let dataLen := pass.ret.toNat
            let frame := withChecksum (setDataLen filled dataLen)
              (headerSize + dataLen + 1)
            frame :: uploadFrames limit pass.device (packSn + 1)
              (putBytes (putBytes filled 0 frame) 9 [packSn + 1])
          else []

theorem uploadLoop_frames {limit : Nat} {device : Device} {packSn : UInt8}
    {buffer : Bytes} {result : UploadRun}
    (h : uploadLoop limit device packSn buffer = some result) :
    result.frames = uploadFrames limit device packSn buffer := by
  induction limit generalizing device packSn buffer result with
  | zero => cases h
  | succ limit ih =>
      obtain ⟨pass, hpass, hrest⟩ := Option.bind_eq_some_iff.mp h
      rw [uploadFrames, hpass]
      dsimp only at hrest ⊢
      split at hrest
      case isTrue hpos =>
        obtain ⟨later, hlater, hresult⟩ := Option.bind_eq_some_iff.mp hrest
        cases hresult
        rw [if_pos hpos, ih hlater]
      case isFalse hend =>
        cases hrest
        rw [if_neg hend]

/-- A loop that has not ended at the limit has sent a frame in every pass. -/
theorem uploadLoop_none {limit : Nat} {device : Device} {packSn : UInt8}
    {buffer : Bytes} (hnames : NamesTerminated device.fileInfoList)
    (h : uploadLoop limit device packSn buffer = none) :
    (uploadFrames limit device packSn buffer).length = limit := by
  induction limit generalizing device packSn buffer with
  | zero => rfl
  | succ limit ih =>
      obtain ⟨pass, hpass⟩ := Option.isSome_iff_exists.mp
        (uploadFile_isSome hnames packSn (buffer.drop headerSize)
          (maxTcpDataLength - headerSize - 1))
      have hstores := sameStores_uploadFile hpass
      rw [uploadLoop, hpass, Option.bind_eq_bind, Option.bind_some] at h
      rw [uploadFrames, hpass]
      dsimp only at h ⊢
      split at h
      case isFalse => cases h
      case isTrue hpos =>
        rw [if_pos hpos, List.length_cons]
        congr 1
        apply ih
        · rw [hstores.2.2.2.2.1]
          exact hnames
        · apply Option.eq_none_iff_forall_ne_some.mpr
          simpa using h

theorem isDeviceType_putFrame {frame : Bytes} (buffer : Bytes)
    (h : ValidFrame frame) : isDeviceType (putBytes buffer 0 frame) = true := by
  have hlength := declaredLength_pos frame
  rw [← h.length_eq] at hlength
  rw [← h.deviceType]
  apply isDeviceType_congr
  intro index _ hlt
  rw [byteAt_putBytes, if_pos (by omega), Nat.sub_zero]

theorem uploadFrames_valid {limit : Nat} {device : Device} {packSn : UInt8}
    {buffer : Bytes} (htype : isDeviceType buffer = true) :
    ∀ frame ∈ uploadFrames limit device packSn buffer, ValidFrame frame := by
  induction limit generalizing device packSn buffer with
  | zero => simp [uploadFrames]
  | succ limit ih =>
      unfold uploadFrames
      split
      · simp
      · rename_i pass hpass
        have hret : pass.ret ≤ 1011 := uploadFile_ret_le (by decide) hpass
        extract_lets filled dataLen frame
        have hframe : ValidFrame frame := by
          apply withDataLen_valid
          · rw [isDeviceType_putBytes _ _ (by simp [headerSize])]
            exact htype
          · omega
        split
        · refine List.forall_mem_cons.mpr ⟨hframe, ih ?_⟩
          rw [isDeviceType_putBytes _ _ (by omega)]
          exact isDeviceType_putFrame filled hframe
        · simp

/-! ## Every command -/

theorem setterCommand_valid {setter : Setter} {device : Device}
    {frame : Bytes} {answer : Bool → Effect} {result : CommandResult}
    (hanswer : ∀ done, (answer done).Valid)
    (h : setterCommand setter device frame answer = some result) :
    ∀ effect ∈ result.effects, effect.Valid := by
  obtain ⟨⟨done, next⟩, hrun, hresult⟩ := Option.bind_eq_some_iff.mp h
  cases hresult
  simpa using hanswer done

theorem nodeCommand_valid {device : Device} {frame : Bytes}
    {message : Bytes → Message} {result : CommandResult}
    (h : nodeCommand device frame message = some result) :
    ∀ effect ∈ result.effects, effect.Valid := by
  unfold nodeCommand at h
  split at h
  · cases h
    simp [Effect.Valid]
  · cases h

theorem uploadCommand_valid {env : CommandEnv} {device : Device}
    {frame : Bytes} {result : CommandResult}
    (htype : isDeviceType frame = true)
    (h : uploadCommand env device frame = some result) :
    ∀ effect ∈ result.effects, effect.Valid := by
  obtain ⟨uploaded, hloop, hresult⟩ := Option.bind_eq_some_iff.mp h
  cases hresult
  intro effect heffect
  rcases List.mem_append.mp heffect with hsent | hfailed
  · obtain ⟨sent, hmem, rfl⟩ := List.mem_map.mp hsent
    rw [uploadLoop_frames hloop] at hmem
    exact uploadFrames_valid htype sent hmem
  · split at hfailed
    · obtain rfl := List.mem_singleton.mp hfailed
      exact reply_valid htype (by simp)
    · cases hfailed

theorem downloadCommand_valid {env : CommandEnv} {device : Device}
    {frame : Bytes} (htype : isDeviceType frame = true) :
    ∀ effect ∈ (downloadCommand env device frame).effects, effect.Valid := by
  unfold downloadCommand
  refine List.forall_mem_cons.mpr ⟨trivial, ?_⟩
  split
  · simp
  · refine List.forall_mem_singleton.mpr (reply_valid ?_ (by simp))
    rw [isDeviceType_putBytes _ _ (by omega)]
    exact htype

theorem handleCommand_valid {env : CommandEnv} {fd : Int} {device : Device}
    {frame : Bytes} {command : Command} {result : CommandResult}
    (hframe : ValidFrame frame)
    (h : handleCommand env fd device frame command = some result) :
    ∀ effect ∈ result.effects, effect.Valid := by
  have hreply : ∀ {payload : Bytes}, payload.length ≤ 601 →
      (reply frame payload).Valid := fun hlength =>
    reply_valid hframe.deviceType (by omega)
  have hpost : ∀ {message}, (Effect.post message).Valid := trivial
  cases command with
  | setDevIdAndMac =>
      cases h
      simpa using hreply (by simp)
  | eraseDevIdAndMac =>
      cases h
      simpa using hreply (by simp)
  | softReboot =>
      cases h
      simpa using ⟨hpost, hreply (by simp)⟩
  | adjustMachineClock =>
      cases h
      simpa using replyInPlace_valid hframe _
  | readMachineClock =>
      have hlength := length_getDatetime env
      cases h
      simpa using hreply (by omega)
  | setServerIp => exact setterCommand_valid (replyInPlace_valid hframe) h
  | configureFilesOpt =>
      rw [handleCommand, WncFirmware.Tcp.configureFilesOpt] at h
      split at h
      · exact uploadCommand_valid hframe.deviceType h
      · cases h
        exact downloadCommand_valid hframe.deviceType
  | netParamsOpt =>
      dsimp only [handleCommand] at h
      split at h
      · exact setterCommand_valid (replyInPlace_valid hframe) h
      · have hlength := length_getDeviceNetParams_le env
        cases h
        exact List.forall_mem_singleton.mpr (hreply (by
          rw [List.length_cons]
          omega))
  | getDeviceAllInfos =>
      have hlength := length_getDevAllInfo_le env device (payloadOf frame)
      cases h
      exact List.forall_mem_singleton.mpr (hreply (by omega))
  | getSlotInfos =>
      cases h
      exact List.forall_mem_singleton.mpr
        (hreply (length_getSelfDetectorInfo_le device))
  | localLoraParamsOpt =>
      dsimp only [handleCommand] at h
      split at h
      · exact setterCommand_valid (replyInPlace_valid hframe) h
      · cases h
        exact List.forall_mem_singleton.mpr (hreply (by
          simp [getLoraParams, networkOrder32, littleEndian32]))
  | sensorOfflineTimeout =>
      dsimp only [handleCommand] at h
      split at h
      · exact setterCommand_valid (fun _ => hreply (by simp)) h
      · cases h
        exact List.forall_mem_singleton.mpr (hreply (by
          simp [getOfflineTimeout, networkOrder16, littleEndian16]))
  | loraSendTest =>
      cases h
      simpa using ⟨hpost, hpost, hreply (by simp)⟩
  | userInit =>
      cases h
      simpa using hreply (by simp)
  | loraRecvTest =>
      cases h
      simpa using ⟨hpost, hpost⟩
  | loraConfigNodeByRange => exact nodeCommand_valid h
  | loraInitNode => exact nodeCommand_valid h
  | loraConfigNodeById => exact nodeCommand_valid h

/-- Only an upload can go on for ever, and it then sends in every pass. -/
def StillUploading (env : CommandEnv) (device : Device) (frame : Bytes) : Prop :=
  Command.ofCode? (byteAt frame 0) = some .configureFilesOpt ∧
    isUpload frame = true ∧
    (uploadFrames env.uploadLimit device (headerPackSn frame) frame).length =
      env.uploadLimit

theorem handleCommand_none {env : CommandEnv} {fd : Int} {device : Device}
    {frame : Bytes} {command : Command}
    (hcommand : Command.ofCode? (byteAt frame 0) = some command)
    (hfit : LengthsFit frame) (hnames : NamesTerminated device.fileInfoList)
    (h : handleCommand env fd device frame command = none) :
    StillUploading env device frame := by
  by_cases hupload : command = .configureFilesOpt ∧ isUpload frame = true
  · obtain ⟨rfl, hupload⟩ := hupload
    refine ⟨hcommand, hupload, uploadLoop_none hnames ?_⟩
    rw [handleCommand, WncFirmware.Tcp.configureFilesOpt, if_pos hupload,
      uploadCommand] at h
    apply Option.eq_none_iff_forall_ne_some.mpr
    simpa using h
  · have hsome : (handleCommand env fd device frame command).isSome :=
      handleCommand_isSome hcommand hfit (by simpa using hupload)
    rw [h] at hsome
    cases hsome

theorem replies_are_valid_frames (env : CommandEnv) (fd : Int)
    (device : Device) (frame : Bytes) (hframe : ValidFrame frame)
    (hfit : LengthsFit frame) :
    (∀ result, analyzeCommand env fd device frame = some result →
      ∀ effect ∈ result.effects, effect.Valid) ∧
    (∀ sent ∈ uploadFrames env.uploadLimit device (headerPackSn frame) frame,
      ValidFrame sent) ∧
    (NamesTerminated device.fileInfoList →
      analyzeCommand env fd device frame = none →
        StillUploading env device frame) := by
  refine ⟨?_, uploadFrames_valid hframe.deviceType, ?_⟩
  · intro result h
    unfold analyzeCommand at h
    rw [if_pos hframe.checksum] at h
    split at h
    · split at h
      · exact handleCommand_valid hframe h
      · cases h
        simpa using replyBad_valid device frame
    · cases h
      simpa using replyBad_valid device frame
  · intro hnames h
    unfold analyzeCommand at h
    rw [if_pos hframe.checksum] at h
    split at h
    · split at h
      · rename_i command hcommand
        exact handleCommand_none hcommand hfit hnames h
      · cases h
    · cases h

/-- `CMD_SET_SERVER_IP` for the port of the UDP server and two addresses, the
first of them as long as an address can be. -/
def serverIpFrame : Bytes :=
  let payload := [0, 0, 0x14, 0x5a, 15] ++ ascii "192.168.100.200" ++ [7] ++
    ascii "0.0.0.0"
  let body := [Command.setServerIp.code, 0, 0, 0, 0, 76, 78, 0, 0, 1, 0, 28] ++
    payload
  body ++ [xorVerify body]

theorem server_ip_reply_valid :
    ∃ result answer, analyzeCommand .sample 3 Device.blank serverIpFrame =
        some result ∧
      result.effects = [.send answer] ∧ ValidFrame answer := by
  have hframe : ValidFrame serverIpFrame :=
    ⟨by decide, by decide, by decide, by decide⟩
  have hcommand : Command.ofCode? (byteAt serverIpFrame 0) =
      some .setServerIp := by decide
  have haccepted : commandAccepted Device.blank serverIpFrame = true := by
    decide
  have hhandled : analyzeCommand .sample 3 Device.blank serverIpFrame =
      setterCommand .serverIp Device.blank serverIpFrame
        (replyInPlace serverIpFrame) := by
    rw [analyzeCommand, if_pos haccepted, hcommand]
    rfl
  have hfits : ServerIpLengthsFit (payloadOf serverIpFrame) := fun _ => by decide
  obtain ⟨⟨done, next⟩, hset⟩ := Option.isSome_iff_exists.mp
    (serverIp_isSome Device.blank (UInt16.ofNat (headerDataLen serverIpFrame))
      hfits)
  have hresult : analyzeCommand .sample 3 Device.blank serverIpFrame =
      some ⟨next, [replyInPlace serverIpFrame done]⟩ := by
    rw [hhandled, setterCommand, hset]
    rfl
  exact ⟨_, _, hresult, rfl,
    (replies_are_valid_frames .sample 3 Device.blank serverIpFrame hframe
      hfits).1 _ hresult _ (List.mem_singleton_self _)⟩

/-! ## Rejected frames -/

structure ErrorReply (device : Device) (frame : Bytes) : Prop where
  valid : ValidFrame frame
  length_eq : frame.length = 13
  id : headerId frame = device.wncDevice.id
  packSn : headerPackSn frame = 1
  dataLen : headerDataLen frame = 0

def AnsweredOnly (env : CommandEnv) (fd : Int) (device : Device)
    (frame : Bytes) : Prop :=
  ∃ answer, ErrorReply device answer ∧
    analyzeCommand env fd device frame = some ⟨device, [.send answer]⟩

theorem replyBad_errorReply (device : Device) (frame : Bytes) :
    ∃ answer, replyBad device frame = .send answer ∧
      ErrorReply device answer := by
  have hvalid : ValidFrame _ := replyBad_valid device frame
  refine ⟨_, rfl, hvalid, length_withChecksum _ 0, ?_, ?_, ?_⟩
  · have hkept : ∀ index, 1 ≤ index → index < 5 → byteAt (withChecksum
        (setDataLen (putBytes (putBytes (putBytes frame 1
          (networkOrder32 device.wncDevice.id)) 5 (ascii "LN")) 9 [1]) 0)
          (headerSize + 1)) index =
        byteAt (networkOrder32 device.wncDevice.id) (index - 1) := by
      intro index hfirst hlast
      rw [byteAt_withChecksum _ (by simp only [headerSize]; omega), setDataLen,
        byteAt_putBytes_before _ _ (by omega),
        byteAt_putBytes_before _ _ (by omega),
        byteAt_putBytes_before _ _ (by omega), byteAt_putBytes, if_pos]
      simp only [networkOrder32, littleEndian32, List.length_reverse,
        List.length_cons, List.length_nil]
      omega
    rw [headerId, hkept 1 (by omega) (by omega), hkept 2 (by omega) (by omega),
      hkept 3 (by omega) (by omega), hkept 4 (by omega) (by omega)]
    exact bigEndian32_byteOf device.wncDevice.id
  · rw [headerPackSn, byteAt_withChecksum _ (by simp only [headerSize]; omega),
      setDataLen, byteAt_putBytes_before _ _ (by omega)]
    simp [byteAt_putBytes]
  · have hlength := hvalid.length_eq
    rw [length_withChecksum _ 0, declaredLength] at hlength
    omega

theorem rejected_answered_iff (env : CommandEnv) (fd : Int) (device : Device)
    (frame : Bytes)
    (hrejected : checksumCorrect frame = false ∨
      addressed device frame = false) :
    AnsweredOnly env fd device frame ↔ checksumCorrect frame = true := by
  have haccepted : ¬commandAccepted device frame = true := by
    rcases hrejected with hrejected | hrejected <;>
      simp [commandAccepted, hrejected]
  rw [AnsweredOnly, analyzeCommand, if_neg haccepted]
  constructor
  · rintro ⟨answer, -, h⟩
    by_contra hchecksum
    rw [if_neg hchecksum] at h
    cases h
  · intro hchecksum
    obtain ⟨answer, hanswer, herror⟩ := replyBad_errorReply device frame
    refine ⟨answer, herror, ?_⟩
    rw [if_pos hchecksum, tcpBadCmd, Option.map_some, hanswer]

/-- A query for the device with the id 1. -/
def otherIdFrame : Bytes :=
  let body := [31, 0, 0, 0, 1, 76, 78, 0, 0, 1, 0, 0]
  body ++ [xorVerify body]

theorem other_id_answered :
    AnsweredOnly .sample 3 Device.blank otherIdFrame :=
  (rejected_answered_iff .sample 3 Device.blank otherIdFrame
    (.inr (by decide))).mpr (by decide)

def corruptedFrame : Bytes := [31, 0, 0, 0, 1, 76, 78, 0, 0, 1, 0, 0, 0]

theorem corrupted_frame_not_answered :
    dispatched [corruptedFrame] = [corruptedFrame] ∧
      checksumCorrect corruptedFrame = false ∧
      ¬AnsweredOnly .sample 3 Device.blank corruptedFrame := by
  refine ⟨by decide, by decide, ?_⟩
  rintro ⟨answer, -, h⟩
  have hnone : analyzeCommand .sample 3 Device.blank corruptedFrame = none := by
    rfl
  rw [hnone] at h
  cases h

end WncFirmware.Tcp
