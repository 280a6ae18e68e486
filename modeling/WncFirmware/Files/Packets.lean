import WncFirmware.Files.Upload

/-!
# What a download packet does

One lemma for each function on the way of a packet.  The later modules use these
and do not unfold the functions again.
-/

namespace WncFirmware

open WncFirmware.Foundation

/-! ## Regions -/

def FileType.erases (type : FileType) : List FlashOp :=
  match type with
  | upgradeBin => upgradeErases
  | regionConfig => [blkErase regionConfigFileAddr]
  | lightConnect => [blkErase lightConnectFileAddr]
  | lightParking => [blkErase lightParkingFileAddr]
  | sensorList => [blkErase sensorListFileAddr]
  | reservedParking => [blkErase reservedParkingFileAddr]
  | systemLog | workStateLog => []

theorem FileType.region?_bounds {type : FileType} {base limit : Nat}
    (h : type.region? = some (base, limit)) :
    65536 ≤ base ∧ base + limit ≤ 3801088 ∧ 65536 ≤ limit ∧
      limit ≤ 262144 := by
  cases type <;> simp only [region?, reduceCtorEq, Option.some.injEq,
    Prod.mk.injEq] at h <;> obtain ⟨rfl, rfl⟩ := h <;> decide

theorem FileType.erases_erase {type : FileType} {base limit : Nat}
    (h : type.region? = some (base, limit)) (flash : Memory) :
    Erased base (base + limit) (applyOps flash type.erases) := by
  have hconfig : ∀ addr, addr % 65536 = 0 →
      Erased addr (addr + maxConfigFileSize)
        (applyOps flash [blkErase addr]) := by
    intro addr haligned
    have herased := erased_erase flash (addr / 65536 * 65536) 65536
    rw [Nat.div_mul_cancel (Nat.dvd_of_mod_eq_zero haligned)] at herased
    simpa [blkErase, Nat.div_mul_cancel (Nat.dvd_of_mod_eq_zero haligned),
      maxConfigFileSize, flashBytesPerSector] using herased
  cases type with
  | regionConfig => cases h; exact hconfig regionConfigFileAddr rfl
  | lightConnect => cases h; exact hconfig lightConnectFileAddr rfl
  | lightParking => cases h; exact hconfig lightParkingFileAddr rfl
  | sensorList => cases h; exact hconfig sensorListFileAddr rfl
  | reservedParking => cases h; exact hconfig reservedParkingFileAddr rfl
  | upgradeBin =>
      cases h
      intro address hlow hhigh
      simp only [FileType.erases, upgradeErases, firmwareUpgradeAddr,
        maxUpgradeFileSize, flashBytesPerSector, List.range_succ_eq_map,
        List.range_zero, List.map_cons, List.map_nil, applyOps_cons,
        applyOps_nil, blkErase, FlashOp.apply] at *
      simp only [Nat.reduceMul, Nat.reduceAdd, Nat.reduceDiv] at *
      grind
  | systemLog => cases h
  | workStateLog => cases h

theorem FileType.regions_apart {type other : FileType}
    {base limit base' limit' : Nat} (hne : type ≠ other)
    (h : type.region? = some (base, limit))
    (h' : other.region? = some (base', limit')) :
    (base + limit ≤ base' ∨ base' + limit' ≤ base) ∧
      ∀ op ∈ other.erases, op.Avoids base (base + limit) := by
  cases type <;> cases other <;>
    simp only [region?, reduceCtorEq, Option.some.injEq, Prod.mk.injEq, ne_eq,
      not_true_eq_false] at h h' hne <;>
    obtain ⟨rfl, rfl⟩ := h <;> obtain ⟨rfl, rfl⟩ := h' <;> decide

/-! ## The first packet -/

structure Admissible (fileName : Bytes) (size : UInt32) (type : FileType)
    (version : UInt32) (base limit : Nat) : Prop where
  fileType : getFileType fileName = some type
  version : scanVersion (fileName.drop type.nameDef.length) = some version
  region : type.region? = some (base, limit)
  size_le : size.toNat ≤ limit

def Device.opened (device : Device) (type : FileType) (base : Nat)
    (fileName : Bytes) (size : UInt32) : Device :=
  { device with
    fileInfoList := device.fileInfoList.modifyEntry
      (fun info => { info with size := size, fileName := .copy fileName }) type
    fileOperateState := { device.fileOperateState with
      flashAddr := UInt32.ofNat base
      remain := size
      fileSize := size }
    flash := applyOps device.flash type.erases }

def Device.typed (device : Device) (fileType : Option FileType)
    (version : UInt32) : Device :=
  { device with
    fileOperateState := { device.fileOperateState with
      fileType := fileType
      version := version } }

def Prepares (device : Device) (type : FileType) (fileName : Bytes)
    (size : UInt32) (result : Bool × Device) : Prop :=
  (∃ base limit, type.region? = some (base, limit) ∧ size.toNat ≤ limit ∧
    result = (true, device.opened type base fileName size)) ∨
  ((∀ base limit, type.region? = some (base, limit) → limit < size.toNat) ∧
    result = (false, device))

theorem prepareConfigFile_prepares (device : Device) {type : FileType}
    {addr : Nat} (fileName : Bytes) (size : UInt32)
    (hregion : type.region? = some (addr, maxConfigFileSize))
    (herases : type.erases = [blkErase addr]) :
    Prepares device type fileName size
      (prepareConfigFile device type addr fileName size) := by
  unfold prepareConfigFile
  split
  case isTrue hlarge =>
    right
    refine ⟨?_, rfl⟩
    intro base limit hregion'
    cases hregion.symm.trans hregion'
    exact hlarge
  case isFalse hsmall =>
    left
    refine ⟨addr, maxConfigFileSize, hregion, by omega, ?_⟩
    simp only [Device.opened, Device.openTransfer, herases]

theorem prepareUpgradeFile_prepares (device : Device) (fileName : Bytes)
    (size : UInt32) :
    Prepares device .upgradeBin fileName size
      (prepareUpgradeFile device size) := by
  unfold prepareUpgradeFile
  split
  case isTrue hlarge =>
    right
    refine ⟨?_, rfl⟩
    intro base limit hregion
    cases hregion
    exact hlarge
  case isFalse hsmall =>
    left
    refine ⟨firmwareUpgradeAddr, maxUpgradeFileSize, rfl, by omega, ?_⟩
    simp only [Device.opened, Device.openTransfer, FileInfoList.modifyEntry,
      FileType.erases]

theorem prepareDownload_prepares (device : Device) (type : FileType)
    (fileName : Bytes) (size : UInt32) :
    Prepares device type fileName size
      (prepareDownload device type fileName size) := by
  cases type with
  | regionConfig => exact prepareConfigFile_prepares device fileName size rfl rfl
  | lightConnect => exact prepareConfigFile_prepares device fileName size rfl rfl
  | lightParking => exact prepareConfigFile_prepares device fileName size rfl rfl
  | sensorList => exact prepareConfigFile_prepares device fileName size rfl rfl
  | reservedParking =>
      exact prepareConfigFile_prepares device fileName size rfl rfl
  | upgradeBin => exact prepareUpgradeFile_prepares device fileName size
  | systemLog => exact .inr ⟨by simp [FileType.region?], rfl⟩
  | workStateLog => exact .inr ⟨by simp [FileType.region?], rfl⟩

def Device.accept (device : Device) (type : FileType) (version : UInt32)
    (base : Nat) (fileName : Bytes) (size : UInt32) : Device :=
  (device.typed (some type) version).opened type base fileName size

theorem processDownloadType_cases (device : Device) (fileName : Bytes)
    (size : UInt32) :
    (∃ type version base limit,
      Admissible fileName size type version base limit ∧
      processDownloadType device fileName size =
        (true, device.accept type version base fileName size)) ∨
    ((∀ type version base limit,
        ¬ Admissible fileName size type version base limit) ∧
      ∃ fileType version, processDownloadType device fileName size =
        (false, device.typed fileType version)) := by
  cases hknown : getFileType fileName with
  | none =>
      right
      refine ⟨?_, none, device.fileOperateState.version, ?_⟩
      · intro type version base limit hadmissible
        cases hknown.symm.trans hadmissible.fileType
      · simp only [processDownloadType, hknown, Device.typed]
  | some type =>
      cases hversion : scanVersion (fileName.drop type.nameDef.length) with
      | none =>
          right
          refine ⟨?_, some type, device.fileOperateState.version, ?_⟩
          · intro type' version base limit hadmissible
            cases hknown.symm.trans hadmissible.fileType
            cases hversion.symm.trans hadmissible.version
          · simp only [processDownloadType, hknown, hversion, Device.typed]
      | some version =>
          have hprocessed : processDownloadType device fileName size =
              prepareDownload (device.typed (some type) version) type fileName
                size := by
            simp only [processDownloadType, hknown, hversion, Device.typed]
          rw [hprocessed]
          rcases prepareDownload_prepares (device.typed (some type) version)
              type fileName size with
            ⟨base, limit, hregion, hsize, hprepared⟩ | ⟨hlarge, hprepared⟩
          · left
            exact ⟨type, version, base, limit,
              ⟨hknown, hversion, hregion, hsize⟩, hprepared⟩
          · right
            refine ⟨?_, some type, version, hprepared⟩
            intro type' version' base limit hadmissible
            cases hknown.symm.trans hadmissible.fileType
            have hlimit := hlarge base limit hadmissible.region
            have hsize := hadmissible.size_le
            omega

theorem Admissible.unique {fileName : Bytes} {size : UInt32}
    {type type' : FileType} {version version' : UInt32}
    {base base' limit limit' : Nat}
    (h : Admissible fileName size type version base limit)
    (h' : Admissible fileName size type' version' base' limit') :
    type = type' ∧ version = version' ∧ base = base' ∧ limit = limit' := by
  have htype : type = type' := Option.some.inj (h.fileType.symm.trans h'.fileType)
  subst htype
  have hversion := Option.some.inj (h.version.symm.trans h'.version)
  have hregion := Option.some.inj (h.region.symm.trans h'.region)
  simp only [Prod.mk.injEq] at hregion
  exact ⟨rfl, hversion, hregion.1, hregion.2⟩

theorem processDownloadType_admissible (device : Device) {fileName : Bytes}
    {size : UInt32} {type : FileType} {version : UInt32} {base limit : Nat}
    (h : Admissible fileName size type version base limit) :
    processDownloadType device fileName size =
      (true, device.accept type version base fileName size) := by
  rcases processDownloadType_cases device fileName size with
    ⟨type', version', base', limit', h', hprocessed⟩ | ⟨hnone, -⟩
  · obtain ⟨rfl, rfl, rfl, rfl⟩ := h.unique h'
    exact hprocessed
  · exact absurd h (hnone type version base limit)

/-! ## One packet -/

def Payload.ofBytes (bytes : Bytes) : Payload :=
  ⟨byteAt bytes, UInt16.ofNat bytes.length⟩

def Payload.Opens (payload : Payload) (type : FileType) (version : UInt32)
    (base limit : Nat) : Prop :=
  Admissible payload.fileName payload.fileSize type version base limit

def Device.begun (device : Device) (payload : Payload) (type : FileType)
    (version : UInt32) (base : Nat) : Device :=
  device.countPacket.startDownload.accept type version base payload.fileName
    payload.fileSize

theorem receivePacket_wrong {device : Device} {packSn : UInt8}
    (payload : Payload)
    (h : device.fileOperateState.packetSeq + 1 ≠ packSn) :
    receivePacket device packSn payload = (none, device.countPacket) := by
  simp only [receivePacket, Device.countPacket, h, if_true, ne_eq,
    not_false_eq_true]

theorem receivePacket_next {device : Device} {packSn : UInt8}
    (payload : Payload)
    (h : device.fileOperateState.packetSeq + 1 = packSn) (hsn : packSn ≠ 1) :
    receivePacket device packSn payload =
      (some payload, device.countPacket) := by
  simp only [receivePacket, Device.countPacket, h, hsn, if_false, ne_eq,
    not_true_eq_false]

theorem receivePacket_opens {device : Device} {payload : Payload}
    {type : FileType} {version : UInt32} {base limit : Nat}
    (h : device.fileOperateState.packetSeq = 0)
    (hopens : payload.Opens type version base limit) :
    receivePacket device 1 payload =
      (some (payload.drop (payload.fileNameLen + 6)),
        device.begun payload type version base) := by
  have hseq : device.countPacket.fileOperateState.packetSeq = 1 := by
    simp [Device.countPacket, h]
  simp only [receivePacket, hseq,
    processDownloadType_admissible device.countPacket.startDownload hopens,
    Device.begun, ne_eq, not_true_eq_false, if_false, if_true]

theorem receivePacket_refuses {device : Device} {payload : Payload}
    (h : device.fileOperateState.packetSeq = 0)
    (hnone : ∀ type version base limit,
      ¬ payload.Opens type version base limit) :
    ∃ fileType version, receivePacket device 1 payload =
      (none, device.countPacket.startDownload.typed fileType version) := by
  have hseq : device.countPacket.fileOperateState.packetSeq = 1 := by
    simp [Device.countPacket, h]
  rcases processDownloadType_cases device.countPacket.startDownload
      payload.fileName payload.fileSize with
    ⟨type, version, base, limit, hadmissible, -⟩ |
      ⟨-, fileType, version, hprocessed⟩
  · exact absurd hadmissible (hnone type version base limit)
  · refine ⟨fileType, version, ?_⟩
    simp only [receivePacket, hseq, hprocessed, ne_eq, not_true_eq_false,
      if_false, if_true, Bool.false_eq_true]

/-- The four things that can happen to a packet before its payload is written. -/
inductive Received (device : Device) (packSn : UInt8) (payload : Payload) :
    Option Payload × Device → Prop
  | wrong (hseq : device.fileOperateState.packetSeq + 1 ≠ packSn) :
      Received device packSn payload (none, device.countPacket)
  | opens (type : FileType) (version : UInt32) (base limit : Nat)
      (hseq : device.fileOperateState.packetSeq = 0) (hsn : packSn = 1)
      (hopens : payload.Opens type version base limit) :
      Received device packSn payload
        (some (payload.drop (payload.fileNameLen + 6)),
          device.begun payload type version base)
  | refuses (fileType : Option FileType) (version : UInt32)
      (hseq : device.fileOperateState.packetSeq = 0) (hsn : packSn = 1)
      (hnone : ∀ type version base limit,
        ¬ payload.Opens type version base limit) :
      Received device packSn payload
        (none, device.countPacket.startDownload.typed fileType version)
  | next (hseq : device.fileOperateState.packetSeq + 1 = packSn)
      (hsn : packSn ≠ 1) :
      Received device packSn payload (some payload, device.countPacket)

theorem receivePacket_received (device : Device) (packSn : UInt8)
    (payload : Payload) :
    Received device packSn payload (receivePacket device packSn payload) := by
  by_cases hseq : device.fileOperateState.packetSeq + 1 = packSn
  · by_cases hsn : packSn = 1
    · subst hsn
      have hzero : device.fileOperateState.packetSeq = 0 := by
        simpa using hseq
      by_cases hopens : ∃ type version base limit,
          payload.Opens type version base limit
      · obtain ⟨type, version, base, limit, hopens⟩ := hopens
        rw [receivePacket_opens hzero hopens]
        exact .opens type version base limit hzero rfl hopens
      · have hnone : ∀ type version base limit,
            ¬ payload.Opens type version base limit :=
          fun type version base limit h =>
            hopens ⟨type, version, base, limit, h⟩
        obtain ⟨fileType, version, hreceived⟩ :=
          receivePacket_refuses hzero hnone
        rw [hreceived]
        exact .refuses fileType version hzero rfl hnone
    · rw [receivePacket_next payload hseq hsn]
      exact .next hseq hsn
  · rw [receivePacket_wrong payload hseq]
    exact .wrong hseq

/-! ## The fields after each part -/

@[simp] theorem Device.begun_fileOperateState (device : Device)
    (payload : Payload) (type : FileType) (version : UInt32) (base : Nat) :
    (device.begun payload type version base).fileOperateState =
      { state := .download
        fileType := some type
        fileSize := payload.fileSize
        packetSeq := device.fileOperateState.packetSeq + 1
        remain := payload.fileSize
        flashAddr := UInt32.ofNat base
        version := version } := rfl

@[simp] theorem Device.begun_flash (device : Device) (payload : Payload)
    (type : FileType) (version : UInt32) (base : Nat) :
    (device.begun payload type version base).flash =
      applyOps device.flash type.erases := rfl

@[simp] theorem storePayload_fileOperateState (device : Device)
    (payload : Payload) :
    (storePayload device payload).fileOperateState =
      { device.fileOperateState with
        flashAddr := device.fileOperateState.flashAddr +
          payload.length.toUInt32
        remain := device.fileOperateState.remain -
          payload.length.toUInt32 } := rfl

@[simp] theorem storePayload_flash (device : Device) (payload : Payload) :
    (storePayload device payload).flash =
      (payloadWrite device payload).apply device.flash := rfl

@[simp] theorem Payload.length_toBytes (payload : Payload) :
    payload.toBytes.length = payload.length.toNat := by
  simp [Payload.toBytes]

theorem Payload.length_drop {payload : Payload} {count : Nat}
    (h : count ≤ payload.length.toNat) :
    (payload.drop count).length.toNat = payload.length.toNat - count := by
  have hlt := payload.length.toNat_lt
  have hcount : (UInt16.ofNat count).toNat = count := by
    rw [UInt16.toNat_ofNat', Nat.mod_eq_of_lt (by omega)]
  have hle : (UInt16.ofNat count).toNat ≤ payload.length.toNat := by omega
  simp only [Payload.drop]
  rw [UInt16.toNat_sub_of_le payload.length _ hle, hcount]

theorem toNat_advance (address : UInt32) {size count : UInt32}
    (hcount : count.toNat ≤ size.toNat)
    (hroom : address.toNat + size.toNat < 2 ^ 32) :
    (address + count).toNat = address.toNat + count.toNat ∧
      (size - count).toNat = size.toNat - count.toNat := by
  constructor
  · rw [UInt32.toNat_add, Nat.mod_eq_of_lt (by omega)]
  · exact UInt32.toNat_sub_of_le size count hcount

theorem storePayload_byte (device : Device) (part : Payload)
    (address : Nat) :
    (storePayload device part).flash address =
      if device.fileOperateState.flashAddr.toNat ≤ address ∧
          address < device.fileOperateState.flashAddr.toNat +
            part.length.toNat then
        device.flash address &&&
          part.bytes (address - device.fileOperateState.flashAddr.toNat)
      else device.flash address := by
  rw [storePayload_flash, payloadWrite, deviceWrite, FlashOp.apply]
  simp only [Payload.length_toBytes]
  split
  case isFalse => rfl
  case isTrue hinside =>
    have hindex : address - device.fileOperateState.flashAddr.toNat <
        part.length.toNat := by omega
    simp [byteAt, Payload.toBytes, hindex]

/-! ## The end of a file leaves the regions alone -/

def Bookkeeping (op : FlashOp) : Prop :=
  op.start + op.size ≤ 65536 ∨
    (systemLogBaseAddr ≤ op.start ∧ op.start + op.size ≤ 393216) ∨
    firmUpInfoBaseAddr ≤ op.start

theorem Bookkeeping.avoids {op : FlashOp} (h : Bookkeeping op)
    {type : FileType} {base limit : Nat}
    (hregion : type.region? = some (base, limit)) :
    op.Avoids base (base + limit) := by
  cases type <;>
    simp only [FileType.region?, reduceCtorEq, Option.some.injEq,
      Prod.mk.injEq] at hregion <;>
    obtain ⟨rfl, rfl⟩ := hregion <;>
    simp only [Bookkeeping, FlashOp.Avoids, systemLogBaseAddr,
      firmUpInfoBaseAddr, regionConfigFileAddr, lightConnectFileAddr,
      lightParkingFileAddr, sensorListFileAddr, reservedParkingFileAddr,
      firmwareUpgradeAddr, maxConfigFileSize, maxUpgradeFileSize,
      flashBytesPerSector] at * <;>
    omega

theorem saveFileInfoList_flash (device : Device) :
    (saveFileInfoList device).flash = applyOps device.flash
      [sctErase configFileInfoAddr,
        deviceWrite configFileInfoAddr device.fileInfoList.encode] := by
  simp only [saveFileInfoList, initParkingLists, Device.flash_run]

theorem saveFileInfoList_bookkeeping (list : FileInfoList) :
    ∀ op ∈ [sctErase configFileInfoAddr,
      deviceWrite configFileInfoAddr list.encode], Bookkeeping op := by
  intro op hop
  simp only [List.mem_cons, List.not_mem_nil, or_false] at hop
  rcases hop with rfl | rfl
  · exact .inl (by decide)
  · left
    simp [deviceWrite, FlashOp.start, FlashOp.size, configFileInfoAddr,
      FileInfoList.encodedSize]

theorem finishUpgrade_bookkeeping (device : Device) (rtc : RtcTime) :
    ∃ ops, (finishUpgrade device rtc).flash = applyOps device.flash ops ∧
      ∀ op ∈ ops, Bookkeeping op ∧ op.Avoids 0 65536 := by
  refine ⟨[sctErase firmUpInfoBaseAddr, deviceWrite firmUpInfoBaseAddr
      (firmUpFlashInfo device.fileOperateState.fileSize)] ++
    (addLog device.systemLog rtc
      (upgradeLogText device.fileOperateState.version)).2, ?_, ?_⟩
  · simp only [finishUpgrade, Device.flash_run]
  intro op hop
  simp only [List.cons_append, List.nil_append, List.mem_cons] at hop
  have hhigh : 65536 ≤ firmUpInfoBaseAddr := by decide
  rcases hop with rfl | rfl | hlog
  · exact ⟨.inr (.inr (by decide)), .inr (by decide)⟩
  · exact ⟨.inr (.inr le_rfl), .inr hhigh⟩
  · have hring := logWrite_insideRing _ _ op hlog
    exact ⟨.inr (.inl hring), .inr (Nat.le_trans (by decide) hring.1)⟩

theorem finishDownloadOption_bookkeeping (device : Device) (rtc : RtcTime) :
    ∃ ops, (finishDownloadOption device rtc).flash =
        applyOps device.flash ops ∧ ∀ op ∈ ops, Bookkeeping op := by
  have hrecord : ∀ type, ∃ ops, (recordVersion device type).flash =
      applyOps device.flash ops ∧ ∀ op ∈ ops, Bookkeeping op := fun type =>
    ⟨_, saveFileInfoList_flash _, saveFileInfoList_bookkeeping _⟩
  have hnone : ∃ ops, device.flash = applyOps device.flash ops ∧
      ∀ op ∈ ops, Bookkeeping op := ⟨[], rfl, by simp⟩
  unfold finishDownloadOption
  split
  · obtain ⟨ops, hflash, hops⟩ := finishUpgrade_bookkeeping device rtc
    exact ⟨ops, hflash, fun op hop => (hops op hop).1⟩
  · exact hrecord _
  · exact hrecord _
  · exact hrecord _
  · exact hnone
  · exact hnone
  · exact hnone
  · exact hnone
  · exact hnone

theorem finishDownloadOption_agrees (device : Device) (rtc : RtcTime)
    {type : FileType} {base limit : Nat}
    (hregion : type.region? = some (base, limit)) :
    AgreeOn base (base + limit) (finishDownloadOption device rtc).flash
      device.flash := by
  obtain ⟨ops, hflash, hops⟩ := finishDownloadOption_bookkeeping device rtc
  rw [hflash]
  exact agreeOn_applyOps device.flash fun op hop => (hops op hop).avoids hregion

/-! ## The end of a packet -/

def Device.afterPayload (device : Device) (rtc : RtcTime) :
    DownloadRet × Device :=
  if device.fileOperateState.remain = 0 then
    (.over, fileOperateReset (finishDownloadOption device rtc))
  else (.downloading, device)

theorem downloadFile_refused {device refused : Device} {packSn : UInt8}
    {payload : Payload} (rtc : RtcTime)
    (h : receivePacket device packSn payload = (none, refused)) :
    downloadFile device rtc packSn payload = (.err, refused) := by
  simp only [downloadFile, h]

theorem downloadFile_received {device received : Device} {packSn : UInt8}
    {payload part : Payload} (rtc : RtcTime)
    (h : receivePacket device packSn payload = (some part, received)) :
    downloadFile device rtc packSn payload =
      (storePayload received part).afterPayload rtc := by
  simp only [downloadFile, h, Device.afterPayload]

/-! ## A region that is being filled -/

/--
The region holds the bytes received so far, and the transfer will go on right
behind them until it has `size` bytes.
-/
structure Filling (device : Device) (base limit size : Nat) (bytes : Bytes) :
    Prop where
  addr : device.fileOperateState.flashAddr.toNat = base + bytes.length
  remain : device.fileOperateState.remain.toNat + bytes.length = size
  holds : Holds base (base + limit) bytes device.flash

theorem begun_flashAddr (device : Device) {payload : Payload}
    {type : FileType} {version : UInt32} {base limit : Nat}
    (hopens : payload.Opens type version base limit) :
    (device.begun payload type version base).fileOperateState.flashAddr.toNat =
      base := by
  have hbounds := FileType.region?_bounds hopens.region
  rw [Device.begun_fileOperateState]
  dsimp only
  rw [UInt32.toNat_ofNat', Nat.mod_eq_of_lt (by omega)]

theorem begun_filling (device : Device) {payload : Payload} {type : FileType}
    {version : UInt32} {base limit : Nat}
    (hopens : payload.Opens type version base limit) :
    Filling (device.begun payload type version base) base limit
      payload.fileSize.toNat [] := by
  constructor
  · exact begun_flashAddr device hopens
  · rw [Device.begun_fileOperateState]
    rfl
  · rw [Device.begun_flash]
    exact (FileType.erases_erase hopens.region device.flash).holds

theorem Filling.store {device : Device} {type : FileType}
    {base limit size : Nat} {bytes : Bytes} {part : Payload}
    (h : Filling device base limit size bytes)
    (hregion : type.region? = some (base, limit)) (hsize : size ≤ limit)
    (hfits : part.length.toNat ≤ device.fileOperateState.remain.toNat) :
    Filling (storePayload device part) base limit size
      (bytes ++ part.toBytes) := by
  have hbounds := FileType.region?_bounds hregion
  have haddr := h.addr
  have hremain := h.remain
  have hcount : part.length.toUInt32.toNat ≤
      device.fileOperateState.remain.toNat := by
    rw [UInt16.toNat_toUInt32]
    exact hfits
  obtain ⟨haddr', hremain'⟩ := toNat_advance
    device.fileOperateState.flashAddr hcount (by omega)
  rw [UInt16.toNat_toUInt32] at haddr' hremain'
  have hlength : (bytes ++ part.toBytes).length =
      bytes.length + part.length.toNat := by
    rw [List.length_append, Payload.length_toBytes]
  constructor
  · rw [storePayload_fileOperateState]
    dsimp only
    omega
  · rw [storePayload_fileOperateState]
    dsimp only
    omega
  · rw [storePayload_flash, payloadWrite, haddr, deviceWrite]
    apply h.holds.program
    rw [Payload.length_toBytes]
    omega

end WncFirmware
