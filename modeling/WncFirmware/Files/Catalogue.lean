import WncFirmware.Config.Store
import WncFirmware.Files.Packets

/-!
# The catalogue of files

The first packet of a file changes its name and size in RAM and clears its
region; the last one records its serial number and writes the whole catalogue to
flash.  In between the serial number is that of the file before.
-/

namespace WncFirmware

open WncFirmware.Foundation

def FileType.catalogued : List FileType :=
  [lightConnect, lightParking, sensorList]

def SingleFileInfo.Recorded (info : SingleFileInfo) : Prop :=
  info.sn ≠ 0 ∧ info.sn ≠ 0xffffffff

structure Download where
  type : FileType
  version : UInt32
  name : Bytes
  size : UInt32
  bytes : Bytes
  deriving DecidableEq, Repr

def Download.append (download : Download) (more : Bytes) : Download :=
  { download with bytes := download.bytes ++ more }

structure Download.Describes (download : Download) (type : FileType)
    (info : SingleFileInfo) (flash : Memory) : Prop where
  type_eq : download.type = type
  info_eq : info = ⟨download.version, download.size, .copy download.name⟩
  length_eq : download.bytes.length = download.size.toNat
  region : ∃ base limit, type.region? = some (base, limit) ∧
    download.bytes.length ≤ limit ∧
    Holds base (base + limit) download.bytes flash

theorem Download.Describes.congr {download : Download} {type : FileType}
    {info : SingleFileInfo} {first second : Memory}
    (h : download.Describes type info second)
    (hagree : ∀ base limit, type.region? = some (base, limit) →
      AgreeOn base (base + limit) first second) :
    download.Describes type info first := by
  obtain ⟨base, limit, hregion, hroom, hholds⟩ := h.region
  refine ⟨h.type_eq, h.info_eq, h.length_eq, base, limit, hregion, hroom, ?_⟩
  exact hholds.congr (Nat.add_le_add_left hroom base)
    (hagree base limit hregion)

/-! ## Entries -/

theorem FileInfoList.info?_modifyEntry (list : FileInfoList)
    (change : SingleFileInfo → SingleFileInfo) (type : FileType) :
    (list.modifyEntry change type).info? type =
      (list.info? type).map change := by
  cases type <;> rfl

theorem FileInfoList.info?_modifyEntry_of_ne (list : FileInfoList)
    (change : SingleFileInfo → SingleFileInfo) {type other : FileType}
    (h : other ≠ type) :
    (list.modifyEntry change type).info? other = list.info? other := by
  cases type <;> cases other <;> first | rfl | exact absurd rfl h

/-! ## The catalogue in flash -/

def AgreeOnCatalogue (first second : Memory) : Prop :=
  AgreeOn configFileInfoAddr (configFileInfoAddr + FileInfoList.encodedSize)
    first second

theorem readFileInfoList_congr {first second : Memory}
    (h : AgreeOnCatalogue first second) :
    readFileInfoList first = readFileInfoList second := by
  rw [readFileInfoList, readFileInfoList, h.readBytes_eq le_rfl le_rfl]

theorem readFileInfoList_saved (flash : Memory) (list : FileInfoList) :
    readFileInfoList (applyOps flash [sctErase configFileInfoAddr,
      deviceWrite configFileInfoAddr list.encode]) = list := by
  have hfits : list.encode.length ≤ 4096 := by
    rw [list.length_encode, FileInfoList.encodedSize]
    omega
  have hread := readBytes_rewrite flash configFileInfoAddr list.encode hfits
  rw [list.length_encode] at hread
  have herase : sctErase configFileInfoAddr =
      .erase configFileInfoAddr 4096 := rfl
  rw [readFileInfoList, herase, deviceWrite, hread, list.decode_encode]

theorem SingleFileInfo.decode_erased {count : Nat} (h : 4 ≤ count) :
    (decode (List.replicate count 0xff)).sn = 0xffffffff := by
  have hbyte : ∀ index < 4, byteAt (List.replicate count 0xff) index =
      0xff := by
    intro index hindex
    simp [byteAt, show index < count by omega]
  simp only [decode, read32, hbyte 0 (by omega), hbyte (0 + 1) (by omega),
    hbyte (0 + 2) (by omega), hbyte (0 + 3) (by omega)]
  rfl

theorem readFileInfoList_erased {flash : Memory}
    (h : Erased configFileInfoAddr (configFileInfoAddr + 4096) flash)
    {type : FileType} {info : SingleFileInfo}
    (hentry : (readFileInfoList flash).info? type = some info) :
    ¬ info.Recorded := by
  have hfits : FileInfoList.encodedSize ≤ 4096 := by
    rw [FileInfoList.encodedSize]
    omega
  have hread := readBytes_erased
    (h.mono le_rfl (Nat.add_le_add_left hfits configFileInfoAddr))
  have hsn : info.sn = 0xffffffff := by
    rw [readFileInfoList, hread] at hentry
    cases type <;>
      simp only [FileInfoList.info?, FileInfoList.decode,
        FileInfoList.encodedSize, List.drop_replicate, Option.some.injEq,
        reduceCtorEq] at hentry <;>
      rw [← hentry] <;>
      exact SingleFileInfo.decode_erased (by omega)
  intro hrecorded
  exact hrecorded.2 hsn

theorem saveFileInfoList_fileInfoList (device : Device) :
    (saveFileInfoList device).fileInfoList = device.fileInfoList := by
  simp only [saveFileInfoList, initParkingLists, Device.flash_run,
    readFileInfoList_saved]

/-! ## The invariant of the catalogue -/

/--
Every recorded file is one of the completed downloads, with the possible
exception of the type `busy` whose region is being rewritten.  The catalogue in
flash records no more than the one in RAM.
-/
structure Kept (list : FileInfoList) (flash : Memory) (busy : Option FileType)
    (completed : List Download) : Prop where
  ram : ∀ type ∈ FileType.catalogued, ∀ info, list.info? type = some info →
    info.Recorded → busy = some type ∨
      ∃ download ∈ completed, download.Describes type info flash
  saved : ∀ type ∈ FileType.catalogued, ∀ info,
    (readFileInfoList flash).info? type = some info → info.Recorded →
      list.info? type = some info ∨
        busy = some type ∧ ∃ size name,
          list.info? type = some ⟨info.sn, size, name⟩

section Kept

variable {list : FileInfoList} {flash : Memory} {busy : Option FileType}
  {completed : List Download}

theorem Kept.engage (h : Kept list flash none completed)
    (busy : Option FileType) : Kept list flash busy completed := by
  constructor
  · intro type hmem info hentry hrecorded
    right
    exact (h.ram type hmem info hentry hrecorded).resolve_left nofun
  · intro type hmem info hentry hrecorded
    left
    exact (h.saved type hmem info hentry hrecorded).resolve_right nofun

theorem Kept.release (h : Kept list flash busy completed)
    (hfree : ∀ type ∈ FileType.catalogued, busy = some type →
      ∀ info, list.info? type = some info → ¬ info.Recorded) :
    Kept list flash none completed := by
  constructor
  · intro type hmem info hentry hrecorded
    rcases h.ram type hmem info hentry hrecorded with hbusy | hbacked
    · exact absurd hrecorded (hfree type hmem hbusy info hentry)
    · exact .inr hbacked
  · intro type hmem info hentry hrecorded
    rcases h.saved type hmem info hentry hrecorded with
      hsame | ⟨hbusy, size, name, hlist⟩
    · exact .inl hsame
    · exact (hfree type hmem hbusy _ hlist hrecorded).elim

theorem Kept.complete (h : Kept list flash busy completed)
    (more : List Download) : Kept list flash busy (completed ++ more) := by
  refine ⟨?_, h.saved⟩
  intro type hmem info hentry hrecorded
  rcases h.ram type hmem info hentry hrecorded with
    hbusy | ⟨download, hdownload, hdescribes⟩
  · exact .inl hbusy
  · exact .inr ⟨download, List.mem_append_left more hdownload, hdescribes⟩

/-- Only the catalogue and the regions of the types that are not busy count. -/
theorem Kept.frame {flash' : Memory} (h : Kept list flash busy completed)
    (hcatalogue : AgreeOnCatalogue flash' flash)
    (hregions : ∀ type ∈ FileType.catalogued, busy ≠ some type →
      ∀ base limit, type.region? = some (base, limit) →
        AgreeOn base (base + limit) flash' flash) :
    Kept list flash' busy completed := by
  constructor
  · intro type hmem info hentry hrecorded
    rcases h.ram type hmem info hentry hrecorded with
      hbusy | ⟨download, hdownload, hdescribes⟩
    · exact .inl hbusy
    · by_cases hbusy : busy = some type
      · exact .inl hbusy
      · exact .inr ⟨download, hdownload,
          hdescribes.congr (hregions type hmem hbusy)⟩
  · rw [readFileInfoList_congr hcatalogue]
    exact h.saved

theorem Kept.rename {type : FileType}
    (h : Kept list flash (some type) completed) (size : UInt32)
    (name : FileName) :
    Kept (list.modifyEntry
      (fun info => { info with size := size, fileName := name }) type) flash
      (some type) completed := by
  constructor
  · intro other hmem info hentry hrecorded
    by_cases hother : other = type
    · exact .inl (congrArg some hother.symm)
    · rw [list.info?_modifyEntry_of_ne _ hother] at hentry
      exact h.ram other hmem info hentry hrecorded
  · intro other hmem info hentry hrecorded
    by_cases hother : other = type
    · subst hother
      right
      refine ⟨rfl, size, name, ?_⟩
      rw [list.info?_modifyEntry]
      rcases h.saved other hmem info hentry hrecorded with
        hsame | ⟨-, oldSize, oldName, hlist⟩
      · rw [hsame, Option.map_some]
      · rw [hlist, Option.map_some]
    · rw [list.info?_modifyEntry_of_ne _ hother]
      exact h.saved other hmem info hentry hrecorded

end Kept

/-! ## A download in progress -/

structure Downloading (device : Device) (download : Download) : Prop where
  fileType : device.fileOperateState.fileType = some download.type
  version : device.fileOperateState.version = download.version
  entry : ∀ info, device.fileInfoList.info? download.type = some info →
    info.size = download.size ∧ info.fileName = .copy download.name
  region : ∃ base limit, download.type.region? = some (base, limit) ∧
    download.size.toNat ≤ limit ∧
    Filling device base limit download.size.toNat download.bytes

theorem FileType.region_avoids_catalogue {type : FileType} {base limit : Nat}
    (h : type.region? = some (base, limit)) :
    (∀ op ∈ type.erases, op.Avoids configFileInfoAddr
      (configFileInfoAddr + FileInfoList.encodedSize)) ∧
    configFileInfoAddr + FileInfoList.encodedSize ≤ base := by
  cases type <;> simp only [region?, reduceCtorEq, Option.some.injEq,
    Prod.mk.injEq] at h <;> obtain ⟨rfl, rfl⟩ := h <;> decide

theorem begun_kept {device : Device} {payload : Payload} {type : FileType}
    {version : UInt32} {base limit : Nat} {completed : List Download}
    (h : Kept device.fileInfoList device.flash (some type) completed)
    (hopens : payload.Opens type version base limit) :
    Kept (device.begun payload type version base).fileInfoList
      (device.begun payload type version base).flash (some type)
      completed := by
  have hrenamed := h.rename payload.fileSize (.copy payload.fileName)
  apply hrenamed.frame
  · exact agreeOn_applyOps device.flash
      (FileType.region_avoids_catalogue hopens.region).1
  · intro other _ hother base' limit' hregion
    have hne : other ≠ type := fun heq => hother (congrArg some heq.symm)
    exact agreeOn_applyOps device.flash
      (FileType.regions_apart hne hregion hopens.region).2

def Payload.announces (payload : Payload) : Option Download := do
  let type ← getFileType payload.fileName
  let version ← scanVersion (payload.fileName.drop type.nameDef.length)
  return ⟨type, version, payload.fileName, payload.fileSize, []⟩

theorem Payload.Opens.announces {payload : Payload} {type : FileType}
    {version : UInt32} {base limit : Nat}
    (h : payload.Opens type version base limit) :
    payload.announces =
      some ⟨type, version, payload.fileName, payload.fileSize, []⟩ := by
  simp [Payload.announces, h.fileType, h.version]

theorem begun_downloading (device : Device) {payload : Payload}
    {type : FileType} {version : UInt32} {base limit : Nat}
    (hopens : payload.Opens type version base limit) :
    Downloading (device.begun payload type version base)
      ⟨type, version, payload.fileName, payload.fileSize, []⟩ := by
  refine ⟨rfl, rfl, ?_, base, limit, hopens.region, hopens.size_le,
    begun_filling device hopens⟩
  intro info hentry
  have hmodified := device.fileInfoList.info?_modifyEntry
    (fun info => { info with
      size := payload.fileSize, fileName := .copy payload.fileName }) type
  obtain ⟨old, -, hinfo⟩ := Option.map_eq_some_iff.mp
    (hmodified.symm.trans hentry)
  subst hinfo
  exact ⟨rfl, rfl⟩

theorem Downloading.counted {device : Device} {download : Download}
    (h : Downloading device download) :
    Downloading device.countPacket download := by
  obtain ⟨base, limit, hregion, hsize, hfilling⟩ := h.region
  exact ⟨h.fileType, h.version, h.entry, base, limit, hregion, hsize,
    hfilling.addr, hfilling.remain, hfilling.holds⟩

theorem Downloading.store {device : Device} {download : Download}
    {part : Payload} (h : Downloading device download)
    (hfits : part.length.toNat ≤ device.fileOperateState.remain.toNat) :
    Downloading (storePayload device part)
      (download.append part.toBytes) := by
  obtain ⟨base, limit, hregion, hsize, hfilling⟩ := h.region
  exact ⟨h.fileType, h.version, h.entry, base, limit, hregion, hsize,
    hfilling.store hregion hsize hfits⟩

theorem Downloading.store_kept {device : Device} {download : Download}
    {part : Payload} {completed : List Download}
    (h : Downloading device download)
    (hfits : part.length.toNat ≤ device.fileOperateState.remain.toNat)
    (hkept : Kept device.fileInfoList device.flash (some download.type)
      completed) :
    Kept (storePayload device part).fileInfoList
      (storePayload device part).flash (some download.type) completed := by
  obtain ⟨base, limit, hregion, hsize, hfilling⟩ := h.region
  have haddr := hfilling.addr
  have hremain := hfilling.remain
  have hcatalogue := (FileType.region_avoids_catalogue hregion).2
  have hstart : (payloadWrite device part).start =
      device.fileOperateState.flashAddr.toNat := rfl
  have hlength : (payloadWrite device part).size = part.length.toNat :=
    part.length_toBytes
  rw [storePayload_flash]
  apply hkept.frame
  · apply agreeOn_apply
    right
    omega
  · intro other _ hother base' limit' hregion'
    have hne : other ≠ download.type :=
      fun heq => hother (congrArg some heq.symm)
    have hapart := (FileType.regions_apart hne hregion' hregion).1
    apply agreeOn_apply
    simp only [FlashOp.Avoids]
    omega

/-! ## The end of a download -/

theorem finishDownloadOption_catalogued {device : Device} {type : FileType}
    (rtc : RtcTime) (hmem : type ∈ FileType.catalogued)
    (htype : device.fileOperateState.fileType = some type) :
    finishDownloadOption device rtc = recordVersion device type := by
  simp only [FileType.catalogued, List.mem_cons, List.not_mem_nil,
    or_false] at hmem
  rcases hmem with rfl | rfl | rfl <;> simp only [finishDownloadOption, htype]

theorem recordVersion_fileInfoList (device : Device) (type : FileType) :
    (recordVersion device type).fileInfoList = device.fileInfoList.modifyEntry
      (fun info => { info with sn := device.fileOperateState.version }) type :=
  saveFileInfoList_fileInfoList _

theorem finishDownloadOption_other {device : Device} {type : FileType}
    (rtc : RtcTime) (hmem : type ∉ FileType.catalogued)
    (htype : device.fileOperateState.fileType = some type) :
    (finishDownloadOption device rtc).fileInfoList = device.fileInfoList ∧
      AgreeOnCatalogue (finishDownloadOption device rtc).flash
        device.flash := by
  simp only [finishDownloadOption, htype]
  cases type with
  | upgradeBin =>
      obtain ⟨ops, hflash, hops⟩ := finishUpgrade_bookkeeping device rtc
      refine ⟨by simp only [finishUpgrade, Device.run], ?_⟩
      dsimp only
      rw [hflash]
      have hagree := agreeOn_applyOps device.flash fun op hop =>
        (hops op hop).2
      exact hagree.mono (Nat.zero_le _) (by decide)
  | lightConnect => exact absurd (by decide) hmem
  | lightParking => exact absurd (by decide) hmem
  | sensorList => exact absurd (by decide) hmem
  | regionConfig => exact ⟨rfl, .refl _ _ _⟩
  | systemLog => exact ⟨rfl, .refl _ _ _⟩
  | workStateLog => exact ⟨rfl, .refl _ _ _⟩
  | reservedParking => exact ⟨rfl, .refl _ _ _⟩

theorem Downloading.describes {device : Device} {download : Download}
    (h : Downloading device download)
    (hdone : device.fileOperateState.remain = 0) {info : SingleFileInfo}
    (hentry : device.fileInfoList.info? download.type = some info) :
    download.Describes download.type { info with sn := download.version }
      device.flash := by
  obtain ⟨base, limit, hregion, hsize, hfilling⟩ := h.region
  obtain ⟨hinfoSize, hinfoName⟩ := h.entry info hentry
  have hlength : download.bytes.length = download.size.toNat := by
    have hremain := hfilling.remain
    rw [hdone, UInt32.toNat_zero] at hremain
    omega
  refine ⟨rfl, ?_, hlength, base, limit, hregion, by omega, hfilling.holds⟩
  rw [hinfoSize, hinfoName]

theorem Kept.finish_catalogued {device : Device} {download : Download}
    {completed : List Download}
    (h : Kept device.fileInfoList device.flash (some download.type) completed)
    (hdownload : Downloading device download)
    (hdone : device.fileOperateState.remain = 0) :
    Kept (recordVersion device download.type).fileInfoList
      (recordVersion device download.type).flash none
      (completed ++ [download]) := by
  let list := device.fileInfoList.modifyEntry
    (fun info => { info with sn := device.fileOperateState.version })
    download.type
  have hlist : (recordVersion device download.type).fileInfoList = list :=
    recordVersion_fileInfoList device download.type
  have hflash : (recordVersion device download.type).flash =
      applyOps device.flash [sctErase configFileInfoAddr,
        deviceWrite configFileInfoAddr list.encode] :=
    saveFileInfoList_flash _
  have hregions : ∀ type : FileType, ∀ base limit,
      type.region? = some (base, limit) →
        AgreeOn base (base + limit) (recordVersion device download.type).flash
          device.flash := by
    intro type base limit hregion
    rw [hflash]
    exact agreeOn_applyOps device.flash fun op hop =>
      (saveFileInfoList_bookkeeping list op hop).avoids hregion
  constructor
  · intro type hmem info hentry hrecorded
    right
    rw [hlist] at hentry
    by_cases htype : type = download.type
    · subst htype
      rw [FileInfoList.info?_modifyEntry] at hentry
      obtain ⟨old, hold, hinfo⟩ := Option.map_eq_some_iff.mp hentry
      subst hinfo
      refine ⟨download, List.mem_append_right _ List.mem_cons_self, ?_⟩
      rw [hdownload.version]
      exact (hdownload.describes hdone hold).congr (hregions _)
    · rw [FileInfoList.info?_modifyEntry_of_ne _ _ htype] at hentry
      rcases h.ram type hmem info hentry hrecorded with
        hbusy | ⟨other, hother, hdescribes⟩
      · exact absurd (Option.some.inj hbusy).symm htype
      · exact ⟨other, List.mem_append_left _ hother,
          hdescribes.congr (hregions type)⟩
  · intro type hmem info hentry hrecorded
    left
    rw [hflash, readFileInfoList_saved] at hentry
    rw [hlist]
    exact hentry

theorem Kept.finish {device : Device} {download : Download}
    {completed : List Download} (rtc : RtcTime)
    (h : Kept device.fileInfoList device.flash (some download.type) completed)
    (hdownload : Downloading device download)
    (hdone : device.fileOperateState.remain = 0) :
    Kept (finishDownloadOption device rtc).fileInfoList
      (finishDownloadOption device rtc).flash none
      (completed ++ [download]) := by
  by_cases hmem : download.type ∈ FileType.catalogued
  · rw [finishDownloadOption_catalogued rtc hmem hdownload.fileType]
    exact h.finish_catalogued hdownload hdone
  · obtain ⟨hlist, hcatalogue⟩ :=
      finishDownloadOption_other rtc hmem hdownload.fileType
    rw [hlist]
    have hfree : Kept device.fileInfoList device.flash none completed := by
      apply h.release
      intro type htype hbusy
      rw [← Option.some.inj hbusy] at htype
      exact absurd htype hmem
    apply (hfree.complete [download]).frame hcatalogue
    intro type _ _ base limit hregion
    exact finishDownloadOption_agrees device rtc hregion

/-! ## Initialisation and reboot -/

theorem userInitOps_erase_catalogue (flash : Memory) (config : WncCfg) :
    Erased configFileInfoAddr (configFileInfoAddr + 4096)
      (applyOps flash (userInitOps config)) := by
  rw [userInitOps, applyOps_append, applyOps_cons]
  have hagree := agreeOn_applyOps
    ((sctErase configFileInfoAddr).apply
      (applyOps flash (setWncConfigOps config)))
    (by decide : ∀ op ∈ [blkErase lightConnectFileAddr,
        blkErase lightParkingFileAddr, blkErase sensorListFileAddr],
      op.Avoids configFileInfoAddr (configFileInfoAddr + 4096))
  exact (erased_erase _ configFileInfoAddr 4096).congr hagree

theorem userInitOps_avoid {type : FileType} {base limit : Nat}
    (config : WncCfg) (hmem : type ∉ FileType.catalogued)
    (hregion : type.region? = some (base, limit)) :
    ∀ op ∈ userInitOps config, op.Avoids base (base + limit) := by
  have hbounds := FileType.region?_bounds hregion
  have hstart : 3801088 ≤ wncConfigAddr ∧ 3801088 ≤ wncConfigBakAddr := by
    decide
  have herases : ∀ op ∈ [sctErase wncConfigAddr, sctErase wncConfigBakAddr,
      sctErase configFileInfoAddr, blkErase lightConnectFileAddr,
      blkErase lightParkingFileAddr, blkErase sensorListFileAddr],
      op.Avoids base (base + limit) := by
    cases type <;>
      simp only [FileType.region?, reduceCtorEq, Option.some.injEq,
        Prod.mk.injEq] at hregion <;>
      obtain ⟨rfl, rfl⟩ := hregion <;>
      first | decide | exact absurd (by decide) hmem
  intro op hop
  simp only [userInitOps, setWncConfigOps, List.cons_append, List.nil_append,
    List.mem_cons, List.not_mem_nil, or_false] at hop
  rcases hop with rfl | rfl | rfl | rfl | rfl | rfl | rfl | rfl
  · exact herases _ (by simp)
  · exact .inr (by simp only [deviceWrite, FlashOp.start]; omega)
  · exact herases _ (by simp)
  · exact .inr (by simp only [deviceWrite, FlashOp.start]; omega)
  · exact herases _ (by simp)
  · exact herases _ (by simp)
  · exact herases _ (by simp)
  · exact herases _ (by simp)

theorem kept_of_unrecorded {list : FileInfoList} {flash : Memory}
    (completed : List Download)
    (hlist : ∀ type ∈ FileType.catalogued, ∀ info,
      list.info? type = some info → ¬ info.Recorded)
    (herased : Erased configFileInfoAddr (configFileInfoAddr + 4096) flash) :
    Kept list flash none completed := by
  constructor
  · intro type hmem info hentry hrecorded
    exact absurd hrecorded (hlist type hmem info hentry)
  · intro type hmem info hentry hrecorded
    exact absurd hrecorded (readFileInfoList_erased herased hentry)

theorem userInit_kept {device : Device} (completed : List Download)
    (h : ∀ type ∈ FileType.catalogued, ∀ info,
      device.fileInfoList.info? type = some info → ¬ info.Recorded) :
    Kept (userInit device).fileInfoList (userInit device).flash none
      completed :=
  kept_of_unrecorded completed h (userInitOps_erase_catalogue _ _)

theorem boot_fileInfoList (params : DeviceParams) (flash : Memory) :
    (boot params flash).fileInfoList =
      readFileInfoList (boot params flash).flash := by
  simp only [boot, logsInit, initParkingLists]

theorem boot_flash_cases (params : DeviceParams) (flash : Memory) :
    (boot params flash).flash = flash ∨
      ∃ config, (boot params flash).flash =
        applyOps flash (userInitOps config) := by
  rw [boot_flash]
  cases hmain : checkWncConfig (mainCopy flash) with
  | true =>
      rw [loadWncConfig_main (Device.cold flash params) hmain]
      exact .inl rfl
  | false =>
      cases hbak : checkWncConfig (bakCopy flash) with
      | true =>
          rw [loadWncConfig_bak (Device.cold flash params) hmain hbak]
          exact .inl rfl
      | false =>
          rw [loadWncConfig_defaults (Device.cold flash params) hmain hbak]
          exact .inr ⟨_, rfl⟩

theorem boot_erased_kept (params : DeviceParams) {flash : Memory}
    (completed : List Download)
    (herased : Erased configFileInfoAddr (configFileInfoAddr + 4096)
      (boot params flash).flash) :
    Kept (boot params flash).fileInfoList (boot params flash).flash none
      completed := by
  apply kept_of_unrecorded completed _ herased
  intro type _ info hentry
  rw [boot_fileInfoList] at hentry
  exact readFileInfoList_erased herased hentry

theorem Kept.after_boot {list : FileInfoList} {flash : Memory}
    {completed : List Download} (h : Kept list flash none completed)
    (params : DeviceParams) :
    Kept (boot params flash).fileInfoList (boot params flash).flash none
      completed := by
  rcases boot_flash_cases params flash with hflash | ⟨config, hflash⟩
  · rw [boot_fileInfoList, hflash]
    constructor
    · intro type hmem info hentry hrecorded
      have hsame := (h.saved type hmem info hentry hrecorded).resolve_right
        nofun
      exact h.ram type hmem info hsame hrecorded
    · intro type hmem info hentry hrecorded
      exact .inl hentry
  · apply boot_erased_kept
    rw [hflash]
    exact userInitOps_erase_catalogue flash config

end WncFirmware
