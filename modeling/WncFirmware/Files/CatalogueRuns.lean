import WncFirmware.Files.Catalogue
import WncFirmware.Files.Containment

/-!
# Catalogue and files over whole runs

Runs of downloads, uploads, initialisations and reboots from an erased flash.  A
run keeps a record of the download in progress and of all completed ones.
-/

namespace WncFirmware

open WncFirmware.Foundation WncFirmware.Tcp

/--
A run is `settled` if the last download packet ended in `DOWNLOAD_OVER` or
`DOWNLOAD_ERR`, or the device has booted since.
-/
structure CatalogueRun where
  device : Device
  current : Option Download
  completed : List Download
  settled : Bool

inductive CatalogueEvent where
  | files (event : TransferFrame)
  | userInit
  | reboot (params : DeviceParams)

def TransferFrame.ret (event : TransferFrame) (device : Device) :
    DownloadRet :=
  (downloadFile device event.env.rtc (headerPackSn event.frame)
    (cmdBufPayload event.env event.frame)).1

namespace CatalogueRun

def start (params : DeviceParams) : CatalogueRun :=
  ⟨boot params (fun _ => 0xff), none, [], true⟩

def grown (run : CatalogueRun) (event : TransferFrame) : Option Download := do
  let part ← (event.received run.device).1
  let download ←
    if headerPackSn event.frame = 1 then
      (cmdBufPayload event.env event.frame).announces
    else run.current
  return download.append part.toBytes

def note (run : CatalogueRun) (download : Option Download) (device : Device) :
    DownloadRet → CatalogueRun
  | .err => ⟨device, none, run.completed, true⟩
  | .over => ⟨device, none, run.completed ++ download.toList, true⟩
  | .downloading => ⟨device, download, run.completed, false⟩

end CatalogueRun

/-- `user_init` clears the regions of the catalogued files, and with them a download. -/
def catalogueStep (run : CatalogueRun) : CatalogueEvent → Option CatalogueRun
  | .files event =>
      (configureFilesOpt event.env run.device event.frame).map fun result =>
        if isUpload event.frame then
          { run with device := result.device, current := none }
        else run.note (run.grown event) result.device (event.ret run.device)
  | .userInit =>
      some { run with
        device := userInit run.device
        current := run.current.filter fun download =>
          download.type ∉ FileType.catalogued }
  | .reboot params =>
      some { run with
        device := boot params run.device.flash
        current := none
        settled := true }

/-- Every recorded file is one of the completed downloads, in RAM and in flash. -/
def CatalogueRun.Consistent (run : CatalogueRun) : Prop :=
  ∀ type ∈ FileType.catalogued, ∀ info,
    run.device.fileInfoList.info? type = some info → info.Recorded →
      ∃ download ∈ run.completed, download.Describes type info run.device.flash

/-! ## The condition on each step -/

def CatalogueRun.Interruptible (run : CatalogueRun) : Prop :=
  ∀ download, run.current = some download →
    download.type ∈ FileType.catalogued → ∀ info,
      run.device.fileInfoList.info? download.type = some info →
        ¬ info.Recorded

/-- The first packet of a file: it may start the file anew that is in progress. -/
def CatalogueRun.MayOpen (run : CatalogueRun) (payload : Payload) : Prop :=
  (run.Interruptible ∨ ∃ type version base limit,
      payload.Opens type version base limit ∧
        run.current.map Download.type = some type) ∧
    ∀ type version base limit, payload.Opens type version base limit →
      payload.HeaderFits

/-- A later packet: it continues a download and is not longer than its rest. -/
def CatalogueRun.MayContinue (run : CatalogueRun) (payload : Payload) : Prop :=
  run.current ≠ none ∧
    payload.length.toNat ≤ run.device.fileOperateState.remain.toNat

def Uninterrupted (run : CatalogueRun) : CatalogueEvent → Prop
  | .files event =>
      if isUpload event.frame = true ∨
          run.device.fileOperateState.packetSeq + 1 ≠
            headerPackSn event.frame then run.Interruptible
      else if headerPackSn event.frame = 1 then
        run.MayOpen (cmdBufPayload event.env event.frame)
      else run.MayContinue (cmdBufPayload event.env event.frame)
  | .userInit =>
      ∀ type ∈ FileType.catalogued, ∀ info,
        run.device.fileInfoList.info? type = some info → ¬ info.Recorded
  | .reboot _ => run.Interruptible

/-! ## The invariant -/

structure CatalogueRun.Sound (run : CatalogueRun) : Prop where
  current : ∀ download, run.current = some download →
    Downloading run.device download
  kept : Kept run.device.fileInfoList run.device.flash
    (run.current.map Download.type) run.completed
  settled : run.settled = true → run.current = none

theorem CatalogueRun.Sound.consistent {run : CatalogueRun} (h : run.Sound)
    (hsettled : run.settled = true) : run.Consistent := by
  intro type hmem info hentry hrecorded
  apply (h.kept.ram type hmem info hentry hrecorded).resolve_left
  rw [h.settled hsettled]
  exact nofun

theorem CatalogueRun.Sound.free {run : CatalogueRun} (h : run.Sound)
    (hfree : run.Interruptible) :
    Kept run.device.fileInfoList run.device.flash none run.completed := by
  apply h.kept.release
  intro type hmem hbusy info hentry
  obtain ⟨download, hcurrent, htype⟩ := Option.map_eq_some_iff.mp hbusy
  subst htype
  exact hfree download hcurrent hmem info hentry

theorem CatalogueRun.sound_of_kept {device : Device}
    {completed : List Download} {settled : Bool}
    (h : Kept device.fileInfoList device.flash none completed) :
    CatalogueRun.Sound ⟨device, none, completed, settled⟩ :=
  ⟨nofun, h, fun _ => rfl⟩

/-! ## One packet -/

theorem note_stored {run : CatalogueRun} {received : Device}
    {download : Download} {part : Payload} (rtc : RtcTime)
    (hkept : Kept received.fileInfoList received.flash (some download.type)
      run.completed)
    (hdownload : Downloading received download)
    (hfits : part.length.toNat ≤ received.fileOperateState.remain.toNat) :
    (run.note (some (download.append part.toBytes))
      ((storePayload received part).afterPayload rtc).2
      ((storePayload received part).afterPayload rtc).1).Sound := by
  have hstored := hdownload.store hfits
  have hkept' : Kept (storePayload received part).fileInfoList
      (storePayload received part).flash
      (some (download.append part.toBytes).type) run.completed :=
    hdownload.store_kept hfits hkept
  rw [Device.afterPayload]
  split
  · rename_i hdone
    exact CatalogueRun.sound_of_kept (hkept'.finish rtc hstored hdone)
  · constructor
    · intro other hother
      cases hother
      exact hstored
    · exact hkept'
    · intro hsettled
      cases hsettled

def CatalogueRun.afterPacket (run : CatalogueRun) (event : TransferFrame) :
    CatalogueRun :=
  run.note (run.grown event)
    (downloadCommand event.env run.device event.frame).device
    (event.ret run.device)

theorem catalogueStep_download (run : CatalogueRun) {event : TransferFrame}
    (h : isUpload event.frame = false) :
    catalogueStep run (.files event) = some (run.afterPacket event) := by
  simp [catalogueStep, configureFilesOpt, h, CatalogueRun.afterPacket]

theorem afterPacket_refused {run : CatalogueRun} {event : TransferFrame}
    {refused : Device}
    (h : event.received run.device = (none, refused)) :
    run.afterPacket event = ⟨refused, none, run.completed, true⟩ := by
  have hfile := downloadFile_refused event.env.rtc h
  simp only [CatalogueRun.afterPacket, TransferFrame.ret, downloadCommand,
    hfile, CatalogueRun.note]

theorem afterPacket_received {run : CatalogueRun} {event : TransferFrame}
    {received : Device} {part : Payload}
    (h : event.received run.device = (some part, received)) :
    run.afterPacket event = run.note (run.grown event)
      ((storePayload received part).afterPayload event.env.rtc).2
      ((storePayload received part).afterPayload event.env.rtc).1 := by
  have hfile := downloadFile_received event.env.rtc h
  simp only [CatalogueRun.afterPacket, TransferFrame.ret, downloadCommand,
    hfile]

def TransferFrame.firstData (event : TransferFrame) : Payload :=
  (cmdBufPayload event.env event.frame).drop
    ((cmdBufPayload event.env event.frame).fileNameLen + 6)

def TransferFrame.announced (event : TransferFrame) (type : FileType)
    (version : UInt32) : Download :=
  ⟨type, version, (cmdBufPayload event.env event.frame).fileName,
    (cmdBufPayload event.env event.frame).fileSize, []⟩

def TransferFrame.firstStored (event : TransferFrame) (device : Device)
    (type : FileType) (version : UInt32) (base : Nat) : Device :=
  storePayload (device.begun (cmdBufPayload event.env event.frame) type version
    base) event.firstData

section FirstPacket

variable {run : CatalogueRun} {event : TransferFrame} {type : FileType}
  {version : UInt32} {base limit : Nat}

theorem afterPacket_first
    (hseq : run.device.fileOperateState.packetSeq = 0)
    (hsn : headerPackSn event.frame = 1)
    (hopens : (cmdBufPayload event.env event.frame).Opens type version base
      limit) :
    run.afterPacket event = run.note
      (some ((event.announced type version).append event.firstData.toBytes))
      ((event.firstStored run.device type version base).afterPayload
        event.env.rtc).2
      ((event.firstStored run.device type version base).afterPayload
        event.env.rtc).1 := by
  have hreceived : event.received run.device = (some event.firstData,
      run.device.begun (cmdBufPayload event.env event.frame) type version
        base) := by
    rw [TransferFrame.received, hsn]
    exact receivePacket_opens hseq hopens
  have hgrown : run.grown event = some
      ((event.announced type version).append event.firstData.toBytes) := by
    simp [CatalogueRun.grown, hreceived, hsn, hopens.announces,
      TransferFrame.announced]
  rw [afterPacket_received hreceived, hgrown, TransferFrame.firstStored]

theorem afterPacket_opens (h : run.Sound)
    (hseq : run.device.fileOperateState.packetSeq = 0)
    (hsn : headerPackSn event.frame = 1)
    (hopens : (cmdBufPayload event.env event.frame).Opens type version base
      limit)
    (hguard : run.MayOpen (cmdBufPayload event.env event.frame)) :
    (run.afterPacket event).Sound := by
  obtain ⟨hname, hdata⟩ := hguard.2 type version base limit hopens
  have hkept : Kept run.device.fileInfoList run.device.flash (some type)
      run.completed := by
    rcases hguard.1 with hfree | ⟨type', version', base', limit', hopens', htype⟩
    · exact (h.free hfree).engage (some type)
    · obtain ⟨rfl, -⟩ := hopens.unique hopens'
      rw [← htype]
      exact h.kept
  rw [afterPacket_first hseq hsn hopens]
  apply note_stored event.env.rtc (begun_kept hkept hopens)
    (begun_downloading run.device hopens)
  rw [TransferFrame.firstData, Payload.length_drop hname]
  exact hdata

end FirstPacket

theorem afterPacket_next {run : CatalogueRun} {event : TransferFrame}
    (h : run.Sound) (hsn : headerPackSn event.frame ≠ 1)
    (hreceived : event.received run.device =
      (some (cmdBufPayload event.env event.frame), run.device.countPacket))
    (hguard : run.MayContinue (cmdBufPayload event.env event.frame)) :
    (run.afterPacket event).Sound := by
  obtain ⟨download, hcurrent⟩ := Option.ne_none_iff_exists'.mp hguard.1
  have hgrown : run.grown event = some (download.append
      (cmdBufPayload event.env event.frame).toBytes) := by
    simp [CatalogueRun.grown, hreceived, hsn, hcurrent]
  have hkept := h.kept
  rw [hcurrent] at hkept
  rw [afterPacket_received hreceived, hgrown]
  exact note_stored event.env.rtc hkept
    (h.current download hcurrent).counted hguard.2

theorem afterPacket_sound {run : CatalogueRun} {event : TransferFrame}
    (h : run.Sound) (hdownload : isUpload event.frame = false)
    (hguard : Uninterrupted run (.files event)) :
    (run.afterPacket event).Sound := by
  simp only [Uninterrupted, hdownload, Bool.false_eq_true, false_or] at hguard
  have hcases := receivePacket_received run.device (headerPackSn event.frame)
    (cmdBufPayload event.env event.frame)
  change Received _ _ _ (event.received run.device) at hcases
  generalize hreceived : event.received run.device = result at hcases
  cases hcases with
  | wrong hseq =>
      rw [if_pos hseq] at hguard
      rw [afterPacket_refused hreceived]
      exact CatalogueRun.sound_of_kept (h.free hguard)
  | refuses fileType version hseq hsn hnone =>
      rw [if_neg (by rw [hseq, hsn]; decide), if_pos hsn] at hguard
      rw [afterPacket_refused hreceived]
      rcases hguard.1 with hfree | ⟨type, version', base, limit, hopens, -⟩
      · exact CatalogueRun.sound_of_kept (h.free hfree)
      · exact absurd hopens (hnone type version' base limit)
  | opens type version base limit hseq hsn hopens =>
      rw [if_neg (by rw [hseq, hsn]; decide), if_pos hsn] at hguard
      exact afterPacket_opens h hseq hsn hopens hguard
  | next hseq hsn =>
      rw [if_neg (not_not_intro hseq), if_neg hsn] at hguard
      exact afterPacket_next h hsn hreceived hguard

/-! ## Whole runs -/

theorem userInit_sound {run : CatalogueRun} (h : run.Sound)
    (hguard : Uninterrupted run .userInit) :
    CatalogueRun.Sound { run with
      device := userInit run.device
      current := run.current.filter fun download =>
        download.type ∉ FileType.catalogued } := by
  refine ⟨?_, (userInit_kept run.completed hguard).engage _, ?_⟩
  · intro download hcurrent
    obtain ⟨hcurrent, hother⟩ := Option.filter_eq_some_iff.mp hcurrent
    obtain ⟨hfileType, hversion, hentry, base, limit, hregion, hsize,
      hfilling⟩ := h.current download hcurrent
    refine ⟨hfileType, hversion, hentry, base, limit, hregion, hsize,
      hfilling.addr, hfilling.remain, ?_⟩
    have hremain := hfilling.remain
    exact hfilling.holds.congr (by omega) (agreeOn_applyOps run.device.flash
      (userInitOps_avoid _ (of_decide_eq_true hother) hregion))
  · intro hsettled
    dsimp only
    rw [h.settled hsettled]
    rfl

theorem catalogueStep_sound (run : CatalogueRun) (event : CatalogueEvent)
    (next : CatalogueRun) (h : run.Sound) (hguard : Uninterrupted run event)
    (hstep : catalogueStep run event = some next) : next.Sound := by
  cases event with
  | files event =>
      cases hupload : isUpload event.frame with
      | true =>
          simp only [Uninterrupted, hupload, true_or, if_true] at hguard
          obtain ⟨result, hresult, hnext⟩ := Option.map_eq_some_iff.mp hstep
          simp only [configureFilesOpt, hupload, if_true] at hresult hnext
          subst hnext
          obtain ⟨⟨hflash, -, -, -, hlist, -⟩, -⟩ :=
            uploadCommand_cases hresult
          apply CatalogueRun.sound_of_kept
          rw [hflash, hlist]
          exact h.free hguard
      | false =>
          rw [catalogueStep_download run hupload] at hstep
          cases hstep
          exact afterPacket_sound h hupload hguard
  | userInit =>
      cases hstep
      exact userInit_sound h hguard
  | reboot params =>
      obtain rfl := Option.some.inj hstep
      exact CatalogueRun.sound_of_kept ((h.free hguard).after_boot params)

theorem start_sound (params : DeviceParams) :
    (CatalogueRun.start params).Sound := by
  apply CatalogueRun.sound_of_kept
  apply boot_erased_kept
  rcases boot_flash_cases params (fun _ => 0xff) with hflash | ⟨config, hflash⟩
  · rw [hflash]
    exact fun _ _ _ => rfl
  · rw [hflash]
    exact userInitOps_erase_catalogue _ config

/--
In every run from an erased flash whose steps meet the condition, whenever no
download is in progress, each recorded file has the name, the size, the version
and the bytes of one completed download.
-/
theorem catalogue_consistent {params : DeviceParams}
    {events : List CatalogueEvent} {final : CatalogueRun}
    (hrun : Run catalogueStep Uninterrupted (CatalogueRun.start params) events
      final)
    (hsettled : final.settled = true) : final.Consistent :=
  (hrun.invariant catalogueStep_sound (start_sound params)).consistent hsettled

theorem boot_fileOperateState (params : DeviceParams) (flash : Memory) :
    (boot params flash).fileOperateState = .reset := by
  simp only [boot, logsInit, initParkingLists, fileOperateReset]

theorem start_packetSeq (params : DeviceParams) :
    (CatalogueRun.start params).device.fileOperateState.packetSeq = 0 :=
  congrArg FileOperateState.packetSeq (boot_fileOperateState params _)

def sensorDevice (device : Device) : Device :=
  fileOperateReset (recordVersion
    (sensorFrame.firstStored device .sensorList 1 sensorListFileAddr)
    .sensorList)

def sensorDownload : Download :=
  ⟨.sensorList, 1, ascii "LN_sensor_1", 1, [65]⟩

theorem afterPacket_sensor {run : CatalogueRun}
    (h : run.device.fileOperateState.packetSeq = 0) :
    run.afterPacket sensorFrame =
      ⟨sensorDevice run.device, none, run.completed ++ [sensorDownload],
        true⟩ := by
  have hdone : (sensorFrame.firstStored run.device .sensorList 1
      sensorListFileAddr).fileOperateState.remain = 0 := by
    rw [TransferFrame.firstStored, storePayload_fileOperateState,
      Device.begun_fileOperateState]
    dsimp only
    decide
  have hdownload : (sensorFrame.announced .sensorList 1).append
      sensorFrame.firstData.toBytes = sensorDownload := by decide
  rw [afterPacket_first h (by decide) sensorFrame_opens, hdownload,
    Device.afterPayload, if_pos hdone, sensorDevice,
    finishDownloadOption_catalogued _ (by decide) rfl]
  rfl

theorem sensorDevice_entry (device : Device) :
    (sensorDevice device).fileInfoList.sensorList =
      ⟨1, 1, .copy (ascii "LN_sensor_1")⟩ := by
  rw [sensorDevice, fileOperateReset, recordVersion_fileInfoList]
  rfl

theorem catalogue_consistent_sensor :
    ∃ final, Run catalogueStep Uninterrupted
        (CatalogueRun.start defaultDeviceParams) [.files sensorFrame] final ∧
      final.settled = true ∧
      final.device.fileInfoList.sensorList =
        ⟨1, 1, .copy (ascii "LN_sensor_1")⟩ ∧
      final.Consistent := by
  let start := CatalogueRun.start defaultDeviceParams
  have hseq := start_packetSeq defaultDeviceParams
  have hguard : Uninterrupted start (.files sensorFrame) := by
    simp only [Uninterrupted]
    rw [if_neg (by rw [hseq]; decide), if_pos (by decide)]
    exact ⟨.inl nofun, fun _ _ _ _ _ => sensorFrame_headerFits⟩
  have hrun := Run.cons hguard
    (catalogueStep_download start (by decide)) (.nil _)
  rw [afterPacket_sensor hseq] at hrun
  exact ⟨_, hrun, rfl, sensorDevice_entry _, catalogue_consistent hrun rfl⟩

/-! ## An update that is interrupted -/

/-- The first packet of `LN_sensor_2`, a file of two bytes. -/
def renewedFrame : TransferFrame :=
  fileFrame 1 ([1, 11] ++ ascii "LN_sensor_2" ++ [0, 0, 0, 2])

def strayFrame : TransferFrame := fileFrame 3 [66]

theorem renewedFrame_opens :
    (cmdBufPayload renewedFrame.env renewedFrame.frame).Opens .sensorList 2
      sensorListFileAddr maxConfigFileSize :=
  ⟨by decide, by decide, by decide, by decide⟩

def renewedDevice (device : Device) : Device :=
  renewedFrame.firstStored device .sensorList 2 sensorListFileAddr

theorem afterPacket_renewed {run : CatalogueRun}
    (h : run.device.fileOperateState.packetSeq = 0) :
    ∃ download, run.afterPacket renewedFrame =
      ⟨renewedDevice run.device, some download, run.completed, false⟩ := by
  have hmore : (renewedFrame.firstStored run.device .sensorList 2
      sensorListFileAddr).fileOperateState.remain ≠ 0 := by
    rw [TransferFrame.firstStored, storePayload_fileOperateState,
      Device.begun_fileOperateState]
    dsimp only
    decide
  refine ⟨(renewedFrame.announced .sensorList 2).append
    renewedFrame.firstData.toBytes, ?_⟩
  rw [afterPacket_first h (by decide) renewedFrame_opens, Device.afterPayload,
    if_neg hmore]
  rfl

theorem renewedDevice_entry (device : Device) :
    (renewedDevice device).fileInfoList.sensorList =
      ⟨device.fileInfoList.sensorList.sn, 2, .copy (ascii "LN_sensor_2")⟩ :=
  rfl

/--
Version 1 is complete and the first packet of version 2 has been accepted when a
stray packet ends the download: the catalogue has version 1 with the name and
the size of version 2.
-/
theorem interrupted_update_inconsistent :
    ∃ final, Run catalogueStep (fun _ _ => True)
        (CatalogueRun.start defaultDeviceParams)
        [.files sensorFrame, .files renewedFrame, .files strayFrame] final ∧
      final.settled = true ∧
      final.device.fileInfoList.sensorList =
        ⟨1, 2, .copy (ascii "LN_sensor_2")⟩ ∧
      ¬ final.Consistent := by
  let start := CatalogueRun.start defaultDeviceParams
  let first := start.afterPacket sensorFrame
  let second := first.afterPacket renewedFrame
  have hfirst : first =
      ⟨sensorDevice start.device, none, [sensorDownload], true⟩ :=
    afterPacket_sensor (start_packetSeq defaultDeviceParams)
  have hseq : first.device.fileOperateState.packetSeq = 0 := by
    rw [hfirst]
    rfl
  obtain ⟨download, hsecond⟩ : ∃ download, second =
      ⟨renewedDevice first.device, some download, first.completed, false⟩ :=
    afterPacket_renewed hseq
  have hwrong : second.device.fileOperateState.packetSeq + 1 ≠
      headerPackSn strayFrame.frame := by
    rw [hsecond, renewedDevice, TransferFrame.firstStored,
      storePayload_fileOperateState, Device.begun_fileOperateState]
    dsimp only
    rw [hseq]
    decide
  have hthird : second.afterPacket strayFrame =
      ⟨second.device.countPacket, none, [sensorDownload], true⟩ := by
    rw [afterPacket_refused (receivePacket_wrong
      (cmdBufPayload strayFrame.env strayFrame.frame) hwrong), hsecond, hfirst]
  have hentry : second.device.fileInfoList.sensorList =
      ⟨1, 2, .copy (ascii "LN_sensor_2")⟩ := by
    rw [hsecond, renewedDevice_entry, hfirst, sensorDevice_entry]
  have hrun : Run catalogueStep (fun _ _ => True) start
      [.files sensorFrame, .files renewedFrame, .files strayFrame]
      (second.afterPacket strayFrame) := by
    apply Run.cons trivial (catalogueStep_download start (by decide))
    apply Run.cons trivial (catalogueStep_download first (by decide))
    exact Run.cons trivial (catalogueStep_download second (by decide)) (.nil _)
  rw [hthird] at hrun
  refine ⟨_, hrun, rfl, hentry, ?_⟩
  intro hconsistent
  obtain ⟨other, hother, hdescribes⟩ := hconsistent .sensorList (by decide) _
    (congrArg some hentry) ⟨by decide, by decide⟩
  rw [List.mem_singleton.mp hother] at hdescribes
  have hsize := congrArg SingleFileInfo.size hdescribes.info_eq
  exact absurd hsize (by decide)

end WncFirmware
