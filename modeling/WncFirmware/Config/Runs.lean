import WncFirmware.Foundation.Runs
import WncFirmware.Tcp.Commands

/-!
# Runs of the device

A run is made of TCP commands and reboots.  The lemmas here say what a step does
to the configuration in RAM and to its shadow copy.
-/

namespace WncFirmware

open WncFirmware.Foundation WncFirmware.Tcp

inductive DeviceEvent where
  | command (env : CommandEnv) (fd : Int) (frame : Bytes)
  | reboot (params : DeviceParams)

def deviceStep (device : Device) : DeviceEvent → Option Device
  | .command env fd frame =>
      (analyzeCommand env fd device frame).map CommandResult.device
  | .reboot params => some (boot params device.flash)

def ReachedBy (guard : Device → DeviceEvent → Prop) (device : Device) : Prop :=
  ∃ params flash events, Run deviceStep guard (boot params flash) events device

theorem ReachedBy.invariant {guard : Device → DeviceEvent → Prop}
    {invariant : Device → Prop}
    (hboot : ∀ params flash, invariant (boot params flash))
    (hacts : ∀ env fd frame device next, invariant device →
      guard device (.command env fd frame) → Acts env device frame next →
        invariant next)
    {device : Device} (h : ReachedBy guard device) : invariant device := by
  obtain ⟨params, flash, events, hrun⟩ := h
  apply hrun.invariant _ (hboot params flash)
  intro device event next hdevice hguard hstep
  cases event with
  | command env fd frame =>
      obtain ⟨result, hresult, hnext⟩ := Option.map_eq_some_iff.mp hstep
      subst hnext
      exact hacts env fd frame device _ hdevice hguard
        (analyzeCommand_acts hresult)
  | reboot params' =>
      simp only [deviceStep, Option.some.injEq] at hstep
      subst hstep
      exact hboot params' device.flash

/-! ## Downloads leave the configuration alone -/

def SameConfigs (first second : Device) : Prop :=
  first.wncConfig = second.wncConfig ∧
    first.wncConfigBak = second.wncConfigBak

theorem SameConfigs.refl (device : Device) : SameConfigs device device :=
  ⟨rfl, rfl⟩

theorem SameConfigs.trans {first second third : Device}
    (h : SameConfigs first second) (h' : SameConfigs second third) :
    SameConfigs first third :=
  ⟨h.1.trans h'.1, h.2.trans h'.2⟩

theorem SameStores.sameConfigs {first second : Device}
    (h : SameStores first second) : SameConfigs first second := by
  obtain ⟨-, -, hconfig, hbak, -⟩ := h
  exact ⟨hconfig, hbak⟩

theorem sameConfigs_openTransfer (device : Device) (addr : Nat)
    (size : UInt32) (erases : List FlashOp) :
    SameConfigs (device.openTransfer addr size erases) device :=
  ⟨rfl, rfl⟩

theorem sameConfigs_prepareConfigFile (device : Device) (type : FileType)
    (addr : Nat) (fileName : Bytes) (size : UInt32) :
    SameConfigs (prepareConfigFile device type addr fileName size).2
      device := by
  unfold prepareConfigFile
  split
  · exact .refl device
  · exact (sameConfigs_openTransfer _ addr size _).trans ⟨rfl, rfl⟩

theorem sameConfigs_prepareDownload (device : Device) (type : FileType)
    (fileName : Bytes) (size : UInt32) :
    SameConfigs (prepareDownload device type fileName size).2 device := by
  cases type with
  | regionConfig => apply sameConfigs_prepareConfigFile
  | lightConnect => apply sameConfigs_prepareConfigFile
  | lightParking => apply sameConfigs_prepareConfigFile
  | sensorList => apply sameConfigs_prepareConfigFile
  | reservedParking => apply sameConfigs_prepareConfigFile
  | upgradeBin =>
      simp only [prepareDownload, prepareUpgradeFile]
      split
      · exact .refl device
      · exact sameConfigs_openTransfer device _ size _
  | systemLog => exact ⟨rfl, rfl⟩
  | workStateLog => exact ⟨rfl, rfl⟩

theorem sameConfigs_processDownloadType (device : Device) (fileName : Bytes)
    (size : UInt32) :
    SameConfigs (processDownloadType device fileName size).2 device := by
  unfold processDownloadType
  dsimp only
  split
  · exact ⟨rfl, rfl⟩
  · split
    · exact ⟨rfl, rfl⟩
    · exact (sameConfigs_prepareDownload _ _ fileName size).trans ⟨rfl, rfl⟩

theorem sameConfigs_receivePacket (device : Device) (packSn : UInt8)
    (payload : Payload) :
    SameConfigs (receivePacket device packSn payload).2 device := by
  unfold receivePacket
  dsimp only
  split
  · exact ⟨rfl, rfl⟩
  · split
    · split
      · exact (sameConfigs_processDownloadType _ _ _).trans ⟨rfl, rfl⟩
      · exact (sameConfigs_processDownloadType _ _ _).trans ⟨rfl, rfl⟩
    · exact ⟨rfl, rfl⟩

theorem sameConfigs_initParkingLists (device : Device) :
    SameConfigs (initParkingLists device) device := by
  constructor <;> simp only [initParkingLists]

theorem sameConfigs_recordVersion (device : Device) (type : FileType) :
    SameConfigs (recordVersion device type) device :=
  (sameConfigs_initParkingLists _).trans ⟨rfl, rfl⟩

theorem sameConfigs_finishUpgrade (device : Device) (rtc : RtcTime) :
    SameConfigs (finishUpgrade device rtc) device := by
  constructor <;> simp only [finishUpgrade, Device.run]

theorem sameConfigs_finishDownloadOption (device : Device) (rtc : RtcTime) :
    SameConfigs (finishDownloadOption device rtc) device := by
  unfold finishDownloadOption
  split
  · exact sameConfigs_finishUpgrade device rtc
  · exact sameConfigs_recordVersion device _
  · exact sameConfigs_recordVersion device _
  · exact sameConfigs_recordVersion device _
  · exact ⟨rfl, rfl⟩
  · exact ⟨rfl, rfl⟩
  · exact ⟨rfl, rfl⟩
  · exact ⟨rfl, rfl⟩
  · exact ⟨rfl, rfl⟩

theorem sameConfigs_downloadFile (device : Device) (rtc : RtcTime)
    (packSn : UInt8) (payload : Payload) :
    SameConfigs (downloadFile device rtc packSn payload).2 device := by
  have hreceived := sameConfigs_receivePacket device packSn payload
  unfold downloadFile
  split
  · rename_i refused hrefused
    rw [hrefused] at hreceived
    exact hreceived
  · rename_i part received hpart
    rw [hpart] at hreceived
    dsimp only
    split
    · exact (sameConfigs_finishDownloadOption _ rtc).trans hreceived
    · exact hreceived

theorem sameConfigs_configureFilesOpt {env : CommandEnv} {device : Device}
    {frame : Bytes} {result : CommandResult}
    (h : configureFilesOpt env device frame = some result) :
    SameConfigs result.device device := by
  unfold configureFilesOpt at h
  split at h
  · exact (uploadCommand_cases h).1.sameConfigs
  · cases h
    exact sameConfigs_downloadFile device env.rtc _ _

end WncFirmware
