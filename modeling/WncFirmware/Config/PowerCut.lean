import WncFirmware.Config.Store
import WncFirmware.Foundation.Runs

/-!
# Power cuts during an update of the configuration

A cut between two operations of `set_wnc_config` leaves the effect of the first
one, two or three of them.  Boot does not repair the copy that a cut destroyed,
so the next update may start with one valid copy only.
-/

namespace WncFirmware

open WncFirmware.Foundation

/--
The device, the configuration of the last completed update, and that of the
update interrupted most recently since then.
-/
structure StoreRun where
  device : Device
  completed : WncCfg
  interrupted : Option WncCfg

inductive StoreEvent where
  | boot (params : DeviceParams)
  | update (config : WncCfg)
  | cut (config : WncCfg) (done : Nat)

def storeStep (run : StoreRun) : StoreEvent → Option StoreRun
  | .boot params =>
      some { run with device := WncFirmware.boot params run.device.flash }
  | .update config =>
      if checkWncConfig config then
        some { device := setWncConfig
                { run.device with wncConfigBak := config }
               completed := config
               interrupted := none }
      else none
  | .cut config done =>
      if checkWncConfig config ∧ 1 ≤ done ∧ done ≤ 3 then
        some { run with
          device := run.device.run ((setWncConfigOps config).take done)
          interrupted := some config }
      else none

def BackupStands (run : StoreRun) (event : StoreEvent) : Prop :=
  ∀ config, event = .cut config 1 →
    checkWncConfig (bakCopy run.device.flash) = true

/-- The copies found in flash stand for an update interrupted between them. -/
def StoreRun.start (device : Device) : StoreRun where
  device := device
  completed := bakCopy device.flash
  interrupted := some (mainCopy device.flash)

/-! ## The invariant -/

structure StoreRun.Valid (run : StoreRun) : Prop where
  main : checkWncConfig (mainCopy run.device.flash) = true →
    mainCopy run.device.flash = run.completed ∨
      some (mainCopy run.device.flash) = run.interrupted
  bak : checkWncConfig (bakCopy run.device.flash) = true →
    bakCopy run.device.flash = run.completed
  alive : checkWncConfig (mainCopy run.device.flash) = true ∨
    checkWncConfig (bakCopy run.device.flash) = true

theorem StoreRun.Valid.boot_loads {run : StoreRun} (h : run.Valid)
    (params : DeviceParams) :
    ((boot params run.device.flash).wncConfig = run.completed ∨
      some (boot params run.device.flash).wncConfig = run.interrupted) ∧
      (boot params run.device.flash).flash = run.device.flash := by
  simp only [boot_wncConfig, boot_flash]
  cases hmain : checkWncConfig (mainCopy run.device.flash) with
  | true =>
      rw [loadWncConfig_main (Device.cold run.device.flash params) hmain]
      exact ⟨h.main hmain, rfl⟩
  | false =>
      have hbak := h.alive.resolve_left (by simp [hmain])
      rw [loadWncConfig_bak (Device.cold run.device.flash params) hmain hbak]
      exact ⟨.inl (h.bak hbak), rfl⟩

theorem storeStep_boot_valid {run : StoreRun} (params : DeviceParams)
    (h : run.Valid) :
    StoreRun.Valid { run with device := boot params run.device.flash } := by
  have hflash := (h.boot_loads params).2
  constructor
  · simpa only [hflash] using h.main
  · simpa only [hflash] using h.bak
  · simpa only [hflash] using h.alive

theorem update_valid (device : Device) {config : WncCfg}
    (hcheck : checkWncConfig config = true) (interrupted : Option WncCfg) :
    StoreRun.Valid ⟨setWncConfig { device with wncConfigBak := config },
      config, interrupted⟩ := by
  constructor
  · intro _
    exact .inl (mainCopy_setWncConfigOps device.flash config)
  · intro _
    exact bakCopy_setWncConfigOps device.flash config
  · left
    exact (congrArg checkWncConfig
      (mainCopy_setWncConfigOps device.flash config)).trans hcheck

theorem cut_one_valid {run : StoreRun} (config : WncCfg) (h : run.Valid)
    (hbak : checkWncConfig (bakCopy run.device.flash) = true) :
    StoreRun.Valid { run with
      device := run.device.run [sctErase wncConfigAddr]
      interrupted := some config } := by
  have hmain := storedConfig_erased run.device.flash wncConfigAddr rfl
  have hkeep : bakCopy (applyOps run.device.flash [sctErase wncConfigAddr]) =
      bakCopy run.device.flash := by
    apply bakCopy_of_avoids
    intro op hop
    exact mainCopyOps_avoid_bakCopy config op (by simp_all [mainCopyOps])
  constructor
  · intro hvalid
    exact absurd hvalid (by simpa [mainCopy] using hmain)
  · intro _
    exact hkeep.trans (h.bak hbak)
  · right
    exact (congrArg checkWncConfig hkeep).trans hbak

theorem cut_two_valid {run : StoreRun} {config : WncCfg} (h : run.Valid)
    (hcheck : checkWncConfig config = true) :
    StoreRun.Valid { run with
      device := run.device.run (mainCopyOps config)
      interrupted := some config } := by
  have hmain := mainCopy_rewritten run.device.flash config
  have hbak := bakCopy_mainCopyOps run.device.flash config
  constructor
  · intro _
    exact .inr (congrArg some hmain)
  · intro hvalid
    have hold := h.bak ((congrArg checkWncConfig hbak).symm.trans hvalid)
    exact hbak.trans hold
  · left
    exact (congrArg checkWncConfig hmain).trans hcheck

theorem cut_three_valid {run : StoreRun} {config : WncCfg}
    (hcheck : checkWncConfig config = true) :
    StoreRun.Valid { run with
      device := run.device.run
        (mainCopyOps config ++ [sctErase wncConfigBakAddr])
      interrupted := some config } := by
  have hmain : mainCopy (applyOps run.device.flash
      (mainCopyOps config ++ [sctErase wncConfigBakAddr])) = config := by
    rw [applyOps_append, mainCopy_of_avoids, mainCopy_rewritten]
    intro op hop
    exact bakCopyOps_avoid_mainCopy config op (by simp_all [bakCopyOps])
  have hbak := storedConfig_erased
    (applyOps run.device.flash (mainCopyOps config)) wncConfigBakAddr rfl
  constructor
  · intro _
    exact .inr (congrArg some hmain)
  · intro hvalid
    exact absurd hvalid (by simpa [bakCopy, applyOps_append] using hbak)
  · left
    exact (congrArg checkWncConfig hmain).trans hcheck

theorem storeStep_valid (run : StoreRun) (event : StoreEvent)
    (next : StoreRun) (h : run.Valid) (hguard : BackupStands run event)
    (hstep : storeStep run event = some next) : next.Valid := by
  cases event with
  | boot params =>
      cases hstep
      exact storeStep_boot_valid params h
  | update config =>
      simp only [storeStep] at hstep
      split at hstep
      case isFalse => cases hstep
      case isTrue hcheck =>
        cases hstep
        exact update_valid run.device hcheck none
  | cut config done =>
      simp only [storeStep] at hstep
      split at hstep
      case isFalse => cases hstep
      case isTrue hcut =>
        obtain ⟨hcheck, hlow, hhigh⟩ := hcut
        cases hstep
        obtain rfl | rfl | rfl : done = 1 ∨ done = 2 ∨ done = 3 := by omega
        · exact cut_one_valid config h (hguard config rfl)
        · exact cut_two_valid h hcheck
        · exact cut_three_valid hcheck

theorem StoreRun.start_valid {device : Device}
    (hvalid : checkWncConfig (mainCopy device.flash) = true ∨
      checkWncConfig (bakCopy device.flash) = true) :
    (StoreRun.start device).Valid := by
  constructor
  · intro _
    exact .inr rfl
  · intro _
    rfl
  · exact hvalid

/--
As long as no update is cut off after its first operation while the backup is
invalid, every boot loads the configuration of the last completed update or of
the update interrupted since, and writes nothing.
-/
theorem boot_loads_completed_or_interrupted {device : Device}
    {events : List StoreEvent} {final : StoreRun} (params : DeviceParams)
    (hvalid : checkWncConfig (mainCopy device.flash) = true ∨
      checkWncConfig (bakCopy device.flash) = true)
    (hrun : Run storeStep BackupStands (StoreRun.start device) events final) :
    ((boot params final.device.flash).wncConfig = final.completed ∨
      some (boot params final.device.flash).wncConfig = final.interrupted) ∧
      (boot params final.device.flash).flash = final.device.flash := by
  have hfinal := hrun.invariant storeStep_valid (StoreRun.start_valid hvalid)
  exact hfinal.boot_loads params

/-! ## Two cuts -/

/-- Without a valid backup, the first operation of an update loses everything. -/
theorem boot_after_cut_without_backup {flash : Memory} (params : DeviceParams)
    (hbak : checkWncConfig (bakCopy flash) = false) :
    (boot params (applyOps flash [sctErase wncConfigAddr])).wncConfig =
      { (bakCopy flash).withDefaultLora with netConfig := defaultNetCfg } := by
  have hmain := storedConfig_erased flash wncConfigAddr rfl
  have hkeep : bakCopy (applyOps flash [sctErase wncConfigAddr]) =
      bakCopy flash := by
    apply bakCopy_of_avoids
    intro op hop
    exact mainCopyOps_avoid_bakCopy (bakCopy flash) op (by simp_all [mainCopyOps])
  have hloaded := loadWncConfig_defaults
    (Device.cold (applyOps flash [sctErase wncConfigAddr]) params) hmain
    ((congrArg checkWncConfig hkeep).trans hbak)
  rw [boot_wncConfig, hloaded, initWncConfig_wncConfig]
  exact congrArg (fun config : WncCfg =>
    { config.withDefaultLora with netConfig := defaultNetCfg }) hkeep

def sampleConfig (server : UInt32) : WncCfg where
  version := configVersion
  netConfig := { defaultNetCfg with pcIp := server }
  loraConfig := ⟨0, 471100000, 17, 35⟩

def sampleParams : DeviceParams := ⟨448, [0, 30, 56, 0, 0, 0]⟩

def sampleDevice : Device :=
  (Device.cold (fun _ => 0xff) sampleParams).run
    (setWncConfigOps (sampleConfig 1))

theorem sampleConfig_valid (server : UInt32) :
    checkWncConfig (sampleConfig server) = true := by
  rw [checkWncConfig_iff]
  refine ⟨rfl, ?_, ?_⟩
  · intro hmode
    simp [sampleConfig, defaultNetCfg, dhcpMode, dedicatedMode] at hmode
  · exact (by decide : LoraCfg.Usable ⟨0, 471100000, 17, 35⟩)

theorem sampleDevice_main :
    mainCopy sampleDevice.flash = sampleConfig 1 :=
  mainCopy_setWncConfigOps _ _

theorem sampleDevice_bak : bakCopy sampleDevice.flash = sampleConfig 1 :=
  bakCopy_setWncConfigOps _ _

theorem boot_wncConfig_of_main {flash : Memory} {config : WncCfg}
    (params : DeviceParams) (hmain : mainCopy flash = config)
    (hvalid : checkWncConfig config = true) :
    (boot params flash).wncConfig = config := by
  have hcheck : checkWncConfig (mainCopy flash) = true := by
    rw [hmain]
    exact hvalid
  rw [boot_wncConfig, loadWncConfig_main (Device.cold flash params) hcheck]
  exact hmain

theorem sampleBoot_wncConfig (params : DeviceParams) :
    (boot params sampleDevice.flash).wncConfig = sampleConfig 1 :=
  boot_wncConfig_of_main params sampleDevice_main (sampleConfig_valid 1)

def afterCut (run : StoreRun) (server : UInt32) (done : Nat) : StoreRun :=
  { run with
    device := run.device.run ((setWncConfigOps (sampleConfig server)).take done)
    interrupted := some (sampleConfig server) }

theorem storeStep_cut_sample (run : StoreRun) (server : UInt32) {done : Nat}
    (h : 1 ≤ done ∧ done ≤ 3) :
    storeStep run (.cut (sampleConfig server) done) =
      some (afterCut run server done) := by
  simp [storeStep, sampleConfig_valid, h, afterCut]

theorem boot_loads_after_one_cut :
    let final := afterCut (StoreRun.start sampleDevice) 2 1
    ((boot sampleParams final.device.flash).wncConfig = final.completed ∨
      some (boot sampleParams final.device.flash).wncConfig =
        final.interrupted) ∧
      (boot sampleParams final.device.flash).flash = final.device.flash := by
  have hbak : checkWncConfig (bakCopy sampleDevice.flash) = true := by
    rw [sampleDevice_bak]
    exact sampleConfig_valid 1
  have hguard : BackupStands (StoreRun.start sampleDevice)
      (.cut (sampleConfig 2) 1) := fun _ _ => hbak
  exact boot_loads_completed_or_interrupted sampleParams (.inr hbak)
    (.cons hguard (storeStep_cut_sample _ 2 (by decide)) (.nil _))

def firstCut : StoreRun := afterCut (StoreRun.start sampleDevice) 2 3

def rebooted : StoreRun :=
  { firstCut with device := boot sampleParams firstCut.device.flash }

def secondCut : StoreRun := afterCut rebooted 3 1

theorem secondCut_boot :
    (boot sampleParams secondCut.device.flash).wncConfig.netConfig =
      defaultNetCfg := by
  have hfirst : firstCut.Valid := cut_three_valid (sampleConfig_valid 2)
  have hflash : rebooted.device.flash = firstCut.device.flash :=
    (hfirst.boot_loads sampleParams).2
  have hbak : checkWncConfig (bakCopy rebooted.device.flash) = false := by
    rw [hflash]
    exact storedConfig_erased (applyOps sampleDevice.flash
      (mainCopyOps (sampleConfig 2))) wncConfigBakAddr rfl
  have hcut : secondCut.device.flash =
      applyOps rebooted.device.flash [sctErase wncConfigAddr] := rfl
  rw [hcut, boot_after_cut_without_backup sampleParams hbak]

/--
An update cut off after its third operation, a boot, and an update cut off after
its first operation: the next boot writes the factory defaults.
-/
theorem second_cut_loads_defaults :
    checkWncConfig (mainCopy sampleDevice.flash) = true ∧
    checkWncConfig (bakCopy sampleDevice.flash) = true ∧
    Run storeStep (fun _ _ => True) (StoreRun.start sampleDevice)
      [.cut (sampleConfig 2) 3, .boot sampleParams, .cut (sampleConfig 3) 1]
      secondCut ∧
    secondCut.completed = sampleConfig 1 ∧
    secondCut.interrupted = some (sampleConfig 3) ∧
    ¬ ((boot sampleParams secondCut.device.flash).wncConfig = sampleConfig 1 ∨
      some (boot sampleParams secondCut.device.flash).wncConfig =
        some (sampleConfig 3)) := by
  have hboot := secondCut_boot
  rw [sampleDevice_main, sampleDevice_bak]
  refine ⟨sampleConfig_valid 1, sampleConfig_valid 1, ?_, sampleDevice_bak,
    rfl, ?_⟩
  · apply Run.cons trivial (storeStep_cut_sample _ 2 (by decide))
    apply Run.cons trivial rfl
    exact Run.cons trivial (storeStep_cut_sample _ 3 (by decide)) (.nil _)
  · rintro (hold | hnew)
    · rw [hold] at hboot
      exact absurd hboot (by decide)
    · rw [Option.some.inj hnew] at hboot
      exact absurd hboot (by decide)

end WncFirmware
