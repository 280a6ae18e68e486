import WncFirmware.Device

/-!
# The configuration store

The configuration is kept twice in flash.  `set_wnc_config` rewrites the first
copy and then the backup, `get_wnc_config` loads the first of the two that is
valid, or else writes the factory defaults.
-/

namespace WncFirmware

open WncFirmware.Foundation

def storedConfig (flash : Memory) (address : Nat) : WncCfg :=
  .decode (readBytes flash address wncCfgSize)

def mainCopy (flash : Memory) : WncCfg := storedConfig flash wncConfigAddr

def bakCopy (flash : Memory) : WncCfg := storedConfig flash wncConfigBakAddr

def setWncConfigOps (config : WncCfg) : List FlashOp :=
  [sctErase wncConfigAddr, deviceWrite wncConfigAddr config.encode,
    sctErase wncConfigBakAddr, deviceWrite wncConfigBakAddr config.encode]

def setWncConfig (device : Device) : Device :=
  { device.run (setWncConfigOps device.wncConfigBak) with
    wncConfig := device.wncConfigBak }

def userInitOps (config : WncCfg) : List FlashOp :=
  setWncConfigOps config ++
    [sctErase configFileInfoAddr, blkErase lightConnectFileAddr,
      blkErase lightParkingFileAddr, blkErase sensorListFileAddr]

def userInit (device : Device) : Device :=
  let config := { device.wncConfig with netConfig := defaultNetCfg }
  { device.run (userInitOps config) with wncConfig := config }

def initWncConfig (device : Device) : Device :=
  userInit { device with wncConfig := device.wncConfig.withDefaultLora }

def loadWncConfig (device : Device) : Device :=
  let first := { device with wncConfig := mainCopy device.flash }
  if checkWncConfig first.wncConfig then first
  else
    let second := { first with wncConfig := bakCopy device.flash }
    if checkWncConfig second.wncConfig then second else initWncConfig second

def getWncConfig (device : Device) : Device :=
  let loaded := loadWncConfig device
  { loaded with wncConfigBak := loaded.wncConfig }

/--
`user_params_init` and the recovery of the log positions.  The device parameters
come from the embedded flash; what `thread_init` writes to the logs is left out.
-/
def boot (params : DeviceParams) (flash : Memory) : Device :=
  logsInit (initParkingLists (fileOperateReset
    (getWncConfig (Device.cold flash params))))

/-! ## One copy -/

theorem storedConfig_congr {address : Nat} {first second : Memory}
    (h : AgreeOn address (address + wncCfgSize) first second) :
    storedConfig first address = storedConfig second address := by
  rw [storedConfig, storedConfig, h.readBytes_eq le_rfl le_rfl]

theorem storedConfig_erased (flash : Memory) (address : Nat)
    (haligned : address % 4096 = 0) :
    checkWncConfig (storedConfig ((sctErase address).apply flash) address) =
      false := by
  have herased := erased_erase flash (address / 4096 * 4096) 4096
  rw [Nat.div_mul_cancel (Nat.dvd_of_mod_eq_zero haligned)] at herased
  rw [storedConfig, sctErase,
    Nat.div_mul_cancel (Nat.dvd_of_mod_eq_zero haligned),
    readBytes_erased (herased.mono le_rfl (by simp [wncCfgSize]))]
  decide

theorem storedConfig_rewritten (flash : Memory) {address : Nat}
    (haligned : address % 4096 = 0) (config : WncCfg) :
    storedConfig (applyOps flash [sctErase address,
      deviceWrite address config.encode]) address = config := by
  have hfits : config.encode.length ≤ 4096 := by
    rw [config.length_encode, wncCfgSize]
    omega
  have hread := readBytes_rewrite flash address config.encode hfits
  rw [config.length_encode] at hread
  rw [storedConfig, sctErase, deviceWrite,
    Nat.div_mul_cancel (Nat.dvd_of_mod_eq_zero haligned), hread,
    config.decode_encode]

/-! ## The copies during an update -/

theorem mainCopy_of_avoids (flash : Memory) {ops : List FlashOp}
    (h : ∀ op ∈ ops, op.Avoids wncConfigAddr (wncConfigAddr + wncCfgSize)) :
    mainCopy (applyOps flash ops) = mainCopy flash :=
  storedConfig_congr (agreeOn_applyOps flash h)

theorem bakCopy_of_avoids (flash : Memory) {ops : List FlashOp}
    (h : ∀ op ∈ ops,
      op.Avoids wncConfigBakAddr (wncConfigBakAddr + wncCfgSize)) :
    bakCopy (applyOps flash ops) = bakCopy flash :=
  storedConfig_congr (agreeOn_applyOps flash h)

def mainCopyOps (config : WncCfg) : List FlashOp :=
  [sctErase wncConfigAddr, deviceWrite wncConfigAddr config.encode]

def bakCopyOps (config : WncCfg) : List FlashOp :=
  [sctErase wncConfigBakAddr, deviceWrite wncConfigBakAddr config.encode]

theorem setWncConfigOps_eq (config : WncCfg) :
    setWncConfigOps config = mainCopyOps config ++ bakCopyOps config := rfl

theorem mainCopyOps_avoid_bakCopy (config : WncCfg) :
    ∀ op ∈ mainCopyOps config,
      op.Avoids wncConfigBakAddr (wncConfigBakAddr + wncCfgSize) := by
  simp [mainCopyOps, FlashOp.Avoids, FlashOp.start, FlashOp.size, sctErase,
    deviceWrite, wncConfigAddr, wncConfigBakAddr, wncCfgSize,
    flashBytesPerSector]

theorem bakCopyOps_avoid_mainCopy (config : WncCfg) :
    ∀ op ∈ bakCopyOps config,
      op.Avoids wncConfigAddr (wncConfigAddr + wncCfgSize) := by
  simp [bakCopyOps, FlashOp.Avoids, FlashOp.start, FlashOp.size, sctErase,
    deviceWrite, wncConfigAddr, wncConfigBakAddr, wncCfgSize,
    flashBytesPerSector]

theorem mainCopy_rewritten (flash : Memory) (config : WncCfg) :
    mainCopy (applyOps flash (mainCopyOps config)) = config :=
  storedConfig_rewritten flash rfl config

theorem bakCopy_rewritten (flash : Memory) (config : WncCfg) :
    bakCopy (applyOps flash (bakCopyOps config)) = config :=
  storedConfig_rewritten flash rfl config

theorem bakCopy_mainCopyOps (flash : Memory) (config : WncCfg) :
    bakCopy (applyOps flash (mainCopyOps config)) = bakCopy flash :=
  bakCopy_of_avoids flash (mainCopyOps_avoid_bakCopy config)

theorem mainCopy_bakCopyOps (flash : Memory) (config : WncCfg) :
    mainCopy (applyOps flash (bakCopyOps config)) = mainCopy flash :=
  mainCopy_of_avoids flash (bakCopyOps_avoid_mainCopy config)

@[simp] theorem mainCopy_setWncConfigOps (flash : Memory) (config : WncCfg) :
    mainCopy (applyOps flash (setWncConfigOps config)) = config := by
  rw [setWncConfigOps_eq, applyOps_append, mainCopy_bakCopyOps,
    mainCopy_rewritten]

@[simp] theorem bakCopy_setWncConfigOps (flash : Memory) (config : WncCfg) :
    bakCopy (applyOps flash (setWncConfigOps config)) = config := by
  rw [setWncConfigOps_eq, applyOps_append, bakCopy_rewritten]

/-! ## Loading -/

theorem loadWncConfig_main (device : Device)
    (h : checkWncConfig (mainCopy device.flash) = true) :
    loadWncConfig device = { device with wncConfig := mainCopy device.flash } := by
  simp [loadWncConfig, h]

theorem loadWncConfig_bak (device : Device)
    (hmain : checkWncConfig (mainCopy device.flash) = false)
    (hbak : checkWncConfig (bakCopy device.flash) = true) :
    loadWncConfig device = { device with wncConfig := bakCopy device.flash } := by
  simp [loadWncConfig, hmain, hbak]

theorem loadWncConfig_defaults (device : Device)
    (hmain : checkWncConfig (mainCopy device.flash) = false)
    (hbak : checkWncConfig (bakCopy device.flash) = false) :
    loadWncConfig device =
      initWncConfig { device with wncConfig := bakCopy device.flash } := by
  simp [loadWncConfig, hmain, hbak]

theorem initWncConfig_wncConfig (device : Device) :
    (initWncConfig device).wncConfig =
      { device.wncConfig.withDefaultLora with netConfig := defaultNetCfg } :=
  rfl

@[simp] theorem boot_wncConfig (params : DeviceParams) (flash : Memory) :
    (boot params flash).wncConfig =
      (loadWncConfig (Device.cold flash params)).wncConfig := by
  simp only [boot, logsInit, initParkingLists, fileOperateReset, getWncConfig]

@[simp] theorem boot_wncConfigBak (params : DeviceParams) (flash : Memory) :
    (boot params flash).wncConfigBak =
      (loadWncConfig (Device.cold flash params)).wncConfig := by
  simp only [boot, logsInit, initParkingLists, fileOperateReset, getWncConfig]

@[simp] theorem boot_flash (params : DeviceParams) (flash : Memory) :
    (boot params flash).flash =
      (loadWncConfig (Device.cold flash params)).flash := by
  simp only [boot, logsInit, initParkingLists, fileOperateReset, getWncConfig]

end WncFirmware
