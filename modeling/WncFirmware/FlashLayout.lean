import WncFirmware.Foundation.NorFlash

/-!
# Layout of the external flash

The sector numbers of `external_flash.h`, and the three requests that the
firmware makes to the flash device.  `rt_device_write` programs its bytes at
consecutive addresses; a sector has 4 KB and a block 64 KB.
-/

namespace WncFirmware

open WncFirmware.Foundation

def flashBytesPerSector : Nat := 4096

def sctErase (address : Nat) : FlashOp :=
  .erase (address / 4096 * 4096) 4096

def blkErase (address : Nat) : FlashOp :=
  .erase (address / 65536 * 65536) 65536

def deviceWrite (address : Nat) (bytes : Bytes) : FlashOp :=
  .program address bytes

def configFileInfoAddr : Nat := 0 * flashBytesPerSector
def regionConfigFileAddr : Nat := 16 * flashBytesPerSector
def lightConnectFileAddr : Nat := 32 * flashBytesPerSector
def lightParkingFileAddr : Nat := 48 * flashBytesPerSector
def sensorListFileAddr : Nat := 64 * flashBytesPerSector
def systemLogBaseAddr : Nat := 80 * flashBytesPerSector
def workStateLogBaseAddr : Nat := 112 * flashBytesPerSector
def reservedParkingFileAddr : Nat := 160 * flashBytesPerSector
def firmwareUpgradeAddr : Nat := 864 * flashBytesPerSector
def firmUpInfoBaseAddr : Nat := 992 * flashBytesPerSector
def wncConfigAddr : Nat := 999 * flashBytesPerSector
def wncConfigBakAddr : Nat := 1000 * flashBytesPerSector

def maxConfigFileSize : Nat := 16 * flashBytesPerSector
def maxUpgradeFileSize : Nat := 64 * flashBytesPerSector

/-! ## File types -/

inductive FileType where
  | regionConfig
  | lightConnect
  | lightParking
  | sensorList
  | upgradeBin
  | systemLog
  | workStateLog
  | reservedParking
  deriving DecidableEq, Repr

namespace FileType

/-- The order in which `get_file_type` tries the names. -/
def all : List FileType :=
  [regionConfig, lightConnect, lightParking, sensorList, upgradeBin, systemLog,
    workStateLog, reservedParking]

def nameDef : FileType → Bytes
  | regionConfig => ascii "LN_region_config_"
  | lightConnect => ascii "LN_light_connect_"
  | lightParking => ascii "LN_light_parking_"
  | sensorList => ascii "LN_sensor_"
  | upgradeBin => ascii "LN_upgrade_"
  | systemLog => ascii "LN.log"
  | workStateLog => ascii "LN_work_state.log"
  | reservedParking => ascii "LN_reserved_parking_"

def region? : FileType → Option (Nat × Nat)
  | regionConfig => some (regionConfigFileAddr, maxConfigFileSize)
  | lightConnect => some (lightConnectFileAddr, maxConfigFileSize)
  | lightParking => some (lightParkingFileAddr, maxConfigFileSize)
  | sensorList => some (sensorListFileAddr, maxConfigFileSize)
  | upgradeBin => some (firmwareUpgradeAddr, maxUpgradeFileSize)
  | reservedParking => some (reservedParkingFileAddr, maxConfigFileSize)
  | systemLog => none
  | workStateLog => none

end FileType

end WncFirmware
