import WncFirmware.Config.WncCfg
import WncFirmware.Log.SystemLog
import WncFirmware.Parking.Lists

/-!
# The state of the device

The global variables that the network thread reads and writes, and the external
flash.  A function of the source that writes to flash is modelled by the list of
its flash operations and by its effect on the variables.
-/

namespace WncFirmware

open WncFirmware.Foundation

/-- `wnc_device` as far as the network thread uses it. -/
structure DeviceParams where
  id : UInt32
  ethMac : Bytes
  deriving DecidableEq, Repr

structure Device where
  flash : Memory
  wncDevice : DeviceParams
  wncConfig : WncCfg
  wncConfigBak : WncCfg
  fileOperateState : FileOperateState
  fileInfoList : FileInfoList
  parkingLists : ParkingLists
  systemLog : LogInfo .systemLog
  workStateLog : LogInfo .workStateLog

def Device.run (device : Device) (ops : List FlashOp) : Device :=
  { device with flash := applyOps device.flash ops }

@[simp] theorem Device.flash_run (device : Device) (ops : List FlashOp) :
    (device.run ops).flash = applyOps device.flash ops := rfl

/-- The variables as the C startup code clears them. -/
def Device.cold (flash : Memory) (params : DeviceParams) : Device :=
  let noConfig : WncCfg := ⟨0, ⟨0, 0, 0, 0, 0, 0⟩, ⟨0, 0, 0, 0⟩⟩
  let noFile : SingleFileInfo := ⟨0, 0, FileName.copy []⟩
  { flash := flash
    wncDevice := params
    wncConfig := noConfig
    wncConfigBak := noConfig
    fileOperateState := .reset
    fileInfoList := ⟨noFile, noFile, noFile, noFile, noFile⟩
    parkingLists := .empty
    systemLog := ⟨0, 0, 0, by simp⟩
    workStateLog := ⟨0, 0, 0, by simp⟩ }

def Device.blank : Device :=
  Device.cold (fun _ => 0xff) ⟨448, [0, 30, 56, 0, 0, 0]⟩

def readFileInfoList (flash : Memory) : FileInfoList :=
  .decode (readBytes flash configFileInfoAddr FileInfoList.encodedSize)

/-- The three files are read in this order. -/
def initParkingLists (device : Device) : Device :=
  let info := readFileInfoList device.flash
  let lights := readLightConnectFile device.flash info device.wncDevice.id
  let detectors :=
    readSensorListFile device.flash info device.wncDevice.id lights
  { device with
    fileInfoList := info
    parkingLists := readLightParkingFile device.flash info detectors }

theorem detectorInfo_initParkingLists (device : Device) :
    (initParkingLists device).parkingLists.detectorInfoList.detectorInfo =
      (readDeviceIds device.flash sensorListFileAddr
        (readFileInfoList device.flash).sensorList maxDetectorPerWnc
        device.wncDevice.id).map fun id =>
          { id := id, state := nodeStateOffline } := by
  simp only [initParkingLists, readLightParkingFile, readSensorListFile]

/--
A flash that holds the three files that `init_parking_lists` reads, with the
serial number 1 and without names.
-/
def configuredFlash (lightConnect lightParking sensorList : Bytes) : Memory :=
  fun addr =>
    if addr < configFileInfoAddr + FileInfoList.encodedSize then
      let files := [[], lightConnect, lightParking, sensorList, []]
      let size := (files.getD (addr / SingleFileInfo.encodedSize) []).length
      byteAt (littleEndian32 1 ++ littleEndian32 (UInt32.ofNat size))
        (addr % SingleFileInfo.encodedSize)
    else if addr < lightParkingFileAddr then
      byteAt lightConnect (addr - lightConnectFileAddr)
    else if addr < sensorListFileAddr then
      byteAt lightParking (addr - lightParkingFileAddr)
    else byteAt sensorList (addr - sensorListFileAddr)

def logsInit (device : Device) : Device :=
  { device with
    systemLog := perpareWriteInfo device.flash .systemLog
    workStateLog := perpareWriteInfo device.flash .workStateLog }

def fileOperateReset (device : Device) : Device :=
  { device with fileOperateState := .reset }

end WncFirmware
