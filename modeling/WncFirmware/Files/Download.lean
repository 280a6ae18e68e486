import WncFirmware.Device

/-!
# Downloading a file

`download_file` and the functions it calls.  The payload is a function from
offsets to bytes, because the first packet may ask for more bytes than the
packet has.
-/

namespace WncFirmware

open WncFirmware.Foundation

inductive DownloadRet where
  | err
  | over
  | downloading
  deriving DecidableEq, Repr

def DownloadRet.toByte : DownloadRet → UInt8
  | .err => 0
  | .over => 1
  | .downloading => 2

/-! ## The catalogue entry of a file type -/

def FileInfoList.info? (list : FileInfoList) :
    FileType → Option SingleFileInfo
  | .regionConfig => some list.regionConfig
  | .lightConnect => some list.lightConnect
  | .lightParking => some list.lightParking
  | .sensorList => some list.sensorList
  | .reservedParking => some list.reservedParking
  | .upgradeBin | .systemLog | .workStateLog => none

def FileInfoList.modifyEntry (list : FileInfoList)
    (change : SingleFileInfo → SingleFileInfo) : FileType → FileInfoList
  | .regionConfig => { list with regionConfig := change list.regionConfig }
  | .lightConnect => { list with lightConnect := change list.lightConnect }
  | .lightParking => { list with lightParking := change list.lightParking }
  | .sensorList => { list with sensorList := change list.sensorList }
  | .reservedParking =>
      { list with reservedParking := change list.reservedParking }
  | .upgradeBin | .systemLog | .workStateLog => list

/-! ## The first packet -/

def getFileType (name : Bytes) : Option FileType :=
  FileType.all.find? fun type => type.nameDef.isPrefixOf name

/-- `sscanf(p, "%d%*s", &version)`, where only the version counts. -/
def scanVersion (text : Bytes) : Option UInt32 :=
  match sscanf (cString text) [.int, .skipWord] with
  | [version] => some version.toUInt32
  | _ => none

def Device.openTransfer (device : Device) (addr : Nat) (size : UInt32)
    (erases : List FlashOp) : Device :=
  { device with
    fileOperateState :=
      { device.fileOperateState with
        flashAddr := UInt32.ofNat addr
        remain := size
        fileSize := size }
    flash := applyOps device.flash erases }

/-- The five cases of `process_download_type` for configuration files. -/
def prepareConfigFile (device : Device) (type : FileType) (addr : Nat)
    (fileName : Bytes) (size : UInt32) : Bool × Device :=
  if maxConfigFileSize < size.toNat then (false, device)
  else
    let list := device.fileInfoList.modifyEntry
      (fun info => { info with size := size, fileName := .copy fileName }) type
    (true, { device with fileInfoList := list }.openTransfer addr size
      [blkErase addr])

def upgradeErases : List FlashOp :=
  (List.range 4).map fun block =>
    blkErase (firmwareUpgradeAddr + block * 16 * flashBytesPerSector)

def prepareUpgradeFile (device : Device) (size : UInt32) : Bool × Device :=
  if maxUpgradeFileSize < size.toNat then (false, device)
  else (true, device.openTransfer firmwareUpgradeAddr size upgradeErases)

def prepareDownload (device : Device) (type : FileType) (fileName : Bytes)
    (size : UInt32) : Bool × Device :=
  match type with
  | .reservedParking =>
      prepareConfigFile device type reservedParkingFileAddr fileName size
  | .regionConfig =>
      prepareConfigFile device type regionConfigFileAddr fileName size
  | .lightConnect =>
      prepareConfigFile device type lightConnectFileAddr fileName size
  | .lightParking =>
      prepareConfigFile device type lightParkingFileAddr fileName size
  | .sensorList =>
      prepareConfigFile device type sensorListFileAddr fileName size
  | .upgradeBin => prepareUpgradeFile device size
  | .systemLog | .workStateLog => (false, device)

def processDownloadType (device : Device) (fileName : Bytes) (size : UInt32) :
    Bool × Device :=
  let fileType := getFileType fileName
  let typed := { device with
    fileOperateState := { device.fileOperateState with fileType := fileType } }
  match fileType with
  | none => (false, typed)
  | some type =>
      match scanVersion (fileName.drop type.nameDef.length) with
      | none => (false, typed)
      | some version =>
          prepareDownload { typed with
            fileOperateState := { typed.fileOperateState with
              version := version } } type fileName size

/-! ## The end of a file -/

def xorVerify (bytes : Bytes) : UInt8 :=
  bytes.foldl (fun result byte => result ^^^ byte) 0

/-- `FIRMUP_FLASHINFO` for a new firmware image; unused fields are `0xff`. -/
def firmUpFlashInfo (binLen : UInt32) : Bytes :=
  let body := littleEndian32 0xa5a5a5a5 ++ littleEndian32 0xa5a5a5a5 ++
    List.replicate 8 0xff ++ littleEndian32 binLen
  body ++ [xorVerify body]

def upgradeLogText (version : UInt32) : Bytes :=
  ascii "upgrade software, version is " ++ decimal version.toInt32.toInt

/-- The shared end of the three cases that record a serial number. -/
def saveFileInfoList (device : Device) : Device :=
  initParkingLists (device.run [sctErase configFileInfoAddr,
    deviceWrite configFileInfoAddr device.fileInfoList.encode])

def recordVersion (device : Device) (type : FileType) : Device :=
  saveFileInfoList { device with
    fileInfoList := device.fileInfoList.modifyEntry
      (fun info => { info with sn := device.fileOperateState.version }) type }

def finishUpgrade (device : Device) (rtc : RtcTime) : Device :=
  let log := addLog device.systemLog rtc
    (upgradeLogText device.fileOperateState.version)
  { device.run ([sctErase firmUpInfoBaseAddr,
      deviceWrite firmUpInfoBaseAddr
        (firmUpFlashInfo device.fileOperateState.fileSize)] ++ log.2) with
    systemLog := log.1 }

def finishDownloadOption (device : Device) (rtc : RtcTime) : Device :=
  match device.fileOperateState.fileType with
  | some .upgradeBin => finishUpgrade device rtc
  | some .lightConnect => recordVersion device .lightConnect
  | some .lightParking => recordVersion device .lightParking
  | some .sensorList => recordVersion device .sensorList
  | some .regionConfig | some .systemLog | some .workStateLog
  | some .reservedParking | none => device

/-! ## One packet -/

/-- A part of the command buffer that is to be written to flash. -/
structure Payload where
  bytes : Nat → UInt8
  length : UInt16

def Payload.toBytes (payload : Payload) : Bytes :=
  (List.range payload.length.toNat).map payload.bytes

def Payload.drop (payload : Payload) (count : Nat) : Payload where
  bytes index := payload.bytes (count + index)
  length := payload.length - UInt16.ofNat count

def Payload.fileNameLen (payload : Payload) : Nat := (payload.bytes 1).toNat

def Payload.fileName (payload : Payload) : Bytes :=
  (List.range payload.fileNameLen).map fun index => payload.bytes (2 + index)

def Payload.fileSize (payload : Payload) : UInt32 :=
  let start := 2 + payload.fileNameLen
  bigEndian32 (payload.bytes start) (payload.bytes (start + 1))
    (payload.bytes (start + 2)) (payload.bytes (start + 3))

def Device.countPacket (device : Device) : Device :=
  { device with
    fileOperateState := { device.fileOperateState with
      packetSeq := device.fileOperateState.packetSeq + 1 } }

def Device.startDownload (device : Device) : Device :=
  { device with
    fileOperateState := { device.fileOperateState with state := .download } }

def receivePacket (device : Device) (packSn : UInt8) (payload : Payload) :
    Option Payload × Device :=
  let counted := device.countPacket
  if counted.fileOperateState.packetSeq ≠ packSn then (none, counted)
  else if packSn = 1 then
    let processed := processDownloadType counted.startDownload payload.fileName
      payload.fileSize
    if processed.1 then
      (some (payload.drop (payload.fileNameLen + 6)), processed.2)
    else (none, processed.2)
  else (some payload, counted)

def payloadWrite (device : Device) (payload : Payload) : FlashOp :=
  deviceWrite device.fileOperateState.flashAddr.toNat payload.toBytes

def storePayload (device : Device) (payload : Payload) : Device :=
  { device.run [payloadWrite device payload] with
    fileOperateState := { device.fileOperateState with
      flashAddr := device.fileOperateState.flashAddr + payload.length.toUInt32
      remain := device.fileOperateState.remain - payload.length.toUInt32 } }

def downloadFile (device : Device) (rtc : RtcTime) (packSn : UInt8)
    (payload : Payload) : DownloadRet × Device :=
  match receivePacket device packSn payload with
  | (none, refused) => (.err, refused)
  | (some part, received) =>
      let stored := storePayload received part
      if stored.fileOperateState.remain = 0 then
        (.over, fileOperateReset (finishDownloadOption stored rtc))
      else (.downloading, stored)

end WncFirmware
