import WncFirmware.Files.Download

/-!
# Uploading a file

`upload_file` fills the payload part of the command buffer.  The buffer is kept
between the calls, because a file of more than 255 packets makes the packet
number come back to 1 and the buffer is then read as a request again.  A call
whose behaviour C leaves open has no result.
-/

namespace WncFirmware

open WncFirmware.Foundation

def putBytes (buffer : Bytes) (index : Nat) (bytes : Bytes) : Bytes :=
  (List.range (max buffer.length (index + bytes.length))).map fun position =>
    if index ≤ position ∧ position < index + bytes.length then
      byteAt bytes (position - index)
    else byteAt buffer position

theorem byteAt_putBytes (buffer : Bytes) (index : Nat) (bytes : Bytes)
    (position : Nat) :
    byteAt (putBytes buffer index bytes) position =
      if index ≤ position ∧ position < index + bytes.length then
        byteAt bytes (position - index)
      else byteAt buffer position := by
  by_cases hin : position < max buffer.length (index + bytes.length)
  · conv_lhs => rw [byteAt, putBytes, List.getD_eq_getElem?_getD]
    simp [hin]
  · have hput : (putBytes buffer index bytes).length ≤ position := by
      simp only [putBytes, List.length_map, List.length_range]
      omega
    rw [byteAt_of_length_le hput, if_neg (by omega),
      byteAt_of_length_le (by omega)]

theorem length_putBytes (buffer : Bytes) (index : Nat) (bytes : Bytes) :
    (putBytes buffer index bytes).length =
      max buffer.length (index + bytes.length) := by
  simp [putBytes]

theorem byteAt_putBytes_before {index position : Nat} (buffer bytes : Bytes)
    (h : position < index) :
    byteAt (putBytes buffer index bytes) position = byteAt buffer position := by
  rw [byteAt_putBytes, if_neg (by omega)]

def networkOrder32 (number : UInt32) : Bytes := (littleEndian32 number).reverse

def networkOrder16 (number : UInt16) : Bytes := (littleEndian16 number).reverse

def Device.setTransfer (device : Device)
    (change : FileOperateState → FileOperateState) : Device :=
  { device with fileOperateState := change device.fileOperateState }

structure UploadSource where
  size : UInt32
  name : Bytes

/--
The four cases of `upload_file` for configuration files.  A name without a zero
byte is read past its end, which has no result.
-/
def openConfigFile (device : Device) (addr : Nat) (info : SingleFileInfo) :
    Option (Option UploadSource × Device) :=
  if info.sn = 0xffffffff then some (none, device)
  else if 0 ∈ info.fileName.bytes then
    some (some ⟨info.size, cString info.fileName.bytes⟩,
      device.setTransfer fun transfer =>
        { transfer with flashAddr := UInt32.ofNat addr })
  else none

def openUpload (device : Device) :
    FileType → Option (Option UploadSource × Device)
  | .regionConfig =>
      openConfigFile device regionConfigFileAddr
        device.fileInfoList.regionConfig
  | .lightConnect =>
      openConfigFile device lightConnectFileAddr
        device.fileInfoList.lightConnect
  | .lightParking =>
      openConfigFile device lightParkingFileAddr
        device.fileInfoList.lightParking
  | .sensorList =>
      openConfigFile device sensorListFileAddr device.fileInfoList.sensorList
  | .systemLog =>
      let prepared := prepareReadLog device.flash device.systemLog
      some (some ⟨UInt32.ofNat prepared.2, FileType.systemLog.nameDef⟩,
        { device with systemLog := prepared.1 })
  | .workStateLog =>
      let prepared := prepareReadLog device.flash device.workStateLog
      some (some ⟨UInt32.ofNat prepared.2, FileType.workStateLog.nameDef⟩,
        { device with workStateLog := prepared.1 })
  | .upgradeBin | .reservedParking => some (none, device)

def readFile (device : Device) (maxSize : Nat) : Device × Bytes :=
  match device.fileOperateState.fileType with
  | some .regionConfig | some .lightConnect | some .lightParking
  | some .sensorList =>
      (device, readBytes device.flash
        device.fileOperateState.flashAddr.toNat maxSize)
  | some .systemLog =>
      let read := logRead device.flash device.systemLog maxSize
      ({ device with systemLog := read.1 }, read.2)
  | some .workStateLog =>
      let read := logRead device.flash device.workStateLog maxSize
      ({ device with workStateLog := read.1 }, read.2)
  | some .upgradeBin | some .reservedParking | none => (device, [])

structure UploadPass where
  ret : Int
  device : Device
  buffer : Bytes

def uploadData (device : Device) (buffer : Bytes) (bufSize filled : Nat) :
    UploadPass :=
  if 0 < device.fileOperateState.remain then
    let read := readFile device
      (min (bufSize - filled) device.fileOperateState.remain.toNat)
    let count := UInt32.ofNat read.2.length
    { ret := filled + read.2.length
      device := read.1.setTransfer fun transfer =>
        { transfer with
          remain := transfer.remain - count
          flashAddr := transfer.flashAddr + count }
      buffer := putBytes buffer filled read.2 }
  else ⟨filled, device, buffer⟩

def uploadFile (device : Device) (packSn : UInt8) (buffer : Bytes)
    (bufSize : Nat) : Option UploadPass :=
  if packSn = 1 then
    let fileType := getFileType (buffer.drop 2)
    let typed := device.setTransfer fun transfer =>
      { transfer with state := .upload, fileType := fileType }
    match fileType with
    | none => some ⟨-1, typed, buffer⟩
    | some type =>
        match openUpload typed type with
        | none => none
        | some (none, refused) => some ⟨-1, refused, buffer⟩
        | some (some source, opened) =>
            let head := 0 :: UInt8.ofNat source.name.length ::
              (source.name ++ networkOrder32 source.size)
            some (uploadData
              (opened.setTransfer fun transfer =>
                { transfer with remain := source.size })
              (putBytes buffer 0 head) bufSize head.length)
  else some (uploadData device buffer bufSize 0)

/-! ## What an upload leaves alone -/

def SameStores (first second : Device) : Prop :=
  first.flash = second.flash ∧ first.wncDevice = second.wncDevice ∧
    first.wncConfig = second.wncConfig ∧
    first.wncConfigBak = second.wncConfigBak ∧
    first.fileInfoList = second.fileInfoList ∧
    first.parkingLists = second.parkingLists

theorem SameStores.refl (device : Device) : SameStores device device :=
  ⟨rfl, rfl, rfl, rfl, rfl, rfl⟩

theorem SameStores.trans {first second third : Device}
    (h : SameStores first second) (h' : SameStores second third) :
    SameStores first third := by
  simp only [SameStores] at *
  grind

theorem sameStores_setTransfer (device : Device)
    (change : FileOperateState → FileOperateState) :
    SameStores (device.setTransfer change) device := .refl device

theorem sameStores_openConfigFile {device opened : Device} {addr : Nat}
    {info : SingleFileInfo} {source : Option UploadSource}
    (h : openConfigFile device addr info = some (source, opened)) :
    SameStores opened device := by
  unfold openConfigFile at h
  split at h
  · cases h
    exact .refl device
  · split at h
    · cases h
      exact .refl device
    · cases h

theorem sameStores_openUpload {device opened : Device} {type : FileType}
    {source : Option UploadSource}
    (h : openUpload device type = some (source, opened)) :
    SameStores opened device := by
  cases type with
  | regionConfig => exact sameStores_openConfigFile h
  | lightConnect => exact sameStores_openConfigFile h
  | lightParking => exact sameStores_openConfigFile h
  | sensorList => exact sameStores_openConfigFile h
  | systemLog =>
      cases h
      exact .refl device
  | workStateLog =>
      cases h
      exact .refl device
  | upgradeBin =>
      cases h
      exact .refl device
  | reservedParking =>
      cases h
      exact .refl device

theorem sameStores_readFile (device : Device) (maxSize : Nat) :
    SameStores (readFile device maxSize).1 device := by
  unfold readFile
  split <;> exact .refl device

theorem sameStores_uploadData (device : Device) (buffer : Bytes)
    (bufSize filled : Nat) :
    SameStores (uploadData device buffer bufSize filled).device device := by
  unfold uploadData
  split
  · exact (sameStores_setTransfer _ _).trans (sameStores_readFile device _)
  · exact .refl device

theorem sameStores_uploadFile {device : Device} {packSn : UInt8}
    {buffer : Bytes} {bufSize : Nat} {pass : UploadPass}
    (h : uploadFile device packSn buffer bufSize = some pass) :
    SameStores pass.device device := by
  unfold uploadFile at h
  split at h
  case isFalse =>
    cases h
    exact sameStores_uploadData device buffer bufSize 0
  case isTrue =>
    dsimp only at h
    split at h
    · cases h
      exact sameStores_setTransfer device _
    · split at h
      · cases h
      · rename_i hopen
        cases h
        exact (sameStores_openUpload hopen).trans
          (sameStores_setTransfer device _)
      · rename_i hopen
        cases h
        exact (sameStores_uploadData _ _ _ _).trans
          ((sameStores_openUpload hopen).trans
            (sameStores_setTransfer device _))

end WncFirmware
