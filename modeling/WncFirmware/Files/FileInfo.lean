import WncFirmware.FlashLayout

/-!
# Records of the file transfer

`struct stu_file_operate_state`, and the catalogue `file_info_list_t` with its
packed memory image.
-/

namespace WncFirmware

open WncFirmware.Foundation

/-! ## The transfer in progress -/

inductive FileOptState where
  | idle
  | download
  | upload
  deriving DecidableEq, Repr

/-- A file type of `none` stands for `MAX_FILE_TYPE_NUM`, a name of no known type. -/
structure FileOperateState where
  state : FileOptState
  fileType : Option FileType
  fileSize : UInt32
  packetSeq : UInt8
  remain : UInt32
  flashAddr : UInt32
  version : UInt32
  deriving DecidableEq, Repr

/-- All bytes zero, as `file_operate_reset` leaves them. -/
def FileOperateState.reset : FileOperateState where
  state := .idle
  fileType := some .regionConfig
  fileSize := 0
  packetSeq := 0
  remain := 0
  flashAddr := 0
  version := 0

/-! ## File names -/

def maxFileNameLen : Nat := 256

structure FileName where
  bytes : Bytes
  length_eq : bytes.length = maxFileNameLen
  deriving DecidableEq, Repr

/-- `rt_strncpy` into a field of 256 bytes, then a zero in the last one. -/
def FileName.copy (name : Bytes) : FileName where
  bytes := ((cString name ++ List.replicate maxFileNameLen 0).take 255) ++ [0]
  length_eq := by
    simp only [List.length_append, List.length_take, List.length_replicate,
      List.length_singleton, maxFileNameLen]
    omega

/-! ## The catalogue -/

structure SingleFileInfo where
  sn : UInt32
  size : UInt32
  fileName : FileName
  deriving DecidableEq, Repr

structure FileInfoList where
  regionConfig : SingleFileInfo
  lightConnect : SingleFileInfo
  lightParking : SingleFileInfo
  sensorList : SingleFileInfo
  reservedParking : SingleFileInfo
  deriving DecidableEq, Repr

namespace SingleFileInfo

def encode (info : SingleFileInfo) : Bytes :=
  littleEndian32 info.sn ++ littleEndian32 info.size ++ info.fileName.bytes

def encodedSize : Nat := 264

def decode (bytes : Bytes) : SingleFileInfo where
  sn := read32 bytes 0
  size := read32 bytes 4
  fileName := ⟨slice bytes 8 maxFileNameLen, length_slice bytes 8 _⟩

@[simp] theorem length_encode (info : SingleFileInfo) :
    info.encode.length = encodedSize := by
  simp only [encode, List.length_append, info.fileName.length_eq]
  rfl

theorem decode_encode_append (info : SingleFileInfo) (rest : Bytes) :
    decode (info.encode ++ rest) = info := by
  rcases info with ⟨sn, size, name, hname⟩
  simp only [decode, encode, mk.injEq, FileName.mk.injEq, List.append_assoc]
  refine ⟨read32_of_bytes rfl rfl rfl rfl, read32_of_bytes rfl rfl rfl rfl, ?_⟩
  rw [← List.append_assoc (littleEndian32 sn), ← hname]
  exact slice_append (littleEndian32 sn ++ littleEndian32 size) name rest

end SingleFileInfo

namespace FileInfoList

def encode (list : FileInfoList) : Bytes :=
  list.regionConfig.encode ++ (list.lightConnect.encode ++
    (list.lightParking.encode ++ (list.sensorList.encode ++
      list.reservedParking.encode)))

/-- `sizeof(g_file_info_list)` -/
def encodedSize : Nat := 1320

def decode (bytes : Bytes) : FileInfoList where
  regionConfig := .decode bytes
  lightConnect := .decode (bytes.drop 264)
  lightParking := .decode (bytes.drop 528)
  sensorList := .decode (bytes.drop 792)
  reservedParking := .decode (bytes.drop 1056)

@[simp] theorem length_encode (list : FileInfoList) :
    list.encode.length = encodedSize := by
  simp [encode, SingleFileInfo.encodedSize, encodedSize]

theorem drop_encode_append (info : SingleFileInfo) (rest : Bytes)
    (count : Nat) :
    (info.encode ++ rest).drop (264 + count) = rest.drop count := by
  rw [List.drop_append, List.drop_of_length_le (by
    rw [SingleFileInfo.length_encode, SingleFileInfo.encodedSize]; omega)]
  simp [SingleFileInfo.encodedSize]

@[simp] theorem decode_encode (list : FileInfoList) :
    decode list.encode = list := by
  have hlast := SingleFileInfo.decode_encode_append list.reservedParking []
  have hsecond := fun info rest => drop_encode_append info rest 0
  have hthird := fun info rest => drop_encode_append info rest 264
  have hfourth := fun info rest => drop_encode_append info rest 528
  have hfifth := fun info rest => drop_encode_append info rest 792
  rw [List.append_nil] at hlast
  simp only [Nat.reduceAdd, List.drop_zero] at hsecond hthird hfourth hfifth
  simp only [decode, encode, hsecond, hthird, hfourth, hfifth,
    SingleFileInfo.decode_encode_append, hlast]

end FileInfoList

end WncFirmware
