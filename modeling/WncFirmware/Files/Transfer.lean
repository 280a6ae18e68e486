import WncFirmware.Files.Packets
import WncFirmware.Tcp.Commands

/-!
# A file sent in packets

The sender's side of a download, and the transfer of a file as long as the
packet numbers do not come back to 1.
-/

namespace WncFirmware

open WncFirmware.Foundation WncFirmware.Tcp

/-! ## Frames -/

structure Addressee where
  id : UInt32
  deviceType : Bytes
  length_deviceType : deviceType.length = 4

def Addressee.header (target : Addressee) (packSn : UInt8) (length : Nat) :
    Bytes :=
  15 :: networkOrder32 target.id ++ target.deviceType ++
    packSn :: networkOrder16 (UInt16.ofNat length)

def Addressee.fileCommand (target : Addressee) (packSn : UInt8)
    (payload : Bytes) : Bytes :=
  target.header packSn payload.length ++
    (payload ++ [xorVerify (target.header packSn payload.length ++ payload)])

/-- `MAX_TCP_DATA_LENGTH` less header and checksum. -/
def maxPayloadLength : Nat := 1011

section Frame

variable (target : Addressee) (packSn : UInt8) (payload : Bytes)

theorem Addressee.header_eq (length : Nat) :
    ∃ first second third fourth,
      target.header packSn length = [15, byteOf target.id.toNat 3, byteOf target.id.toNat 2,
        byteOf target.id.toNat 1, byteOf target.id.toNat 0, first, second, third,
        fourth, packSn, byteOf (UInt16.ofNat length).toNat 1,
        byteOf (UInt16.ofNat length).toNat 0] := by
  obtain ⟨id, deviceType, hlength⟩ := target
  match deviceType, hlength with
  | [first, second, third, fourth], _ => exact ⟨first, second, third, fourth, rfl⟩

theorem Addressee.length_header (length : Nat) :
    (target.header packSn length).length = headerSize := by
  obtain ⟨first, second, third, fourth, hheader⟩ := target.header_eq packSn length
  rw [hheader]
  rfl

theorem byteAt_fileCommand (index : Nat) :
    byteAt (target.fileCommand packSn payload) (headerSize + index) =
      byteAt (payload ++
        [xorVerify (target.header packSn payload.length ++ payload)]) index := by
  rw [Addressee.fileCommand, ← target.length_header packSn payload.length,
    byteAt_append_right]

theorem byteAt_fileCommand_payload {index : Nat}
    (h : index < payload.length) :
    byteAt (target.fileCommand packSn payload) (headerSize + index) =
      byteAt payload index := by
  rw [byteAt_fileCommand, byteAt_append_left _ h]

theorem byteAt_fileCommand_behind {index : Nat}
    (h : payload.length < index) :
    byteAt (target.fileCommand packSn payload) (headerSize + index) = 0 := by
  rw [byteAt_fileCommand]
  apply byteAt_of_length_le
  simp only [List.length_append, List.length_singleton]
  omega

theorem headerPackSn_fileCommand :
    headerPackSn (target.fileCommand packSn payload) = packSn := by
  obtain ⟨first, second, third, fourth, hheader⟩ :=
    target.header_eq packSn payload.length
  rw [Addressee.fileCommand, hheader]
  rfl

theorem command_fileCommand :
    Command.ofCode? (byteAt (target.fileCommand packSn payload) 0) =
      some .configureFilesOpt := by
  have hbyte : byteAt (target.fileCommand packSn payload) 0 = 15 := rfl
  rw [hbyte]
  decide

theorem headerDataLen_fileCommand (h : payload.length ≤ maxPayloadLength) :
    headerDataLen (target.fileCommand packSn payload) = payload.length := by
  obtain ⟨first, second, third, fourth, hheader⟩ :=
    target.header_eq packSn payload.length
  have hhigh : byteAt (target.fileCommand packSn payload) 10 =
      byteOf (UInt16.ofNat payload.length).toNat 1 := by
    rw [Addressee.fileCommand, hheader]
    rfl
  have hlow : byteAt (target.fileCommand packSn payload) 11 =
      byteOf (UInt16.ofNat payload.length).toNat 0 := by
    rw [Addressee.fileCommand, hheader]
    rfl
  rw [headerDataLen, hhigh, hlow, bigEndian16, toNat_byteOf, toNat_byteOf,
    UInt16.toNat_ofNat']
  simp only [maxPayloadLength] at h
  omega

theorem headerId_fileCommand :
    headerId (target.fileCommand packSn payload) = target.id := by
  obtain ⟨first, second, third, fourth, hheader⟩ :=
    target.header_eq packSn payload.length
  rw [headerId, Addressee.fileCommand, hheader]
  exact bigEndian32_byteOf target.id

theorem commandAccepted_fileCommand {device : Device}
    (h : target.id = device.wncDevice.id ∨ target.id = 0) :
    commandAccepted device (target.fileCommand packSn payload) = true := by
  have hsum : checksumCorrect (target.fileCommand packSn payload) = true := by
    rw [Addressee.fileCommand, ← List.append_assoc]
    exact checksumCorrect_append _
  simp only [commandAccepted, hsum, addressed, headerId_fileCommand]
  rcases h with h | h <;> simp [h]

theorem isUpload_fileCommand {payload : Bytes} (h : payload ≠ []) :
    isUpload (target.fileCommand packSn payload) =
      (packSn == 1 && byteAt payload 0 == 0) := by
  have hpos : 0 < payload.length := List.length_pos_of_ne_nil h
  rw [isUpload, headerPackSn_fileCommand]
  have hfirst := byteAt_fileCommand_payload target packSn payload hpos
  rw [Nat.add_zero] at hfirst
  rw [hfirst]

/-- `analyze_command` passes a frame that is no request for an upload to `download_file`. -/
theorem analyzeCommand_download {env : CommandEnv} {fd : Int}
    {device : Device} (hid : target.id = device.wncDevice.id ∨ target.id = 0)
    (h : isUpload (target.fileCommand packSn payload) = false) :
    analyzeCommand env fd device (target.fileCommand packSn payload) =
      some (downloadCommand env device (target.fileCommand packSn payload)) := by
  simp [analyzeCommand, commandAccepted_fileCommand target packSn payload hid,
    command_fileCommand, handleCommand, configureFilesOpt, h]

end Frame

/-! ## What `download_file` reads of a frame -/

section Payload

variable (env : CommandEnv) (target : Addressee) (packSn : UInt8)
  {payload : Bytes} (hlength : payload.length ≤ maxPayloadLength)

include hlength

theorem cmdBufPayload_length :
    (cmdBufPayload env (target.fileCommand packSn payload)).length.toNat =
      payload.length := by
  simp only [maxPayloadLength] at hlength
  simp only [cmdBufPayload, headerDataLen_fileCommand target packSn payload hlength,
    UInt16.toNat_ofNat']
  omega

theorem cmdBufPayload_bytes {index : Nat} (h : index < payload.length) :
    (cmdBufPayload env (target.fileCommand packSn payload)).bytes index =
      byteAt payload index := by
  have hinside : headerSize + index < maxTcpDataLength := by
    simp only [headerSize, maxTcpDataLength, maxPayloadLength] at *
    omega
  simp only [cmdBufPayload, if_pos hinside]
  exact byteAt_fileCommand_payload target packSn payload h

theorem cmdBufPayload_slice {start count : Nat}
    (h : start + count ≤ payload.length) :
    ((List.range count).map fun index =>
      (cmdBufPayload env (target.fileCommand packSn payload)).bytes
        (start + index)) = slice payload start count := by
  apply List.map_congr_left
  intro index hindex
  have := List.mem_range.mp hindex
  exact cmdBufPayload_bytes env target packSn hlength (by omega)

theorem cmdBufPayload_toBytes :
    (cmdBufPayload env (target.fileCommand packSn payload)).toBytes = payload := by
  have hslice := cmdBufPayload_slice env target packSn hlength
    (Nat.le_of_eq (Nat.zero_add payload.length))
  have hall : slice payload 0 payload.length = payload := by
    simpa using slice_append [] payload []
  simp only [Nat.zero_add] at hslice
  rw [Payload.toBytes, cmdBufPayload_length env target packSn hlength, hslice, hall]

end Payload

/-! ## Files and their packets -/

/--
A file as the sender cuts it: the first packet carries a mark that is not zero,
the name, the size and the first part, each later packet one more part.
-/
structure FileTransfer where
  target : Addressee
  mark : UInt8
  name : Bytes
  first : Bytes
  later : List Bytes
  type : FileType
  version : UInt32
  base : Nat
  limit : Nat
  mark_ne_zero : mark ≠ 0
  length_name : name.length ≤ 255
  fileType : getFileType name = some type
  hasVersion : scanVersion (name.drop type.nameDef.length) = some version
  region : type.region? = some (base, limit)
  length_first : name.length + 6 + first.length ≤ maxPayloadLength
  length_later : ∀ part ∈ later, 1 ≤ part.length ∧
    part.length ≤ maxPayloadLength
  length_content : (first ++ later.flatten).length ≤ limit

namespace FileTransfer

def content (file : FileTransfer) : Bytes := file.first ++ file.later.flatten

def size (file : FileTransfer) : UInt32 := UInt32.ofNat file.content.length

def firstPayload (file : FileTransfer) : Bytes :=
  [file.mark, UInt8.ofNat file.name.length] ++
    (file.name ++ (networkOrder32 file.size ++ file.first))

def payloads (file : FileTransfer) : List Bytes :=
  file.firstPayload :: file.later

end FileTransfer

/-- The frames of consecutive packets; packet numbers are taken modulo 256. -/
def frameSequence (target : Addressee) : Nat → List Bytes → List Bytes
  | _, [] => []
  | number, payload :: payloads =>
      target.fileCommand (UInt8.ofNat number) payload ::
        frameSequence target (number + 1) payloads

def FileTransfer.frames (file : FileTransfer) : List Bytes :=
  frameSequence file.target 1 file.payloads

def deliverAll (env : Nat → CommandEnv) (fd : Int) :
    Nat → Device → List Bytes → Option (List (List Effect) × Device)
  | _, device, [] => some ([], device)
  | number, device, frame :: frames => do
      let result ← analyzeCommand (env number) fd device frame
      let later ← deliverAll env fd (number + 1) result.device frames
      return (result.effects :: later.1, later.2)

def downloadRets (effects : List Effect) : List DownloadRet :=
  effects.filterMap fun effect =>
    match effect with
    | .downloaded ret => some ret
    | .send _ | .post _ => none

def ReturnsInOrder (effects : List (List Effect)) (count : Nat) : Prop :=
  effects.map downloadRets =
    List.replicate (count - 1) [.downloading] ++ [[.over]]

def FileTransfer.StoredIn (file : FileTransfer) (flash : Memory) : Prop :=
  Holds file.base (file.base + file.limit) file.content flash

def FileTransfer.Received (file : FileTransfer) (env : Nat → CommandEnv)
    (fd : Int) (device : Device) : Prop :=
  ∃ effects final, deliverAll env fd 1 device file.frames =
      some (effects, final) ∧
    ReturnsInOrder effects file.payloads.length ∧
    file.StoredIn final.flash

end WncFirmware
