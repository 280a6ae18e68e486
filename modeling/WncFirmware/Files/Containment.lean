import WncFirmware.Files.Packets
import WncFirmware.Foundation.Runs
import WncFirmware.Tcp.Commands

/-!
# Where downloads write

Runs of `CMD_CONFIGURE_FILES_OPT` frames.  `download_file` compares the length of
a payload neither with the rest of the file nor, in the first packet, with the
length of the name.
-/

namespace WncFirmware

open WncFirmware.Foundation WncFirmware.Tcp

structure PayloadWrite where
  accepted : Option FileType
  address : Nat
  size : Nat
  deriving DecidableEq, Repr

/--
The device, the type that the most recent successful first packet announced, and
all writes so far.
-/
structure TransferRun where
  device : Device
  accepted : Option FileType
  writes : List PayloadWrite

structure TransferFrame where
  env : CommandEnv
  frame : Bytes

def TransferFrame.received (event : TransferFrame) (device : Device) :
    Option Payload × Device :=
  receivePacket device (headerPackSn event.frame)
    (cmdBufPayload event.env event.frame)

/-- A first packet holds the name and the size, and no more data than declared. -/
def Payload.HeaderFits (payload : Payload) : Prop :=
  payload.fileNameLen + 6 ≤ payload.length.toNat ∧
    payload.length.toNat - (payload.fileNameLen + 6) ≤ payload.fileSize.toNat

def TransferRun.start (device : Device) : TransferRun := ⟨device, none, []⟩

/-- `CMD_CONFIGURE_FILES_OPT` with the given packet number and payload. -/
def fileFrame (packSn : UInt8) (payload : Bytes) : TransferFrame where
  env := .sample
  frame :=
    let body := [15, 0, 0, 0, 0, 76, 78, 0, 0, packSn, 0,
      UInt8.ofNat payload.length] ++ payload
    body ++ [xorVerify body]

/-- One byte for `LN_sensor_1`. -/
def sensorFrame : TransferFrame :=
  fileFrame 1 ([1, 11] ++ ascii "LN_sensor_1" ++ [0, 0, 0, 1, 65])

theorem sensorFrame_opens :
    (cmdBufPayload sensorFrame.env sensorFrame.frame).Opens .sensorList 1
      sensorListFileAddr maxConfigFileSize :=
  ⟨by decide, by decide, by decide, by decide⟩

theorem sensorFrame_headerFits :
    (cmdBufPayload sensorFrame.env sensorFrame.frame).HeaderFits :=
  ⟨by decide, by decide⟩

end WncFirmware
