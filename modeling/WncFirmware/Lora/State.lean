import WncFirmware.Lora.Packets
import WncFirmware.Parking.Lists

/-!
# The state of the data process thread

The lists of the parking lot, the lists of unknown and of configured nodes, the
working mode, and the two static variables `lora_tcp_buf` and `index`.
-/

namespace WncFirmware.Lora

open WncFirmware.Foundation

def maxNodeWholeParkingLot : Nat := 1024

inductive NodeDeviceType where
  | detector
  | light
  deriving DecidableEq, Repr

/-- `rssi` is never written and keeps its value from the start. -/
structure SingleNewNode where
  id : UInt32
  deviceType : NodeDeviceType
  timeLeft : UInt8
  rssi : Int16 := 0
  deriving DecidableEq, Repr

structure NewNodeList where
  node : List SingleNewNode
  length_le : node.length ≤ maxNodeWholeParkingLot

structure SingleConfigNode where
  id : UInt32
  done : Bool := false
  deriving DecidableEq, Repr

structure ConfigNodeList where
  freq : UInt32
  period : UInt16
  node : List SingleConfigNode
  length_le : node.length ≤ maxNodeWholeParkingLot

inductive WorkMode where
  | normal
  | recvTest
  | configNodeByRange
  | configNodeById
  | initNode
  deriving DecidableEq, Repr

structure LoraMode where
  fd : Int
  packSn : UInt8
  mode : WorkMode
  deriving DecidableEq, Repr

structure LoraState where
  parkingLists : ParkingLists
  newNodeList : NewNodeList
  configNodeList : ConfigNodeList
  workingMode : LoraMode
  loraTcpBuf : Bytes
  index : Nat

def LoraState.detectors (state : LoraState) : List SingleDetectorInfo :=
  state.parkingLists.detectorInfoList.detectorInfo

/-- The variables as the C startup code leaves them. -/
def LoraState.initial : LoraState where
  parkingLists := .empty
  newNodeList := ⟨[], Nat.zero_le _⟩
  configNodeList := ⟨0, 0, [], Nat.zero_le _⟩
  workingMode := ⟨0, 1, .normal⟩
  loraTcpBuf := List.replicate 1024 0
  index := 0

/--
What the thread finds around it: the id of the device, the transmit frequency,
the value that a local variable has before it is assigned, and the memory behind
the local variables that are sent.
-/
structure LoraEnv where
  wncId : UInt32
  txFreq : UInt32
  unsetCmd : UInt8
  behindLocals : Nat → UInt8

def LoraEnv.sample : LoraEnv := ⟨448, 472100000, 0, fun _ => 0⟩

inductive WorkEvent where
  | detectorRestart
  | detectorOffline
  | lightOffline
  deriving DecidableEq, Repr

inductive LoraEffect where
  | loraSend (pkt : LoraPkt)
  | tcpSend (fd : Int) (frame : Bytes)
  | addLog (text : Bytes)
  | addEvent (event : WorkEvent)
  | setLed (on : Bool) (row column : Nat)
  deriving DecidableEq, Repr

/-- `%d` prints an id as a signed number. -/
def printId (id : UInt32) : Bytes := decimal id.toInt32.toInt

end WncFirmware.Lora
