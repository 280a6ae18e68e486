import WncFirmware.Files.Upload

/-!
# LoRa packets

A packet carries twelve bytes: the id of the node, the command, five bytes of
data and the CRC of the first ten.
-/

namespace WncFirmware.Lora

open WncFirmware.Foundation

/-- `CONTROL_LIGHT` and `LIGHT_RESPONSE` have the same code. -/
inductive LoraCmd where
  | setPeriod
  | setFreq
  | lightResponse
  | initParams
  | recvTest
  | nodeEnterCfg
  | nodeOnline
  | lightHeartBeat
  | detectorHeartBeat
  deriving DecidableEq, Repr

namespace LoraCmd

def code : LoraCmd → UInt8
  | setPeriod => 0x04
  | setFreq => 0x06
  | lightResponse => 0x18
  | initParams => 0x1f
  | recvTest => 0x52
  | nodeEnterCfg => 0x81
  | nodeOnline => 0xf8
  | lightHeartBeat => 0xfc
  | detectorHeartBeat => 0xfe

def all : List LoraCmd :=
  [setPeriod, setFreq, lightResponse, initParams, recvTest, nodeEnterCfg,
    nodeOnline, lightHeartBeat, detectorHeartBeat]

def ofCode? (code : UInt8) : Option LoraCmd :=
  all.find? fun cmd => cmd.code == code

end LoraCmd

/-- `struct rt_lora_pkt`; the bytes behind the payload are not used. -/
structure LoraPkt where
  freqHz : UInt32
  rssi : Int16
  snr : Int8
  datarate : UInt8
  len : UInt8
  payload : Bytes
  deriving DecidableEq, Repr

def LoraPkt.nodeId (pkt : LoraPkt) : UInt32 :=
  bigEndian32 (byteAt pkt.payload 0) (byteAt pkt.payload 1)
    (byteAt pkt.payload 2) (byteAt pkt.payload 3)

def LoraPkt.cmd? (pkt : LoraPkt) : Option LoraCmd :=
  LoraCmd.ofCode? (byteAt pkt.payload 4)

/-! ## The CRC -/

def crcBit (crc : UInt16) : UInt16 :=
  if crc &&& 1 ≠ 0 then (crc >>> 1) ^^^ 0xa001 else crc >>> 1

def crcByte (crc : UInt16) (byte : UInt8) : UInt16 :=
  Nat.repeat crcBit 8 (crc ^^^ byte.toUInt16)

def crcCalculate (data : Bytes) (len : Nat) : UInt16 :=
  (slice data 0 len).foldl crcByte 0xffff

def LoraPkt.crcCorrect (pkt : LoraPkt) : Bool :=
  (crcCalculate pkt.payload 10).toNat ==
    bigEndian16 (byteAt pkt.payload 10) (byteAt pkt.payload 11)

def withCrc (payload : Bytes) : Bytes :=
  putBytes payload 10 (networkOrder16 (crcCalculate payload 10))

def nodePkt (id : UInt32) (cmd : LoraCmd) (data : Bytes) : LoraPkt where
  freqHz := 0
  rssi := 0
  snr := 0
  datarate := 7
  len := 12
  payload := withCrc (networkOrder32 id ++ cmd.code :: data)

end WncFirmware.Lora
