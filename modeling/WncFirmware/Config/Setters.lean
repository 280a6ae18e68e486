import WncFirmware.Config.Store
import WncFirmware.Foundation.Scanf

/-!
# The commands that change the configuration

The four setters of `thread_tcp_server.c`.  Each of them reads a request from
the payload, edits `g_wnc_config_bak` and calls `set_wnc_config`.  A payload that
makes the code write or read past one of its buffers of 16 bytes has no result.
-/

namespace WncFirmware

open WncFirmware.Foundation

/-! ## Addresses as text -/

def stringBufferSize : Nat := 16

def fieldLen (payload : Bytes) (index : Nat) : Nat :=
  (byteAt payload index).toNat

def nextField (payload : Bytes) (index : Nat) : Nat :=
  index + 1 + fieldLen payload index

/-- `rt_memcpy` of a text into a cleared buffer of 16 bytes. -/
def copyField (payload : Bytes) (index : Nat) : Option Bytes :=
  if fieldLen payload index ≤ stringBufferSize then
    some (slice payload (index + 1) (fieldLen payload index) ++
      List.replicate (stringBufferSize - fieldLen payload index) 0)
  else none

def ipFormat : List Directive :=
  [.int, .literal 46, .int, .literal 46, .int, .literal 46, .int]

def inByteRange (number : Int32) : Bool := 0 ≤ number && number ≤ 255

def ipValue (text : Bytes) : Option UInt32 :=
  match sscanf text ipFormat with
  | [first, second, third, fourth] =>
      if inByteRange first && inByteRange second && inByteRange third &&
          inByteRange fourth then
        some ((fourth.toUInt32 <<< 24) ||| (third.toUInt32 <<< 16) |||
          (second.toUInt32 <<< 8) ||| first.toUInt32)
      else none
  | _ => none

/-- `sscanf` needs a zero byte in the buffer. -/
def ipStrToDigit (ipStr : Bytes) : Option (Option UInt32) :=
  if 0 ∈ ipStr then some (ipValue (cString ipStr)) else none

/-- Go on with a value that was read; a refusal ends the setter. -/
def withValue {Value Request : Type} (parsed : Option (Option Value))
    (rest : Value → Option (Option Request)) : Option (Option Request) :=
  match parsed with
  | none => none
  | some none => some none
  | some (some value) => rest value

/-- The bytes of a number in the opposite order, as `ntohl` has it. -/
def swapBytes (number : UInt32) : UInt32 :=
  bigEndian32 (byteOf number.toNat 0) (byteOf number.toNat 1)
    (byteOf number.toNat 2) (byteOf number.toNat 3)

/-- All ones behind the first one bit, counted from the least significant bit. -/
def netmaskValid (netmask : UInt32) : Bool :=
  ((swapBytes netmask - 1) ||| swapBytes netmask) == 0xffffffff

def netmaskStrToDigit (netmaskStr : Bytes) : Option (Option UInt32) :=
  withValue (ipStrToDigit netmaskStr) fun netmask =>
    some (if netmaskValid netmask then some netmask else none)

/-! ## Requests -/

def remoteUdpServerPort : UInt32 := 5210

structure ServerIpRequest where
  pcIp : UInt32
  hvcsIp : UInt32

def readServerIp (payload : Bytes) (dataLen : UInt16) :
    Option (Option ServerIpRequest) := do
  let port := bigEndian32 (byteAt payload 0) (byteAt payload 1)
    (byteAt payload 2) (byteAt payload 3)
  if port ≠ remoteUdpServerPort then return none
  let hvcsIndex := nextField payload 4
  let pcIp ← copyField payload 4
  let hvcsIp ← copyField payload hvcsIndex
  if dataLen.toNat ≠ fieldLen payload 4 + fieldLen payload hvcsIndex + 6 then
    return none
  withValue (ipStrToDigit pcIp) fun tmpPcIp =>
    withValue (ipStrToDigit hvcsIp) fun tmpHvcsIp =>
      some (some ⟨tmpPcIp, tmpHvcsIp⟩)

inductive NetParamsRequest where
  | dhcp
  | dedicated (ip gateway netmask : UInt32)
  deriving DecidableEq, Repr

def netmaskIndex (payload : Bytes) : Nat := nextField payload 2

def gatewayIndex (payload : Bytes) : Nat :=
  nextField payload (netmaskIndex payload)

def readNetParams (payload : Bytes) (dataLen : UInt16) :
    Option (Option NetParamsRequest) := do
  if byteAt payload 1 = 0 then return some .dhcp
  let ip ← copyField payload 2
  let netmask ← copyField payload (netmaskIndex payload)
  let gateway ← copyField payload (gatewayIndex payload)
  if dataLen.toNat ≠ fieldLen payload 2 +
      fieldLen payload (netmaskIndex payload) +
      fieldLen payload (gatewayIndex payload) + 5 then
    return none
  withValue (ipStrToDigit ip) fun tmpIp =>
    withValue (ipStrToDigit gateway) fun tmpGateway =>
      withValue (netmaskStrToDigit netmask) fun tmpNetmask =>
        some (some (.dedicated tmpIp tmpGateway tmpNetmask))

structure LoraRequest where
  rfFreq : UInt32
  rfPower : UInt8

def readLoraParams (payload : Bytes) (dataLen : UInt16) : Option LoraRequest :=
  let tmpFreq := bigEndian32 (byteAt payload 1) (byteAt payload 2)
    (byteAt payload 3) (byteAt payload 4)
  let tmpPower := byteAt payload 5
  if dataLen ≠ 6 then none
  else if tmpFreq < 470300000 ∨ 489300000 < tmpFreq then none
  else if tmpPower < 5 ∨ 17 < tmpPower then none
  else some ⟨tmpFreq, tmpPower⟩

def readOfflineTimeout (payload : Bytes) (dataLen : UInt16) : Option UInt16 :=
  let tmpTime := UInt16.ofNat
    (bigEndian16 (byteAt payload 1) (byteAt payload 2))
  if dataLen ≠ 3 then none
  else if 245 < tmpTime then none
  else some tmpTime

/-! ## The setters -/

/-- An edit of the shadow copy, followed by `set_wnc_config`. -/
def Device.commit (device : Device) (change : WncCfg → WncCfg) : Device :=
  setWncConfig { device with wncConfigBak := change device.wncConfigBak }

def carryOut {Request : Type} (device : Device)
    (change : Request → WncCfg → WncCfg) : Option Request → Bool × Device
  | none => (false, device)
  | some request => (true, device.commit (change request))

def ServerIpRequest.change (request : ServerIpRequest) (config : WncCfg) :
    WncCfg :=
  { config with
    netConfig := { config.netConfig with
      pcIp := request.pcIp
      hvcsIp := request.hvcsIp } }

def NetParamsRequest.change (request : NetParamsRequest) (config : WncCfg) :
    WncCfg :=
  match request with
  | dhcp =>
      { config with
        netConfig := { config.netConfig with netMode := dhcpMode } }
  | dedicated ip gateway netmask =>
      { config with
        netConfig := { config.netConfig with
          netMode := dedicatedMode
          ip := ip
          gateway := gateway
          netmask := netmask } }

def LoraRequest.change (request : LoraRequest) (config : WncCfg) : WncCfg :=
  { config with
    loraConfig := { config.loraConfig with
      rfFreq := request.rfFreq
      rfPower := request.rfPower } }

def changeOfflineTimeout (time : UInt16) (config : WncCfg) : WncCfg :=
  { config with
    loraConfig := { config.loraConfig with timeOffline := time } }

def setRemoteServerIp (device : Device) (payload : Bytes) (dataLen : UInt16) :
    Option (Bool × Device) :=
  (readServerIp payload dataLen).map (carryOut device ServerIpRequest.change)

def setDeviceNetParams (device : Device) (payload : Bytes)
    (dataLen : UInt16) : Option (Bool × Device) :=
  (readNetParams payload dataLen).map (carryOut device NetParamsRequest.change)

def setLoraParams (device : Device) (payload : Bytes) (dataLen : UInt16) :
    Option (Bool × Device) :=
  some (carryOut device LoraRequest.change (readLoraParams payload dataLen))

def setOfflineTimeout (device : Device) (payload : Bytes) (dataLen : UInt16) :
    Option (Bool × Device) :=
  some (carryOut device changeOfflineTimeout
    (readOfflineTimeout payload dataLen))

inductive Setter where
  | netParams
  | serverIp
  | loraParams
  | offlineTimeout
  deriving DecidableEq, Repr

def Setter.run : Setter → Device → Bytes → UInt16 → Option (Bool × Device)
  | netParams => setDeviceNetParams
  | serverIp => setRemoteServerIp
  | loraParams => setLoraParams
  | offlineTimeout => setOfflineTimeout

/-! ## What a setter does -/

def Setter.change? (setter : Setter) (payload : Bytes) (dataLen : UInt16) :
    Option (WncCfg → WncCfg) :=
  match setter with
  | netParams =>
      (readNetParams payload dataLen).join.map NetParamsRequest.change
  | serverIp => (readServerIp payload dataLen).join.map ServerIpRequest.change
  | loraParams => (readLoraParams payload dataLen).map LoraRequest.change
  | offlineTimeout =>
      (readOfflineTimeout payload dataLen).map changeOfflineTimeout

theorem carryOut_cases {Request : Type} {device next : Device} {done : Bool}
    {change : Request → WncCfg → WncCfg} {request : Option Request}
    (h : carryOut device change request = (done, next)) :
    (done = false ∧ next = device ∧ request = none) ∨
      ∃ accepted, done = true ∧ request = some accepted ∧
        next = device.commit (change accepted) := by
  cases request with
  | none =>
      cases h
      exact .inl ⟨rfl, rfl, rfl⟩
  | some accepted =>
      cases h
      exact .inr ⟨accepted, rfl, rfl, rfl⟩

theorem carryOut_change {Request : Type} {device next : Device} {done : Bool}
    {change : Request → WncCfg → WncCfg} {request : Option Request}
    (h : carryOut device change request = (done, next)) :
    (done = false ∧ next = device) ∨
      ∃ edit, done = true ∧ request.map change = some edit ∧
        next = device.commit edit := by
  rcases carryOut_cases h with
    ⟨hdone, hnext, -⟩ | ⟨accepted, hdone, hrequest, hnext⟩
  · exact .inl ⟨hdone, hnext⟩
  · exact .inr ⟨change accepted, hdone, by rw [hrequest]; rfl, hnext⟩

theorem Setter.run_cases {setter : Setter} {device next : Device}
    {payload : Bytes} {dataLen : UInt16} {done : Bool}
    (h : setter.run device payload dataLen = some (done, next)) :
    (done = false ∧ next = device) ∨
      ∃ change, done = true ∧ setter.change? payload dataLen = some change ∧
        next = device.commit change := by
  cases setter with
  | netParams =>
      obtain ⟨request, hread, hcarry⟩ := Option.map_eq_some_iff.mp h
      simp only [Setter.change?, hread, Option.join_some]
      exact carryOut_change hcarry
  | serverIp =>
      obtain ⟨request, hread, hcarry⟩ := Option.map_eq_some_iff.mp h
      simp only [Setter.change?, hread, Option.join_some]
      exact carryOut_change hcarry
  | loraParams => exact carryOut_change (Option.some.inj h)
  | offlineTimeout => exact carryOut_change (Option.some.inj h)

end WncFirmware
