import WncFirmware.Lora.DataProcess

/-!
# The UDP report

`fill_udp_buffer` writes a header of 80 bytes and then, with three loops that
share the counter in the header, a record of ten bytes for each node that is
due.  `data` is the buffer and `buf` the position of the pointer in it.
-/

namespace WncFirmware.Udp

open WncFirmware.Foundation WncFirmware.Lora WncFirmware.Tcp

def maxNodeNumInUdp : Nat := 80
def nodeStateNewDevice : UInt8 := 252

def deviceTypeCode : NodeDeviceType → UInt8
  | .detector => 0
  | .light => 1

/--
Beside the clock and the versions: the byte behind the text `LN`, of which four
bytes are copied, and what the local `tmp_str` held before.
-/
structure UdpEnv extends CommandEnv where
  hardwareVersion : Bytes
  behindType : UInt8
  tmpStr : Bytes

def UdpEnv.sample : UdpEnv := ⟨.sample, [], 0, []⟩

structure UdpBuffer where
  data : Bytes
  buf : Nat

/-- The pointer moves over `skip` more bytes than are written. -/
def UdpBuffer.put (buffer : UdpBuffer) (bytes : Bytes) (skip : Nat) :
    UdpBuffer where
  data := putBytes buffer.data buffer.buf bytes
  buf := buffer.buf + bytes.length + skip

/-! ## The header -/

def nodeNumOffset : Nat := 78

/-- `rt_sprintf` into `tmp_str`, of which ten bytes are copied. -/
def idString (env : UdpEnv) (id : UInt32) : Bytes :=
  slice (putBytes env.tmpStr 0 (printId id ++ [0])) 0 10

def fillDatetime (env : UdpEnv) (buffer : UdpBuffer) : UdpBuffer :=
  if env.rtcReadable then buffer.put (getDatetime env.toCommandEnv) 0
  else buffer.put [] 7

def fillHeader (env : UdpEnv) (device : Device) (data : Bytes) : UdpBuffer :=
  let start : UdpBuffer := ⟨data, 0⟩
  let named := ((start.put (networkOrder32 device.wncDevice.id) 0).put
    (ascii "LN" ++ [0, env.behindType]) 0).put
      (idString env device.wncDevice.id) 10
  let versions := ((named.put (slice device.wncDevice.ethMac 0 6) 0).put
    (slice env.softwareVersion 0 10) 0).put (slice env.hardwareVersion 0 10) 0
  let servers := ((fillDatetime env versions).put
    (littleEndian32 device.wncConfig.netConfig.pcIp) 2).put
      (littleEndian32 device.wncConfig.netConfig.hvcsIp) 2
  let files := (servers.put
    (networkOrder32 device.fileInfoList.sensorList.sn) 0).put [0] 0
  (files.put [] 1).put [10] 0

/-! ## The loops -/

structure NodeLoop (Node : Type) where
  due : Node → Bool
  record : Node → Bytes
  skip : Nat
  reported : Node → Node

def UdpBuffer.loraNodeNum (buffer : UdpBuffer) : UInt8 :=
  byteAt buffer.data nodeNumOffset

def UdpBuffer.countNode (buffer : UdpBuffer) : UdpBuffer :=
  { buffer with
    data := putBytes buffer.data nodeNumOffset [buffer.loraNodeNum + 1] }

def fillNodes {Node : Type} (loop : NodeLoop Node) :
    List Node → UdpBuffer → List Node × UdpBuffer
  | [], buffer => ([], buffer)
  | node :: nodes, buffer =>
      if maxNodeNumInUdp ≤ buffer.loraNodeNum.toNat then (node :: nodes, buffer)
      else if loop.due node then
        let later := fillNodes loop nodes
          (buffer.countNode.put (loop.record node) loop.skip)
        (loop.reported node :: later.1, later.2)
      else
        let later := fillNodes loop nodes buffer
        (node :: later.1, later.2)

def detectorLoop (sendAll : Bool) : NodeLoop SingleDetectorInfo where
  due info := sendAll || info.isParkStateChanged
  record info := deviceTypeCode .detector :: networkOrder32 info.id ++
    [info.state, info.rssi.toUInt8, info.snr.toUInt8, info.currentDr,
      info.battery]
  skip := 0
  reported info := { info with isParkStateChanged := false }

def lightLoop : NodeLoop SingleLightInfo where
  due _ := true
  record light := deviceTypeCode .light :: networkOrder32 light.id ++
    [if light.state = nodeStateOffline then nodeStateOffline
      else light.currentColor, light.rssi.toUInt8, light.currentColor]
  skip := 2
  reported light := light

def newNodeLoop : NodeLoop SingleNewNode where
  due node := node.timeLeft != 0
  record node := deviceTypeCode node.deviceType :: networkOrder32 node.id ++
    [nodeStateNewDevice, node.rssi.toUInt16.toUInt8]
  skip := 3
  reported node := { node with timeLeft := node.timeLeft - 1 }

theorem length_fillNodes {Node : Type} (loop : NodeLoop Node)
    (nodes : List Node) (buffer : UdpBuffer) :
    (fillNodes loop nodes buffer).1.length = nodes.length := by
  induction nodes generalizing buffer with
  | nil => rfl
  | cons node nodes ih =>
      rw [fillNodes]
      split
      · rfl
      · split <;> simp [ih]

def lightRecords (state : LoraState) : List SingleLightInfo :=
  (List.range state.parkingLists.lightInfoList.num).map
    state.parkingLists.lightInfoList.lightInfo

structure UdpFill where
  state : LoraState
  sendAll : Bool
  data : Bytes
  len : Nat

def fillUdpBuffer (env : UdpEnv) (device : Device) (state : LoraState)
    (sendAll : Bool) (dataBuf : Bytes) : UdpFill :=
  let lists := state.parkingLists
  let detectors := fillNodes (detectorLoop sendAll)
    lists.detectorInfoList.detectorInfo (fillHeader env device dataBuf)
  let lights := fillNodes lightLoop (lightRecords state) detectors.2
  let newNodes := fillNodes newNodeLoop state.newNodeList.node lights.2
  let buffer := newNodes.2
  { state := { state with
      parkingLists := { lists with
        detectorInfoList :=
          { detectorInfo := detectors.1
            length_le := by
              rw [length_fillNodes]
              exact lists.detectorInfoList.length_le } }
      newNodeList :=
        { node := newNodes.1
          length_le := by
            rw [length_fillNodes]
            exact state.newNodeList.length_le } }
    sendAll := false
    data := putBytes buffer.data buffer.buf
      [xorVerify (buffer.data.take buffer.buf)]
    len := buffer.buf + 1 }

/-- One pass of `thread_udp_client` clears the buffer first. -/
def sendBufSize : Nat := 1024

def udpReport (env : UdpEnv) (device : Device) (state : LoraState)
    (sendAll : Bool) : UdpFill :=
  fillUdpBuffer env device state sendAll (List.replicate sendBufSize 0)

end WncFirmware.Udp
