import WncFirmware.Config.Setters
import WncFirmware.Files.Upload
import WncFirmware.Tcp.Reassembly

/-!
# The commands

`analyze_command` works in place on the command buffer, which is zero behind the
received frame.  What the other threads and drivers answer is collected in
`CommandEnv`; what the command sends is its list of effects.
-/

namespace WncFirmware.Tcp

open WncFirmware.Foundation

inductive Command where
  | setDevIdAndMac
  | eraseDevIdAndMac
  | softReboot
  | adjustMachineClock
  | readMachineClock
  | setServerIp
  | configureFilesOpt
  | netParamsOpt
  | getDeviceAllInfos
  | getSlotInfos
  | localLoraParamsOpt
  | sensorOfflineTimeout
  | loraSendTest
  | userInit
  | loraRecvTest
  | loraConfigNodeByRange
  | loraInitNode
  | loraConfigNodeById
  deriving DecidableEq, Repr

namespace Command

def code : Command → UInt8
  | setDevIdAndMac => 1
  | eraseDevIdAndMac => 2
  | softReboot => 3
  | adjustMachineClock => 6
  | readMachineClock => 7
  | setServerIp => 9
  | configureFilesOpt => 15
  | netParamsOpt => 23
  | getDeviceAllInfos => 24
  | getSlotInfos => 31
  | localLoraParamsOpt => 38
  | sensorOfflineTimeout => 39
  | loraSendTest => 240
  | userInit => 241
  | loraRecvTest => 245
  | loraConfigNodeByRange => 246
  | loraInitNode => 247
  | loraConfigNodeById => 248

def all : List Command :=
  [setDevIdAndMac, eraseDevIdAndMac, softReboot, adjustMachineClock,
    readMachineClock, setServerIp, configureFilesOpt, netParamsOpt,
    getDeviceAllInfos, getSlotInfos, localLoraParamsOpt, sensorOfflineTimeout,
    loraSendTest, userInit, loraRecvTest, loraConfigNodeByRange, loraInitNode,
    loraConfigNodeById]

def ofCode? (code : UInt8) : Option Command :=
  all.find? fun command => command.code == code

end Command

inductive Message where
  | sysUserReboot
  | loraSendTest
  | ledTest
  | loraRecvTest (fd : Int)
  | loraConfigNodeByRange (fd : Int) (data : Bytes)
  | loraInitNode (fd : Int) (data : Bytes)
  | loraConfigNodeById (fd : Int) (data : Bytes)
  deriving DecidableEq, Repr

/--
Every `send` is on the descriptor that the command came from.  A download also
reports what `download_file` returned.
-/
inductive Effect where
  | send (frame : Bytes)
  | post (message : Message)
  | downloaded (ret : DownloadRet)
  deriving DecidableEq, Repr

/--
What a command finds around it: the clock and the result of setting it, whether
the embedded flash could be written, the network interface, the version text of
the build, the memory behind the command buffer, and the number of packets after
which an upload is given up as endless.
-/
structure CommandEnv where
  rtc : RtcTime
  rtcReadable : Bool
  setDatetimeOk : Bool
  saveOk : Bool
  isDhcpEnable : Bool
  ipAddr : UInt32
  netmask : UInt32
  gwAddr : UInt32
  softwareVersion : Bytes
  behindCmdBuf : Nat → UInt8
  uploadLimit : Nat

def CommandEnv.sample : CommandEnv where
  rtc := ⟨2017, 5, 3, 0, 0, 0⟩
  rtcReadable := true
  setDatetimeOk := true
  saveOk := true
  isDhcpEnable := true
  ipAddr := 0
  netmask := 0
  gwAddr := 0
  softwareVersion := []
  behindCmdBuf _ := 0
  uploadLimit := 256

structure CommandResult where
  device : Device
  effects : List Effect

/-! ## The command buffer -/

def headerId (frame : Bytes) : UInt32 :=
  bigEndian32 (byteAt frame 1) (byteAt frame 2) (byteAt frame 3)
    (byteAt frame 4)

def headerPackSn (frame : Bytes) : UInt8 := byteAt frame 9

def payloadOf (frame : Bytes) : Bytes := frame.drop headerSize

def cmdBufPayload (env : CommandEnv) (frame : Bytes) : Payload where
  bytes index :=
    if headerSize + index < maxTcpDataLength then
      byteAt frame (headerSize + index)
    else env.behindCmdBuf (headerSize + index - maxTcpDataLength)
  length := UInt16.ofNat (headerDataLen frame)

/-- The first `len` bytes of the buffer, with the checksum in the last of them. -/
def withChecksum (buffer : Bytes) (len : Nat) : Bytes :=
  let body := slice buffer 0 (len - 1)
  body ++ [xorVerify body]

def setDataLen (buffer : Bytes) (dataLen : Nat) : Bytes :=
  putBytes buffer 10 (networkOrder16 (UInt16.ofNat dataLen))

def reply (frame payload : Bytes) : Effect :=
  .send (withChecksum
    (setDataLen (putBytes frame headerSize payload) payload.length)
    (headerSize + payload.length + 1))

/-- A reply of the same length, with the result in the first payload byte. -/
def replyInPlace (frame : Bytes) (done : Bool) : Effect :=
  .send (withChecksum (putBytes frame headerSize [done.toUInt8]) frame.length)

def replyBad (device : Device) (frame : Bytes) : Effect :=
  let addressed := putBytes frame 1 (networkOrder32 device.wncDevice.id)
  let typed := putBytes addressed 5 (ascii "LN")
  .send (withChecksum (setDataLen (putBytes typed 9 [1]) 0) (headerSize + 1))

/-! ## Device parameters and clock -/

def idValid (id : UInt32) : Bool := id / 1000 % 1000 == 448

def macValid (mac : Bytes) : Bool :=
  byteAt mac 0 == 0x00 && byteAt mac 1 == 0x1e && byteAt mac 2 == 0x38

/-- The saved parameters take effect with the next boot. -/
def setDeviceIdAndMac (env : CommandEnv) (id : UInt32) (mac : Bytes) : Bool :=
  idValid id && macValid mac && env.saveOk

def defaultDeviceParams : DeviceParams :=
  ⟨448, [0x00, 0x1e, 0x38, 0x00, 0x00, 0x00]⟩

def initDeviceParam (device : Device) : Device :=
  { device with wncDevice := defaultDeviceParams }

/-- The seven bytes of a clock reading; they stay zero if the clock fails. -/
def getDatetime (env : CommandEnv) : Bytes :=
  if env.rtcReadable then
    networkOrder16 env.rtc.year ++ [env.rtc.month, env.rtc.day, env.rtc.hour,
      env.rtc.minute, env.rtc.second]
  else List.replicate 7 0

/-! ## Queries -/

def ipDigitToStr (ip : UInt32) : Bytes :=
  let text := decimal (byteOf ip.toNat 0).toNat ++ ascii "." ++
    decimal (byteOf ip.toNat 1).toNat ++ ascii "." ++
    decimal (byteOf ip.toNat 2).toNat ++ ascii "." ++
    decimal (byteOf ip.toNat 3).toNat
  UInt8.ofNat text.length :: text

def getDeviceNetParams (env : CommandEnv) : Bytes :=
  (!env.isDhcpEnable).toUInt8 :: ipDigitToStr env.ipAddr ++
    ipDigitToStr env.netmask ++ ipDigitToStr env.gwAddr

/-- Two bytes behind each server address keep what the buffer held. -/
def getDevAllInfo (env : CommandEnv) (device : Device) (payload : Bytes) :
    Bytes :=
  let known := getDeviceNetParams env ++
    networkOrder32 device.fileInfoList.sensorList.sn ++ [0, 0, 0] ++
    networkOrder32 device.wncConfig.loraConfig.rfFreq ++
    [device.wncConfig.loraConfig.rfPower] ++ slice env.softwareVersion 0 10 ++
    littleEndian32 device.wncConfig.netConfig.pcIp
  let server := known ++ slice payload known.length 2 ++
    littleEndian32 device.wncConfig.netConfig.hvcsIp
  server ++ slice payload server.length 2

def getLoraParams (device : Device) : Bytes :=
  networkOrder32 device.wncConfig.loraConfig.rfFreq ++
    [device.wncConfig.loraConfig.rfPower]

def getOfflineTimeout (device : Device) : Bytes :=
  networkOrder16 device.wncConfig.loraConfig.timeOffline

def detectorRecord (detector : SingleDetectorInfo) : Bytes :=
  networkOrder32 detector.id ++ networkOrder16 detector.cAvgRssi.toUInt16 ++
    [detector.cAvgSnr.toUInt8, detector.currentDr, detector.lowestPower,
      if detector.state = nodeStateOffline then detector.state
      else detector.value]

def getSelfDetectorInfo (device : Device) : Bytes :=
  let detectors := device.parkingLists.detectorInfoList.detectorInfo
  UInt8.ofNat detectors.length :: detectors.flatMap detectorRecord

/-! ## Files -/

structure UploadRun where
  ret : Int
  device : Device
  frames : List Bytes

/-- The loop of uploads; it has no result when the limit is reached. -/
def uploadLoop : Nat → Device → UInt8 → Bytes → Option UploadRun
  | 0, _, _, _ => none
  | limit + 1, device, packSn, buffer => do
      let pass ← uploadFile device packSn (buffer.drop headerSize)
        (maxTcpDataLength - headerSize - 1)
      let filled := putBytes buffer headerSize pass.buffer
      if 0 < pass.ret then
        let dataLen := pass.ret.toNat
        let frame := withChecksum (setDataLen filled dataLen)
          (headerSize + dataLen + 1)
        let later ← uploadLoop limit pass.device (packSn + 1)
          (putBytes (putBytes filled 0 frame) 9 [packSn + 1])
        return { later with frames := frame :: later.frames }
      else return ⟨pass.ret, pass.device, []⟩

def isUpload (frame : Bytes) : Bool :=
  headerPackSn frame == 1 && byteAt frame headerSize == 0

def uploadCommand (env : CommandEnv) (device : Device) (frame : Bytes) :
    Option CommandResult := do
  let uploaded ← uploadLoop env.uploadLimit device (headerPackSn frame) frame
  return ⟨fileOperateReset uploaded.device,
    uploaded.frames.map .send ++
      if uploaded.ret = -1 then [reply frame [0]] else []⟩

def downloadCommand (env : CommandEnv) (device : Device) (frame : Bytes) :
    CommandResult :=
  let result := downloadFile device env.rtc (headerPackSn frame)
    (cmdBufPayload env frame)
  ⟨result.2, .downloaded result.1 ::
    if result.1 = .downloading then []
    else [reply (putBytes frame 9 [1]) [result.1.toByte]]⟩

def configureFilesOpt (env : CommandEnv) (device : Device) (frame : Bytes) :
    Option CommandResult :=
  if isUpload frame then uploadCommand env device frame
  else some (downloadCommand env device frame)

/-! ## All commands -/

def setterCommand (setter : Setter) (device : Device) (frame : Bytes)
    (answer : Bool → Effect) : Option CommandResult := do
  let result ← setter.run device (payloadOf frame)
    (UInt16.ofNat (headerDataLen frame))
  return ⟨result.2, [answer result.1]⟩

/-- `MAX_IPC_DATA_SIZE` less the descriptor in front. -/
def maxNodeData : Nat := 252

/-- A node command of more data than a message holds has no result. -/
def nodeCommand (device : Device) (frame : Bytes)
    (message : Bytes → Message) : Option CommandResult :=
  if headerDataLen frame ≤ maxNodeData then
    some ⟨device,
      [.post (message (slice (payloadOf frame) 0 (headerDataLen frame)))]⟩
  else none

def handleCommand (env : CommandEnv) (fd : Int) (device : Device)
    (frame : Bytes) : Command → Option CommandResult
  | .setDevIdAndMac =>
      let done := setDeviceIdAndMac env (headerId frame) (payloadOf frame)
      some ⟨device, [reply frame [done.toUInt8]]⟩
  | .eraseDevIdAndMac =>
      some ⟨initDeviceParam device, [reply frame [env.saveOk.toUInt8]]⟩
  | .softReboot => some ⟨device, [.post .sysUserReboot, reply frame [1]]⟩
  | .adjustMachineClock =>
      some ⟨device, [replyInPlace frame env.setDatetimeOk]⟩
  | .readMachineClock => some ⟨device, [reply frame (getDatetime env)]⟩
  | .setServerIp => setterCommand .serverIp device frame (replyInPlace frame)
  | .configureFilesOpt => configureFilesOpt env device frame
  | .netParamsOpt =>
      if byteAt frame headerSize = 1 then
        setterCommand .netParams device frame (replyInPlace frame)
      else some ⟨device, [reply frame (1 :: getDeviceNetParams env)]⟩
  | .getDeviceAllInfos =>
      some ⟨device, [reply frame (getDevAllInfo env device (payloadOf frame))]⟩
  | .getSlotInfos => some ⟨device, [reply frame (getSelfDetectorInfo device)]⟩
  | .localLoraParamsOpt =>
      if byteAt frame headerSize = 1 then
        setterCommand .loraParams device frame (replyInPlace frame)
      else some ⟨device, [reply frame (getLoraParams device)]⟩
  | .sensorOfflineTimeout =>
      if byteAt frame headerSize = 1 then
        setterCommand .offlineTimeout device frame fun done =>
          reply frame [done.toUInt8]
      else some ⟨device, [reply frame (getOfflineTimeout device)]⟩
  | .loraSendTest =>
      some ⟨device, [.post .loraSendTest, .post .ledTest, reply frame [1]]⟩
  | .userInit => some ⟨WncFirmware.userInit device, [reply frame [1]]⟩
  | .loraRecvTest =>
      some ⟨device, [.post (.loraRecvTest fd), .post .ledTest]⟩
  | .loraConfigNodeByRange =>
      nodeCommand device frame (.loraConfigNodeByRange fd)
  | .loraInitNode => nodeCommand device frame (.loraInitNode fd)
  | .loraConfigNodeById => nodeCommand device frame (.loraConfigNodeById fd)

def checksumCorrect (frame : Bytes) : Bool :=
  xorVerify (slice frame 0 (frame.length - 1)) ==
    byteAt frame (frame.length - 1)

theorem checksumCorrect_append_iff (body : Bytes) (last : UInt8) :
    checksumCorrect (body ++ [last]) = true ↔ xorVerify body = last := by
  have hlength : (body ++ [last]).length - 1 = body.length := by
    simp
  have hbody : slice (body ++ [last]) 0 body.length = body :=
    slice_append [] body [last]
  have hlast : byteAt (body ++ [last]) body.length = last :=
    byteAt_append_right body [last] 0
  rw [checksumCorrect, hlength, hbody, hlast, beq_iff_eq]

theorem checksumCorrect_append (body : Bytes) :
    checksumCorrect (body ++ [xorVerify body]) = true :=
  (checksumCorrect_append_iff body _).mpr rfl

def addressed (device : Device) (frame : Bytes) : Bool :=
  headerId frame == device.wncDevice.id || headerId frame == 0 ||
    byteAt frame 0 == Command.setDevIdAndMac.code

def commandAccepted (device : Device) (frame : Bytes) : Bool :=
  checksumCorrect frame && addressed device frame

/-- The error code writes through `header`; without a value it has no result. -/
def tcpBadCmd (device : Device) (header : Option Bytes) :
    Option CommandResult :=
  header.map fun frame => ⟨device, [replyBad device frame]⟩

/-- `header` gets its value between the two checks. -/
def analyzeCommand (env : CommandEnv) (fd : Int) (device : Device)
    (frame : Bytes) : Option CommandResult :=
  if commandAccepted device frame then
    match Command.ofCode? (byteAt frame 0) with
    | some command => handleCommand env fd device frame command
    | none => tcpBadCmd device (some frame)
  else tcpBadCmd device (if checksumCorrect frame then some frame else none)

/-! ## What a command does to the device -/

theorem setterCommand_cases {setter : Setter} {device : Device}
    {frame : Bytes} {answer : Bool → Effect} {result : CommandResult}
    (h : setterCommand setter device frame answer = some result) :
    ∃ done, setter.run device (payloadOf frame)
      (UInt16.ofNat (headerDataLen frame)) = some (done, result.device) := by
  obtain ⟨⟨done, next⟩, hrun, hresult⟩ := Option.bind_eq_some_iff.mp h
  cases hresult
  exact ⟨done, hrun⟩

theorem nodeCommand_device {device : Device} {frame : Bytes}
    {message : Bytes → Message} {result : CommandResult}
    (h : nodeCommand device frame message = some result) :
    result.device = device := by
  unfold nodeCommand at h
  split at h
  · cases h
    rfl
  · cases h

/-- The five ways in which a command can act on the device. -/
inductive Acts (env : CommandEnv) (device : Device) (frame : Bytes) :
    Device → Prop
  | none : Acts env device frame device
  | params : Acts env device frame (initDeviceParam device)
  | setter (setter : Setter) (done : Bool) (next : Device)
      (hrun : setter.run device (payloadOf frame)
        (UInt16.ofNat (headerDataLen frame)) = some (done, next)) :
      Acts env device frame next
  | files (result : CommandResult)
      (hopt : WncFirmware.Tcp.configureFilesOpt env device frame = some result) :
      Acts env device frame result.device
  | userInit (hcommand : Command.ofCode? (byteAt frame 0) = some .userInit) :
      Acts env device frame (WncFirmware.userInit device)

theorem handleCommand_acts {env : CommandEnv} {fd : Int} {device : Device}
    {frame : Bytes} {command : Command} {result : CommandResult}
    (hcommand : Command.ofCode? (byteAt frame 0) = some command)
    (h : handleCommand env fd device frame command = some result) :
    Acts env device frame result.device := by
  have hsetter : ∀ {setter answer},
      setterCommand setter device frame answer = some result →
        Acts env device frame result.device := by
    intro setter answer hset
    obtain ⟨done, hrun⟩ := setterCommand_cases hset
    exact .setter setter done _ hrun
  have hnode : ∀ {message}, nodeCommand device frame message = some result →
      Acts env device frame result.device := by
    intro message hset
    rw [nodeCommand_device hset]
    exact .none
  have hsame : ∀ {effects}, some ⟨device, effects⟩ = some result →
      Acts env device frame result.device := by
    intro effects hset
    cases hset
    exact .none
  cases command with
  | setDevIdAndMac => exact hsame h
  | eraseDevIdAndMac =>
      cases h
      exact .params
  | softReboot => exact hsame h
  | adjustMachineClock => exact hsame h
  | readMachineClock => exact hsame h
  | setServerIp => exact hsetter h
  | configureFilesOpt => exact .files result h
  | netParamsOpt =>
      simp only [handleCommand] at h
      split at h
      · exact hsetter h
      · exact hsame h
  | getDeviceAllInfos => exact hsame h
  | getSlotInfos => exact hsame h
  | localLoraParamsOpt =>
      simp only [handleCommand] at h
      split at h
      · exact hsetter h
      · exact hsame h
  | sensorOfflineTimeout =>
      simp only [handleCommand] at h
      split at h
      · exact hsetter h
      · exact hsame h
  | loraSendTest => exact hsame h
  | userInit =>
      cases h
      exact .userInit hcommand
  | loraRecvTest => exact hsame h
  | loraConfigNodeByRange => exact hnode h
  | loraInitNode => exact hnode h
  | loraConfigNodeById => exact hnode h

theorem tcpBadCmd_device {device : Device} {header : Option Bytes}
    {result : CommandResult} (h : tcpBadCmd device header = some result) :
    result.device = device := by
  obtain ⟨frame, -, rfl⟩ := Option.map_eq_some_iff.mp h
  rfl

theorem analyzeCommand_acts {env : CommandEnv} {fd : Int} {device : Device}
    {frame : Bytes} {result : CommandResult}
    (h : analyzeCommand env fd device frame = some result) :
    Acts env device frame result.device := by
  unfold analyzeCommand at h
  split at h
  · split at h
    · rename_i command hcommand
      exact handleCommand_acts hcommand h
    · rw [tcpBadCmd_device h]
      exact .none
  · rw [tcpBadCmd_device h]
    exact .none

theorem uploadLoop_sameStores {limit : Nat} {device : Device}
    {packSn : UInt8} {buffer : Bytes} {result : UploadRun}
    (h : uploadLoop limit device packSn buffer = some result) :
    SameStores result.device device := by
  induction limit generalizing device packSn buffer result with
  | zero => cases h
  | succ limit ih =>
      obtain ⟨pass, hpass, hrest⟩ := Option.bind_eq_some_iff.mp h
      have hstores := sameStores_uploadFile hpass
      dsimp only at hrest
      split at hrest
      · obtain ⟨later, hlater, hresult⟩ := Option.bind_eq_some_iff.mp hrest
        cases hresult
        exact (ih hlater).trans hstores
      · cases hrest
        exact hstores

theorem uploadCommand_cases {env : CommandEnv} {device : Device}
    {frame : Bytes} {result : CommandResult}
    (h : uploadCommand env device frame = some result) :
    SameStores result.device device ∧
      result.device.fileOperateState = .reset := by
  obtain ⟨uploaded, hloop, hresult⟩ := Option.bind_eq_some_iff.mp h
  cases hresult
  exact ⟨uploadLoop_sameStores hloop, rfl⟩

end WncFirmware.Tcp
