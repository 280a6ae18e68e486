import WncFirmware.Lora.Detectors
import WncFirmware.Lora.Lights
import WncFirmware.Lora.TcpFrames

/-!
# The data process thread

`thread_data_process` takes one message after the other from its queue.  The
delays before a node is answered are left out.
-/

namespace WncFirmware.Lora

open WncFirmware.Foundation WncFirmware.Tcp

inductive LoraMsg where
  | loraRecvData (pkt : LoraPkt)
  | analizeLightState
  | checkDeviceConnect
  | loraRecvTest (fd : Int)
  | loraConfigNodeByRange (fd : Int) (data : Nat → UInt8)
  | loraConfigNodeById (fd : Int) (data : Nat → UInt8)
  | loraInitNode (fd : Int) (data : Nat → UInt8)

abbrev LoraResult := LoraState × List LoraEffect

/-! ## Answers on the TCP connection -/

/-- `bytes` in a local variable, with the memory behind it. -/
def localData (env : LoraEnv) (bytes : Bytes) (offset : Nat) : UInt8 :=
  if offset < bytes.length then byteAt bytes offset
  else env.behindLocals (offset - bytes.length)

def sendTcp (env : LoraEnv) (state : LoraState) (fd : Int) (cmd : UInt8)
    (bytes : Bytes) : LoraResult :=
  let sent := loraSendTcpData env.wncId state.loraTcpBuf cmd
    (localData env bytes) state.workingMode.packSn bytes.length
  ({ state with loraTcpBuf := sent.1 }, [.tcpSend fd sent.2])

/-- A report is numbered, and the next one gets the next number. -/
def report (env : LoraEnv) (state : LoraState) (fd : Int) (cmd : UInt8)
    (bytes : Bytes) : LoraResult :=
  let sent := sendTcp env state fd cmd bytes
  ({ sent.1 with
    workingMode := { sent.1.workingMode with
      packSn := sent.1.workingMode.packSn + 1 } }, sent.2)

/-! ## Unknown nodes -/

def newDeviceReportTimes : UInt8 := 3

def insertNewDevice (id : UInt32) (type : NodeDeviceType)
    (list : NewNodeList) : NewNodeList :=
  match list.node.findIdx? (·.id == id) with
  | some place =>
      { node := list.node.modify place fun node =>
          { node with timeLeft := newDeviceReportTimes }
        length_le := by
          rw [List.length_modify]
          exact list.length_le }
  | none =>
      if hroom : list.node.length < maxNodeWholeParkingLot then
        { node := list.node ++
            [{ id := id, deviceType := type, timeLeft := newDeviceReportTimes }]
          length_le := by
            rw [List.length_append]
            exact hroom }
      else list

def LoraState.announce (state : LoraState) (id : UInt32)
    (type : NodeDeviceType) : LoraState :=
  { state with newNodeList := insertNewDevice id type state.newNodeList }

/-! ## Configuration of nodes -/

/-- An answer on the frequency of the node; its signal fields are not used. -/
def answerPkt (pkt : LoraPkt) (freqHz : UInt32) (payload : Bytes) : LoraPkt where
  freqHz := freqHz
  rssi := 0
  snr := 0
  datarate := pkt.datarate
  len := 12
  payload := withCrc payload

def heartBeatAnswer (env : LoraEnv) (list : ConfigNodeList) (pkt : LoraPkt)
    (mode : WorkMode) : LoraPkt :=
  let payload := slice pkt.payload 0 10
  if byteAt pkt.payload 5 = 0x0b then
    answerPkt pkt pkt.freqHz
      (match mode with
      | .configNodeByRange | .configNodeById =>
          putBytes payload 4
            (LoraCmd.setPeriod.code :: networkOrder16 list.period)
      | .initNode => putBytes payload 4 [LoraCmd.initParams.code]
      | .normal | .recvTest => payload)
  else answerPkt pkt env.txFreq (putBytes payload 5 [0x0a])

def setFreqPkt (list : ConfigNodeList) (pkt : LoraPkt) : LoraPkt :=
  answerPkt pkt pkt.freqHz (putBytes (slice pkt.payload 0 10) 4
    (LoraCmd.setFreq.code :: networkOrder32 list.freq))

/-- Without a case for the mode, the command is used before it is assigned. -/
def doneCmd (env : LoraEnv) : WorkMode → UInt8
  | .configNodeByRange => Command.loraConfigNodeByRange.code
  | .configNodeById => Command.loraConfigNodeById.code
  | .normal | .recvTest | .initNode => env.unsetCmd

def setDone (list : ConfigNodeList) (place : Nat) : ConfigNodeList :=
  { list with
    node := list.node.modify place fun node => { node with done := true }
    length_le := by
      rw [List.length_modify]
      exact list.length_le }

/-- What `config_lora_node` does for the entry with the id `id`. -/
def configEntry (env : LoraEnv) (pkt : LoraPkt) (id : UInt32)
    (state : LoraState) (place : Nat) : LoraResult :=
  let mode := state.workingMode.mode
  let fd := state.workingMode.fd
  let finished := { state with
    configNodeList := setDone state.configNodeList place }
  match pkt.cmd? with
  | some .detectorHeartBeat =>
      (state, [.loraSend (heartBeatAnswer env state.configNodeList pkt mode)])
  | some .setPeriod =>
      (state, [.loraSend (setFreqPkt state.configNodeList pkt)])
  | some .setFreq =>
      report env finished fd (doneCmd env mode) (networkOrder32 id)
  | some .initParams =>
      report env finished fd Command.loraInitNode.code (networkOrder32 id)
  | _ => (state, [])

/-- To report an entry, the local variable `id` is put into network order. -/
def idAfter (pkt : LoraPkt) (id : UInt32) : UInt32 :=
  match pkt.cmd? with
  | some .setFreq | some .initParams => swapBytes id
  | _ => id

/-- The entries from `place` on. -/
def configEntries (env : LoraEnv) (pkt : LoraPkt) :
    Nat → Nat → UInt32 → LoraState → LoraResult
  | 0, _, _, state => (state, [])
  | left + 1, place, id, state =>
      match state.configNodeList.node[place]? with
      | none => (state, [])
      | some node =>
          if id = node.id ∧ node.done = false then
            let result := configEntry env pkt id state place
            let later := configEntries env pkt left (place + 1)
              (idAfter pkt id) result.1
            (later.1, result.2 ++ later.2)
          else configEntries env pkt left (place + 1) id state

def configLoraNode (env : LoraEnv) (state : LoraState) (pkt : LoraPkt) :
    LoraResult :=
  configEntries env pkt state.configNodeList.node.length 0 pkt.nodeId state

def recvTestReport (pkt : LoraPkt) : Bytes :=
  networkOrder32 pkt.freqHz ++ networkOrder32 pkt.rssi.toInt32.toUInt32 ++
    networkOrder32 pkt.snr.toInt32.toUInt32

/-- No result in the normal mode, where the packet is analyzed further. -/
def analyzeSpecialMode (env : LoraEnv) (state : LoraState) (pkt : LoraPkt) :
    Option LoraResult :=
  match state.workingMode.mode with
  | .normal => none
  | .recvTest =>
      if pkt.cmd? = some .recvTest then
        some (report env state state.workingMode.fd Command.loraRecvTest.code
          (recvTestReport pkt))
      else some (state, [])
  | .configNodeByRange | .configNodeById | .initNode =>
      some (configLoraNode env state pkt)

/-! ## Packets in the normal mode -/

def ParkingLists.modifyDetector (lists : ParkingLists) (place : Nat)
    (change : SingleDetectorInfo → SingleDetectorInfo) : ParkingLists :=
  { lists with
    detectorInfoList :=
      { detectorInfo := lists.detectorInfoList.detectorInfo.modify place change
        length_le := by
          rw [List.length_modify]
          exact lists.detectorInfoList.length_le } }

def LoraState.modifyDetector (state : LoraState) (place : Nat)
    (change : SingleDetectorInfo → SingleDetectorInfo) : LoraState :=
  { state with
    parkingLists := ParkingLists.modifyDetector state.parkingLists place change }

def LoraState.findDetector? (state : LoraState) (id : UInt32) :
    Option (Nat × SingleDetectorInfo) :=
  let detectors := state.parkingLists.detectorInfoList.detectorInfo
  (detectors.findIdx? (·.id == id)).bind fun place =>
    detectors[place]?.map fun info => (place, info)

def heartBeatPkt (env : LoraEnv) (pkt : LoraPkt) (up : Bool) : LoraPkt :=
  { pkt with
    freqHz := env.txFreq
    payload := withCrc (putBytes pkt.payload 5 [up.toUInt8]) }

def heartBeatRecord (pkt : LoraPkt) (info : SingleDetectorInfo) :
    SingleDetectorInfo :=
  refreshDetectorInfo (heartBeatInfo pkt)
    { (adrControl pkt info).2 with isInConfig := false }

def heartBeatEffects (env : LoraEnv) (pkt : LoraPkt)
    (info : SingleDetectorInfo) : List LoraEffect :=
  let adr := adrControl pkt info
  [.loraSend (heartBeatPkt env pkt adr.1)] ++
  (if info.isInConfig then
    [.addLog (printId info.id ++ ascii " exit config")] else []) ++
  (if byteAt pkt.payload 5 &&& 0x40 ≠ 0 then
    [.addLog (printId pkt.nodeId ++ ascii " not stable")] else []) ++
  refreshLogs (heartBeatInfo pkt) adr.2

def detectorHeartBeat (env : LoraEnv) (state : LoraState) (pkt : LoraPkt) :
    LoraResult :=
  match state.findDetector? pkt.nodeId with
  | some (place, info) =>
      (state.modifyDetector place (heartBeatRecord pkt),
        heartBeatEffects env pkt info)
  | none => (state.announce pkt.nodeId .detector, [])

/-- The number of lights is compared with the number of detectors. -/
def lightReported (state : LoraState) (pkt : LoraPkt) : LoraState :=
  let lists := state.parkingLists
  let refreshed := { state with
    parkingLists := { lists with
      lightInfoList := refreshLights (lightReport pkt) lists.lightInfoList } }
  if lists.detectorInfoList.detectorInfo.length ≤ lists.lightInfoList.num then
    refreshed.announce pkt.nodeId .light
  else refreshed

def nodeOnline (state : LoraState) (pkt : LoraPkt) : LoraResult :=
  match state.findDetector? pkt.nodeId with
  | some (place, info) =>
      (state.modifyDetector place restartDetector,
        [.addEvent .detectorRestart,
          .addLog (printId info.id ++ ascii " restart")])
  | none => (state, [])

def nodeEnterCfg (state : LoraState) (pkt : LoraPkt) : LoraResult :=
  match state.findDetector? pkt.nodeId with
  | some (place, info) =>
      (state.modifyDetector place fun info => { info with isInConfig := true },
        [.addLog (printId info.id ++ ascii " enter config")])
  | none => (state, [])

def analyzeNormalMode (env : LoraEnv) (state : LoraState) (pkt : LoraPkt) :
    LoraResult :=
  match pkt.cmd? with
  | some .detectorHeartBeat => detectorHeartBeat env state pkt
  | some .lightResponse | some .lightHeartBeat => (lightReported state pkt, [])
  | some .nodeOnline => nodeOnline state pkt
  | some .nodeEnterCfg => nodeEnterCfg state pkt
  | _ => (state, [])

def analyzeLoraPkt (env : LoraEnv) (state : LoraState) (pkt : LoraPkt) :
    LoraResult :=
  if pkt.crcCorrect then
    (analyzeSpecialMode env state pkt).getD (analyzeNormalMode env state pkt)
  else (state, [])

/-! ## The check of the connections -/

def checkLoraNodeConnect (state : LoraState) : LoraResult :=
  let lists := state.parkingLists
  let checked := lists.detectorInfoList.detectorInfo.mapIdx checkDetector
  ({ state with
    parkingLists := { lists with
      detectorInfoList :=
        { detectorInfo := checked.map Prod.fst
          length_le := by
            simpa [checked] using lists.detectorInfoList.length_le }
      lightInfoList := checkLights lists.lightInfoList } },
    checked.flatMap Prod.snd ++ checkLightsEvents lists.lightInfoList)

/-! ## Requests of the network thread -/

/-- The ids from `id` to `last`; `last + 1` is computed in 32 bits. -/
def rangeIds : Nat → UInt32 → UInt32 → List UInt32
  | 0, _, _ => []
  | room + 1, id, last =>
      if id < last + 1 then id :: rangeIds room (id + 1) last else []

theorem length_rangeIds_le (room : Nat) (id last : UInt32) :
    (rangeIds room id last).length ≤ room := by
  induction room generalizing id with
  | zero => exact Nat.le_refl 0
  | succ room ih =>
      rw [rangeIds]
      split
      · exact Nat.succ_le_succ (ih _)
      · exact Nat.zero_le _

def word32 (data : Nat → UInt8) (offset : Nat) : UInt32 :=
  bigEndian32 (data offset) (data (offset + 1)) (data (offset + 2))
    (data (offset + 3))

def word16 (data : Nat → UInt8) (offset : Nat) : UInt16 :=
  UInt16.ofNat (bigEndian16 (data offset) (data (offset + 1)))

def rangeList (freq : UInt32) (period : UInt16) (first last : UInt32) :
    ConfigNodeList where
  freq := freq
  period := period
  node := (rangeIds maxNodeWholeParkingLot first last).map fun id => { id := id }
  length_le := by
    rw [List.length_map]
    exact length_rangeIds_le _ _ _

/-- At most 255 ids, because `node_num` is one byte. -/
def idList (freq : UInt32) (period : UInt16) (data : Nat → UInt8)
    (count : UInt8) : ConfigNodeList where
  freq := freq
  period := period
  node := (List.range count.toNat).map fun place =>
    { id := word32 data (4 * place) }
  length_le := by
    have hlt := count.toNat_lt
    simp only [List.length_map, List.length_range, maxNodeWholeParkingLot]
    omega

/-- The requester takes over the connection. -/
def LoraState.request (state : LoraState) (fd : Int) : LoraState :=
  { state with workingMode := { state.workingMode with fd := fd, packSn := 1 } }

def acceptRequest (env : LoraEnv) (state : LoraState) (fd : Int) (cmd : UInt8)
    (mode : WorkMode) (list : ConfigNodeList) : LoraResult :=
  let result := report env { state with configNodeList := list } fd cmd [1]
  ({ result.1 with workingMode := { result.1.workingMode with mode := mode } },
    result.2)

/-- The checks of the two requests that set a frequency and a period. -/
def configRequest (env : LoraEnv) (state : LoraState) (fd : Int)
    (data : Nat → UInt8) (mode : WorkMode) (list : ConfigNodeList) :
    LoraResult :=
  let requested := state.request fd
  let cmd := Command.loraConfigNodeByRange.code
  let freq := word32 data 0
  let period := word16 data 4
  if freq < 470300000 ∨ 489300000 < freq then
    sendTcp env requested fd cmd [0]
  else if period < 1 ∨ 7200 < period then sendTcp env requested fd cmd [0]
  else acceptRequest env requested fd cmd mode list

def perpareConfigNodeByRange (env : LoraEnv) (state : LoraState) (fd : Int)
    (data : Nat → UInt8) : LoraResult :=
  configRequest env state fd data .configNodeByRange
    (rangeList (word32 data 0) (word16 data 4) (word32 data 6)
      (word32 data 10))

def perpareConfigNodeById (env : LoraEnv) (state : LoraState) (fd : Int)
    (data : Nat → UInt8) : LoraResult :=
  configRequest env state fd data .configNodeById
    (idList (word32 data 0) (word16 data 4) (fun offset => data (7 + offset))
      (data 6))

def perpairInitNode (env : LoraEnv) (state : LoraState) (fd : Int)
    (data : Nat → UInt8) : LoraResult :=
  acceptRequest env (state.request fd) fd Command.loraInitNode.code .initNode
    (rangeList 0 0 (word32 data 0) (word32 data 4))

/-- A second request ends the test. -/
def recvTestRequest (state : LoraState) (fd : Int) : LoraState :=
  if state.workingMode.mode = .recvTest then
    { state with workingMode := { state.workingMode with mode := .normal } }
  else { state with workingMode := ⟨fd, 1, .recvTest⟩ }

/-! ## The thread -/

/-- One message; a scan of the lights that does not end has no result. -/
def dataProcess (env : LoraEnv) (state : LoraState) :
    LoraMsg → Option LoraResult
  | .loraRecvData pkt => some (analyzeLoraPkt env state pkt)
  | .analizeLightState => analyseLightState env state
  | .checkDeviceConnect => some (checkLoraNodeConnect state)
  | .loraRecvTest fd => some (recvTestRequest state fd, [])
  | .loraConfigNodeByRange fd data =>
      some (perpareConfigNodeByRange env state fd data)
  | .loraConfigNodeById fd data =>
      some (perpareConfigNodeById env state fd data)
  | .loraInitNode fd data => some (perpairInitNode env state fd data)

/-! ## What a message does to the parking lists -/

/-- Two states with the same lists, at the same place of the circle of lights. -/
def SameLists (first second : LoraState) : Prop :=
  first.parkingLists = second.parkingLists ∧ first.index = second.index

theorem SameLists.refl (state : LoraState) : SameLists state state := ⟨rfl, rfl⟩

theorem SameLists.trans {first second third : LoraState}
    (h : SameLists first second) (h' : SameLists second third) :
    SameLists first third :=
  ⟨h.1.trans h'.1, h.2.trans h'.2⟩

theorem sameLists_report (env : LoraEnv) (state : LoraState) (fd : Int)
    (cmd : UInt8) (bytes : Bytes) :
    SameLists (report env state fd cmd bytes).1 state := by
  simp [SameLists, report, sendTcp]

theorem sameLists_configEntry (env : LoraEnv) (pkt : LoraPkt) (id : UInt32)
    (state : LoraState) (place : Nat) :
    SameLists (configEntry env pkt id state place).1 state := by
  unfold configEntry
  split
  · exact .refl state
  · exact .refl state
  · exact sameLists_report _ _ _ _ _
  · exact sameLists_report _ _ _ _ _
  · exact .refl state

theorem sameLists_configEntries (env : LoraEnv) (pkt : LoraPkt)
    (left place : Nat) (id : UInt32) (state : LoraState) :
    SameLists (configEntries env pkt left place id state).1 state := by
  induction left generalizing place id state with
  | zero => exact .refl state
  | succ left ih =>
      rw [configEntries]
      split
      · exact .refl state
      · split
        · exact (ih _ _ _).trans (sameLists_configEntry env pkt id state place)
        · exact ih _ _ _

theorem sameLists_analyzeSpecialMode {env : LoraEnv} {state : LoraState}
    {pkt : LoraPkt} {result : LoraResult}
    (h : analyzeSpecialMode env state pkt = some result) :
    SameLists result.1 state := by
  unfold analyzeSpecialMode at h
  split at h
  · cases h
  · split at h
    · cases h
      exact sameLists_report _ _ _ _ _
    · cases h
      exact .refl state
  all_goals
    cases h
    exact sameLists_configEntries _ _ _ _ _ _

theorem sameLists_configRequest (env : LoraEnv) (state : LoraState) (fd : Int)
    (data : Nat → UInt8) (mode : WorkMode) (list : ConfigNodeList) :
    SameLists (configRequest env state fd data mode list).1 state := by
  unfold configRequest
  dsimp only
  split
  · exact .refl state
  · split <;> exact .refl state

theorem sameLists_recvTestRequest (state : LoraState) (fd : Int) :
    SameLists (recvTestRequest state fd) state := by
  unfold recvTestRequest
  split <;> exact .refl state

theorem workingMode_analyzeNormalMode (env : LoraEnv) (state : LoraState)
    (pkt : LoraPkt) :
    (analyzeNormalMode env state pkt).1.workingMode = state.workingMode := by
  unfold analyzeNormalMode
  split
  case h_1 =>
    unfold detectorHeartBeat
    split <;> rfl
  case h_4 =>
    unfold nodeOnline
    split <;> rfl
  case h_5 =>
    unfold nodeEnterCfg
    split <;> rfl
  case h_6 => rfl
  all_goals
    dsimp only [lightReported]
    split <;> rfl

def LoraState.Hears (state : LoraState) (pkt : LoraPkt) : Prop :=
  pkt.crcCorrect = true ∧ state.workingMode.mode = .normal

instance (state : LoraState) (pkt : LoraPkt) : Decidable (state.Hears pkt) :=
  inferInstanceAs (Decidable (_ ∧ _))

theorem analyzeLoraPkt_of_hears {state : LoraState} {pkt : LoraPkt}
    (env : LoraEnv) (h : state.Hears pkt) :
    analyzeLoraPkt env state pkt = analyzeNormalMode env state pkt := by
  simp [analyzeLoraPkt, h.1, analyzeSpecialMode, h.2]

theorem sameLists_of_not_hears {state : LoraState} {pkt : LoraPkt}
    (env : LoraEnv) (h : ¬state.Hears pkt) :
    SameLists (analyzeLoraPkt env state pkt).1 state := by
  unfold analyzeLoraPkt
  split
  case isFalse => exact .refl state
  case isTrue hcrc =>
    cases hspecial : analyzeSpecialMode env state pkt with
    | some result => exact sameLists_analyzeSpecialMode hspecial
    | none =>
        refine absurd ⟨hcrc, ?_⟩ h
        unfold analyzeSpecialMode at hspecial
        split at hspecial
        case h_1 hmode => exact hmode
        case h_2 => split at hspecial <;> cases hspecial
        all_goals cases hspecial

inductive Acts (env : LoraEnv) (state : LoraState) : LoraMsg → LoraState → Prop
  | none (msg : LoraMsg) (next : LoraState) (hsame : SameLists next state) :
      Acts env state msg next
  | heartBeat (pkt : LoraPkt) (place : Nat) (info : SingleDetectorInfo)
      (hhears : state.Hears pkt) (hcmd : pkt.cmd? = some .detectorHeartBeat)
      (hfind : state.findDetector? pkt.nodeId = some (place, info)) :
      Acts env state (.loraRecvData pkt)
        (state.modifyDetector place (heartBeatRecord pkt))
  | lightReport (pkt : LoraPkt) (next : LoraState) (hhears : state.Hears pkt)
      (hcmd : pkt.cmd? = some .lightResponse ∨
        pkt.cmd? = some .lightHeartBeat)
      (hnext : next = lightReported state pkt) :
      Acts env state (.loraRecvData pkt) next
  | restart (pkt : LoraPkt) (place : Nat) (info : SingleDetectorInfo)
      (hhears : state.Hears pkt) (hcmd : pkt.cmd? = some .nodeOnline)
      (hfind : state.findDetector? pkt.nodeId = some (place, info)) :
      Acts env state (.loraRecvData pkt)
        (state.modifyDetector place restartDetector)
  | enterCfg (pkt : LoraPkt) (place : Nat) (info : SingleDetectorInfo)
      (hhears : state.Hears pkt) (hcmd : pkt.cmd? = some .nodeEnterCfg)
      (hfind : state.findDetector? pkt.nodeId = some (place, info)) :
      Acts env state (.loraRecvData pkt)
        (state.modifyDetector place fun info => { info with isInConfig := true })
  | check : Acts env state .checkDeviceConnect (checkLoraNodeConnect state).1
  | scan (result : LoraResult) (hscan : analyseLightState env state = some result) :
      Acts env state .analizeLightState result.1

theorem analyzeNormalMode_acts {env : LoraEnv} {state : LoraState}
    {pkt : LoraPkt} (hhears : state.Hears pkt) :
    Acts env state (.loraRecvData pkt) (analyzeNormalMode env state pkt).1 := by
  unfold analyzeNormalMode
  split
  case h_1 hcmd =>
    unfold detectorHeartBeat
    split
    case h_1 place info hfind => exact .heartBeat pkt place info hhears hcmd hfind
    case h_2 => exact .none _ _ ⟨rfl, rfl⟩
  case h_2 hcmd => exact .lightReport pkt _ hhears (.inl hcmd) rfl
  case h_3 hcmd => exact .lightReport pkt _ hhears (.inr hcmd) rfl
  case h_4 hcmd =>
    unfold nodeOnline
    split
    case h_1 place info hfind => exact .restart pkt place info hhears hcmd hfind
    case h_2 => exact .none _ _ (.refl state)
  case h_5 hcmd =>
    unfold nodeEnterCfg
    split
    case h_1 place info hfind => exact .enterCfg pkt place info hhears hcmd hfind
    case h_2 => exact .none _ _ (.refl state)
  case h_6 => exact .none _ _ (.refl state)

theorem analyzeLoraPkt_acts (env : LoraEnv) (state : LoraState)
    (pkt : LoraPkt) :
    Acts env state (.loraRecvData pkt) (analyzeLoraPkt env state pkt).1 := by
  by_cases hhears : state.Hears pkt
  · rw [analyzeLoraPkt_of_hears env hhears]
    exact analyzeNormalMode_acts hhears
  · exact .none _ _ (sameLists_of_not_hears env hhears)

def LoraMsg.isRequest : LoraMsg → Bool
  | .loraRecvTest _ | .loraConfigNodeByRange _ _ | .loraConfigNodeById _ _
  | .loraInitNode _ _ => true
  | .loraRecvData _ | .analizeLightState | .checkDeviceConnect => false

theorem sameLists_of_request {env : LoraEnv} {state : LoraState}
    {msg : LoraMsg} {result : LoraResult} (hrequest : msg.isRequest = true)
    (h : dataProcess env state msg = some result) :
    SameLists result.1 state := by
  cases msg with
  | loraRecvData pkt => cases hrequest
  | analizeLightState => cases hrequest
  | checkDeviceConnect => cases hrequest
  | loraRecvTest fd =>
      cases h
      exact sameLists_recvTestRequest state fd
  | loraConfigNodeByRange fd data =>
      cases h
      exact sameLists_configRequest _ _ _ _ _ _
  | loraConfigNodeById fd data =>
      cases h
      exact sameLists_configRequest _ _ _ _ _ _
  | loraInitNode fd data =>
      cases h
      exact ⟨rfl, rfl⟩

theorem dataProcess_acts {env : LoraEnv} {state : LoraState} {msg : LoraMsg}
    {result : LoraResult} (h : dataProcess env state msg = some result) :
    Acts env state msg result.1 := by
  by_cases hrequest : msg.isRequest = true
  · exact .none _ _ (sameLists_of_request hrequest h)
  cases msg with
  | loraRecvData pkt =>
      cases h
      exact analyzeLoraPkt_acts env state pkt
  | analizeLightState => exact .scan result h
  | checkDeviceConnect =>
      cases h
      exact .check
  | loraRecvTest fd => exact absurd rfl hrequest
  | loraConfigNodeByRange fd data => exact absurd rfl hrequest
  | loraConfigNodeById fd data => exact absurd rfl hrequest
  | loraInitNode fd data => exact absurd rfl hrequest

abbrev LoraInput := LoraEnv × LoraMsg

def loraStep (state : LoraState) (input : LoraInput) : Option LoraState :=
  (dataProcess input.1 state input.2).map Prod.fst

theorem loraStep_acts {state next : LoraState} {input : LoraInput}
    (h : loraStep state input = some next) :
    Acts input.1 state input.2 next := by
  obtain ⟨result, hresult, rfl⟩ := Option.map_eq_some_iff.mp h
  exact dataProcess_acts hresult

end WncFirmware.Lora
