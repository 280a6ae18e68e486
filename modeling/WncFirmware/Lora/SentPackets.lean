import WncFirmware.Lora.Reports

/-!
# Packets for the nodes

Five places of the thread build a packet for a node, out of a received packet or
of an empty one.  Each of them computes the CRC after its last change.
-/

namespace WncFirmware.Lora

open WncFirmware.Foundation

/-! ## The CRC of a packet -/

structure LoraPkt.Acceptable (pkt : LoraPkt) : Prop where
  len : pkt.len = 12
  crcHigh : byteAt pkt.payload 10 =
    byteOf (crcCalculate pkt.payload 10).toNat 1
  crcLow : byteAt pkt.payload 11 =
    byteOf (crcCalculate pkt.payload 10).toNat 0
  crcCorrect : pkt.crcCorrect = true

theorem byteAt_withCrc {index : Nat} (payload : Bytes) (h : index < 10) :
    byteAt (withCrc payload) index = byteAt payload index :=
  byteAt_putBytes_before _ _ h

theorem crcCalculate_withCrc (payload : Bytes) :
    crcCalculate (withCrc payload) 10 = crcCalculate payload 10 := by
  have hslice : slice (withCrc payload) 0 10 = slice payload 0 10 := by
    apply List.map_congr_left
    intro offset hoffset
    have hlt := List.mem_range.mp hoffset
    exact byteAt_withCrc payload (by omega)
  rw [crcCalculate, crcCalculate, hslice]

theorem acceptable_withCrc {pkt : LoraPkt} {payload : Bytes}
    (hlen : pkt.len = 12) (hpayload : pkt.payload = withCrc payload) :
    pkt.Acceptable := by
  have hcrc := (crcCalculate payload 10).toNat_lt
  have hhigh : byteAt (withCrc payload) 10 =
      byteOf (crcCalculate payload 10).toNat 1 := by
    simp [withCrc, byteAt_putBytes, networkOrder16, littleEndian16]
  have hlow : byteAt (withCrc payload) 11 =
      byteOf (crcCalculate payload 10).toNat 0 := by
    simp [withCrc, byteAt_putBytes, networkOrder16, littleEndian16]
  refine ⟨hlen, ?_, ?_, ?_⟩
  · rw [hpayload, crcCalculate_withCrc, hhigh]
  · rw [hpayload, crcCalculate_withCrc, hlow]
  · rw [LoraPkt.crcCorrect, hpayload, crcCalculate_withCrc, hhigh, hlow,
      beq_iff_eq, bigEndian16, toNat_byteOf, toNat_byteOf]
    omega

theorem nodeId_congr {first second : LoraPkt}
    (h : ∀ index < 4,
      byteAt first.payload index = byteAt second.payload index) :
    first.nodeId = second.nodeId := by
  simp only [LoraPkt.nodeId, h 0 (by decide), h 1 (by decide), h 2 (by decide),
    h 3 (by decide)]

/-! ## Answers -/

structure Answers (pkt answer : LoraPkt) : Prop where
  acceptable : answer.Acceptable
  nodeId : answer.nodeId = pkt.nodeId

theorem answers_answerPkt (pkt : LoraPkt) (freqHz : UInt32) {payload : Bytes}
    (h : ∀ index < 4, byteAt payload index = byteAt pkt.payload index) :
    Answers pkt (answerPkt pkt freqHz payload) := by
  refine ⟨acceptable_withCrc rfl rfl, nodeId_congr ?_⟩
  intro index hindex
  rw [answerPkt, byteAt_withCrc payload (by omega), h index hindex]

theorem byteAt_copied (payload bytes : Bytes) {start index : Nat}
    (hstart : 4 ≤ start) (hindex : index < 4) :
    byteAt (putBytes (slice payload 0 10) start bytes) index =
      byteAt payload index := by
  rw [byteAt_putBytes_before _ _ (by omega), byteAt_slice _ (by omega),
    Nat.zero_add]

theorem answers_heartBeatAnswer (env : LoraEnv) (list : ConfigNodeList)
    (pkt : LoraPkt) (mode : WorkMode) :
    Answers pkt (heartBeatAnswer env list pkt mode) := by
  have hcopy : ∀ index < 4,
      byteAt (slice pkt.payload 0 10) index = byteAt pkt.payload index := by
    intro index hindex
    rw [byteAt_slice _ (by omega), Nat.zero_add]
  unfold heartBeatAnswer
  dsimp only
  split
  · apply answers_answerPkt
    intro index hindex
    split
    · exact byteAt_copied _ _ (by decide) hindex
    · exact byteAt_copied _ _ (by decide) hindex
    · exact byteAt_copied _ _ (by decide) hindex
    · exact hcopy index hindex
    · exact hcopy index hindex
  · exact answers_answerPkt _ _ fun index =>
      byteAt_copied _ _ (by decide)

theorem answers_setFreqPkt (list : ConfigNodeList) (pkt : LoraPkt) :
    Answers pkt (setFreqPkt list pkt) :=
  answers_answerPkt _ _ fun _ => byteAt_copied _ _ (by decide)

theorem answers_heartBeatPkt (env : LoraEnv) {pkt : LoraPkt} (up : Bool)
    (hlen : pkt.len = 12) : Answers pkt (heartBeatPkt env pkt up) := by
  refine ⟨acceptable_withCrc hlen rfl, nodeId_congr ?_⟩
  intro index hindex
  rw [heartBeatPkt, byteAt_withCrc _ (by omega),
    byteAt_putBytes_before _ _ (by omega)]

/-! ## What a received packet makes the thread send -/

def sentPkts (effects : List LoraEffect) : List LoraPkt :=
  effects.filterMap fun effect =>
    match effect with
    | .loraSend pkt => some pkt
    | _ => none

@[simp] theorem sentPkts_append (first second : List LoraEffect) :
    sentPkts (first ++ second) = sentPkts first ++ sentPkts second :=
  List.filterMap_append

theorem answers_configEntry (env : LoraEnv) (pkt : LoraPkt) (id : UInt32)
    (state : LoraState) (place : Nat) :
    ∀ answer ∈ sentPkts (configEntry env pkt id state place).2,
      Answers pkt answer := by
  unfold configEntry
  split
  case h_1 =>
    simpa [sentPkts] using answers_heartBeatAnswer env state.configNodeList pkt
      state.workingMode.mode
  case h_2 =>
    simpa [sentPkts] using answers_setFreqPkt state.configNodeList pkt
  all_goals simp [sentPkts, report, sendTcp]

theorem answers_configEntries (env : LoraEnv) (pkt : LoraPkt)
    (left place : Nat) (id : UInt32) (state : LoraState) :
    ∀ answer ∈ sentPkts (configEntries env pkt left place id state).2,
      Answers pkt answer := by
  induction left generalizing place id state with
  | zero => simp [configEntries, sentPkts]
  | succ left ih =>
      rw [configEntries]
      split
      · simp [sentPkts]
      · split
        · simp only [sentPkts_append, List.mem_append]
          rintro answer (hfirst | hlater)
          · exact answers_configEntry env pkt id state place answer hfirst
          · exact ih _ _ _ answer hlater
        · exact ih _ _ _

theorem sentPkts_heartBeatEffects (env : LoraEnv) (pkt : LoraPkt)
    (info : SingleDetectorInfo) :
    sentPkts (heartBeatEffects env pkt info) =
      [heartBeatPkt env pkt (adrControl pkt info).1] := by
  have hlogs : ∀ nodeInfo record,
      sentPkts (refreshLogs nodeInfo record) = [] := by
    intro nodeInfo record
    simp only [refreshLogs, sentPkts_append]
    split <;> split <;> split <;> rfl
  simp only [heartBeatEffects, sentPkts_append, hlogs]
  split <;> split <;> rfl

theorem answers_analyzeNormalMode (env : LoraEnv) (state : LoraState)
    {pkt : LoraPkt} (hlen : pkt.len = 12) :
    ∀ answer ∈ sentPkts (analyzeNormalMode env state pkt).2,
      Answers pkt answer := by
  unfold analyzeNormalMode
  split
  case h_1 =>
    unfold detectorHeartBeat
    split
    · simpa [sentPkts_heartBeatEffects] using answers_heartBeatPkt env _ hlen
    · simp [sentPkts]
  case h_4 =>
    unfold nodeOnline
    split <;> simp [sentPkts]
  case h_5 =>
    unfold nodeEnterCfg
    split <;> simp [sentPkts]
  all_goals simp [sentPkts]

theorem answers_analyzeSpecialMode {env : LoraEnv} {state : LoraState}
    {pkt : LoraPkt} {result : LoraResult}
    (h : analyzeSpecialMode env state pkt = some result) :
    ∀ answer ∈ sentPkts result.2, Answers pkt answer := by
  unfold analyzeSpecialMode at h
  split at h
  · cases h
  · split at h
    · cases h
      simp [sentPkts, report, sendTcp]
    · cases h
      simp [sentPkts]
  all_goals
    cases h
    exact answers_configEntries _ _ _ _ _ _

theorem answers_analyzeLoraPkt (env : LoraEnv) (state : LoraState)
    {pkt : LoraPkt} (hlen : pkt.len = 12) :
    ∀ answer ∈ sentPkts (analyzeLoraPkt env state pkt).2,
      Answers pkt answer := by
  unfold analyzeLoraPkt
  split
  case isFalse => simp [sentPkts]
  case isTrue =>
    cases hspecial : analyzeSpecialMode env state pkt with
    | none => exact answers_analyzeNormalMode env state hlen
    | some result => exact answers_analyzeSpecialMode hspecial

/-! ## What a scan of the lights makes the thread send -/

structure Controls (env : LoraEnv) (pkt : LoraPkt)
    (before after : SingleLightInfo) : Prop where
  pkt_eq : pkt = controlPkt env after
  id : after.id = before.id
  tries : 0 < before.timeLeft
  timeLeft : after.timeLeft = before.timeLeft - 1

theorem acceptable_controlPkt (env : LoraEnv) (light : SingleLightInfo) :
    (controlPkt env light).Acceptable :=
  acceptable_withCrc rfl rfl

theorem nodeId_controlPkt (env : LoraEnv) (light : SingleLightInfo) :
    (controlPkt env light).nodeId = light.id := by
  have hid := bigEndian32_byteOf light.id
  simp only [LoraPkt.nodeId, controlPkt]
  rw [byteAt_withCrc _ (by decide), byteAt_withCrc _ (by decide),
    byteAt_withCrc _ (by decide), byteAt_withCrc _ (by decide)]
  exact hid

theorem timeLeft_setCorrectColor (empty : List Nat) (lights : LightInfoList)
    (place position : Nat) :
    ((setCorrectColor empty lights place).lightInfo position).timeLeft =
      (lights.lightInfo position).timeLeft := by
  by_cases hposition : position = place
  · rw [hposition, setCorrectColor, lightInfo_modifyLight_self]
  · rw [setCorrectColor, lightInfo_modifyLight_ne _ _ hposition]

theorem timeLeft_passedLights (empty : List Nat) (lights : LightInfoList)
    (place position : Nat) :
    ((passedLights empty lights place).lightInfo position).timeLeft =
      (lights.lightInfo position).timeLeft := by
  have hcolored := timeLeft_setCorrectColor empty lights place position
  unfold passedLights
  dsimp only
  split
  · by_cases hposition : position = place
    · rw [hposition] at hcolored ⊢
      rw [lightInfo_modifyLight_self]
      exact hcolored
    · rw [lightInfo_modifyLight_ne _ _ hposition]
      exact hcolored
  · exact hcolored

theorem scanLoop_controls {env : LoraEnv} {empty : List Nat}
    {index fuel place : Nat} {isFirst : Bool} {lights : LightInfoList}
    {pkt : LoraPkt}
    (h : pkt ∈ sentPkts
      (scanLoop env empty index fuel isFirst place lights).effects) :
    ∃ position, Controls env pkt (lights.lightInfo position)
      ((scanLoop env empty index fuel isFirst place lights).lights.lightInfo
        position) := by
  induction fuel generalizing isFirst place lights with
  | zero => simp [scanLoop, sentPkts] at h
  | succ fuel ih =>
      by_cases hgoes : (place ≠ index ∨ isFirst = true) ∧ 0 < lights.num
      case neg =>
        rw [scanLoop_end hgoes] at h
        simp [sentPkts] at h
      cases hdriven : driven empty lights place with
      | true =>
          rw [scanLoop_driven hgoes hdriven] at h ⊢
          have hscanned := scanned_setCorrectColor empty lights place place
          have hlight : pkt = controlPkt env
              ((setCorrectColor empty lights place).lightInfo place) := by
            simpa [sentPkts, controlEffects] using h
          simp only [driven, Bool.and_eq_true, decide_eq_true_eq,
            timeLeft_setCorrectColor] at hdriven
          refine ⟨place, ?_⟩
          dsimp only
          rw [lightInfo_modifyLight_self]
          refine ⟨hlight, hscanned.id, hdriven.2, ?_⟩
          dsimp only
          rw [timeLeft_setCorrectColor]
      | false =>
          rw [scanLoop_passed hgoes hdriven] at h ⊢
          obtain ⟨position, hcontrols⟩ := ih h
          have hscanned := @scanned_passedLights empty lights place position
          have htime := timeLeft_passedLights empty lights place position
          refine ⟨position, hcontrols.pkt_eq, ?_, ?_, ?_⟩
          · exact hcontrols.id.trans hscanned.id
          · rw [← htime]
            exact hcontrols.tries
          · rw [← htime]
            exact hcontrols.timeLeft

/-! ## Every message -/

theorem sentPkts_checkLoraNodeConnect (state : LoraState) :
    sentPkts (checkLoraNodeConnect state).2 = [] := by
  have hdetector : ∀ place info, sentPkts (checkDetector place info).2 = [] := by
    intro place info
    unfold checkDetector
    split
    · rfl
    · split <;> rfl
  simp only [checkLoraNodeConnect, sentPkts_append, List.append_eq_nil_iff]
  constructor
  · simp only [sentPkts, List.filterMap_eq_nil_iff, List.mem_flatMap,
      List.mem_mapIdx] at hdetector ⊢
    rintro effect ⟨_, ⟨place, hplace, rfl⟩, heffect⟩
    exact hdetector place _ effect heffect
  · simp [checkLightsEvents, sentPkts]

theorem sentPkts_of_request {env : LoraEnv} {state : LoraState}
    {msg : LoraMsg} {result : LoraResult} (hrequest : msg.isRequest = true)
    (h : dataProcess env state msg = some result) :
    sentPkts result.2 = [] := by
  have hconfig : ∀ fd data mode list,
      sentPkts (configRequest env state fd data mode list).2 = [] := by
    intro fd data mode list
    unfold configRequest
    dsimp only
    split
    · rfl
    · split <;> rfl
  cases msg with
  | loraRecvData pkt => cases hrequest
  | analizeLightState => cases hrequest
  | checkDeviceConnect => cases hrequest
  | loraRecvTest fd =>
      cases h
      rfl
  | loraConfigNodeByRange fd data =>
      cases h
      exact hconfig _ _ _ _
  | loraConfigNodeById fd data =>
      cases h
      exact hconfig _ _ _ _
  | loraInitNode fd data =>
      cases h
      rfl

def Addressed (env : LoraEnv) (before after : LoraState) (msg : LoraMsg)
    (pkt : LoraPkt) : Prop :=
  match msg with
  | .loraRecvData received => pkt.nodeId = received.nodeId
  | .analizeLightState =>
      ∃ place, Controls env pkt (before.light place) (after.light place) ∧
        pkt.nodeId = (before.light place).id
  | _ => False

theorem sent_packets_acceptable {env : LoraEnv} {state : LoraState}
    {msg : LoraMsg} {result : LoraResult}
    (hlen : ∀ received, msg = .loraRecvData received → received.len = 12)
    (h : dataProcess env state msg = some result) :
    ∀ pkt, .loraSend pkt ∈ result.2 →
      pkt.Acceptable ∧ Addressed env state result.1 msg pkt := by
  intro pkt heffect
  have hsent : pkt ∈ sentPkts result.2 :=
    List.mem_filterMap.mpr ⟨.loraSend pkt, heffect, rfl⟩
  by_cases hrequest : msg.isRequest = true
  · rw [sentPkts_of_request hrequest h] at hsent
    cases hsent
  cases msg with
  | loraRecvData received =>
      cases h
      have hanswers := answers_analyzeLoraPkt env state (hlen received rfl) pkt
        hsent
      exact ⟨hanswers.acceptable, hanswers.nodeId⟩
  | analizeLightState =>
      have hscan : analyseLightState env state = some result := h
      rw [analyseLightState_eq hscan] at hsent ⊢
      obtain ⟨place, hcontrols⟩ := scanLoop_controls hsent
      rw [hcontrols.pkt_eq]
      refine ⟨acceptable_controlPkt env _, place, ?_, ?_⟩
      · exact hcontrols.pkt_eq ▸ hcontrols
      · rw [nodeId_controlPkt]
        exact hcontrols.id
  | checkDeviceConnect =>
      cases h
      rw [sentPkts_checkLoraNodeConnect] at hsent
      cases hsent
  | loraRecvTest fd => exact absurd rfl hrequest
  | loraConfigNodeByRange fd data => exact absurd rfl hrequest
  | loraConfigNodeById fd data => exact absurd rfl hrequest
  | loraInitNode fd data => exact absurd rfl hrequest

def firstAnswer : LoraPkt := heartBeatPkt .sample firstHeartBeat false

theorem first_answer_acceptable :
    LoraEffect.loraSend firstAnswer ∈
        (analyzeLoraPkt .sample oneDetector firstHeartBeat).2 ∧
      firstAnswer.Acceptable ∧ firstAnswer.nodeId = 1 := by
  have hsent : LoraEffect.loraSend firstAnswer ∈
      (analyzeLoraPkt .sample oneDetector firstHeartBeat).2 := by
    decide +kernel
  have haccepted := sent_packets_acceptable
    (show ∀ received, LoraMsg.loraRecvData firstHeartBeat =
        .loraRecvData received → received.len = 12 by
      rintro received ⟨⟩
      rfl)
    (rfl : dataProcess .sample oneDetector (.loraRecvData firstHeartBeat) = _)
    firstAnswer hsent
  have hid : firstHeartBeat.nodeId = 1 := by
    decide +kernel
  exact ⟨hsent, haccepted.1, haccepted.2.trans hid⟩

end WncFirmware.Lora
