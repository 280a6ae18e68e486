import Mathlib.Algebra.Order.BigOperators.Group.List
import WncFirmware.Lora.SentPackets

/-!
# A light is tried ten times

Beside the state stands what has happened to each light since its last report or
since the lists were loaded: how many commands were queued for it, and whether
it has been offline.
-/

namespace WncFirmware.Lora

open WncFirmware.Foundation

/-! ## Who gets the command of a tick -/

/-- The light that a scan serves: the last one visited, if there is a message. -/
def LightScan.served? (scan : LightScan) : Option Nat :=
  if sentPkts scan.effects = [] then none else scan.visited.getLast?

structure Tried (served : Prop) (before after : SingleLightInfo) : Prop where
  online : served → before.state ≠ nodeStateOffline
  tries : served → 0 < before.timeLeft
  used : served → after.timeLeft = before.timeLeft - 1
  kept : ¬served → after.timeLeft = before.timeLeft

theorem Tried.quiet {served : Prop} (light : SingleLightInfo)
    (h : ¬served) : Tried served light light where
  online := fun hserved => absurd hserved h
  tries := fun hserved => absurd hserved h
  used := fun hserved => absurd hserved h
  kept := fun _ => rfl

theorem served?_of_quiet {scan : LightScan} (h : scan.effects = []) :
    scan.served? = none := by
  rw [LightScan.served?, h]
  rfl

theorem served?_cons {scan : LightScan} (place : Nat)
    (h : sentPkts scan.effects = [] ∨ scan.visited ≠ []) :
    LightScan.served? { scan with visited := place :: scan.visited } =
      scan.served? := by
  unfold LightScan.served?
  dsimp only
  split
  · rfl
  · rename_i hsent
    have hne := h.resolve_left hsent
    rw [List.getLast?_cons, List.getLast?_eq_some_getLast hne]
    rfl

theorem tried_driven {empty : List Nat} {lights : LightInfoList} {place : Nat}
    (hdriven : driven empty lights place = true) (position : Nat) :
    Tried (some place = some position) (lights.lightInfo position)
      ((modifyLight (setCorrectColor empty lights place) place fun light =>
        { light with timeLeft := light.timeLeft - 1 }).lightInfo position) := by
  by_cases hposition : position = place
  · subst hposition
    simp only [driven, setCorrectColor, lightInfo_modifyLight_self,
      wrongColor, Bool.and_eq_true, bne_iff_ne, decide_eq_true_eq] at hdriven ⊢
    obtain ⟨⟨honline, -⟩, htries⟩ := hdriven
    exact ⟨fun _ => honline, fun _ => htries, fun _ => rfl,
      fun hnot => absurd trivial hnot⟩
  · rw [lightInfo_modifyLight_ne _ _ hposition, setCorrectColor,
      lightInfo_modifyLight_ne _ _ hposition]
    apply Tried.quiet
    intro hserved
    exact hposition (Option.some.inj hserved).symm

theorem Tried.after_passed {served : Prop} {empty : List Nat}
    {lights : LightInfoList} {place position : Nat} {after : SingleLightInfo}
    (h : Tried served ((passedLights empty lights place).lightInfo position)
      after) : Tried served (lights.lightInfo position) after := by
  have htime := timeLeft_passedLights empty lights place position
  refine ⟨?_, ?_, ?_, ?_⟩
  · intro hserved hoffline
    apply h.online hserved
    rcases (@scanned_passedLights empty lights place position).state with
      hsame | hlost
    · rw [hsame, hoffline]
    · exact hlost
  · intro hserved
    rw [← htime]
    exact h.tries hserved
  · intro hserved
    rw [← htime]
    exact h.used hserved
  · intro hnot
    rw [← htime]
    exact h.kept hnot

structure ScanServes (env : LoraEnv) (before : LightInfoList)
    (scan : LightScan) : Prop where
  visited : sentPkts scan.effects = [] ∨ scan.visited ≠ []
  queued : sentPkts scan.effects = scan.served?.toList.map fun position =>
    controlPkt env (scan.lights.lightInfo position)
  tried : ∀ position, Tried (scan.served? = some position)
    (before.lightInfo position) (scan.lights.lightInfo position)

theorem ScanServes.quiet (env : LoraEnv) {scan : LightScan}
    (h : scan.effects = []) : ScanServes env scan.lights scan := by
  have hnone := served?_of_quiet h
  refine ⟨.inl ?_, ?_, ?_⟩
  · rw [h]
    rfl
  · rw [hnone, h]
    rfl
  · intro position
    apply Tried.quiet
    rw [hnone]
    exact Option.some_ne_none position ∘ Eq.symm

theorem scanLoop_served (env : LoraEnv) (empty : List Nat)
    (index fuel place : Nat) (isFirst : Bool) (lights : LightInfoList) :
    ScanServes env lights
      (scanLoop env empty index fuel isFirst place lights) := by
  induction fuel generalizing isFirst place lights with
  | zero =>
      exact @ScanServes.quiet env ⟨[], lights, index, [], false⟩ rfl
  | succ fuel ih =>
      by_cases hgoes : (place ≠ index ∨ isFirst = true) ∧ 0 < lights.num
      case neg =>
        rw [scanLoop_end hgoes]
        exact @ScanServes.quiet env ⟨[], lights, index, [], true⟩ rfl
      cases hdriven : driven empty lights place with
      | true =>
          rw [scanLoop_driven hgoes hdriven]
          refine ⟨.inr (List.cons_ne_nil _ _), ?_, ?_⟩
          · simp [LightScan.served?, sentPkts, controlEffects, controlPkt,
              lightInfo_modifyLight_self]
          · intro position
            simpa [LightScan.served?, sentPkts, controlEffects] using
              tried_driven hdriven position
      | false =>
          have hlater := ih (nextPlace lights.num place) false
            (passedLights empty lights place)
          rw [scanLoop_passed hgoes hdriven]
          generalize scanLoop env empty index fuel false
            (nextPlace lights.num place) (passedLights empty lights place) =
              later at hlater ⊢
          refine ⟨.inr (List.cons_ne_nil _ _), ?_, ?_⟩
          · rw [served?_cons place hlater.visited]
            exact hlater.queued
          · intro position
            rw [served?_cons place hlater.visited]
            exact (hlater.tried position).after_passed

/-! ## Only a tick queues commands for lights -/

def controlPkts (effects : List LoraEffect) : List LoraPkt :=
  (sentPkts effects).filter fun pkt => pkt.cmd? == some .lightResponse

theorem controlPkts_eq_nil_iff (effects : List LoraEffect) :
    controlPkts effects = [] ↔
      ∀ pkt ∈ sentPkts effects, pkt.cmd? ≠ some .lightResponse := by
  simp [controlPkts]

theorem cmd?_withCrc {pkt : LoraPkt} {payload : Bytes}
    (h : pkt.payload = withCrc payload) :
    pkt.cmd? = LoraCmd.ofCode? (byteAt payload 4) := by
  rw [LoraPkt.cmd?, h, byteAt_withCrc payload (by decide)]

theorem cmd?_copied {pkt answer : LoraPkt} {payload : Bytes}
    (hanswer : answer.payload = withCrc payload)
    (hcopy : byteAt payload 4 = byteAt pkt.payload 4) :
    answer.cmd? = pkt.cmd? := by
  rw [cmd?_withCrc hanswer, hcopy]
  rfl

/-- The answers to a node that is configured have a command of their own. -/
theorem cmd?_answerPkt (pkt : LoraPkt) (freqHz : UInt32) (payload : Bytes)
    (cmd : LoraCmd) (bytes : Bytes) :
    (answerPkt pkt freqHz (putBytes (slice payload 0 10) 4
      (cmd.code :: bytes))).cmd? = some cmd := by
  have hbyte : byteAt (putBytes (slice payload 0 10) 4 (cmd.code :: bytes)) 4 =
      cmd.code := by
    simp [byteAt_putBytes]
  have hpayload (payload : Bytes) :
      (answerPkt pkt freqHz payload).payload = withCrc payload := rfl
  rw [cmd?_withCrc (hpayload _), hbyte]
  cases cmd <;> decide

theorem cmd?_heartBeatAnswer (env : LoraEnv) (list : ConfigNodeList)
    {pkt : LoraPkt} (mode : WorkMode)
    (hcmd : pkt.cmd? = some .detectorHeartBeat) :
    (heartBeatAnswer env list pkt mode).cmd? ≠ some .lightResponse := by
  have hcopy : byteAt (slice pkt.payload 0 10) 4 = byteAt pkt.payload 4 := by
    rw [byteAt_slice _ (by decide), Nat.zero_add]
  have hcopied (freqHz : UInt32) {payload : Bytes}
      (h : byteAt payload 4 = byteAt pkt.payload 4) :
      (answerPkt pkt freqHz payload).cmd? ≠ some .lightResponse := by
    have hsame : (answerPkt pkt freqHz payload).cmd? = pkt.cmd? :=
      cmd?_copied rfl h
    rw [hsame, hcmd]
    decide
  unfold heartBeatAnswer
  dsimp only
  split
  · cases mode with
    | normal => exact hcopied pkt.freqHz hcopy
    | recvTest => exact hcopied pkt.freqHz hcopy
    | configNodeByRange =>
        rw [cmd?_answerPkt]
        decide
    | configNodeById =>
        rw [cmd?_answerPkt]
        decide
    | initNode =>
        rw [cmd?_answerPkt]
        decide
  · apply hcopied env.txFreq
    rw [byteAt_putBytes_before _ _ (by decide), hcopy]

theorem controlPkts_configEntry (env : LoraEnv) (pkt : LoraPkt) (id : UInt32)
    (state : LoraState) (place : Nat) :
    controlPkts (configEntry env pkt id state place).2 = [] := by
  rw [controlPkts_eq_nil_iff]
  unfold configEntry
  split
  case h_1 hcmd =>
    simpa [sentPkts] using cmd?_heartBeatAnswer env state.configNodeList
      state.workingMode.mode hcmd
  case h_2 =>
    have hcmd : (setFreqPkt state.configNodeList pkt).cmd? = some .setFreq :=
      cmd?_answerPkt pkt pkt.freqHz pkt.payload .setFreq _
    simp [sentPkts, hcmd]
  all_goals simp [sentPkts, report, sendTcp]

theorem controlPkts_append (first second : List LoraEffect) :
    controlPkts (first ++ second) = controlPkts first ++ controlPkts second := by
  simp [controlPkts]

theorem controlPkts_configEntries (env : LoraEnv) (pkt : LoraPkt)
    (left place : Nat) (id : UInt32) (state : LoraState) :
    controlPkts (configEntries env pkt left place id state).2 = [] := by
  induction left generalizing place id state with
  | zero => rfl
  | succ left ih =>
      rw [configEntries]
      split
      · rfl
      · split
        · dsimp only
          rw [controlPkts_append, controlPkts_configEntry, ih]
          rfl
        · exact ih _ _ _

theorem controlPkts_analyzeSpecialMode {env : LoraEnv} {state : LoraState}
    {pkt : LoraPkt} {result : LoraResult}
    (h : analyzeSpecialMode env state pkt = some result) :
    controlPkts result.2 = [] := by
  unfold analyzeSpecialMode at h
  split at h
  · cases h
  · split at h <;> cases h <;> rfl
  all_goals
    cases h
    exact controlPkts_configEntries _ _ _ _ _ _

theorem controlPkts_analyzeNormalMode (env : LoraEnv) (state : LoraState)
    (pkt : LoraPkt) : controlPkts (analyzeNormalMode env state pkt).2 = [] := by
  unfold analyzeNormalMode
  split
  case h_1 hcmd =>
    unfold detectorHeartBeat
    split
    · rw [controlPkts, sentPkts_heartBeatEffects]
      have hanswer : ∀ up, (heartBeatPkt env pkt up).cmd? =
          some .detectorHeartBeat := by
        intro up
        rw [cmd?_copied rfl (byteAt_putBytes_before _ _ (by decide)), hcmd]
      simp [hanswer]
    · rfl
  case h_4 =>
    unfold nodeOnline
    split <;> rfl
  case h_5 =>
    unfold nodeEnterCfg
    split <;> rfl
  all_goals rfl

theorem controlPkts_of_not_tick {env : LoraEnv} {state : LoraState}
    {msg : LoraMsg} {result : LoraResult} (hmsg : msg ≠ .analizeLightState)
    (h : dataProcess env state msg = some result) :
    controlPkts result.2 = [] := by
  by_cases hrequest : msg.isRequest = true
  · rw [controlPkts, sentPkts_of_request hrequest h]
    rfl
  cases msg with
  | loraRecvData pkt =>
      cases h
      unfold analyzeLoraPkt
      split
      · cases hspecial : analyzeSpecialMode env state pkt with
        | none => exact controlPkts_analyzeNormalMode env state pkt
        | some result => exact controlPkts_analyzeSpecialMode hspecial
      · rfl
  | analizeLightState => exact absurd rfl hmsg
  | checkDeviceConnect =>
      cases h
      rw [controlPkts, sentPkts_checkLoraNodeConnect]
      rfl
  | loraRecvTest fd => exact absurd rfl hrequest
  | loraConfigNodeByRange fd data => exact absurd rfl hrequest
  | loraConfigNodeById fd data => exact absurd rfl hrequest
  | loraInitNode fd data => exact absurd rfl hrequest

/-! ## What has happened to each light -/

def LoraState.tickScan (state : LoraState) (env : LoraEnv) : LightScan :=
  state.scan env (state.lightNum + 2)

def LoraState.takesReport (state : LoraState) (msg : LoraMsg) (place : Nat) :
    Bool :=
  match msg with
  | .loraRecvData pkt => state.ReportsLight pkt place
  | _ => false

/--
The commands that a message queues for the light at the place.  A command that
no tick has queued would count for every light.
-/
def LoraState.queuedFor (state : LoraState) (env : LoraEnv) (msg : LoraMsg)
    (effects : List LoraEffect) (place : Nat) : List LoraPkt :=
  match msg with
  | .analizeLightState =>
      if (state.tickScan env).served? = some place then controlPkts effects
      else []
  | _ => controlPkts effects

/--
`commands` counts since the last report of a light or the load of the list, and
`lost` says that the light has been offline since then.
-/
structure TriedLights where
  state : LoraState
  commands : Nat → Nat
  lost : Nat → Bool

def TriedLights.load (state : LoraState) : TriedLights where
  state := state
  commands := fun _ => 0
  lost := fun place => (state.light place).state == nodeStateOffline

def TriedLights.next (lights : TriedLights) (env : LoraEnv) (msg : LoraMsg)
    (result : LoraResult) : TriedLights where
  state := result.1
  commands := fun place =>
    if lights.state.takesReport msg place then 0
    else lights.commands place +
      (lights.state.queuedFor env msg result.2 place).length
  lost := fun place =>
    (!lights.state.takesReport msg place && lights.lost place) ||
      (result.1.light place).state == nodeStateOffline

def triedStep (lights : TriedLights) : LightEvent → Option TriedLights
  | .message env msg =>
      (dataProcess env lights.state msg).map (lights.next env msg)
  | .reload device => some (.load (lights.state.reload device))

/-! ## The invariant -/

structure TriesCounted (lights : TriedLights) : Prop where
  tries : ∀ place, lights.commands place +
    (lights.state.light place).timeLeft.toNat ≤ 10
  lost : ∀ place, lights.lost place = true →
    (lights.state.light place).state = nodeStateOffline

theorem triesCounted_load {state : LoraState}
    (h : ∀ place, (state.light place).timeLeft.toNat ≤ 10) :
    TriesCounted (.load state) := by
  constructor
  · intro place
    simpa [TriedLights.load] using h place
  · intro place hlost
    simpa [TriedLights.load] using hlost

theorem timeLeft_reload_le (state : LoraState) (device : Device)
    (place : Nat) :
    ((state.reload device).light place).timeLeft.toNat ≤ 10 := by
  simp only [LoraState.light, LoraState.reload, initParkingLists,
    readLightParkingFile, readSensorListFile, readLightConnectFile]
  split
  · exact Nat.le_refl 10
  · exact Nat.zero_le 10

theorem tickScan_serves (env : LoraEnv) (state : LoraState) :
    ScanServes env state.parkingLists.lightInfoList (state.tickScan env) :=
  scanLoop_served _ _ _ _ _ _ _

theorem sentPkts_tick {env : LoraEnv} {state : LoraState}
    {result : LoraResult} (h : analyseLightState env state = some result) :
    sentPkts result.2 = (state.tickScan env).served?.toList.map fun place =>
      controlPkt env (result.1.light place) := by
  rw [analyseLightState_eq h]
  exact (tickScan_serves env state).queued

theorem tried_tick {env : LoraEnv} {state : LoraState} {result : LoraResult}
    (h : analyseLightState env state = some result) (place : Nat) :
    Tried ((state.tickScan env).served? = some place) (state.light place)
      (result.1.light place) := by
  rw [analyseLightState_eq h]
  exact (tickScan_serves env state).tried place

theorem length_queuedFor_served {env : LoraEnv} {state : LoraState}
    {result : LoraResult} {place : Nat}
    (h : analyseLightState env state = some result)
    (hserved : (state.tickScan env).served? = some place) :
    (state.queuedFor env .analizeLightState result.2 place).length ≤ 1 := by
  rw [LoraState.queuedFor, if_pos hserved]
  calc (controlPkts result.2).length
      ≤ (sentPkts result.2).length := List.length_filter_le _ _
    _ = 1 := by
        rw [sentPkts_tick h, hserved]
        rfl

theorem queuedFor_of_not_served {env : LoraEnv} {state : LoraState}
    {msg : LoraMsg} {result : LoraResult} {place : Nat}
    (h : dataProcess env state msg = some result)
    (hnot : msg = .analizeLightState →
      (state.tickScan env).served? ≠ some place) :
    state.queuedFor env msg result.2 place = [] := by
  by_cases hmsg : msg = .analizeLightState
  · subst hmsg
    exact if_neg (hnot rfl)
  · have hnone := controlPkts_of_not_tick hmsg h
    cases msg <;> first | exact hnone | exact absurd rfl hmsg

/-- A message that is no tick and no report can only check the connection. -/
theorem light_of_not_tick {env : LoraEnv} {state : LoraState}
    {msg : LoraMsg} {result : LoraResult} {place : Nat}
    (h : dataProcess env state msg = some result)
    (hmsg : msg ≠ .analizeLightState)
    (hreport : state.takesReport msg place = false) :
    result.1.light place = state.light place ∨
      result.1.light place = checkLight (state.light place) := by
  have hacts := dataProcess_lightStep h place
  cases msg with
  | loraRecvData pkt =>
      have hnot : ¬state.ReportsLight pkt place := of_decide_eq_false hreport
      simp only [LightStep, if_neg hnot] at hacts
      exact .inl hacts
  | analizeLightState => exact absurd rfl hmsg
  | checkDeviceConnect =>
      simp only [LightStep] at hacts
      split at hacts
      · exact .inr hacts
      · exact .inl hacts
  | loraRecvTest fd => exact .inl hacts
  | loraConfigNodeByRange fd data => exact .inl hacts
  | loraConfigNodeById fd data => exact .inl hacts
  | loraInitNode fd data => exact .inl hacts

theorem timeLeft_checkLight (light : SingleLightInfo) :
    (checkLight light).timeLeft = light.timeLeft := by
  unfold checkLight
  split
  · rfl
  · split <;> rfl

theorem timeLeft_of_not_tick {env : LoraEnv} {state : LoraState}
    {msg : LoraMsg} {result : LoraResult} {place : Nat}
    (h : dataProcess env state msg = some result)
    (hmsg : msg ≠ .analizeLightState)
    (hreport : state.takesReport msg place = false) :
    (result.1.light place).timeLeft = (state.light place).timeLeft := by
  rcases light_of_not_tick h hmsg hreport with hsame | hcheck
  · rw [hsame]
  · rw [hcheck, timeLeft_checkLight]

theorem offline_stays {env : LoraEnv} {state : LoraState}
    {msg : LoraMsg} {result : LoraResult} {place : Nat}
    (h : dataProcess env state msg = some result)
    (hreport : state.takesReport msg place = false)
    (hoffline : (state.light place).state = nodeStateOffline) :
    (result.1.light place).state = nodeStateOffline := by
  by_cases hmsg : msg = .analizeLightState
  · subst hmsg
    have hscanned : Scanned (state.light place) (result.1.light place) :=
      dataProcess_lightStep h place
    rcases hscanned.state with hsame | hlost
    · rw [hsame, hoffline]
    · exact hlost
  · rcases light_of_not_tick h hmsg hreport with hsame | hcheck
    · rw [hsame, hoffline]
    · rw [hcheck, checkLight, if_pos hoffline, hoffline]

theorem light_after_report {env : LoraEnv} {state : LoraState}
    {msg : LoraMsg} {result : LoraResult} {place : Nat}
    (h : dataProcess env state msg = some result)
    (hreport : state.takesReport msg place = true) :
    (result.1.light place).timeLeft = 10 := by
  have hacts := dataProcess_lightStep h place
  cases msg with
  | loraRecvData pkt =>
      have hreports : state.ReportsLight pkt place := of_decide_eq_true hreport
      simp only [LightStep, if_pos hreports] at hacts
      rw [hacts]
      rfl
  | _ => cases hreport

theorem triesCounted_next {lights : TriedLights} {env : LoraEnv}
    {msg : LoraMsg} {result : LoraResult} (h : TriesCounted lights)
    (hstep : dataProcess env lights.state msg = some result) :
    TriesCounted (lights.next env msg result) := by
  constructor
  · intro place
    have htries := h.tries place
    cases hreport : lights.state.takesReport msg place with
    | true =>
        have hten := light_after_report hstep hreport
        simp [TriedLights.next, hreport, hten]
    | false =>
        simp only [TriedLights.next, hreport, Bool.false_eq_true, if_false]
        by_cases hserved : msg = .analizeLightState ∧
            (lights.state.tickScan env).served? = some place
        · obtain ⟨rfl, hserved⟩ := hserved
          have htried := tried_tick hstep place
          have hone := length_queuedFor_served hstep hserved
          have hleft := htried.tries hserved
          rw [htried.used hserved]
          have hpos : (1 : UInt8).toNat ≤
              (lights.state.light place).timeLeft.toNat := hleft
          rw [UInt8.toNat_sub_of_le _ _ (UInt8.le_iff_toNat_le.mpr hpos)]
          have honeNat : (1 : UInt8).toNat = 1 := rfl
          omega
        · rw [queuedFor_of_not_served hstep fun hmsg hserves =>
            hserved ⟨hmsg, hserves⟩, List.length_nil, Nat.add_zero]
          by_cases hmsg : msg = .analizeLightState
          · subst hmsg
            have htried := tried_tick hstep place
            rw [htried.kept fun hserves => hserved ⟨rfl, hserves⟩]
            exact htries
          · rw [timeLeft_of_not_tick hstep hmsg hreport]
            exact htries
  · intro place hlost
    simp only [TriedLights.next, Bool.or_eq_true, Bool.and_eq_true,
      Bool.not_eq_true', beq_iff_eq] at hlost
    rcases hlost with ⟨hreport, hlost⟩ | hoffline
    · exact offline_stays hstep hreport (h.lost place hlost)
    · exact hoffline

/-! ## Runs -/

theorem triesCounted_run {final : TriedLights} {events : List LightEvent}
    (hrun : Run triedStep (fun _ _ => True) (.load .initial) events final) :
    TriesCounted final := by
  apply hrun.invariant _ (triesCounted_load fun _ => Nat.zero_le 10)
  intro lights event next hlights _ hstep
  cases event with
  | message env msg =>
      obtain ⟨result, hresult, rfl⟩ := Option.map_eq_some_iff.mp hstep
      exact triesCounted_next hlights hresult
  | reload device =>
      simp only [triedStep, Option.some.injEq] at hstep
      subst hstep
      exact triesCounted_load (timeLeft_reload_le _ device)

structure FewCommands (lights : TriedLights) (place : Nat) : Prop where
  ten : lights.commands place ≤ 10
  offline : lights.lost place = true → ∀ env msg result,
    dataProcess env lights.state msg = some result →
      lights.state.queuedFor env msg result.2 place = []

theorem TriesCounted.fewCommands {lights : TriedLights}
    (h : TriesCounted lights) (place : Nat) : FewCommands lights place := by
  constructor
  · exact Nat.le_trans (Nat.le_add_right _ _) (h.tries place)
  · intro hlost env msg result hstep
    apply queuedFor_of_not_served hstep
    rintro rfl hserved
    exact (tried_tick hstep place).online hserved (h.lost place hlost)

theorem controlPkt_queuedFor {env : LoraEnv} {state : LoraState}
    {msg : LoraMsg} {result : LoraResult}
    (hstep : dataProcess env state msg = some result) {pkt : LoraPkt}
    (hpkt : pkt ∈ controlPkts result.2) :
    ∃ place, pkt ∈ state.queuedFor env msg result.2 place ∧
      pkt.nodeId = (state.light place).id := by
  by_cases hmsg : msg = .analizeLightState
  case neg =>
    rw [controlPkts_of_not_tick hmsg hstep] at hpkt
    cases hpkt
  subst hmsg
  have hsent : pkt ∈ sentPkts result.2 := List.mem_of_mem_filter hpkt
  rw [sentPkts_tick hstep, List.mem_map] at hsent
  obtain ⟨place, hplace, rfl⟩ := hsent
  rw [Option.mem_toList] at hplace
  refine ⟨place, ?_, ?_⟩
  · rw [LoraState.queuedFor, if_pos hplace]
    exact hpkt
  · have hscanned : Scanned (state.light place) (result.1.light place) :=
      dataProcess_lightStep hstep place
    rw [nodeId_controlPkt, hscanned.id]

theorem silent_light_tried_at_most_ten {final : TriedLights}
    {events : List LightEvent}
    (hrun : Run triedStep (fun _ _ => True) (.load .initial) events final) :
    (∀ place, FewCommands final place) ∧
      ∀ env msg result, dataProcess env final.state msg = some result →
        ∀ pkt ∈ controlPkts result.2, ∃ place,
          pkt ∈ final.state.queuedFor env msg result.2 place ∧
            pkt.nodeId = (final.state.light place).id :=
  ⟨(triesCounted_run hrun).fewCommands,
    fun _ _ _ hstep _ hpkt => controlPkt_queuedFor hstep hpkt⟩

/-- A light has been sent at most ten commands for each place that its id has
in the list, and none any more when it is lost at all of them. -/
theorem silent_id_tried_at_most_ten {final : TriedLights}
    {events : List LightEvent}
    (hrun : Run triedStep (fun _ _ => True) (.load .initial) events final)
    (id : UInt32) :
    (((List.range final.state.lightNum).filter fun place =>
        (final.state.light place).id = id).map final.commands).sum ≤
      ((List.range final.state.lightNum).filter fun place =>
        (final.state.light place).id = id).length * 10 ∧
      ((∀ place, (final.state.light place).id = id →
          final.lost place = true) →
        ∀ env msg result, dataProcess env final.state msg = some result →
          ∀ pkt ∈ controlPkts result.2, pkt.nodeId ≠ id) := by
  have hcounted := triesCounted_run hrun
  constructor
  · refine (List.sum_le_card_nsmul _ 10 ?_).trans_eq ?_
    · intro commands hcommands
      obtain ⟨place, -, rfl⟩ := List.mem_map.mp hcommands
      exact (hcounted.fewCommands place).ten
    · rw [List.length_map]
      rfl
  · intro hlost env msg result hstep pkt hpkt hid
    obtain ⟨place, hqueued, hplace⟩ := controlPkt_queuedFor hstep hpkt
    rw [(hcounted.fewCommands place).offline
      (hlost place (hplace.symm.trans hid)) env msg result hstep] at hqueued
    cases hqueued

/-- Two lights are loaded, and one tick commands the first of them. -/
def loadAndTick : List LightEvent :=
  [.reload (lightsDevice "7;448\n8;448\n"),
    .message .sample .analizeLightState]

theorem first_light_tried_once :
    ∃ final, Run triedStep (fun _ _ => True) (.load .initial) loadAndTick
      final ∧ final.commands 0 = 1 ∧ FewCommands final 0 := by
  have hafter : (loadAndTick.foldlM triedStep (.load .initial)).map
      (·.commands 0) = some 1 := by
    decide +kernel
  obtain ⟨final, hfinal, hone⟩ := Option.map_eq_some_iff.mp hafter
  have hrun := Run.of_foldlM hfinal
  exact ⟨final, hrun, hone, (silent_light_tried_at_most_ten hrun).1 0⟩

end WncFirmware.Lora
