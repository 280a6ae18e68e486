import WncFirmware.Lora.Accounting
import WncFirmware.Lora.LightScan

/-!
# Reports of the nodes

What a message of the data process thread does to the record of one detector
and of one light, as far as other parts of the firmware look at it: the state,
the minutes since the last report and the flag for the server.
-/

namespace WncFirmware.Lora

open WncFirmware.Foundation

/-! ## Detectors -/

def LoraState.ReportsDetector (state : LoraState) (pkt : LoraPkt)
    (place : Nat) : Prop :=
  state.Hears pkt ∧ pkt.cmd? = some .detectorHeartBeat ∧
    (state.findDetector? pkt.nodeId).map Prod.fst = some place

instance (state : LoraState) (pkt : LoraPkt) (place : Nat) :
    Decidable (state.ReportsDetector pkt place) :=
  inferInstanceAs (Decidable (_ ∧ _ ∧ _))

structure SameStatus (before after : SingleDetectorInfo) : Prop where
  state : after.state = before.state
  interval : after.interval = before.interval
  isParkStateChanged : after.isParkStateChanged = before.isParkStateChanged
  offlineTime : after.offlineTime = before.offlineTime

theorem SameStatus.refl (info : SingleDetectorInfo) : SameStatus info info :=
  ⟨rfl, rfl, rfl, rfl⟩

structure Heard (pkt : LoraPkt) (before after : SingleDetectorInfo) :
    Prop where
  state : after.state = byteAt pkt.payload 5 >>> 7
  interval : after.interval = 0
  isParkStateChanged : after.isParkStateChanged =
    (decide (after.state ≠ before.state) || before.isParkStateChanged)
  offlineTime : after.offlineTime = before.offlineTime

theorem heard_heartBeatRecord (pkt : LoraPkt) (info : SingleDetectorInfo) :
    Heard pkt info (heartBeatRecord pkt info) := by
  have hcounted : ∀ record cnt,
      (countPacket record cnt).offlineTime = record.offlineTime := by
    intro record cnt
    unfold countPacket
    split <;> rfl
  constructor
  · rfl
  · rfl
  · rfl
  · exact hcounted _ _

theorem detectors_lightReported (state : LoraState) (pkt : LoraPkt) :
    (lightReported state pkt).detectors = state.detectors := by
  dsimp only [lightReported]
  split <;> rfl

def DetectorStep (state : LoraState) (msg : LoraMsg) (place : Nat)
    (before after : SingleDetectorInfo) : Prop :=
  match msg with
  | .loraRecvData pkt =>
      if state.ReportsDetector pkt place then Heard pkt before after
      else SameStatus before after
  | .checkDeviceConnect => after = (checkDetector place before).1
  | _ => SameStatus before after

theorem detectors_modifyDetector {state : LoraState} {place position : Nat}
    {change : SingleDetectorInfo → SingleDetectorInfo}
    {after : SingleDetectorInfo}
    (h : (state.modifyDetector place change).detectors[position]? =
      some after) :
    ∃ before, state.detectors[position]? = some before ∧
      after = if place = position then change before else before := by
  have hmodify : (state.detectors.modify place change)[position]? =
    some after := h
  rw [List.getElem?_modify] at hmodify
  obtain ⟨before, hbefore, rfl⟩ := Option.map_eq_some_iff.mp hmodify
  exact ⟨before, hbefore, by split <;> rfl⟩

theorem detectorStep_quiet {state : LoraState} {pkt : LoraPkt} {place : Nat}
    {before after : SingleDetectorInfo}
    (hquiet : ¬state.ReportsDetector pkt place)
    (hsame : SameStatus before after) :
    DetectorStep state (.loraRecvData pkt) place before after := by
  rw [DetectorStep, if_neg hquiet]
  exact hsame

/-- The frames that are no heartbeat change one record, but not its status. -/
theorem detectorStep_modify {state : LoraState} {pkt : LoraPkt}
    {place position : Nat} {change : SingleDetectorInfo → SingleDetectorInfo}
    {after : SingleDetectorInfo}
    (hquiet : ¬state.ReportsDetector pkt position)
    (h : (state.modifyDetector place change).detectors[position]? =
      some after)
    (hchange : ∀ info, SameStatus info (change info)) :
    ∃ before, state.detectors[position]? = some before ∧
      DetectorStep state (.loraRecvData pkt) position before after := by
  obtain ⟨before, hbefore, rfl⟩ := detectors_modifyDetector h
  refine ⟨before, hbefore, detectorStep_quiet hquiet ?_⟩
  split
  · exact hchange before
  · exact .refl before

theorem detectorStep_heartBeat {env : LoraEnv} {state : LoraState}
    {pkt : LoraPkt} {position : Nat} {after : SingleDetectorInfo}
    (hhears : state.Hears pkt) (hcmd : pkt.cmd? = some .detectorHeartBeat)
    (h : (detectorHeartBeat env state pkt).1.detectors[position]? =
      some after) :
    ∃ before, state.detectors[position]? = some before ∧
      DetectorStep state (.loraRecvData pkt) position before after := by
  unfold detectorHeartBeat at h
  split at h
  case h_1 place info hfind =>
    obtain ⟨before, hbefore, rfl⟩ := detectors_modifyDetector h
    refine ⟨before, hbefore, ?_⟩
    have hreports : state.ReportsDetector pkt position ↔ place = position := by
      simp [LoraState.ReportsDetector, hhears, hcmd, hfind]
    by_cases hplace : place = position
    · rw [DetectorStep, if_pos (hreports.mpr hplace), if_pos hplace]
      exact heard_heartBeatRecord pkt before
    · rw [if_neg hplace]
      exact detectorStep_quiet (hplace ∘ hreports.mp) (.refl before)
  case h_2 hfind =>
    refine ⟨after, h, detectorStep_quiet ?_ (.refl after)⟩
    simp [LoraState.ReportsDetector, hfind]

theorem detectorStep_frame {env : LoraEnv} {state : LoraState} {pkt : LoraPkt}
    {place : Nat} {after : SingleDetectorInfo}
    (h : (analyzeLoraPkt env state pkt).1.detectors[place]? = some after) :
    ∃ before, state.detectors[place]? = some before ∧
      DetectorStep state (.loraRecvData pkt) place before after := by
  by_cases hhears : state.Hears pkt
  case neg =>
    rw [LoraState.detectors, (sameLists_of_not_hears env hhears).1] at h
    exact ⟨after, h, detectorStep_quiet (fun hreports => hhears hreports.1)
      (.refl after)⟩
  rw [analyzeLoraPkt_of_hears env hhears] at h
  by_cases hcmd : pkt.cmd? = some .detectorHeartBeat
  · simp only [analyzeNormalMode, hcmd] at h
    exact detectorStep_heartBeat hhears hcmd h
  have hquiet : ¬state.ReportsDetector pkt place :=
    fun hreports => hcmd hreports.2.1
  unfold analyzeNormalMode at h
  split at h
  case h_1 hheartBeat => exact absurd hheartBeat hcmd
  case h_4 =>
    unfold nodeOnline at h
    split at h
    · exact detectorStep_modify hquiet h fun _ => ⟨rfl, rfl, rfl, rfl⟩
    · exact ⟨after, h, detectorStep_quiet hquiet (.refl after)⟩
  case h_5 =>
    unfold nodeEnterCfg at h
    split at h
    · exact detectorStep_modify hquiet h fun _ => ⟨rfl, rfl, rfl, rfl⟩
    · exact ⟨after, h, detectorStep_quiet hquiet (.refl after)⟩
  case h_6 => exact ⟨after, h, detectorStep_quiet hquiet (.refl after)⟩
  all_goals
    rw [detectors_lightReported] at h
    exact ⟨after, h, detectorStep_quiet hquiet (.refl after)⟩

theorem detectorStep_check {state : LoraState} {place : Nat}
    {after : SingleDetectorInfo}
    (h : (checkLoraNodeConnect state).1.detectors[place]? = some after) :
    ∃ before, state.detectors[place]? = some before ∧
      after = (checkDetector place before).1 := by
  have hchecked : ((state.detectors.mapIdx checkDetector).map Prod.fst)[place]?
    = some after := h
  simp only [List.getElem?_map, List.getElem?_mapIdx, Option.map_map,
    Option.map_eq_some_iff] at hchecked
  obtain ⟨before, hbefore, rfl⟩ := hchecked
  exact ⟨before, hbefore, rfl⟩

theorem dataProcess_detectorStep {env : LoraEnv} {state : LoraState}
    {msg : LoraMsg} {result : LoraResult}
    (h : dataProcess env state msg = some result) {place : Nat}
    {after : SingleDetectorInfo}
    (hafter : result.1.detectors[place]? = some after) :
    ∃ before, state.detectors[place]? = some before ∧
      DetectorStep state msg place before after := by
  by_cases hrequest : msg.isRequest = true
  · rw [LoraState.detectors, (sameLists_of_request hrequest h).1] at hafter
    refine ⟨after, hafter, ?_⟩
    cases msg <;> first | exact .refl after | cases hrequest
  cases msg with
  | loraRecvData pkt =>
      cases h
      exact detectorStep_frame hafter
  | analizeLightState =>
      rw [analyseLightState_detectors h] at hafter
      exact ⟨after, hafter, .refl after⟩
  | checkDeviceConnect =>
      cases h
      exact detectorStep_check hafter
  | loraRecvTest fd => exact absurd rfl hrequest
  | loraConfigNodeByRange fd data => exact absurd rfl hrequest
  | loraConfigNodeById fd data => exact absurd rfl hrequest
  | loraInitNode fd data => exact absurd rfl hrequest

theorem detectorStep_of_records {env : LoraEnv} {state : LoraState}
    {msg : LoraMsg} {result : LoraResult}
    (h : dataProcess env state msg = some result) {place : Nat}
    {before after : SingleDetectorInfo}
    (hbefore : state.detectors[place]? = some before)
    (hafter : result.1.detectors[place]? = some after) :
    DetectorStep state msg place before after := by
  obtain ⟨record, hrecord, hacts⟩ := dataProcess_detectorStep h hafter
  obtain rfl : before = record := Option.some.inj (hbefore.symm.trans hrecord)
  exact hacts

/-! ## Lights -/

def LoraState.light (state : LoraState) (place : Nat) : SingleLightInfo :=
  state.parkingLists.lightInfoList.lightInfo place

def LoraState.ReportsLight (state : LoraState) (pkt : LoraPkt)
    (place : Nat) : Prop :=
  state.Hears pkt ∧ pkt.IsLightReport ∧ place < state.lightNum ∧
    (state.light place).id = pkt.nodeId

instance (state : LoraState) (pkt : LoraPkt) (place : Nat) :
    Decidable (state.ReportsLight pkt place) :=
  inferInstanceAs (Decidable (_ ∧ _ ∧ _ ∧ _))

def LightStep (state : LoraState) (msg : LoraMsg) (place : Nat)
    (before after : SingleLightInfo) : Prop :=
  match msg with
  | .loraRecvData pkt =>
      after = if state.ReportsLight pkt place then
        refreshLightInfo (lightReport pkt) before else before
  | .checkDeviceConnect =>
      after = if place < state.lightNum then checkLight before else before
  | .analizeLightState => Scanned before after
  | _ => after = before

theorem light_lightReported (state : LoraState) (pkt : LoraPkt) (place : Nat) :
    (lightReported state pkt).light place =
      if place < state.lightNum ∧ (state.light place).id = pkt.nodeId then
        refreshLightInfo (lightReport pkt) (state.light place)
      else state.light place := by
  dsimp only [lightReported]
  split <;> rfl

theorem light_of_not_report (env : LoraEnv) {state : LoraState} {pkt : LoraPkt}
    (h : ¬pkt.IsLightReport) (place : Nat) :
    (analyzeNormalMode env state pkt).1.light place = state.light place := by
  unfold analyzeNormalMode
  split
  case h_1 =>
    unfold detectorHeartBeat
    split <;> rfl
  case h_2 hcmd => exact absurd (.inl hcmd) h
  case h_3 hcmd => exact absurd (.inr hcmd) h
  case h_4 =>
    unfold nodeOnline
    split <;> rfl
  case h_5 =>
    unfold nodeEnterCfg
    split <;> rfl
  case h_6 => rfl

theorem light_frame (env : LoraEnv) (state : LoraState) (pkt : LoraPkt)
    (place : Nat) :
    (analyzeLoraPkt env state pkt).1.light place =
      if state.ReportsLight pkt place then
        refreshLightInfo (lightReport pkt) (state.light place)
      else state.light place := by
  by_cases hhears : state.Hears pkt
  case neg =>
    rw [if_neg (fun h => hhears h.1), LoraState.light,
      (sameLists_of_not_hears env hhears).1]
    rfl
  rw [analyzeLoraPkt_of_hears env hhears]
  by_cases hreport : pkt.IsLightReport
  · have hnormal : analyzeNormalMode env state pkt =
        (lightReported state pkt, []) := by
      rcases hreport with hcmd | hcmd <;> simp [analyzeNormalMode, hcmd]
    rw [hnormal, light_lightReported]
    simp [LoraState.ReportsLight, hhears, hreport]
  · rw [if_neg (fun h => hreport h.2.1), light_of_not_report env hreport]

theorem dataProcess_lightStep {env : LoraEnv} {state : LoraState}
    {msg : LoraMsg} {result : LoraResult}
    (h : dataProcess env state msg = some result) (place : Nat) :
    LightStep state msg place (state.light place) (result.1.light place) := by
  by_cases hrequest : msg.isRequest = true
  · rw [LoraState.light, LoraState.light, (sameLists_of_request hrequest h).1]
    cases msg <;> first | exact rfl | cases hrequest
  cases msg with
  | loraRecvData pkt =>
      cases h
      exact light_frame env state pkt place
  | analizeLightState =>
      rw [analyseLightState_eq h]
      exact scanLoop_scanned _ _ _ _ place
  | checkDeviceConnect =>
      cases h
      rfl
  | loraRecvTest fd => exact absurd rfl hrequest
  | loraConfigNodeByRange fd data => exact absurd rfl hrequest
  | loraConfigNodeById fd data => exact absurd rfl hrequest
  | loraInitNode fd data => exact absurd rfl hrequest

end WncFirmware.Lora
