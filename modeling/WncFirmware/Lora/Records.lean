import WncFirmware.Lora.Reports

/-!
# Steps of a detector record

The five ways in which a message of the data process thread can change the
record of a detector, as a whole.
-/

namespace WncFirmware.Lora

open WncFirmware.Foundation

def LoraState.RestartsDetector (state : LoraState) (pkt : LoraPkt)
    (place : Nat) : Prop :=
  state.Hears pkt ∧ pkt.cmd? = some .nodeOnline ∧
    (state.findDetector? pkt.nodeId).map Prod.fst = some place

instance (state : LoraState) (pkt : LoraPkt) (place : Nat) :
    Decidable (state.RestartsDetector pkt place) :=
  inferInstanceAs (Decidable (_ ∧ _ ∧ _))

def LoraState.reportedBy (state : LoraState) (place : Nat) :
    LoraMsg → Option LoraPkt
  | .loraRecvData pkt =>
      if state.ReportsDetector pkt place then some pkt else none
  | _ => none

def LoraState.restartedBy (state : LoraState) (place : Nat) : LoraMsg → Bool
  | .loraRecvData pkt => decide (state.RestartsDetector pkt place)
  | _ => false

inductive RecordStep (state : LoraState) (msg : LoraMsg) (place : Nat)
    (before : SingleDetectorInfo) : SingleDetectorInfo → Prop
  | same (hreport : state.reportedBy place msg = none)
      (hrestart : state.restartedBy place msg = false) :
      RecordStep state msg place before before
  | heartBeat (pkt : LoraPkt) (hreport : state.reportedBy place msg = some pkt)
      (hrestart : state.restartedBy place msg = false) :
      RecordStep state msg place before (heartBeatRecord pkt before)
  | restart (hreport : state.reportedBy place msg = none)
      (hrestart : state.restartedBy place msg = true) :
      RecordStep state msg place before (restartDetector before)
  | enterCfg (hreport : state.reportedBy place msg = none)
      (hrestart : state.restartedBy place msg = false) :
      RecordStep state msg place before { before with isInConfig := true }
  | check (hreport : state.reportedBy place msg = none)
      (hrestart : state.restartedBy place msg = false) :
      RecordStep state msg place before (checkDetector place before).1

theorem reportedBy_of_cmd {state : LoraState} {pkt : LoraPkt}
    (h : pkt.cmd? ≠ some .detectorHeartBeat) (place : Nat) :
    state.reportedBy place (.loraRecvData pkt) = none :=
  if_neg fun hreports => h hreports.2.1

theorem restartedBy_of_cmd {state : LoraState} {pkt : LoraPkt}
    (h : pkt.cmd? ≠ some .nodeOnline) (place : Nat) :
    state.restartedBy place (.loraRecvData pkt) = false :=
  decide_eq_false fun hrestarts => h hrestarts.2.1

theorem recordStep_quiet {state : LoraState} {pkt : LoraPkt} {place : Nat}
    {record : SingleDetectorInfo}
    (hreport : ¬state.ReportsDetector pkt place)
    (hrestart : ¬state.RestartsDetector pkt place) :
    RecordStep state (.loraRecvData pkt) place record record :=
  .same (if_neg hreport) (decide_eq_false hrestart)

theorem recordStep_heartBeat {env : LoraEnv} {state : LoraState}
    {pkt : LoraPkt} {position : Nat} {after : SingleDetectorInfo}
    (hhears : state.Hears pkt) (hcmd : pkt.cmd? = some .detectorHeartBeat)
    (h : (detectorHeartBeat env state pkt).1.detectors[position]? =
      some after) :
    ∃ before, state.detectors[position]? = some before ∧
      RecordStep state (.loraRecvData pkt) position before after := by
  have hrestart : ¬state.RestartsDetector pkt position := by
    simp [LoraState.RestartsDetector, hcmd]
  unfold detectorHeartBeat at h
  split at h
  case h_1 place info hfind =>
    obtain ⟨before, hbefore, rfl⟩ := detectors_modifyDetector h
    refine ⟨before, hbefore, ?_⟩
    have hreports : state.ReportsDetector pkt position ↔ place = position := by
      simp [LoraState.ReportsDetector, hhears, hcmd, hfind]
    by_cases hplace : place = position
    · rw [if_pos hplace]
      exact .heartBeat pkt (if_pos (hreports.mpr hplace))
        (decide_eq_false hrestart)
    · rw [if_neg hplace]
      exact recordStep_quiet (hplace ∘ hreports.mp) hrestart
  case h_2 hfind =>
    refine ⟨after, h, recordStep_quiet ?_ hrestart⟩
    simp [LoraState.ReportsDetector, hfind]

theorem recordStep_online {state : LoraState} {pkt : LoraPkt} {position : Nat}
    {after : SingleDetectorInfo} (hhears : state.Hears pkt)
    (hcmd : pkt.cmd? = some .nodeOnline)
    (h : (nodeOnline state pkt).1.detectors[position]? = some after) :
    ∃ before, state.detectors[position]? = some before ∧
      RecordStep state (.loraRecvData pkt) position before after := by
  have hreport : ¬state.ReportsDetector pkt position := by
    simp [LoraState.ReportsDetector, hcmd]
  unfold nodeOnline at h
  split at h
  case h_1 place info hfind =>
    obtain ⟨before, hbefore, rfl⟩ := detectors_modifyDetector h
    refine ⟨before, hbefore, ?_⟩
    have hrestarts : state.RestartsDetector pkt position ↔
        place = position := by
      simp [LoraState.RestartsDetector, hhears, hcmd, hfind]
    by_cases hplace : place = position
    · rw [if_pos hplace]
      exact .restart (if_neg hreport) (decide_eq_true (hrestarts.mpr hplace))
    · rw [if_neg hplace]
      exact recordStep_quiet hreport (hplace ∘ hrestarts.mp)
  case h_2 hfind =>
    refine ⟨after, h, recordStep_quiet hreport ?_⟩
    simp [LoraState.RestartsDetector, hfind]

theorem recordStep_enterCfg {state : LoraState} {pkt : LoraPkt}
    {position : Nat} {after : SingleDetectorInfo}
    (hcmd : pkt.cmd? = some .nodeEnterCfg)
    (h : (nodeEnterCfg state pkt).1.detectors[position]? = some after) :
    ∃ before, state.detectors[position]? = some before ∧
      RecordStep state (.loraRecvData pkt) position before after := by
  have hreport := @reportedBy_of_cmd state pkt (by simp [hcmd]) position
  have hrestart := @restartedBy_of_cmd state pkt (by simp [hcmd]) position
  unfold nodeEnterCfg at h
  split at h
  case h_1 place info hfind =>
    obtain ⟨before, hbefore, rfl⟩ := detectors_modifyDetector h
    refine ⟨before, hbefore, ?_⟩
    split
    · exact .enterCfg hreport hrestart
    · exact .same hreport hrestart
  case h_2 => exact ⟨after, h, .same hreport hrestart⟩

theorem recordStep_frame {env : LoraEnv} {state : LoraState} {pkt : LoraPkt}
    {place : Nat} {after : SingleDetectorInfo}
    (h : (analyzeLoraPkt env state pkt).1.detectors[place]? = some after) :
    ∃ before, state.detectors[place]? = some before ∧
      RecordStep state (.loraRecvData pkt) place before after := by
  by_cases hhears : state.Hears pkt
  case neg =>
    rw [LoraState.detectors, (sameLists_of_not_hears env hhears).1] at h
    exact ⟨after, h, recordStep_quiet (fun hreports => hhears hreports.1)
      (fun hrestarts => hhears hrestarts.1)⟩
  rw [analyzeLoraPkt_of_hears env hhears] at h
  unfold analyzeNormalMode at h
  split at h
  case h_1 hcmd => exact recordStep_heartBeat hhears hcmd h
  case h_4 hcmd => exact recordStep_online hhears hcmd h
  case h_5 hcmd => exact recordStep_enterCfg hcmd h
  case h_2 hcmd =>
    rw [detectors_lightReported] at h
    exact ⟨after, h, .same (reportedBy_of_cmd (by simp [hcmd]) place)
      (restartedBy_of_cmd (by simp [hcmd]) place)⟩
  case h_3 hcmd =>
    rw [detectors_lightReported] at h
    exact ⟨after, h, .same (reportedBy_of_cmd (by simp [hcmd]) place)
      (restartedBy_of_cmd (by simp [hcmd]) place)⟩
  case h_6 hheartBeat hresponse hlight honline hcfg =>
    exact ⟨after, h, .same (reportedBy_of_cmd hheartBeat place)
      (restartedBy_of_cmd honline place)⟩

theorem dataProcess_recordStep {env : LoraEnv} {state : LoraState}
    {msg : LoraMsg} {result : LoraResult}
    (h : dataProcess env state msg = some result) {place : Nat}
    {after : SingleDetectorInfo}
    (hafter : result.1.detectors[place]? = some after) :
    ∃ before, state.detectors[place]? = some before ∧
      RecordStep state msg place before after := by
  by_cases hrequest : msg.isRequest = true
  · rw [LoraState.detectors, (sameLists_of_request hrequest h).1] at hafter
    refine ⟨after, hafter, ?_⟩
    cases msg <;> first | exact .same rfl rfl | cases hrequest
  cases msg with
  | loraRecvData pkt =>
      cases h
      exact recordStep_frame hafter
  | analizeLightState =>
      rw [analyseLightState_detectors h] at hafter
      exact ⟨after, hafter, .same rfl rfl⟩
  | checkDeviceConnect =>
      cases h
      obtain ⟨before, hbefore, rfl⟩ := detectorStep_check hafter
      exact ⟨before, hbefore, .check rfl rfl⟩
  | loraRecvTest fd => exact absurd rfl hrequest
  | loraConfigNodeByRange fd data => exact absurd rfl hrequest
  | loraConfigNodeById fd data => exact absurd rfl hrequest
  | loraInitNode fd data => exact absurd rfl hrequest

end WncFirmware.Lora
