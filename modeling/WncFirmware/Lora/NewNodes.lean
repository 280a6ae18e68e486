import WncFirmware.Lora.DataProcess

/-!
# Unknown nodes

A node that is in no list of the concentrator is announced in `g_new_node_list`.
For lights, the place where the search ended is compared with the number of
detectors.
-/

namespace WncFirmware.Lora

open WncFirmware.Foundation

/-! ## An announcement -/

def newNode (id : UInt32) (type : NodeDeviceType) : SingleNewNode :=
  { id := id, deviceType := type, timeLeft := newDeviceReportTimes }

inductive Announced (id : UInt32) (type : NodeDeviceType) :
    List SingleNewNode → List SingleNewNode → Prop
  | refreshed (front : List SingleNewNode) (node : SingleNewNode)
      (back : List SingleNewNode) (hid : node.id = id)
      (hfirst : ∀ other ∈ front, other.id ≠ id) :
      Announced id type (front ++ node :: back)
        (front ++ { node with timeLeft := newDeviceReportTimes } :: back)
  | added (nodes : List SingleNewNode) (hnew : ∀ node ∈ nodes, node.id ≠ id)
      (hroom : nodes.length < maxNodeWholeParkingLot) :
      Announced id type nodes (nodes ++ [newNode id type])
  | full (nodes : List SingleNewNode) (hnew : ∀ node ∈ nodes, node.id ≠ id)
      (hfull : maxNodeWholeParkingLot ≤ nodes.length) :
      Announced id type nodes nodes

theorem insertNewDevice_announced (id : UInt32) (type : NodeDeviceType)
    (list : NewNodeList) :
    Announced id type list.node (insertNewDevice id type list).node := by
  unfold insertNewDevice
  split
  case h_1 place hfind =>
    obtain ⟨hplace, hid, hbefore⟩ :=
      List.findIdx?_eq_some_iff_getElem.mp hfind
    have hfirst : ∀ other ∈ list.node.take place, other.id ≠ id := by
      intro other hother
      obtain ⟨position, hposition, rfl⟩ := List.mem_take_iff_getElem.mp hother
      simpa using hbefore position (by omega)
    have hrefreshed := @Announced.refreshed id type (list.node.take place)
      list.node[place] (list.node.drop (place + 1)) (by simpa using hid) hfirst
    rw [List.getElem_cons_drop, List.take_append_drop] at hrefreshed
    dsimp only
    rw [List.modify_eq_take_cons_drop hplace]
    exact hrefreshed
  case h_2 hfind =>
    have hnew : ∀ node ∈ list.node, node.id ≠ id := by
      simpa [List.findIdx?_eq_none_iff] using hfind
    split
    case isTrue hroom => exact .added _ hnew hroom
    case isFalse hroom => exact .full _ hnew (Nat.le_of_not_lt hroom)

def UpToDate (id : UInt32) (nodes : List SingleNewNode) : Prop :=
  match nodes.find? (·.id == id) with
  | some node => node.timeLeft = newDeviceReportTimes
  | none => maxNodeWholeParkingLot ≤ nodes.length

instance (id : UInt32) (nodes : List SingleNewNode) :
    Decidable (UpToDate id nodes) :=
  match h : nodes.find? (·.id == id) with
  | some node => decidable_of_iff (node.timeLeft = newDeviceReportTimes)
      (by rw [UpToDate, h])
  | none => decidable_of_iff (maxNodeWholeParkingLot ≤ nodes.length)
      (by rw [UpToDate, h])

theorem find?_eq_none_of_new {id : UInt32} {nodes : List SingleNewNode}
    (hnew : ∀ node ∈ nodes, node.id ≠ id) :
    nodes.find? (·.id == id) = none := by
  simpa using hnew

theorem Announced.eq_iff {id : UInt32} {type : NodeDeviceType}
    {before after : List SingleNewNode} (h : Announced id type before after) :
    after = before ↔ UpToDate id before := by
  cases h with
  | refreshed front node back hid hfirst =>
      have hfind : (front ++ node :: back).find? (·.id == id) = some node := by
        rw [List.find?_append, find?_eq_none_of_new hfirst, Option.none_or,
          List.find?_cons_of_pos (by simpa using hid)]
      rw [UpToDate, hfind]
      simp only [List.append_cancel_left_eq, List.cons.injEq, and_true]
      constructor
      · intro heq
        exact (congrArg SingleNewNode.timeLeft heq).symm
      · intro htime
        rw [← htime]
  | added _ hnew hroom =>
      rw [UpToDate, find?_eq_none_of_new hnew]
      simpa using hroom
  | full _ hnew hfull =>
      rw [UpToDate, find?_eq_none_of_new hnew]
      simpa using hfull

theorem UpToDate.announced {id : UInt32} {nodes : List SingleNewNode}
    (type : NodeDeviceType) (h : UpToDate id nodes) :
    Announced id type nodes nodes := by
  unfold UpToDate at h
  split at h
  case h_1 node hfind =>
    obtain ⟨hid, front, back, rfl, hfirst⟩ :=
      List.find?_eq_some_iff_append.mp hfind
    have hsame : { node with timeLeft := newDeviceReportTimes } = node := by
      rw [← h]
    have hrefreshed := @Announced.refreshed id type front node back
      (by simpa using hid) (by simpa using hfirst)
    rw [hsame] at hrefreshed
    exact hrefreshed
  case h_2 hfind => exact .full nodes (by simpa using hfind) h

def DistinctIds (nodes : List SingleNewNode) : Prop :=
  (nodes.map SingleNewNode.id).Nodup

theorem Announced.distinctIds {id : UInt32} {type : NodeDeviceType}
    {before after : List SingleNewNode} (h : Announced id type before after)
    (hdistinct : DistinctIds before) : DistinctIds after := by
  cases h with
  | refreshed front node back hid hfirst =>
      simpa [DistinctIds] using hdistinct
  | added _ hnew hroom =>
      rw [DistinctIds, List.map_append]
      refine List.nodup_append.mpr ⟨hdistinct, by simp, ?_⟩
      intro other hother id' hid'
      obtain ⟨node, hnode, rfl⟩ := List.mem_map.mp hother
      have hid'' : id' = id := by simpa [newNode] using hid'
      rw [hid'']
      exact hnew node hnode
  | full _ hnew hfull => exact hdistinct

/-! ## Which nodes are known -/

def KnownDetector (state : LoraState) (id : UInt32) : Prop :=
  ∃ info ∈ state.parkingLists.detectorInfoList.detectorInfo, info.id = id

def KnownLight (state : LoraState) (id : UInt32) : Prop :=
  ∃ place < state.parkingLists.lightInfoList.num,
    (state.parkingLists.lightInfoList.lightInfo place).id = id

instance (state : LoraState) (id : UInt32) :
    Decidable (KnownLight state id) :=
  inferInstanceAs (Decidable (∃ place < _, _))

theorem findDetector?_eq_none_iff (state : LoraState) (id : UInt32) :
    state.findDetector? id = none ↔ ¬KnownDetector state id := by
  unfold LoraState.findDetector? KnownDetector
  dsimp only
  cases hfind : state.parkingLists.detectorInfoList.detectorInfo.findIdx?
      (·.id == id) with
  | none => simpa [List.findIdx?_eq_none_iff] using hfind
  | some place =>
      obtain ⟨hplace, hid, -⟩ := List.findIdx?_eq_some_iff_getElem.mp hfind
      have hknown : ∃ info ∈ state.parkingLists.detectorInfoList.detectorInfo,
          info.id = id := ⟨_, List.getElem_mem hplace, by simpa using hid⟩
      simp [List.getElem?_eq_getElem hplace, hknown]

/-! ## Runs of frames -/

structure ReceiveStep where
  before : LoraState
  pkt : LoraPkt
  after : LoraState

def receiveTrace : LoraState → List (LoraEnv × LoraPkt) → List ReceiveStep
  | _, [] => []
  | state, (env, pkt) :: frames =>
      let next := (analyzeLoraPkt env state pkt).1
      ⟨state, pkt, next⟩ :: receiveTrace next frames

def AnnouncedIff (known : Prop) (id : UInt32) (type : NodeDeviceType)
    (before after : List SingleNewNode) : Prop :=
  (known → after = before) ∧ (¬known → Announced id type before after)

structure ReceiveStep.AnnouncesUnknown (step : ReceiveStep) : Prop where
  detector : step.pkt.cmd? = some .detectorHeartBeat →
    AnnouncedIff (KnownDetector step.before step.pkt.nodeId) step.pkt.nodeId
      .detector step.before.newNodeList.node step.after.newNodeList.node
  light : step.pkt.IsLightReport →
    AnnouncedIff (KnownLight step.before step.pkt.nodeId) step.pkt.nodeId
      .light step.before.newNodeList.node step.after.newNodeList.node
  other : step.pkt.cmd? ≠ some .detectorHeartBeat → ¬step.pkt.IsLightReport →
    step.after.newNodeList.node = step.before.newNodeList.node
  distinct : DistinctIds step.after.newNodeList.node

def ReceiveStep.Misjudged (step : ReceiveStep) : Prop :=
  let lists := step.before.parkingLists
  step.pkt.IsLightReport ∧
    (KnownLight step.before step.pkt.nodeId ↔
      lists.detectorInfoList.detectorInfo.length ≤ lists.lightInfoList.num) ∧
    ¬UpToDate step.pkt.nodeId step.before.newNodeList.node

instance (step : ReceiveStep) : Decidable step.Misjudged :=
  inferInstanceAs (Decidable (_ ∧ (_ ↔ _) ∧ ¬_))

theorem detectorHeartBeat_announces (env : LoraEnv) (state : LoraState)
    (pkt : LoraPkt) :
    AnnouncedIff (KnownDetector state pkt.nodeId) pkt.nodeId .detector
      state.newNodeList.node
      (detectorHeartBeat env state pkt).1.newNodeList.node := by
  unfold detectorHeartBeat
  cases hfind : state.findDetector? pkt.nodeId with
  | none =>
      have hunknown := (findDetector?_eq_none_iff state pkt.nodeId).mp hfind
      exact ⟨fun hknown => absurd hknown hunknown,
        fun _ => insertNewDevice_announced _ _ _⟩
  | some found =>
      have hknown : KnownDetector state pkt.nodeId := by
        by_contra hunknown
        rw [(findDetector?_eq_none_iff state pkt.nodeId).mpr hunknown] at hfind
        cases hfind
      exact ⟨fun _ => rfl, fun hunknown => absurd hknown hunknown⟩

theorem lightReported_announces (state : LoraState) (pkt : LoraPkt) :
    AnnouncedIff (¬state.parkingLists.detectorInfoList.detectorInfo.length ≤
        state.parkingLists.lightInfoList.num) pkt.nodeId .light
      state.newNodeList.node (lightReported state pkt).newNodeList.node := by
  unfold lightReported
  dsimp only
  split
  case isTrue hless =>
    exact ⟨fun hmore => absurd hless hmore,
      fun _ => insertNewDevice_announced _ _ _⟩
  case isFalse hmore => exact ⟨fun _ => rfl, fun hless => absurd hmore hless⟩

/-- Two tests give the same list, if they agree or there is nothing to announce. -/
theorem AnnouncedIff.congr_iff {known judged : Prop} {id : UInt32}
    {type : NodeDeviceType} {before after : List SingleNewNode}
    (h : AnnouncedIff (¬judged) id type before after) :
    AnnouncedIff known id type before after ↔
      ¬((known ↔ judged) ∧ ¬UpToDate id before) := by
  by_cases hjudged : judged
  · have hannounced := h.2 (not_not.mpr hjudged)
    by_cases hknown : known
    · simpa [AnnouncedIff, hknown, hjudged] using hannounced.eq_iff
    · simpa [AnnouncedIff, hknown, hjudged] using hannounced
  · obtain rfl := h.1 hjudged
    by_cases hknown : known
    · simp [AnnouncedIff, hknown, hjudged]
    · have hiff : Announced id type after after ↔ UpToDate id after :=
        ⟨fun hannounced => hannounced.eq_iff.mp rfl,
          fun hcurrent => hcurrent.announced type⟩
      simpa [AnnouncedIff, hknown, hjudged] using hiff

theorem AnnouncedIff.distinctIds {known : Prop} {id : UInt32}
    {type : NodeDeviceType} {before after : List SingleNewNode}
    (h : AnnouncedIff known id type before after)
    (hdistinct : DistinctIds before) : DistinctIds after := by
  by_cases hknown : known
  · rw [h.1 hknown]
    exact hdistinct
  · exact (h.2 hknown).distinctIds hdistinct

theorem newNodeList_analyzeNormalMode_other {env : LoraEnv}
    {state : LoraState} {pkt : LoraPkt}
    (hdetector : pkt.cmd? ≠ some .detectorHeartBeat)
    (hlight : ¬pkt.IsLightReport) :
    (analyzeNormalMode env state pkt).1.newNodeList = state.newNodeList := by
  unfold analyzeNormalMode
  split
  case h_1 hcmd => exact absurd hcmd hdetector
  case h_2 hcmd => exact absurd (.inl hcmd) hlight
  case h_3 hcmd => exact absurd (.inr hcmd) hlight
  case h_4 =>
    unfold nodeOnline
    split <;> rfl
  case h_5 =>
    unfold nodeEnterCfg
    split <;> rfl
  case h_6 => rfl

theorem analyzeNormalMode_announces_iff (env : LoraEnv) (state : LoraState)
    (pkt : LoraPkt) (hdistinct : DistinctIds state.newNodeList.node) :
    let step : ReceiveStep := ⟨state, pkt, (analyzeNormalMode env state pkt).1⟩
    (step.AnnouncesUnknown ↔ ¬step.Misjudged) ∧
      DistinctIds step.after.newNodeList.node := by
  intro step
  by_cases hdetector : pkt.cmd? = some .detectorHeartBeat
  · have hafter : step.after = (detectorHeartBeat env state pkt).1 := by
      simp [step, analyzeNormalMode, hdetector]
    have hlight : ¬pkt.IsLightReport := by
      simp [LoraPkt.IsLightReport, hdetector]
    have hannounced := detectorHeartBeat_announces env state pkt
    rw [← hafter] at hannounced
    have hdone := hannounced.distinctIds hdistinct
    refine ⟨iff_of_true ⟨fun _ => hannounced, ?_, ?_, hdone⟩ ?_, hdone⟩
    · exact fun hreport => absurd hreport hlight
    · exact fun hother => absurd hdetector hother
    · exact fun hwrong => hlight hwrong.1
  · by_cases hlight : pkt.IsLightReport
    · have hafter : step.after = lightReported state pkt := by
        rcases hlight with hcmd | hcmd <;>
          simp [step, analyzeNormalMode, hcmd]
      have hannounced := lightReported_announces state pkt
      rw [← hafter] at hannounced
      have hdone := hannounced.distinctIds hdistinct
      refine ⟨?_, hdone⟩
      have hmisjudged : step.Misjudged ↔ _ := and_iff_right hlight
      rw [hmisjudged, ← hannounced.congr_iff]
      constructor
      · exact fun hright => hright.light hlight
      · intro hright
        exact ⟨fun hcmd => absurd hcmd hdetector, fun _ => hright,
          fun _ hother => absurd hlight hother, hdone⟩
    · have hsame : step.after.newNodeList = state.newNodeList :=
        newNodeList_analyzeNormalMode_other hdetector hlight
      have hdone : DistinctIds step.after.newNodeList.node := by
        rw [hsame]
        exact hdistinct
      refine ⟨iff_of_true ⟨?_, ?_, ?_, hdone⟩ ?_, hdone⟩
      · exact fun hcmd => absurd hcmd hdetector
      · exact fun hreport => absurd hreport hlight
      · intro _ _
        rw [hsame]
      · exact fun hwrong => hlight hwrong.1

theorem receiveTrace_announces_iff {state : LoraState}
    {frames : List (LoraEnv × LoraPkt)}
    (hmode : state.workingMode.mode = .normal)
    (hcrc : ∀ frame ∈ frames, frame.2.crcCorrect = true)
    (hdistinct : DistinctIds state.newNodeList.node) :
    ∀ step ∈ receiveTrace state frames,
      step.AnnouncesUnknown ↔ ¬step.Misjudged := by
  induction frames generalizing state with
  | nil => simp [receiveTrace]
  | cons frame frames ih =>
      have hnext := analyzeLoraPkt_of_hears frame.1
        ⟨hcrc frame List.mem_cons_self, hmode⟩
      obtain ⟨hfirst, hdone⟩ :=
        analyzeNormalMode_announces_iff frame.1 state frame.2 hdistinct
      intro step hstep
      rw [receiveTrace, hnext] at hstep
      rcases List.mem_cons.mp hstep with rfl | hstep
      · exact hfirst
      · refine ih ?_ ?_ hdone step hstep
        · rw [workingMode_analyzeNormalMode]
          exact hmode
        · exact fun later hlater => hcrc later (List.mem_cons_of_mem _ hlater)

theorem only_unknown_announced_iff (state : LoraState)
    (frames : List (LoraEnv × LoraPkt))
    (hmode : state.workingMode.mode = .normal)
    (hcrc : ∀ frame ∈ frames, frame.2.crcCorrect = true)
    (hdistinct : DistinctIds state.newNodeList.node) :
    (∀ step ∈ receiveTrace state frames, step.AnnouncesUnknown) ↔
      ∀ step ∈ receiveTrace state frames, ¬step.Misjudged := by
  have hiff := receiveTrace_announces_iff hmode hcrc hdistinct
  constructor
  · intro hright step hstep
    exact (hiff step hstep).mp (hright step hstep)
  · intro hright step hstep
    exact (hiff step hstep).mpr (hright step hstep)

/-- The light 7 and a number of detectors. -/
def oneLightState (detectors : List SingleDetectorInfo)
    (h : detectors.length ≤ maxDetectorPerWnc) : LoraState :=
  { LoraState.initial with
    parkingLists := { ParkingLists.empty with
      detectorInfoList := ⟨detectors, h⟩
      lightInfoList := ⟨1, fun _ => { id := 7 }, by decide⟩ } }

def lightFrame (id : UInt32) : LoraEnv × LoraPkt :=
  (.sample, nodePkt id .lightHeartBeat [lightColorRed])

theorem known_light_not_announced :
    KnownLight (oneLightState [{ id := 1 }, { id := 2 }] (by decide)) 7 ∧
      ∀ step ∈ receiveTrace (oneLightState [{ id := 1 }, { id := 2 }]
        (by decide)) [lightFrame 7, lightFrame 7], step.AnnouncesUnknown := by
  refine ⟨by decide, ?_⟩
  refine (only_unknown_announced_iff _ _ rfl (by decide +kernel) ?_).mpr ?_
  · exact List.nodup_nil
  · decide +kernel

/-- With one light and one detector, the light itself is announced. -/
theorem known_light_announced :
    ¬∀ step ∈ receiveTrace (oneLightState [{ id := 1 }] (by decide))
      [lightFrame 7], step.AnnouncesUnknown := by
  intro hright
  have hlight := (hright _ List.mem_cons_self).light (.inr (by decide +kernel))
  have hknown := hlight.1 (by decide +kernel)
  revert hknown
  decide +kernel

end WncFirmware.Lora
