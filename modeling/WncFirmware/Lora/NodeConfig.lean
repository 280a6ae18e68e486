import WncFirmware.Lora.DataProcess

/-!
# Configuration of nodes

`config_lora_node` goes through the whole list of nodes.  When it reports a node
it swaps the bytes of the id that it compares the entries with, so that the same
frame can finish a second entry with the swapped id.
-/

namespace WncFirmware.Lora

open WncFirmware.Foundation WncFirmware.Tcp

/-! ## What a reply says -/

def replyPayload (frame : Bytes) : Bytes :=
  slice frame headerSize (headerDataLen frame)

def sentFrames (effects : List LoraEffect) : List Bytes :=
  effects.filterMap fun effect =>
    match effect with
    | .tcpSend _ frame => some frame
    | _ => none

@[simp] theorem sentFrames_nil : sentFrames [] = [] := rfl

@[simp] theorem sentFrames_append (first second : List LoraEffect) :
    sentFrames (first ++ second) = sentFrames first ++ sentFrames second :=
  List.filterMap_append

def reports (effects : List LoraEffect) : List Bytes :=
  (sentFrames effects).map replyPayload

theorem reports_append (first second : List LoraEffect) :
    reports (first ++ second) = reports first ++ reports second := by
  simp [reports]

theorem pointed_localData (env : LoraEnv) (bytes : Bytes) :
    pointed (localData env bytes) bytes.length = bytes := by
  apply bytes_ext (by simp)
  intro index hindex
  rw [length_pointed] at hindex
  simp [pointed, localData, byteAt, List.getD_eq_getElem?_getD, hindex]

theorem reports_report {bytes : Bytes} (env : LoraEnv) (state : LoraState)
    (fd : Int) (cmd : UInt8) (h : bytes.length < 65536) :
    reports (report env state fd cmd bytes).2 = [bytes] := by
  simp [reports, sentFrames, report, sendTcp, replyPayload,
    headerDataLen_loraSendTcpData _ _ _ _ _ h, slice_loraSendTcpData,
    pointed_localData]

/-! ## The loop over the list -/

/-- The two acknowledgements that finish a node. -/
def LoraPkt.Finishes (pkt : LoraPkt) : Prop :=
  pkt.cmd? = some .setFreq ∨ pkt.cmd? = some .initParams

instance (pkt : LoraPkt) : Decidable pkt.Finishes :=
  inferInstanceAs (Decidable (_ ∨ _))

def markEntries (id : UInt32) :
    List SingleConfigNode → List SingleConfigNode
  | [] => []
  | node :: nodes =>
      if id = node.id ∧ node.done = false then
        { node with done := true } :: markEntries (swapBytes id) nodes
      else node :: markEntries id nodes

/-- The entries, from `place` on, that are not done before and done afterwards. -/
def turnedDone :
    Nat → List SingleConfigNode → List SingleConfigNode → List (Nat × UInt32)
  | place, before :: befores, after :: afters =>
      let later := turnedDone (place + 1) befores afters
      if before.done = false ∧ after.done = true then
        (place, before.id) :: later
      else later
  | _, _, _ => []

theorem turnedDone_self (place : Nat) (nodes : List SingleConfigNode) :
    turnedDone place nodes nodes = [] := by
  induction nodes generalizing place with
  | nil => rfl
  | cons node nodes ih => cases hdone : node.done <;> simp [turnedDone, ih, hdone]

structure ConfigLoop (env : LoraEnv) (state : LoraState)
    (front before after : List SingleConfigNode) (result : LoraResult) :
    Prop where
  node_eq : result.1.configNodeList.node = front ++ after
  mode_eq : result.1.workingMode.mode = state.workingMode.mode
  reports_eq : reports result.2 =
    (turnedDone front.length before after).map fun (_, id) => networkOrder32 id

theorem node_setDone {list : ConfigNodeList}
    {front nodes : List SingleConfigNode} {node : SingleConfigNode}
    (hlist : list.node = front ++ node :: nodes) :
    (setDone list front.length).node =
      front ++ { node with done := true } :: nodes := by
  have hplace : front.length < (front ++ node :: nodes).length := by simp
  dsimp only [setDone]
  rw [hlist, List.modify_eq_take_cons_drop hplace]
  simp

theorem configEntry_finishes {pkt : LoraPkt} {state : LoraState}
    {front nodes : List SingleConfigNode} {node : SingleConfigNode}
    (env : LoraEnv) (id : UInt32) (hfinishes : pkt.Finishes)
    (hlist : state.configNodeList.node = front ++ node :: nodes) :
    let result := configEntry env pkt id state front.length
    result.1.configNodeList.node = front ++ { node with done := true } :: nodes ∧
      result.1.workingMode.mode = state.workingMode.mode ∧
      reports result.2 = [networkOrder32 id] ∧
      idAfter pkt id = swapBytes id := by
  have hlength : (networkOrder32 id).length < 65536 := by
    simp [networkOrder32, littleEndian32]
  rcases hfinishes with hcmd | hcmd
  · refine ⟨?_, ?_, ?_, ?_⟩
    · simpa [configEntry, hcmd, report, sendTcp] using node_setDone hlist
    · simp [configEntry, hcmd, report, sendTcp]
    · simp only [configEntry, hcmd]
      exact reports_report _ _ _ _ hlength
    · simp [idAfter, hcmd]
  · refine ⟨?_, ?_, ?_, ?_⟩
    · simpa [configEntry, hcmd, report, sendTcp] using node_setDone hlist
    · simp [configEntry, hcmd, report, sendTcp]
    · simp only [configEntry, hcmd]
      exact reports_report _ _ _ _ hlength
    · simp [idAfter, hcmd]

theorem configEntries_finishes {env : LoraEnv} {pkt : LoraPkt}
    (hfinishes : pkt.Finishes) (id : UInt32) (state : LoraState)
    (front nodes : List SingleConfigNode)
    (hlist : state.configNodeList.node = front ++ nodes) :
    ConfigLoop env state front nodes (markEntries id nodes)
      (configEntries env pkt nodes.length front.length id state) := by
  induction nodes generalizing front id state with
  | nil => exact ⟨hlist, rfl, rfl⟩
  | cons node nodes ih =>
      have hnode : state.configNodeList.node[front.length]? = some node := by
        simp [hlist]
      rw [List.length_cons, configEntries, hnode]
      dsimp only
      by_cases hmatch : id = node.id ∧ node.done = false
      · obtain ⟨hnext, hmode, hreport, hid⟩ :=
          configEntry_finishes env id hfinishes hlist
        have hlater := ih (swapBytes id) _ (front ++ [{ node with done := true }])
          (by rw [List.append_assoc]; exact hnext)
        rw [if_pos hmatch, markEntries, if_pos hmatch, hid]
        rw [List.length_append, List.length_singleton] at hlater
        constructor
        · rw [hlater.node_eq, List.append_assoc]
          rfl
        · exact hlater.mode_eq.trans hmode
        · have hreports := hlater.reports_eq
          rw [List.length_append, List.length_singleton] at hreports
          rw [reports_append, hreport, hreports, turnedDone,
            if_pos ⟨hmatch.2, rfl⟩, List.map_cons, hmatch.1]
          rfl
      · have hlater := ih id state (front ++ [node])
          (by rw [List.append_assoc]; exact hlist)
        rw [if_neg hmatch, markEntries, if_neg hmatch]
        rw [List.length_append, List.length_singleton] at hlater
        constructor
        · rw [hlater.node_eq, List.append_assoc]
          rfl
        · exact hlater.mode_eq
        · have hreports := hlater.reports_eq
          rw [List.length_append, List.length_singleton] at hreports
          rw [hreports, turnedDone, if_neg (by simp)]

theorem configEntry_answers {pkt : LoraPkt} (hfinishes : ¬pkt.Finishes)
    (env : LoraEnv) (id : UInt32) (state : LoraState) (place : Nat) :
    (configEntry env pkt id state place).1 = state ∧
      reports (configEntry env pkt id state place).2 = [] := by
  simp only [LoraPkt.Finishes, not_or] at hfinishes
  unfold configEntry
  split
  case h_3 hcmd => exact absurd hcmd hfinishes.1
  case h_4 hcmd => exact absurd hcmd hfinishes.2
  all_goals exact ⟨rfl, rfl⟩

theorem configEntries_answers {pkt : LoraPkt} (hfinishes : ¬pkt.Finishes)
    (env : LoraEnv) (left place : Nat) (id : UInt32) (state : LoraState) :
    (configEntries env pkt left place id state).1 = state ∧
      reports (configEntries env pkt left place id state).2 = [] := by
  induction left generalizing place id with
  | zero => exact ⟨rfl, rfl⟩
  | succ left ih =>
      rw [configEntries]
      split
      · exact ⟨rfl, rfl⟩
      · split
        · obtain ⟨hstate, hreports⟩ :=
            configEntry_answers hfinishes env id state place
          dsimp only
          rw [hstate, reports_append, hreports]
          exact ih (place + 1) (idAfter pkt id)
        · exact ih (place + 1) id

def nodesAfter (pkt : LoraPkt) (nodes : List SingleConfigNode) :
    List SingleConfigNode :=
  if pkt.Finishes then markEntries pkt.nodeId nodes else nodes

theorem configLoraNode_loop (env : LoraEnv) (state : LoraState)
    (pkt : LoraPkt) :
    ConfigLoop env state [] state.configNodeList.node
      (nodesAfter pkt state.configNodeList.node)
      (configLoraNode env state pkt) := by
  unfold nodesAfter
  split
  case isTrue hfinishes =>
    exact configEntries_finishes hfinishes pkt.nodeId state []
      state.configNodeList.node rfl
  case isFalse hfinishes =>
    obtain ⟨hstate, hreports⟩ := configEntries_answers hfinishes env
      state.configNodeList.node.length 0 pkt.nodeId state
    refine ⟨?_, ?_, ?_⟩
    · rw [configLoraNode, hstate]
      rfl
    · rw [configLoraNode, hstate]
    · rw [configLoraNode, hreports, turnedDone_self]
      rfl

/-! ## Which entries a frame finishes -/

/-- An entry is left alone, or it is finished. -/
def Finished (id : UInt32) (before after : SingleConfigNode) : Prop :=
  before.id = id ∧ before.done = false ∧ after = { before with done := true }

/-- The list holds the id, and behind it the swapped id, neither of them done. -/
def SwappedBehind (id : UInt32) (nodes : List SingleConfigNode) : Prop :=
  swapBytes id ≠ id ∧ [⟨id, false⟩, ⟨swapBytes id, false⟩].Sublist nodes

instance (id : UInt32) (nodes : List SingleConfigNode) :
    Decidable (SwappedBehind id nodes) :=
  inferInstanceAs (Decidable (_ ∧ _))

theorem markEntries_of_not_mem {id : UInt32} {nodes : List SingleConfigNode}
    (h : ⟨id, false⟩ ∉ nodes) : markEntries id nodes = nodes := by
  induction nodes with
  | nil => rfl
  | cons node nodes ih =>
      have hother : ¬(id = node.id ∧ node.done = false) := by
        rintro ⟨rfl, hdone⟩
        apply h
        rw [← hdone]
        exact List.mem_cons_self
      rw [markEntries, if_neg hother,
        ih fun hmem => h (List.mem_cons_of_mem _ hmem)]

theorem Finished.of_match {id : UInt32} {node : SingleConfigNode}
    (h : id = node.id ∧ node.done = false) :
    Finished id node { node with done := true } :=
  ⟨h.1.symm, h.2, rfl⟩

/-- In any case the entries keep their ids, and none that is done is undone. -/
theorem markEntries_forall₂ (id : UInt32) (nodes : List SingleConfigNode) :
    List.Forall₂ (fun before after => after = before ∨
      Finished before.id before after) nodes (markEntries id nodes) := by
  induction nodes generalizing id with
  | nil => exact .nil
  | cons node nodes ih =>
      rw [markEntries]
      split
      case isTrue hmatch => exact .cons (.inr ⟨rfl, hmatch.2, rfl⟩) (ih _)
      case isFalse => exact .cons (.inl rfl) (ih _)

theorem markEntries_palindrome {id : UInt32} (hid : swapBytes id = id)
    (nodes : List SingleConfigNode) :
    List.Forall₂ (fun before after => after = before ∨ Finished id before after)
      nodes (markEntries id nodes) := by
  induction nodes with
  | nil => exact .nil
  | cons node nodes ih =>
      rw [markEntries, hid]
      split
      case isTrue hmatch => exact .cons (.inr (.of_match hmatch)) ih
      case isFalse => exact .cons (.inl rfl) ih

theorem markEntries_own {id : UInt32} {nodes : List SingleConfigNode}
    (h : ¬SwappedBehind id nodes) :
    List.Forall₂ (fun before after => after = before ∨ Finished id before after)
      nodes (markEntries id nodes) := by
  by_cases hid : swapBytes id = id
  · exact markEntries_palindrome hid nodes
  · have hsublist : ¬[⟨id, false⟩, ⟨swapBytes id, false⟩].Sublist nodes :=
      fun hsublist => h ⟨hid, hsublist⟩
    clear h
    induction nodes with
    | nil => exact .nil
    | cons node nodes ih =>
        rw [markEntries]
        split
        case isTrue hmatch =>
          -- behind the entry that is finished, no entry has the swapped id
          have hnone : ⟨swapBytes id, false⟩ ∉ nodes := by
            intro hmem
            have hnode : node = ⟨id, false⟩ := by
              cases node
              simp_all
            rw [hnode] at hsublist
            exact hsublist ((List.singleton_sublist.mpr hmem).cons_cons _)
          rw [markEntries_of_not_mem hnone]
          refine .cons (.inr (.of_match hmatch)) ?_
          exact List.forall₂_same.mpr fun _ _ => .inl rfl
        case isFalse =>
          exact .cons (.inl rfl) (ih fun hrest => hsublist (hrest.cons node))

theorem exists_marked {id : UInt32} {nodes : List SingleConfigNode}
    (h : ⟨id, false⟩ ∈ nodes) :
    ∃ place : Nat, nodes[place]? = some ⟨id, false⟩ ∧
      (markEntries id nodes)[place]? = some ⟨id, true⟩ := by
  induction nodes with
  | nil => cases h
  | cons node nodes ih =>
      by_cases hmatch : id = node.id ∧ node.done = false
      · refine ⟨0, ?_, ?_⟩
        · cases node
          simp_all
        · rw [markEntries, if_pos hmatch, hmatch.1]
          rfl
      · have hmem : ⟨id, false⟩ ∈ nodes := by
          rcases List.mem_cons.mp h with rfl | hmem
          · simp at hmatch
          · exact hmem
        obtain ⟨place, hbefore, hafter⟩ := ih hmem
        refine ⟨place + 1, hbefore, ?_⟩
        rw [markEntries, if_neg hmatch]
        exact hafter

theorem markEntries_swapped {id : UInt32} {nodes : List SingleConfigNode}
    (h : [⟨id, false⟩, ⟨swapBytes id, false⟩].Sublist nodes) :
    ∃ place : Nat, nodes[place]? = some ⟨swapBytes id, false⟩ ∧
      (markEntries id nodes)[place]? = some ⟨swapBytes id, true⟩ := by
  induction nodes with
  | nil => cases h
  | cons node nodes ih =>
      by_cases hmatch : id = node.id ∧ node.done = false
      · have hmem : ⟨swapBytes id, false⟩ ∈ nodes := by
          cases h with
          | cons _ hrest => exact hrest.subset (by simp)
          | cons_cons _ hrest => exact List.singleton_sublist.mp hrest
        obtain ⟨place, hbefore, hafter⟩ := exists_marked hmem
        refine ⟨place + 1, hbefore, ?_⟩
        rw [markEntries, if_pos hmatch]
        exact hafter
      · have hrest : [⟨id, false⟩, ⟨swapBytes id, false⟩].Sublist nodes := by
          cases h with
          | cons _ hrest => exact hrest
          | cons_cons _ hrest => simp at hmatch
        obtain ⟨place, hbefore, hafter⟩ := ih hrest
        refine ⟨place + 1, hbefore, ?_⟩
        rw [markEntries, if_neg hmatch]
        exact hafter

/-! ## Entries that become done -/

theorem turnedDone_forall₂ {related : SingleConfigNode → SingleConfigNode → Prop}
    {befores afters : List SingleConfigNode} {start place : Nat} {id : UInt32}
    (h : List.Forall₂ related befores afters)
    (hmem : (place, id) ∈ turnedDone start befores afters) :
    ∃ offset before after, place = start + offset ∧
      befores[offset]? = some before ∧ afters[offset]? = some after ∧
      related before after ∧ before.id = id ∧ before.done = false ∧
      after.done = true := by
  induction h generalizing start with
  | nil => cases hmem
  | @cons before after befores afters hrelated _ ih =>
      have hcase : (place, id) = (start, before.id) ∧ before.done = false ∧
          after.done = true ∨
          (place, id) ∈ turnedDone (start + 1) befores afters := by
        rw [turnedDone] at hmem
        split at hmem
        case isTrue hturned =>
          rcases List.mem_cons.mp hmem with heq | hlater
          · exact .inl ⟨heq, hturned⟩
          · exact .inr hlater
        case isFalse => exact .inr hmem
      rcases hcase with ⟨heq, hbefore, hafter⟩ | hlater
      · cases heq
        exact ⟨0, before, after, rfl, rfl, rfl, hrelated, rfl, hbefore, hafter⟩
      · obtain ⟨offset, found, found', hplace, hfound⟩ := ih hlater
        exact ⟨offset + 1, found, found', by omega, hfound⟩

theorem turnedDone_ne_nil {befores afters : List SingleConfigNode}
    {place : Nat} {before after : SingleConfigNode} (start : Nat)
    (hbefore : befores[place]? = some before) (hopen : before.done = false)
    (hafter : afters[place]? = some after) (hdone : after.done = true) :
    turnedDone start befores afters ≠ [] := by
  induction befores generalizing place start afters with
  | nil => simp at hbefore
  | cons first befores ih =>
      cases afters with
      | nil => simp at hafter
      | cons first' afters =>
          rw [turnedDone]
          split
          case isTrue => simp
          case isFalse hturned =>
            cases place with
            | zero =>
                cases hbefore
                cases hafter
                exact absurd ⟨hopen, hdone⟩ hturned
            | succ place => exact ih (start + 1) hbefore hafter

theorem turnedDone_places (befores afters : List SingleConfigNode)
    (start : Nat) :
    ((turnedDone start befores afters).map Prod.fst).Nodup ∧
      ∀ place ∈ (turnedDone start befores afters).map Prod.fst,
        start ≤ place := by
  induction befores generalizing afters start with
  | nil => simp [turnedDone]
  | cons before befores ih =>
      cases afters with
      | nil => simp [turnedDone]
      | cons after afters =>
          obtain ⟨hnodup, hbound⟩ := ih afters (start + 1)
          have hlater : ∀ place ∈ (turnedDone (start + 1) befores
              afters).map Prod.fst, start ≤ place := by
            intro place hplace
            exact (Nat.le_succ start).trans (hbound place hplace)
          rw [turnedDone]
          split
          case isFalse => exact ⟨hnodup, hlater⟩
          case isTrue =>
            rw [List.map_cons]
            refine ⟨List.nodup_cons.mpr ⟨?_, hnodup⟩, ?_⟩
            · intro hstart
              exact absurd (hbound start hstart) (by omega)
            · intro place hplace
              rcases List.mem_cons.mp hplace with rfl | hplace
              · exact Nat.le_refl _
              · exact hlater place hplace

theorem forall₂_getElem? {related : SingleConfigNode → SingleConfigNode → Prop}
    {befores afters : List SingleConfigNode} {place : Nat}
    {after : SingleConfigNode} (h : List.Forall₂ related befores afters)
    (hafter : afters[place]? = some after) :
    ∃ before, befores[place]? = some before ∧ related before after := by
  induction h generalizing place with
  | nil => simp at hafter
  | @cons before' after' befores afters hrelated _ ih =>
      cases place with
      | zero =>
          cases hafter
          exact ⟨before', rfl, hrelated⟩
      | succ place => exact ih hafter

/-! ## Runs of frames -/

structure FrameStep where
  before : List SingleConfigNode
  pkt : LoraPkt
  after : List SingleConfigNode
  effects : List LoraEffect

def FrameStep.completed (step : FrameStep) : List (Nat × UInt32) :=
  turnedDone 0 step.before step.after

def frameStep (env : LoraEnv) (state : LoraState) (pkt : LoraPkt) : FrameStep :=
  let result := analyzeLoraPkt env state pkt
  { before := state.configNodeList.node
    pkt := pkt
    after := result.1.configNodeList.node
    effects := result.2 }

def frameTrace : LoraState → List (LoraEnv × LoraPkt) → List FrameStep
  | _, [] => []
  | state, (env, pkt) :: frames =>
      frameStep env state pkt ::
        frameTrace (analyzeLoraPkt env state pkt).1 frames

structure OwnNodeOnly (step : FrameStep) : Prop where
  othersKept : ∀ (place : Nat) (node : SingleConfigNode),
    step.before[place]? = some node → node.id ≠ step.pkt.nodeId →
      step.after[place]? = some node
  ownFrame : ∀ place id, (place, id) ∈ step.completed →
    step.pkt.Finishes ∧ id = step.pkt.nodeId
  reported : reports step.effects =
    step.completed.map fun (_, id) => networkOrder32 id

structure NodesConfigured (steps : List FrameStep) : Prop where
  ownNodeOnly : ∀ step ∈ steps, OwnNodeOnly step
  once : ((steps.flatMap FrameStep.completed).map Prod.fst).Nodup

def WorkMode.configures : WorkMode → Bool
  | .configNodeByRange | .configNodeById | .initNode => true
  | .normal | .recvTest => false

theorem analyzeLoraPkt_configures {state : LoraState} {pkt : LoraPkt}
    (env : LoraEnv) (hmode : state.workingMode.mode.configures = true)
    (hcrc : pkt.crcCorrect = true) :
    analyzeLoraPkt env state pkt = configLoraNode env state pkt := by
  rw [analyzeLoraPkt, if_pos hcrc, analyzeSpecialMode]
  cases hcase : state.workingMode.mode <;>
    simp [hcase, WorkMode.configures] at hmode ⊢

structure FrameStep.Follows (step : FrameStep) : Prop where
  after_eq : step.after = nodesAfter step.pkt step.before
  reports_eq : reports step.effects =
    step.completed.map fun (_, id) => networkOrder32 id

/-- The byte-swapped id finds an entry of its own. -/
def FrameStep.Misled (step : FrameStep) : Prop :=
  step.pkt.Finishes ∧ SwappedBehind step.pkt.nodeId step.before

instance (step : FrameStep) : Decidable step.Misled :=
  inferInstanceAs (Decidable (_ ∧ _))

theorem nodesAfter_forall₂ (pkt : LoraPkt) (nodes : List SingleConfigNode) :
    List.Forall₂ (fun before after => after = before ∨
      Finished before.id before after) nodes (nodesAfter pkt nodes) := by
  unfold nodesAfter
  split
  · exact markEntries_forall₂ _ _
  · exact List.forall₂_same.mpr fun _ _ => .inl rfl

theorem nodesAfter_own {pkt : LoraPkt} {nodes : List SingleConfigNode}
    (h : ¬(pkt.Finishes ∧ SwappedBehind pkt.nodeId nodes)) :
    List.Forall₂ (fun before after => after = before ∨
      pkt.Finishes ∧ Finished pkt.nodeId before after) nodes
      (nodesAfter pkt nodes) := by
  unfold nodesAfter
  split
  case isTrue hfinishes =>
    have hown := markEntries_own fun hswapped => h ⟨hfinishes, hswapped⟩
    exact hown.imp fun _ _ => Or.imp_right fun hfinished =>
      ⟨hfinishes, hfinished⟩
  case isFalse => exact List.forall₂_same.mpr fun _ _ => .inl rfl

/-- A frame finishes a node exactly if the list holds it and it is not done. -/
theorem turnedDone_nodesAfter_iff (pkt : LoraPkt)
    (nodes : List SingleConfigNode) :
    turnedDone 0 nodes (nodesAfter pkt nodes) ≠ [] ↔
      pkt.Finishes ∧ ⟨pkt.nodeId, false⟩ ∈ nodes := by
  unfold nodesAfter
  split
  case isFalse hfinishes => simp [turnedDone_self, hfinishes]
  case isTrue hfinishes =>
    by_cases hmem : ⟨pkt.nodeId, false⟩ ∈ nodes
    · obtain ⟨place, hbefore, hafter⟩ := exists_marked hmem
      have hturned := turnedDone_ne_nil 0 hbefore rfl hafter rfl
      simp only [hfinishes, hmem, and_self, iff_true]
      exact hturned
    · simp [markEntries_of_not_mem hmem, turnedDone_self, hmem]

theorem FrameStep.Follows.ownNodeOnly_iff {step : FrameStep}
    (h : step.Follows) : OwnNodeOnly step ↔ ¬step.Misled := by
  constructor
  · rintro hown ⟨hfinishes, hne, hsublist⟩
    obtain ⟨place, hbefore, hafter⟩ := markEntries_swapped hsublist
    have hkept := hown.othersKept place _ hbefore hne
    rw [h.after_eq, nodesAfter, if_pos hfinishes, hafter] at hkept
    simp at hkept
  · intro hmisled
    have hown := nodesAfter_own hmisled
    rw [← h.after_eq] at hown
    refine ⟨?_, ?_, h.reports_eq⟩
    · intro place node hnode hne
      have hlength := hown.length_eq
      obtain ⟨hplace, -⟩ := List.getElem?_eq_some_iff.mp hnode
      have hafter := List.getElem?_eq_getElem (hlength ▸ hplace)
      obtain ⟨before, hbefore, hrelated⟩ := forall₂_getElem? hown hafter
      obtain rfl : node = before := by
        rw [hnode] at hbefore
        exact Option.some.inj hbefore
      rcases hrelated with hsame | ⟨-, hfinished⟩
      · rw [hafter, hsame]
      · exact absurd hfinished.1 hne
    · intro place id hmem
      obtain ⟨-, before, after, -, -, -, hrelated, hid, hnotDone, hdone⟩ :=
        turnedDone_forall₂ hown hmem
      rcases hrelated with rfl | ⟨hfinishes, hfinished⟩
      · rw [hnotDone] at hdone
        cases hdone
      · exact ⟨hfinishes, hid ▸ hfinished.1⟩

theorem FrameStep.Follows.completed_done {step : FrameStep} (h : step.Follows)
    {place : Nat} (hplace : place ∈ step.completed.map Prod.fst) :
    ∃ before after, step.before[place]? = some before ∧ before.done = false ∧
      step.after[place]? = some after ∧ after.done = true := by
  obtain ⟨⟨found, id⟩, hmem, rfl⟩ := List.mem_map.mp hplace
  have hrelated := nodesAfter_forall₂ step.pkt step.before
  rw [← h.after_eq] at hrelated
  obtain ⟨offset, before, after, hfound, hbefore, hafter, -, -, hopen, hdone⟩ :=
    turnedDone_forall₂ hrelated hmem
  rw [Nat.zero_add] at hfound
  subst hfound
  exact ⟨before, after, hbefore, hopen, hafter, hdone⟩

theorem FrameStep.Follows.open_before {step : FrameStep} (h : step.Follows)
    {place : Nat} {node : SingleConfigNode}
    (hnode : step.after[place]? = some node) (hopen : node.done = false) :
    ∃ before, step.before[place]? = some before ∧ before.done = false := by
  have hrelated := nodesAfter_forall₂ step.pkt step.before
  rw [← h.after_eq] at hrelated
  obtain ⟨before, hbefore, hcase⟩ := forall₂_getElem? hrelated hnode
  rcases hcase with rfl | hfinished
  · exact ⟨node, hbefore, hopen⟩
  · exact ⟨before, hbefore, hfinished.2.1⟩

theorem frameStep_follows {state : LoraState} {pkt : LoraPkt} (env : LoraEnv)
    (hmode : state.workingMode.mode.configures = true)
    (hcrc : pkt.crcCorrect = true) :
    (frameStep env state pkt).Follows ∧
      (analyzeLoraPkt env state pkt).1.workingMode.mode.configures = true := by
  have hloop := configLoraNode_loop env state pkt
  rw [← analyzeLoraPkt_configures env hmode hcrc] at hloop
  have hnode := hloop.node_eq
  rw [List.nil_append] at hnode
  refine ⟨⟨hnode, ?_⟩, ?_⟩
  · dsimp only [FrameStep.completed, frameStep]
    rw [hnode]
    exact hloop.reports_eq
  · rw [hloop.mode_eq]
    exact hmode

section Trace

variable {state : LoraState} {frames : List (LoraEnv × LoraPkt)}

theorem frameTrace_follows (hmode : state.workingMode.mode.configures = true)
    (hcrc : ∀ frame ∈ frames, frame.2.crcCorrect = true) :
    ∀ step ∈ frameTrace state frames, step.Follows := by
  induction frames generalizing state with
  | nil => simp [frameTrace]
  | cons frame frames ih =>
      obtain ⟨hfirst, hnext⟩ := frameStep_follows frame.1 hmode
        (hcrc frame List.mem_cons_self)
      intro step hstep
      rcases List.mem_cons.mp hstep with rfl | hstep
      · exact hfirst
      · exact ih hnext
          (fun later hlater => hcrc later (List.mem_cons_of_mem _ hlater))
          step hstep

/-- The places that a run finishes: distinct, and not done at its start. -/
theorem frameTrace_completed (hmode : state.workingMode.mode.configures = true)
    (hcrc : ∀ frame ∈ frames, frame.2.crcCorrect = true) :
    (((frameTrace state frames).flatMap FrameStep.completed).map
        Prod.fst).Nodup ∧
      ∀ place ∈ ((frameTrace state frames).flatMap FrameStep.completed).map
        Prod.fst, ∃ node, state.configNodeList.node[place]? = some node ∧
          node.done = false := by
  induction frames generalizing state with
  | nil => simp [frameTrace]
  | cons frame frames ih =>
      obtain ⟨hfirst, hnext⟩ := frameStep_follows frame.1 hmode
        (hcrc frame List.mem_cons_self)
      obtain ⟨hnodup, hopen⟩ := ih hnext
        (fun later hlater => hcrc later (List.mem_cons_of_mem _ hlater))
      have htrace : frameTrace state (frame :: frames) =
        frameStep frame.1 state frame.2 ::
          frameTrace (analyzeLoraPkt frame.1 state frame.2).1 frames := rfl
      rw [htrace, List.flatMap_cons, List.map_append]
      constructor
      · refine List.nodup_append.mpr
          ⟨(turnedDone_places _ _ 0).1, hnodup, ?_⟩
        rintro place hplace _ hlater rfl
        obtain ⟨-, after, -, -, hafter, hdone⟩ := hfirst.completed_done hplace
        obtain ⟨node, hnode, hnotDone⟩ := hopen place hlater
        obtain rfl : after = node :=
          Option.some.inj (hafter.symm.trans hnode)
        rw [hnotDone] at hdone
        cases hdone
      · intro place hplace
        rcases List.mem_append.mp hplace with hplace | hlater
        · obtain ⟨before, -, hbefore, hnotDone, -⟩ :=
            hfirst.completed_done hplace
          exact ⟨before, hbefore, hnotDone⟩
        · obtain ⟨node, hnode, hnotDone⟩ := hopen place hlater
          exact hfirst.open_before hnode hnotDone

theorem node_config_own_iff
    (hmode : state.workingMode.mode.configures = true)
    (hcrc : ∀ frame ∈ frames, frame.2.crcCorrect = true) :
    NodesConfigured (frameTrace state frames) ↔
      ∀ step ∈ frameTrace state frames, ¬step.Misled := by
  have hfollows := frameTrace_follows hmode hcrc
  constructor
  · intro hconfigured step hstep
    exact (hfollows step hstep).ownNodeOnly_iff.mp
      (hconfigured.ownNodeOnly step hstep)
  · intro hmisled
    refine ⟨?_, (frameTrace_completed hmode hcrc).1⟩
    intro step hstep
    exact (hfollows step hstep).ownNodeOnly_iff.mpr (hmisled step hstep)

end Trace

/-- A configuration by id of two nodes. -/
def configuringState (first second : UInt32) : LoraState :=
  { LoraState.initial with
    configNodeList :=
      ⟨471100000, 60, [⟨first, false⟩, ⟨second, false⟩],
        Nat.le_add_left 2 1022⟩
    workingMode := ⟨3, 2, .configNodeById⟩ }

def freqSet (id : UInt32) : LoraEnv × LoraPkt :=
  (.sample, nodePkt id .setFreq [])

theorem two_nodes_configured :
    NodesConfigured (frameTrace (configuringState 1 2) [freqSet 1, freqSet 2]) := by
  apply (node_config_own_iff (by decide) (by decide +kernel)).mpr
  decide +kernel

/-- 0x01000000 stands behind 1 in the list and has never spoken. -/
theorem swapped_node_configured :
    ¬NodesConfigured
      (frameTrace (configuringState 1 0x01000000) [freqSet 1]) := by
  intro hconfigured
  have hkept := (hconfigured.ownNodeOnly _ List.mem_cons_self).othersKept 1
    ⟨0x01000000, false⟩ rfl (by decide)
  revert hkept
  decide +kernel

end WncFirmware.Lora
