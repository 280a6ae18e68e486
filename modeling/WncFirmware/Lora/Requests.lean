import WncFirmware.Lora.LightScan
import WncFirmware.Lora.NodeConfig

/-!
# Requests and their replies

Three requests put the thread into a mode in which it reports on LoRa frames.
The trace keeps the command of the request that entered the mode beside each
message, so that the command codes of the frames sent can be compared with it.
-/

namespace WncFirmware.Lora

open WncFirmware.Foundation WncFirmware.Tcp

def LoraMsg.request? : LoraMsg → Option (Command × WorkMode)
  | .loraRecvTest _ => some (.loraRecvTest, .recvTest)
  | .loraConfigNodeByRange _ _ =>
      some (.loraConfigNodeByRange, .configNodeByRange)
  | .loraConfigNodeById _ _ => some (.loraConfigNodeById, .configNodeById)
  | .loraInitNode _ _ => some (.loraInitNode, .initNode)
  | .loraRecvData _ | .analizeLightState | .checkDeviceConnect => none

/-- The request that put the thread into its mode, after one more message. -/
def ownerAfter (owner : Option Command) (msg : LoraMsg) (mode : WorkMode) :
    Option Command :=
  match msg.request? with
  | some (command, asked) => if mode = asked then some command else owner
  | none => owner

structure ReplyStep where
  state : LoraState
  env : LoraEnv
  msg : LoraMsg
  owner : Option Command
  frames : List Bytes

/-- A request is answered with its own code, a LoRa frame with that of the mode. -/
def ReplyStep.expected (step : ReplyStep) : Option Command :=
  match step.msg.request? with
  | some (command, _) => some command
  | none => step.owner

def ReplyStep.Matches (step : ReplyStep) : Prop :=
  ∀ frame ∈ step.frames, ∃ command, step.expected = some command ∧
    byteAt frame 0 = command.code

def replyTrace : LoraState → Option Command → List LoraInput → List ReplyStep
  | _, _, [] => []
  | state, owner, (env, msg) :: inputs =>
      match dataProcess env state msg with
      | none => []
      | some (next, effects) =>
          ⟨state, env, msg, owner, sentFrames effects⟩ ::
            replyTrace next (ownerAfter owner msg next.workingMode.mode) inputs

/--
The frames of a step with another code: a request by id is answered with the
code of a request by range, and an acknowledgement of the other kind of
configuration is reported under a code of its own, or under none.
-/
def ReplyStep.WrongCode (step : ReplyStep) : Prop :=
  match step.msg with
  | .loraConfigNodeById _ _ => True
  | .loraRecvData pkt =>
      let mode := step.state.workingMode.mode
      pkt.crcCorrect = true ∧
        ⟨pkt.nodeId, false⟩ ∈ step.state.configNodeList.node ∧
        ((mode = .initNode ∧ pkt.cmd? = some .setFreq ∧
            step.env.unsetCmd ≠ Command.loraInitNode.code) ∨
          ((mode = .configNodeByRange ∨ mode = .configNodeById) ∧
            pkt.cmd? = some .initParams))
  | _ => False

instance : (step : ReplyStep) → Decidable step.WrongCode
  | ⟨_, _, .loraConfigNodeById _ _, _, _⟩ => inferInstanceAs (Decidable True)
  | ⟨_, _, .loraRecvData _, _, _⟩ => inferInstanceAs (Decidable (_ ∧ _ ∧ _))
  | ⟨_, _, .analizeLightState, _, _⟩ => inferInstanceAs (Decidable False)
  | ⟨_, _, .checkDeviceConnect, _, _⟩ => inferInstanceAs (Decidable False)
  | ⟨_, _, .loraRecvTest _, _, _⟩ => inferInstanceAs (Decidable False)
  | ⟨_, _, .loraConfigNodeByRange _ _, _, _⟩ => inferInstanceAs (Decidable False)
  | ⟨_, _, .loraInitNode _ _, _, _⟩ => inferInstanceAs (Decidable False)

/-! ## The frames of each kind of message -/

theorem sentFrames_sendTcp (env : LoraEnv) (state : LoraState) (fd : Int)
    (cmd : UInt8) (bytes : Bytes) :
    ∃ frame, sentFrames (sendTcp env state fd cmd bytes).2 = [frame] ∧
      byteAt frame 0 = cmd :=
  ⟨_, rfl, byteAt_loraSendTcpData_cmd _ _ _ _ _ _⟩

theorem sentFrames_report (env : LoraEnv) (state : LoraState) (fd : Int)
    (cmd : UInt8) (bytes : Bytes) :
    ∃ frame, sentFrames (report env state fd cmd bytes).2 = [frame] ∧
      byteAt frame 0 = cmd :=
  sentFrames_sendTcp env state fd cmd bytes

def finishedCmd (env : LoraEnv) (mode : WorkMode) (pkt : LoraPkt) : UInt8 :=
  if pkt.cmd? = some .setFreq then doneCmd env mode
  else Command.loraInitNode.code

theorem configEntry_cmd (env : LoraEnv) (pkt : LoraPkt) (id : UInt32)
    (state : LoraState) (place : Nat) :
    (configEntry env pkt id state place).1.workingMode.mode =
        state.workingMode.mode ∧
      ∀ frame ∈ sentFrames (configEntry env pkt id state place).2,
        byteAt frame 0 = finishedCmd env state.workingMode.mode pkt := by
  unfold configEntry
  split
  case h_3 hcmd =>
    refine ⟨rfl, ?_⟩
    obtain ⟨frame, hframes, hcode⟩ := sentFrames_report env
      { state with configNodeList := setDone state.configNodeList place }
      state.workingMode.fd (doneCmd env state.workingMode.mode)
      (networkOrder32 id)
    simp [hframes, hcode, finishedCmd, hcmd]
  case h_4 hcmd =>
    refine ⟨rfl, ?_⟩
    obtain ⟨frame, hframes, hcode⟩ := sentFrames_report env
      { state with configNodeList := setDone state.configNodeList place }
      state.workingMode.fd Command.loraInitNode.code (networkOrder32 id)
    simp [hframes, hcode, finishedCmd, hcmd]
  all_goals simp [sentFrames]

theorem configEntries_cmd (env : LoraEnv) (pkt : LoraPkt) (left place : Nat)
    (id : UInt32) (state : LoraState) :
    (configEntries env pkt left place id state).1.workingMode.mode =
        state.workingMode.mode ∧
      ∀ frame ∈ sentFrames (configEntries env pkt left place id state).2,
        byteAt frame 0 = finishedCmd env state.workingMode.mode pkt := by
  induction left generalizing place id state with
  | zero => simp [configEntries]
  | succ left ih =>
      rw [configEntries]
      split
      · simp
      · split
        · obtain ⟨hmode, hfirst⟩ := configEntry_cmd env pkt id state place
          obtain ⟨hmode', hlater⟩ := ih (place + 1) (idAfter pkt id)
            (configEntry env pkt id state place).1
          rw [hmode] at hmode' hlater
          refine ⟨hmode', ?_⟩
          intro frame hframe
          rw [sentFrames_append] at hframe
          rcases List.mem_append.mp hframe with hframe | hframe
          · exact hfirst frame hframe
          · exact hlater frame hframe
        · exact ih (place + 1) id state

/-! ## Messages without a reply -/

theorem sentFrames_refreshLogs (nodeInfo info : SingleDetectorInfo) :
    sentFrames (refreshLogs nodeInfo info) = [] := by
  unfold refreshLogs
  rw [sentFrames_append, sentFrames_append]
  split <;> split <;> split <;> rfl

theorem sentFrames_heartBeatEffects (env : LoraEnv) (pkt : LoraPkt)
    (info : SingleDetectorInfo) :
    sentFrames (heartBeatEffects env pkt info) = [] := by
  simp only [heartBeatEffects, sentFrames_append, sentFrames_refreshLogs]
  split <;> split <;> rfl

theorem sentFrames_analyzeNormalMode (env : LoraEnv) (state : LoraState)
    (pkt : LoraPkt) :
    sentFrames (analyzeNormalMode env state pkt).2 = [] := by
  unfold analyzeNormalMode
  split
  case h_1 =>
    unfold detectorHeartBeat
    split
    · exact sentFrames_heartBeatEffects env pkt _
    · rfl
  case h_4 =>
    unfold nodeOnline
    split <;> rfl
  case h_5 =>
    unfold nodeEnterCfg
    split <;> rfl
  all_goals rfl

theorem sentFrames_scanLoop (env : LoraEnv) (empty : List Nat) (index fuel : Nat)
    (isFirst : Bool) (place : Nat) (lights : LightInfoList) :
    sentFrames (scanLoop env empty index fuel isFirst place lights).effects =
      [] := by
  induction fuel generalizing isFirst place lights with
  | zero => rfl
  | succ fuel ih =>
      by_cases hgoes : (place ≠ index ∨ isFirst = true) ∧ 0 < lights.num
      · cases hdriven : driven empty lights place with
        | true =>
            rw [scanLoop_driven hgoes hdriven]
            rfl
        | false =>
            rw [scanLoop_passed hgoes hdriven]
            exact ih _ _ _
      · rw [scanLoop_end hgoes]
        rfl

theorem sentFrames_analyseLightState {env : LoraEnv} {state : LoraState}
    {result : LoraResult} (h : analyseLightState env state = some result) :
    result.1.workingMode = state.workingMode ∧ sentFrames result.2 = [] := by
  rw [analyseLightState_eq h]
  exact ⟨rfl, sentFrames_scanLoop _ _ _ _ _ _ _⟩

theorem sentFrames_checkLoraNodeConnect (state : LoraState) :
    sentFrames (checkLoraNodeConnect state).2 = [] := by
  have hdetector : ∀ place info,
      sentFrames (checkDetector place info).2 = [] := by
    intro place info
    unfold checkDetector
    split
    · rfl
    · split <;> rfl
  simp only [checkLoraNodeConnect, sentFrames_append, List.append_eq_nil_iff]
  constructor
  · simp only [sentFrames, List.filterMap_eq_nil_iff, List.mem_flatMap,
      List.mem_mapIdx] at hdetector ⊢
    rintro effect ⟨_, ⟨place, hplace, rfl⟩, heffect⟩
    exact hdetector place _ effect heffect
  · simp [checkLightsEvents, sentFrames]

/-! ## The mode belongs to the owner -/

def WorkMode.command? : WorkMode → Option Command
  | .normal => none
  | .recvTest => some .loraRecvTest
  | .configNodeByRange => some .loraConfigNodeByRange
  | .configNodeById => some .loraConfigNodeById
  | .initNode => some .loraInitNode

def Owned (state : LoraState) (owner : Option Command) : Prop :=
  state.workingMode.mode ≠ .normal → owner = state.workingMode.mode.command?

theorem analyzeLoraPkt_mode (env : LoraEnv) (state : LoraState)
    (pkt : LoraPkt) :
    (analyzeLoraPkt env state pkt).1.workingMode.mode =
      state.workingMode.mode := by
  rw [analyzeLoraPkt]
  split
  case isFalse => rfl
  case isTrue =>
    have hnormal := congrArg LoraMode.mode
      (workingMode_analyzeNormalMode env state pkt)
    rw [analyzeSpecialMode]
    cases hmode : state.workingMode.mode with
    | normal => exact hnormal.trans hmode
    | recvTest =>
        dsimp only
        split
        · exact hmode
        · exact hmode
    | configNodeByRange => exact (configEntries_cmd _ _ _ _ _ _).1.trans hmode
    | configNodeById => exact (configEntries_cmd _ _ _ _ _ _).1.trans hmode
    | initNode => exact (configEntries_cmd _ _ _ _ _ _).1.trans hmode

theorem configRequest_mode (env : LoraEnv) (state : LoraState) (fd : Int)
    (data : Nat → UInt8) (mode : WorkMode) (list : ConfigNodeList) :
    (configRequest env state fd data mode list).1.workingMode.mode =
        state.workingMode.mode ∨
      (configRequest env state fd data mode list).1.workingMode.mode = mode := by
  unfold configRequest
  dsimp only
  split
  · exact .inl rfl
  · split
    · exact .inl rfl
    · exact .inr rfl

theorem Owned.step {state : LoraState} {owner : Option Command}
    {env : LoraEnv} {msg : LoraMsg} {result : LoraResult}
    (h : Owned state owner) (hstep : dataProcess env state msg = some result) :
    Owned result.1 (ownerAfter owner msg result.1.workingMode.mode) := by
  have hkeeps : msg.request? = none →
      result.1.workingMode.mode = state.workingMode.mode →
      Owned result.1 (ownerAfter owner msg result.1.workingMode.mode) := by
    intro hrequest hmode
    rw [Owned, ownerAfter, hrequest, hmode]
    exact h
  have hrequested : ∀ command asked, msg.request? = some (command, asked) →
      asked.command? = some command →
      (result.1.workingMode.mode = state.workingMode.mode ∨
        result.1.workingMode.mode = asked) →
      Owned result.1 (ownerAfter owner msg result.1.workingMode.mode) := by
    intro command asked hrequest hcommand hmode
    rw [Owned, ownerAfter, hrequest]
    intro hspecial
    dsimp only
    split
    case isTrue hasked => rw [hasked, hcommand]
    case isFalse hasked =>
      rcases hmode with hmode | hmode
      · rw [hmode] at hspecial ⊢
        exact h hspecial
      · exact absurd hmode hasked
  cases msg with
  | loraRecvData pkt =>
      cases hstep
      exact hkeeps rfl (analyzeLoraPkt_mode env state pkt)
  | analizeLightState =>
      exact hkeeps rfl
        (congrArg LoraMode.mode (sentFrames_analyseLightState hstep).1)
  | checkDeviceConnect =>
      cases hstep
      exact hkeeps rfl rfl
  | loraRecvTest fd =>
      cases hstep
      by_cases htest : state.workingMode.mode = .recvTest
      · intro hspecial
        simp [recvTestRequest, htest] at hspecial
      · refine hrequested _ _ rfl rfl (.inr ?_)
        simp [recvTestRequest, htest]
  | loraConfigNodeByRange fd data =>
      cases hstep
      exact hrequested _ _ rfl rfl (configRequest_mode _ _ _ _ _ _)
  | loraConfigNodeById fd data =>
      cases hstep
      exact hrequested _ _ rfl rfl (configRequest_mode _ _ _ _ _ _)
  | loraInitNode fd data =>
      cases hstep
      exact hrequested _ _ rfl rfl (.inr rfl)

/-! ## Each message -/

theorem sentFrames_configLoraNode_iff (env : LoraEnv) (state : LoraState)
    (pkt : LoraPkt) :
    sentFrames (configLoraNode env state pkt).2 ≠ [] ↔
      pkt.Finishes ∧ ⟨pkt.nodeId, false⟩ ∈ state.configNodeList.node := by
  have hreports := (configLoraNode_loop env state pkt).reports_eq
  rw [← turnedDone_nodesAfter_iff, not_iff_not]
  constructor
  · intro hframes
    rw [reports, hframes, eq_comm] at hreports
    simpa using hreports
  · intro hturned
    rw [List.length_nil, hturned, reports] at hreports
    simpa using hreports

theorem ReplyStep.matches_of_no_frames {step : ReplyStep}
    (h : step.frames = []) : step.Matches := by
  simp [ReplyStep.Matches, h]

/-- The reports of a configuration have one code, that of the owner or another. -/
theorem matches_configLoraNode_iff (env : LoraEnv) (state : LoraState)
    (pkt : LoraPkt) (command : Command) :
    ReplyStep.Matches ⟨state, env, .loraRecvData pkt, some command,
        sentFrames (configLoraNode env state pkt).2⟩ ↔
      (pkt.Finishes → ⟨pkt.nodeId, false⟩ ∈ state.configNodeList.node →
        finishedCmd env state.workingMode.mode pkt = command.code) := by
  have hcode := (configEntries_cmd env pkt state.configNodeList.node.length 0
    pkt.nodeId state).2
  have hsome := sentFrames_configLoraNode_iff env state pkt
  constructor
  · intro hmatches hfinishes hmem
    obtain ⟨frame, hframe⟩ :=
      List.exists_mem_of_ne_nil _ (hsome.mpr ⟨hfinishes, hmem⟩)
    obtain ⟨found, hfound, hframeCode⟩ := hmatches frame hframe
    obtain rfl : command = found := Option.some.inj hfound
    rw [← hframeCode]
    exact (hcode frame hframe).symm
  · intro hright frame hframe
    obtain ⟨hfinishes, hmem⟩ := hsome.mp (List.ne_nil_of_mem hframe)
    exact ⟨command, rfl, (hcode frame hframe).trans (hright hfinishes hmem)⟩

/-- The code of the reports is right, unless the acknowledgement is of the other kind. -/
theorem finishedCmd_right_iff {state : LoraState} {pkt : LoraPkt}
    {command : Command} (env : LoraEnv) (owner : Option Command)
    (frames : List Bytes) (hcrc : pkt.crcCorrect = true)
    (hmode : state.workingMode.mode.configures = true)
    (hcommand : state.workingMode.mode.command? = some command) :
    (pkt.Finishes → ⟨pkt.nodeId, false⟩ ∈ state.configNodeList.node →
        finishedCmd env state.workingMode.mode pkt = command.code) ↔
      ¬ReplyStep.WrongCode ⟨state, env, .loraRecvData pkt, owner, frames⟩ := by
  simp only [ReplyStep.WrongCode, LoraPkt.Finishes, finishedCmd, hcrc]
  cases hcase : state.workingMode.mode <;> rw [hcase] at hmode hcommand <;>
    cases hmode <;> cases hcommand <;>
    by_cases hfreq : pkt.cmd? = some .setFreq <;>
    by_cases hinit : pkt.cmd? = some .initParams <;>
    simp [hfreq, hinit, doneCmd, Command.code]

theorem analyzeLoraPkt_matches_iff {state : LoraState}
    {owner : Option Command} (env : LoraEnv) (pkt : LoraPkt)
    (h : Owned state owner) :
    let step : ReplyStep := ⟨state, env, .loraRecvData pkt, owner,
      sentFrames (analyzeLoraPkt env state pkt).2⟩
    step.Matches ↔ ¬step.WrongCode := by
  intro step
  by_cases hcrc : pkt.crcCorrect = true
  case neg =>
    refine iff_of_true (ReplyStep.matches_of_no_frames ?_) ?_
    · simp [step, analyzeLoraPkt, hcrc]
    · simp [ReplyStep.WrongCode, step, hcrc]
  case pos =>
    by_cases hconfigures : state.workingMode.mode.configures = true
    case pos =>
      obtain ⟨command, hcommand⟩ :
          ∃ command, state.workingMode.mode.command? = some command := by
        cases hmode : state.workingMode.mode <;>
          simp [hmode, WorkMode.configures, WorkMode.command?] at hconfigures ⊢
      have howner : owner = some command := by
        rw [← hcommand]
        apply h
        intro hnormal
        simp [hnormal, WorkMode.configures] at hconfigures
      subst howner
      have hiff := matches_configLoraNode_iff env state pkt command
      rw [← analyzeLoraPkt_configures env hconfigures hcrc] at hiff
      exact hiff.trans
        (finishedCmd_right_iff env _ _ hcrc hconfigures hcommand)
    case neg =>
      have hright : ¬step.WrongCode := by
        rintro ⟨-, -, ⟨hmode, -⟩ | ⟨hmode | hmode, -⟩⟩ <;>
          exact hconfigures (by rw [hmode]; rfl)
      refine iff_of_true ?_ hright
      cases hmode : state.workingMode.mode with
      | normal =>
          apply ReplyStep.matches_of_no_frames
          simp [step, analyzeLoraPkt, hcrc, analyzeSpecialMode, hmode,
            sentFrames_analyzeNormalMode]
      | recvTest =>
          have howner : owner = some .loraRecvTest := by
            rw [h (by simp [hmode]), hmode]
            rfl
          have hframes : ∀ frame ∈ step.frames,
              byteAt frame 0 = Command.loraRecvTest.code := by
            by_cases hcmd : pkt.cmd? = some .recvTest
            · obtain ⟨sent, hsent, hcode⟩ := sentFrames_report env state
                state.workingMode.fd Command.loraRecvTest.code
                (recvTestReport pkt)
              simp [step, analyzeLoraPkt, hcrc, analyzeSpecialMode, hmode,
                hcmd, hsent, hcode]
            · simp [step, analyzeLoraPkt, hcrc, analyzeSpecialMode, hmode, hcmd]
          exact fun frame hframe => ⟨_, howner, hframes frame hframe⟩
      | configNodeByRange => simp [hmode, WorkMode.configures] at hconfigures
      | configNodeById => simp [hmode, WorkMode.configures] at hconfigures
      | initNode => simp [hmode, WorkMode.configures] at hconfigures

theorem sentFrames_acceptRequest (env : LoraEnv) (state : LoraState) (fd : Int)
    (cmd : UInt8) (mode : WorkMode) (list : ConfigNodeList) :
    ∃ frame, sentFrames (acceptRequest env state fd cmd mode list).2 = [frame] ∧
      byteAt frame 0 = cmd :=
  sentFrames_report env { state with configNodeList := list } fd cmd [1]

theorem sentFrames_configRequest (env : LoraEnv) (state : LoraState) (fd : Int)
    (data : Nat → UInt8) (mode : WorkMode) (list : ConfigNodeList) :
    ∃ frame, sentFrames (configRequest env state fd data mode list).2 = [frame] ∧
      byteAt frame 0 = Command.loraConfigNodeByRange.code := by
  unfold configRequest
  dsimp only
  split
  · exact sentFrames_sendTcp _ _ _ _ _
  · split
    · exact sentFrames_sendTcp _ _ _ _ _
    · exact sentFrames_acceptRequest _ _ _ _ _ _

theorem dataProcess_matches_iff {state : LoraState} {owner : Option Command}
    {env : LoraEnv} {msg : LoraMsg} {result : LoraResult}
    (h : Owned state owner) (hstep : dataProcess env state msg = some result) :
    let step : ReplyStep := ⟨state, env, msg, owner, sentFrames result.2⟩
    step.Matches ↔ ¬step.WrongCode := by
  intro step
  have hone : ∀ command : Command, (∃ frame, step.frames = [frame] ∧
      byteAt frame 0 = command.code) → step.expected = some command →
      step.Matches := by
    rintro command ⟨frame, hframes, hcode⟩ hexpected other hother
    rw [hframes] at hother
    rw [List.mem_singleton.mp hother]
    exact ⟨command, hexpected, hcode⟩
  cases msg with
  | loraRecvData pkt =>
      cases hstep
      exact analyzeLoraPkt_matches_iff env pkt h
  | analizeLightState =>
      refine iff_of_true (ReplyStep.matches_of_no_frames ?_) id
      exact (sentFrames_analyseLightState hstep).2
  | checkDeviceConnect =>
      cases hstep
      refine iff_of_true (ReplyStep.matches_of_no_frames ?_) id
      exact sentFrames_checkLoraNodeConnect state
  | loraRecvTest fd =>
      cases hstep
      exact iff_of_true (ReplyStep.matches_of_no_frames rfl) id
  | loraConfigNodeByRange fd data =>
      cases hstep
      refine iff_of_true (hone .loraConfigNodeByRange ?_ rfl) id
      exact sentFrames_configRequest _ _ _ _ _ _
  | loraConfigNodeById fd data =>
      cases hstep
      refine iff_of_false ?_ (not_not.mpr trivial)
      intro hmatches
      obtain ⟨frame, hframes, hcode⟩ := sentFrames_configRequest env state fd
        data .configNodeById (idList (word32 data 0) (word16 data 4)
          (fun offset => data (7 + offset)) (data 6))
      obtain ⟨command, hexpected, hcode'⟩ := hmatches frame (by
        change frame ∈ sentFrames _
        rw [perpareConfigNodeById, hframes]
        exact List.mem_singleton_self frame)
      cases hexpected
      rw [hcode] at hcode'
      revert hcode'
      decide
  | loraInitNode fd data =>
      cases hstep
      refine iff_of_true (hone .loraInitNode ?_ rfl) id
      exact sentFrames_acceptRequest env (state.request fd) fd _ .initNode _

/-! ## Runs -/

theorem replyTrace_matches_iff {state : LoraState} {owner : Option Command}
    (h : Owned state owner) (inputs : List LoraInput) :
    ∀ step ∈ replyTrace state owner inputs, step.Matches ↔ ¬step.WrongCode := by
  induction inputs generalizing state owner with
  | nil => simp [replyTrace]
  | cons input inputs ih =>
      intro step hstep
      rw [replyTrace] at hstep
      cases hresult : dataProcess input.1 state input.2 with
      | none =>
          rw [hresult] at hstep
          cases hstep
      | some result =>
          rw [hresult] at hstep
          rcases List.mem_cons.mp hstep with rfl | hstep
          · exact dataProcess_matches_iff h hresult
          · exact ih (h.step hresult) step hstep

theorem replies_match_iff (state : LoraState) (inputs : List LoraInput)
    (hmode : state.workingMode.mode = .normal) :
    (∀ step ∈ replyTrace state none inputs, step.Matches) ↔
      ∀ step ∈ replyTrace state none inputs, ¬step.WrongCode := by
  have howned : Owned state none := fun hspecial => absurd hmode hspecial
  have hiff := replyTrace_matches_iff howned inputs
  constructor
  · intro hmatches step hstep
    exact (hiff step hstep).mp (hmatches step hstep)
  · intro hright step hstep
    exact (hiff step hstep).mpr (hright step hstep)

/-- A range of one node, its acknowledgement, and a receive test. -/
def rangeInputs : List LoraInput :=
  [(.sample, .loraConfigNodeByRange 3 fun offset =>
      byteAt (networkOrder32 471100000 ++ [0, 60] ++ networkOrder32 1 ++
        networkOrder32 1) offset),
    (.sample, .loraRecvData (nodePkt 1 .setFreq [])),
    (.sample, .loraRecvTest 4),
    (.sample, .loraRecvData (nodePkt 1 .recvTest []))]

theorem range_replies_match :
    LoraState.initial.workingMode.mode = .normal ∧
      ∀ step ∈ replyTrace .initial none rangeInputs, step.Matches := by
  refine ⟨rfl, ?_⟩
  apply (replies_match_iff .initial rangeInputs rfl).mpr
  decide +kernel

/-- One request by id, with a frequency that is refused. -/
def idInputs : List LoraInput := [(.sample, .loraConfigNodeById 3 fun _ => 0)]

theorem id_request_answered_by_range :
    ¬∀ step ∈ replyTrace .initial none idInputs, step.Matches := by
  intro hmatches
  have howned : Owned .initial none := fun hspecial => absurd rfl hspecial
  have hright := replyTrace_matches_iff howned idInputs _ List.mem_cons_self
  exact hright.mp (hmatches _ List.mem_cons_self) trivial

end WncFirmware.Lora
