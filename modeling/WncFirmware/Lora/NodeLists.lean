import WncFirmware.Lora.Requests

/-!
# Requests for lists of nodes

Two of the three requests are checked, after the requester has taken over the
connection.  The end of a range is compared in 32 bits, and the number of ids is
taken from the request without a look at its length.
-/

namespace WncFirmware.Lora

open WncFirmware.Foundation WncFirmware.Tcp

inductive NodeRequest where
  | configNodeByRange
  | configNodeById
  | initNode
  deriving DecidableEq, Repr

namespace NodeRequest

def command : NodeRequest → Command
  | configNodeByRange => .loraConfigNodeByRange
  | configNodeById => .loraConfigNodeById
  | initNode => .loraInitNode

def message (fd : Int) (data : Bytes) : NodeRequest → Message
  | configNodeByRange => .loraConfigNodeByRange fd data
  | configNodeById => .loraConfigNodeById fd data
  | initNode => .loraInitNode fd data

def loraMsg (fd : Int) (data : Nat → UInt8) : NodeRequest → LoraMsg
  | configNodeByRange => .loraConfigNodeByRange fd data
  | configNodeById => .loraConfigNodeById fd data
  | initNode => .loraInitNode fd data

def Refused (data : Nat → UInt8) : NodeRequest → Prop
  | configNodeByRange | configNodeById =>
      (word32 data 0 < 470300000 ∨ 489300000 < word32 data 0) ∨
        (word16 data 4 < 1 ∨ 7200 < word16 data 4)
  | initNode => False

instance (data : Nat → UInt8) :
    (request : NodeRequest) → Decidable (request.Refused data)
  | configNodeByRange | configNodeById =>
      inferInstanceAs (Decidable ((_ ∨ _) ∨ (_ ∨ _)))
  | initNode => inferInstanceAs (Decidable False)

end NodeRequest

/-! ## Refused requests -/

def FailureReply (fd : Int) (effects : List LoraEffect) : Prop :=
  ∃ frame, effects = [.tcpSend fd frame] ∧ replyPayload frame = [0]

structure NothingChanged (fd : Int) (state : LoraState)
    (result : LoraResult) : Prop where
  reply : FailureReply fd result.2
  workingMode : result.1.workingMode = state.workingMode
  configNodeList : result.1.configNodeList = state.configNodeList

theorem dataProcess_refused {request : NodeRequest} {data : Nat → UInt8}
    (env : LoraEnv) (state : LoraState) (fd : Int)
    (h : request.Refused data) :
    dataProcess env state (request.loraMsg fd data) =
      some (sendTcp env (state.request fd) fd
        Command.loraConfigNodeByRange.code [0]) := by
  have hrefused : ∀ mode list, request ≠ .initNode →
      configRequest env state fd data mode list =
        sendTcp env (state.request fd) fd Command.loraConfigNodeByRange.code
          [0] := by
    intro mode list hrequest
    unfold configRequest
    dsimp only
    split
    · rfl
    · rename_i hfreq
      rw [if_pos]
      cases request with
      | configNodeByRange => exact h.resolve_left hfreq
      | configNodeById => exact h.resolve_left hfreq
      | initNode => exact absurd rfl hrequest
  cases request with
  | configNodeByRange =>
      exact congrArg some (hrefused _ _ (by decide))
  | configNodeById =>
      exact congrArg some (hrefused _ _ (by decide))
  | initNode => exact h.elim

theorem failureReply_sendTcp (env : LoraEnv) (state : LoraState) (fd : Int)
    (cmd : UInt8) : FailureReply fd (sendTcp env state fd cmd [0]).2 := by
  have hreports := reports_report env state fd cmd
    (show [(0 : UInt8)].length < 65536 by decide)
  refine ⟨_, rfl, ?_⟩
  simpa [reports, sentFrames, report, sendTcp] using hreports

theorem refused_request_keeps_iff {request : NodeRequest}
    {data : Nat → UInt8} (env : LoraEnv) (state : LoraState) (fd : Int)
    (h : request.Refused data) :
    ∃ result, dataProcess env state (request.loraMsg fd data) =
        some result ∧
      (NothingChanged fd state result ↔
        state.workingMode.fd = fd ∧ state.workingMode.packSn = 1) := by
  refine ⟨_, dataProcess_refused env state fd h, ?_⟩
  constructor
  · intro hsame
    have hmode := hsame.workingMode
    exact ⟨(congrArg LoraMode.fd hmode).symm,
      (congrArg LoraMode.packSn hmode).symm⟩
  · rintro ⟨rfl, hsn⟩
    refine ⟨failureReply_sendTcp _ _ _ _, ?_, rfl⟩
    change { state.workingMode with packSn := 1 } = state.workingMode
    rw [← hsn]

/-- A receive test for the client on the socket 3. -/
def testSession : LoraState := recvTestRequest .initial 3

/-- The frequency 0, which is refused. -/
def zeroRequest : Nat → UInt8 := fun _ => 0

theorem own_refused_request_keeps :
    NodeRequest.configNodeById.Refused zeroRequest ∧
      ∃ result, dataProcess .sample testSession
          (NodeRequest.configNodeById.loraMsg 3 zeroRequest) = some result ∧
        NothingChanged 3 testSession result := by
  have hrefused : NodeRequest.configNodeById.Refused zeroRequest := by decide
  obtain ⟨result, hresult, hiff⟩ :=
    refused_request_keeps_iff .sample testSession 3 hrefused
  exact ⟨hrefused, result, hresult, hiff.mpr ⟨rfl, rfl⟩⟩

/-- The refused request of another client takes the test over. -/
theorem refused_request_takes_session :
    NodeRequest.configNodeById.Refused zeroRequest ∧
      ¬∃ result, dataProcess .sample testSession
          (NodeRequest.configNodeById.loraMsg 4 zeroRequest) = some result ∧
        NothingChanged 4 testSession result := by
  have hrefused : NodeRequest.configNodeById.Refused zeroRequest := by decide
  refine ⟨hrefused, ?_⟩
  rintro ⟨result, hresult, hsame⟩
  rw [dataProcess_refused _ _ _ hrefused] at hresult
  cases hresult
  have hfd : (4 : Int) = 3 := congrArg LoraMode.fd hsame.workingMode
  exact absurd hfd (by decide)

/-! ## The message with the ids -/

def messageData (data : Bytes) (behind : Nat → UInt8) (offset : Nat) : UInt8 :=
  if offset < maxNodeData then byteAt data offset
  else behind (offset - maxNodeData)

theorem messageData_of_lt {offset : Nat} (data : Bytes)
    (behind : Nat → UInt8) (h : offset < maxNodeData) :
    messageData data behind offset = byteAt data offset := if_pos h

theorem word32_messageData {offset : Nat} (data : Bytes)
    (behind : Nat → UInt8) (h : offset + 4 ≤ maxNodeData) :
    word32 (messageData data behind) offset = word32 (byteAt data) offset := by
  simp only [word32]
  rw [messageData_of_lt _ _ (by omega), messageData_of_lt _ _ (by omega),
    messageData_of_lt _ _ (by omega), messageData_of_lt _ _ (by omega)]

/-! ## The ids that are asked for -/

def idRange (first last : UInt32) : List UInt32 :=
  (List.range (last.toNat + 1 - first.toNat)).map fun step =>
    UInt32.ofNat (first.toNat + step)

/-- The whole ids behind the seven bytes of frequency, period and number. -/
def carriedIds (data : Bytes) : List UInt32 :=
  (List.range ((data.length - 7) / 4)).map fun place =>
    word32 (byteAt data) (7 + 4 * place)

namespace NodeRequest

def requestedIds (data : Bytes) : NodeRequest → List UInt32
  | configNodeByRange => idRange (word32 (byteAt data) 6) (word32 (byteAt data) 10)
  | configNodeById => carriedIds data
  | initNode => idRange (word32 (byteAt data) 0) (word32 (byteAt data) 4)

def InBounds (data : Bytes) : NodeRequest → Prop
  | configNodeByRange => word32 (byteAt data) 10 ≠ 0xffffffff
  | configNodeById => (byteAt data 6).toNat = (carriedIds data).length
  | initNode => word32 (byteAt data) 4 ≠ 0xffffffff

instance (data : Bytes) :
    (request : NodeRequest) → Decidable (request.InBounds data)
  | configNodeByRange | initNode => inferInstanceAs (Decidable (_ ≠ _))
  | configNodeById => inferInstanceAs (Decidable (_ = _))

end NodeRequest

def pendingNodes (ids : List UInt32) : List SingleConfigNode :=
  ids.map fun id => { id := id }

theorem pendingNodes_inj {first second : List UInt32} :
    pendingNodes first = pendingNodes second ↔ first = second := by
  constructor
  · intro h
    have hids := congrArg (List.map SingleConfigNode.id) h
    simpa [pendingNodes, Function.comp_def] using hids
  · rintro rfl
    rfl

theorem idRange_of_lt {first last : UInt32} (h : last < first) :
    idRange first last = [] := by
  have hlt : last.toNat < first.toNat := h
  have hnone : last.toNat + 1 - first.toNat = 0 := by omega
  rw [idRange, hnone]
  rfl

theorem idRange_of_le {first last : UInt32} (h : first ≤ last)
    (hlast : last ≠ 0xffffffff) :
    idRange first last = first :: idRange (first + 1) last := by
  have hle : first.toNat ≤ last.toNat := h
  have hlt := last.toNat_lt
  have hmax : last.toNat ≠ 4294967295 := by
    intro heq
    exact hlast (UInt32.toNat_inj.mp heq)
  have hnext : (first + 1).toNat = first.toNat + 1 := by
    rw [UInt32.toNat_add]
    exact Nat.mod_eq_of_lt (by
      show first.toNat + 1 < 4294967296
      omega)
  have hcount : last.toNat + 1 - first.toNat =
      (last.toNat + 1 - (first + 1).toNat) + 1 := by
    omega
  rw [idRange, hcount, List.range_succ_eq_map, List.map_cons, List.map_map,
    Nat.add_zero, UInt32.ofNat_toNat, idRange, hnext]
  congr 1
  apply List.map_congr_left
  intro step _
  simp only [Function.comp_apply]
  congr 1
  omega

theorem rangeIds_eq_take (room : Nat) (first : UInt32) {last : UInt32}
    (hlast : last ≠ 0xffffffff) :
    rangeIds room first last = (idRange first last).take room := by
  have hlt := last.toNat_lt
  have hnext : (last + 1).toNat = last.toNat + 1 := by
    have hmax : last.toNat ≠ 4294967295 := by
      intro heq
      exact hlast (UInt32.toNat_inj.mp heq)
    rw [UInt32.toNat_add]
    exact Nat.mod_eq_of_lt (by
      show last.toNat + 1 < 4294967296
      omega)
  induction room generalizing first with
  | zero => simp [rangeIds]
  | succ room ih =>
      rw [rangeIds]
      have hiff : first < last + 1 ↔ first ≤ last := by
        rw [UInt32.lt_iff_toNat_lt, UInt32.le_iff_toNat_le, hnext]
        omega
      by_cases hle : first ≤ last
      · rw [if_pos (hiff.mpr hle), idRange_of_le hle hlast,
          List.take_succ_cons, ih]
      · rw [if_neg (hle ∘ hiff.mp), idRange_of_lt (UInt32.not_le.mp hle),
          List.take_nil]

/-- The end of the range is compared as `0`. -/
theorem rangeIds_last (room : Nat) (first : UInt32) :
    rangeIds room first 0xffffffff = [] := by
  cases room with
  | zero => rfl
  | succ room =>
      rw [rangeIds, if_neg]
      exact UInt32.not_lt_zero

theorem rangeIds_eq_take_iff (first last : UInt32) :
    rangeIds maxNodeWholeParkingLot first last =
        (idRange first last).take maxNodeWholeParkingLot ↔
      last ≠ 0xffffffff := by
  constructor
  · rintro hids rfl
    have hle : first.toNat ≤ 4294967295 := by
      have hlt := first.toNat_lt
      omega
    have hlength := congrArg List.length hids
    rw [rangeIds_last, List.length_take, idRange, List.length_map,
      List.length_range] at hlength
    have hmax : (0xffffffff : UInt32).toNat = 4294967295 := rfl
    simp only [List.length_nil, maxNodeWholeParkingLot, hmax] at hlength
    omega
  · exact rangeIds_eq_take _ first

/-! ## From the frame to the list -/

def requestData (frame : Bytes) : Bytes :=
  slice (payloadOf frame) 0 (headerDataLen frame)

theorem analyzeCommand_nodeRequest {request : NodeRequest} {env : CommandEnv}
    {fd : Int} {device : Device} {frame : Bytes} {result : CommandResult}
    (haccepted : commandAccepted device frame = true)
    (hcommand : Command.ofCode? (byteAt frame 0) = some request.command)
    (h : analyzeCommand env fd device frame = some result) :
    (requestData frame).length ≤ maxNodeData ∧
      result.effects = [.post (request.message fd (requestData frame))] := by
  have hnode : ∀ message, nodeCommand device frame message = some result →
      (requestData frame).length ≤ maxNodeData ∧
        result.effects = [.post (message (requestData frame))] := by
    intro message hresult
    unfold nodeCommand at hresult
    split at hresult
    · rename_i hroom
      cases hresult
      refine ⟨?_, rfl⟩
      rw [requestData, length_slice]
      exact hroom
    · cases hresult
  rw [analyzeCommand, if_pos haccepted, hcommand] at h
  cases request with
  | configNodeByRange => exact hnode (.loraConfigNodeByRange fd) h
  | configNodeById => exact hnode (.loraConfigNodeById fd) h
  | initNode => exact hnode (.loraInitNode fd) h

theorem refused_messageData_iff (request : NodeRequest) (data : Bytes)
    (behind : Nat → UInt8) :
    request.Refused (messageData data behind) ↔
      request.Refused (byteAt data) := by
  have hfreq := word32_messageData data behind
    (show 0 + 4 ≤ maxNodeData by decide)
  have hperiod : word16 (messageData data behind) 4 =
      word16 (byteAt data) 4 := by
    simp only [word16]
    rw [messageData_of_lt _ _ (by decide), messageData_of_lt _ _ (by decide)]
  cases request <;> simp only [NodeRequest.Refused, hfreq, hperiod]

def NodeRequest.listed (data : Nat → UInt8) : NodeRequest → List UInt32
  | .configNodeByRange =>
      rangeIds maxNodeWholeParkingLot (word32 data 6) (word32 data 10)
  | .configNodeById => (List.range (data 6).toNat).map fun place =>
      word32 (fun offset => data (7 + offset)) (4 * place)
  | .initNode =>
      rangeIds maxNodeWholeParkingLot (word32 data 0) (word32 data 4)

theorem node_of_accepted {request : NodeRequest} {data : Nat → UInt8}
    {env : LoraEnv} {state : LoraState} {fd : Int} {result : LoraResult}
    (haccepted : ¬request.Refused data)
    (h : dataProcess env state (request.loraMsg fd data) = some result) :
    result.1.configNodeList.node = pendingNodes (request.listed data) := by
  have hconfig : ∀ mode list, request ≠ .initNode →
      (configRequest env state fd data mode list).1.configNodeList = list := by
    intro mode list hrequest
    have hbounds : ¬((word32 data 0 < 470300000 ∨
        489300000 < word32 data 0) ∨
          (word16 data 4 < 1 ∨ 7200 < word16 data 4)) := by
      cases request with
      | configNodeByRange => exact haccepted
      | configNodeById => exact haccepted
      | initNode => exact absurd rfl hrequest
    rw [not_or] at hbounds
    unfold configRequest
    dsimp only
    rw [if_neg hbounds.1, if_neg hbounds.2]
    rfl
  cases request with
  | configNodeByRange =>
      cases h
      rw [perpareConfigNodeByRange, hconfig _ _ (by decide)]
      rfl
  | configNodeById =>
      cases h
      rw [perpareConfigNodeById, hconfig _ _ (by decide), pendingNodes,
        NodeRequest.listed, List.map_map]
      rfl
  | initNode =>
      cases h
      rfl

/-- As many entries as the number says, from the ids that the request carries. -/
theorem listed_byId_eq_take {data : Bytes} (behind : Nat → UInt8)
    (hdata : data.length ≤ maxNodeData)
    (hcount : (byteAt data 6).toNat ≤ (carriedIds data).length) :
    NodeRequest.configNodeById.listed (messageData data behind) =
      (carriedIds data).take (byteAt data 6).toNat := by
  rw [carriedIds, List.length_map, List.length_range] at hcount
  rw [NodeRequest.listed, messageData_of_lt _ _ (by decide), carriedIds,
    ← List.map_take, List.take_range, Nat.min_eq_left hcount]
  apply List.map_congr_left
  intro place hplace
  have hlt := List.mem_range.mp hplace
  have hmax : maxNodeData = 252 := rfl
  change word32 (messageData data behind) (7 + 4 * place) = _
  rw [word32_messageData _ _ (by omega)]

theorem length_listed_byId (data : Bytes) (behind : Nat → UInt8) :
    (NodeRequest.configNodeById.listed (messageData data behind)).length =
      (byteAt data 6).toNat := by
  rw [NodeRequest.listed, messageData_of_lt _ _ (by decide), List.length_map,
    List.length_range]

theorem length_carriedIds_lt {data : Bytes}
    (hdata : data.length ≤ maxNodeData) :
    (carriedIds data).length < maxNodeWholeParkingLot := by
  have hmax : maxNodeData = 252 := rfl
  rw [carriedIds, List.length_map, List.length_range, maxNodeWholeParkingLot]
  omega

theorem listed_eq_take_iff {data : Bytes} (request : NodeRequest)
    (behind : Nat → UInt8) (hdata : data.length ≤ maxNodeData) :
    request.listed (messageData data behind) =
        (request.requestedIds data).take maxNodeWholeParkingLot ↔
      request.InBounds data := by
  have hword : ∀ offset, offset + 4 ≤ maxNodeData →
      word32 (messageData data behind) offset = word32 (byteAt data) offset :=
    fun offset => word32_messageData data behind
  cases request with
  | configNodeByRange =>
      simp only [NodeRequest.listed, NodeRequest.requestedIds,
        NodeRequest.InBounds, hword 6 (by decide), hword 10 (by decide)]
      exact rangeIds_eq_take_iff _ _
  | initNode =>
      simp only [NodeRequest.listed, NodeRequest.requestedIds,
        NodeRequest.InBounds, hword 0 (by decide), hword 4 (by decide)]
      exact rangeIds_eq_take_iff _ _
  | configNodeById =>
      have hfew := length_carriedIds_lt hdata
      have hlength := length_listed_byId data behind
      rw [NodeRequest.requestedIds, List.take_of_length_le (by omega),
        NodeRequest.InBounds]
      constructor
      · intro hlisted
        rw [← hlength, hlisted]
      · intro hcount
        rw [listed_byId_eq_take behind hdata (by omega), hcount,
          List.take_length]

def ListsRequested (request : NodeRequest) (data : Bytes)
    (result : LoraResult) : Prop :=
  result.1.configNodeList.node = pendingNodes
    ((request.requestedIds data).take maxNodeWholeParkingLot)

theorem listsRequested_iff {request : NodeRequest} {data : Bytes}
    {env : LoraEnv} {state : LoraState} {fd : Int} {behind : Nat → UInt8}
    {result : LoraResult} (hroom : data.length ≤ maxNodeData)
    (haccepted : ¬request.Refused (byteAt data))
    (h : dataProcess env state (request.loraMsg fd (messageData data behind)) =
      some result) :
    ListsRequested request data result ↔ request.InBounds data := by
  have hnode := node_of_accepted
    (mt (refused_messageData_iff request data behind).mp haccepted) h
  rw [ListsRequested, hnode, pendingNodes_inj]
  exact listed_eq_take_iff request behind hroom

def ListsCarriedFront (data : Bytes) (result : LoraResult) : Prop :=
  result.1.configNodeList.node =
    pendingNodes ((carriedIds data).take (byteAt data 6).toNat)

theorem listed_byId_eq_take_iff {data : Bytes} (behind : Nat → UInt8)
    (hdata : data.length ≤ maxNodeData) :
    NodeRequest.configNodeById.listed (messageData data behind) =
        (carriedIds data).take (byteAt data 6).toNat ↔
      (byteAt data 6).toNat ≤ (carriedIds data).length := by
  constructor
  · intro hlisted
    have hlength := congrArg List.length hlisted
    rw [length_listed_byId, List.length_take] at hlength
    omega
  · exact listed_byId_eq_take behind hdata

theorem node_list_requested_iff {request : NodeRequest}
    {commandEnv : CommandEnv} {fd : Int} {device : Device} {frame : Bytes}
    {posted : CommandResult} {env : LoraEnv} {state : LoraState}
    {behind : Nat → UInt8} {result : LoraResult}
    (hframe : commandAccepted device frame = true)
    (hcommand : Command.ofCode? (byteAt frame 0) = some request.command)
    (hposted : analyzeCommand commandEnv fd device frame = some posted)
    (haccepted : ¬request.Refused (byteAt (requestData frame)))
    (hresult : dataProcess env state (request.loraMsg fd
      (messageData (requestData frame) behind)) = some result) :
    posted.effects = [.post (request.message fd (requestData frame))] ∧
      (ListsRequested request (requestData frame) result ↔
        request.InBounds (requestData frame)) ∧
      (request = .configNodeById →
        (ListsCarriedFront (requestData frame) result ↔
          (byteAt (requestData frame) 6).toNat ≤
            (carriedIds (requestData frame)).length)) := by
  obtain ⟨hroom, heffects⟩ :=
    analyzeCommand_nodeRequest hframe hcommand hposted
  refine ⟨heffects, listsRequested_iff hroom haccepted hresult, ?_⟩
  rintro rfl
  have hnode := node_of_accepted
    (mt (refused_messageData_iff _ _ behind).mp haccepted) hresult
  rw [ListsCarriedFront, hnode, pendingNodes_inj]
  exact listed_byId_eq_take_iff behind hroom

def NodeRequest.frame (request : NodeRequest) (data : Bytes) : Bytes :=
  let body := request.command.code :: networkOrder32 0 ++ ascii "LN" ++
    [0, 0, 1] ++ networkOrder16 (UInt16.ofNat data.length) ++ data
  body ++ [xorVerify body]

def twoNodesFrame : Bytes :=
  NodeRequest.initNode.frame (networkOrder32 5 ++ networkOrder32 6)

theorem two_nodes_listed :
    ∃ posted result, analyzeCommand .sample 3 Device.blank twoNodesFrame =
        some posted ∧
      dataProcess .sample .initial (NodeRequest.initNode.loraMsg 3
        (messageData (requestData twoNodesFrame) fun _ => 0)) = some result ∧
      ListsRequested .initNode (requestData twoNodesFrame) result := by
  have hposted : (analyzeCommand .sample 3 Device.blank
      twoNodesFrame).isSome = true := by
    decide
  obtain ⟨posted, hposted⟩ := Option.isSome_iff_exists.mp hposted
  refine ⟨posted, _, hposted, rfl, ?_⟩
  apply (node_list_requested_iff (by decide) (by decide) hposted id rfl).2.1.mpr
  decide

/-- Every id from the last but one on is asked for, and none is listed. -/
def lastNodesFrame : Bytes :=
  NodeRequest.initNode.frame
    (networkOrder32 0xfffffffe ++ networkOrder32 0xffffffff)

/-- Two ids are announced, and one is in the request. -/
def shortIdsFrame : Bytes :=
  NodeRequest.configNodeById.frame (networkOrder32 471100000 ++ [0, 60, 2] ++
    networkOrder32 5)

theorem last_nodes_not_listed :
    (∃ result, dataProcess .sample .initial (NodeRequest.initNode.loraMsg 3
        (messageData (requestData lastNodesFrame) fun _ => 0)) = some result ∧
      ¬ListsRequested .initNode (requestData lastNodesFrame) result) ∧
    ∃ result, dataProcess .sample .initial
        (NodeRequest.configNodeById.loraMsg 3
          (messageData (requestData shortIdsFrame) fun _ => 0)) =
            some result ∧
      ¬ListsRequested .configNodeById (requestData shortIdsFrame) result := by
  have hwrong : ∀ request frame, (requestData frame).length ≤ maxNodeData →
      ¬NodeRequest.Refused (byteAt (requestData frame)) request →
      ¬NodeRequest.InBounds (requestData frame) request →
      ∃ result, dataProcess .sample .initial (request.loraMsg 3
          (messageData (requestData frame) fun _ => 0)) = some result ∧
        ¬ListsRequested request (requestData frame) result := by
    intro request frame hroom haccepted hbounds
    obtain ⟨result, hresult⟩ : ∃ result, dataProcess .sample .initial
        (request.loraMsg 3 (messageData (requestData frame) fun _ => 0)) =
          some result := by
      cases request <;> exact ⟨_, rfl⟩
    exact ⟨result, hresult,
      mt (listsRequested_iff hroom haccepted hresult).mp hbounds⟩
  constructor
  · exact hwrong .initNode lastNodesFrame (by decide) id (by decide)
  · exact hwrong .configNodeById shortIdsFrame (by decide) (by decide)
      (by decide)

end WncFirmware.Lora
