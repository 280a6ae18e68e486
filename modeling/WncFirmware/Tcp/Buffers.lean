import WncFirmware.Tcp.Commands

/-!
# Copies into fixed buffers

The handlers of `analyze_command` copy parts of the frame into buffers of a
fixed size.  The lengths come from the frame, and most copies are made before
the lengths are checked.
-/

namespace WncFirmware.Tcp

open WncFirmware.Foundation

inductive Destination where
  | pcIp
  | hvcsIp
  | ip
  | netmask
  | gateway
  | fileName
  | msgData
  deriving DecidableEq, Repr

/--
How many bytes may be copied: a text leaves room for its zero byte, and the
data of a message stands behind the descriptor.
-/
def Destination.room : Destination → Nat
  | pcIp | hvcsIp | ip | netmask | gateway => stringBufferSize - 1
  | fileName => 255
  | msgData => maxNodeData

structure Copy where
  destination : Destination
  count : Nat
  deriving DecidableEq, Repr

def Copy.Fits (copy : Copy) : Prop := copy.count ≤ copy.destination.room

instance (copy : Copy) : Decidable copy.Fits :=
  inferInstanceAs (Decidable (_ ≤ _))

/-! ## The copies of each handler -/

def serverPort (payload : Bytes) : UInt32 :=
  bigEndian32 (byteAt payload 0) (byteAt payload 1) (byteAt payload 2)
    (byteAt payload 3)

def serverIpCopies (payload : Bytes) : List Copy :=
  if serverPort payload ≠ remoteUdpServerPort then []
  else [⟨.pcIp, fieldLen payload 4⟩,
    ⟨.hvcsIp, fieldLen payload (nextField payload 4)⟩]

def netParamsCopies (payload : Bytes) : List Copy :=
  if byteAt payload 1 = 0 then []
  else [⟨.ip, fieldLen payload 2⟩,
    ⟨.netmask, fieldLen payload (netmaskIndex payload)⟩,
    ⟨.gateway, fieldLen payload (gatewayIndex payload)⟩]

def downloadCopies (device : Device) (frame : Bytes) : List Copy :=
  if device.fileOperateState.packetSeq + 1 = headerPackSn frame ∧
      headerPackSn frame = 1 then
    [⟨.fileName, fieldLen (payloadOf frame) 1⟩]
  else []

def commandCopies (device : Device) (frame : Bytes) : Command → List Copy
  | .setServerIp => serverIpCopies (payloadOf frame)
  | .netParamsOpt =>
      if byteAt frame headerSize = 1 then netParamsCopies (payloadOf frame)
      else []
  | .configureFilesOpt =>
      if isUpload frame then [] else downloadCopies device frame
  | .loraConfigNodeByRange | .loraInitNode | .loraConfigNodeById =>
      [⟨.msgData, headerDataLen frame⟩]
  | .setDevIdAndMac | .eraseDevIdAndMac | .softReboot | .adjustMachineClock
  | .readMachineClock | .getDeviceAllInfos | .getSlotInfos
  | .localLoraParamsOpt | .sensorOfflineTimeout | .loraSendTest | .userInit
  | .loraRecvTest => []

def analyzeCommandCopies (device : Device) (frame : Bytes) : List Copy :=
  if commandAccepted device frame then
    match Command.ofCode? (byteAt frame 0) with
    | some command => commandCopies device frame command
    | none => []
  else []

/-! ## When they fit -/

def ServerIpLengthsFit (payload : Bytes) : Prop :=
  serverPort payload = remoteUdpServerPort →
    fieldLen payload 4 ≤ 15 ∧ fieldLen payload (nextField payload 4) ≤ 15

def NetParamsLengthsFit (payload : Bytes) : Prop :=
  byteAt payload 1 ≠ 0 →
    fieldLen payload 2 ≤ 15 ∧ fieldLen payload (netmaskIndex payload) ≤ 15 ∧
      fieldLen payload (gatewayIndex payload) ≤ 15

def LengthsFit (frame : Bytes) : Prop :=
  match Command.ofCode? (byteAt frame 0) with
  | some .setServerIp => ServerIpLengthsFit (payloadOf frame)
  | some .netParamsOpt =>
      byteAt frame headerSize = 1 → NetParamsLengthsFit (payloadOf frame)
  | some .loraConfigNodeByRange | some .loraInitNode
  | some .loraConfigNodeById => headerDataLen frame ≤ 252
  | _ => True

theorem fieldLen_le (payload : Bytes) (index : Nat) :
    fieldLen payload index ≤ 255 := by
  have hlt := (byteAt payload index).toNat_lt
  rw [fieldLen]
  omega

theorem serverIpCopies_fit_iff (payload : Bytes) :
    (∀ copy ∈ serverIpCopies payload, copy.Fits) ↔
      ServerIpLengthsFit payload := by
  unfold serverIpCopies ServerIpLengthsFit
  split
  case isTrue hport => simp [hport]
  case isFalse hport =>
    have hport : serverPort payload = remoteUdpServerPort := by
      simpa using hport
    simp [hport, Copy.Fits, Destination.room, stringBufferSize]

theorem netParamsCopies_fit_iff (payload : Bytes) :
    (∀ copy ∈ netParamsCopies payload, copy.Fits) ↔
      NetParamsLengthsFit payload := by
  unfold netParamsCopies NetParamsLengthsFit
  split
  case isTrue hmode => simp [hmode]
  case isFalse hmode =>
    simp [hmode, Copy.Fits, Destination.room, stringBufferSize]

theorem downloadCopies_fit (device : Device) (frame : Bytes) :
    ∀ copy ∈ downloadCopies device frame, copy.Fits := by
  have hlen := fieldLen_le (payloadOf frame) 1
  unfold downloadCopies
  split
  · simpa [Copy.Fits, Destination.room] using hlen
  · simp

theorem copies_fit_iff (device : Device) (frame : Bytes)
    (haccepted : commandAccepted device frame = true) :
    (∀ copy ∈ analyzeCommandCopies device frame, copy.Fits) ↔
      LengthsFit frame := by
  rw [analyzeCommandCopies, if_pos haccepted, LengthsFit]
  cases hcommand : Command.ofCode? (byteAt frame 0) with
  | none => simp
  | some command =>
      cases command with
      | setServerIp => exact serverIpCopies_fit_iff (payloadOf frame)
      | netParamsOpt =>
          dsimp only [commandCopies]
          split
          case isTrue hset =>
            rw [netParamsCopies_fit_iff]
            exact ⟨fun hfit _ => hfit, fun hfit => hfit hset⟩
          case isFalse hget => simp [hget]
      | configureFilesOpt =>
          dsimp only [commandCopies]
          split
          · simp
          · simpa using downloadCopies_fit device frame
      | loraConfigNodeByRange =>
          simp [commandCopies, Copy.Fits, Destination.room, maxNodeData]
      | loraInitNode =>
          simp [commandCopies, Copy.Fits, Destination.room, maxNodeData]
      | loraConfigNodeById =>
          simp [commandCopies, Copy.Fits, Destination.room, maxNodeData]
      | _ => simp [commandCopies]

/-- `CMD_NET_PARAMS_OPT` to set the address `1.2.3.4` and two more. -/
def netParamsFrame : Bytes :=
  let body := [23, 0, 0, 0, 0, 76, 78, 0, 0, 1, 0, 26, 1, 1, 7] ++
    ascii "1.2.3.4" ++ [7] ++ ascii "1.2.3.4" ++ [7] ++ ascii "1.2.3.4"
  body ++ [xorVerify body]

theorem copies_fit_net_params :
    commandAccepted Device.blank netParamsFrame = true ∧
      ∀ copy ∈ analyzeCommandCopies Device.blank netParamsFrame, copy.Fits :=
  ⟨by decide, (copies_fit_iff Device.blank netParamsFrame (by decide)).mpr
    fun _ _ => ⟨by decide, by decide, by decide⟩⟩

/-- `CMD_SET_SERVER_IP` with a first address of 200 bytes. -/
def longServerFrame : Bytes :=
  let body := [9, 0, 0, 0, 0, 76, 78, 0, 0, 1, 0, 6, 0, 0, 20, 90, 200, 0]
  body ++ [xorVerify body]

theorem long_server_address_overruns :
    commandAccepted Device.blank longServerFrame = true ∧
      ¬∀ copy ∈ analyzeCommandCopies Device.blank longServerFrame,
        copy.Fits := by
  decide

/-! ## Copies that fit let the handler return -/

theorem copyField_fits {payload : Bytes} {index : Nat}
    (h : fieldLen payload index ≤ 15) :
    ∃ buffer, copyField payload index = some buffer ∧ 0 ∈ buffer := by
  have hlen : fieldLen payload index ≤ stringBufferSize := by
    simp only [stringBufferSize]
    omega
  refine ⟨_, if_pos hlen, List.mem_append_right _ ?_⟩
  refine List.mem_replicate.mpr ⟨?_, rfl⟩
  simp only [stringBufferSize]
  omega

theorem withValue_isSome {Value Request : Type}
    {parsed : Option (Option Value)} {rest : Value → Option (Option Request)}
    (hparsed : parsed.isSome) (hrest : ∀ value, (rest value).isSome) :
    (withValue parsed rest).isSome := by
  cases parsed with
  | none => cases hparsed
  | some parsed =>
      cases parsed with
      | none => rfl
      | some value => exact hrest value

theorem ipStrToDigit_isSome {buffer : Bytes} (h : 0 ∈ buffer) :
    (ipStrToDigit buffer).isSome := by
  rw [ipStrToDigit, if_pos h]
  rfl

theorem netmaskStrToDigit_isSome {buffer : Bytes} (h : 0 ∈ buffer) :
    (netmaskStrToDigit buffer).isSome :=
  withValue_isSome (ipStrToDigit_isSome h) fun _ => rfl

theorem readServerIp_isSome {payload : Bytes} (dataLen : UInt16)
    (h : ServerIpLengthsFit payload) : (readServerIp payload dataLen).isSome := by
  unfold readServerIp
  by_cases hport : serverPort payload = remoteUdpServerPort
  · obtain ⟨hpc, hhvcs⟩ := h hport
    obtain ⟨pcIp, hpcCopy, hpcZero⟩ := copyField_fits hpc
    obtain ⟨hvcsIp, hhvcsCopy, hhvcsZero⟩ := copyField_fits hhvcs
    rw [serverPort] at hport
    simp only [hport, ne_eq, not_true_eq_false, if_false, hpcCopy, hhvcsCopy,
      Option.bind_eq_bind, Option.bind_some]
    split
    · rfl
    · exact withValue_isSome (ipStrToDigit_isSome hpcZero) fun _ =>
        withValue_isSome (ipStrToDigit_isSome hhvcsZero) fun _ => rfl
  · rw [serverPort] at hport
    simp [hport]

theorem readNetParams_isSome {payload : Bytes} (dataLen : UInt16)
    (h : NetParamsLengthsFit payload) :
    (readNetParams payload dataLen).isSome := by
  unfold readNetParams
  by_cases hmode : byteAt payload 1 = 0
  · simp [hmode]
  · obtain ⟨hip, hnetmask, hgateway⟩ := h hmode
    obtain ⟨ip, hipCopy, hipZero⟩ := copyField_fits hip
    obtain ⟨netmask, hnetmaskCopy, hnetmaskZero⟩ := copyField_fits hnetmask
    obtain ⟨gateway, hgatewayCopy, hgatewayZero⟩ := copyField_fits hgateway
    simp only [hmode, if_false, hipCopy, hnetmaskCopy, hgatewayCopy,
      Option.bind_eq_bind, Option.bind_some]
    split
    · rfl
    · exact withValue_isSome (ipStrToDigit_isSome hipZero) fun _ =>
        withValue_isSome (ipStrToDigit_isSome hgatewayZero) fun _ =>
          withValue_isSome (netmaskStrToDigit_isSome hnetmaskZero) fun _ => rfl

theorem serverIp_isSome (device : Device) {payload : Bytes} (dataLen : UInt16)
    (h : ServerIpLengthsFit payload) :
    (Setter.serverIp.run device payload dataLen).isSome :=
  Option.isSome_map.trans (readServerIp_isSome dataLen h)

theorem setterCommand_isSome {setter : Setter} {device : Device}
    {frame : Bytes} {answer : Bool → Effect}
    (h : (setter.run device (payloadOf frame)
      (UInt16.ofNat (headerDataLen frame))).isSome) :
    (setterCommand setter device frame answer).isSome := by
  obtain ⟨result, hresult⟩ := Option.isSome_iff_exists.mp h
  rw [setterCommand, hresult]
  rfl

theorem nodeCommand_isSome {device : Device} {frame : Bytes}
    {message : Bytes → Message} (h : headerDataLen frame ≤ 252) :
    (nodeCommand device frame message).isSome := by
  rw [nodeCommand, if_pos (show headerDataLen frame ≤ maxNodeData from h)]
  rfl

theorem handleCommand_isSome {env : CommandEnv} {fd : Int} {device : Device}
    {frame : Bytes} {command : Command}
    (hcommand : Command.ofCode? (byteAt frame 0) = some command)
    (hfit : LengthsFit frame)
    (hupload : command = .configureFilesOpt → isUpload frame = false) :
    (handleCommand env fd device frame command).isSome := by
  rw [LengthsFit, hcommand] at hfit
  cases command with
  | setServerIp =>
      apply setterCommand_isSome
      exact serverIp_isSome device _ hfit
  | netParamsOpt =>
      dsimp only [handleCommand]
      split
      case isTrue hset =>
        apply setterCommand_isSome
        exact (Option.isSome_map).trans (readNetParams_isSome _ (hfit hset))
      case isFalse => rfl
  | configureFilesOpt =>
      rw [handleCommand, WncFirmware.Tcp.configureFilesOpt, hupload rfl]
      rfl
  | localLoraParamsOpt =>
      dsimp only [handleCommand]
      split
      · exact setterCommand_isSome rfl
      · rfl
  | sensorOfflineTimeout =>
      dsimp only [handleCommand]
      split
      · exact setterCommand_isSome rfl
      · rfl
  | loraConfigNodeByRange => exact nodeCommand_isSome hfit
  | loraInitNode => exact nodeCommand_isSome hfit
  | loraConfigNodeById => exact nodeCommand_isSome hfit
  | _ => rfl

/-! ## Copies behind the end of a buffer have no result -/

/-- The bytes of the destination from the place of the copy on. -/
def Destination.size : Destination → Nat
  | pcIp | hvcsIp | ip | netmask | gateway => stringBufferSize
  | fileName => 256
  | msgData => maxNodeData

theorem copyField_overrun {payload : Bytes} {index : Nat}
    (h : stringBufferSize < fieldLen payload index) :
    copyField payload index = none := by
  rw [copyField, if_neg (by omega)]

theorem readServerIp_overrun {payload : Bytes} {dataLen : UInt16}
    {copy : Copy} (hcopy : copy ∈ serverIpCopies payload)
    (h : copy.destination.size < copy.count) :
    readServerIp payload dataLen = none := by
  unfold serverIpCopies at hcopy
  split at hcopy
  case isTrue => cases hcopy
  case isFalse hport =>
    have hport : serverPort payload = remoteUdpServerPort := by
      simpa using hport
    rw [serverPort] at hport
    unfold readServerIp
    simp only [hport, ne_eq, not_true_eq_false, if_false]
    simp only [List.mem_cons, List.not_mem_nil, or_false] at hcopy
    rcases hcopy with rfl | rfl
    · rw [copyField_overrun h]
      rfl
    · rw [copyField_overrun h]
      cases copyField payload 4 <;> rfl

theorem readNetParams_overrun {payload : Bytes} {dataLen : UInt16}
    {copy : Copy} (hcopy : copy ∈ netParamsCopies payload)
    (h : copy.destination.size < copy.count) :
    readNetParams payload dataLen = none := by
  unfold netParamsCopies at hcopy
  split at hcopy
  case isTrue => cases hcopy
  case isFalse hmode =>
    unfold readNetParams
    simp only [hmode, if_false]
    simp only [List.mem_cons, List.not_mem_nil, or_false] at hcopy
    rcases hcopy with rfl | rfl | rfl
    · rw [copyField_overrun h]
      rfl
    · rw [copyField_overrun h]
      cases copyField payload 2 <;> rfl
    · rw [copyField_overrun h]
      cases copyField payload 2 with
      | none => rfl
      | some ip => cases copyField payload (netmaskIndex payload) <;> rfl

theorem overrun_has_no_result {env : CommandEnv} {fd : Int}
    {device : Device} {frame : Bytes} {copy : Copy}
    (hcopy : copy ∈ analyzeCommandCopies device frame)
    (h : copy.destination.size < copy.count) :
    analyzeCommand env fd device frame = none := by
  unfold analyzeCommandCopies at hcopy
  split at hcopy
  case isFalse => cases hcopy
  case isTrue haccepted =>
    rw [analyzeCommand, if_pos haccepted]
    have hnode : ∀ {message}, copy = ⟨.msgData, headerDataLen frame⟩ →
        nodeCommand device frame message = none := by
      rintro message rfl
      exact if_neg (Nat.not_le.mpr h)
    cases hcommand : Command.ofCode? (byteAt frame 0) with
    | none =>
        rw [hcommand] at hcopy
        cases hcopy
    | some command =>
        rw [hcommand] at hcopy
        cases command with
        | setServerIp =>
            simp only [handleCommand, setterCommand, Setter.run,
              setRemoteServerIp, readServerIp_overrun hcopy h]
            rfl
        | netParamsOpt =>
            dsimp only [commandCopies] at hcopy
            split at hcopy
            case isFalse => cases hcopy
            case isTrue hset =>
              simp only [handleCommand, if_pos hset, setterCommand,
                Setter.run, setDeviceNetParams,
                readNetParams_overrun hcopy h]
              rfl
        | configureFilesOpt =>
            dsimp only [commandCopies] at hcopy
            split at hcopy
            · cases hcopy
            · have hfits := downloadCopies_fit device frame copy hcopy
              unfold downloadCopies at hcopy
              split at hcopy
              · obtain rfl := List.mem_singleton.mp hcopy
                simp only [Copy.Fits, Destination.room, Destination.size] at *
                omega
              · cases hcopy
        | loraConfigNodeByRange => exact hnode (List.mem_singleton.mp hcopy)
        | loraInitNode => exact hnode (List.mem_singleton.mp hcopy)
        | loraConfigNodeById => exact hnode (List.mem_singleton.mp hcopy)
        | _ => cases hcopy

end WncFirmware.Tcp
