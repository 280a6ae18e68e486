import WncFirmware.Tcp.Splitting

/-!
# The command buffer

`handle_recv_pack` with its variables as the source has them: the lengths are
unsigned numbers of 32 bits, and `cmd_buf` is the memory from its first byte on,
which the copies could leave.  They never do: the variables follow the model of
the reassembly, in which the buffer is the list of the bytes copied so far.
-/

namespace WncFirmware.Tcp

open WncFirmware.Foundation

/-! ## The static variables -/

/-- The array `cmd_buf` has the indices below 1024. -/
structure CmdBuffer where
  newPack : Bool
  packLen : UInt32
  cmdBufLen : UInt32
  cmdBuf : Nat → UInt8

namespace CmdBuffer

/-- The variables as the C startup code sets them. -/
def initial : CmdBuffer := ⟨true, 0, 0, fun _ => 0⟩

/-- A new packet: its length from the header, and the buffer cleared. -/
def opened (buffer : CmdBuffer) (data : Bytes) : CmdBuffer where
  newPack := false
  packLen := UInt32.ofNat (declaredLength data)
  cmdBufLen := 0
  cmdBuf index := if index < maxTcpDataLength then 0 else buffer.cmdBuf index

def minOf (first second : UInt32) : UInt32 :=
  if first < second then first else second

def copyLen (buffer : CmdBuffer) (len : UInt32) : UInt32 :=
  minOf (minOf (UInt32.ofNat maxTcpDataLength - buffer.cmdBufLen) len)
    (buffer.packLen - buffer.cmdBufLen)

def copied (buffer : CmdBuffer) (bytes : Bytes) (count : UInt32) :
    CmdBuffer :=
  { buffer with
    cmdBufLen := buffer.cmdBufLen + count
    cmdBuf := fun index =>
      if buffer.cmdBufLen.toNat ≤ index ∧
          index < buffer.cmdBufLen.toNat + count.toNat then
        byteAt bytes (index - buffer.cmdBufLen.toNat)
      else buffer.cmdBuf index }

def command (buffer : CmdBuffer) : Bytes :=
  (List.range buffer.packLen.toNat).map buffer.cmdBuf

end CmdBuffer

structure BufferPass where
  opened : CmdBuffer
  count : Nat
  after : CmdBuffer
  rest : Bytes
  command : Option Bytes

namespace CmdBuffer

def copyPass (buffer : CmdBuffer) (data : Bytes) : BufferPass :=
  let count := buffer.copyLen (UInt32.ofNat data.length)
  let copied := buffer.copied data count
  let rest := data.drop count.toNat
  if copied.cmdBufLen = copied.packLen then
    ⟨buffer, count.toNat, { copied with newPack := true }, rest,
      some copied.command⟩
  else ⟨buffer, count.toNat, copied, rest, none⟩

def pass (buffer : CmdBuffer) (data : Bytes) : BufferPass :=
  if buffer.newPack then
    if isDeviceType data then (buffer.opened data).copyPass data
    else ⟨buffer, 0, buffer, data.tail, none⟩
  else buffer.copyPass data

/-- The first passes of a call; there is no result while data is left. -/
def loop : Nat → CmdBuffer → Bytes → List BufferPass × Option CmdBuffer
  | _, buffer, [] => ([], some buffer)
  | 0, _, _ :: _ => ([], none)
  | fuel + 1, buffer, byte :: data =>
      let pass := buffer.pass (byte :: data)
      let later := loop fuel pass.after pass.rest
      (pass :: later.1, later.2)

def run (fuel : Nat) : CmdBuffer → List Bytes → List BufferPass × Option CmdBuffer
  | buffer, [] => ([], some buffer)
  | buffer, chunk :: chunks =>
      match loop fuel buffer chunk with
      | (passes, none) => (passes, none)
      | (passes, some next) =>
          let later := run fuel next chunks
          (passes ++ later.1, later.2)

end CmdBuffer

/-! ## The variables follow the model -/

structure FollowsStream (buffer : CmdBuffer) (state : RecvState) : Prop where
  newPack : buffer.newPack = state.newPack
  packLen : buffer.packLen.toNat = state.packLen
  cmdBufLen : buffer.cmdBufLen.toNat = state.cmdBuf.length
  cmdBuf : ∀ index < state.cmdBuf.length,
    buffer.cmdBuf index = byteAt state.cmdBuf index

theorem followsStream_initial : FollowsStream .initial .initial :=
  ⟨rfl, rfl, rfl, fun _ h => absurd h (Nat.not_lt_zero _)⟩

theorem declaredLength_lt (data : Bytes) : declaredLength data < 2 ^ 17 := by
  have hhigh := (byteAt data 10).toNat_lt
  have hlow := (byteAt data 11).toNat_lt
  simp only [declaredLength, headerDataLen, bigEndian16, headerSize]
  omega

theorem FollowsStream.opened (buffer : CmdBuffer) (data : Bytes) :
    FollowsStream (buffer.opened data) (RecvState.opened data) := by
  have hlt := declaredLength_lt data
  refine ⟨rfl, ?_, rfl, fun _ h => absurd h (Nat.not_lt_zero _)⟩
  rw [CmdBuffer.opened, UInt32.toNat_ofNat']
  exact Nat.mod_eq_of_lt (by omega)

theorem toNat_minOf (first second : UInt32) :
    (CmdBuffer.minOf first second).toNat = min first.toNat second.toNat := by
  rw [CmdBuffer.minOf]
  split
  case isTrue hlt =>
    have hlt := UInt32.lt_iff_toNat_lt.mp hlt
    omega
  case isFalse hle =>
    have hle := UInt32.lt_iff_toNat_lt.not.mp hle
    omega

variable {buffer : CmdBuffer} {state : RecvState} {data : Bytes}

theorem FollowsStream.copyLen (h : FollowsStream buffer state)
    (hopen : state.newPack = false)
    (hdata : data.length ≤ maxTcpDataLength) :
    (buffer.copyLen (UInt32.ofNat data.length)).toNat =
      Tcp.copyLen state data := by
  have hfits := state.fits
  have hless := state.incomplete hopen
  have hlen : (UInt32.ofNat data.length).toNat = data.length := by
    rw [UInt32.toNat_ofNat']
    rw [maxTcpDataLength] at hdata
    omega
  have hroom : (UInt32.ofNat maxTcpDataLength - buffer.cmdBufLen).toNat =
      maxTcpDataLength - state.cmdBuf.length := by
    rw [UInt32.toNat_sub_of_le, h.cmdBufLen]
    · rfl
    · rw [UInt32.le_iff_toNat_le, h.cmdBufLen]
      exact hfits
  have hleft : (buffer.packLen - buffer.cmdBufLen).toNat =
      state.packLen - state.cmdBuf.length := by
    rw [UInt32.toNat_sub_of_le, h.cmdBufLen, h.packLen]
    rw [UInt32.le_iff_toNat_le, h.cmdBufLen, h.packLen]
    exact hless.le
  rw [CmdBuffer.copyLen, toNat_minOf, toNat_minOf, hroom, hleft, hlen,
    Tcp.copyLen]

theorem FollowsStream.copied (h : FollowsStream buffer state) {count : UInt32}
    (hcount : count.toNat = Tcp.copyLen state data) :
    (buffer.copied data count).cmdBufLen.toNat =
        (state.cmdBuf ++ data.take (Tcp.copyLen state data)).length ∧
      ∀ index < (state.cmdBuf ++ data.take (Tcp.copyLen state data)).length,
        (buffer.copied data count).cmdBuf index =
          byteAt (state.cmdBuf ++ data.take (Tcp.copyLen state data))
            index := by
  have hfits := copied_fits state data
  have hle := copyLen_le_length state data
  rw [length_copied] at hfits ⊢
  constructor
  · rw [CmdBuffer.copied, UInt32.toNat_add, h.cmdBufLen, hcount]
    rw [maxTcpDataLength] at hfits
    omega
  · intro index hindex
    simp only [CmdBuffer.copied, h.cmdBufLen, hcount]
    by_cases hold : index < state.cmdBuf.length
    · rw [if_neg (by omega), h.cmdBuf index hold, byteAt_append_left _ hold]
    · rw [if_pos (by omega)]
      obtain ⟨offset, rfl⟩ := Nat.exists_eq_add_of_le (Nat.not_lt.mp hold)
      have hoffset : offset < (data.take (Tcp.copyLen state data)).length := by
        rw [List.length_take]
        omega
      rw [Nat.add_sub_cancel_left, byteAt_append_right]
      conv_lhs => rw [← List.take_append_drop (Tcp.copyLen state data) data]
      exact byteAt_append_left _ hoffset

theorem byteAt_map_range {bytes : Nat → UInt8} {count index : Nat}
    (h : index < count) :
    byteAt ((List.range count).map bytes) index = bytes index := by
  simp [byteAt, List.getD_eq_getElem?_getD, h]

/-! ## One pass -/

namespace CmdBuffer

theorem pass_open (hopen : buffer.newPack = false) :
    buffer.pass data = buffer.copyPass data := by
  rw [pass, if_neg (by rw [hopen]; decide)]

theorem pass_opens (hnew : buffer.newPack = true)
    (hdevice : isDeviceType data = true) :
    buffer.pass data = (buffer.opened data).copyPass data := by
  rw [pass, if_pos hnew, if_pos hdevice]

theorem pass_skips (hnew : buffer.newPack = true)
    (hdevice : isDeviceType data = false) :
    buffer.pass data = ⟨buffer, 0, buffer, data.tail, none⟩ := by
  rw [pass, if_pos hnew, if_neg (by rw [hdevice]; decide)]

end CmdBuffer

structure PassFollows (pass : BufferPass) (model : Pass) : Prop where
  after : FollowsStream pass.after model.state
  rest : pass.rest = model.rest
  command : pass.command = model.command

theorem FollowsStream.copyPass (h : FollowsStream buffer state)
    (hopen : state.newPack = false) (hdata : data.length ≤ maxTcpDataLength) :
    PassFollows (buffer.copyPass data) (Tcp.copyPass state data hopen) := by
  have hcount := h.copyLen hopen hdata
  obtain ⟨hlength, hbytes⟩ := h.copied hcount
  have hpack : (buffer.copied data
      (buffer.copyLen (UInt32.ofNat data.length))).packLen.toNat =
      state.packLen := h.packLen
  have hnew : (buffer.copied data
      (buffer.copyLen (UInt32.ofNat data.length))).newPack = false :=
    h.newPack.trans hopen
  rw [CmdBuffer.copyPass, Tcp.copyPass]
  generalize buffer.copied data
    (buffer.copyLen (UInt32.ofNat data.length)) = copied at *
  have hdone : copied.cmdBufLen = copied.packLen ↔
      (state.cmdBuf ++ data.take (Tcp.copyLen state data)).length =
        state.packLen := by
    rw [← UInt32.toNat_inj, hlength, hpack]
  by_cases hcomplete :
      (state.cmdBuf ++ data.take (Tcp.copyLen state data)).length =
        state.packLen
  · rw [if_pos (hdone.mpr hcomplete), dif_pos hcomplete]
    refine ⟨⟨rfl, hpack, hlength, hbytes⟩, by rw [hcount], ?_⟩
    apply congrArg some
    apply bytes_ext
    · rw [CmdBuffer.command, List.length_map, List.length_range, hpack,
        hcomplete]
    · intro index hindex
      rw [CmdBuffer.command, List.length_map, List.length_range, hpack,
        ← hcomplete] at hindex
      rw [← hbytes index hindex, CmdBuffer.command, hpack, ← hcomplete,
        byteAt_map_range hindex]
  · rw [if_neg (mt hdone.mp hcomplete), dif_neg hcomplete]
    exact ⟨⟨hnew, hpack, hlength, hbytes⟩, by rw [hcount], rfl⟩

theorem FollowsStream.pass (h : FollowsStream buffer state)
    (hdata : data.length ≤ maxTcpDataLength) :
    PassFollows (buffer.pass data) (recvPass state data) := by
  rcases recvPass_cases state data with
    ⟨hopen, hpass⟩ | ⟨hnew, hdevice, hpass⟩ | ⟨hnew, hdevice, hpass⟩
  · rw [hpass, CmdBuffer.pass_open (h.newPack.trans hopen)]
    exact h.copyPass hopen hdata
  · rw [hpass, CmdBuffer.pass_opens (h.newPack.trans hnew) hdevice]
    exact (FollowsStream.opened buffer data).copyPass rfl hdata
  · rw [hpass, CmdBuffer.pass_skips (h.newPack.trans hnew) hdevice]
    exact ⟨h, rfl, rfl⟩

/-! ## No copy leaves the buffer -/

structure StaysInBuffer (pass : BufferPass) : Prop where
  opened : pass.opened.newPack = false →
    pass.opened.cmdBufLen.toNat ≤
      min pass.opened.packLen.toNat maxTcpDataLength
  copied : pass.opened.newPack = false →
    pass.opened.cmdBufLen.toNat + pass.count ≤
      min pass.opened.packLen.toNat maxTcpDataLength
  after : pass.after.newPack = false →
    pass.after.cmdBufLen.toNat ≤
      min pass.after.packLen.toNat maxTcpDataLength
  command : ∀ command ∈ pass.command,
    command.length = pass.opened.packLen.toNat ∧
      command.length ≤ maxTcpDataLength

theorem FollowsStream.filled_le (h : FollowsStream buffer state)
    (hopen : buffer.newPack = false) :
    buffer.cmdBufLen.toNat ≤ min buffer.packLen.toNat maxTcpDataLength := by
  have hfits := state.fits
  have hless := state.incomplete (h.newPack ▸ hopen)
  rw [h.cmdBufLen, h.packLen]
  omega

theorem FollowsStream.copyPass_stays (h : FollowsStream buffer state)
    (hopen : state.newPack = false) (hdata : data.length ≤ maxTcpDataLength) :
    StaysInBuffer (buffer.copyPass data) := by
  have hfollows := h.copyPass hopen hdata
  have hcount := h.copyLen hopen hdata
  have hfits := copied_fits state data
  have hless := state.incomplete hopen
  rw [length_copied] at hfits
  have hopened : (buffer.copyPass data).opened = buffer ∧
      (buffer.copyPass data).count =
        (buffer.copyLen (UInt32.ofNat data.length)).toNat := by
    rw [CmdBuffer.copyPass]
    split <;> exact ⟨rfl, rfl⟩
  have hroom : Tcp.copyLen state data ≤
      state.packLen - state.cmdBuf.length := Nat.min_le_right _ _
  constructor
  case opened =>
    rw [hopened.1]
    exact h.filled_le
  case copied =>
    intro _
    rw [hopened.1, hopened.2, hcount, h.cmdBufLen, h.packLen]
    omega
  case after => exact hfollows.after.filled_le
  case command =>
    intro command hcommand
    rw [hfollows.command] at hcommand
    rcases copyPass_cases state data hopen with
      ⟨hdone, -, hsome⟩ | ⟨-, -, hnone⟩
    · rw [hsome] at hcommand
      obtain rfl := Option.some.inj hcommand
      rw [hopened.1, h.packLen, length_copied]
      omega
    · rw [hnone] at hcommand
      cases hcommand

theorem FollowsStream.pass_stays (h : FollowsStream buffer state)
    (hdata : data.length ≤ maxTcpDataLength) :
    StaysInBuffer (buffer.pass data) := by
  rcases recvPass_cases state data with
    ⟨hopen, -⟩ | ⟨hnew, hdevice, -⟩ | ⟨hnew, hdevice, -⟩
  · rw [CmdBuffer.pass_open (h.newPack.trans hopen)]
    exact h.copyPass_stays hopen hdata
  · rw [CmdBuffer.pass_opens (h.newPack.trans hnew) hdevice]
    exact (FollowsStream.opened buffer data).copyPass_stays rfl hdata
  · rw [CmdBuffer.pass_skips (h.newPack.trans hnew) hdevice]
    have hclosed : ¬buffer.newPack = false := by
      rw [h.newPack, hnew]
      decide
    exact ⟨fun hopen => absurd hopen hclosed,
      fun hopen => absurd hopen hclosed, fun hopen => absurd hopen hclosed,
      fun _ hcommand => absurd hcommand (Option.not_mem_none _)⟩

/-! ## Whole runs -/

def passCommands (passes : List BufferPass) : List Bytes :=
  passes.filterMap BufferPass.command

theorem passCommands_cons (pass : BufferPass) (passes : List BufferPass) :
    passCommands (pass :: passes) =
      pass.command.toList ++ passCommands passes := by
  rw [passCommands, List.filterMap_cons]
  cases pass.command <;> rfl

theorem recvPass_rest_le (state : RecvState) (data : Bytes) :
    (recvPass state data).rest.length ≤ data.length := by
  rcases recvPass_cases state data with
    ⟨hopen, hpass⟩ | ⟨-, -, hpass⟩ | ⟨-, -, hpass⟩
  · rw [hpass]
    exact (copyPass_rest_length _ _ hopen).trans_le (Nat.sub_le _ _)
  · rw [hpass]
    exact (copyPass_rest_length _ _ rfl).trans_le (Nat.sub_le _ _)
  · rw [hpass, List.length_tail]
    exact Nat.sub_le _ _

structure LoopFollows (loop : List BufferPass × Option CmdBuffer)
    (model : List Bytes × Option RecvState) : Prop where
  stays : ∀ pass ∈ loop.1, StaysInBuffer pass
  commands : passCommands loop.1 = model.1
  final : Option.Rel FollowsStream loop.2 model.2

theorem FollowsStream.loop (fuel : Nat) (h : FollowsStream buffer state)
    (hdata : data.length ≤ maxTcpDataLength) :
    LoopFollows (buffer.loop fuel data) (recvLoop fuel state data) := by
  induction fuel generalizing buffer state data with
  | zero =>
      cases data with
      | nil => exact ⟨by simp [CmdBuffer.loop], rfl, .some h⟩
      | cons byte data => exact ⟨by simp [CmdBuffer.loop], rfl, .none⟩
  | succ fuel ih =>
      cases data with
      | nil => exact ⟨by simp [CmdBuffer.loop], rfl, .some h⟩
      | cons byte data =>
          have hpass := h.pass hdata
          have hrest := recvPass_rest_le state (byte :: data)
          have hlater := ih hpass.after (hrest.trans hdata)
          rw [← hpass.rest] at hlater
          constructor
          case stays =>
            intro pass hmem
            rcases List.mem_cons.mp hmem with rfl | hmem
            · exact h.pass_stays hdata
            · exact hlater.stays pass hmem
          case commands =>
            rw [recvLoop, ← hpass.command, ← hpass.rest, ← hlater.commands]
            exact passCommands_cons _ _
          case final =>
            rw [recvLoop, ← hpass.rest]
            exact hlater.final

structure DispatchesPieces (passes : List BufferPass) (stream : Bytes) :
    Prop where
  stays : ∀ pass ∈ passes, StaysInBuffer pass
  pieces : Pieces (passCommands passes) stream
  frames : ∀ command ∈ passCommands passes, CommandFrame command

theorem DispatchesPieces.nil (stream : Bytes) : DispatchesPieces [] stream :=
  ⟨by simp, trivial, by simp [passCommands]⟩

theorem DispatchesPieces.append {first second : List BufferPass}
    {left right : Bytes} (hfirst : DispatchesPieces first left)
    (hsecond : DispatchesPieces second right) :
    DispatchesPieces (first ++ second) (left ++ right) := by
  have hcommands : passCommands (first ++ second) =
      passCommands first ++ passCommands second := List.filterMap_append
  constructor
  case stays =>
    intro pass hmem
    rcases List.mem_append.mp hmem with hmem | hmem
    · exact hfirst.stays pass hmem
    · exact hsecond.stays pass hmem
  case pieces =>
    rw [hcommands]
    exact hfirst.pieces.append hsecond.pieces
  case frames =>
    intro command hmem
    rw [hcommands] at hmem
    rcases List.mem_append.mp hmem with hmem | hmem
    · exact hfirst.frames command hmem
    · exact hsecond.frames command hmem

theorem FollowsStream.run {fuel : Nat} {chunks : List Bytes}
    (h : FollowsStream buffer state) (hlabel : state.Labelled)
    (hchunks : ∀ chunk ∈ chunks, chunk.length ≤ maxTcpDataLength) :
    DispatchesPieces (buffer.run fuel chunks).1
      (state.held ++ chunks.flatten) := by
  induction chunks generalizing buffer state with
  | nil => exact .nil _
  | cons chunk chunks ih =>
      have hloop := h.loop fuel (hchunks chunk List.mem_cons_self)
      obtain ⟨hcall, hfinals⟩ := recvLoop_pieces fuel state chunk
      obtain ⟨hframes, hlabels⟩ := recvLoop_labelled hlabel fuel chunk
      have hrel := hloop.final
      rw [← hloop.commands] at hcall hframes hfinals
      rw [List.flatten_cons, ← List.append_assoc, CmdBuffer.run]
      generalize buffer.loop fuel chunk = called at *
      generalize recvLoop fuel state chunk = model at *
      obtain ⟨passes, final⟩ := called
      obtain ⟨commands, modelFinal⟩ := model
      cases hrel with
      | none =>
          have hfirst : DispatchesPieces passes (state.held ++ chunk) :=
            ⟨hloop.stays, hcall, hframes⟩
          simpa using hfirst.append (.nil chunks.flatten)
      | some hnext =>
          obtain ⟨consumed, hsplit, hpieces⟩ := hfinals _ rfl
          have hfirst : DispatchesPieces passes consumed :=
            ⟨hloop.stays, hpieces, hframes⟩
          rw [hsplit, List.append_assoc]
          exact hfirst.append (ih hnext (hlabels _ rfl) fun chunk hmem =>
            hchunks chunk (List.mem_cons_of_mem _ hmem))

theorem dispatched_pieces_of_stream (chunks : List Bytes) (fuel : Nat)
    (hchunks : ∀ chunk ∈ chunks, chunk.length ≤ maxTcpDataLength) :
    DispatchesPieces (CmdBuffer.initial.run fuel chunks).1 chunks.flatten := by
  have hlabel : RecvState.initial.Labelled := fun hopen =>
    absurd hopen (by decide)
  exact followsStream_initial.run hlabel hchunks

/-- A stray byte and a command without payload, in one chunk. -/
theorem command_behind_stray_byte :
    (CmdBuffer.initial.run 2
        [[7, 3, 0, 0, 0, 0, 76, 78, 0, 0, 1, 0, 0, 1]]).2.isSome = true ∧
      passCommands (CmdBuffer.initial.run 2
        [[7, 3, 0, 0, 0, 0, 76, 78, 0, 0, 1, 0, 0, 1]]).1 =
        [[3, 0, 0, 0, 0, 76, 78, 0, 0, 1, 0, 0, 1]] ∧
      DispatchesPieces (CmdBuffer.initial.run 2
        [[7, 3, 0, 0, 0, 0, 76, 78, 0, 0, 1, 0, 0, 1]]).1
        [7, 3, 0, 0, 0, 0, 76, 78, 0, 0, 1, 0, 0, 1] :=
  ⟨by decide, by decide, dispatched_pieces_of_stream
    [[7, 3, 0, 0, 0, 0, 76, 78, 0, 0, 1, 0, 0, 1]] 2 (by decide)⟩

end WncFirmware.Tcp
