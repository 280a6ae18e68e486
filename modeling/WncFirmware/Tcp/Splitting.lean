import WncFirmware.Tcp.Termination

/-!
# Reassembly and the cuts of the stream

Every dispatched command is a piece of the stream that starts at a device
type, and the pieces are disjoint and in order.  The header is read from the
current piece only: a cut inside it hides the device type or the declared
length.  Where no cut hides a header, the commands are those of the uncut
stream, whatever the cuts do to the payloads and to the bytes between packets.
-/

namespace WncFirmware.Tcp

open WncFirmware.Foundation

/-! ## Commands are pieces of the stream -/

/-- The pieces lie in the stream one after the other, with gaps between them. -/
def Pieces : List Bytes → Bytes → Prop
  | [], _ => True
  | piece :: pieces, stream =>
      ∃ gap rest, stream = gap ++ piece ++ rest ∧ Pieces pieces rest

theorem Pieces.append {first second : List Bytes} {left right : Bytes}
    (hfirst : Pieces first left) (hsecond : Pieces second right) :
    Pieces (first ++ second) (left ++ right) := by
  induction first generalizing left with
  | nil =>
      cases second with
      | nil => trivial
      | cons piece pieces =>
          obtain ⟨gap, rest, rfl, hrest⟩ := hsecond
          exact ⟨left ++ gap, rest, by simp, hrest⟩
  | cons piece pieces ih =>
      obtain ⟨gap, rest, rfl, hrest⟩ := hfirst
      exact ⟨gap, rest ++ right, by simp, ih hrest⟩

def RecvState.held (state : RecvState) : Bytes :=
  if state.newPack then [] else state.cmdBuf

@[simp] theorem held_initial : RecvState.initial.held = [] := rfl

private theorem copyPass_pieces (state : RecvState) (data : Bytes)
    (hopen : state.newPack = false) :
    ∃ consumed,
      state.cmdBuf ++ data =
        consumed ++ ((copyPass state data hopen).state.held ++
          (copyPass state data hopen).rest) ∧
      Pieces (copyPass state data hopen).command.toList consumed := by
  unfold copyPass
  dsimp only
  split
  · refine ⟨state.cmdBuf ++ data.take (copyLen state data), ?_, ?_⟩
    · simp [RecvState.held]
    · exact ⟨[], [], by simp, trivial⟩
  · refine ⟨[], ?_, trivial⟩
    simp [RecvState.held]

theorem recvPass_pieces (state : RecvState) (data : Bytes) :
    ∃ consumed,
      state.held ++ data =
        consumed ++ ((recvPass state data).state.held ++
          (recvPass state data).rest) ∧
      Pieces (recvPass state data).command.toList consumed := by
  rcases recvPass_cases state data with
    ⟨hopen, hpass⟩ | ⟨hnew, -, hpass⟩ | ⟨hnew, -, hpass⟩
  · rw [hpass]
    simpa [RecvState.held, hopen] using copyPass_pieces state data hopen
  · rw [hpass]
    simpa [RecvState.held, hnew, RecvState.opened] using
      copyPass_pieces (RecvState.opened data) data rfl
  · rw [hpass]
    refine ⟨data.take 1, ?_, trivial⟩
    cases data <;> simp [RecvState.held, hnew]

theorem recvLoop_pieces (fuel : Nat) (state : RecvState) (data : Bytes) :
    Pieces (recvLoop fuel state data).1 (state.held ++ data) ∧
      ∀ final, (recvLoop fuel state data).2 = some final →
        ∃ consumed, state.held ++ data = consumed ++ final.held ∧
          Pieces (recvLoop fuel state data).1 consumed := by
  induction fuel generalizing state data with
  | zero =>
      cases data with
      | nil =>
          refine ⟨trivial, fun final hfinal => ⟨[], ?_, trivial⟩⟩
          simp only [recvLoop, Option.some.injEq] at hfinal
          simp [hfinal]
      | cons byte data => exact ⟨trivial, by simp [recvLoop]⟩
  | succ fuel ih =>
      cases data with
      | nil =>
          refine ⟨trivial, fun final hfinal => ⟨[], ?_, trivial⟩⟩
          simp only [recvLoop, Option.some.injEq] at hfinal
          simp [hfinal]
      | cons byte data =>
          obtain ⟨consumed, hsplit, hpieces⟩ :=
            recvPass_pieces state (byte :: data)
          obtain ⟨hlater, hfinals⟩ := ih (recvPass state (byte :: data)).state
            (recvPass state (byte :: data)).rest
          simp only [recvLoop]
          refine ⟨hsplit ▸ hpieces.append hlater, fun final hfinal => ?_⟩
          obtain ⟨after, hafter, hpieces'⟩ := hfinals final hfinal
          exact ⟨consumed ++ after, by rw [hsplit, hafter, List.append_assoc],
            hpieces.append hpieces'⟩

/-! ## Commands start at a device type -/

def RecvState.Labelled (state : RecvState) : Prop :=
  state.newPack = false → isDeviceType state.cmdBuf = true ∧ 13 ≤ state.packLen

def CommandFrame (command : Bytes) : Prop :=
  isDeviceType command = true ∧ 13 ≤ command.length

theorem isDeviceType_append {front : Bytes} (back : Bytes)
    (h : isDeviceType front = true) : isDeviceType (front ++ back) = true := by
  simp only [isDeviceType, Bool.and_eq_true, beq_iff_eq] at h ⊢
  have hfive := lt_length_of_byteAt_ne_zero front 5 (by simp [h.1])
  have hsix := lt_length_of_byteAt_ne_zero front 6 (by simp [h.2])
  rw [byteAt_append_left back hfive, byteAt_append_left back hsix]
  exact h

theorem isDeviceType_take {data : Bytes} {count : Nat} (hcount : 7 ≤ count)
    (h : isDeviceType data = true) : isDeviceType (data.take count) = true := by
  simp only [isDeviceType, Bool.and_eq_true, beq_iff_eq] at h ⊢
  have hsix := lt_length_of_byteAt_ne_zero data 6 (by simp [h.2])
  have htake : ∀ index, index < 7 →
      byteAt (data.take count) index = byteAt data index := by
    intro index hindex
    conv_rhs => rw [← List.take_append_drop count data]
    refine (byteAt_append_left _ ?_).symm
    rw [List.length_take]
    omega
  rw [htake 5 (by omega), htake 6 (by omega)]
  exact h

private theorem copyPass_labelled {state : RecvState} {data : Bytes}
    (hopen : state.newPack = false)
    (hlabel : isDeviceType
      (state.cmdBuf ++ data.take (copyLen state data)) = true)
    (hlong : 13 ≤ state.packLen) :
    (copyPass state data hopen).state.Labelled ∧
      ∀ command ∈ (copyPass state data hopen).command, CommandFrame command := by
  unfold copyPass
  dsimp only
  split
  case isTrue hdone =>
    refine ⟨by simp [RecvState.Labelled], ?_⟩
    rintro command hcommand
    obtain rfl : _ = command := by simpa using hcommand
    exact ⟨hlabel, by omega⟩
  case isFalse => exact ⟨fun _ => ⟨hlabel, hlong⟩, by simp⟩

theorem recvPass_labelled {state : RecvState} (hstate : state.Labelled)
    (data : Bytes) :
    (recvPass state data).state.Labelled ∧
      ∀ command ∈ (recvPass state data).command, CommandFrame command := by
  rcases recvPass_cases state data with
    ⟨hopen, hpass⟩ | ⟨-, hdevice, hpass⟩ | ⟨hnew, -, hpass⟩
  · obtain ⟨hlabel, hlong⟩ := hstate hopen
    rw [hpass]
    exact copyPass_labelled hopen (isDeviceType_append _ hlabel) hlong
  · have hsix : 6 < data.length := by
      simp only [isDeviceType, Bool.and_eq_true, beq_iff_eq] at hdevice
      exact lt_length_of_byteAt_ne_zero data 6 (by simp [hdevice.2])
    have hlong := declaredLength_pos data
    have hcount : 7 ≤ copyLen (RecvState.opened data) data := by
      simp only [copyLen, RecvState.opened, List.length_nil, maxTcpDataLength]
      omega
    rw [hpass]
    exact copyPass_labelled rfl
      (by simpa [RecvState.opened] using isDeviceType_take hcount hdevice) hlong
  · rw [hpass]
    exact ⟨hstate, by simp⟩

theorem recvLoop_labelled {state : RecvState} (hstate : state.Labelled)
    (fuel : Nat) (data : Bytes) :
    (∀ command ∈ (recvLoop fuel state data).1, CommandFrame command) ∧
      ∀ final, (recvLoop fuel state data).2 = some final → final.Labelled := by
  induction fuel generalizing state data with
  | zero =>
      cases data with
      | nil =>
          refine ⟨by simp [recvLoop], fun final hfinal => ?_⟩
          simp only [recvLoop, Option.some.injEq] at hfinal
          exact hfinal ▸ hstate
      | cons byte data => simp [recvLoop]
  | succ fuel ih =>
      cases data with
      | nil =>
          refine ⟨by simp [recvLoop], fun final hfinal => ?_⟩
          simp only [recvLoop, Option.some.injEq] at hfinal
          exact hfinal ▸ hstate
      | cons byte data =>
          obtain ⟨hnext, hcommand⟩ := recvPass_labelled hstate (byte :: data)
          obtain ⟨hlater, hfinals⟩ := ih hnext _
          refine ⟨?_, hfinals⟩
          intro command hmem
          rcases List.mem_append.mp hmem with hmem | hmem
          · exact hcommand command (by simpa using hmem)
          · exact hlater command hmem

/-! ## Headers of the stream -/

/--
The stream holds a header that begins where only `header` is left of it: bytes
before a device type are skipped, and a packet that fits `cmd_buf` is passed
over.
-/
inductive HeaderIn : Bytes → Bytes → Prop
  | here {stream} (h : isDeviceType stream = true) : HeaderIn stream stream
  | skip {byte stream header} (h : isDeviceType (byte :: stream) = false)
      (later : HeaderIn stream header) : HeaderIn (byte :: stream) header
  | behind {stream header} (h : isDeviceType stream = true)
      (hfits : declaredLength stream ≤ maxTcpDataLength)
      (later : HeaderIn (stream.drop (declaredLength stream)) header) :
      HeaderIn stream header

/-- Up to every cut behind its start, the header reads as it does uncut. -/
def ReadWhole (chunks : List Bytes) (header : Bytes) : Prop :=
  ∀ back, back <:+ chunks → ∀ received, received ≠ [] →
    header = received ++ back.flatten →
      isDeviceType received = true ∧
        declaredLength received = declaredLength header

theorem HeaderIn.isDeviceType {stream header : Bytes}
    (h : HeaderIn stream header) : isDeviceType header = true := by
  induction h with
  | here h => exact h
  | skip _ _ ih => exact ih
  | behind _ _ _ ih => exact ih

theorem ReadWhole.tail {chunk : Bytes} {chunks : List Bytes} {header : Bytes}
    (h : ReadWhole (chunk :: chunks) header) : ReadWhole chunks header :=
  fun back hback => h back (hback.trans (List.suffix_cons chunk chunks))

end WncFirmware.Tcp
