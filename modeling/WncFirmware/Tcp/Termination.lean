import WncFirmware.Tcp.Reassembly

/-!
# Termination of the reassembly loop

A pass makes progress unless the packet is longer than `cmd_buf` and the buffer
is full.  That state is never left, and it can only be entered by a call that
finds an oversized packet already open.
-/

namespace WncFirmware.Tcp

open WncFirmware.Foundation

def Returns (state : RecvState) (data : Bytes) : Prop :=
  ∃ fuel final, (recvLoop fuel state data).2 = some final

/--
A call that finds an oversized packet open and receives more bytes than
`cmd_buf` has room for.
-/
def Overruns (state : RecvState) (data : Bytes) : Prop :=
  state.newPack = false ∧ maxTcpDataLength < state.packLen ∧
    maxTcpDataLength < state.cmdBuf.length + data.length

instance (state : RecvState) (data : Bytes) : Decidable (Overruns state data) :=
  inferInstanceAs (Decidable (_ ∧ _ ∧ _))

/-! ## One pass -/

theorem copyPass_rest (state : RecvState) (data : Bytes)
    (hopen : state.newPack = false) :
    (copyPass state data hopen).rest = data.drop (copyLen state data) := by
  unfold copyPass
  dsimp only
  split <;> rfl

theorem copyPass_cmdBuf (state : RecvState) (data : Bytes)
    (hopen : state.newPack = false) :
    (copyPass state data hopen).state.cmdBuf =
      state.cmdBuf ++ data.take (copyLen state data) := by
  unfold copyPass
  dsimp only
  split <;> rfl

theorem copyPass_packLen (state : RecvState) (data : Bytes)
    (hopen : state.newPack = false) :
    (copyPass state data hopen).state.packLen = state.packLen := by
  unfold copyPass
  dsimp only
  split <;> rfl

theorem copyPass_cases (state : RecvState) (data : Bytes)
    (hopen : state.newPack = false) :
    (state.cmdBuf.length + copyLen state data = state.packLen ∧
      (copyPass state data hopen).state.newPack = true ∧
      (copyPass state data hopen).command =
        some (state.cmdBuf ++ data.take (copyLen state data))) ∨
    (state.cmdBuf.length + copyLen state data ≠ state.packLen ∧
      (copyPass state data hopen).state.newPack = false ∧
      (copyPass state data hopen).command = none) := by
  rw [← length_copied]
  unfold copyPass
  dsimp only
  split
  case isTrue hdone => exact .inl ⟨hdone, rfl, rfl⟩
  case isFalse hpending => exact .inr ⟨hpending, rfl, rfl⟩

theorem recvPass_cases (state : RecvState) (data : Bytes) :
    (∃ hopen, recvPass state data = copyPass state data hopen) ∨
    (state.newPack = true ∧ isDeviceType data = true ∧
      recvPass state data = copyPass (RecvState.opened data) data rfl) ∨
    (state.newPack = true ∧ isDeviceType data = false ∧
      recvPass state data = ⟨state, data.tail, none⟩) := by
  unfold recvPass
  split
  case isTrue hopen => exact .inl ⟨hopen, rfl⟩
  case isFalse hnew =>
    simp only [Bool.not_eq_false] at hnew
    split
    case isTrue hdevice => exact .inr (.inl ⟨hnew, hdevice, rfl⟩)
    case isFalse hdevice =>
      exact .inr (.inr ⟨hnew, by simpa using hdevice, rfl⟩)

theorem copyLen_pos {state : RecvState} {data : Bytes}
    (hopen : state.newPack = false) (hdata : 0 < data.length)
    (hroom : state.cmdBuf.length < maxTcpDataLength) :
    0 < copyLen state data := by
  have := state.incomplete hopen
  simp only [copyLen]
  omega

theorem copyPass_rest_length (state : RecvState) (data : Bytes)
    (hopen : state.newPack = false) :
    (copyPass state data hopen).rest.length =
      data.length - copyLen state data := by
  rw [copyPass_rest, List.length_drop]

theorem copyPass_total (state : RecvState) (data : Bytes)
    (hopen : state.newPack = false) :
    (copyPass state data hopen).state.cmdBuf.length +
        (copyPass state data hopen).rest.length =
      state.cmdBuf.length + data.length := by
  have := copyLen_le_length state data
  rw [copyPass_rest_length, copyPass_cmdBuf, length_copied]
  omega

private theorem copyPass_not_overruns {state : RecvState} {data : Bytes}
    (hopen : state.newPack = false)
    (hfits : state.packLen ≤ maxTcpDataLength ∨
      state.cmdBuf.length + data.length ≤ maxTcpDataLength) :
    ¬ Overruns (copyPass state data hopen).state
      (copyPass state data hopen).rest := by
  rintro ⟨-, hlong, htotal⟩
  rw [copyPass_packLen] at hlong
  rw [copyPass_total] at htotal
  omega

private theorem copyPass_progress {state : RecvState} {data : Bytes}
    (hopen : state.newPack = false) (hdata : 0 < data.length)
    (hfits : state.packLen ≤ maxTcpDataLength ∨
      state.cmdBuf.length + data.length ≤ maxTcpDataLength) :
    (copyPass state data hopen).rest.length < data.length := by
  have hincomplete := state.incomplete hopen
  have hpos := copyLen_pos hopen hdata (by omega)
  rw [copyPass_rest_length]
  omega

theorem recvPass_progress {state : RecvState} {data : Bytes}
    (hdata : 0 < data.length) (hlength : data.length ≤ maxTcpDataLength)
    (hsafe : ¬ Overruns state data) :
    (recvPass state data).rest.length < data.length ∧
      ¬ Overruns (recvPass state data).state (recvPass state data).rest := by
  rcases recvPass_cases state data with
    ⟨hopen, hpass⟩ | ⟨-, -, hpass⟩ | ⟨hnew, -, hpass⟩
  · have hfits : state.packLen ≤ maxTcpDataLength ∨
        state.cmdBuf.length + data.length ≤ maxTcpDataLength := by
      by_contra hover
      exact hsafe ⟨hopen, by omega, by omega⟩
    rw [hpass]
    exact ⟨copyPass_progress hopen hdata hfits,
      copyPass_not_overruns hopen hfits⟩
  · have hfits : (RecvState.opened data).packLen ≤ maxTcpDataLength ∨
        (RecvState.opened data).cmdBuf.length + data.length ≤
          maxTcpDataLength := .inr (by simpa [RecvState.opened] using hlength)
    rw [hpass]
    exact ⟨copyPass_progress rfl hdata hfits, copyPass_not_overruns rfl hfits⟩
  · rw [hpass]
    refine ⟨?_, ?_⟩
    · simp only [List.length_tail]
      omega
    · rintro ⟨hopen, -⟩
      simp [hnew] at hopen

/-! ## The loop -/

theorem recvLoop_returns {fuel : Nat} {state : RecvState} {data : Bytes}
    (hfuel : data.length ≤ fuel) (hlength : data.length ≤ maxTcpDataLength)
    (hsafe : ¬ Overruns state data) :
    ∃ final, (recvLoop fuel state data).2 = some final := by
  induction fuel generalizing state data with
  | zero =>
      have hnil : data = [] := by simpa using hfuel
      subst hnil
      exact ⟨state, rfl⟩
  | succ fuel ih =>
      cases data with
      | nil => exact ⟨state, rfl⟩
      | cons byte data =>
          obtain ⟨hless, hnext⟩ :=
            recvPass_progress (by simp) hlength hsafe
          exact ih (by omega) (by omega) hnext

theorem recvPass_stuck {state : RecvState} {data : Bytes}
    (hopen : state.newPack = false)
    (hfull : state.cmdBuf.length = maxTcpDataLength) :
    recvPass state data = ⟨state, data, none⟩ := by
  have hzero : copyLen state data = 0 := by
    simp [copyLen, hfull]
  have hincomplete := state.incomplete hopen
  have hne : state.cmdBuf.length ≠ state.packLen := by omega
  obtain ⟨newPack, packLen, cmdBuf, fits, incomplete⟩ := state
  simp only at hopen hne
  subst hopen
  simp [recvPass, copyPass, hzero, hne]

theorem recvLoop_stuck {fuel : Nat} {state : RecvState} {data : Bytes}
    (hopen : state.newPack = false)
    (hfull : state.cmdBuf.length = maxTcpDataLength) (hdata : data ≠ []) :
    recvLoop fuel state data = ([], none) := by
  obtain ⟨byte, data, rfl⟩ := List.exists_cons_of_ne_nil hdata
  induction fuel with
  | zero => rfl
  | succ fuel ih =>
      rw [recvLoop, recvPass_stuck hopen hfull]
      simp [ih]

theorem recvPass_overruns {state : RecvState} {data : Bytes}
    (hover : Overruns state data) :
    (recvPass state data).state.newPack = false ∧
      (recvPass state data).state.cmdBuf.length = maxTcpDataLength ∧
      (recvPass state data).rest ≠ [] ∧
      (recvPass state data).command = none := by
  obtain ⟨hopen, hlong, htotal⟩ := hover
  have hfits := state.fits
  have hcopy : copyLen state data = maxTcpDataLength - state.cmdBuf.length := by
    simp only [copyLen]
    omega
  have hpass : recvPass state data = copyPass state data hopen := by
    simp [recvPass, hopen]
  have hrest : data.drop (copyLen state data) ≠ [] := by
    intro hnil
    have := congrArg List.length hnil
    simp only [List.length_drop, List.length_nil] at this
    omega
  rw [hpass]
  rcases copyPass_cases state data hopen with
    ⟨hdone, -⟩ | ⟨-, hpending, hcommand⟩
  · omega
  · refine ⟨hpending, ?_, ?_, hcommand⟩
    · rw [copyPass_cmdBuf, length_copied]
      omega
    · rw [copyPass_rest]
      exact hrest

theorem recvLoop_overruns {fuel : Nat} {state : RecvState} {data : Bytes}
    (hover : Overruns state data) : recvLoop fuel state data = ([], none) := by
  have hdata : data ≠ [] := by
    rintro rfl
    obtain ⟨-, -, htotal⟩ := hover
    have := state.fits
    simp only [List.length_nil] at htotal
    omega
  obtain ⟨hopen, hfull, hrest, hcommand⟩ := recvPass_overruns hover
  obtain ⟨byte, data, rfl⟩ := List.exists_cons_of_ne_nil hdata
  cases fuel with
  | zero => rfl
  | succ fuel =>
      rw [recvLoop, recvLoop_stuck hopen hfull hrest, hcommand]
      rfl

theorem handleRecvPack_isSome_iff (state : RecvState) (data : Bytes)
    (hlength : data.length ≤ maxTcpDataLength) :
    (handleRecvPack state data).2.isSome ↔ Returns state data := by
  constructor
  · intro hsome
    obtain ⟨final, hfinal⟩ := Option.isSome_iff_exists.mp hsome
    exact ⟨data.length, final, hfinal⟩
  · rintro ⟨fuel, final, hfinal⟩
    have hsafe : ¬ Overruns state data := by
      intro hover
      rw [recvLoop_overruns hover] at hfinal
      simp at hfinal
    obtain ⟨final, hfinal⟩ := recvLoop_returns le_rfl hlength hsafe
    simp [handleRecvPack, hfinal]

/--
The loop of `handle_recv_pack` ends, with all bytes consumed, exactly when the
call does not overrun an oversized packet that an earlier call left open.
-/
theorem returns_iff_not_overruns (state : RecvState) (data : Bytes)
    (hlength : data.length ≤ maxTcpDataLength) :
    Returns state data ↔ ¬ Overruns state data := by
  constructor
  · rintro ⟨fuel, final, hfinal⟩ hover
    rw [recvLoop_overruns hover] at hfinal
    simp at hfinal
  · intro hsafe
    exact ⟨data.length, recvLoop_returns le_rfl hlength hsafe⟩

/-- A header that declares 1024 bytes of data, 13 more than `cmd_buf` can hold. -/
def oversizedHeader : Bytes := [15, 0, 0, 0, 0, 76, 78, 0, 0, 1, 4, 0]

def oversizedState : RecvState where
  newPack := false
  packLen := 1037
  cmdBuf := oversizedHeader
  fits := by decide
  incomplete := by decide

/-- The first bytes of an oversized packet still fit. -/
theorem oversized_packet_begins :
    Returns oversizedState [1, 2, 3, 4, 5, 6, 7, 8] :=
  (returns_iff_not_overruns oversizedState [1, 2, 3, 4, 5, 6, 7, 8]
    (by decide)).mpr (by decide)

/-- One oversized packet, received as 12 and 1013 bytes, hangs the server thread. -/
theorem oversized_packet_hangs :
    recvRun RecvState.initial [oversizedHeader] = ([], some oversizedState) ∧
      ¬ Returns oversizedState (List.replicate 1013 0) := by
  refine ⟨by decide, ?_⟩
  rintro ⟨fuel, final, hfinal⟩
  have hover : Overruns oversizedState (List.replicate 1013 0) := by
    refine ⟨rfl, by decide, ?_⟩
    rw [List.length_replicate]
    decide
  rw [recvLoop_overruns hover] at hfinal
  simp at hfinal

end WncFirmware.Tcp
