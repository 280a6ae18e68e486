import WncFirmware.Foundation.Bytes

/-!
# Reassembly of command packets

`handle_recv_pack` recombines the packets of the user protocol from the pieces
that `recv` returns.  Its static variables survive between calls.  The
model keeps `cmd_buf` as the list of the bytes copied so far, so that `cmd_buf_len`
is its length, and the received piece as a list, so that `len` is its length.
`tcp_buf` is cleared before each `recv`: behind the piece it reads as zero.  A
header that starts in the last bytes of `tcp_buf` is read past its end, which is
taken as zero too.  What `analyze_command` writes to `cmd_buf` is not kept, since
the next packet clears the buffer.
-/

namespace WncFirmware.Tcp

open WncFirmware.Foundation

def maxTcpDataLength : Nat := 1024

def headerSize : Nat := 12

/-!
## Header fields

The header is read through a cast of the data pointer: command, four bytes of
device id, four of device type (`"LN"` is compared), serial number, and the
length of the payload, high byte first.
-/

def isDeviceType (data : Bytes) : Bool :=
  byteAt data 5 == 76 && byteAt data 6 == 78

def headerDataLen (data : Bytes) : Nat :=
  bigEndian16 (byteAt data 10) (byteAt data 11)

def declaredLength (data : Bytes) : Nat :=
  headerSize + headerDataLen data + 1

theorem declaredLength_pos (data : Bytes) : 13 ≤ declaredLength data := by
  simp only [declaredLength, headerSize]
  omega

/-! ## The static state of `handle_recv_pack` -/

/--
`new_pack`, `pack_len` and the filled part of `cmd_buf`.  The two proof fields
hold at every head of the `while` loop: the copies never leave `cmd_buf`, and
an open packet is still incomplete.
-/
structure RecvState where
  newPack : Bool
  packLen : Nat
  cmdBuf : Bytes
  fits : cmdBuf.length ≤ maxTcpDataLength
  incomplete : newPack = false → cmdBuf.length < packLen
  deriving DecidableEq

def RecvState.initial : RecvState where
  newPack := true
  packLen := 0
  cmdBuf := []
  fits := by simp
  incomplete := by simp

def RecvState.opened (data : Bytes) : RecvState where
  newPack := false
  packLen := declaredLength data
  cmdBuf := []
  fits := by simp
  incomplete := fun _ => by
    have := declaredLength_pos data
    simp only [List.length_nil]
    omega

structure Pass where
  state : RecvState
  rest : Bytes
  command : Option Bytes

def copyLen (state : RecvState) (data : Bytes) : Nat :=
  min (min (maxTcpDataLength - state.cmdBuf.length) data.length)
    (state.packLen - state.cmdBuf.length)

theorem copyLen_le_length (state : RecvState) (data : Bytes) :
    copyLen state data ≤ data.length := by
  simp only [copyLen]
  omega

theorem length_copied (state : RecvState) (data : Bytes) :
    (state.cmdBuf ++ data.take (copyLen state data)).length =
      state.cmdBuf.length + copyLen state data := by
  have := copyLen_le_length state data
  simp only [List.length_append, List.length_take]
  omega

theorem copied_fits (state : RecvState) (data : Bytes) :
    (state.cmdBuf ++ data.take (copyLen state data)).length ≤
      maxTcpDataLength := by
  have hfits := state.fits
  rw [length_copied]
  simp only [copyLen]
  omega

def copyPass (state : RecvState) (data : Bytes)
    (hopen : state.newPack = false) : Pass :=
  let cmdBuf := state.cmdBuf ++ data.take (copyLen state data)
  if hdone : cmdBuf.length = state.packLen then
    ⟨⟨true, state.packLen, cmdBuf, copied_fits state data, by simp⟩,
      data.drop (copyLen state data), some cmdBuf⟩
  else
    ⟨⟨false, state.packLen, cmdBuf, copied_fits state data, fun _ => by
        have hlength := length_copied state data
        have hstrict := state.incomplete hopen
        have hmin : copyLen state data ≤
            state.packLen - state.cmdBuf.length := by
          simp only [copyLen]
          omega
        simp only [cmdBuf] at hdone ⊢
        omega⟩,
      data.drop (copyLen state data), none⟩

def recvPass (state : RecvState) (data : Bytes) : Pass :=
  if hnew : state.newPack = false then
    copyPass state data hnew
  else if isDeviceType data then
    copyPass (RecvState.opened data) data rfl
  else
    ⟨state, data.tail, none⟩

/--
The loop for at most `fuel` passes: the commands handed to `analyze_command`
in order, and the static state when the loop ends.
-/
def recvLoop : Nat → RecvState → Bytes → List Bytes × Option RecvState
  | _, state, [] => ([], some state)
  | 0, _, _ :: _ => ([], none)
  | fuel + 1, state, byte :: data =>
      let pass := recvPass state (byte :: data)
      let later := recvLoop fuel pass.state pass.rest
      (pass.command.toList ++ later.1, later.2)

/--
One call of `handle_recv_pack`.  A pass that makes progress consumes a byte, so
`len` passes are enough whenever the loop ends at all
(`handleRecvPack_isSome_iff`); the state is `none` when it does not.
-/
def handleRecvPack (state : RecvState) (data : Bytes) :
    List Bytes × Option RecvState :=
  recvLoop data.length state data

def recvRun : RecvState → List Bytes → List Bytes × Option RecvState
  | state, [] => ([], some state)
  | state, chunk :: chunks =>
      match handleRecvPack state chunk with
      | (commands, none) => (commands, none)
      | (commands, some next) =>
          let later := recvRun next chunks
          (commands ++ later.1, later.2)

def dispatched (chunks : List Bytes) : List Bytes :=
  (recvRun RecvState.initial chunks).1

end WncFirmware.Tcp
