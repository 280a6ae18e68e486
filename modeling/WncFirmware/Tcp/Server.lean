import WncFirmware.Tcp.Termination

/-!
# The TCP server thread

One pass of `while(1)` in `thread_tcp_server`: `select`, one `recv` for each
ready client in the order of `client_fd`, the compaction of the list, and at
most one `accept`.  The results of the socket calls are inputs of the pass.  All
clients share the static state of `handle_recv_pack`.  The value of
`MAX_TCP_CONNECT` comes from a configuration header outside the repository and
is a parameter.
-/

namespace WncFirmware.Tcp

open WncFirmware.Foundation

/--
What the socket calls of one pass return: `recv` gives `none` for a result that
is not positive, `accept` gives `none` for a negative one.
-/
structure Sockets where
  isSet : Nat → Bool
  serverIsSet : Bool
  recv : Nat → Option Bytes
  accept : Option Nat
  keepaliveOk : Bool

inductive Outcome where
  | selectError
  | selected (sockets : Sockets)

inductive ServerEvent where
  | handled (fd : Nat) (piece : Bytes) (before : RecvState)
      (commands : List Bytes) (after : Option RecvState)
  | closed (fd : Nat)
  | connected (fd : Nat)
  | refused (fd : Nat)
  | keepaliveFailed (fd : Nat)
  deriving DecidableEq

structure ServerState where
  clientFd : List Nat
  recvState : RecvState
  deriving DecidableEq

def ServerState.initial : ServerState := ⟨[], RecvState.initial⟩

/-! ## One pass of the server loop -/

/--
The loop over `client_fd`.  A closed client leaves a zero in the array.  When
`handle_recv_pack` does not return, the thread makes no further step.
-/
def checkConnects (sockets : Sockets) :
    List Nat → RecvState → List ServerEvent × List Nat × Option RecvState
  | [], state => ([], [], some state)
  | fd :: fds, state =>
      if sockets.isSet fd then
        match sockets.recv fd with
        | none =>
            let later := checkConnects sockets fds state
            (.closed fd :: later.1, 0 :: later.2.1, later.2.2)
        | some piece =>
            match handleRecvPack state piece with
            | (commands, none) =>
                ([.handled fd piece state commands none], fd :: fds, none)
            | (commands, some next) =>
                let later := checkConnects sockets fds next
                (.handled fd piece state commands (some next) :: later.1,
                  fd :: later.2.1, later.2.2)
      else
        let later := checkConnects sockets fds state
        (later.1, fd :: later.2.1, later.2.2)

def refreshConnects (fds : List Nat) : List Nat := fds.filter (· != 0)

def checkAccept (maxConnect : Nat) (sockets : Sockets) (fds : List Nat) :
    List ServerEvent × List Nat :=
  if sockets.serverIsSet then
    match sockets.accept with
    | none => ([], fds)
    | some fd =>
        if sockets.keepaliveOk then
          if fds.length < maxConnect then ([.connected fd], fds ++ [fd])
          else ([.refused fd], fds)
        else ([.keepaliveFailed fd], fds)
  else ([], fds)

def serverPass (maxConnect : Nat) (server : ServerState) :
    Outcome → List ServerEvent × Option ServerState
  | .selectError => ([], some server)
  | .selected sockets =>
      match checkConnects sockets server.clientFd server.recvState with
      | (events, _, none) => (events, none)
      | (events, fds, some state) =>
          let accepted := checkAccept maxConnect sockets (refreshConnects fds)
          (events ++ accepted.1, some ⟨accepted.2, state⟩)

def ServerEvent.isHandled : ServerEvent → Bool
  | .handled _ _ _ _ _ => true
  | _ => false

/-- The events follow one another through the static state of `handle_recv_pack`. -/
inductive Chained : RecvState → List ServerEvent → Option RecvState → Prop
  | nil (state) : Chained state [] (some state)
  | hung {state fd piece} (h : (handleRecvPack state piece).2 = none) :
      Chained state
        [.handled fd piece state (handleRecvPack state piece).1 none] none
  | handled {state fd piece next events final}
      (h : (handleRecvPack state piece).2 = some next)
      (later : Chained next events final) :
      Chained state
        (.handled fd piece state (handleRecvPack state piece).1 (some next) ::
          events) final
  | other {state event events final} (h : event.isHandled = false)
      (later : Chained state events final) :
      Chained state (event :: events) final

theorem Chained.append {state middle : RecvState}
    {first second : List ServerEvent} {final : Option RecvState}
    (hfirst : Chained state first (some middle))
    (hsecond : Chained middle second final) :
    Chained state (first ++ second) final := by
  generalize hend : some middle = last at hfirst
  induction hfirst with
  | nil state =>
      cases hend
      exact hsecond
  | hung h => cases hend
  | handled h later ih => exact .handled h (ih hend)
  | other h later ih => exact .other h (ih hend)

end WncFirmware.Tcp
