import WncFirmware.Foundation.Runs
import WncFirmware.Tcp.Server

/-!
# Accepted sockets

A history of all sockets that `accept` has returned stands beside the state of
the server.  A descriptor can be used again once it is closed, so that a
socket is an entry of the history and not a number.
-/

namespace WncFirmware.Tcp

open WncFirmware.Foundation

inductive Fate where
  | kept
  | keepaliveFailed
  | disconnected
  | refused
  deriving DecidableEq, Repr

structure Socket where
  fd : Nat
  fate : Fate
  closes : Nat
  deriving DecidableEq, Repr

abbrev SocketHistory := List Socket

/-- `close` reaches the last socket that got the descriptor. -/
def closeSocket (fd : Nat) : SocketHistory → SocketHistory
  | [] => []
  | socket :: older =>
      if socket.fd = fd then
        { socket with fate := .disconnected, closes := socket.closes + 1 } ::
          older
      else socket :: closeSocket fd older

/-- A socket is refused with a text and then closed. -/
def recordEvent (history : SocketHistory) : ServerEvent → SocketHistory
  | .handled _ _ _ _ _ => history
  | .closed fd => closeSocket fd history
  | .connected fd => ⟨fd, .kept, 0⟩ :: history
  | .refused fd => ⟨fd, .refused, 1⟩ :: history
  | .keepaliveFailed fd => ⟨fd, .keepaliveFailed, 0⟩ :: history

def Socket.dropped (socket : Socket) : Bool :=
  socket.fate = .disconnected ∨ socket.fate = .refused

def fdsOf (select : Socket → Bool) (history : SocketHistory) : List Nat :=
  ((history.filter select).map Socket.fd).reverse

/--
The array lists the sockets that were neither disconnected nor refused, and
every other socket has been closed once.
-/
structure NoneLeaked (maxConnect : Nat) (clientFd : List Nat)
    (history : SocketHistory) : Prop where
  listed : clientFd = fdsOf (fun socket => !socket.dropped) history
  distinct : clientFd.Nodup
  room : clientFd.length ≤ maxConnect
  closedOnce : ∀ socket ∈ history, socket.dropped → socket.closes = 1

/-! ## Runs of the server with its history -/

structure ServerHistory where
  server : ServerState
  history : SocketHistory

def ServerHistory.initial : ServerHistory := ⟨.initial, []⟩

def connectionStep (maxConnect : Nat) (state : ServerHistory)
    (outcome : Outcome) : Option ServerHistory :=
  let pass := serverPass maxConnect state.server outcome
  pass.2.map fun next => ⟨next, pass.1.foldl recordEvent state.history⟩

def historyAtAccept (state : ServerHistory) (sockets : Sockets) :
    SocketHistory :=
  (checkConnects sockets state.server.clientFd state.server.recvState).1.foldl
    recordEvent state.history

/-- `accept` returns a positive descriptor that is not open. -/
def AcceptsFresh (state : ServerHistory) : Outcome → Prop
  | .selectError => True
  | .selected sockets =>
      ∀ fd, sockets.accept = some fd → 0 < fd ∧
        ∀ socket ∈ historyAtAccept state sockets, socket.fd = fd →
          socket.closes ≠ 0

def Outcome.keepaliveFails : Outcome → Bool
  | .selectError => false
  | .selected sockets =>
      sockets.serverIsSet && sockets.accept.isSome && !sockets.keepaliveOk

/-! ## What holds of a history in any case -/

structure Consistent (clientFd : List Nat) (history : SocketHistory) :
    Prop where
  listed : clientFd = fdsOf (fun socket => socket.fate = .kept) history
  reused : history.Pairwise fun newer older =>
    newer.fd = older.fd → older.closes = 1
  counted : ∀ socket ∈ history, socket.closes = socket.dropped.toNat
  positive : ∀ socket ∈ history, 0 < socket.fd

theorem mem_fdsOf {select : Socket → Bool} {history : SocketHistory}
    {fd : Nat} :
    fd ∈ fdsOf select history ↔
      ∃ socket ∈ history, select socket = true ∧ socket.fd = fd := by
  simp [fdsOf, and_assoc]

theorem fdsOf_cons (select : Socket → Bool) (socket : Socket)
    (history : SocketHistory) :
    fdsOf select (socket :: history) =
      fdsOf select history ++ if select socket then [socket.fd] else [] := by
  cases hselect : select socket <;> simp [fdsOf, hselect]

theorem fdsOf_append (select : Socket → Bool) (newer older : SocketHistory) :
    fdsOf select (newer ++ older) = fdsOf select older ++ fdsOf select newer := by
  simp [fdsOf]

theorem Consistent.closes_kept {clientFd : List Nat} {history : SocketHistory}
    (h : Consistent clientFd history) {socket : Socket}
    (hmem : socket ∈ history) (hkept : socket.fate = .kept) :
    socket.closes = 0 := by
  rw [h.counted socket hmem]
  simp [Socket.dropped, hkept]

theorem Consistent.distinct {clientFd : List Nat} {history : SocketHistory}
    (h : Consistent clientFd history) : clientFd.Nodup := by
  rw [h.listed, fdsOf, List.Nodup, List.pairwise_reverse, List.pairwise_map,
    List.pairwise_filter]
  refine h.reused.imp_of_mem ?_
  intro newer older hnewer holder hreused _ hkept hsame
  have hclosed := hreused hsame.symm
  rw [h.closes_kept holder (by simpa using hkept)] at hclosed
  cases hclosed

theorem consistent_initial : Consistent [] [] where
  listed := rfl
  reused := .nil
  counted := by simp
  positive := by simp

/-! ## A client that disconnects -/

theorem closeSocket_kept {history : SocketHistory} {fd : Nat}
    (hreused : history.Pairwise fun newer older =>
      newer.fd = older.fd → older.closes = 1)
    (hopen : ∀ socket ∈ history, socket.fate = .kept → socket.closes = 0)
    (hmem : fd ∈ fdsOf (fun socket => socket.fate = .kept) history) :
    ∃ newer socket older, history = newer ++ socket :: older ∧
      socket.fd = fd ∧ socket.fate = .kept ∧
      (∀ other ∈ newer, other.fd ≠ fd) ∧
      closeSocket fd history = newer ++
        { socket with fate := .disconnected, closes := 1 } :: older := by
  induction history with
  | nil => simp [fdsOf] at hmem
  | cons newest older ih =>
      obtain ⟨socket, hsocket, hkept, hfd⟩ := mem_fdsOf.mp hmem
      have hkept : socket.fate = .kept := by simpa using hkept
      have hnewest := List.pairwise_cons.mp hreused
      by_cases hnew : newest.fd = fd
      · have hself : socket = newest := by
          rcases List.mem_cons.mp hsocket with hself | holder
          · exact hself
          · have hclosed := hnewest.1 socket holder (hnew.trans hfd.symm)
            rw [hopen socket hsocket hkept] at hclosed
            cases hclosed
        subst hself
        refine ⟨[], socket, older, rfl, hfd, hkept, by simp, ?_⟩
        rw [closeSocket, if_pos hnew, hopen socket hsocket hkept]
        rfl
      · have holder : socket ∈ older := by
          rcases List.mem_cons.mp hsocket with rfl | holder
          · exact absurd hfd hnew
          · exact holder
        obtain ⟨newer, found, rest, heq, hfound, hkept', hother, hclose⟩ :=
          ih hnewest.2
            (fun other hother => hopen other (List.mem_cons_of_mem _ hother))
            (mem_fdsOf.mpr ⟨socket, holder, by simpa using hkept, hfd⟩)
        refine ⟨newest :: newer, found, rest, by rw [heq]; rfl, hfound, hkept',
          ?_, ?_⟩
        · intro other hmem'
          rcases List.mem_cons.mp hmem' with rfl | hmem'
          · exact hnew
          · exact hother other hmem'
        · rw [closeSocket, if_neg hnew, hclose]
          rfl

def keepaliveFailedIn (history : SocketHistory) : Prop :=
  ∃ socket ∈ history, socket.fate = .keepaliveFailed

theorem Consistent.close {clientFd : List Nat} {history : SocketHistory}
    {fd : Nat} (h : Consistent clientFd history) (hfd : fd ∈ clientFd) :
    Consistent (clientFd.filter (· != fd)) (closeSocket fd history) ∧
      (keepaliveFailedIn (closeSocket fd history) ↔
        keepaliveFailedIn history) := by
  obtain ⟨newer, socket, older, rfl, rfl, hkept, -, hclose⟩ :=
    closeSocket_kept h.reused (fun _ => h.closes_kept) (h.listed ▸ hfd)
  have hdistinct := h.distinct
  have hlisted := h.listed
  rw [fdsOf_append, fdsOf_cons, if_pos (by simpa using hkept)] at hlisted
  obtain ⟨hnewer, hmiddle, hacross⟩ := List.pairwise_append.mp h.reused
  rw [hclose]
  refine ⟨⟨?_, ?_, ?_, ?_⟩, ?_⟩
  · rw [fdsOf_append, fdsOf_cons, if_neg (by simp), List.append_nil, hlisted]
    rw [hlisted, List.append_assoc] at hdistinct
    have hbefore := (List.nodup_append.mp hdistinct).2.2
    have hafter := (List.nodup_cons.mp (List.nodup_append.mp hdistinct).2.1).1
    simp only [List.filter_append, List.append_assoc, List.singleton_append]
    rw [List.filter_eq_self.mpr, List.filter_cons_of_neg (by simp),
      List.filter_eq_self.mpr]
    · intro other hother
      simp only [bne_iff_ne]
      rintro rfl
      exact hafter hother
    · intro other hother
      simpa using hbefore other hother socket.fd (by simp)
  · refine List.pairwise_append.mpr ⟨hnewer, ?_, ?_⟩
    · exact List.pairwise_cons.mpr (List.pairwise_cons.mp hmiddle)
    · intro other hother closed hclosed hsame
      rcases List.mem_cons.mp hclosed with rfl | hold
      · rfl
      · exact hacross other hother closed (List.mem_cons_of_mem _ hold) hsame
  · intro other hother
    simp only [List.mem_append, List.mem_cons] at hother
    rcases hother with hother | rfl | hother
    · exact h.counted other (by simp [hother])
    · rfl
    · exact h.counted other (by simp [hother])
  · intro other hother
    simp only [List.mem_append, List.mem_cons] at hother
    rcases hother with hother | rfl | hother
    · exact h.positive other (by simp [hother])
    · exact h.positive socket (by simp)
    · exact h.positive other (by simp [hother])
  · simp [keepaliveFailedIn, hkept, or_and_right, exists_or]

/-- A client whose `recv` in this pass finds the connection closed. -/
def Sockets.gone (sockets : Sockets) (fd : Nat) : Bool :=
  sockets.isSet fd && (sockets.recv fd).isNone

theorem checkConnects_cons_inv {sockets : Sockets} {fd : Nat} {fds : List Nat}
    {state final : RecvState} {events : List ServerEvent} {fds' : List Nat}
    (h : checkConnects sockets (fd :: fds) state =
      (events, fds', some final)) :
    ∃ next first head events' rest,
      checkConnects sockets fds next = (events', rest, some final) ∧
      fds' = first :: rest ∧ events = head ++ events' ∧
      ((sockets.gone fd = true ∧ first = 0 ∧ head = [.closed fd]) ∨
        (sockets.gone fd = false ∧ first = fd ∧
          ∀ history, head.foldl recordEvent history = history)) := by
  rw [checkConnects] at h
  split at h
  case isFalse hset =>
    have hstays : sockets.gone fd = false := by simp [Sockets.gone, hset]
    simp only [Prod.mk.injEq] at h
    obtain ⟨rfl, rfl, hfinal⟩ := h
    refine ⟨state, fd, [], _, _, ?_, rfl, rfl, .inr ⟨hstays, rfl, ?_⟩⟩
    · exact Prod.ext rfl (Prod.ext rfl hfinal)
    · intro history
      rfl
  case isTrue hset =>
    cases hrecv : sockets.recv fd with
    | none =>
        have hgone : sockets.gone fd = true := by
          simp [Sockets.gone, hset, hrecv]
        simp only [hrecv, Prod.mk.injEq] at h
        obtain ⟨rfl, rfl, hfinal⟩ := h
        refine ⟨state, 0, [.closed fd], _, _, ?_, rfl, rfl,
          .inl ⟨hgone, rfl, rfl⟩⟩
        exact Prod.ext rfl (Prod.ext rfl hfinal)
    | some piece =>
        have hstays : sockets.gone fd = false := by
          simp [Sockets.gone, hrecv]
        simp only [hrecv] at h
        split at h
        case h_1 => simp at h
        case h_2 commands next hcall =>
          simp only [Prod.mk.injEq] at h
          obtain ⟨rfl, rfl, hfinal⟩ := h
          refine ⟨next, fd, [_], _, _, ?_, rfl, rfl, .inr ⟨hstays, rfl, ?_⟩⟩
          · exact Prod.ext rfl (Prod.ext rfl hfinal)
          · intro history
            rfl

theorem checkConnects_closes {sockets : Sockets} {fds : List Nat}
    {state final : RecvState} {events : List ServerEvent} {fds' : List Nat}
    (h : checkConnects sockets fds state = (events, fds', some final))
    (history : SocketHistory) :
    events.foldl recordEvent history =
      (fds.filter sockets.gone).foldl (fun history fd => closeSocket fd history)
        history := by
  induction fds generalizing state events fds' history with
  | nil =>
      cases h
      rfl
  | cons fd fds ih =>
      obtain ⟨next, first, head, events', rest, hlater, -, rfl, hcase⟩ :=
        checkConnects_cons_inv h
      rw [List.foldl_append]
      rcases hcase with ⟨hgone, -, rfl⟩ | ⟨hstays, -, hhead⟩
      · rw [ih hlater, List.filter_cons_of_pos hgone]
        rfl
      · rw [hhead, ih hlater, List.filter_cons_of_neg (by simp [hstays])]

theorem checkConnects_refreshed {sockets : Sockets} {fds : List Nat}
    {state final : RecvState} {events : List ServerEvent} {fds' : List Nat}
    (h : checkConnects sockets fds state = (events, fds', some final))
    (hpos : ∀ fd ∈ fds, 0 < fd) :
    refreshConnects fds' = fds.filter fun fd => !sockets.gone fd := by
  induction fds generalizing state events fds' with
  | nil =>
      cases h
      rfl
  | cons fd fds ih =>
      obtain ⟨next, first, head, events', rest, hlater, rfl, -, hcase⟩ :=
        checkConnects_cons_inv h
      have hrest := ih hlater fun other hother =>
        hpos other (List.mem_cons_of_mem _ hother)
      have hfd : fd ≠ 0 := (hpos fd List.mem_cons_self).ne'
      rcases hcase with ⟨hgone, rfl, -⟩ | ⟨hstays, rfl, -⟩
      · simpa [refreshConnects, hgone] using hrest
      · simpa [refreshConnects, hstays, hfd] using hrest

theorem Consistent.closeAll {clientFd fds : List Nat} {history : SocketHistory}
    (h : Consistent clientFd history) (hsub : ∀ fd ∈ fds, fd ∈ clientFd)
    (hdistinct : fds.Nodup) :
    Consistent (clientFd.filter fun fd => decide (fd ∉ fds))
        (fds.foldl (fun history fd => closeSocket fd history) history) ∧
      (keepaliveFailedIn
          (fds.foldl (fun history fd => closeSocket fd history) history) ↔
        keepaliveFailedIn history) := by
  induction fds generalizing clientFd history with
  | nil => simpa using h
  | cons fd fds ih =>
      obtain ⟨hnew, hrest⟩ := List.nodup_cons.mp hdistinct
      obtain ⟨hclosed, hfailed⟩ := h.close (hsub fd List.mem_cons_self)
      have hsub' : ∀ other ∈ fds, other ∈ clientFd.filter (· != fd) := by
        intro other hother
        refine List.mem_filter.mpr
          ⟨hsub other (List.mem_cons_of_mem _ hother), ?_⟩
        simp only [bne_iff_ne]
        rintro rfl
        exact hnew hother
      obtain ⟨hlater, hfailed'⟩ := ih hclosed hsub' hrest
      refine ⟨?_, hfailed'.trans hfailed⟩
      have hfilter : (clientFd.filter fun client =>
          decide (client ∉ fd :: fds)) =
          (clientFd.filter (· != fd)).filter fun client =>
            decide (client ∉ fds) := by
        rw [List.filter_filter]
        apply List.filter_congr
        intro client _
        by_cases hclient : client = fd <;> simp [hclient]
      rw [hfilter]
      exact hlater

theorem Consistent.checkConnects {clientFd : List Nat}
    {history : SocketHistory} {sockets : Sockets} {state final : RecvState}
    {events : List ServerEvent} {fds' : List Nat}
    (h : Consistent clientFd history)
    (hpass : checkConnects sockets clientFd state =
      (events, fds', some final)) :
    Consistent (refreshConnects fds') (events.foldl recordEvent history) ∧
      (keepaliveFailedIn (events.foldl recordEvent history) ↔
        keepaliveFailedIn history) ∧
      (refreshConnects fds').length ≤ clientFd.length := by
  have hpos : ∀ fd ∈ clientFd, 0 < fd := by
    intro fd hfd
    rw [h.listed] at hfd
    obtain ⟨socket, hsocket, -, rfl⟩ := mem_fdsOf.mp hfd
    exact h.positive socket hsocket
  have hstay : (clientFd.filter fun fd =>
      decide (fd ∉ clientFd.filter sockets.gone)) =
      clientFd.filter fun fd => !sockets.gone fd := by
    apply List.filter_congr
    intro fd hfd
    simp [hfd]
  have hsub : ∀ fd ∈ clientFd.filter sockets.gone, fd ∈ clientFd :=
    fun fd hfd => (List.mem_filter.mp hfd).1
  have hclosed := h.closeAll hsub (h.distinct.filter _)
  rw [hstay] at hclosed
  rw [checkConnects_refreshed hpass hpos, checkConnects_closes hpass]
  exact ⟨hclosed.1, hclosed.2, List.length_filter_le _ _⟩

/-! ## A new client -/

theorem Consistent.cons {clientFd : List Nat} {history : SocketHistory}
    (h : Consistent clientFd history) (socket : Socket)
    (hpos : 0 < socket.fd)
    (hfresh : ∀ older ∈ history, older.fd = socket.fd → older.closes ≠ 0)
    (hcount : socket.closes = socket.dropped.toNat) :
    Consistent (clientFd ++ if socket.fate = .kept then [socket.fd] else [])
      (socket :: history) where
  listed := by
    rw [fdsOf_cons, ← h.listed]
    simp
  reused := by
    refine List.pairwise_cons.mpr ⟨?_, h.reused⟩
    intro older holder hsame
    have hclosed := hfresh older holder hsame.symm
    rw [h.counted older holder] at hclosed ⊢
    cases hdropped : older.dropped with
    | true => rfl
    | false => simp [hdropped] at hclosed
  counted := by
    intro other hother
    rcases List.mem_cons.mp hother with rfl | hother
    · exact hcount
    · exact h.counted other hother
  positive := by
    intro other hother
    rcases List.mem_cons.mp hother with rfl | hother
    · exact hpos
    · exact h.positive other hother

theorem keepaliveFailedIn_cons (socket : Socket) (history : SocketHistory) :
    keepaliveFailedIn (socket :: history) ↔
      socket.fate = .keepaliveFailed ∨ keepaliveFailedIn history := by
  simp [keepaliveFailedIn]

theorem Consistent.checkAccept {clientFd : List Nat} {history : SocketHistory}
    {sockets : Sockets} {maxConnect : Nat} (h : Consistent clientFd history)
    (hroom : clientFd.length ≤ maxConnect)
    (haccept : ∀ fd, sockets.accept = some fd → 0 < fd ∧
      ∀ socket ∈ history, socket.fd = fd → socket.closes ≠ 0) :
    let accepted := checkAccept maxConnect sockets clientFd
    Consistent accepted.2 (accepted.1.foldl recordEvent history) ∧
      accepted.2.length ≤ maxConnect ∧
      (keepaliveFailedIn (accepted.1.foldl recordEvent history) ↔
        keepaliveFailedIn history ∨
          (Outcome.selected sockets).keepaliveFails = true) := by
  unfold Tcp.checkAccept
  cases hset : sockets.serverIsSet with
  | false => simpa [Outcome.keepaliveFails, hset] using ⟨h, hroom⟩
  | true =>
      cases hnew : sockets.accept with
      | none => simpa [Outcome.keepaliveFails, hset, hnew] using ⟨h, hroom⟩
      | some fd =>
          obtain ⟨hpos, hfresh⟩ := haccept fd hnew
          cases hkeepalive : sockets.keepaliveOk with
          | false =>
              have hadded : Consistent clientFd
                  (⟨fd, .keepaliveFailed, 0⟩ :: history) := by
                simpa using h.cons ⟨fd, .keepaliveFailed, 0⟩ hpos hfresh rfl
              simpa [Outcome.keepaliveFails, hset, hnew, hkeepalive,
                recordEvent, keepaliveFailedIn_cons] using ⟨hadded, hroom⟩
          | true =>
              by_cases hspace : clientFd.length < maxConnect
              · have hadded : Consistent (clientFd ++ [fd])
                    (⟨fd, .kept, 0⟩ :: history) :=
                  h.cons ⟨fd, .kept, 0⟩ hpos hfresh rfl
                have hlength : (clientFd ++ [fd]).length ≤ maxConnect := by
                  rw [List.length_append]
                  exact hspace
                simp only [hspace, if_true]
                refine ⟨hadded, hlength, ?_⟩
                simp [Outcome.keepaliveFails, hset, hnew, hkeepalive,
                  recordEvent, keepaliveFailedIn_cons]
              · have hadded : Consistent clientFd
                    (⟨fd, .refused, 1⟩ :: history) := by
                  simpa using h.cons ⟨fd, .refused, 1⟩ hpos hfresh rfl
                simpa [Outcome.keepaliveFails, hset, hnew, hkeepalive, hspace,
                  recordEvent, keepaliveFailedIn_cons] using ⟨hadded, hroom⟩

/-! ## Runs -/

structure Sound (maxConnect : Nat) (state : ServerHistory) : Prop where
  consistent : Consistent state.server.clientFd state.history
  room : state.server.clientFd.length ≤ maxConnect

theorem sound_initial (maxConnect : Nat) :
    Sound maxConnect ServerHistory.initial :=
  ⟨consistent_initial, Nat.zero_le _⟩

theorem Sound.step {maxConnect : Nat} {state next : ServerHistory}
    {outcome : Outcome} (h : Sound maxConnect state)
    (hfresh : AcceptsFresh state outcome)
    (hstep : connectionStep maxConnect state outcome = some next) :
    Sound maxConnect next ∧
      (keepaliveFailedIn next.history ↔
        keepaliveFailedIn state.history ∨ outcome.keepaliveFails = true) := by
  cases outcome with
  | selectError =>
      cases hstep
      refine ⟨⟨h.consistent, h.room⟩, ?_⟩
      simp [serverPass, Outcome.keepaliveFails]
  | selected sockets =>
      cases hconnects : Tcp.checkConnects sockets state.server.clientFd
          state.server.recvState with
      | mk events rest =>
          cases rest with
          | mk fds final =>
              cases final with
              | none => simp [connectionStep, serverPass, hconnects] at hstep
              | some recvState =>
                  obtain ⟨hclosed, hfailed, hless⟩ :=
                    h.consistent.checkConnects hconnects
                  have haccept := hclosed.checkAccept (hless.trans h.room) (by
                    simpa [AcceptsFresh, historyAtAccept, hconnects] using
                      hfresh)
                  simp only [connectionStep, serverPass, hconnects,
                    Option.map_some, Option.some.injEq,
                    List.foldl_append] at hstep
                  subst hstep
                  rw [hfailed] at haccept
                  exact ⟨⟨haccept.1, haccept.2.1⟩, haccept.2.2⟩

theorem sound_run {maxConnect : Nat} {start final : ServerHistory}
    {outcomes : List Outcome} (hstart : Sound maxConnect start)
    (hrun : Run (connectionStep maxConnect) AcceptsFresh start outcomes final) :
    Sound maxConnect final ∧
      (keepaliveFailedIn final.history ↔ keepaliveFailedIn start.history ∨
        ∃ outcome ∈ outcomes, outcome.keepaliveFails = true) := by
  induction hrun with
  | nil state => simpa using hstart
  | cons hguard hstep later ih =>
      obtain ⟨hnext, hfailed⟩ := hstart.step hguard hstep
      obtain ⟨hfinal, hlater⟩ := ih hnext
      refine ⟨hfinal, ?_⟩
      rw [hlater, hfailed]
      simp [or_assoc]

theorem Sound.noneLeaked_iff {maxConnect : Nat} {state : ServerHistory}
    (h : Sound maxConnect state) :
    NoneLeaked maxConnect state.server.clientFd state.history ↔
      ¬keepaliveFailedIn state.history := by
  constructor
  · rintro hnone ⟨socket, hsocket, hfate⟩
    have hlength := congrArg List.length
      (hnone.listed.symm.trans h.consistent.listed)
    simp only [fdsOf, List.length_reverse, List.length_map] at hlength
    have hkept : (state.history.filter fun socket => socket.fate = .kept) =
        (state.history.filter fun socket => !socket.dropped).filter
          fun socket => socket.fate = .kept := by
      rw [List.filter_filter]
      apply List.filter_congr
      intro other _
      cases hcase : other.fate <;> simp [Socket.dropped, hcase]
    rw [hkept, eq_comm, List.length_filter_eq_length_iff] at hlength
    have hstays : socket ∈ state.history.filter fun socket =>
        !socket.dropped :=
      List.mem_filter.mpr ⟨hsocket, by simp [Socket.dropped, hfate]⟩
    simpa [hfate] using hlength socket hstays
  · intro hnone
    refine ⟨?_, h.consistent.distinct, h.room, ?_⟩
    · rw [h.consistent.listed, fdsOf, fdsOf]
      congr 2
      apply List.filter_congr
      intro socket hsocket
      have hfate : socket.fate ≠ .keepaliveFailed := fun hfate =>
        hnone ⟨socket, hsocket, hfate⟩
      cases hcase : socket.fate <;> simp [Socket.dropped, hcase] at hfate ⊢
    · intro socket hsocket hdropped
      rw [h.consistent.counted socket hsocket, hdropped]
      rfl

theorem none_leaked_iff {maxConnect : Nat} {outcomes : List Outcome}
    {final : ServerHistory}
    (hrun : Run (connectionStep maxConnect) AcceptsFresh .initial outcomes
      final) :
    NoneLeaked maxConnect final.server.clientFd final.history ↔
      ∀ outcome ∈ outcomes, outcome.keepaliveFails = false := by
  obtain ⟨hfinal, hfailed⟩ := sound_run (sound_initial maxConnect) hrun
  rw [hfinal.noneLeaked_iff, hfailed]
  simp [ServerHistory.initial, keepaliveFailedIn]

/-- A pass in which nothing happens but that `accept` returns a descriptor. -/
def acceptPass (fd : Nat) (keepaliveOk : Bool) : Outcome :=
  .selected
    { isSet := fun _ => false
      serverIsSet := true
      recv := fun _ => none
      accept := some fd
      keepaliveOk := keepaliveOk }

theorem run_acceptPass (fd : Nat) (keepaliveOk : Bool) (hpos : 0 < fd) :
    ∃ final, Run (connectionStep 5) AcceptsFresh .initial
      [acceptPass fd keepaliveOk] final := by
  cases keepaliveOk with
  | false =>
      refine ⟨_, .cons ?_ rfl (.nil _)⟩
      intro new hnew
      cases hnew
      exact ⟨hpos, fun socket hsocket => by cases hsocket⟩
  | true =>
      refine ⟨_, .cons ?_ rfl (.nil _)⟩
      intro new hnew
      cases hnew
      exact ⟨hpos, fun socket hsocket => by cases hsocket⟩

/-- The client with the descriptor hangs up while another connects. -/
def hangUpPass (gone : Nat) (fd : Nat) : Outcome :=
  .selected
    { isSet := (· == gone)
      serverIsSet := true
      recv := fun _ => none
      accept := some fd
      keepaliveOk := true }

/-- With room for two clients the third is refused, and one takes the place and
the descriptor of the first when that has gone. -/
def busyPasses : List Outcome :=
  [acceptPass 7 true, acceptPass 8 true, acceptPass 9 true, hangUpPass 7 10,
    hangUpPass 10 7]

theorem busy_server_none_leaked :
    ∃ final, Run (connectionStep 2) AcceptsFresh .initial busyPasses final ∧
      final.server.clientFd = [8, 7] ∧
      final.history = [⟨7, .kept, 0⟩, ⟨10, .disconnected, 1⟩, ⟨9, .refused, 1⟩,
        ⟨8, .kept, 0⟩, ⟨7, .disconnected, 1⟩] ∧
      NoneLeaked 2 final.server.clientFd final.history := by
  have run : Run (connectionStep 2) AcceptsFresh .initial busyPasses
      ⟨⟨[8, 7], .initial⟩, [⟨7, .kept, 0⟩, ⟨10, .disconnected, 1⟩,
        ⟨9, .refused, 1⟩, ⟨8, .kept, 0⟩, ⟨7, .disconnected, 1⟩]⟩ := by
    refine .cons ?_ rfl (.cons ?_ rfl (.cons ?_ rfl (.cons ?_ rfl
      (.cons ?_ rfl (.nil _)))))
    all_goals
      rintro _ ⟨⟩
      decide
  refine ⟨_, run, rfl, rfl, (none_leaked_iff run).mpr ?_⟩
  decide

theorem failed_keepalive_leaks :
    ∃ final, Run (connectionStep 5) AcceptsFresh .initial
        [acceptPass 7 false] final ∧
      ¬NoneLeaked 5 final.server.clientFd final.history := by
  obtain ⟨final, hrun⟩ := run_acceptPass 7 false (by decide)
  obtain ⟨hfinal, hfailed⟩ := sound_run (sound_initial 5) hrun
  refine ⟨final, hrun, ?_⟩
  rw [hfinal.noneLeaked_iff, not_not, hfailed]
  simp [acceptPass, Outcome.keepaliveFails]

end WncFirmware.Tcp
