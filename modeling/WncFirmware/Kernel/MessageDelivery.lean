import Mathlib.Data.List.Forall2
import WncFirmware.Kernel.MessagePool

/-!
# What a message queue is for

`Channel` says it without a pool: messages go in at the back, urgent ones at
the front, and come out at the front.  Whatever the callers of a message queue
do, and in whatever order their steps come, the queue does the same.
-/

namespace WncFirmware.Kernel

open WncFirmware.Foundation

/-! ## The channel -/

/-- `sent` and `taken` are the history; `reading` is what each took last. -/
structure Channel (Thread : Type) where
  queue : List Bytes
  sent : List Bytes
  taken : List Bytes
  reading : Thread → Bytes

inductive ChannelEvent (Thread : Type) where
  | send (message : Bytes)
  | urgent (message : Bytes)
  | take (thread : Thread)
  | clear

variable {Thread : Type}

def ChannelEvent.inTurn : ChannelEvent Thread → Bool
  | .send _ | .take _ => true
  | .urgent _ | .clear => false

def Channel.empty : Channel Thread := ⟨[], [], [], fun _ => []⟩

section Observed

variable [DecidableEq Thread]

def Channel.after (channel : Channel Thread) :
    ChannelEvent Thread → Channel Thread
  | .send message =>
      { channel with
        queue := channel.queue ++ [message]
        sent := channel.sent ++ [message] }
  | .urgent message => { channel with queue := message :: channel.queue }
  | .take thread =>
      match channel.queue with
      | [] => channel
      | message :: rest =>
          { channel with
            queue := rest
            taken := channel.taken ++ [message]
            reading := Function.update channel.reading thread message }
  | .clear => { channel with queue := [] }

def MqSystem.observe (system : MqSystem Thread) :
    MqStep Thread → Option (ChannelEvent Thread)
  | .link thread =>
      match system.caller thread with
      | .filling true _ buffer _ => some (.urgent buffer)
      | .filling false _ buffer _ => some (.send buffer)
      | _ => none
  | .recv thread _ _ _ | .again thread _ =>
      if system.mq.entry = 0 then none else some (.take thread)
  | .reset => some .clear
  | _ => none

def observedStep (currentPriority : Thread → UInt8)
    (state : MqSystem Thread × Channel Thread) (input : MqStep Thread) :
    Option (MqSystem Thread × Channel Thread) :=
  (state.1.step currentPriority input).map fun system =>
    (system, match state.1.observe input with
      | none => state.2
      | some event => state.2.after event)

end Observed

/-! ## How they are related -/

def Caller.msg? : Caller → Option Nat
  | .clearing msg _ => some msg
  | .filling _ msg _ _ => some msg
  | .reading msg _ _ => some msg
  | _ => none

/-- The bytes behind the header at `msg` begin with `bytes`. -/
structure MessageQueue.Carries (mq : MessageQueue Thread) (msg : Nat)
    (bytes : Bytes) : Prop where
  length_le : bytes.length ≤ mq.msgSize.toNat
  pool_eq : ∀ index byte, bytes[index]? = some byte →
    mq.pool (msg + sizeofMqMessage + index) = byte

def Caller.Keeps (mq : MessageQueue Thread) (message : Bytes) : Caller → Prop
  | .clearing _ buffer => buffer.length ≤ mq.msgSize.toNat
  | .filling urgent msg buffer copied =>
      buffer.length ≤ mq.msgSize.toNat ∧
        mq.Carries msg (buffer.take copied) ∧
        (urgent = false → mq.next msg = none)
  | .reading msg size received =>
      mq.Carries msg message ∧ mq.Carries msg received ∧
        received.length ≤ size
  | _ => True

structure Delivers (system : MqSystem Thread) (channel : Channel Thread)
    (queued free : List Nat) : Prop where
  pool : Pool system.mq (fun thread => (system.caller thread).msg?) queued free
  carried : List.Forall₂ system.mq.Carries queued channel.queue
  keeps : ∀ thread,
    (system.caller thread).Keeps system.mq (channel.reading thread)

/-! ## Bytes that stay -/

section Frame

variable {mq after : MessageQueue Thread} {msg : Nat} {bytes message : Bytes}
  {caller : Caller}

theorem MessageQueue.Carries.frame (h : mq.Carries msg bytes)
    (hsize : after.msgSize = mq.msgSize)
    (hpool : ∀ index < mq.msgSize.toNat,
      after.pool (msg + sizeofMqMessage + index) =
        mq.pool (msg + sizeofMqMessage + index)) :
    after.Carries msg bytes where
  length_le := by rw [hsize]; exact h.length_le
  pool_eq index byte hbyte := by
    have hindex := (List.getElem?_eq_some_iff.mp hbyte).1
    rw [hpool index (Nat.lt_of_lt_of_le hindex h.length_le)]
    exact h.pool_eq index byte hbyte

theorem MessageQueue.Carries.unique (h : mq.Carries msg bytes)
    (hmessage : mq.Carries msg message)
    (hlength : bytes.length = message.length) : bytes = message := by
  apply List.ext_getElem hlength
  intro index hbytes hindex
  exact (h.pool_eq index _ (List.getElem?_eq_getElem hbytes)).symm.trans
    (hmessage.pool_eq index _ (List.getElem?_eq_getElem hindex))

theorem MessageQueue.Carries.of_filled {copied : Nat} {buffer : Bytes}
    (h : mq.Carries msg (buffer.take copied))
    (hcopied : ¬copied < buffer.length) : mq.Carries msg buffer := by
  rwa [List.take_of_length_le (Nat.not_lt.mp hcopied)] at h

theorem Caller.Keeps.frame (h : caller.Keeps mq message)
    (hsize : after.msgSize = mq.msgSize)
    (hnext : ∀ msg, caller.msg? = some msg → after.next msg = mq.next msg)
    (hpool : ∀ msg, caller.msg? = some msg → ∀ index < mq.msgSize.toNat,
      after.pool (msg + sizeofMqMessage + index) =
        mq.pool (msg + sizeofMqMessage + index)) :
    caller.Keeps after message := by
  cases caller with
  | returned result received => trivial
  | clearing msg buffer =>
      rw [Keeps, hsize]
      exact h
  | filling urgent msg buffer copied =>
      obtain ⟨hlength, hcarries, hnull⟩ := h
      refine ⟨by rwa [hsize], hcarries.frame hsize (hpool msg rfl), ?_⟩
      intro hurgent
      rw [hnext msg rfl]
      exact hnull hurgent
  | suspended size timeout since => trivial
  | resumed size timeout since => trivial
  | reading msg size received =>
      obtain ⟨hmessage, hreceived, hlength⟩ := h
      exact ⟨hmessage.frame hsize (hpool msg rfl),
        hreceived.frame hsize (hpool msg rfl), hlength⟩

end Frame

variable {system : MqSystem Thread} {channel : Channel Thread}
  {queued free : List Nat} {thread : Thread} {currentPriority : Thread → UInt8}

theorem Delivers.of_waiting (h : Delivers system channel queued free)
    {after : MqSystem Thread} (waiting : List Thread)
    (hmq : after.mq = { system.mq with suspendThread := waiting })
    (hcaller : ∀ thread, after.caller thread = system.caller thread ∨
      (system.caller thread).msg? = none ∧
        (after.caller thread).msg? = none) :
    Delivers after channel queued free := by
  have hheld : (fun thread => (after.caller thread).msg?) =
      fun thread => (system.caller thread).msg? := by
    funext thread
    rcases hcaller thread with hsame | ⟨hbefore, hafter⟩
    · rw [hsame]
    · rw [hbefore, hafter]
  constructor
  · rw [hheld, hmq]
    exact ⟨⟨h.pool.queue_linked, h.pool.free_linked, h.pool.tail_eq,
      h.pool.custody⟩, h.pool.entry_eq⟩
  · rw [hmq]
    exact h.carried.imp fun _ _ hcarries => ⟨hcarries.1, hcarries.2⟩
  · intro thread
    rcases hcaller thread with hsame | ⟨-, hafter⟩
    · rw [hsame, hmq]
      exact (h.keeps thread).frame rfl (fun _ _ => rfl) fun _ _ _ _ => rfl
    · cases hcase : after.caller thread with
      | returned | suspended | resumed => trivial
      | clearing | filling | reading =>
          rw [hcase] at hafter
          cases hafter

theorem Delivers.msg_ne (h : Delivers system channel queued free)
    {other : Thread} (hother : other ≠ thread) {first second : Nat}
    (hfirst : (system.caller other).msg? = some first)
    (hsecond : (system.caller thread).msg? = some second) :
    first ≠ second := by
  rintro rfl
  exact hother (h.pool.custody.once hfirst hsecond)

variable [DecidableEq Thread]

theorem MqSystem.held_goOn (system : MqSystem Thread) (thread : Thread)
    (caller : Caller) :
    (fun other => ((system.goOn thread caller).caller other).msg?) =
      Function.update (fun other => (system.caller other).msg?) thread
        caller.msg? := by
  funext other
  by_cases hsame : other = thread
  · subst hsame
    simp [goOn]
  · simp [goOn, hsame]

theorem Delivers.goOn {mq : MessageQueue Thread} {after : Channel Thread}
    {caller : Caller}
    (hpool : Pool mq (Function.update
      (fun other => (system.caller other).msg?) thread caller.msg?)
      queued free)
    (hcarried : List.Forall₂ mq.Carries queued after.queue)
    (hown : caller.Keeps mq (after.reading thread))
    (hothers : ∀ other, other ≠ thread →
      (system.caller other).Keeps mq (after.reading other)) :
    Delivers ({ system with mq := mq }.goOn thread caller) after
      queued free := by
  refine ⟨?_, hcarried, ?_⟩
  · rw [MqSystem.held_goOn]
    exact hpool
  · intro other
    by_cases hsame : other = thread
    · subst hsame
      simpa [MqSystem.goOn] using hown
    · simpa [MqSystem.goOn, hsame] using hothers other hsame

/-! ## The steps -/

theorem Delivers.startSend (h : Delivers system channel queued free)
    (hidle : (system.caller thread).msg? = none) (urgent : Bool)
    (buffer : Bytes) :
    ∃ rest, Delivers (system.startSend thread urgent buffer) channel
      queued rest := by
  have hreturn (result : RtErr) :
      Delivers (system.goOn thread (.returned result [])) channel
        queued free := by
    refine h.of_waiting system.mq.suspendThread rfl fun other => ?_
    by_cases hsame : other = thread
    · subst hsame
      exact .inr ⟨hidle, by simp [MqSystem.goOn, Caller.msg?]⟩
    · exact .inl (by simp [MqSystem.goOn, hsame])
  rw [MqSystem.startSend]
  split
  · exact ⟨free, hreturn .error⟩
  · next hlength =>
    cases hget : system.mq.getFree with
    | none => exact ⟨free, hreturn .efull⟩
    | some found =>
        obtain ⟨msg, mq⟩ := found
        obtain ⟨rest, -, hpool⟩ := h.pool.getFree hidle hget
        obtain ⟨-, rfl⟩ := MessageQueue.getFree_eq_some_iff.mp hget
        refine ⟨rest, Delivers.goOn ?_ ?_ ?_ ?_⟩
        · cases urgent <;> exact hpool
        · exact h.carried.imp fun _ _ hcarries => ⟨hcarries.1, hcarries.2⟩
        · have hlength := Nat.not_lt.mp hlength
          cases urgent with
          | false => exact hlength
          | true =>
              refine ⟨hlength, ⟨Nat.zero_le _, ?_⟩, fun hurgent => by cases hurgent⟩
              intro index byte hbyte
              simp at hbyte
        · intro other hother
          exact (h.keeps other).frame rfl (fun _ _ => rfl) fun _ _ _ _ => rfl

theorem Delivers.clear (h : Delivers system channel queued free) {msg : Nat}
    {buffer : Bytes} (hcaller : system.caller thread = .clearing msg buffer) :
    Delivers ({ system with mq := { system.mq with
        next := Function.update system.mq.next msg none } }.goOn thread
      (.filling false msg buffer 0)) channel queued free := by
  have hheld : (system.caller thread).msg? = some msg := by rw [hcaller]; rfl
  have hlength := h.keeps thread
  rw [hcaller] at hlength
  apply Delivers.goOn
  · have hsame : (Caller.filling false msg buffer 0).msg? =
        (system.caller thread).msg? := by rw [hheld]; rfl
    rw [hsame, Function.update_eq_self thread
      fun other => (system.caller other).msg?]
    exact h.pool.update_held hheld none
  · exact h.carried.imp fun _ _ hcarries => ⟨hcarries.1, hcarries.2⟩
  · refine ⟨hlength, ⟨Nat.zero_le _, ?_⟩, fun _ => Function.update_self ..⟩
    intro index byte hbyte
    simp at hbyte
  · intro other hother
    refine (h.keeps other).frame rfl ?_ fun _ _ _ _ => rfl
    intro first hfirst
    exact Function.update_of_ne (h.msg_ne hother hfirst hheld) ..

theorem Delivers.copyIn (h : Delivers system channel queued free)
    {urgent : Bool} {msg copied : Nat} {buffer : Bytes} {byte : UInt8}
    (hcaller : system.caller thread = .filling urgent msg buffer copied)
    (hbyte : buffer[copied]? = some byte) :
    Delivers ({ system with mq := { system.mq with
        pool := Function.update system.mq.pool
          (msg + sizeofMqMessage + copied) byte } }.goOn thread
      (.filling urgent msg buffer (copied + 1))) channel queued free := by
  have hheld : (system.caller thread).msg? = some msg := by rw [hcaller]; rfl
  obtain ⟨hlength, hcarries, hnull⟩ :
      (Caller.filling urgent msg buffer copied).Keeps system.mq
        (channel.reading thread) := hcaller ▸ h.keeps thread
  have hcopied := (List.getElem?_eq_some_iff.mp hbyte).1
  have hplace := h.pool.custody.stock_of_held hheld
  -- the bytes of a message with another header are not written
  have hframe (other : Nat) (hother : system.mq.IsPlace other)
      (hne : other ≠ msg) (index : Nat) (hindex : index < system.mq.msgSize.toNat) :
      Function.update system.mq.pool (msg + sizeofMqMessage + copied) byte
          (other + sizeofMqMessage + index) =
        system.mq.pool (other + sizeofMqMessage + index) := by
    have hapart := hother.apart hplace hne
    rw [Function.update_of_ne]
    omega
  apply Delivers.goOn
  · have hsame : (Caller.filling urgent msg buffer (copied + 1)).msg? =
        (system.caller thread).msg? := by rw [hheld]; rfl
    rw [hsame, Function.update_eq_self thread
      fun other => (system.caller other).msg?]
    exact ⟨⟨h.pool.queue_linked, h.pool.free_linked, h.pool.tail_eq,
      h.pool.custody⟩, h.pool.entry_eq⟩
  · have hqueued : ∀ first ∈ queued, ∀ index < system.mq.msgSize.toNat,
        Function.update system.mq.pool (msg + sizeofMqMessage + copied) byte
            (first + sizeofMqMessage + index) =
          system.mq.pool (first + sizeofMqMessage + index) := by
      intro first hfirst
      apply hframe first
      · exact h.pool.custody.stock_of_mem (List.mem_append_left free hfirst)
      · rintro rfl
        exact h.pool.notMem_queued hheld hfirst
    exact ((List.forall₂_and_left _ _).mpr ⟨hqueued, h.carried⟩).imp
      fun _ _ ⟨hsame, hfirst⟩ => hfirst.frame rfl hsame
  · refine ⟨hlength, ⟨?_, ?_⟩, hnull⟩
    · exact Nat.le_trans (List.length_take_le' _ _) hlength
    · intro index found hfound
      by_cases hnew : index = copied
      · subst hnew
        rw [List.getElem?_take_of_lt (Nat.lt_succ_self index), hbyte] at hfound
        cases hfound
        exact Function.update_self ..
      · have hlt := (List.getElem?_eq_some_iff.mp hfound).1
        rw [List.length_take] at hlt
        rw [List.getElem?_take_of_lt (by omega)] at hfound
        dsimp only
        rw [Function.update_of_ne (by omega)]
        apply hcarries.pool_eq index found
        rwa [List.getElem?_take_of_lt (by omega)]
  · intro other hother
    refine (h.keeps other).frame rfl (fun _ _ => rfl) ?_
    intro first hfirst
    exact hframe first (h.pool.custody.stock_of_held hfirst)
      (h.msg_ne hother hfirst hheld)

theorem Delivers.resumeFirst (h : Delivers system channel queued free) :
    Delivers system.resumeFirst channel queued free := by
  rw [MqSystem.resumeFirst]
  split
  · exact h
  · next first rest hwaiting =>
    dsimp only
    split
    · next size timeout since hcaller =>
      refine h.of_waiting rest rfl fun other => ?_
      by_cases hsame : other = first
      · subst hsame
        exact .inr ⟨by rw [hcaller]; rfl, by simp [MqSystem.goOn, Caller.msg?]⟩
      · exact .inl (by simp [MqSystem.goOn, hsame])
    · exact h.of_waiting rest rfl fun other => .inl rfl

theorem Delivers.linkTail (h : Delivers system channel queued free)
    {msg copied : Nat} {buffer : Bytes}
    (hcaller : system.caller thread = .filling false msg buffer copied)
    (hcopied : ¬copied < buffer.length) :
    Delivers ({ system with mq := system.mq.linkTail msg }.goOn thread
      (.returned .eok [])) (channel.after (.send buffer))
      (queued ++ [msg]) free := by
  have hheld : (system.caller thread).msg? = some msg := by rw [hcaller]; rfl
  obtain ⟨hlength, hcarries, hnull⟩ :
      (Caller.filling false msg buffer copied).Keeps system.mq
        (channel.reading thread) := hcaller ▸ h.keeps thread
  obtain ⟨hsize, hbytes, hnext⟩ := h.pool.linkTail_frame msg
  apply Delivers.goOn
  · exact h.pool.linkTail hheld (hnull rfl)
  · refine List.rel_append (h.carried.imp fun _ _ hfirst => ?_) (.cons ?_ .nil)
    · exact hfirst.frame hsize fun _ _ => by rw [hbytes]
    · exact (hcarries.of_filled hcopied).frame hsize
        fun _ _ => by rw [hbytes]
  · trivial
  · intro other hother
    refine (h.keeps other).frame hsize ?_ fun _ _ _ _ => by rw [hbytes]
    intro first hfirst
    exact hnext first (h.pool.notMem_queued hfirst)

theorem Delivers.linkHead (h : Delivers system channel queued free)
    {msg copied : Nat} {buffer : Bytes}
    (hcaller : system.caller thread = .filling true msg buffer copied)
    (hcopied : ¬copied < buffer.length) :
    Delivers ({ system with mq := system.mq.linkHead msg }.goOn thread
      (.returned .eok [])) (channel.after (.urgent buffer))
      (msg :: queued) free := by
  have hheld : (system.caller thread).msg? = some msg := by rw [hcaller]; rfl
  obtain ⟨hlength, hcarries, -⟩ :
      (Caller.filling true msg buffer copied).Keeps system.mq
        (channel.reading thread) := hcaller ▸ h.keeps thread
  apply Delivers.goOn
  · exact h.pool.linkHead hheld
  · refine .cons ?_ (h.carried.imp fun _ _ hfirst => ⟨hfirst.1, hfirst.2⟩)
    have hfilled := hcarries.of_filled hcopied
    exact ⟨hfilled.1, hfilled.2⟩
  · trivial
  · intro other hother
    refine (h.keeps other).frame rfl ?_ fun _ _ _ _ => rfl
    intro first hfirst
    exact Function.update_of_ne (h.msg_ne hother hfirst hheld) ..

/-- The caller waits, gives up, or gets the first message of the channel. -/
theorem Delivers.recvTurn (h : Delivers system channel queued free)
    (hidle : (system.caller thread).msg? = none) {size : Nat}
    {timeout : Int32} {now : UInt32} {after : MqSystem Thread}
    (hstep : system.recvTurn currentPriority thread size timeout now =
      some after) :
    ∃ rest, Delivers after (if system.mq.entry = 0 then channel
      else channel.after (.take thread)) rest free := by
  have hwait (waiting : List Thread) (caller : Caller)
      (hcaller : caller.msg? = none) :
      Delivers ({ system with mq := { system.mq with
        suspendThread := waiting } }.goOn thread caller) channel
        queued free := by
    refine h.of_waiting waiting rfl fun other => ?_
    by_cases hsame : other = thread
    · subst hsame
      exact .inr ⟨hidle, by simpa [MqSystem.goOn] using hcaller⟩
    · exact .inl (by simp [MqSystem.goOn, hsame])
  rw [MqSystem.recvTurn] at hstep
  split at hstep
  · next hentry =>
    rw [if_pos hentry]
    split at hstep
    · cases hstep
      exact ⟨queued, hwait system.mq.suspendThread _ rfl⟩
    · cases hstep
      exact ⟨queued, hwait _ _ rfl⟩
  · next hentry =>
    rw [if_neg hentry]
    split at hstep
    · cases hstep
    · next msg mq hget =>
      cases hstep
      obtain ⟨rest, rfl, hpool⟩ := h.pool.getHead hidle hget
      obtain ⟨-, rfl⟩ := MessageQueue.getHead_eq_some_iff.mp hget
      obtain ⟨message, later, hfirst, hlater, hqueue⟩ :=
        List.forall₂_cons_left_iff.mp h.carried
      rw [Channel.after, hqueue]
      refine ⟨rest, Delivers.goOn hpool ?_ ?_ ?_⟩
      · exact hlater.imp fun _ _ hcarries => ⟨hcarries.1, hcarries.2⟩
      · simp only [Function.update_self]
        refine ⟨⟨hfirst.1, hfirst.2⟩, ⟨Nat.zero_le _, ?_⟩, Nat.zero_le _⟩
        intro index byte hbyte
        cases hbyte
      · intro other hother
        simp only [Function.update_of_ne hother]
        exact (h.keeps other).frame rfl (fun _ _ => rfl) fun _ _ _ _ => rfl

theorem Delivers.copyOut (h : Delivers system channel queued free)
    {msg size : Nat} {received : Bytes}
    (hcaller : system.caller thread = .reading msg size received)
    (hmore : received.length < min size system.mq.msgSize.toNat) :
    Delivers (system.goOn thread (.reading msg size (received ++
      [system.mq.pool (msg + sizeofMqMessage + received.length)])))
      channel queued free := by
  have hheld : (system.caller thread).msg? = some msg := by rw [hcaller]; rfl
  obtain ⟨hmessage, hreceived, hlength⟩ :
      (Caller.reading msg size received).Keeps system.mq
        (channel.reading thread) := hcaller ▸ h.keeps thread
  change Delivers ({ system with mq := system.mq }.goOn thread _) channel
    queued free
  apply Delivers.goOn
  · rw [show (Caller.reading msg size _).msg? = (system.caller thread).msg? by
      rw [hheld]; rfl,
      Function.update_eq_self thread fun other => (system.caller other).msg?]
    exact h.pool
  · exact h.carried
  · refine ⟨hmessage, ⟨?_, ?_⟩, ?_⟩
    · rw [List.length_append, List.length_singleton]
      omega
    · intro index byte hbyte
      rw [List.getElem?_append] at hbyte
      split at hbyte
      · exact hreceived.pool_eq index byte hbyte
      · next hindex =>
        have hlt := (List.getElem?_eq_some_iff.mp hbyte).1
        rw [List.length_singleton] at hlt
        obtain rfl : index = received.length := by omega
        simpa using hbyte
    · rw [List.length_append, List.length_singleton]
      omega
  · intro other _
    exact h.keeps other

theorem Delivers.putBack (h : Delivers system channel queued free)
    {msg size : Nat} {received : Bytes}
    (hcaller : system.caller thread = .reading msg size received) :
    Delivers ({ system with mq := system.mq.putFree msg }.goOn thread
      (.returned .eok received)) channel queued (msg :: free) := by
  have hheld : (system.caller thread).msg? = some msg := by rw [hcaller]; rfl
  apply Delivers.goOn
  · exact h.pool.putFree hheld
  · exact h.carried.imp fun _ _ hcarries => ⟨hcarries.1, hcarries.2⟩
  · trivial
  · intro other hother
    refine (h.keeps other).frame rfl ?_ fun _ _ _ _ => rfl
    intro first hfirst
    exact Function.update_of_ne (h.msg_ne hother hfirst hheld) ..

/-- Those that wait have no message; the queue is emptied under the others. -/
theorem Delivers.reset (h : Delivers system channel queued free)
    (hwaiting : ∀ thread ∈ system.mq.suspendThread,
      (system.caller thread).msg? = none) :
    Delivers { system.resumeAll with mq :=
        { system.resumeAll.mq.releaseAll system.mq.maxMsgs.toNat with
          entry := 0 } }
      (channel.after .clear) [] (queued.reverse ++ free) := by
  have hresumed : Delivers system.resumeAll channel queued free := by
    refine h.of_waiting [] rfl fun thread => ?_
    by_cases hmem : thread ∈ system.mq.suspendThread
    · exact .inr ⟨hwaiting thread hmem,
        by simp [MqSystem.resumeAll, hmem, Caller.msg?]⟩
    · exact .inl (by simp [MqSystem.resumeAll, hmem])
  have hlinks := hresumed.pool.toLinks.releaseAll h.pool.length_queued_le
  obtain ⟨hsize, hbytes, hnext⟩ :=
    hresumed.pool.toLinks.releaseAll_frame system.mq.maxMsgs.toNat
  refine ⟨⟨⟨hlinks.queue_linked, hlinks.free_linked, hlinks.tail_eq,
    hlinks.custody⟩, rfl⟩, .nil, fun thread => ?_⟩
  refine (hresumed.keeps thread).frame hsize ?_ fun _ _ _ _ => by rw [hbytes]
  intro msg hmsg
  exact hnext msg (hresumed.pool.notMem_queued hmsg)

end WncFirmware.Kernel
