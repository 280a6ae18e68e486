import WncFirmware.Kernel.MessageRuns

/-!
# What the receivers got

A receipt stands for a call of `rt_mq_recv` that took a message: it is open
while the message is copied, and then holds the bytes that the call returned.
The receipts and the messages stay in step.
-/

namespace WncFirmware.Kernel

open WncFirmware.Foundation

/-- A call with a buffer of `size` bytes that took a message. -/
structure Receipt (Thread : Type) where
  thread : Thread
  size : Nat
  returned : Option Bytes
  deriving DecidableEq, Repr

variable {Thread : Type} [DecidableEq Thread]
  {system after : MqSystem Thread} {channel : Channel Thread}
  {thread : Thread} {currentPriority : Thread → UInt8}
  {receipts : List (Receipt Thread)}

def Receipt.complete (receipt : Receipt Thread) (thread : Thread)
    (received : Bytes) : Receipt Thread :=
  if receipt.thread = thread then
    { receipt with returned := receipt.returned.or (some received) }
  else receipt

def receiptsAfter (after : MqSystem Thread) (receipts : List (Receipt Thread)) :
    MqStep Thread → List (Receipt Thread)
  | .recv thread _ _ _ | .again thread _ =>
      match after.caller thread with
      | .reading _ size _ => receipts ++ [⟨thread, size, none⟩]
      | _ => receipts
  | .putBack thread =>
      match after.caller thread with
      | .returned _ received => receipts.map (·.complete thread received)
      | _ => receipts
  | _ => receipts

def receiptStep (currentPriority : Thread → UInt8)
    (state : (MqSystem Thread × Channel Thread) × List (Receipt Thread))
    (input : MqStep Thread) :
    Option ((MqSystem Thread × Channel Thread) × List (Receipt Thread)) :=
  (observedStep currentPriority state.1 input).map fun next =>
    (next, receiptsAfter next.1 state.2 input)

/-! ## One receiver -/

omit [DecidableEq Thread] in
theorem MessageQueue.Carries.take {mq : MessageQueue Thread} {msg : Nat}
    {bytes : Bytes} (h : mq.Carries msg bytes) (count : Nat) :
    mq.Carries msg (bytes.take count) where
  length_le := (List.length_take_le' ..).trans h.length_le
  pool_eq index byte hbyte := by
    rw [List.getElem?_take] at hbyte
    split at hbyte
    · exact h.pool_eq index byte hbyte
    · cases hbyte

omit [DecidableEq Thread] in
/-- What a buffer of `size` bytes has room for. -/
theorem MessageQueue.Carries.common {mq : MessageQueue Thread} {msg size : Nat}
    {message received : Bytes} (hmessage : mq.Carries msg message)
    (hreceived : mq.Carries msg received)
    (hlength : received.length = min size mq.msgSize.toNat) :
    received.take message.length = message.take size := by
  have hle := hmessage.length_le
  apply (hreceived.take message.length).unique (hmessage.take size)
  simp only [List.length_take]
  omega

theorem Sound.putBack_returned (h : Sound system channel) {msg size : Nat}
    {received : Bytes} (hcaller : system.caller thread = .reading msg size received)
    (hstep : system.step currentPriority (.putBack thread) = some after) :
    after.caller thread = .returned .eok received ∧
      received.length = min size system.mq.msgSize.toNat ∧
      received.take (channel.reading thread).length =
        (channel.reading thread).take size := by
  obtain ⟨queued, free, woken, hdelivers, hwaits⟩ := h
  obtain ⟨hmessage, hreceived, hle⟩ :
      (Caller.reading msg size received).Keeps system.mq
        (channel.reading thread) := hcaller ▸ hdelivers.keeps thread
  rw [MqSystem.step, hcaller] at hstep
  simp only at hstep
  split at hstep
  · cases hstep
  · next hmore =>
    cases hstep
    have hfull : received.length = min size system.mq.msgSize.toNat := by
      have := hreceived.length_le
      omega
    exact ⟨by simp [MqSystem.goOn], hfull, hmessage.common hreceived hfull⟩

/-! ## The others do not disturb a receiver -/

theorem MqSystem.goOn_caller_ne {other : Thread} (hne : other ≠ thread)
    (caller : Caller) :
    (system.goOn thread caller).caller other = system.caller other :=
  Function.update_of_ne hne _ _

theorem MqSystem.resumeFirst_reading {msg size : Nat} {received : Bytes}
    (h : system.caller thread = .reading msg size received) :
    system.resumeFirst.caller thread = .reading msg size received := by
  rw [resumeFirst]
  split
  · exact h
  · next first rest hlist =>
    dsimp only
    split
    · next size' timeout since hcaller =>
      have hne : thread ≠ first := by
        rintro rfl
        rw [h] at hcaller
        cases hcaller
      exact (goOn_caller_ne hne _).trans h
    · exact h

theorem MqSystem.recvTurn_caller_ne {other : Thread} (hne : other ≠ thread)
    {size : Nat} {timeout : Int32} {now : UInt32}
    (hstep : system.recvTurn currentPriority thread size timeout now =
      some after) : after.caller other = system.caller other := by
  rw [recvTurn] at hstep
  split at hstep
  · split at hstep <;> cases hstep <;> exact goOn_caller_ne hne _
  · split at hstep
    · cases hstep
    · cases hstep
      exact goOn_caller_ne hne _

theorem MqSystem.startSend_caller_ne {other : Thread} (hne : other ≠ thread)
    (urgent : Bool) (buffer : Bytes) :
    (system.startSend thread urgent buffer).caller other =
      system.caller other := by
  rw [startSend]
  split
  · exact goOn_caller_ne hne _
  · split <;> exact goOn_caller_ne hne _

def MqStep.thread? : MqStep Thread → Option Thread
  | .send thread _ | .urgent thread _ | .clear thread | .copyIn thread
  | .link thread | .recv thread _ _ _ | .again thread _ | .copyOut thread
  | .putBack thread | .expire thread => some thread
  | .reset => none

theorem MqSystem.step_reading_ne {input : MqStep Thread} {other : Thread}
    {msg size : Nat} {received : Bytes}
    (hstep : system.step currentPriority input = some after)
    (hother : input.thread? = some other) (hne : thread ≠ other)
    (h : system.caller thread = .reading msg size received) :
    after.caller thread = .reading msg size received := by
  cases input with
  | send who buffer | urgent who buffer =>
      cases hother
      simp only [step] at hstep
      split at hstep
      · split at hstep
        · cases hstep
        · cases hstep
          rw [startSend_caller_ne hne, h]
      · cases hstep
  | clear who | expire who =>
      cases hother
      simp only [step] at hstep
      split at hstep
      · first
          | cases hstep
            rw [goOn_caller_ne hne, h]
          | split at hstep
            · cases hstep
              rw [goOn_caller_ne hne, h]
            · cases hstep
      · cases hstep
  | copyIn who =>
      cases hother
      simp only [step] at hstep
      split at hstep
      · split at hstep
        · cases hstep
        · cases hstep
          rw [goOn_caller_ne hne, h]
      · cases hstep
  | link who =>
      cases hother
      simp only [step] at hstep
      split at hstep
      · split at hstep
        · cases hstep
        · cases hstep
          apply resumeFirst_reading
          rw [goOn_caller_ne hne, h]
      · cases hstep
  | recv who _ _ _ =>
      cases hother
      simp only [step] at hstep
      split at hstep
      · split at hstep
        · cases hstep
        · rw [recvTurn_caller_ne hne hstep, h]
      · cases hstep
  | again who _ =>
      cases hother
      simp only [step] at hstep
      split at hstep
      · rw [recvTurn_caller_ne hne hstep, h]
      · cases hstep
  | copyOut who | putBack who =>
      cases hother
      simp only [step] at hstep
      split at hstep
      · split at hstep <;> cases hstep
        rw [goOn_caller_ne hne, h]
      · cases hstep
  | reset => cases hother

/-! ## The receipts stay in step -/

/-- A complete receipt has the bytes, an open one has a call that reads them. -/
def Receipt.Answers (system : MqSystem Thread) (channel : Channel Thread)
    (receipt : Receipt Thread) (message : Bytes) : Prop :=
  match receipt.returned with
  | some received => received.take message.length = message.take receipt.size
  | none => channel.reading receipt.thread = message ∧
      ∃ msg received,
        system.caller receipt.thread = .reading msg receipt.size received

def Booked (system : MqSystem Thread) (channel : Channel Thread)
    (receipts : List (Receipt Thread)) : Prop :=
  List.Forall₂ (Receipt.Answers system channel) receipts channel.taken

omit [DecidableEq Thread] in
theorem Booked.frame (h : Booked system channel receipts)
    {later : Channel Thread} (htaken : later.taken = channel.taken)
    (hkeep : ∀ thread msg size received,
      system.caller thread = .reading msg size received →
        later.reading thread = channel.reading thread ∧
          ∃ received', after.caller thread = .reading msg size received') :
    Booked after later receipts := by
  rw [Booked, htaken]
  refine List.Forall₂.imp (fun receipt message hanswers => ?_) h
  unfold Receipt.Answers at hanswers ⊢
  cases hreturned : receipt.returned with
  | some received => simpa [hreturned] using hanswers
  | none =>
      simp only [hreturned] at hanswers ⊢
      obtain ⟨hmessage, msg, received, hcaller⟩ := hanswers
      obtain ⟨hreading, received', hafter⟩ := hkeep _ _ _ _ hcaller
      exact ⟨hreading.trans hmessage, msg, received', hafter⟩

theorem Booked.other (h : Booked system channel receipts)
    {input : MqStep Thread} {other : Thread} {later : Channel Thread}
    (hstep : system.step currentPriority input = some after)
    (hother : input.thread? = some other)
    (hidle : (∀ msg size received,
        system.caller other ≠ .reading msg size received) ∨
      ∀ msg size received, system.caller other = .reading msg size received →
        ∃ received', after.caller other = .reading msg size received')
    (htaken : later.taken = channel.taken)
    (hreading : later.reading = channel.reading) :
    Booked after later receipts := by
  refine h.frame htaken fun thread msg size received hcaller =>
    ⟨congrFun hreading thread, ?_⟩
  by_cases hsame : thread = other
  · subst hsame
    rcases hidle with hidle | hgoes
    · exact absurd hcaller (hidle msg size received)
    · exact hgoes msg size received hcaller
  · exact ⟨received, MqSystem.step_reading_ne hstep hother hsame hcaller⟩

theorem Booked.take (h : Booked system channel receipts)
    (hsound : Sound system channel) {size : Nat} {timeout : Int32}
    {now : UInt32}
    (hidle : ∀ msg size received,
      system.caller thread ≠ .reading msg size received)
    (hstep : system.recvTurn currentPriority thread size timeout now =
      some after) :
    Booked after
      (if system.mq.entry = 0 then channel else channel.after (.take thread))
      (match after.caller thread with
        | .reading _ size _ => receipts ++ [⟨thread, size, none⟩]
        | _ => receipts) := by
  have hkeep (who : Thread) (msg size : Nat) (received : Bytes)
      (hcaller : system.caller who = .reading msg size received) :
      who ≠ thread ∧ after.caller who = .reading msg size received := by
    have hne : who ≠ thread := by
      rintro rfl
      exact hidle msg size received hcaller
    exact ⟨hne, by rw [MqSystem.recvTurn_caller_ne hne hstep, hcaller]⟩
  obtain ⟨queued, free, woken, hdelivers, hwaits⟩ := hsound
  rw [MqSystem.recvTurn] at hstep
  split at hstep
  · next hentry =>
    have hframe : Booked after channel receipts := h.frame rfl
      fun who msg size received hcaller =>
        ⟨rfl, received, (hkeep who msg size received hcaller).2⟩
    rw [if_pos hentry]
    split at hstep <;> cases hstep <;> simpa [MqSystem.goOn] using hframe
  · next hentry =>
    rw [if_neg hentry]
    obtain ⟨message, rest, hqueue⟩ : ∃ message rest,
        channel.queue = message :: rest := by
      apply List.exists_cons_of_ne_nil
      rintro hempty
      have hlength := hdelivers.carried.length_eq
      rw [hempty, List.length_nil, List.length_eq_zero_iff] at hlength
      exact hentry (hdelivers.pool.entry_eq_zero_iff.mpr hlength)
    split at hstep
    · cases hstep
    · next msg mq hhead =>
      cases hstep
      have hcaller : (({ system with mq := mq }.goOn thread
          (.reading msg size [])).caller thread) = .reading msg size [] := by
        simp [MqSystem.goOn]
      simp only [hcaller, Channel.after, hqueue]
      have hbefore : Booked ({ system with mq := mq }.goOn thread
          (.reading msg size [])) { channel with
            queue := rest
            reading := Function.update channel.reading thread message }
          receipts := by
        refine h.frame rfl fun who msg' size' received' hreading => ?_
        obtain ⟨hne, hafter⟩ := hkeep who msg' size' received' hreading
        exact ⟨Function.update_of_ne hne _ _, received', hafter⟩
      exact List.rel_append hbefore (.cons ⟨by simp, msg, [], hcaller⟩ .nil)

theorem Booked.putBack (h : Booked system channel receipts)
    (hsound : Sound system channel)
    (hstep : system.step currentPriority (.putBack thread) = some after) :
    Booked after channel (receiptsAfter after receipts (.putBack thread)) := by
  obtain ⟨msg, size, received, hcaller⟩ : ∃ msg size received,
      system.caller thread = .reading msg size received := by
    simp only [MqSystem.step] at hstep
    split at hstep
    · next msg size received hcaller => exact ⟨msg, size, received, hcaller⟩
    · cases hstep
  obtain ⟨hreturned, -, hbytes⟩ := hsound.putBack_returned hcaller hstep
  simp only [receiptsAfter, hreturned]
  refine List.forall₂_map_left_iff.mpr (List.Forall₂.imp ?_ h)
  intro receipt message hanswers
  unfold Receipt.complete
  unfold Receipt.Answers at hanswers ⊢
  by_cases hthread : receipt.thread = thread
  · simp only [hthread, ↓reduceIte] at hanswers ⊢
    cases hopen : receipt.returned with
    | some bytes => simpa [hopen] using hanswers
    | none =>
        simp only [hopen] at hanswers ⊢
        obtain ⟨rfl, msg', received', hreading⟩ := hanswers
        rw [hcaller] at hreading
        cases hreading
        exact hbytes
  · simp only [hthread, ↓reduceIte]
    cases hopen : receipt.returned with
    | some bytes => simpa [hopen] using hanswers
    | none =>
        simp only [hopen] at hanswers ⊢
        obtain ⟨hmessage, msg', received', hreading⟩ := hanswers
        exact ⟨hmessage, msg', received',
          MqSystem.step_reading_ne hstep rfl hthread hreading⟩

theorem Booked.step (h : Booked system channel receipts)
    (hsound : Sound system channel) {input : MqStep Thread}
    {later : Channel Thread} {receipts' : List (Receipt Thread)}
    (hguard : (system.observe input).all ChannelEvent.inTurn)
    (hstep : receiptStep currentPriority ((system, channel), receipts) input =
      some ((after, later), receipts')) : Booked after later receipts' := by
  obtain ⟨next, hobserved, heq⟩ := Option.map_eq_some_iff.mp hstep
  cases heq
  obtain ⟨next, hnext, heq⟩ := Option.map_eq_some_iff.mp hobserved
  cases heq
  simp only at hnext ⊢
  cases input with
  | send thread _ | urgent thread _ | clear thread | copyIn thread
  | expire thread =>
      refine h.other hnext rfl (.inl fun msg size received hcaller => ?_) rfl rfl
      rw [MqSystem.step, hcaller] at hnext
      cases hnext
  | link thread =>
      refine h.other hnext rfl (.inl fun msg size received hcaller => ?_) ?_ ?_
      · rw [MqSystem.step, hcaller] at hnext
        cases hnext
      all_goals
        simp only [MqSystem.observe]
        split <;> rename_i hevent
        · rfl
        · split at hevent <;> cases hevent <;> rfl
  | recv thread size timeout now =>
      simp only [MqSystem.step] at hnext
      split at hnext
      · next result received hcaller =>
        split at hnext
        · cases hnext
        · have hafter := h.take hsound (by simp [hcaller]) hnext
          simp only [receiptsAfter, MqSystem.observe]
          split at hafter <;> rename_i hentry <;> simpa [hentry] using hafter
      · cases hnext
  | again thread now =>
      simp only [MqSystem.step] at hnext
      split at hnext
      · next size timeout since hcaller =>
        have hafter := h.take hsound (by simp [hcaller]) hnext
        simp only [receiptsAfter, MqSystem.observe]
        split at hafter <;> rename_i hentry <;> simpa [hentry] using hafter
      · cases hnext
  | copyOut thread =>
      refine h.other hnext rfl (.inr fun msg size received hcaller => ?_) rfl rfl
      rw [MqSystem.step, hcaller] at hnext
      simp only at hnext
      split at hnext
      · cases hnext
        exact ⟨_, Function.update_self ..⟩
      · cases hnext
  | putBack thread => exact h.putBack hsound hnext
  | reset => exact absurd hguard (by simp [MqSystem.observe, ChannelEvent.inTurn])

structure InOrder
    (state : (MqSystem Thread × Channel Thread) × List (Receipt Thread)) :
    Prop where
  sound : Sound state.1.1 state.1.2
  booked : Booked state.1.1 state.1.2 state.2
  sent : state.1.2.sent = state.1.2.taken ++ state.1.2.queue

theorem InOrder.step
    {state next : (MqSystem Thread × Channel Thread) × List (Receipt Thread)}
    (h : InOrder state) {input : MqStep Thread}
    (hguard : (state.1.1.observe input).all ChannelEvent.inTurn)
    (hstep : receiptStep currentPriority state input = some next) :
    InOrder next := by
  obtain ⟨after, hobserved, rfl⟩ := Option.map_eq_some_iff.mp hstep
  refine ⟨h.sound.step hobserved, h.booked.step h.sound hguard hstep, ?_⟩
  obtain ⟨system, -, rfl⟩ := Option.map_eq_some_iff.mp hobserved
  cases hevent : state.1.1.observe input with
  | none => exact h.sent
  | some event =>
      rw [hevent] at hguard
      exact Channel.after_in_order h.sent hguard

section Runs

variable {next : Nat → Option Nat} {pool : Nat → UInt8}
  {msgSize maxMsgs : UInt16} {flag : RtIpcFlag} {inputs : List (MqStep Thread)}

/--
Without urgent messages and resets, first in is first out: the queue holds the
messages that were sent and not yet taken, and the calls that took the others
returned them in the order in which they were sent.
-/
theorem mq_first_in_first_out
    (run : Run (receiptStep currentPriority)
      (fun state input => (state.1.1.observe input).all ChannelEvent.inTurn)
      ((.start (.setUp next pool msgSize maxMsgs flag), .empty), []) inputs
      ((system, channel), receipts)) :
    (∃ queued free, Delivers system channel queued free) ∧
      channel.sent = channel.taken ++ channel.queue ∧
      List.Forall₂ (Receipt.Answers system channel) receipts channel.taken ∧
      channel.queue.length = system.mq.entry.toNat ∧
      channel.queue.length ≤ system.mq.maxMsgs.toNat := by
  have hkeep (state : (MqSystem Thread × Channel Thread) × List (Receipt Thread))
      (input : MqStep Thread)
      (after : (MqSystem Thread × Channel Thread) × List (Receipt Thread))
      (h : InOrder state)
      (hguard : (state.1.1.observe input).all ChannelEvent.inTurn)
      (hstep : receiptStep currentPriority state input = some after) :
      InOrder after := h.step hguard hstep
  obtain ⟨hsound, hbooked, hsent⟩ := @Run.invariant _ _ _ _ InOrder hkeep
    _ _ _ run ⟨sound_start next pool msgSize maxMsgs flag, .nil, rfl⟩
  obtain ⟨queued, free, woken, hdelivers, hwaits⟩ := hsound
  have hlength := hdelivers.carried.length_eq
  refine ⟨⟨queued, free, hdelivers⟩, hsent, hbooked, ?_, ?_⟩
  · rw [← hlength, hdelivers.pool.entry_eq]
  · rw [← hlength]
    exact hdelivers.pool.length_queued_le

/--
A receiver gets as much as its buffer has room for of the message that the
channel gave it, whatever the others did while it was copied twice.
-/
theorem mq_message_arrives_whole
    (run : Run (observedStep currentPriority) (fun _ _ => True)
      (.start (.setUp next pool msgSize maxMsgs flag), .empty) inputs
      (system, channel))
    {msg size : Nat} {received : Bytes}
    (hcaller : system.caller thread = .reading msg size received)
    {after : MqSystem Thread}
    (hstep : system.step currentPriority (.putBack thread) = some after) :
    after.caller thread = .returned .eok received ∧
      received.length = min size system.mq.msgSize.toNat ∧
      received.take (channel.reading thread).length =
        (channel.reading thread).take size :=
  (sound_of_run run).putBack_returned hcaller hstep

end Runs

/-! ## Two receivers -/

theorem mq_first_in_first_out_two_receivers :
    ∃ (system : MqSystem (Fin 3)) (channel : Channel (Fin 3))
      (receipts : List (Receipt (Fin 3))),
      receipts = [⟨1, 2, some [7, 0]⟩, ⟨2, 1, some [8]⟩] ∧
      channel.taken = [[7], [8, 9]] ∧
      (∃ queued free, Delivers system channel queued free) ∧
      channel.sent = channel.taken ++ channel.queue ∧
      List.Forall₂ (Receipt.Answers system channel) receipts channel.taken ∧
      channel.queue.length = system.mq.entry.toNat ∧
      channel.queue.length ≤ system.mq.maxMsgs.toNat := by
  have run : Run (receiptStep fun _ => 10)
      (fun state input => (state.1.1.observe input).all ChannelEvent.inTurn)
      ((.start twoMessages, .empty), []) (twoReceivers ++ [.putBack 1]) _ :=
    Run.of_checked rfl
  exact ⟨_, _, _, rfl, rfl, mq_first_in_first_out run⟩

theorem mq_message_arrives_whole_two_receivers :
    ∃ system channel after, stateAfter twoReceivers = some (system, channel) ∧
      system.step (fun _ => 10) (.putBack 1) = some after ∧
      channel.reading 1 = [7] ∧
      after.caller 1 = .returned .eok [7, 0] ∧
      [7, 0].length = min 2 system.mq.msgSize.toNat ∧
      [7, 0].take (channel.reading 1).length = (channel.reading 1).take 2 :=
  ⟨_, _, _, rfl, rfl, rfl,
    mq_message_arrives_whole (run_of_stateAfter twoReceivers rfl) rfl rfl⟩

end WncFirmware.Kernel
