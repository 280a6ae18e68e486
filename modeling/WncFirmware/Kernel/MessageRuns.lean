import WncFirmware.Kernel.MessageDelivery

/-!
# Runs of a message queue

From the set-up queue on, for any number of callers: the queue behaves as the
channel does, and a message is never left lying while all receivers wait.
-/

namespace WncFirmware.Kernel

open WncFirmware.Foundation

variable {Thread : Type}

/-! ## Those that wait and those that were resumed -/

def Caller.isSuspended : Caller → Bool
  | .suspended .. => true
  | _ => false

def Caller.isResumed : Caller → Bool
  | .resumed .. => true
  | _ => false

structure Waits (system : MqSystem Thread) (woken : List Thread) : Prop where
  waiting_nodup : system.mq.suspendThread.Nodup
  waiting_iff : ∀ thread, thread ∈ system.mq.suspendThread ↔
    (system.caller thread).isSuspended = true
  woken_nodup : woken.Nodup
  woken_iff : ∀ thread, thread ∈ woken ↔
    (system.caller thread).isResumed = true
  enough : system.mq.suspendThread ≠ [] →
    system.mq.entry.toNat ≤ woken.length

variable {system : MqSystem Thread} {thread : Thread} {woken : List Thread}
  {mq : MessageQueue Thread}

theorem Waits.exists_suspended (h : Waits system woken)
    (hmem : thread ∈ system.mq.suspendThread) :
    ∃ size timeout since,
      system.caller thread = .suspended size timeout since := by
  have hsuspended := (h.waiting_iff thread).mp hmem
  cases hcaller : system.caller thread with
  | suspended size timeout since => exact ⟨size, timeout, since, rfl⟩
  | returned | clearing | filling | resumed | reading =>
      rw [hcaller] at hsuspended
      cases hsuspended

variable [DecidableEq Thread]

theorem Waits.goOn (h : Waits system woken) {caller : Caller}
    (hold : (system.caller thread).isSuspended = false)
    (hnew : caller.isSuspended = false) (hresumed : caller.isResumed = false)
    (hwaiting : mq.suspendThread = system.mq.suspendThread)
    (henough : system.mq.suspendThread ≠ [] →
      mq.entry.toNat ≤ (woken.erase thread).length) :
    Waits ({ system with mq := mq }.goOn thread caller)
      (woken.erase thread) where
  waiting_nodup := hwaiting ▸ h.waiting_nodup
  waiting_iff other := by
    simp only [MqSystem.goOn, hwaiting, h.waiting_iff]
    by_cases hsame : other = thread
    · subst hsame
      simp [hold, hnew]
    · simp [hsame]
  woken_nodup := h.woken_nodup.erase thread
  woken_iff other := by
    rw [h.woken_nodup.mem_erase_iff, h.woken_iff]
    by_cases hsame : other = thread
    · subst hsame
      simp [MqSystem.goOn, hresumed]
    · simp [MqSystem.goOn, hsame]
  enough hnonempty := henough (hwaiting ▸ hnonempty)

theorem Waits.goOn_sending (h : Waits system woken) {caller : Caller}
    (hold : (system.caller thread).isSuspended = false)
    (hidle : (system.caller thread).isResumed = false)
    (hnew : caller.isSuspended = false) (hresumed : caller.isResumed = false)
    (hwaiting : mq.suspendThread = system.mq.suspendThread)
    (hentry : mq.entry = system.mq.entry) :
    Waits ({ system with mq := mq }.goOn thread caller) woken := by
  have hnotMem : thread ∉ woken := by
    rw [h.woken_iff, hidle]
    exact Bool.false_ne_true
  rw [← List.erase_of_not_mem hnotMem]
  refine h.goOn hold hnew hresumed hwaiting fun hnonempty => ?_
  rw [List.erase_of_not_mem hnotMem, hentry]
  exact h.enough hnonempty

theorem Waits.suspend (h : Waits system woken) {waiting : List Thread}
    (hold : (system.caller thread).isSuspended = false)
    (hperm : waiting.Perm (thread :: system.mq.suspendThread))
    (hentry : system.mq.entry = 0) (size : Nat) (timeout : Int32)
    (now : UInt32) :
    Waits ({ system with mq := { system.mq with
      suspendThread := waiting } }.goOn thread (.suspended size timeout now))
      (woken.erase thread) where
  waiting_nodup := by
    refine hperm.nodup_iff.mpr (List.nodup_cons.mpr ⟨?_, h.waiting_nodup⟩)
    rw [h.waiting_iff, hold]
    exact Bool.false_ne_true
  waiting_iff other := by
    simp only [MqSystem.goOn, hperm.mem_iff, List.mem_cons, h.waiting_iff]
    by_cases hsame : other = thread
    · subst hsame
      simp [Caller.isSuspended]
    · simp [hsame]
  woken_nodup := h.woken_nodup.erase thread
  woken_iff other := by
    rw [h.woken_nodup.mem_erase_iff, h.woken_iff]
    by_cases hsame : other = thread
    · subst hsame
      simp [MqSystem.goOn, Caller.isResumed]
    · simp [MqSystem.goOn, hsame]
  enough _ := by simp [MqSystem.goOn, hentry]

theorem Waits.recvTurn {currentPriority : Thread → UInt8}
    (h : Waits system woken)
    (hold : (system.caller thread).isSuspended = false) {size : Nat}
    {timeout : Int32} {now : UInt32} {after : MqSystem Thread}
    (hstep : system.recvTurn currentPriority thread size timeout now =
      some after) :
    Waits after (woken.erase thread) := by
  rw [MqSystem.recvTurn] at hstep
  split at hstep
  · next hentry =>
    split at hstep
    · cases hstep
      refine @Waits.goOn _ system thread woken system.mq _ h _ hold rfl rfl rfl
        fun _ => ?_
      simp [hentry]
    · cases hstep
      exact h.suspend hold (rtIpcListSuspend_perm ..) hentry size timeout now
  · next hentry =>
    split at hstep
    · cases hstep
    · next msg mq hget =>
      cases hstep
      obtain ⟨-, rfl⟩ := MessageQueue.getHead_eq_some_iff.mp hget
      refine h.goOn hold rfl rfl rfl fun hnonempty => ?_
      have henough := h.enough hnonempty
      have herase : woken.length - 1 ≤ (woken.erase thread).length :=
        List.le_length_erase
      have hsub : (system.mq.entry - 1).toNat = system.mq.entry.toNat - 1 := by
        apply UInt16.toNat_sub_of_le
        rw [UInt16.le_iff_toNat_le]
        have hne : system.mq.entry.toNat ≠ 0 := fun hzero =>
          hentry (UInt16.toNat_inj.mp hzero)
        exact Nat.one_le_iff_ne_zero.mpr hne
      dsimp only
      omega

theorem MqSystem.resumeFirst_of_cons {first : Thread} {rest : List Thread}
    {size : Nat} {timeout : Int32} {since : UInt32}
    (hlist : system.mq.suspendThread = first :: rest)
    (hcaller : system.caller first = .suspended size timeout since) :
    system.resumeFirst = { system with mq := { system.mq with
      suspendThread := rest } }.goOn first (.resumed size timeout since) := by
  simp only [resumeFirst, hlist, hcaller]

theorem Waits.link (h : Waits system woken)
    (hold : (system.caller thread).isSuspended = false)
    (hresumed : (system.caller thread).isResumed = false)
    (hwaiting : mq.suspendThread = system.mq.suspendThread)
    (hentry : mq.entry.toNat = system.mq.entry.toNat + 1) :
    ∃ woken, Waits (({ system with mq := mq }.goOn thread
      (.returned .eok [])).resumeFirst) woken := by
  cases hlist : system.mq.suspendThread with
  | nil =>
      refine ⟨woken.erase thread, ?_⟩
      have hgoOn : Waits ({ system with mq := mq }.goOn thread
          (.returned .eok [])) (woken.erase thread) :=
        h.goOn hold rfl rfl hwaiting fun hnonempty => absurd hlist hnonempty
      simpa [MqSystem.resumeFirst, MqSystem.goOn, hwaiting, hlist] using hgoOn
  | cons first rest =>
      have hfirst : first ∈ system.mq.suspendThread := by simp [hlist]
      obtain ⟨size, timeout, since, hcaller⟩ := h.exists_suspended hfirst
      have hne : first ≠ thread := by
        rintro rfl
        rw [hcaller] at hold
        cases hold
      have hnodup := h.waiting_nodup
      rw [hlist, List.nodup_cons] at hnodup
      have hwoken : first ∉ woken := by
        rw [h.woken_iff, hcaller]
        exact Bool.false_ne_true
      rw [MqSystem.resumeFirst_of_cons (hwaiting.trans hlist)
        (by simpa [MqSystem.goOn, hne] using hcaller)]
      refine ⟨first :: woken, hnodup.2, fun other => ?_,
        List.nodup_cons.mpr ⟨hwoken, h.woken_nodup⟩, fun other => ?_, fun _ => ?_⟩
      · have hiff := h.waiting_iff other
        rw [hlist, List.mem_cons] at hiff
        by_cases hsame : other = first
        · subst hsame
          simpa [MqSystem.goOn, Caller.isSuspended] using hnodup.1
        · by_cases hown : other = thread
          · subst hown
            have hreturned : (Caller.returned .eok []).isSuspended = false := rfl
            simpa [MqSystem.goOn, hsame, hold, hreturned] using hiff
          · simpa [MqSystem.goOn, hsame, hown] using hiff
      · rw [List.mem_cons, h.woken_iff]
        by_cases hsame : other = first
        · subst hsame
          simp [MqSystem.goOn, Caller.isResumed]
        · by_cases hown : other = thread
          · subst hown
            have hreturned : (Caller.returned .eok []).isResumed = false := rfl
            simp [MqSystem.goOn, hsame, hresumed, hreturned]
          · simp [MqSystem.goOn, hsame, hown]
      · have henough := h.enough (List.ne_nil_of_mem hfirst)
        simp only [MqSystem.goOn, hentry, List.length_cons]
        omega

theorem Waits.expire (h : Waits system woken)
    (hmem : thread ∈ system.mq.suspendThread) (result : RtErr) :
    Waits ({ system with mq := { system.mq with
      suspendThread := system.mq.suspendThread.erase thread } }.goOn thread
      (.returned result [])) woken where
  waiting_nodup := h.waiting_nodup.erase thread
  waiting_iff other := by
    simp only [MqSystem.goOn, h.waiting_nodup.mem_erase_iff, h.waiting_iff]
    by_cases hsame : other = thread
    · subst hsame
      simp [Caller.isSuspended]
    · simp [hsame]
  woken_nodup := h.woken_nodup
  woken_iff other := by
    obtain ⟨size, timeout, since, hcaller⟩ := h.exists_suspended hmem
    rw [h.woken_iff]
    by_cases hsame : other = thread
    · subst hsame
      simp [MqSystem.goOn, hcaller, Caller.isResumed]
    · simp [MqSystem.goOn, hsame]
  enough _ := h.enough (List.ne_nil_of_mem hmem)

theorem Waits.reset (h : Waits system woken)
    (hwaiting : mq.suspendThread = []) :
    Waits { system.resumeAll with mq := mq } woken where
  waiting_nodup := by simp [hwaiting]
  waiting_iff other := by
    simp only [hwaiting, MqSystem.resumeAll, List.not_mem_nil, false_iff]
    split
    · exact Bool.false_ne_true
    · next hout => exact fun hsuspended => hout ((h.waiting_iff other).mpr hsuspended)
  woken_nodup := h.woken_nodup
  woken_iff other := by
    simp only [MqSystem.resumeAll, h.woken_iff]
    split
    · next hmem =>
      obtain ⟨size, timeout, since, hcaller⟩ := h.exists_suspended hmem
      simp [hcaller, Caller.isResumed]
    · rfl
  enough hnonempty := absurd hwaiting hnonempty

/-! ## Every step -/

variable {currentPriority : Thread → UInt8} {channel : Channel Thread}

theorem Waits.startSend (h : Waits system woken) {result : RtErr}
    {received : Bytes}
    (hcaller : system.caller thread = .returned result received)
    (urgent : Bool) (buffer : Bytes) :
    Waits (system.startSend thread urgent buffer) woken := by
  have hold : (system.caller thread).isSuspended = false := by rw [hcaller]; rfl
  have hidle : (system.caller thread).isResumed = false := by rw [hcaller]; rfl
  rw [MqSystem.startSend]
  split
  · exact @Waits.goOn_sending _ system thread woken system.mq _ h
      _ hold hidle rfl rfl rfl rfl
  · split
    · exact @Waits.goOn_sending _ system thread woken system.mq _ h
        _ hold hidle rfl rfl rfl rfl
    · next msg mq hget =>
      obtain ⟨-, rfl⟩ := MessageQueue.getFree_eq_some_iff.mp hget
      cases urgent <;> exact h.goOn_sending hold hidle rfl rfl rfl rfl

def Sound (system : MqSystem Thread) (channel : Channel Thread) : Prop :=
  ∃ queued free woken, Delivers system channel queued free ∧ Waits system woken

variable {after : MqSystem Thread}

theorem Sound.startSend (h : Sound system channel) {result : RtErr}
    {received : Bytes}
    (hcaller : system.caller thread = .returned result received)
    (urgent : Bool) (buffer : Bytes) :
    Sound (system.startSend thread urgent buffer) channel := by
  obtain ⟨queued, free, woken, hdelivers, hwaits⟩ := h
  obtain ⟨rest, hafter⟩ :=
    hdelivers.startSend (by rw [hcaller]; rfl) urgent buffer
  exact ⟨queued, rest, woken, hafter, hwaits.startSend hcaller urgent buffer⟩

theorem Sound.link (h : Sound system channel) {urgent : Bool}
    {msg copied : Nat} {buffer : Bytes}
    (hcaller : system.caller thread = .filling urgent msg buffer copied)
    (hcopied : ¬copied < buffer.length) :
    Sound (({ system with mq := if urgent then system.mq.linkHead msg
        else system.mq.linkTail msg }.goOn thread
          (.returned .eok [])).resumeFirst)
      (channel.after (if urgent then .urgent buffer else .send buffer)) := by
  obtain ⟨queued, free, woken, hdelivers, hwaits⟩ := h
  have hheld : (system.caller thread).msg? = some msg := by rw [hcaller]; rfl
  have hentry := hdelivers.pool.entry_add_one hheld
  rw [← hdelivers.pool.entry_eq] at hentry
  have hold : (system.caller thread).isSuspended = false := by rw [hcaller]; rfl
  have hidle : (system.caller thread).isResumed = false := by rw [hcaller]; rfl
  cases urgent with
  | false =>
      obtain ⟨hwaiting, hcount⟩ := system.mq.linkTail_waiting msg
      obtain ⟨woken, hafter⟩ := hwaits.link hold hidle hwaiting
        ((congrArg UInt16.toNat hcount).trans hentry)
      exact ⟨queued ++ [msg], free, woken,
        (hdelivers.linkTail hcaller hcopied).resumeFirst, hafter⟩
  | true =>
      have hwaiting :
          (system.mq.linkHead msg).suspendThread = system.mq.suspendThread := rfl
      obtain ⟨woken, hafter⟩ := hwaits.link hold hidle hwaiting hentry
      exact ⟨msg :: queued, free, woken,
        (hdelivers.linkHead hcaller hcopied).resumeFirst, hafter⟩

theorem Sound.recvTurn (h : Sound system channel)
    (hold : (system.caller thread).isSuspended = false)
    (hidle : (system.caller thread).msg? = none) {size : Nat}
    {timeout : Int32} {now : UInt32}
    (hstep : system.recvTurn currentPriority thread size timeout now =
      some after) :
    Sound after (if system.mq.entry = 0 then channel
      else channel.after (.take thread)) := by
  obtain ⟨queued, free, woken, hdelivers, hwaits⟩ := h
  obtain ⟨rest, hafter⟩ := hdelivers.recvTurn hidle hstep
  exact ⟨rest, free, woken.erase thread, hafter, hwaits.recvTurn hold hstep⟩

theorem Sound.expire (h : Sound system channel) {size : Nat}
    {timeout : Int32} {since : UInt32}
    (hcaller : system.caller thread = .suspended size timeout since) :
    Sound ({ system with mq := { system.mq with
      suspendThread := system.mq.suspendThread.erase thread } }.goOn thread
      (.returned .etimeout [])) channel := by
  obtain ⟨queued, free, woken, hdelivers, hwaits⟩ := h
  have hmem := (hwaits.waiting_iff thread).mpr (by rw [hcaller]; rfl)
  refine ⟨queued, free, woken, ?_, hwaits.expire hmem .etimeout⟩
  refine hdelivers.of_waiting _ rfl fun other => ?_
  by_cases hsame : other = thread
  · subst hsame
    exact .inr ⟨by rw [hcaller]; rfl, by simp [MqSystem.goOn, Caller.msg?]⟩
  · exact .inl (by simp [MqSystem.goOn, hsame])

theorem Sound.reset (h : Sound system channel)
    (hstep : system.step currentPriority .reset = some after) :
    Sound after (channel.after .clear) := by
  obtain ⟨queued, free, woken, hdelivers, hwaits⟩ := h
  cases hstep
  refine ⟨[], queued.reverse ++ free, woken,
    hdelivers.reset fun thread hmem => ?_,
    hwaits.reset (MessageQueue.releaseAll_waiting ..)⟩
  obtain ⟨size, timeout, since, hcaller⟩ := hwaits.exists_suspended hmem
  rw [hcaller]
  rfl

theorem Sound.of_copy (h : Sound system channel) {mq : MessageQueue Thread}
    {caller : Caller} (hold : (system.caller thread).msg? ≠ none)
    (hnew : caller.isSuspended = false) (hresumed : caller.isResumed = false)
    (hwaiting : mq.suspendThread = system.mq.suspendThread)
    (hentry : mq.entry = system.mq.entry)
    (hdelivers : ∀ queued free, Delivers system channel queued free →
      ∃ rest, Delivers ({ system with mq := mq }.goOn thread caller) channel
        queued rest) :
    Sound ({ system with mq := mq }.goOn thread caller) channel := by
  obtain ⟨queued, free, woken, hbefore, hwaits⟩ := h
  obtain ⟨rest, hafter⟩ := hdelivers queued free hbefore
  refine ⟨queued, rest, woken, hafter, ?_⟩
  apply hwaits.goOn_sending _ _ hnew hresumed hwaiting hentry
  all_goals
    cases hcaller : system.caller thread with
    | clearing | filling | reading => rfl
    | returned | suspended | resumed =>
        rw [hcaller] at hold
        exact absurd rfl hold

theorem Sound.step {input : MqStep Thread} (h : Sound system channel)
    {later : Channel Thread}
    (hstep : observedStep currentPriority (system, channel) input =
      some (after, later)) : Sound after later := by
  obtain ⟨next, hnext, heq⟩ := Option.map_eq_some_iff.mp hstep
  cases heq
  simp only at hnext ⊢
  cases input with
  | send thread buffer =>
      rw [MqSystem.step] at hnext
      split at hnext
      · next result received hcaller =>
        split at hnext <;> cases hnext
        exact h.startSend hcaller false buffer
      · cases hnext
  | urgent thread buffer =>
      rw [MqSystem.step] at hnext
      split at hnext
      · next result received hcaller =>
        split at hnext <;> cases hnext
        exact h.startSend hcaller true buffer
      · cases hnext
  | clear thread =>
      rw [MqSystem.step] at hnext
      split at hnext
      · next msg buffer hcaller =>
        cases hnext
        refine h.of_copy (by simp [hcaller, Caller.msg?]) rfl rfl rfl rfl ?_
        exact fun queued free hdelivers => ⟨free, hdelivers.clear hcaller⟩
      · cases hnext
  | copyIn thread =>
      rw [MqSystem.step] at hnext
      split at hnext
      · next urgent msg buffer copied hcaller =>
        split at hnext
        · cases hnext
        · next byte hbyte =>
          cases hnext
          refine h.of_copy (by simp [hcaller, Caller.msg?]) rfl rfl rfl rfl ?_
          exact fun queued free hdelivers =>
            ⟨free, hdelivers.copyIn hcaller hbyte⟩
      · cases hnext
  | link thread =>
      rw [MqSystem.step] at hnext
      split at hnext
      · next urgent msg buffer copied hcaller =>
        split at hnext
        · cases hnext
        · next hcopied =>
          cases hnext
          have hafter := h.link hcaller hcopied
          simp only [MqSystem.observe, hcaller]
          cases urgent <;> exact hafter
      · cases hnext
  | recv thread size timeout now =>
      rw [MqSystem.step] at hnext
      split at hnext
      · next result received hcaller =>
        split at hnext
        · cases hnext
        · have hafter := h.recvTurn (by rw [hcaller]; rfl)
            (by rw [hcaller]; rfl) hnext
          simp only [MqSystem.observe]
          split at hafter <;> rename_i hentry <;> simpa [hentry] using hafter
      · cases hnext
  | again thread now =>
      rw [MqSystem.step] at hnext
      split at hnext
      · next size timeout since hcaller =>
        have hafter := h.recvTurn (by rw [hcaller]; rfl)
          (by rw [hcaller]; rfl) hnext
        simp only [MqSystem.observe]
        split at hafter <;> rename_i hentry <;> simpa [hentry] using hafter
      · cases hnext
  | copyOut thread =>
      rw [MqSystem.step] at hnext
      split at hnext
      · next msg size received hcaller =>
        split at hnext
        · next hmore =>
          cases hnext
          refine @Sound.of_copy _ system thread _ channel h system.mq _
            (by simp [hcaller, Caller.msg?]) rfl rfl rfl rfl ?_
          exact fun queued free hdelivers =>
            ⟨free, hdelivers.copyOut hcaller hmore⟩
        · cases hnext
      · cases hnext
  | putBack thread =>
      rw [MqSystem.step] at hnext
      split at hnext
      · next msg size received hcaller =>
        split at hnext <;> cases hnext
        refine h.of_copy (by simp [hcaller, Caller.msg?]) rfl rfl rfl rfl ?_
        exact fun queued free hdelivers =>
          ⟨msg :: free, hdelivers.putBack hcaller⟩
      · cases hnext
  | expire thread =>
      rw [MqSystem.step] at hnext
      split at hnext
      · next size timeout since hcaller =>
        split at hnext <;> cases hnext
        exact h.expire hcaller
      · cases hnext
  | reset => exact h.reset hnext

/-! ## Whole runs -/

def MqSystem.start (mq : MessageQueue Thread) : MqSystem Thread where
  mq := mq
  caller _ := .returned .eok []

omit [DecidableEq Thread] in
theorem sound_start (next : Nat → Option Nat) (pool : Nat → UInt8)
    (msgSize maxMsgs : UInt16) (flag : RtIpcFlag) :
    Sound (.start (.setUp next pool msgSize maxMsgs flag))
      (Channel.empty : Channel Thread) := by
  obtain ⟨free, hpool⟩ := setUp_pool next pool msgSize maxMsgs flag
  obtain ⟨-, -, -, -, -, hwaiting⟩ := fillFree_frame
    (.cleared next pool msgSize maxMsgs flag : MessageQueue Thread)
    maxMsgs.toNat
  refine ⟨[], free, [], ⟨hpool, .nil, fun _ => trivial⟩, ?_⟩
  refine ⟨?_, fun thread => ?_, List.nodup_nil, fun thread => ?_, fun hne => ?_⟩
  · exact hwaiting ▸ List.nodup_nil
  · simp only [MqSystem.start, MessageQueue.setUp, hwaiting]
    simp [MessageQueue.cleared, Caller.isSuspended]
  · simp [MqSystem.start, Caller.isResumed]
  · exact absurd hwaiting hne

theorem Channel.after_in_order {event : ChannelEvent Thread}
    (h : channel.sent = channel.taken ++ channel.queue)
    (hevent : event.inTurn = true) :
    (channel.after event).sent =
      (channel.after event).taken ++ (channel.after event).queue := by
  cases event with
  | send message => simp [after, h]
  | urgent message => cases hevent
  | take thread =>
      rw [after]
      split
      · exact h
      · next message rest hqueue => simp [h, hqueue]
  | clear => cases hevent

theorem Delivers.exists_recvTurn {queued free : List Nat}
    (h : Delivers system channel queued free) (thread : Thread) (size : Nat)
    (timeout : Int32) (now : UInt32) :
    ∃ after, system.recvTurn currentPriority thread size timeout now =
      some after := by
  rw [MqSystem.recvTurn]
  split
  · split <;> exact ⟨_, rfl⟩
  · next hentry =>
    have hqueued : system.mq.getHead ≠ none := by
      rw [Ne, h.pool.getHead_eq_none_iff, ← h.pool.entry_eq_zero_iff]
      exact hentry
    split
    · next hnone => exact absurd hnone hqueued
    · exact ⟨_, rfl⟩

section Runs

variable {next : Nat → Option Nat} {pool : Nat → UInt8}
  {msgSize maxMsgs : UInt16} {flag : RtIpcFlag} {inputs : List (MqStep Thread)}
  {guard : MqSystem Thread × Channel Thread → MqStep Thread → Prop}

theorem sound_of_run
    (run : Run (observedStep currentPriority) guard
      (.start (.setUp next pool msgSize maxMsgs flag), .empty) inputs
      (system, channel)) : Sound system channel := by
  have hkeep (state : MqSystem Thread × Channel Thread) (input : MqStep Thread)
      (after : MqSystem Thread × Channel Thread) (h : Sound state.1 state.2)
      (_ : guard state input)
      (hstep : observedStep currentPriority state input = some after) :
      Sound after.1 after.2 := h.step hstep
  exact @Run.invariant _ _ _ _ (fun state => Sound state.1 state.2) hkeep
    _ _ _ run (sound_start next pool msgSize maxMsgs flag)

/--
Whatever the callers do, the queue holds what the channel holds, in its order,
and each message of the pool is in one place only.
-/
theorem mq_holds_what_channel_holds
    (run : Run (observedStep currentPriority) (fun _ _ => True)
      (.start (.setUp next pool msgSize maxMsgs flag), .empty) inputs
      (system, channel)) :
    ∃ queued free, Delivers system channel queued free := by
  obtain ⟨queued, free, woken, hdelivers, hwaits⟩ := sound_of_run run
  exact ⟨queued, free, hdelivers⟩

/--
While a receiver waits, there are as many receivers on their way as there are
messages, and each of them can go on.
-/
theorem mq_no_wakeup_lost
    (run : Run (observedStep currentPriority) (fun _ _ => True)
      (.start (.setUp next pool msgSize maxMsgs flag), .empty) inputs
      (system, channel))
    (hwaiting : system.mq.suspendThread ≠ []) :
    ∃ woken : List Thread, woken.Nodup ∧
      system.mq.entry.toNat ≤ woken.length ∧
      ∀ thread ∈ woken, ∀ now, ∃ after,
        system.step currentPriority (.again thread now) = some after := by
  obtain ⟨queued, free, woken, hdelivers, hwaits⟩ := sound_of_run run
  refine ⟨woken, hwaits.woken_nodup, hwaits.enough hwaiting, ?_⟩
  intro thread hthread now
  have hresumed := (hwaits.woken_iff thread).mp hthread
  cases hcaller : system.caller thread with
  | resumed size timeout since =>
      rw [MqSystem.step, hcaller]
      exact hdelivers.exists_recvTurn thread size _ now
  | returned | clearing | filling | suspended | reading =>
      rw [hcaller] at hresumed
      cases hresumed

end Runs

/-! ## A run of three threads -/

def twoMessages : MessageQueue (Fin 3) :=
  .setUp (fun _ => none) (fun _ => 0) 4 2 .fifo

/-- Two threads wait, and the first of them is resumed for a byte of the third. -/
def oneByteSent : List (MqStep (Fin 3)) :=
  [.recv 1 1 (-1) 0, .recv 2 1 (-1) 0, .send 0 [7], .clear 0, .copyIn 0, .link 0]

def twoReceivers : List (MqStep (Fin 3)) :=
  [.send 0 [7], .clear 0, .copyIn 0, .link 0,
    .send 0 [8, 9], .clear 0, .copyIn 0, .copyIn 0, .link 0,
    .recv 1 2 0 0, .recv 2 1 0 0, .copyOut 2, .putBack 2,
    .copyOut 1, .copyOut 1]

def stateAfter (inputs : List (MqStep (Fin 3))) :
    Option (MqSystem (Fin 3) × Channel (Fin 3)) :=
  inputs.foldlM (observedStep fun _ => 10) (.start twoMessages, .empty)

theorem run_of_stateAfter (inputs : List (MqStep (Fin 3)))
    {state : MqSystem (Fin 3) × Channel (Fin 3)}
    (h : stateAfter inputs = some state) :
    Run (observedStep fun _ => 10) (fun _ _ => True)
      (.start twoMessages, .empty) inputs state :=
  Run.of_foldlM h

theorem mq_holds_what_channel_holds_one_byte :
    ∃ system channel, stateAfter oneByteSent = some (system, channel) ∧
      channel.queue = [[7]] ∧
      ∃ queued free, Delivers system channel queued free :=
  ⟨_, _, rfl, rfl,
    mq_holds_what_channel_holds (run_of_stateAfter oneByteSent rfl)⟩

theorem mq_no_wakeup_lost_one_byte :
    ∃ system channel, stateAfter oneByteSent = some (system, channel) ∧
      system.mq.suspendThread = [2] ∧
      ∃ woken : List (Fin 3), woken.Nodup ∧
        system.mq.entry.toNat ≤ woken.length ∧
        ∀ thread ∈ woken, ∀ now, ∃ after,
          system.step (fun _ => 10) (.again thread now) = some after :=
  ⟨_, _, rfl, rfl, mq_no_wakeup_lost (run_of_stateAfter oneByteSent rfl)
    (List.cons_ne_nil 2 [])⟩

end WncFirmware.Kernel
