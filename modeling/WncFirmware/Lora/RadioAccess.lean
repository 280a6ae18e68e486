import WncFirmware.Lora.RadioThreads

/-!
# One thread at the radio

Whatever the order of the steps, the receiver does not work with the
concentrator while a packet is handed over or a transmit test is on.
-/

namespace WncFirmware.Lora

open WncFirmware.Foundation WncFirmware.Kernel WncFirmware.Sysctrl

/-! ## Where the mutex is held -/

def SendAt.nest (inTest : Bool) : SendAt → Nat
  | .waiting | .taking _ | .polling | .feeding => inTest.toNat
  | .taken _ | .releasing => inTest.toNat + 1
  | .testTaking => 0
  | .testTaken | .testStopping | .testReleasing => 1

def RecvAt.nest : RecvAt → Nat
  | .feeding | .taking | .handling _ => 0
  | .taken | .releasing _ => 1

def SendAt.testOn (inTest : Bool) : SendAt → Bool
  | .testTaking | .testTaken | .testReleasing => false
  | .testStopping => true
  | _ => inTest

/-- A test begins with the flag set and ends with the flag cleared. -/
def SendAt.flagOk (inTest : Bool) : SendAt → Prop
  | .testTaking | .testTaken => inTest = true
  | .testStopping | .testReleasing => inTest = false
  | _ => True

def SendAt.mayWait (inTest : Bool) : SendAt → Prop
  | .taken _ => inTest = false
  | .testTaken => True
  | _ => False

theorem SendAt.nest_of_mayWait {inTest : Bool} {point : SendAt}
    (h : point.mayWait inTest) : point.nest inTest = 1 := by
  cases point with
  | taken pkt =>
      rw [SendAt.mayWait] at h
      simp [SendAt.nest, h]
  | testTaken => rfl
  | _ => exact h.elim

structure Orderly (radio : Radio) : Prop where
  exclusive : Exclusive radio.mutexLora radio.depth
  sendRuns : radio.runs .send = true →
    radio.depth () .send = radio.sendAt.nest radio.inTest
  sendWaits : radio.runs .send = false →
    radio.depth () .send = 0 ∧ radio.sendAt.mayWait radio.inTest
  recvRuns : radio.runs .recv = true →
    radio.depth () .recv = radio.recvAt.nest
  recvWaits : radio.runs .recv = false →
    radio.depth () .recv = 0 ∧ radio.recvAt = .taken
  flag : radio.sendAt.flagOk radio.inTest
  txMode : radio.txMode = radio.sendAt.testOn radio.inTest

/-! ## Calls of the mutex -/

variable {radio next : Radio} {thread : LoraThread}

theorem callMutex_eq {call : MutexStep LoraThread Unit}
    (h : radio.callMutex call = some next) :
    ∃ mutexLora depth,
      countedStep (radio.mutexLora, radio.depth) call =
          some (mutexLora, depth) ∧
        next = { radio with
          mutexLora := mutexLora
          depth := depth } := by
  obtain ⟨reached, hreached, rfl⟩ := Option.map_eq_some_iff.mp h
  exact ⟨_, _, hreached, rfl⟩

theorem runs_iff : radio.runs thread = true ↔
    ∃ result, radio.mutexLora.caller thread = .running result := by
  rw [Radio.runs]
  cases radio.mutexLora.caller thread with
  | running result => simp
  | waiting name time => simp

theorem runs_congr {other : Radio}
    (h : other.mutexLora.caller thread = radio.mutexLora.caller thread) :
    other.runs thread = radio.runs thread := by
  rw [Radio.runs, Radio.runs, h]

theorem take_view (h : Exclusive radio.mutexLora radio.depth)
    (hruns : radio.runs thread = true) (hdepth : radio.depth () thread ≤ 2)
    (htake : radio.take thread = some next) :
    Exclusive next.mutexLora next.depth ∧
      (∀ other ≠ thread, next.runs other = radio.runs other ∧
        next.depth () other = radio.depth () other) ∧
      (next.runs thread = true ∧
          next.depth () thread = radio.depth () thread + 1 ∨
        next.runs thread = false ∧ next.depth () thread = 0 ∧
          radio.depth () thread = 0) := by
  obtain ⟨_, _, hstep, rfl⟩ := callMutex_eq htake
  obtain ⟨result, hcaller⟩ := runs_iff.mp hruns
  have hdeep : NotTooDeep radio.mutexLora
      (.take thread () rtWaitingForever) := by
    intro howner hfull
    have hhold := ((h ()).hold_eq thread howner).1
    rw [hfull] at hhold
    have h255 : (255 : UInt8).toNat = 255 := rfl
    omega
  obtain ⟨hothers, hown⟩ := h.take_effect hcaller hstep
  refine ⟨h.step hdeep hstep, fun other hother => ?_, ?_⟩
  · exact ⟨runs_congr (hothers other hother).1, (hothers other hother).2⟩
  · rcases hown with ⟨hin, hcount⟩ | ⟨hwait, hcount, hzero, _⟩
    · exact .inl ⟨runs_iff.mpr ⟨_, hin⟩, hcount⟩
    · refine .inr ⟨?_, hcount.trans hzero, hzero⟩
      rw [Radio.runs, hwait]

theorem release_view (h : Exclusive radio.mutexLora radio.depth)
    (hruns : radio.runs thread = true) (hinside : 0 < radio.depth () thread)
    (hrelease : radio.release thread = some next) :
    Exclusive next.mutexLora next.depth ∧ next.runs thread = true ∧
      next.depth () thread = radio.depth () thread - 1 ∧
      ∀ other ≠ thread,
        next.runs other = radio.runs other ∧
            next.depth () other = radio.depth () other ∨
          radio.runs other = false ∧ next.runs other = true ∧
            next.depth () other = radio.depth () other + 1 := by
  obtain ⟨_, _, hstep, rfl⟩ := callMutex_eq hrelease
  obtain ⟨result, hcaller⟩ := runs_iff.mp hruns
  obtain ⟨hin, hcount, hothers⟩ := h.release_effect hcaller hinside hstep
  have hdeep : NotTooDeep radio.mutexLora (.release thread ()) := trivial
  refine ⟨h.step hdeep hstep, runs_iff.mpr ⟨_, hin⟩, hcount,
    fun other hother => ?_⟩
  rcases hothers other hother with ⟨hsame, hdepth⟩ | ⟨hwait, hgo, hdepth, _⟩
  · exact .inl ⟨runs_congr hsame, hdepth⟩
  · refine .inr ⟨?_, runs_iff.mpr ⟨_, hgo⟩, hdepth⟩
    by_contra hne
    obtain ⟨_, hrun⟩ := runs_iff.mp (Bool.not_eq_false _ ▸ hne)
    rw [hrun] at hwait
    cases hwait

/-! ## One step -/

namespace Orderly

theorem send_runs (h : Orderly radio)
    (hat : ¬ radio.sendAt.mayWait radio.inTest) : radio.runs .send = true := by
  by_contra hwaits
  exact hat (h.sendWaits (Bool.not_eq_true _ ▸ hwaits)).2

theorem recv_runs (h : Orderly radio) (hat : radio.recvAt ≠ .taken) :
    radio.runs .recv = true := by
  by_contra hwaits
  exact hat (h.recvWaits (Bool.not_eq_true _ ▸ hwaits)).2

theorem send_depth_le (h : Orderly radio) : radio.depth () .send ≤ 2 := by
  by_cases hruns : radio.runs .send = true
  · rw [h.sendRuns hruns]
    cases radio.inTest <;> cases radio.sendAt <;> simp [SendAt.nest]
  · rw [(h.sendWaits (Bool.not_eq_true _ ▸ hruns)).1]
    exact Nat.zero_le 2

theorem of_send (h : Orderly radio) {point : SendAt} {inTest txMode : Bool}
    {sent : List TxPkt} {queue : List LoraSendMsg}
    (hruns : radio.runs .send = true)
    (hnest : point.nest inTest = radio.sendAt.nest radio.inTest)
    (hflag : point.flagOk inTest) (hmode : txMode = point.testOn inTest) :
    Orderly { radio with
      mqLoraSend := queue
      sendAt := point
      inTest := inTest
      txMode := txMode
      sent := sent } := by
  refine ⟨h.exclusive, fun _ => ?_, fun hwaits => ?_, h.recvRuns,
    h.recvWaits, hflag, hmode⟩
  · exact (h.sendRuns hruns).trans hnest.symm
  · exact absurd (hruns.symm.trans hwaits) (by decide)

/-- The sender calls `rt_mutex_take`. -/
theorem of_send_take (h : Orderly radio) {point : SendAt}
    (hruns : radio.runs .send = true)
    (htake : radio.take .send = some next)
    (hnest : point.nest radio.inTest =
      radio.sendAt.nest radio.inTest + 1)
    (hwait : radio.sendAt.nest radio.inTest = 0 → point.mayWait radio.inTest)
    (hflag : point.flagOk radio.inTest)
    (hmode : radio.txMode = point.testOn radio.inTest) :
    Orderly { next with sendAt := point } := by
  obtain ⟨hexclusive, hothers, hown⟩ :=
    take_view h.exclusive hruns h.send_depth_le htake
  obtain ⟨hsame, hdepth⟩ := hothers .recv (by decide)
  have hinside := h.sendRuns hruns
  obtain ⟨mutexLora, depth, _, rfl⟩ := callMutex_eq htake
  refine ⟨hexclusive, fun hgoes => ?_, fun hwaits => ?_, fun hgoes => ?_,
    fun hwaits => ?_, hflag, hmode⟩
  · rcases hown with ⟨_, hcount⟩ | ⟨hstuck, _⟩
    · rw [hnest, ← hinside]
      exact hcount
    · exact absurd (hgoes.symm.trans hstuck) (by decide)
  · rcases hown with ⟨hgoes, _⟩ | ⟨_, hzero, hbefore⟩
    · exact absurd (hgoes.symm.trans hwaits) (by decide)
    · exact ⟨hzero, hwait (hinside.symm.trans hbefore)⟩
  · exact hdepth.trans (h.recvRuns (hsame.symm.trans hgoes))
  · obtain ⟨hzero, hat⟩ := h.recvWaits (hsame.symm.trans hwaits)
    exact ⟨hdepth.trans hzero, hat⟩

/-- The sender calls `rt_mutex_release`. -/
theorem of_send_release (h : Orderly radio) {point : SendAt}
    (hruns : radio.runs .send = true)
    (hrelease : radio.release .send = some next)
    (hnest : point.nest radio.inTest + 1 =
      radio.sendAt.nest radio.inTest)
    (hflag : point.flagOk radio.inTest)
    (hmode : radio.txMode = point.testOn radio.inTest) :
    Orderly { next with sendAt := point } := by
  have hinside := h.sendRuns hruns
  obtain ⟨hexclusive, hgo, hcount, hothers⟩ :=
    release_view h.exclusive hruns (by omega) hrelease
  have hrecv := hothers .recv (by decide)
  obtain ⟨mutexLora, depth, _, rfl⟩ := callMutex_eq hrelease
  refine ⟨hexclusive, fun _ => ?_, fun hwaits => ?_, fun hgoes => ?_,
    fun hwaits => ?_, hflag, hmode⟩
  · refine hcount.trans ?_
    simp only
    omega
  · exact absurd (hgo.symm.trans hwaits) (by decide)
  · rcases hrecv with ⟨hsame, hdepth⟩ | ⟨hwaited, _, hdepth⟩
    · exact hdepth.trans (h.recvRuns (hsame.symm.trans hgoes))
    · obtain ⟨hzero, hat⟩ := h.recvWaits hwaited
      refine hdepth.trans ?_
      simp only [hzero, hat, RecvAt.nest]
  · rcases hrecv with ⟨hsame, hdepth⟩ | ⟨_, hgoes, _⟩
    · obtain ⟨hzero, hat⟩ := h.recvWaits (hsame.symm.trans hwaits)
      exact ⟨hdepth.trans hzero, hat⟩
    · exact absurd (hgoes.symm.trans hwaits) (by decide)

theorem of_recv (h : Orderly radio) {point : RecvAt} {passed : List LoraPkt}
    (hruns : radio.runs .recv = true)
    (hnest : point.nest = radio.recvAt.nest) :
    Orderly { radio with
      passed := passed
      recvAt := point } := by
  refine ⟨h.exclusive, h.sendRuns, h.sendWaits, fun _ => ?_,
    fun hwaits => ?_, h.flag, h.txMode⟩
  · exact (h.recvRuns hruns).trans hnest.symm
  · exact absurd (hruns.symm.trans hwaits) (by decide)

theorem of_recv_take (h : Orderly radio) (hat : radio.recvAt = .taking)
    (htake : radio.take .recv = some next) :
    Orderly { next with recvAt := .taken } := by
  have hruns := h.recv_runs (by simp [hat])
  have hinside : radio.depth () .recv = 0 := by
    rw [h.recvRuns hruns, hat]
    rfl
  obtain ⟨hexclusive, hothers, hown⟩ :=
    take_view h.exclusive hruns (by omega) htake
  obtain ⟨hsame, hdepth⟩ := hothers .send (by decide)
  obtain ⟨mutexLora, depth, _, rfl⟩ := callMutex_eq htake
  refine ⟨hexclusive, fun hgoes => ?_, fun hwaits => ?_, fun hgoes => ?_,
    fun hwaits => ?_, h.flag, h.txMode⟩
  · exact hdepth.trans (h.sendRuns (hsame.symm.trans hgoes))
  · obtain ⟨hzero, hmay⟩ := h.sendWaits (hsame.symm.trans hwaits)
    exact ⟨hdepth.trans hzero, hmay⟩
  · rcases hown with ⟨_, hcount⟩ | ⟨hstuck, _⟩
    · rw [hinside] at hcount
      exact hcount
    · exact absurd (hgoes.symm.trans hstuck) (by decide)
  · rcases hown with ⟨hgoes, _⟩ | ⟨_, hzero, _⟩
    · exact absurd (hgoes.symm.trans hwaits) (by decide)
    · exact ⟨hzero, rfl⟩

theorem of_recv_release (h : Orderly radio) {received : Option (List RxPkt)}
    (hat : radio.recvAt = .releasing received)
    (hrelease : radio.release .recv = some next) (pkts : List RxPkt) :
    Orderly { next with recvAt := .handling pkts } := by
  have hruns := h.recv_runs (by simp [hat])
  have hinside : radio.depth () .recv = 1 := by
    rw [h.recvRuns hruns, hat]
    rfl
  obtain ⟨hexclusive, hgo, hcount, hothers⟩ :=
    release_view h.exclusive hruns (by omega) hrelease
  have hsend := hothers .send (by decide)
  obtain ⟨mutexLora, depth, _, rfl⟩ := callMutex_eq hrelease
  refine ⟨hexclusive, fun hgoes => ?_, fun hwaits => ?_, fun _ => ?_,
    fun hwaits => ?_, h.flag, h.txMode⟩
  · rcases hsend with ⟨hsame, hdepth⟩ | ⟨hwaited, _, hdepth⟩
    · exact hdepth.trans (h.sendRuns (hsame.symm.trans hgoes))
    · obtain ⟨hzero, hmay⟩ := h.sendWaits hwaited
      refine hdepth.trans ?_
      rw [hzero]
      exact (SendAt.nest_of_mayWait hmay).symm
  · rcases hsend with ⟨hsame, hdepth⟩ | ⟨_, hgoes, _⟩
    · obtain ⟨hzero, hmay⟩ := h.sendWaits (hsame.symm.trans hwaits)
      exact ⟨hdepth.trans hzero, hmay⟩
    · exact absurd (hgoes.symm.trans hwaits) (by decide)
  · rw [hinside] at hcount
    exact hcount
  · exact absurd (hgo.symm.trans hwaits) (by decide)

theorem stepSend (h : Orderly radio) {basePowr : UInt8} {free : Bool}
    (hstep : radio.stepSend basePowr free = some next) : Orderly next := by
  have hflag := h.flag
  have hmode := h.txMode
  rw [Radio.stepSend] at hstep
  cases hat : radio.sendAt with
  | waiting =>
      have hruns := h.send_runs (by simp [hat, SendAt.mayWait])
      simp only [hat] at hstep
      cases hqueue : radio.mqLoraSend with
      | nil => simp [hqueue] at hstep
      | cons msg rest =>
          simp only [hqueue, Option.some.injEq] at hstep
          subst hstep
          rw [hat] at hmode
          cases msg with
          | data pkt =>
              exact h.of_send hruns (by rw [hat]; rfl) trivial hmode
          | test =>
              cases htest : radio.inTest with
              | false =>
                  rw [htest] at hmode
                  refine h.of_send hruns ?_ rfl ?_
                  · simp [hat, htest, SendAt.nest]
                  · simpa [htest, SendAt.testOn] using hmode
              | true =>
                  rw [htest] at hmode
                  refine h.of_send hruns ?_ rfl ?_
                  · simp [hat, htest, SendAt.nest]
                  · simpa [htest, SendAt.testOn] using hmode
          | feedDog =>
              exact h.of_send hruns (by rw [hat]; rfl) trivial hmode
          | other =>
              refine h.of_send hruns (by rw [hat]) trivial hmode
  | taking pkt =>
      have hruns := h.send_runs (by simp [hat, SendAt.mayWait])
      simp only [hat] at hstep
      obtain ⟨reached, hreached, rfl⟩ := Option.map_eq_some_iff.mp hstep
      refine h.of_send_take hruns hreached (by rw [hat]; rfl) ?_ trivial ?_
      · rw [hat]
        simp [SendAt.nest, SendAt.mayWait]
      · rw [hmode, hat]
        rfl
  | taken pkt =>
      simp only [hat] at hstep
      split at hstep
      · next hruns =>
          cases hstep
          refine h.of_send hruns (by rw [hat]; rfl) trivial ?_
          rw [hmode, hat]
          rfl
      · cases hstep
  | releasing =>
      have hruns := h.send_runs (by simp [hat, SendAt.mayWait])
      simp only [hat] at hstep
      obtain ⟨reached, hreached, rfl⟩ := Option.map_eq_some_iff.mp hstep
      refine h.of_send_release hruns hreached (by rw [hat]; rfl) trivial ?_
      rw [hmode, hat]
      rfl
  | polling =>
      have hruns := h.send_runs (by simp [hat, SendAt.mayWait])
      simp only [hat, Option.some.injEq] at hstep
      subst hstep
      split
      · refine h.of_send hruns (by rw [hat]; rfl) trivial ?_
        rw [hmode, hat]
        rfl
      · exact h
  | testTaking =>
      have hruns := h.send_runs (by simp [hat, SendAt.mayWait])
      simp only [hat] at hstep
      obtain ⟨reached, hreached, rfl⟩ := Option.map_eq_some_iff.mp hstep
      rw [hat] at hflag
      refine h.of_send_take hruns hreached (by rw [hat]; rfl)
        (fun _ => trivial) hflag ?_
      rw [hmode, hat]
      rfl
  | testTaken =>
      simp only [hat] at hstep
      split at hstep
      · next hruns =>
          cases hstep
          rw [hat] at hflag
          have htest : radio.inTest = true := hflag
          refine h.of_send hruns ?_ trivial htest.symm
          rw [hat, htest]
          rfl
      · cases hstep
  | testStopping =>
      have hruns := h.send_runs (by simp [hat, SendAt.mayWait])
      simp only [hat, Option.some.injEq] at hstep
      subst hstep
      rw [hat] at hflag
      exact h.of_send hruns (by rw [hat]; rfl) hflag rfl
  | testReleasing =>
      have hruns := h.send_runs (by simp [hat, SendAt.mayWait])
      simp only [hat] at hstep
      obtain ⟨reached, hreached, rfl⟩ := Option.map_eq_some_iff.mp hstep
      rw [hat] at hflag
      have htest : radio.inTest = false := hflag
      refine h.of_send_release hruns hreached ?_ trivial ?_
      · rw [hat, htest]
        rfl
      · rw [hmode, hat, htest]
        rfl
  | feeding =>
      have hruns := h.send_runs (by simp [hat, SendAt.mayWait])
      simp only [hat, Option.some.injEq] at hstep
      subst hstep
      refine h.of_send hruns (by rw [hat]; rfl) trivial ?_
      rw [hmode, hat]
      rfl

theorem stepRecv (h : Orderly radio) {received : Option (List RxPkt)}
    (hstep : radio.stepRecv received = some next) : Orderly next := by
  rw [Radio.stepRecv] at hstep
  cases hat : radio.recvAt with
  | feeding =>
      simp only [hat, Option.some.injEq] at hstep
      subst hstep
      exact h.of_recv (h.recv_runs (by simp [hat])) (by rw [hat]; rfl)
  | taking =>
      simp only [hat] at hstep
      obtain ⟨reached, hreached, rfl⟩ := Option.map_eq_some_iff.mp hstep
      exact h.of_recv_take hat hreached
  | taken =>
      simp only [hat] at hstep
      split at hstep
      · next hruns =>
          cases hstep
          exact h.of_recv hruns (by rw [hat]; rfl)
      · cases hstep
  | releasing answer =>
      simp only [hat] at hstep
      obtain ⟨reached, hreached, rfl⟩ := Option.map_eq_some_iff.mp hstep
      exact h.of_recv_release hat hreached _
  | handling pkts =>
      have hruns := h.recv_runs (by simp [hat])
      cases pkts with
      | nil =>
          simp only [hat, Option.some.injEq] at hstep
          subst hstep
          exact h.of_recv hruns (by rw [hat]; rfl)
      | cons p pkts =>
          simp only [hat, Option.some.injEq] at hstep
          subst hstep
          exact h.of_recv hruns (by rw [hat]; rfl)

theorem step (h : Orderly radio) {basePowr : UInt8} {input : RadioStep}
    (hstep : radio.step basePowr input = some next) : Orderly next := by
  cases input with
  | post msg =>
      cases hstep
      rw [Radio.post]
      split
      · exact ⟨h.exclusive, h.sendRuns, h.sendWaits, h.recvRuns, h.recvWaits,
          h.flag, h.txMode⟩
      · exact h
  | send free => exact h.stepSend hstep
  | recv received => exact h.stepRecv hstep

theorem start (priority : LoraThread → UInt8) :
    Orderly (Radio.start priority) :=
  ⟨exclusive_start _ _, fun _ => rfl, (fun hwaits => by cases hwaits),
    fun _ => rfl, (fun hwaits => by cases hwaits), trivial, rfl⟩

end Orderly

/-! ## Whole runs -/

def Radio.Receiving (radio : Radio) : Prop :=
  radio.recvAt = .taken ∧ radio.runs .recv = true ∨
    ∃ received, radio.recvAt = .releasing received

def Radio.Sending (radio : Radio) : Prop :=
  (∃ pkt, radio.sendAt = .taken pkt) ∧ radio.runs .send = true ∨
    radio.sendAt = .releasing

theorem Orderly.recv_inside (h : Orderly radio) (hin : radio.Receiving) :
    0 < radio.depth () .recv := by
  rcases hin with ⟨hat, hruns⟩ | ⟨received, hat⟩
  · rw [h.recvRuns hruns, hat]
    decide
  · rw [h.recvRuns (h.recv_runs (by simp [hat])), hat]
    exact Nat.one_pos

theorem Orderly.send_inside (h : Orderly radio) (hin : radio.Sending) :
    0 < radio.depth () .send := by
  rcases hin with ⟨⟨pkt, hat⟩, hruns⟩ | hat
  · rw [h.sendRuns hruns, hat]
    exact Nat.succ_pos _
  · rw [h.sendRuns (h.send_runs (by simp [hat, SendAt.mayWait])), hat]
    exact Nat.succ_pos _

theorem Orderly.test_inside (h : Orderly radio)
    (hmode : radio.txMode = true) : 0 < radio.depth () .send := by
  have hon : radio.sendAt.testOn radio.inTest = true :=
    h.txMode.symm.trans hmode
  by_cases hruns : radio.runs .send = true
  · rw [h.sendRuns hruns]
    revert hon
    cases radio.inTest <;> cases radio.sendAt <;>
      simp [SendAt.testOn, SendAt.nest]
  · obtain ⟨_, hmay⟩ := h.sendWaits (Bool.not_eq_true _ ▸ hruns)
    revert hon hmay
    cases radio.inTest <;> cases radio.sendAt <;>
      simp [SendAt.testOn, SendAt.mayWait]

/-- In every order of steps the receiver does not read the concentrator while
a packet is handed to it, nor while the transmit test is on. -/
theorem radio_used_by_one_thread {basePowr : UInt8}
    {priority : LoraThread → UInt8} {steps : List RadioStep}
    (run : Run (Radio.step basePowr) (fun _ _ => True) (Radio.start priority)
      steps radio) :
    (radio.Receiving → ¬ radio.Sending) ∧
      (radio.Receiving → radio.txMode = false) := by
  have h : Orderly radio := run.invariant
    (fun state input after hstate _ hstep => hstate.step hstep)
    (Orderly.start priority)
  have hnever (hrecv : 0 < radio.depth () .recv)
      (hsend : 0 < radio.depth () .send) : False := by
    have heq := h.exclusive.eq_of_inside hrecv hsend
    cases heq
  refine ⟨fun hin hsending => ?_, fun hin => ?_⟩
  · exact hnever (h.recv_inside hin) (h.send_inside hsending)
  · by_contra hmode
    exact hnever (h.recv_inside hin)
      (h.test_inside (Bool.not_eq_false _ ▸ hmode))

def busyRadio : List RadioStep :=
  [.recv none, .recv none, .post .test, .send false, .send false]

theorem radio_used_by_one_thread_busy :
    ∃ radio : Radio, radio.Receiving ∧ radio.sendAt = .testTaken ∧
      ¬ radio.Sending ∧ radio.txMode = false := by
  have run : Run (Radio.step 17) (fun _ _ => True)
      (Radio.start fun thread => if thread = .send then 7 else 8)
      busyRadio _ := Run.of_foldlM rfl
  have hin := radio_used_by_one_thread run
  exact ⟨_, .inl ⟨rfl, rfl⟩, rfl, hin.1 (.inl ⟨rfl, rfl⟩),
    hin.2 (.inl ⟨rfl, rfl⟩)⟩

/-! ## What goes on the air -/

/-- What the messages say is to be sent, given whether a test is on. -/
def transmissions (basePowr : UInt8) : Bool → List LoraSendMsg → List TxPkt
  | _, [] => []
  | inTest, .data pkt :: rest =>
      txPkt basePowr pkt :: transmissions basePowr inTest rest
  | inTest, .test :: rest =>
      (if inTest then [] else [testPkt basePowr]) ++
        transmissions basePowr (!inTest) rest
  | inTest, .feedDog :: rest => transmissions basePowr inTest rest
  | inTest, .other :: rest => transmissions basePowr inTest rest

def testFlag : Bool → List LoraSendMsg → Bool
  | inTest, [] => inTest
  | inTest, .test :: rest => testFlag (!inTest) rest
  | inTest, .data _ :: rest => testFlag inTest rest
  | inTest, .feedDog :: rest => testFlag inTest rest
  | inTest, .other :: rest => testFlag inTest rest

theorem transmissions_append (basePowr : UInt8) (inTest : Bool)
    (first later : List LoraSendMsg) :
    transmissions basePowr inTest (first ++ later) =
      transmissions basePowr inTest first ++
        transmissions basePowr (testFlag inTest first) later := by
  induction first generalizing inTest with
  | nil => rfl
  | cons msg first ih =>
      cases msg <;> simp [transmissions, testFlag, ih]

theorem testFlag_append (inTest : Bool) (first later : List LoraSendMsg) :
    testFlag inTest (first ++ later) =
      testFlag (testFlag inTest first) later := by
  induction first generalizing inTest with
  | nil => rfl
  | cons msg first ih => cases msg <;> simp [testFlag, ih]

def SendAt.pending (basePowr : UInt8) : SendAt → List TxPkt
  | .taking pkt | .taken pkt => [txPkt basePowr pkt]
  | .testTaking | .testTaken => [testPkt basePowr]
  | _ => []

/-- The messages that found room in the queue are noted. -/
def notedStep (basePowr : UInt8) (state : Radio × List LoraSendMsg)
    (input : RadioStep) : Option (Radio × List LoraSendMsg) :=
  (state.1.step basePowr input).map fun next =>
    (next, match input with
      | .post msg =>
          if state.1.mqLoraSend.length < 10 then state.2 ++ [msg] else state.2
      | _ => state.2)

structure InOrder (basePowr : UInt8) (radio : Radio)
    (posted : List LoraSendMsg) : Prop where
  sent : transmissions basePowr false posted = radio.sent ++
    radio.sendAt.pending basePowr ++
      transmissions basePowr radio.inTest radio.mqLoraSend
  flag : testFlag false posted = testFlag radio.inTest radio.mqLoraSend
  room : radio.mqLoraSend.length ≤ 10

theorem stepRecv_frame {received : Option (List RxPkt)}
    (hstep : radio.stepRecv received = some next) :
    next.sent = radio.sent ∧ next.sendAt = radio.sendAt ∧
      next.inTest = radio.inTest ∧ next.mqLoraSend = radio.mqLoraSend := by
  rw [Radio.stepRecv] at hstep
  cases hat : radio.recvAt with
  | feeding =>
      simp only [hat, Option.some.injEq] at hstep
      subst hstep
      exact ⟨rfl, rfl, rfl, rfl⟩
  | taking =>
      simp only [hat] at hstep
      obtain ⟨reached, hreached, rfl⟩ := Option.map_eq_some_iff.mp hstep
      obtain ⟨_, _, _, rfl⟩ := callMutex_eq hreached
      exact ⟨rfl, rfl, rfl, rfl⟩
  | taken =>
      simp only [hat] at hstep
      split at hstep <;> cases hstep
      exact ⟨rfl, rfl, rfl, rfl⟩
  | releasing answer =>
      simp only [hat] at hstep
      obtain ⟨reached, hreached, rfl⟩ := Option.map_eq_some_iff.mp hstep
      obtain ⟨_, _, _, rfl⟩ := callMutex_eq hreached
      exact ⟨rfl, rfl, rfl, rfl⟩
  | handling pkts =>
      cases pkts <;> simp only [hat, Option.some.injEq] at hstep <;>
        subst hstep <;> exact ⟨rfl, rfl, rfl, rfl⟩

theorem InOrder.post {basePowr : UInt8} {posted : List LoraSendMsg}
    (h : InOrder basePowr radio posted) (msg : LoraSendMsg) :
    InOrder basePowr (radio.post msg)
      (if radio.mqLoraSend.length < 10 then posted ++ [msg] else posted) := by
  rw [Radio.post]
  split
  · next hroom =>
      refine ⟨?_, ?_, ?_⟩
      · simp only [transmissions_append, h.sent, h.flag, List.append_assoc]
      · simp only [testFlag_append, h.flag]
      · rw [List.length_append, List.length_singleton]
        exact hroom
  · exact h

theorem InOrder.send {basePowr : UInt8} {posted : List LoraSendMsg}
    (h : InOrder basePowr radio posted) {free : Bool}
    (hstep : radio.stepSend basePowr free = some next) :
    InOrder basePowr next posted := by
  have hsent := h.sent
  have hflag := h.flag
  have hroom := h.room
  rw [Radio.stepSend] at hstep
  cases hat : radio.sendAt with
  | waiting =>
      simp only [hat] at hstep hsent
      cases hqueue : radio.mqLoraSend with
      | nil => simp [hqueue] at hstep
      | cons msg rest =>
          simp only [hqueue, Option.some.injEq] at hstep
          subst hstep
          rw [hqueue] at hsent hflag hroom
          have hrest : rest.length ≤ 10 := by
            rw [List.length_cons] at hroom
            omega
          cases msg with
          | data pkt =>
              exact ⟨by simpa [Radio.handle, transmissions, SendAt.pending]
                using hsent, hflag, hrest⟩
          | test =>
              cases htest : radio.inTest <;> rw [htest] at hsent hflag <;>
                refine ⟨?_, ?_, hrest⟩
              · simpa [Radio.handle, htest, transmissions, SendAt.pending]
                  using hsent
              · simpa [Radio.handle, htest, testFlag] using hflag
              · simpa [Radio.handle, htest, transmissions, SendAt.pending]
                  using hsent
              · simpa [Radio.handle, htest, testFlag] using hflag
          | feedDog =>
              exact ⟨by simpa [Radio.handle, transmissions, SendAt.pending]
                using hsent, hflag, hrest⟩
          | other =>
              refine ⟨?_, hflag, hrest⟩
              simpa [Radio.handle, transmissions, SendAt.pending, hat]
                using hsent
  | taking pkt =>
      simp only [hat] at hstep hsent
      obtain ⟨reached, hreached, rfl⟩ := Option.map_eq_some_iff.mp hstep
      obtain ⟨_, _, _, rfl⟩ := callMutex_eq hreached
      exact ⟨hsent, hflag, hroom⟩
  | taken pkt =>
      simp only [hat] at hstep hsent
      split at hstep <;> cases hstep
      exact ⟨by simpa [SendAt.pending] using hsent, hflag, hroom⟩
  | releasing =>
      simp only [hat] at hstep hsent
      obtain ⟨reached, hreached, rfl⟩ := Option.map_eq_some_iff.mp hstep
      obtain ⟨_, _, _, rfl⟩ := callMutex_eq hreached
      exact ⟨hsent, hflag, hroom⟩
  | polling =>
      simp only [hat, Option.some.injEq] at hstep hsent
      subst hstep
      split
      · exact ⟨hsent, hflag, hroom⟩
      · exact h
  | testTaking =>
      simp only [hat] at hstep hsent
      obtain ⟨reached, hreached, rfl⟩ := Option.map_eq_some_iff.mp hstep
      obtain ⟨_, _, _, rfl⟩ := callMutex_eq hreached
      exact ⟨hsent, hflag, hroom⟩
  | testTaken =>
      simp only [hat] at hstep hsent
      split at hstep <;> cases hstep
      exact ⟨by simpa [SendAt.pending] using hsent, hflag, hroom⟩
  | testStopping =>
      simp only [hat, Option.some.injEq] at hstep hsent
      subst hstep
      exact ⟨hsent, hflag, hroom⟩
  | testReleasing =>
      simp only [hat] at hstep hsent
      obtain ⟨reached, hreached, rfl⟩ := Option.map_eq_some_iff.mp hstep
      obtain ⟨_, _, _, rfl⟩ := callMutex_eq hreached
      exact ⟨hsent, hflag, hroom⟩
  | feeding =>
      simp only [hat, Option.some.injEq] at hstep hsent
      subst hstep
      exact ⟨hsent, hflag, hroom⟩

theorem InOrder.step {basePowr : UInt8} {posted after : List LoraSendMsg}
    (h : InOrder basePowr radio posted) {input : RadioStep}
    (hstep : notedStep basePowr (radio, posted) input = some (next, after)) :
    InOrder basePowr next after := by
  obtain ⟨reached, hreached, heq⟩ := Option.map_eq_some_iff.mp hstep
  cases heq
  cases input with
  | post msg =>
      cases hreached
      exact h.post msg
  | send free => exact h.send hreached
  | recv received =>
      obtain ⟨hsent, hat, htest, hqueue⟩ := stepRecv_frame hreached
      refine ⟨?_, ?_, ?_⟩
      · rw [hsent, hat, htest, hqueue]
        exact h.sent
      · rw [htest, hqueue]
        exact h.flag
      · rw [hqueue]
        exact h.room

/-- What is sent is what the accepted messages say, in their order: nothing is
lost, doubled or overtaken between the queue and the concentrator. -/
theorem radio_sends_what_was_posted {basePowr : UInt8}
    {priority : LoraThread → UInt8} {steps : List RadioStep}
    {posted : List LoraSendMsg}
    (run : Run (notedStep basePowr) (fun _ _ => True)
      (Radio.start priority, []) steps (radio, posted)) :
    transmissions basePowr false posted = radio.sent ++
        radio.sendAt.pending basePowr ++
          transmissions basePowr radio.inTest radio.mqLoraSend ∧
      testFlag false posted = testFlag radio.inTest radio.mqLoraSend ∧
      radio.mqLoraSend.length ≤ 10 := by
  have hstart : InOrder basePowr (Radio.start priority) [] :=
    ⟨rfl, rfl, Nat.zero_le 10⟩
  have h : InOrder basePowr radio posted :=
    @Run.invariant _ _ _ _ (fun state => InOrder basePowr state.1 state.2)
      (fun state input after hstate _ hstep => hstate.step hstep)
      _ _ _ run hstart
  exact ⟨h.sent, h.flag, h.room⟩

def samplePkt : LoraPkt where
  freqHz := 470300000
  rssi := 0
  snr := 0
  datarate := 7
  len := 2
  payload := [1, 2]

theorem radio_sends_what_was_posted_in_test :
    ∃ (radio : Radio) (posted : List LoraSendMsg),
      posted = [.data samplePkt, .test, .other, .data samplePkt] ∧
      radio.sent = [txPkt 17 samplePkt, testPkt 17] ∧
      radio.mqLoraSend = [.other, .data samplePkt] ∧
      transmissions 17 false posted = radio.sent ++
          radio.sendAt.pending 17 ++
            transmissions 17 radio.inTest radio.mqLoraSend ∧
      testFlag false posted = testFlag radio.inTest radio.mqLoraSend ∧
      radio.mqLoraSend.length ≤ 10 := by
  have run : Run (notedStep 17) (fun _ _ => True)
      (Radio.start fun thread => if thread = .send then 7 else 8, [])
      [.post (.data samplePkt), .send false, .send false, .post .test,
        .send false, .post .other, .send false, .send true, .send false,
        .send false, .send false, .post (.data samplePkt)] _ :=
    Run.of_foldlM rfl
  exact ⟨_, _, rfl, rfl, rfl, radio_sends_what_was_posted run⟩

end WncFirmware.Lora
