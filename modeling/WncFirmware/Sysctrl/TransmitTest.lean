import WncFirmware.Lora.RadioAccess
import WncFirmware.Sysctrl.Causes

/-!
# A transmit test that is not ended

During a transmit test the sender keeps `mutex_lora`.  The receiver gets stuck
behind it and stops feeding its soft dog.
-/

namespace WncFirmware.Sysctrl

open WncFirmware.Foundation WncFirmware.Kernel WncFirmware.Lora

/-- A step at the radio, a message for the system control thread, or a feed by
one of the threads that have nothing to do with the radio. -/
inductive WatchedStep where
  | radio (step : RadioStep)
  | message (msg : SysctrlMsg) (restart : RtErr)
  | feed (dog : ThreadsSoftDog)

/-- The radio together with all that the system control thread gets to see. -/
def watchedStep (basePowr : UInt8) (state : Radio × List SysctrlEvent) :
    WatchedStep → Option (Radio × List SysctrlEvent)
  | .radio step =>
      (state.1.step basePowr step).map fun next =>
        (next, state.2 ++ (state.1.feeds step).toList.map .feed)
  | .message msg restart => some (state.1, state.2 ++ [.message msg restart])
  | .feed dog =>
      if dog = .loraRecvDog ∨ dog = .loraSendDog then none
      else some (state.1, state.2 ++ [.feed dog])

def TestGoesOn (state : Radio × List SysctrlEvent) : WatchedStep → Prop
  | .radio (.send _) =>
      ¬ (state.1.sendAt = .waiting ∧ state.1.mqLoraSend.head? = some .test)
  | _ => True

instance (state : Radio × List SysctrlEvent) (input : WatchedStep) :
    Decidable (TestGoesOn state input) :=
  match input with
  | .radio (.send _) => inferInstanceAs (Decidable (¬ _))
  | .radio (.post _) | .radio (.recv _) | .message _ _ | .feed _ =>
      .isTrue trivial

def feedsLeft : RecvAt → Nat
  | .taking | .taken => 0
  | .feeding | .releasing _ | .handling _ => 1

variable {basePowr : UInt8} {radio next : Radio}

structure Testing (radio : Radio) : Prop where
  orderly : Orderly radio
  inTest : radio.inTest = true
  txMode : radio.txMode = true

theorem Testing.send (h : Testing radio) {free : Bool}
    (hgoes : ¬ (radio.sendAt = .waiting ∧
      radio.mqLoraSend.head? = some .test))
    (hstep : radio.stepSend basePowr free = some next) :
    next.inTest = true ∧ next.txMode = true ∧
      next.recvAt = radio.recvAt := by
  have hon := h.orderly.txMode.symm.trans h.txMode
  have htest := h.inTest
  have hmode := h.txMode
  rw [htest] at hon
  rw [Radio.stepSend] at hstep
  cases hat : radio.sendAt with
  | waiting =>
      simp only [hat] at hstep
      cases hqueue : radio.mqLoraSend with
      | nil => simp [hqueue] at hstep
      | cons msg rest =>
          simp only [hqueue, Option.some.injEq] at hstep
          subst hstep
          cases msg with
          | test => exact absurd ⟨hat, by simp [hqueue]⟩ hgoes
          | data pkt => exact ⟨htest, hmode, rfl⟩
          | feedDog => exact ⟨htest, hmode, rfl⟩
          | other => exact ⟨htest, hmode, rfl⟩
  | taking pkt | releasing =>
      simp only [hat] at hstep
      obtain ⟨reached, hreached, rfl⟩ := Option.map_eq_some_iff.mp hstep
      obtain ⟨_, _, _, rfl⟩ := callMutex_eq hreached
      exact ⟨htest, hmode, rfl⟩
  | taken pkt =>
      simp only [hat] at hstep
      split at hstep <;> cases hstep
      exact ⟨htest, hmode, rfl⟩
  | polling =>
      simp only [hat, Option.some.injEq] at hstep
      subst hstep
      split <;> exact ⟨htest, hmode, rfl⟩
  | feeding =>
      simp only [hat, Option.some.injEq] at hstep
      subst hstep
      exact ⟨htest, hmode, rfl⟩
  | testTaking | testTaken | testReleasing =>
      rw [hat] at hon
      cases hon
  | testStopping =>
      have hflag := h.orderly.flag
      rw [hat, htest] at hflag
      cases hflag

theorem Testing.recv (h : Testing radio) {received : Option (List RxPkt)}
    (hstep : radio.stepRecv received = some next) :
    next.inTest = true ∧ next.txMode = true ∧
      (if radio.recvAt = .feeding then 1 else 0) + feedsLeft next.recvAt ≤
        feedsLeft radio.recvAt := by
  have htest := h.inTest
  have hmode := h.txMode
  have hout : ¬ radio.Receiving := fun hin => by
    have heq := h.orderly.exclusive.eq_of_inside (h.orderly.recv_inside hin)
      (h.orderly.test_inside hmode)
    cases heq
  rw [Radio.stepRecv] at hstep
  cases hat : radio.recvAt with
  | feeding =>
      simp only [hat, Option.some.injEq] at hstep
      subst hstep
      exact ⟨htest, hmode, Nat.le_refl 1⟩
  | taking =>
      simp only [hat] at hstep
      obtain ⟨reached, hreached, rfl⟩ := Option.map_eq_some_iff.mp hstep
      obtain ⟨_, _, _, rfl⟩ := callMutex_eq hreached
      exact ⟨htest, hmode, Nat.le_refl 0⟩
  | taken =>
      simp only [hat] at hstep
      split at hstep
      · next hruns => exact absurd (.inl ⟨hat, hruns⟩) hout
      · cases hstep
  | releasing answer => exact absurd (.inr ⟨answer, hat⟩) hout
  | handling pkts =>
      cases pkts <;> simp only [hat, Option.some.injEq] at hstep <;>
        subst hstep <;> exact ⟨htest, hmode, Nat.le_refl 1⟩

theorem Testing.step (h : Testing radio)
    {events after : List SysctrlEvent} {input : WatchedStep}
    (hgoes : TestGoesOn (radio, events) input)
    (hstep : watchedStep basePowr (radio, events) input =
      some (next, after)) :
    Testing next ∧ ∃ seen, after = events ++ seen ∧
      seen.count (.feed .loraRecvDog) + feedsLeft next.recvAt ≤
        feedsLeft radio.recvAt := by
  cases input with
  | radio step =>
      obtain ⟨reached, hreached, heq⟩ := Option.map_eq_some_iff.mp hstep
      cases heq
      have horderly := h.orderly.step hreached
      cases step with
      | post msg =>
          cases hreached
          have hsame : (radio.post msg).inTest = radio.inTest ∧
              (radio.post msg).txMode = radio.txMode ∧
              (radio.post msg).recvAt = radio.recvAt := by
            rw [Radio.post]
            split <;> exact ⟨rfl, rfl, rfl⟩
          refine ⟨⟨horderly, hsame.1.trans h.inTest,
            hsame.2.1.trans h.txMode⟩, [], rfl, ?_⟩
          rw [hsame.2.2]
          simp
      | send free =>
          obtain ⟨htest, hmode, hat⟩ := h.send hgoes hreached
          refine ⟨⟨horderly, htest, hmode⟩, _, rfl, ?_⟩
          rw [hat]
          simp only [Radio.feeds]
          split <;> simp
      | recv received =>
          obtain ⟨htest, hmode, hleft⟩ := h.recv hreached
          refine ⟨⟨horderly, htest, hmode⟩, _, rfl, ?_⟩
          refine Nat.le_trans (Nat.le_of_eq ?_) hleft
          simp only [Radio.feeds]
          split <;> simp
  | message msg restart =>
      cases hstep
      exact ⟨h, _, rfl, by simp⟩
  | feed dog =>
      rw [watchedStep] at hstep
      split at hstep <;> cases hstep
      next hother =>
        refine ⟨h, _, rfl, ?_⟩
        have hne : dog ≠ .loraRecvDog := fun heq => hother (.inl heq)
        simp [hne]

/-- A transmit test that is left on for three minutes makes the device start
again: the receiver waits for the mutex, and its soft dog starves. -/
theorem transmit_test_reboots {priority : LoraThread → UInt8}
    {earlier steps : List WatchedStep} {events later : List SysctrlEvent}
    (before : Run (watchedStep basePowr) (fun _ _ => True)
      (Radio.start priority, []) earlier (radio, events))
    (htest : radio.inTest = true) (hmode : radio.txMode = true)
    (run : Run (watchedStep basePowr) TestGoesOn (radio, events) steps
      (next, later))
    (hseconds : (ledger later).seconds < 2 ^ 31)
    (hlong : (ledger events).seconds + 180 ≤ (ledger later).seconds) :
    (systemControl later).rebooting = true := by
  have horderly : Orderly radio :=
    @Run.invariant _ _ _ _ (fun state => Orderly state.1)
      (fun state input after hstate _ hstep => by
        cases input with
        | radio step =>
            obtain ⟨reached, hreached, heq⟩ :=
              Option.map_eq_some_iff.mp hstep
            cases heq
            exact hstate.step hreached
        | message msg restart =>
            cases hstep
            exact hstate
        | feed dog =>
            rw [watchedStep] at hstep
            split at hstep <;> cases hstep
            exact hstate)
      _ _ _ before (Orderly.start priority)
  have hstretch : Testing next ∧ ∃ stretch, later = events ++ stretch ∧
      stretch.count (.feed .loraRecvDog) + feedsLeft next.recvAt ≤
        feedsLeft radio.recvAt :=
    @Run.invariant _ _ _ _ (fun state => Testing state.1 ∧
      ∃ stretch, state.2 = events ++ stretch ∧
        stretch.count (.feed .loraRecvDog) + feedsLeft state.1.recvAt ≤
          feedsLeft radio.recvAt)
      (fun state input after hstate hgoes hstep => by
        obtain ⟨htesting, stretch, hevents, hcount⟩ := hstate
        obtain ⟨hnext, seen, hseen, hfew⟩ := htesting.step hgoes hstep
        refine ⟨hnext, stretch ++ seen, ?_, ?_⟩
        · rw [hseen, hevents, List.append_assoc]
        · rw [List.count_append]
          omega)
      _ _ _ run ⟨⟨horderly, htest, hmode⟩, [], by simp, by simp⟩
  obtain ⟨_, stretch, rfl, hcount⟩ := hstretch
  have honce : feedsLeft radio.recvAt ≤ 1 := by
    cases radio.recvAt <;> simp [feedsLeft]
  rw [rebooting_iff hseconds]
  intro hnone
  have hchecks := @checks_le_feeds events stretch .loraRecvDog hnone
  split at hchecks <;> omega

/-- A test is started and nothing else happens for three minutes. -/
theorem transmit_test_reboots_alone :
    ∃ events : List SysctrlEvent, (ledger events).seconds = 180 ∧
      (systemControl events).rebooting = true := by
  have computed : (do
      let started ← [WatchedStep.radio (.post .test), .radio (.send false),
        .radio (.send false), .radio (.send false)].foldlM (watchedStep 17)
          (Radio.start fun thread => if thread = .send then 7 else 8, [])
      let reached ← (List.replicate 180
        (WatchedStep.message .oneSec .eok)).foldlM (fun state input =>
          if TestGoesOn state input then watchedStep 17 state input
          else none) started
      return (started.1.inTest, started.1.txMode,
        (ledger started.2).seconds, (ledger reached.2).seconds)) =
      some (true, true, 0, 180) := by
    decide +kernel
  obtain ⟨⟨radio, events⟩, hstarted, computed⟩ :=
    Option.bind_eq_some_iff.mp computed
  obtain ⟨⟨next, later⟩, hreached, computed⟩ :=
    Option.bind_eq_some_iff.mp computed
  have seen := Option.some.inj computed
  simp only [Prod.mk.injEq] at seen
  obtain ⟨htest, hmode, hzero, hlong⟩ := seen
  refine ⟨later, hlong, ?_⟩
  exact transmit_test_reboots (Run.of_foldlM hstarted) htest hmode
    (Run.of_checked hreached) (by rw [hlong]; decide)
    (by rw [hzero, hlong])

end WncFirmware.Sysctrl
