import WncFirmware.Lora.Reports
import WncFirmware.Udp.Encoding

/-!
# Changes reach the server

A detector whose flag `is_park_state_changed` is clear should have the state
that the server was told last.  A heartbeat raises the flag when it changes the
state; the check of the connections does not.
-/

namespace WncFirmware.Udp

open WncFirmware.Foundation WncFirmware.Lora

/-! ## The system -/

/-- The variables, and for each detector the state in its last record. -/
structure UdpSystem where
  state : LoraState
  sendAll : Bool
  told : Nat → Option UInt8

inductive UdpInput where
  | message (input : LoraInput)
  | raiseSendAll
  | report (env : UdpEnv) (device : Device)

def detectorRecord? (state : LoraState) (sendAll : Bool) (datagram : Bytes)
    (place : Nat) : Option NodeReport :=
  let due := (detectorLoop sendAll).due
  match state.detectors[place]? with
  | some info =>
      if due info then
        (decodeReport datagram)[(state.detectors.take place).countP due]?
      else none
  | none => none

def udpStep (system : UdpSystem) : UdpInput → Option UdpSystem
  | .message input =>
      (loraStep system.state input).map fun next =>
        { system with state := next }
  | .raiseSendAll => some { system with sendAll := true }
  | .report env device =>
      let fill := udpReport env device system.state system.sendAll
      some
        { state := fill.state
          sendAll := fill.sendAll
          told := fun place =>
            match detectorRecord? system.state system.sendAll fill.datagram
                place with
            | some record => some record.state
            | none => system.told place }

structure UdpStep where
  before : UdpSystem
  input : UdpInput
  after : UdpSystem

/-- The steps of a run; it stops at a scan of the lights that does not end. -/
def udpTrace : UdpSystem → List UdpInput → List UdpStep
  | _, [] => []
  | system, input :: inputs =>
      match udpStep system input with
      | none => []
      | some next => ⟨system, input, next⟩ :: udpTrace next inputs

/-! ## What the server knows -/

/-- Nothing that the server was told is out of date without the flag. -/
def ServerKnows (system : UdpSystem) : Prop :=
  ∀ (place : Nat) info value, system.state.detectors[place]? = some info →
    info.isParkStateChanged = false → system.told place = some value →
      info.state = value

/-- The check takes a detector offline that was reported and has no flag. -/
def UdpStep.Misses (step : UdpStep) : Prop :=
  match step.input with
  | .message (_, .checkDeviceConnect) =>
      ∃ (place : Nat) (info : SingleDetectorInfo) (value : UInt8),
        step.before.state.detectors[place]? = some info ∧
          info.isParkStateChanged = false ∧
          step.before.told place = some value ∧
          info.state ≠ nodeStateOffline ∧ 35 ≤ info.interval
  | _ => False

/-! ## The report -/

theorem getElem?_filter_countP {Item : Type} {predicate : Item → Bool}
    {items : List Item} {place : Nat} {item : Item}
    (hitem : items[place]? = some item) (hpredicate : predicate item = true) :
    (items.filter predicate)[(items.take place).countP predicate]? =
      some item := by
  induction items generalizing place with
  | nil => cases hitem
  | cons first rest ih =>
      cases place with
      | zero =>
          obtain rfl : first = item := by simpa using hitem
          simp [hpredicate]
      | succ place =>
          have hlater := ih (by simpa using hitem)
          by_cases hfirst : predicate first = true
          · simpa [List.filter_cons_of_pos hfirst,
              List.countP_cons_of_pos hfirst] using hlater
          · simpa [List.filter_cons_of_neg hfirst,
              List.countP_cons_of_neg hfirst] using hlater

theorem detectorRecord?_of_due (env : UdpEnv) (device : Device)
    {state : LoraState} {sendAll : Bool} {place : Nat}
    {info : SingleDetectorInfo} (hinfo : state.detectors[place]? = some info)
    (hdue : (detectorLoop sendAll).due info = true) :
    detectorRecord? state sendAll
      (udpReport env device state sendAll).datagram place =
        some (reportDetector info) := by
  have hfilter := getElem?_filter_countP hinfo hdue
  have hfew : (state.detectors.filter (detectorLoop sendAll).due).length ≤
      maxDetectorPerWnc :=
    (List.length_filter_le _ _).trans state.parkingLists.detectorInfoList.length_le
  obtain ⟨hlt, -⟩ := List.getElem?_eq_some_iff.mp hfilter
  have hindex : (state.detectors.take place).countP (detectorLoop sendAll).due <
      maxNodeNumInUdp :=
    Nat.lt_of_lt_of_le hlt (hfew.trans (by decide))
  simp only [detectorRecord?, hinfo, hdue, if_true]
  rw [decodeReport_udpReport, List.getElem?_take_of_lt hindex, dueReports,
    List.append_assoc, List.getElem?_append_left (by
      rw [List.length_map]
      exact hlt), List.getElem?_map]
  exact congrArg (Option.map reportDetector) hfilter

theorem detectorRecord?_of_not_due (datagram : Bytes) {state : LoraState}
    {sendAll : Bool} {place : Nat} {info : SingleDetectorInfo}
    (hinfo : state.detectors[place]? = some info)
    (hdue : (detectorLoop sendAll).due info = false) :
    detectorRecord? state sendAll datagram place = none := by
  simp [detectorRecord?, hinfo, hdue]

theorem serverKnows_report (env : UdpEnv) (device : Device)
    {system next : UdpSystem} (h : ServerKnows system)
    (hstep : udpStep system (.report env device) = some next) :
    ServerKnows next := by
  cases hstep
  intro place after value hafter hflag htold
  dsimp only at hafter htold
  rw [getElem?_reportedDetectors] at hafter
  obtain ⟨info, hinfo, hafter⟩ := Option.map_eq_some_iff.mp hafter
  have hstate : after.state = info.state := by
    rw [← hafter]
    split <;> rfl
  rw [hstate]
  cases hdue : (detectorLoop system.sendAll).due info with
  | true =>
      rw [detectorRecord?_of_due env device hinfo hdue] at htold
      exact Option.some.inj htold
  | false =>
      rw [detectorRecord?_of_not_due _ hinfo hdue] at htold
      simp only [hdue, Bool.false_eq_true, false_and, if_false] at hafter
      subst hafter
      exact h place info value hinfo hflag htold

/-! ## The other steps -/

theorem serverKnows_of_sameStatus {before after : SingleDetectorInfo}
    {value : UInt8} (hsame : SameStatus before after)
    (h : before.isParkStateChanged = false → before.state = value)
    (hflag : after.isParkStateChanged = false) : after.state = value := by
  rw [hsame.state]
  exact h (hsame.isParkStateChanged ▸ hflag)

theorem serverKnows_of_heard {pkt : LoraPkt}
    {before after : SingleDetectorInfo} {value : UInt8}
    (hheard : Heard pkt before after)
    (h : before.isParkStateChanged = false → before.state = value)
    (hflag : after.isParkStateChanged = false) : after.state = value := by
  have hflags := hheard.isParkStateChanged
  rw [hflag] at hflags
  simp only [Bool.false_eq, Bool.or_eq_false_iff, decide_eq_false_iff_not,
    Decidable.not_not] at hflags
  rw [hflags.1]
  exact h hflags.2

theorem checkDetector_cases (place : Nat) (info : SingleDetectorInfo) :
    (checkDetector place info).1.isParkStateChanged = info.isParkStateChanged ∧
      (checkDetector place info).1.state =
        if info.state ≠ nodeStateOffline ∧ 35 ≤ info.interval then
          nodeStateOffline
        else info.state := by
  unfold checkDetector
  split
  case isTrue hoffline => simp [hoffline]
  case isFalse honline =>
    split
    case isTrue hlt => simp [honline, UInt8.not_le.mpr hlt]
    case isFalse hge => simp [honline, UInt8.not_lt.mp hge]

theorem serverKnows_message {input : LoraInput} {system next : UdpSystem}
    (h : ServerKnows system)
    (hstep : udpStep system (.message input) = some next)
    (hmisses : ¬UdpStep.Misses ⟨system, .message input, next⟩) :
    ServerKnows next := by
  obtain ⟨state, hstate, rfl⟩ := Option.map_eq_some_iff.mp hstep
  obtain ⟨result, hresult, rfl⟩ := Option.map_eq_some_iff.mp hstate
  obtain ⟨env, msg⟩ := input
  intro place after value hafter hflag htold
  obtain ⟨before, hbefore, hacts⟩ := dataProcess_detectorStep hresult hafter
  have hknown : before.isParkStateChanged = false → before.state = value :=
    fun hclear => h place before value hbefore hclear htold
  cases msg with
  | loraRecvData pkt =>
      simp only [DetectorStep] at hacts
      split at hacts
      · exact serverKnows_of_heard hacts hknown hflag
      · exact serverKnows_of_sameStatus hacts hknown hflag
  | checkDeviceConnect =>
      obtain rfl : after = (checkDetector place before).1 := hacts
      obtain ⟨hsameFlag, hnewState⟩ := checkDetector_cases place before
      rw [hsameFlag] at hflag
      rw [hnewState, if_neg]
      · exact hknown hflag
      · rintro ⟨honline, hinterval⟩
        exact hmisses
          ⟨place, before, value, hbefore, hflag, htold, honline, hinterval⟩
  | analizeLightState => exact serverKnows_of_sameStatus hacts hknown hflag
  | loraRecvTest fd => exact serverKnows_of_sameStatus hacts hknown hflag
  | loraConfigNodeByRange fd data =>
      exact serverKnows_of_sameStatus hacts hknown hflag
  | loraConfigNodeById fd data =>
      exact serverKnows_of_sameStatus hacts hknown hflag
  | loraInitNode fd data => exact serverKnows_of_sameStatus hacts hknown hflag

theorem serverKnows_step {input : UdpInput} {system next : UdpSystem}
    (h : ServerKnows system) (hstep : udpStep system input = some next)
    (hmisses : ¬UdpStep.Misses ⟨system, input, next⟩) : ServerKnows next := by
  cases input with
  | message input => exact serverKnows_message h hstep hmisses
  | raiseSendAll =>
      cases hstep
      exact h
  | report env device => exact serverKnows_report env device h hstep

theorem not_serverKnows_of_misses {input : UdpInput} {system next : UdpSystem}
    (h : ServerKnows system) (hstep : udpStep system input = some next)
    (hmisses : UdpStep.Misses ⟨system, input, next⟩) : ¬ServerKnows next := by
  unfold UdpStep.Misses at hmisses
  split at hmisses
  case h_2 => exact hmisses.elim
  case h_1 env hinput =>
    obtain ⟨place, info, value, hinfo, hflag, htold, honline, hinterval⟩ :=
      hmisses
    dsimp only at hinput hinfo htold
    subst hinput
    cases hstep
    obtain ⟨hsameFlag, hnewState⟩ := checkDetector_cases place info
    rw [if_pos ⟨honline, hinterval⟩] at hnewState
    have hafter : (checkLoraNodeConnect system.state).1.detectors[place]? =
        some (checkDetector place info).1 := by
      have hchecked : ((system.state.detectors.mapIdx checkDetector).map
          Prod.fst)[place]? = some (checkDetector place info).1 := by
        simp [List.getElem?_mapIdx, hinfo]
      exact hchecked
    intro hknows
    have hvalue := hknows place _ value hafter (hsameFlag.trans hflag) htold
    rw [hnewState, ← h place info value hinfo hflag htold] at hvalue
    exact honline hvalue.symm

/-! ## Whole runs -/

theorem serverKnows_trace_iff {system : UdpSystem} {inputs : List UdpInput}
    (h : ServerKnows system) :
    (∀ step ∈ udpTrace system inputs, ServerKnows step.after) ↔
      ∀ step ∈ udpTrace system inputs, ¬step.Misses := by
  induction inputs generalizing system with
  | nil => simp [udpTrace]
  | cons input inputs ih =>
      rw [udpTrace]
      cases hstep : udpStep system input with
      | none => simp
      | some next =>
          simp only [List.mem_cons, forall_eq_or_imp]
          by_cases hmisses : UdpStep.Misses ⟨system, input, next⟩
          · have hnext := not_serverKnows_of_misses h hstep hmisses
            simp [hmisses, hnext]
          · have hnext := serverKnows_step h hstep hmisses
            simp only [hmisses, hnext, not_false_eq_true, true_and]
            exact ih hnext

def UdpSystem.silent (state : LoraState) (sendAll : Bool) : UdpSystem :=
  ⟨state, sendAll, fun _ => none⟩

theorem serverKnows_silent (state : LoraState) (sendAll : Bool) :
    ServerKnows (.silent state sendAll) := by
  intro place info value _ _ htold
  cases htold

theorem no_change_lost_iff (state : LoraState) (sendAll : Bool)
    (inputs : List UdpInput) :
    (∀ step ∈ udpTrace (.silent state sendAll) inputs,
        ServerKnows step.after) ↔
      ∀ step ∈ udpTrace (.silent state sendAll) inputs, ¬step.Misses :=
  serverKnows_trace_iff (serverKnows_silent state sendAll)

/-- A heartbeat, a report, and 36 checks without another heartbeat. -/
def silentRun : List UdpInput :=
  [.message (.sample, .loraRecvData firstHeartBeat),
    .report .sample Device.blank] ++
    List.replicate 36 (.message (.sample, .checkDeviceConnect))

def finalSystem (system : UdpSystem) (inputs : List UdpInput) : UdpSystem :=
  ((udpTrace system inputs).getLast?.map UdpStep.after).getD system

theorem serverKnows_finalSystem {system : UdpSystem} {inputs : List UdpInput}
    (hstart : ServerKnows system)
    (h : ∀ step ∈ udpTrace system inputs, ServerKnows step.after) :
    ServerKnows (finalSystem system inputs) := by
  unfold finalSystem
  cases hlast : (udpTrace system inputs).getLast? with
  | none => exact hstart
  | some step => exact h step (List.mem_of_getLast? hlast)

theorem finalSystem_silentRun :
    (finalSystem (.silent oneDetector false) silentRun).state.detectors.map
        (fun info => (info.state, info.isParkStateChanged)) =
      [(nodeStateOffline, false)] ∧
    (finalSystem (.silent oneDetector false) silentRun).told 0 = some 0 := by
  decide +kernel

theorem lost_detector_not_told :
    JustLoaded oneDetector ∧
      ¬∀ step ∈ udpTrace (.silent oneDetector false) silentRun,
        ServerKnows step.after := by
  refine ⟨justLoaded_oneDetector, fun h => ?_⟩
  have hfinal := serverKnows_finalSystem (serverKnows_silent _ _) h
  obtain ⟨hdetectors, htold⟩ := finalSystem_silentRun
  obtain ⟨info, hlist, hinfo⟩ := List.map_eq_singleton_iff.mp hdetectors
  have hstate := hfinal 0 info 0 (by rw [hlist]; rfl)
    (congrArg Prod.snd hinfo) htold
  have hoffline : info.state = nodeStateOffline := congrArg Prod.fst hinfo
  rw [hoffline] at hstate
  revert hstate
  decide

end WncFirmware.Udp
