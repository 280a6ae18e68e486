import WncFirmware.Config.Setters
import WncFirmware.Lora.Guidance
import WncFirmware.Lora.Reports

/-!
# The offline timeout

`set_offline_timeout` stores a number of minutes that `check_lora_node_connect`
never reads: a node is taken for offline at the check number 36 after its last
report.  The checks since the last report are counted beside each run.
-/

namespace WncFirmware.Lora

open WncFirmware.Foundation

/-! ## The run with its clock -/

/-- The checks since the last report of each node, or since it was loaded. -/
structure Minutes where
  detector : Nat → Nat
  light : Nat → Nat

def Minutes.zero : Minutes := ⟨fun _ => 0, fun _ => 0⟩

def Minutes.next (minutes : Minutes) (state : LoraState) : LoraMsg → Minutes
  | .loraRecvData pkt =>
      { detector := fun place =>
          if state.ReportsDetector pkt place then 0 else minutes.detector place
        light := fun place =>
          if state.ReportsLight pkt place then 0 else minutes.light place }
  | .checkDeviceConnect =>
      { detector := fun place => minutes.detector place + 1
        light := fun place => minutes.light place + 1 }
  | _ => minutes

structure ClockStep where
  before : LoraState
  minutes : Minutes
  msg : LoraMsg
  after : LoraState

/-- The messages of a run; it stops at a scan that does not end. -/
def clockTrace : LoraState → Minutes → List LoraInput → List ClockStep
  | _, _, [] => []
  | state, minutes, input :: inputs =>
      match loraStep state input with
      | none => []
      | some next =>
          ⟨state, minutes, input.2, next⟩ ::
            clockTrace next (minutes.next state input.2) inputs

/-! ## What is asked of a check -/

def LoraMsg.isCheck : LoraMsg → Bool
  | .checkDeviceConnect => true
  | _ => false

/-- The check turns the detector offline. -/
def ClockStep.Loses (step : ClockStep) (before after : SingleDetectorInfo) :
    Prop :=
  step.msg.isCheck = true ∧ before.state ≠ nodeStateOffline ∧
    after.state = nodeStateOffline

instance (step : ClockStep) (before after : SingleDetectorInfo) :
    Decidable (step.Loses before after) :=
  inferInstanceAs (Decidable (_ ∧ _ ∧ _))

/--
A node that is online goes offline at the check number `timeout + 1` after its
last report and at no other check, and its `offline_time` counts that.
-/
structure ClockStep.Honours (timeout : Nat) (step : ClockStep) : Prop where
  detector : step.msg.isCheck = true → ∀ (place : Nat) before after,
    step.before.detectors[place]? = some before →
    step.after.detectors[place]? = some after →
    before.state ≠ nodeStateOffline →
      (after.state = nodeStateOffline ↔
        step.minutes.detector place + 1 = timeout + 1)
  light : step.msg.isCheck = true → ∀ place < step.before.lightNum,
    (step.before.light place).state ≠ nodeStateOffline →
      ((step.after.light place).state = nodeStateOffline ↔
        step.minutes.light place + 1 = timeout + 1)
  offlineTime : ∀ (place : Nat) before after,
    step.before.detectors[place]? = some before →
    step.after.detectors[place]? = some after →
      after.offlineTime =
        if step.Loses before after then before.offlineTime + 1
        else before.offlineTime

/-! ## The clock is in the records -/

structure InStep (state : LoraState) (minutes : Minutes) : Prop where
  detector : ∀ (place : Nat) info, state.detectors[place]? = some info →
    info.state ≠ nodeStateOffline →
      info.interval.toNat = minutes.detector place ∧
        minutes.detector place ≤ 35
  light : ∀ place < state.lightNum,
    (state.light place).state ≠ nodeStateOffline →
      (state.light place).interval.toNat = minutes.light place ∧
        minutes.light place ≤ 35

theorem minute_lt {interval : UInt8} : interval < 35 ↔ interval.toNat < 35 :=
  UInt8.lt_iff_toNat_lt

theorem toNat_minute {interval : UInt8} (h : interval < 35) :
    (interval + 1).toNat = interval.toNat + 1 := by
  have hlt := minute_lt.mp h
  rw [UInt8.toNat_add]
  exact Nat.mod_eq_of_lt (by show interval.toNat + 1 < 256; omega)

theorem checkDetector_online (place : Nat) {info : SingleDetectorInfo}
    (honline : info.state ≠ nodeStateOffline) :
    (info.interval.toNat < 35 ∧
        (checkDetector place info).1.state = info.state ∧
        (checkDetector place info).1.interval.toNat =
          info.interval.toNat + 1 ∧
        (checkDetector place info).1.offlineTime = info.offlineTime) ∨
      (35 ≤ info.interval.toNat ∧
        (checkDetector place info).1.state = nodeStateOffline ∧
        (checkDetector place info).1.offlineTime = info.offlineTime + 1) := by
  unfold checkDetector
  rw [if_neg honline]
  split
  case isTrue hlt =>
    exact .inl ⟨minute_lt.mp hlt, rfl, toNat_minute hlt, rfl⟩
  case isFalse hge =>
    exact .inr ⟨Nat.le_of_not_lt (hge ∘ minute_lt.mpr), rfl, rfl⟩

theorem checkLight_online {light : SingleLightInfo}
    (honline : light.state ≠ nodeStateOffline) :
    (light.interval.toNat < 35 ∧ (checkLight light).state = light.state ∧
        (checkLight light).interval.toNat = light.interval.toNat + 1) ∨
      (35 ≤ light.interval.toNat ∧
        (checkLight light).state = nodeStateOffline) := by
  unfold checkLight
  rw [if_neg honline]
  split
  case isTrue hlt =>
    exact .inl ⟨minute_lt.mp hlt, rfl, toNat_minute hlt⟩
  case isFalse hge =>
    exact .inr ⟨Nat.le_of_not_lt (hge ∘ minute_lt.mpr), rfl⟩

theorem inStep_of_justLoaded {state : LoraState} (h : JustLoaded state) :
    InStep state .zero := by
  obtain ⟨device, hlists⟩ := h
  constructor
  · intro place info hinfo honline
    rw [LoraState.detectors, hlists, detectorInfo_initParkingLists] at hinfo
    obtain ⟨id, -, rfl⟩ := List.mem_map.mp (List.mem_of_getElem? hinfo)
    exact absurd rfl honline
  · intro place hplace _
    have hinterval : (state.light place).interval = 0 := by
      rw [LoraState.light, hlists]
      simp only [initParkingLists, readLightParkingFile, readSensorListFile,
        readLightConnectFile]
      split <;> rfl
    rw [hinterval]
    exact ⟨rfl, Nat.zero_le _⟩

theorem inStep_detector {env : LoraEnv} {state : LoraState} {msg : LoraMsg}
    {minutes : Minutes} {result : LoraResult} (h : InStep state minutes)
    (hstep : dataProcess env state msg = some result) {place : Nat}
    {after : SingleDetectorInfo}
    (hafter : result.1.detectors[place]? = some after)
    (honline : after.state ≠ nodeStateOffline) :
    after.interval.toNat = (minutes.next state msg).detector place ∧
      (minutes.next state msg).detector place ≤ 35 := by
  obtain ⟨before, hbefore, hacts⟩ := dataProcess_detectorStep hstep hafter
  have hquiet : SameStatus before after →
      after.interval.toNat = minutes.detector place ∧
        minutes.detector place ≤ 35 := by
    intro hsame
    rw [hsame.interval]
    exact h.detector place before hbefore (hsame.state ▸ honline)
  cases msg with
  | loraRecvData pkt =>
      simp only [DetectorStep] at hacts
      simp only [Minutes.next]
      by_cases hreports : state.ReportsDetector pkt place
      · rw [if_pos hreports] at hacts ⊢
        simp [hacts.interval]
      · rw [if_neg hreports] at hacts ⊢
        exact hquiet hacts
  | checkDeviceConnect =>
      obtain rfl : after = (checkDetector place before).1 := hacts
      have hbeforeOnline : before.state ≠ nodeStateOffline := by
        intro hoffline
        simp [checkDetector, hoffline] at honline
      have hclock := h.detector place before hbefore hbeforeOnline
      rcases checkDetector_online place hbeforeOnline with
        ⟨hlt, -, hinterval, -⟩ | ⟨-, hoffline, -⟩
      · simp only [Minutes.next]
        omega
      · exact absurd hoffline honline
  | analizeLightState => exact hquiet hacts
  | loraRecvTest fd => exact hquiet hacts
  | loraConfigNodeByRange fd data => exact hquiet hacts
  | loraConfigNodeById fd data => exact hquiet hacts
  | loraInitNode fd data => exact hquiet hacts

theorem inStep_light {env : LoraEnv} {state : LoraState} {msg : LoraMsg}
    {minutes : Minutes} {result : LoraResult} (h : InStep state minutes)
    (hstep : dataProcess env state msg = some result) {place : Nat}
    (hplace : place < state.lightNum)
    (honline : (result.1.light place).state ≠ nodeStateOffline) :
    (result.1.light place).interval.toNat =
        (minutes.next state msg).light place ∧
      (minutes.next state msg).light place ≤ 35 := by
  have hacts := dataProcess_lightStep hstep place
  have hquiet : result.1.light place = state.light place →
      (result.1.light place).interval.toNat = minutes.light place ∧
        minutes.light place ≤ 35 := by
    intro hsame
    rw [hsame] at honline ⊢
    exact h.light place hplace honline
  cases msg with
  | loraRecvData pkt =>
      simp only [LightStep] at hacts
      simp only [Minutes.next]
      by_cases hreports : state.ReportsLight pkt place
      · rw [if_pos hreports] at hacts ⊢
        simp [hacts, refreshLightInfo]
      · rw [if_neg hreports] at hacts ⊢
        exact hquiet hacts
  | checkDeviceConnect =>
      simp only [LightStep, if_pos hplace] at hacts
      rw [hacts] at honline ⊢
      have hbeforeOnline : (state.light place).state ≠ nodeStateOffline := by
        intro hoffline
        simp [checkLight, hoffline] at honline
      have hclock := h.light place hplace hbeforeOnline
      rcases checkLight_online hbeforeOnline with
        ⟨hlt, -, hinterval⟩ | ⟨-, hoffline⟩
      · simp only [Minutes.next]
        omega
      · exact absurd hoffline honline
  | analizeLightState =>
      have hscanned : Scanned (state.light place) (result.1.light place) := hacts
      rw [hscanned.interval]
      refine h.light place hplace ?_
      rcases hscanned.state with hsame | hoffline
      · rw [← hsame]
        exact honline
      · exact absurd hoffline honline
  | loraRecvTest fd => exact hquiet hacts
  | loraConfigNodeByRange fd data => exact hquiet hacts
  | loraConfigNodeById fd data => exact hquiet hacts
  | loraInitNode fd data => exact hquiet hacts

theorem inStep_next {env : LoraEnv} {state : LoraState} {msg : LoraMsg}
    {minutes : Minutes} {result : LoraResult} (h : InStep state minutes)
    (hstep : dataProcess env state msg = some result) :
    InStep result.1 (minutes.next state msg) := by
  have hnum : result.1.lightNum = state.lightNum :=
    (sameConfiguration_acts (dataProcess_acts hstep)).lightNum
  constructor
  · intro place after hafter honline
    exact inStep_detector h hstep hafter honline
  · intro place hplace honline
    exact inStep_light h hstep (hnum ▸ hplace) honline

/-! ## The timeout of the code -/

theorem detectorStep_offlineTime {state : LoraState} {msg : LoraMsg}
    {place : Nat} {before after : SingleDetectorInfo}
    (hacts : DetectorStep state msg place before after)
    (hmsg : msg.isCheck = false) : after.offlineTime = before.offlineTime := by
  cases msg with
  | loraRecvData pkt =>
      simp only [DetectorStep] at hacts
      split at hacts
      · exact hacts.offlineTime
      · exact hacts.offlineTime
  | checkDeviceConnect => cases hmsg
  | analizeLightState => exact hacts.offlineTime
  | loraRecvTest fd => exact hacts.offlineTime
  | loraConfigNodeByRange fd data => exact hacts.offlineTime
  | loraConfigNodeById fd data => exact hacts.offlineTime
  | loraInitNode fd data => exact hacts.offlineTime

theorem checkDetector_offlineTime (place : Nat) (info : SingleDetectorInfo) :
    (checkDetector place info).1.offlineTime =
      if info.state ≠ nodeStateOffline ∧
          (checkDetector place info).1.state = nodeStateOffline then
        info.offlineTime + 1
      else info.offlineTime := by
  by_cases hoffline : info.state = nodeStateOffline
  · simp [checkDetector, hoffline]
  · rcases checkDetector_online place hoffline with
      ⟨-, hstate, -, htime⟩ | ⟨-, hstate, htime⟩
    · simp [hstate, hoffline, htime]
    · simp [hstate, hoffline, htime]

theorem LoraMsg.eq_check {msg : LoraMsg} (h : msg.isCheck = true) :
    msg = .checkDeviceConnect := by
  cases msg with
  | checkDeviceConnect => rfl
  | _ => cases h

theorem InStep.check_detector {state : LoraState} {minutes : Minutes}
    {place : Nat} {before : SingleDetectorInfo} (h : InStep state minutes)
    (hbefore : state.detectors[place]? = some before)
    (honline : before.state ≠ nodeStateOffline) :
    (checkDetector place before).1.state = nodeStateOffline ↔
      minutes.detector place + 1 = 35 + 1 := by
  have hclock := h.detector place before hbefore honline
  rcases checkDetector_online place honline with
    ⟨hlt, hstate, -, -⟩ | ⟨hge, hstate, -⟩
  · simp only [hstate, honline, false_iff]
    omega
  · simp only [hstate, true_iff]
    omega

theorem InStep.check_light {state : LoraState} {minutes : Minutes}
    {place : Nat} (h : InStep state minutes) (hplace : place < state.lightNum)
    (honline : (state.light place).state ≠ nodeStateOffline) :
    (checkLight (state.light place)).state = nodeStateOffline ↔
      minutes.light place + 1 = 35 + 1 := by
  have hclock := h.light place hplace honline
  rcases checkLight_online honline with ⟨hlt, hstate, -⟩ | ⟨hge, hstate⟩
  · simp only [hstate, honline, false_iff]
    omega
  · simp only [hstate, true_iff]
    omega

theorem step_honours {env : LoraEnv} {state : LoraState} {msg : LoraMsg}
    {minutes : Minutes} {result : LoraResult} (h : InStep state minutes)
    (hstep : dataProcess env state msg = some result) :
    ClockStep.Honours 35 ⟨state, minutes, msg, result.1⟩ := by
  constructor
  · intro hcheck place before after hbefore hafter honline
    obtain rfl := LoraMsg.eq_check hcheck
    obtain rfl : after = (checkDetector place before).1 :=
      detectorStep_of_records hstep hbefore hafter
    exact h.check_detector hbefore honline
  · intro hcheck place hplace honline
    obtain rfl := LoraMsg.eq_check hcheck
    have hacts := dataProcess_lightStep hstep place
    simp only [LightStep] at hacts
    rw [if_pos hplace] at hacts
    rw [hacts]
    exact h.check_light hplace honline
  · intro place before after hbefore hafter
    have hacts := detectorStep_of_records hstep hbefore hafter
    cases hmsg : msg.isCheck with
    | false =>
        rw [detectorStep_offlineTime hacts hmsg]
        simp [ClockStep.Loses, hmsg]
    | true =>
        obtain rfl := LoraMsg.eq_check hmsg
        obtain rfl : after = (checkDetector place before).1 := hacts
        rw [checkDetector_offlineTime]
        simp only [ClockStep.Loses, hmsg, true_and]

theorem trace_honours {state : LoraState} {minutes : Minutes}
    {inputs : List LoraInput} (h : InStep state minutes) :
    ∀ step ∈ clockTrace state minutes inputs, step.Honours 35 := by
  induction inputs generalizing state minutes with
  | nil => simp [clockTrace]
  | cons input inputs ih =>
      rw [clockTrace]
      cases hstep : loraStep state input with
      | none => simp
      | some next =>
          obtain ⟨result, hresult, rfl⟩ := Option.map_eq_some_iff.mp hstep
          simp only [List.mem_cons, forall_eq_or_imp]
          exact ⟨step_honours h hresult, ih (inStep_next h hresult)⟩

/-! ## The timeout of the configuration -/

/-- A heartbeat of the detector 1, and 36 checks without another one. -/
def silentInputs : List LoraInput :=
  (.sample, .loraRecvData firstHeartBeat) ::
    List.replicate 36 (.sample, .checkDeviceConnect)

def lastSilentStep : ClockStep :=
  (clockTrace oneDetector .zero silentInputs).getLast?.getD
    ⟨oneDetector, .zero, .checkDeviceConnect, oneDetector⟩

theorem lastSilentStep_mem :
    lastSilentStep ∈ clockTrace oneDetector .zero silentInputs := by
  have hsome : (clockTrace oneDetector .zero silentInputs).getLast?.isSome =
      true := by
    decide +kernel
  obtain ⟨step, hstep⟩ := Option.isSome_iff_exists.mp hsome
  rw [lastSilentStep, hstep]
  exact List.mem_of_getLast? hstep

theorem lastSilentStep_offline :
    lastSilentStep.msg.isCheck = true ∧
      lastSilentStep.before.detectors.map (·.state) = [0] ∧
      lastSilentStep.after.detectors.map (·.state) = [nodeStateOffline] ∧
      lastSilentStep.minutes.detector 0 = 35 := by
  decide +kernel

theorem timeout_of_lastSilentStep {timeout : Nat}
    (h : lastSilentStep.Honours timeout) : timeout = 35 := by
  obtain ⟨hcheck, hbefore, hafter, hminutes⟩ := lastSilentStep_offline
  obtain ⟨before, hbeforeList, hbeforeState⟩ :=
    List.map_eq_singleton_iff.mp hbefore
  obtain ⟨after, hafterList, hafterState⟩ := List.map_eq_singleton_iff.mp hafter
  have honline : before.state ≠ nodeStateOffline := by
    rw [hbeforeState]
    decide
  have hhonours := (h.detector hcheck 0 before after (by rw [hbeforeList]; rfl)
    (by rw [hafterList]; rfl) honline).mp hafterState
  omega

def TimeoutHonoured (device : Device) : Prop :=
  ∀ start inputs, JustLoaded start →
    ∀ step ∈ clockTrace start .zero inputs,
      step.Honours device.wncConfig.loraConfig.timeOffline.toNat

theorem timeoutHonoured_iff (device : Device) :
    TimeoutHonoured device ↔ device.wncConfig.loraConfig.timeOffline = 35 := by
  constructor
  · intro h
    exact UInt16.toNat_inj.mp (timeout_of_lastSilentStep
      (h oneDetector silentInputs justLoaded_oneDetector _ lastSilentStep_mem))
  · intro htimeout start inputs hload
    rw [htimeout]
    exact trace_honours (inStep_of_justLoaded hload)

theorem setOfflineTimeout_stored {device next : Device} {payload : Bytes}
    {dataLen : UInt16}
    (h : setOfflineTimeout device payload dataLen = some (true, next)) :
    readOfflineTimeout payload dataLen =
      some next.wncConfig.loraConfig.timeOffline := by
  rcases carryOut_cases (Option.some.inj h) with
    ⟨hrefused, -, -⟩ | ⟨time, -, htime, rfl⟩
  · cases hrefused
  · exact htime

theorem offline_timeout_honoured_iff {device next : Device} {payload : Bytes}
    {dataLen : UInt16}
    (h : setOfflineTimeout device payload dataLen = some (true, next)) :
    TimeoutHonoured next ↔ readOfflineTimeout payload dataLen = some 35 := by
  rw [timeoutHonoured_iff, setOfflineTimeout_stored h, Option.some.injEq]

def timeoutPayload (minutes : UInt8) : Bytes := [1, 0, minutes]

def withTimeout (minutes : UInt8) : Device :=
  Device.blank.commit (changeOfflineTimeout minutes.toUInt16)

theorem default_timeout_honoured :
    setOfflineTimeout Device.blank (timeoutPayload 35) 3 =
        some (true, withTimeout 35) ∧
      TimeoutHonoured (withTimeout 35) :=
  ⟨rfl, (offline_timeout_honoured_iff
    (rfl : setOfflineTimeout Device.blank (timeoutPayload 35) 3 = _)).mpr
      (by decide)⟩

theorem short_timeout_not_honoured :
    setOfflineTimeout Device.blank (timeoutPayload 10) 3 =
        some (true, withTimeout 10) ∧
      JustLoaded oneDetector ∧
      lastSilentStep ∈ clockTrace oneDetector .zero silentInputs ∧
      ¬lastSilentStep.Honours
        (withTimeout 10).wncConfig.loraConfig.timeOffline.toNat := by
  refine ⟨rfl, justLoaded_oneDetector, lastSilentStep_mem, fun hhonours => ?_⟩
  have htimeout := timeout_of_lastSilentStep hhonours
  revert htimeout
  decide

end WncFirmware.Lora
