import WncFirmware.WorkState.LatestSample

/-!
# Restarts in the hourly report

`need_write_to_log` compares the counter of the offline times where it should
compare that of the restarts.  A restart is therefore reported only along with
something else.
-/

namespace WncFirmware.WorkState

open WncFirmware.Foundation WncFirmware.Lora

/-! ## What calls for a line -/

def WeakSample (rssi : Int16) (snr : Int8) : Prop :=
  rssi.toInt < -100 ∨ snr.toInt < -5

instance (rssi : Int16) (snr : Int8) : Decidable (WeakSample rssi snr) :=
  inferInstanceAs (Decidable (_ ∨ _))

structure Unremarkable (info : SingleDetectorInfo) : Prop where
  resends : ¬10 < resends info
  sends : ¬12 < info.sendNum - info.lastSend
  missed : info.lastMissRecv = info.missRecvNum
  online : info.state ≠ nodeStateOffline
  offline : info.lastOffline = info.offlineTime
  changes : ¬10 < info.changeTime
  power : ¬(info.lowestPower < 140 ∧ info.lowestPower ≠ 0)
  rate : ¬9 ≤ info.currentDr

def LatestWeak (pkts : List LoraPkt) : Prop :=
  ∃ pkt ∈ pkts.head?, WeakSample pkt.rssi pkt.snr

def CallsForLine (info : SingleDetectorInfo) (restarts : Nat)
    (pkts : List LoraPkt) : Prop :=
  ¬Unremarkable info ∨ restarts ≠ 0 ∨ LatestWeak pkts

theorem not_of_ite_eq {Value : Type} {condition : Prop} [Decidable condition]
    {first second value : Value}
    (h : (if condition then first else second) = value) (hne : first ≠ value) :
    ¬condition ∧ second = value := by
  split at h
  · exact absurd h hne
  · exact ⟨‹_›, h⟩

theorem needWriteToLog_eq_notWrite (info : SingleDetectorInfo) :
    needWriteToLog info = .notWrite ↔
      Unremarkable info ∧
        ¬WeakSample (cRssiAt info (tmpPtr info)) (cSnrAt info (tmpPtr info)) := by
  constructor
  · intro h
    obtain ⟨hresend, h⟩ := not_of_ite_eq h (by decide)
    obtain ⟨hsend, h⟩ := not_of_ite_eq h (by decide)
    obtain ⟨hmiss, h⟩ := not_of_ite_eq h (by decide)
    obtain ⟨hoffline, h⟩ := not_of_ite_eq h (by decide)
    obtain ⟨-, h⟩ := not_of_ite_eq h (by decide)
    obtain ⟨hchange, h⟩ := not_of_ite_eq h (by decide)
    obtain ⟨hpower, h⟩ := not_of_ite_eq h (by decide)
    obtain ⟨hlora, -⟩ := not_of_ite_eq h (by decide)
    rw [not_or, not_not] at hoffline
    rw [not_or] at hlora
    exact ⟨⟨hresend, hsend, not_not.mp hmiss, hoffline.1, hoffline.2, hchange,
      hpower, hlora.1⟩, hlora.2⟩
  · rintro ⟨h, hsample⟩
    have hoffline : ¬(info.state = nodeStateOffline ∨
        info.lastOffline ≠ info.offlineTime) :=
      not_or.mpr ⟨h.online, not_not.mpr h.offline⟩
    rw [needWriteToLog, if_neg h.resends, if_neg h.sends,
      if_neg (not_not.mpr h.missed), if_neg hoffline,
      if_neg (not_not.mpr h.offline), if_neg h.changes, if_neg h.power]
    exact if_neg (not_or.mpr ⟨h.rate, hsample⟩)

theorem detectorLine_ne_nil (info : SingleDetectorInfo) :
    detectorLine info ≠ [] ↔
      ¬Unremarkable info ∨
        WeakSample (cRssiAt info (tmpPtr info)) (cSnrAt info (tmpPtr info)) := by
  have hwritten : detectorLine info ≠ [] ↔ needWriteToLog info ≠ .notWrite := by
    unfold detectorLine
    split <;> simp [*]
  rw [hwritten, ne_eq, needWriteToLog_eq_notWrite, not_and_or, not_not]

/-! ## The sample that is compared -/

/-- The sample that the report looks at: behind the tenth place of the rings
stand the averages. -/
def ReadWeak (info : SingleDetectorInfo) (pkts : List LoraPkt) : Prop :=
  if pkts.length % 10 = 0 then WeakSample info.cAvgRssi info.cAvgSnr
  else LatestWeak pkts

theorem getD_append_length {Value : Type} (values : List Value)
    (value default : Value) :
    (values ++ [value]).getD values.length default = value := by
  simp [List.getD_eq_getElem?_getD]

theorem Stored.weakSample_iff {info : SingleDetectorInfo}
    {pkts : List LoraPkt} {slot : Nat} (h : Stored info pkts slot) :
    WeakSample (cRssiAt info (tmpPtr info)) (cSnrAt info (tmpPtr info)) ↔
      ReadWeak info pkts := by
  have hrssi := h.sampled.rssi
  have hsnr := h.sampled.snr
  have hplace : info.cPtr.toNat = pkts.length % 10 := by
    simpa [maxAvgNum] using hrssi.place_eq
  unfold ReadWeak
  split
  case isTrue htenth =>
    have hzero : info.cPtr.toNat = 0 := hplace.trans htenth
    have hptr : tmpPtr info = UInt8.ofNat maxAvgNum :=
      if_pos (UInt8.toNat_inj.mp hzero)
    have hend : (tmpPtr info).toNat = maxAvgNum := by rw [hptr]; rfl
    rw [cRssiAt, cSnrAt, hend]
    nth_rewrite 1 [← hrssi.length_eq]
    nth_rewrite 1 [← hsnr.length_eq]
    rw [getD_append_length, getD_append_length]
  case isFalse hother =>
    obtain ⟨pkt, earlier, rfl⟩ : ∃ pkt earlier, pkts = pkt :: earlier :=
      List.exists_cons_of_ne_nil fun hnone => hother (by simp [hnone])
    obtain ⟨-, hrssiAt, hsnrAt⟩ := h.slot_eq pkt earlier rfl
    have hlooks := (h.looksAtLatest_iff (List.cons_ne_nil _ _)).mpr hother
    have hinside := hlooks.inside
    rw [hlooks.latest] at hinside
    have hread : cRssiAt info (tmpPtr info) = pkt.rssi ∧
        cSnrAt info (tmpPtr info) = pkt.snr := by
      simp only [cRssiAt, cSnrAt, hlooks.latest, List.getD_eq_getElem?_getD]
      rw [List.getElem?_append_left (by rwa [hrssi.length_eq]),
        List.getElem?_append_left (by rwa [hsnr.length_eq]), hrssiAt, hsnrAt]
      exact ⟨rfl, rfl⟩
    rw [hread.1, hread.2]
    simp [LatestWeak]

/-! ## The restarts -/

/-- The counter and its value at the last report differ by the restarts since
then. -/
def RestartsCounted (history : History) : Prop :=
  ∀ place info, history.station.lora.detectors[place]? = some info →
    info.resetTime = info.lastReset + UInt32.ofNat (history.restarts place)

theorem reset_heartBeatRecord (pkt : LoraPkt) (info : SingleDetectorInfo) :
    (heartBeatRecord pkt info).resetTime = info.resetTime ∧
      (heartBeatRecord pkt info).lastReset = info.lastReset := by
  have hcounted (record : SingleDetectorInfo) (cnt : UInt8) :
      (countPacket record cnt).resetTime = record.resetTime ∧
        (countPacket record cnt).lastReset = record.lastReset := by
    unfold countPacket
    split <;> exact ⟨rfl, rfl⟩
  exact hcounted { (adrControl pkt info).2 with isInConfig := false } _

theorem reset_checkDetector (place : Nat) (info : SingleDetectorInfo) :
    (checkDetector place info).1.resetTime = info.resetTime ∧
      (checkDetector place info).1.lastReset = info.lastReset := by
  unfold checkDetector
  split
  · exact ⟨rfl, rfl⟩
  · split <;> exact ⟨rfl, rfl⟩

theorem restartsCounted_message {history : History} {env : LoraEnv}
    {msg : LoraMsg} {station : Station} (h : RestartsCounted history)
    (hstep : stationStep history.station (.message env msg) = some station) :
    RestartsCounted (history.next station (.message env msg)) := by
  intro place after hafter
  obtain ⟨result, hresult, rfl⟩ := Option.map_eq_some_iff.mp hstep
  obtain ⟨info, hinfo, hrecord⟩ := dataProcess_recordStep hresult hafter
  have hcounted := h place info hinfo
  simp only [History.next]
  cases hrecord with
  | same hreport hrestart =>
      rw [hrestart]
      exact hcounted
  | heartBeat pkt hreport hrestart =>
      rw [hrestart, (reset_heartBeatRecord pkt info).1,
        (reset_heartBeatRecord pkt info).2]
      exact hcounted
  | restart hreport hrestart =>
      rw [hrestart, if_pos rfl, UInt32.ofNat_add, ← UInt32.add_assoc]
      exact congrArg (· + 1) hcounted
  | enterCfg hreport hrestart =>
      rw [hrestart]
      exact hcounted
  | check hreport hrestart =>
      rw [hrestart, (reset_checkDetector place info).1,
        (reset_checkDetector place info).2]
      exact hcounted

theorem restartsCounted_hour {history : History} (env : ReportEnv) :
    RestartsCounted (history.next (history.station.report env) (.hour env)) := by
  intro place after hafter
  simp only [History.next, detectors_report, List.getElem?_map,
    Option.map_eq_some_iff] at hafter
  obtain ⟨info, hinfo, rfl⟩ := hafter
  simp [closeHour, History.next]

theorem restartsCounted_run {station : Station} {inputs : List StationInput}
    {final : History} (hload : JustLoaded station.lora)
    (hrun : Run historyStep (fun _ _ => True) (.load station) inputs final) :
    RestartsCounted final := by
  refine hrun.invariant ?_ ?_
  · intro history input next hhistory _ hstep
    obtain ⟨station, hstation, rfl⟩ := Option.map_eq_some_iff.mp hstep
    cases input with
    | message env msg => exact restartsCounted_message hhistory hstation
    | hour env =>
        cases hstation
        exact restartsCounted_hour env
  · intro place info hinfo
    obtain ⟨device, hlists⟩ := hload
    have hmem := List.mem_of_getElem? hinfo
    simp only [History.load] at hmem
    rw [LoraState.detectors, hlists, detectorInfo_initParkingLists] at hmem
    obtain ⟨id, -, rfl⟩ := List.mem_map.mp hmem
    rfl

/-! ## The report -/

/-- What makes sure that nothing is left out: the report has some other reason
for a line, or the detector has neither restarted nor has its latest packet,
the last of ten, a weak signal. -/
def NothingHidden (info : SingleDetectorInfo) (restarts : Nat)
    (pkts : List LoraPkt) : Prop :=
  ¬Unremarkable info ∨ ReadWeak info pkts ∨
    (restarts = 0 ∧ (pkts.length % 10 = 0 → ¬LatestWeak pkts))

theorem Stored.line_iff {info : SingleDetectorInfo} {pkts : List LoraPkt}
    {slot : Nat} (h : Stored info pkts slot) (restarts : Nat) :
    (CallsForLine info restarts pkts → detectorLine info ≠ []) ↔
      NothingHidden info restarts pkts := by
  rw [detectorLine_ne_nil, h.weakSample_iff, CallsForLine, NothingHidden]
  by_cases hplain : Unremarkable info
  case neg => simp [hplain]
  by_cases hread : ReadWeak info pkts
  case pos => simp [hread]
  simp only [hplain, hread, not_true_eq_false, false_or, or_false, imp_false,
    not_or, not_not]
  constructor
  · rintro ⟨hnone, hlatest⟩
    exact ⟨hnone, fun _ => hlatest⟩
  · rintro ⟨hnone, htenth⟩
    refine ⟨hnone, fun hweak => ?_⟩
    by_cases hlength : pkts.length % 10 = 0
    · exact htenth hlength hweak
    · rw [ReadWeak, if_neg hlength] at hread
      exact hread hweak

theorem line_never_missing_iff {station : Station}
    {inputs : List StationInput} {final : History}
    (hload : JustLoaded station.lora)
    (hrun : Run historyStep (fun _ _ => True) (.load station) inputs final)
    {place : Nat} {info : SingleDetectorInfo}
    (hinfo : final.station.lora.detectors[place]? = some info) :
    info.resetTime = info.lastReset + UInt32.ofNat (final.restarts place) ∧
      ((CallsForLine info (final.restarts place) (final.pkts place) →
          detectorLine info ≠ []) ↔
        NothingHidden info (final.restarts place) (final.pkts place)) :=
  ⟨restartsCounted_run hload hrun place info hinfo,
    (allStored_run hload hrun place info hinfo).line_iff _⟩

def chargedHeartBeat : LoraPkt :=
  nodePkt 1 .detectorHeartBeat [0, 150, 0, 1, 0]

def firstReport : ReportEnv := ⟨⟨2020, 1, 1, 1, 0, 0⟩, 3600, [], 0⟩

/-- A restart that is reported, as the battery is low too. -/
theorem restart_with_low_power_reported :
    JustLoaded oneDetectorStation.lora ∧
      ∃ final info,
        Run historyStep (fun _ _ => True) (.load oneDetectorStation)
          (heardInputs [firstHeartBeat, restartNotice]) final ∧
        final.station.lora.detectors[0]? = some info ∧
        final.restarts 0 = 1 ∧ info.resetTime ≠ info.lastReset ∧
        detectorLine info ≠ [] := by
  have hafter : (afterInputs (heardInputs [firstHeartBeat,
      restartNotice])).map (fun final => (final.restarts 0,
        final.station.lora.detectors[0]?.map fun info => info.lowestPower)) =
          some (1, some 100) := by
    decide +kernel
  obtain ⟨final, hfinal, hvalues⟩ := Option.map_eq_some_iff.mp hafter
  obtain ⟨hrestarts, hdetector⟩ := Prod.mk.inj hvalues
  obtain ⟨info, hinfo, hpower⟩ := Option.map_eq_some_iff.mp hdetector
  have hrun := Run.of_foldlM hfinal
  obtain ⟨hreset, hline⟩ := line_never_missing_iff justLoaded_station hrun hinfo
  refine ⟨justLoaded_station, final, info, hrun, hinfo, hrestarts, ?_, ?_⟩
  · rw [hreset, hrestarts]
    simp
  · have hlow : ¬Unremarkable info := fun h => h.power (by rw [hpower]; decide)
    exact hline.mpr (.inl hlow) (.inl hlow)

/-- A detector that restarts after a quiet hour has no line in the report. -/
theorem restart_not_reported :
    JustLoaded oneDetectorStation.lora ∧
      ∃ final info,
        Run historyStep (fun _ _ => True) (.load oneDetectorStation)
          (heardInputs [chargedHeartBeat] ++ [.hour firstReport] ++
            heardInputs [restartNotice]) final ∧
        final.station.lora.detectors[0]? = some info ∧
        final.restarts 0 = 1 ∧ info.resetTime ≠ info.lastReset ∧
        needWriteToLog info = .notWrite ∧
        ¬(CallsForLine info (final.restarts 0) (final.pkts 0) →
          detectorLine info ≠ []) := by
  have hafter : (afterInputs (heardInputs [chargedHeartBeat] ++
      [.hour firstReport] ++ heardInputs [restartNotice])).map (fun final =>
        (final.restarts 0, final.station.lora.detectors[0]?.map fun info =>
          (decide (info.resetTime ≠ info.lastReset), needWriteToLog info))) =
          some (1, some (true, .notWrite)) := by
    decide +kernel
  obtain ⟨final, hfinal, hvalues⟩ := Option.map_eq_some_iff.mp hafter
  obtain ⟨hrestarts, hdetector⟩ := Prod.mk.inj hvalues
  obtain ⟨info, hinfo, hresult⟩ := Option.map_eq_some_iff.mp hdetector
  obtain ⟨hreset, hreason⟩ := Prod.mk.inj hresult
  refine ⟨justLoaded_station, final, info, Run.of_foldlM hfinal, hinfo,
    hrestarts, of_decide_eq_true hreset, hreason, ?_⟩
  intro hreported
  apply hreported
  · rw [hrestarts]
    exact .inr (.inl (by decide))
  · rw [detectorLine, hreason]
    exact if_neg (not_not.mpr rfl)

end WncFirmware.WorkState
