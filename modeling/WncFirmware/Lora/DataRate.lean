import WncFirmware.Foundation.Averages
import WncFirmware.Foundation.LatestRing
import WncFirmware.Lora.Records

/-!
# The averages behind the data rate

`adr_control` keeps the signal of the last ten packets of a detector and decides
on their averages.  The sum of the signal-to-noise ratios is kept in eight bits,
so that the average is the true one exactly when this sum fits.
-/

namespace WncFirmware.Lora

open WncFirmware.Foundation

/-! ## The packets since the list was loaded -/

structure ReceivedPkts where
  state : LoraState
  pkts : Nat → List LoraPkt

namespace ReceivedPkts

def load (state : LoraState) : ReceivedPkts := ⟨state, fun _ => []⟩

def next (received : ReceivedPkts) (msg : LoraMsg) (state : LoraState) :
    ReceivedPkts where
  state := state
  pkts place :=
    (received.state.reportedBy place msg).toList ++ received.pkts place

end ReceivedPkts

def receiveStep (received : ReceivedPkts) (input : LoraInput) :
    Option ReceivedPkts :=
  (loraStep received.state input).map (received.next input.2)

/-! ## The rings -/

structure Sampled (info : SingleDetectorInfo) (pkts : List LoraPkt) : Prop where
  rssi : Latest maxAvgNum info.cRssi info.cPtr.toNat (pkts.map (·.rssi))
  snr : Latest maxAvgNum info.cSnr info.cPtr.toNat (pkts.map (·.snr))
  recvNum : info.recvNum = UInt32.ofNat pkts.length

theorem Sampled.congr {info after : SingleDetectorInfo} {pkts : List LoraPkt}
    (h : Sampled info pkts) (hrssi : after.cRssi = info.cRssi)
    (hsnr : after.cSnr = info.cSnr) (hptr : after.cPtr = info.cPtr)
    (hrecv : after.recvNum = info.recvNum) : Sampled after pkts := by
  constructor
  · rw [hrssi, hptr]
    exact h.rssi
  · rw [hsnr, hptr]
    exact h.snr
  · rw [hrecv]
    exact h.recvNum

theorem sampled_loaded (id : UInt32) (state : UInt8) :
    Sampled { id := id, state := state } [] where
  rssi := .empty List.length_replicate (by decide)
  snr := .empty List.length_replicate (by decide)
  recvNum := rfl

theorem cPtr_recordSignal (pkt : LoraPkt) {info : SingleDetectorInfo}
    (h : info.cPtr.toNat < maxAvgNum) :
    (recordSignal pkt info).cPtr.toNat =
      nextPlace maxAvgNum info.cPtr.toNat := by
  have hnext : (info.cPtr + 1).toNat = info.cPtr.toNat + 1 := by
    rw [UInt8.toNat_add]
    exact Nat.mod_eq_of_lt (Nat.lt_of_le_of_lt h (by decide))
  simp only [recordSignal, nextPlace, hnext]
  split
  · rfl
  · exact hnext

theorem Sampled.recordSignal {info : SingleDetectorInfo} {pkts : List LoraPkt}
    (h : Sampled info pkts) (pkt : LoraPkt) :
    let recorded := recordSignal pkt info
    Latest maxAvgNum recorded.cRssi recorded.cPtr.toNat
        ((pkt :: pkts).map (·.rssi)) ∧
      Latest maxAvgNum recorded.cSnr recorded.cPtr.toNat
        ((pkt :: pkts).map (·.snr)) := by
  have hplace := h.rssi.place_lt (by decide)
  dsimp only
  rw [cPtr_recordSignal pkt hplace]
  exact ⟨h.rssi.push (by decide) pkt.rssi, h.snr.push (by decide) pkt.snr⟩

theorem rings_heartBeatRecord (pkt : LoraPkt) (info : SingleDetectorInfo) :
    (heartBeatRecord pkt info).cRssi = (recordSignal pkt info).cRssi ∧
      (heartBeatRecord pkt info).cSnr = (recordSignal pkt info).cSnr ∧
      (heartBeatRecord pkt info).cPtr = (recordSignal pkt info).cPtr := by
  have hcounted (record : SingleDetectorInfo) (cnt : UInt8) :
      (countPacket record cnt).cRssi = record.cRssi ∧
        (countPacket record cnt).cSnr = record.cSnr ∧
        (countPacket record cnt).cPtr = record.cPtr := by
    unfold countPacket
    split <;> exact ⟨rfl, rfl, rfl⟩
  exact hcounted { (adrControl pkt info).2 with isInConfig := false } _

theorem rings_checkDetector (place : Nat) (info : SingleDetectorInfo) :
    (checkDetector place info).1.cRssi = info.cRssi ∧
      (checkDetector place info).1.cSnr = info.cSnr ∧
      (checkDetector place info).1.cPtr = info.cPtr ∧
      (checkDetector place info).1.recvNum = info.recvNum := by
  unfold checkDetector
  split
  · exact ⟨rfl, rfl, rfl, rfl⟩
  · split <;> exact ⟨rfl, rfl, rfl, rfl⟩

theorem Sampled.heartBeat {info : SingleDetectorInfo} {pkts : List LoraPkt}
    (h : Sampled info pkts) (pkt : LoraPkt) :
    Sampled (heartBeatRecord pkt info) (pkt :: pkts) := by
  obtain ⟨hrssi, hsnr⟩ := h.recordSignal pkt
  obtain ⟨hrssiKept, hsnrKept, hptrKept⟩ := rings_heartBeatRecord pkt info
  constructor
  · rw [hrssiKept, hptrKept]
    exact hrssi
  · rw [hsnrKept, hptrKept]
    exact hsnr
  · rw [List.length_cons, UInt32.ofNat_add, ← h.recvNum]
    rfl

/-- What a message does to a record keeps the rings in step with the packets. -/
theorem Sampled.step {state : LoraState} {msg : LoraMsg} {place : Nat}
    {info after : SingleDetectorInfo} {pkts : List LoraPkt}
    (h : Sampled info pkts) (hstep : RecordStep state msg place info after) :
    Sampled after ((state.reportedBy place msg).toList ++ pkts) := by
  cases hstep with
  | same hreport =>
      rw [hreport]
      exact h
  | heartBeat pkt hreport =>
      rw [hreport]
      exact h.heartBeat pkt
  | restart hreport =>
      rw [hreport]
      exact h.congr rfl rfl rfl rfl
  | enterCfg hreport =>
      rw [hreport]
      exact h.congr rfl rfl rfl rfl
  | check hreport =>
      obtain ⟨hrssi, hsnr, hptr, hrecv⟩ := rings_checkDetector place info
      rw [hreport]
      exact h.congr hrssi hsnr hptr hrecv

theorem sampled_of_justLoaded {state : LoraState} (h : JustLoaded state)
    {place : Nat} {info : SingleDetectorInfo}
    (hinfo : state.detectors[place]? = some info) : Sampled info [] := by
  obtain ⟨device, hlists⟩ := h
  have hmem := List.mem_of_getElem? hinfo
  rw [LoraState.detectors, hlists, detectorInfo_initParkingLists] at hmem
  obtain ⟨id, -, rfl⟩ := List.mem_map.mp hmem
  exact sampled_loaded id _

def AllSampled (received : ReceivedPkts) : Prop :=
  ∀ place info, received.state.detectors[place]? = some info →
    Sampled info (received.pkts place)

theorem sampled_run {start : LoraState} {inputs : List LoraInput}
    {final : ReceivedPkts} (hload : JustLoaded start)
    (hrun : Run receiveStep (fun _ _ => True) (.load start) inputs final)
    {place : Nat} {info : SingleDetectorInfo}
    (hinfo : final.state.detectors[place]? = some info) :
    Sampled info (final.pkts place) := by
  have hall : AllSampled final := by
    refine hrun.invariant ?_ fun place info => sampled_of_justLoaded hload
    intro received input next hreceived _ hstep place info hinfo
    obtain ⟨state, hnext, rfl⟩ := Option.map_eq_some_iff.mp hstep
    obtain ⟨result, hresult, rfl⟩ := Option.map_eq_some_iff.mp hnext
    obtain ⟨before, hbefore, hrecord⟩ := dataProcess_recordStep hresult hinfo
    exact (hreceived place before hbefore).step hrecord
  exact hall place info hinfo

/-! ## The averages -/

def latestRssi (pkts : List LoraPkt) : List Int :=
  (pkts.take maxAvgNum).map (·.rssi.toInt)

def latestSnr (pkts : List LoraPkt) : List Int :=
  (pkts.take maxAvgNum).map (·.snr.toInt)

theorem foldl_rssi (values : List Int16) (start : Int) :
    values.foldl (fun sum rssi => sum + rssi.toInt) start =
      start + (values.map (·.toInt)).sum := by
  induction values generalizing start with
  | nil => simp
  | cons value values ih => simp [ih, Int.add_assoc]

theorem foldl_snr (values : List Int8) (start : Int) :
    values.foldl (fun sum snr => sum + snr) (Int8.ofInt start) =
      Int8.ofInt (start + (values.map (·.toInt)).sum) := by
  induction values generalizing start with
  | nil => simp
  | cons value values ih =>
      have hstart : Int8.ofInt start + value =
          Int8.ofInt (start + value.toInt) := by
        rw [Int8.ofInt_add, Int8.ofInt_toInt]
      rw [List.foldl_cons, hstart, ih, List.map_cons, List.sum_cons,
        Int.add_assoc]

theorem latest_values {Value : Type} {ring : List Value} {place : Nat}
    {pkts : List LoraPkt} {signal : LoraPkt → Value}
    (h : Latest maxAvgNum ring place (pkts.map signal)) (toInt : Value → Int) :
    ((ring.take (min maxAvgNum pkts.length)).map toInt).Perm
      ((pkts.take maxAvgNum).map fun pkt => toInt (signal pkt)) := by
  have hperm := h.perm.map toInt
  rw [List.length_map, ← List.map_take, List.map_map] at hperm
  exact hperm

theorem averageCount_eq {info : SingleDetectorInfo} {pkts : List LoraPkt}
    (h : info.recvNum = UInt32.ofNat pkts.length) {pkt : LoraPkt}
    (hfew : (pkt :: pkts).length < 2 ^ 32) :
    averageCount info = min maxAvgNum (pkt :: pkts).length := by
  rw [List.length_cons] at hfew ⊢
  rw [averageCount, h]
  change min _ (UInt32.ofNat pkts.length + UInt32.ofNat 1).toNat = _
  rw [← UInt32.ofNat_add, UInt32.toNat_ofNat_of_lt' hfew]

theorem averageRssi_eq {info : SingleDetectorInfo} {pkts : List LoraPkt}
    (h : Latest maxAvgNum info.cRssi info.cPtr.toNat (pkts.map (·.rssi))) :
    averageRssi info (min maxAvgNum pkts.length) =
      average (latestRssi pkts) := by
  have hvalues := latest_values h (·.toInt)
  rw [latestRssi, ← average_perm hvalues, average, averageRssi, foldl_rssi,
    Int.zero_add, hvalues.length_eq, List.length_map, List.length_take]

theorem averageSnr_eq {info : SingleDetectorInfo} {pkts : List LoraPkt}
    (h : Latest maxAvgNum info.cSnr info.cPtr.toNat (pkts.map (·.snr))) :
    averageSnr info (min maxAvgNum pkts.length) =
      Int8.ofInt (((latestSnr pkts).sum.bmod 256).tdiv
        (latestSnr pkts).length) := by
  have hvalues := latest_values h (·.toInt)
  have hsum := foldl_snr (info.cSnr.take (min maxAvgNum pkts.length)) 0
  rw [Int.zero_add, hvalues.sum_eq] at hsum
  rw [averageSnr]
  change Int8.ofInt ((List.foldl _ (Int8.ofInt 0) _).toInt.tdiv _) = _
  rw [hsum, Int8.toInt_ofInt, latestSnr, List.length_map, List.length_take]

theorem latestRssi_mem (pkts : List LoraPkt) :
    ∀ value ∈ latestRssi pkts, -2 ^ 15 ≤ value ∧ value ≤ 2 ^ 15 - 1 := by
  intro value hvalue
  obtain ⟨pkt, -, rfl⟩ := List.mem_map.mp hvalue
  exact ⟨pkt.rssi.le_toInt, Int.le_sub_one_of_lt pkt.rssi.toInt_lt⟩

structure AveragesTrue (pkt : LoraPkt) (info : SingleDetectorInfo)
    (pkts : List LoraPkt) : Prop where
  rssi : (adrControl pkt info).2.cAvgRssi.toInt = average (latestRssi pkts)
  snr : (adrControl pkt info).2.cAvgSnr.toInt = average (latestSnr pkts)
  decision : (adrControl pkt info).1 =
    rateUp pkt (average (latestRssi pkts)) (Int8.ofInt (average (latestSnr pkts)))

def SnrSumFits (pkts : List LoraPkt) : Prop :=
  -128 ≤ (latestSnr pkts).sum ∧ (latestSnr pkts).sum ≤ 127

instance (pkts : List LoraPkt) : Decidable (SnrSumFits pkts) :=
  inferInstanceAs (Decidable (_ ∧ _))

theorem bmod_sum_eq_iff (sum : Int) :
    sum.bmod 256 = sum ↔ -128 ≤ sum ∧ sum ≤ 127 := by
  rw [Int.bmod_def]
  omega

theorem toInt_averageSnr (sum : Int) {count : Nat} (h : 0 < count) :
    (Int8.ofInt ((sum.bmod 256).tdiv count)).toInt =
      (sum.bmod 256).tdiv count := by
  have hbyte : -128 ≤ sum.bmod 256 ∧ sum.bmod 256 ≤ 127 := by
    rw [Int.bmod_def]
    omega
  have hrange := @tdiv_mem (-128) 127 (sum.bmod 256) count (by omega) (by omega)
    (by omega)
  exact Int8.toInt_ofInt_of_le hrange.1 (by omega)

/-- What `adr_control` leaves in the record when the rings are in step. -/
theorem adrControl_averages {info : SingleDetectorInfo} {pkts : List LoraPkt}
    (h : Sampled info pkts) (pkt : LoraPkt)
    (hfew : (pkt :: pkts).length < 2 ^ 32) :
    let rssi := average (latestRssi (pkt :: pkts))
    let snr := Int8.ofInt (((latestSnr (pkt :: pkts)).sum.bmod 256).tdiv
      (latestSnr (pkt :: pkts)).length)
    (adrControl pkt info).1 = rateUp pkt rssi snr ∧
      (adrControl pkt info).2.cAvgRssi = Int16.ofInt rssi ∧
      (adrControl pkt info).2.cAvgSnr = snr := by
  obtain ⟨hrssi, hsnr⟩ := h.recordSignal pkt
  simp only [adrControl, averageCount_eq h.recvNum hfew, averageRssi_eq hrssi,
    averageSnr_eq hsnr]
  exact ⟨trivial, trivial, trivial⟩

theorem averagesTrue_iff {info : SingleDetectorInfo} {pkts : List LoraPkt}
    (h : Sampled info pkts) (pkt : LoraPkt)
    (hfew : (pkt :: pkts).length < 2 ^ 32) :
    AveragesTrue pkt info (pkt :: pkts) ↔ SnrSumFits (pkt :: pkts) := by
  obtain ⟨hdecision, hrssi, hsnr⟩ := adrControl_averages h pkt hfew
  have hshort : (latestSnr (pkt :: pkts)).length ≤ 10 := by
    rw [latestSnr, List.length_map, List.length_take]
    exact Nat.min_le_left 10 _
  have hpos : 0 < (latestSnr (pkt :: pkts)).length := by
    simp [latestSnr, maxAvgNum]
  have hmean : average (latestRssi (pkt :: pkts)) =
      (Int16.ofInt (average (latestRssi (pkt :: pkts)))).toInt := by
    have hrange := average_mem (by simp [latestRssi, maxAvgNum])
      (latestRssi_mem (pkt :: pkts))
    exact (Int16.toInt_ofInt_of_le hrange.1 (by omega)).symm
  have hkept := toInt_averageSnr (latestSnr (pkt :: pkts)).sum hpos
  rw [SnrSumFits, ← bmod_sum_eq_iff,
    ← @bmod_tdiv_eq_iff _ (latestSnr (pkt :: pkts)).length 256 (by omega)
      (by omega)]
  constructor
  · intro htrue
    rw [← hkept, ← hsnr]
    exact htrue.snr
  · intro hsame
    constructor
    · rw [hrssi, ← hmean]
    · rw [hsnr, hkept, hsame, average]
    · rw [hdecision, hsame, average, average]

theorem averages_true_iff_snr_sum_fits {start : LoraState}
    {inputs : List LoraInput} {final : ReceivedPkts} (hload : JustLoaded start)
    (hrun : Run receiveStep (fun _ _ => True) (.load start) inputs final)
    {pkt : LoraPkt} {place : Nat} {info : SingleDetectorInfo}
    (hinfo : final.state.detectors[place]? = some info)
    (hfew : (pkt :: final.pkts place).length < 2 ^ 32 - 1) :
    AveragesTrue pkt info (pkt :: final.pkts place) ↔
      SnrSumFits (pkt :: final.pkts place) :=
  averagesTrue_iff (sampled_run hload hrun hinfo) pkt (by omega)

def receiveAll (received : ReceivedPkts) (pkts : List LoraPkt) :
    ReceivedPkts :=
  pkts.foldl (fun received pkt => received.next (.loraRecvData pkt)
    (analyzeLoraPkt .sample received.state pkt).1) received

theorem run_receiveAll (pkts : List LoraPkt) (received : ReceivedPkts) :
    Run receiveStep (fun _ _ => True) received (hearInputs pkts)
      (receiveAll received pkts) := by
  induction pkts generalizing received with
  | nil => exact .nil received
  | cons pkt pkts ih => exact .cons trivial rfl (ih _)

/-- A heartbeat at the spreading factor 10. -/
def slowHeartBeat (snr : Int8) : LoraPkt :=
  { firstHeartBeat with rssi := -60, snr := snr, datarate := 10 }

def afterSlow (snrs : List Int8) : ReceivedPkts :=
  receiveAll (.load oneDetector) (snrs.map slowHeartBeat)

/-- A detector with a good signal is told to speed up. -/
theorem good_signal_averaged :
    JustLoaded oneDetector ∧
      ∃ info, (afterSlow [6]).state.detectors[0]? = some info ∧
        SnrSumFits (slowHeartBeat 7 :: (afterSlow [6]).pkts 0) ∧
        AveragesTrue (slowHeartBeat 7) info
          (slowHeartBeat 7 :: (afterSlow [6]).pkts 0) := by
  have hrun := run_receiveAll ([6].map slowHeartBeat) (.load oneDetector)
  have hsome : (afterSlow [6]).state.detectors[0]?.isSome = true := by
    decide +kernel
  obtain ⟨info, hinfo⟩ := Option.isSome_iff_exists.mp hsome
  have hfits : SnrSumFits (slowHeartBeat 7 :: (afterSlow [6]).pkts 0) := by
    decide +kernel
  exact ⟨justLoaded_oneDetector, info, hinfo, hfits,
    (averages_true_iff_snr_sum_fits justLoaded_oneDetector hrun hinfo
      (by decide +kernel)).mpr hfits⟩

/-- Nine packets far below the limit and one above it: the average is -15, but
the record has 9, and the detector is told to speed up. -/
theorem weak_signal_speeds_up :
    JustLoaded oneDetector ∧
      ∃ inputs final info,
        Run receiveStep (fun _ _ => True) (.load oneDetector) inputs final ∧
        final.state.ReportsDetector (slowHeartBeat (-4)) 0 ∧
        final.state.detectors[0]? = some info ∧
        (slowHeartBeat (-4) :: final.pkts 0).length = 10 ∧
        average (latestSnr (slowHeartBeat (-4) :: final.pkts 0)) = -15 ∧
        (adrControl (slowHeartBeat (-4)) info).2.cAvgSnr = 9 ∧
        (adrControl (slowHeartBeat (-4)) info).1 = true ∧
        ¬AveragesTrue (slowHeartBeat (-4)) info
          (slowHeartBeat (-4) :: final.pkts 0) := by
  have hrun := run_receiveAll ((List.replicate 9 (-17)).map slowHeartBeat)
    (.load oneDetector)
  have hadr : (afterSlow (List.replicate 9 (-17))).state.detectors[0]?.map
      (fun info => ((adrControl (slowHeartBeat (-4)) info).1,
        (adrControl (slowHeartBeat (-4)) info).2.cAvgSnr)) =
        some (true, 9) := by
    decide +kernel
  obtain ⟨info, hinfo, hresult⟩ := Option.map_eq_some_iff.mp hadr
  simp only [Prod.mk.injEq] at hresult
  have hmean : average (latestSnr (slowHeartBeat (-4) ::
      (afterSlow (List.replicate 9 (-17))).pkts 0)) = -15 := by
    decide +kernel
  refine ⟨justLoaded_oneDetector, _, _, info, hrun, by decide +kernel, hinfo,
    by decide +kernel, hmean, hresult.2, hresult.1, ?_⟩
  intro htrue
  have hsnr := htrue.snr
  rw [hresult.2] at hsnr
  exact absurd (hsnr.trans hmean) (by decide)

end WncFirmware.Lora
