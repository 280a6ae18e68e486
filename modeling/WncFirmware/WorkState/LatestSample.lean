import WncFirmware.Lora.DataRate
import WncFirmware.WorkState.Hourly

/-!
# The sample of the hourly report

`adr_control` has the next free place of the rings in `c_ptr`; the report wants
the place before it.  It finds it unless `c_ptr` has just gone back to 0, which
happens at every tenth packet.
-/

namespace WncFirmware.WorkState

open WncFirmware.Foundation WncFirmware.Lora

/-! ## What happened to the detectors -/

/-- The packets of each detector since the lists were loaded, the newest one in
front, where the last one was stored, and the restarts since the last report. -/
structure History where
  station : Station
  pkts : Nat → List LoraPkt
  slot : Nat → Nat
  restarts : Nat → Nat

namespace History

def load (station : Station) : History :=
  ⟨station, fun _ => [], fun _ => 0, fun _ => 0⟩

/-- Where `adr_control` would store a packet of the detector. -/
def freeSlot (history : History) (place : Nat) : Nat :=
  match history.station.lora.detectors[place]? with
  | some info => info.cPtr.toNat
  | none => 0

def next (history : History) (station : Station) : StationInput → History
  | .message _ msg =>
      { station := station
        pkts := fun place =>
          (history.station.lora.reportedBy place msg).toList ++
            history.pkts place
        slot := fun place =>
          if (history.station.lora.reportedBy place msg).isSome then
            history.freeSlot place
          else history.slot place
        restarts := fun place =>
          if history.station.lora.restartedBy place msg then
            history.restarts place + 1
          else history.restarts place }
  | .hour _ => { history with station := station, restarts := fun _ => 0 }

end History

def historyStep (history : History) (input : StationInput) : Option History :=
  (stationStep history.station input).map fun station =>
    history.next station input

/-! ## The place of the latest packet -/

structure Stored (info : SingleDetectorInfo) (pkts : List LoraPkt)
    (slot : Nat) : Prop where
  sampled : Sampled info pkts
  slot_eq : ∀ pkt earlier, pkts = pkt :: earlier →
    slot = earlier.length % maxAvgNum ∧
      info.cRssi[slot]? = some pkt.rssi ∧ info.cSnr[slot]? = some pkt.snr

theorem Stored.congr {info after : SingleDetectorInfo} {pkts : List LoraPkt}
    {slot : Nat} (h : Stored info pkts slot)
    (hrssi : after.cRssi = info.cRssi) (hsnr : after.cSnr = info.cSnr)
    (hptr : after.cPtr = info.cPtr) (hrecv : after.recvNum = info.recvNum) :
    Stored after pkts slot where
  sampled := h.sampled.congr hrssi hsnr hptr hrecv
  slot_eq pkt earlier hpkts := by
    rw [hrssi, hsnr]
    exact h.slot_eq pkt earlier hpkts

theorem stored_loaded {info : SingleDetectorInfo} (h : Sampled info [])
    (slot : Nat) : Stored info [] slot where
  sampled := h
  slot_eq _ _ hpkts := absurd hpkts.symm (List.cons_ne_nil _ _)

theorem Stored.heartBeat {info : SingleDetectorInfo} {pkts : List LoraPkt}
    {slot : Nat} (h : Stored info pkts slot) (pkt : LoraPkt) :
    Stored (heartBeatRecord pkt info) (pkt :: pkts) info.cPtr.toNat where
  sampled := h.sampled.heartBeat pkt
  slot_eq latest earlier hpkts := by
    obtain ⟨rfl, rfl⟩ := List.cons.inj hpkts
    have hplace := h.sampled.rssi.place_lt (by decide)
    obtain ⟨hrssi, hsnr, -⟩ := rings_heartBeatRecord pkt info
    refine ⟨?_, ?_, ?_⟩
    · rw [h.sampled.rssi.place_eq, List.length_map]
    · rw [hrssi, recordSignal, List.getElem?_set_self]
      rw [h.sampled.rssi.length_eq]
      exact hplace
    · rw [hsnr, recordSignal, List.getElem?_set_self]
      rw [h.sampled.snr.length_eq]
      exact hplace

def AllStored (history : History) : Prop :=
  ∀ place info, history.station.lora.detectors[place]? = some info →
    Stored info (history.pkts place) (history.slot place)

theorem allStored_message {history : History} {env : LoraEnv} {msg : LoraMsg}
    {station : Station} (h : AllStored history)
    (hstep : stationStep history.station (.message env msg) = some station) :
    AllStored (history.next station (.message env msg)) := by
  intro place after hafter
  obtain ⟨result, hresult, rfl⟩ := Option.map_eq_some_iff.mp hstep
  obtain ⟨info, hinfo, hrecord⟩ := dataProcess_recordStep hresult hafter
  have hstored := h place info hinfo
  have hfree : history.freeSlot place = info.cPtr.toNat := by
    rw [History.freeSlot, hinfo]
  simp only [History.next]
  cases hrecord with
  | same hreport =>
      rw [hreport]
      exact hstored
  | heartBeat pkt hreport =>
      rw [hreport, hfree]
      exact hstored.heartBeat pkt
  | restart hreport =>
      rw [hreport]
      exact hstored.congr rfl rfl rfl rfl
  | enterCfg hreport =>
      rw [hreport]
      exact hstored.congr rfl rfl rfl rfl
  | check hreport =>
      obtain ⟨hrssi, hsnr, hptr, hrecv⟩ := rings_checkDetector place info
      rw [hreport]
      exact hstored.congr hrssi hsnr hptr hrecv

theorem allStored_hour {history : History} (h : AllStored history)
    (env : ReportEnv) :
    AllStored (history.next (history.station.report env) (.hour env)) := by
  intro place after hafter
  simp only [History.next, detectors_report, List.getElem?_map,
    Option.map_eq_some_iff] at hafter
  obtain ⟨info, hinfo, rfl⟩ := hafter
  exact (h place info hinfo).congr rfl rfl rfl rfl

theorem allStored_run {station : Station} {inputs : List StationInput}
    {final : History} (hload : JustLoaded station.lora)
    (hrun : Run historyStep (fun _ _ => True) (.load station) inputs final) :
    AllStored final := by
  refine hrun.invariant ?_ fun place info hinfo =>
    stored_loaded (sampled_of_justLoaded hload hinfo) _
  intro history input next hhistory _ hstep
  obtain ⟨station, hstation, rfl⟩ := Option.map_eq_some_iff.mp hstep
  cases input with
  | message env msg => exact allStored_message hhistory hstation
  | hour env =>
      cases hstation
      exact allStored_hour hhistory env

/-! ## Where the report looks -/

structure LooksAtLatest (info : SingleDetectorInfo) (slot : Nat) : Prop where
  inside : (tmpPtr info).toNat < maxAvgNum
  latest : (tmpPtr info).toNat = slot

theorem tmpPtr_of_ne_zero {info : SingleDetectorInfo} (h : info.cPtr ≠ 0) :
    (tmpPtr info).toNat = info.cPtr.toNat - 1 := by
  have hpos : 1 ≤ info.cPtr := by
    rw [UInt8.le_iff_toNat_le]
    exact Nat.pos_of_ne_zero fun hzero => h (UInt8.toNat_inj.mp hzero)
  rw [tmpPtr, if_neg h, UInt8.toNat_sub_of_le _ _ hpos]
  rfl

theorem Stored.looksAtLatest_iff {info : SingleDetectorInfo}
    {pkts : List LoraPkt} {slot : Nat} (h : Stored info pkts slot)
    (hpkts : pkts ≠ []) :
    LooksAtLatest info slot ↔ pkts.length % 10 ≠ 0 := by
  obtain ⟨pkt, earlier, rfl⟩ := List.exists_cons_of_ne_nil hpkts
  have hplace : info.cPtr.toNat = (earlier.length + 1) % 10 := by
    simpa [maxAvgNum] using h.sampled.rssi.place_eq
  have hslot : slot = earlier.length % 10 := (h.slot_eq pkt earlier rfl).1
  rw [List.length_cons, ← hplace]
  constructor
  · intro hlooks hzero
    have hptr : tmpPtr info = UInt8.ofNat maxAvgNum :=
      if_pos (UInt8.toNat_inj.mp hzero)
    exact absurd hlooks.inside (by rw [hptr]; decide)
  · intro hne
    have hptr := tmpPtr_of_ne_zero fun hzero => hne (by rw [hzero]; rfl)
    constructor
    · rw [hptr, maxAvgNum]
      omega
    · rw [hptr]
      omega

def oneDetectorStation : Station :=
  ⟨oneDetector, ⟨2020, 1, 1, 0, 0, 0⟩, fun _ => 0⟩

theorem justLoaded_station : JustLoaded oneDetectorStation.lora :=
  justLoaded_oneDetector

def afterInputs (inputs : List StationInput) : Option History :=
  inputs.foldlM historyStep (.load oneDetectorStation)

def heardInputs (pkts : List LoraPkt) : List StationInput :=
  pkts.map fun pkt => .message .sample (.loraRecvData pkt)

end WncFirmware.WorkState
