import WncFirmware.Device
import WncFirmware.Foundation.Runs
import WncFirmware.Lora.DataProcess

/-!
# Packet accounting

`send_num` is derived from the eight-bit counter of the detector, and
`abs_recv_num` and `miss_recv_num` are counted packet by packet.  They agree as
long as no restart is reported twice.
-/

namespace WncFirmware.Lora

open WncFirmware.Foundation

def Accounted (info : SingleDetectorInfo) : Prop :=
  info.sendNum = info.absRecvNum + info.missRecvNum

/--
The invariant behind it.  Between a restart and the first packet after it the
total carried over stands for all packets.
-/
structure Balanced (info : SingleDetectorInfo) : Prop where
  accounted : Accounted info
  running : info.recvPackFlag = true →
    info.sendNumBeforeThisTime + sentPackets info =
      info.absRecvNum + info.missRecvNum
  restarted : info.recvPackFlag = false →
    info.sendNumBeforeThisTime = info.absRecvNum + info.missRecvNum ∧
      info.rounds = 0

/-! ## One heartbeat -/

/-- How far the counter has moved from `last` to `cnt`. -/
def advance (last cnt : UInt8) : Nat :=
  if cnt < last then cnt.toNat + 256 - last.toNat else cnt.toNat - last.toNat

theorem missFrames_eq_advance {last cnt : UInt8} (h : cnt ≠ last) :
    missFrames last cnt + 1 = advance last cnt := by
  have hlast := last.toNat_lt
  have hne : cnt.toNat ≠ last.toNat := fun heq => h (UInt8.toNat_inj.mp heq)
  simp only [missFrames, advance, UInt8.lt_iff_toNat_lt]
  grind

theorem missFrames_self (cnt : UInt8) : missFrames cnt cnt = 0 := by
  simp [missFrames]

theorem counter_advance (last cnt : UInt8) (rounds : UInt32) :
    256 * (if cnt < last then rounds + 1 else rounds) + cnt.toUInt32 =
      256 * rounds + last.toUInt32 + UInt32.ofNat (advance last cnt) := by
  have hnat : (if cnt < last then 256 else 0) + cnt.toNat =
      last.toNat + advance last cnt := by
    have hlast := last.toNat_lt
    simp only [advance, UInt8.lt_iff_toNat_lt]
    split <;> omega
  have hword := congrArg UInt32.ofNat hnat
  rw [UInt32.ofNat_add, UInt32.ofNat_add, UInt32.ofNat_uInt8ToNat,
    UInt32.ofNat_uInt8ToNat] at hword
  rw [UInt32.add_assoc, ← hword]
  split
  · show 256 * (rounds + 1) + cnt.toUInt32 =
      256 * rounds + (256 + cnt.toUInt32)
    grind
  · show 256 * rounds + cnt.toUInt32 = 256 * rounds + (0 + cnt.toUInt32)
    grind

theorem sentPackets_refresh {nodeInfo info : SingleDetectorInfo}
    (hflag : info.recvPackFlag = true) :
    sentPackets (refreshDetectorInfo nodeInfo info) =
      sentPackets info + UInt32.ofNat (advance info.cnt nodeInfo.cnt) := by
  have hcounter := counter_advance info.cnt nodeInfo.cnt info.rounds
  simp only [sentPackets, refreshDetectorInfo, countPacket, hflag, if_true]
  rw [hcounter]
  grind

theorem counted_refresh {nodeInfo info : SingleDetectorInfo}
    (hflag : info.recvPackFlag = true) :
    (refreshDetectorInfo nodeInfo info).absRecvNum +
        (refreshDetectorInfo nodeInfo info).missRecvNum =
      info.absRecvNum + info.missRecvNum +
        UInt32.ofNat (advance info.cnt nodeInfo.cnt) := by
  simp only [refreshDetectorInfo, countPacket, hflag, if_true]
  by_cases hcnt : nodeInfo.cnt = info.cnt
  · simp [hcnt, missFrames_self, advance]
  · rw [if_neg hcnt, ← missFrames_eq_advance hcnt, UInt32.ofNat_add]
    show _ = _ + (_ + 1)
    grind

theorem balanced_refresh {info : SingleDetectorInfo}
    (nodeInfo : SingleDetectorInfo) (h : Balanced info) :
    Balanced (refreshDetectorInfo nodeInfo info) := by
  have hflag : (refreshDetectorInfo nodeInfo info).recvPackFlag = true := by
    simp only [refreshDetectorInfo, countPacket]
    split
    · assumption
    · rfl
  have hbefore : (refreshDetectorInfo nodeInfo info).sendNumBeforeThisTime =
      info.sendNumBeforeThisTime := by
    simp only [refreshDetectorInfo, countPacket]
    split <;> rfl
  have hsum : info.sendNumBeforeThisTime +
      sentPackets (refreshDetectorInfo nodeInfo info) =
        (refreshDetectorInfo nodeInfo info).absRecvNum +
          (refreshDetectorInfo nodeInfo info).missRecvNum := by
    cases hrunning : info.recvPackFlag with
    | true =>
        rw [sentPackets_refresh hrunning, counted_refresh hrunning,
          ← h.running hrunning]
        grind
    | false =>
        obtain ⟨htotal, hrounds⟩ := h.restarted hrunning
        simp only [sentPackets, refreshDetectorInfo, countPacket, hrunning]
        rw [htotal]
        simp only [Bool.false_eq_true, if_false, hrounds]
        grind
  constructor
  · rw [Accounted, ← hsum, ← hbefore]
    rfl
  · intro _
    rw [hbefore, hsum]
  · intro hrestarted
    rw [hflag] at hrestarted
    cases hrestarted

/-! ## The other steps of a detector -/

theorem balanced_restart {info : SingleDetectorInfo} (h : Balanced info)
    (hfresh : info.recvPackFlag = true ∨
      info.cnt.toUInt32 = info.firstCnt) :
    Balanced (restartDetector info) := by
  have htotal : info.sendNumBeforeThisTime + sentPackets info =
      info.absRecvNum + info.missRecvNum := by
    cases hrunning : info.recvPackFlag with
    | true => exact h.running hrunning
    | false =>
        obtain ⟨hbefore, hrounds⟩ := h.restarted hrunning
        have hcnt : info.cnt.toUInt32 = info.firstCnt := by
          simpa [hrunning] using hfresh
        rw [hbefore, sentPackets, hrounds, hcnt]
        grind
  constructor
  · exact h.accounted
  · intro hrunning
    cases hrunning
  · intro _
    exact ⟨htotal, rfl⟩

def SameCounts (first second : SingleDetectorInfo) : Prop :=
  first.sendNum = second.sendNum ∧ first.absRecvNum = second.absRecvNum ∧
    first.missRecvNum = second.missRecvNum ∧
    first.sendNumBeforeThisTime = second.sendNumBeforeThisTime ∧
    first.rounds = second.rounds ∧ first.cnt = second.cnt ∧
    first.firstCnt = second.firstCnt ∧
    first.recvPackFlag = second.recvPackFlag

theorem Balanced.congr {first second : SingleDetectorInfo}
    (h : Balanced second) (hsame : SameCounts first second) :
    Balanced first := by
  obtain ⟨hsend, habs, hmiss, hbefore, hrounds, hcnt, hfirst, hflag⟩ := hsame
  have hsent : sentPackets first = sentPackets second := by
    rw [sentPackets, hrounds, hcnt, hfirst, sentPackets]
  constructor
  · rw [Accounted, hsend, habs, hmiss]
    exact h.accounted
  · rw [hflag, hbefore, hsent, habs, hmiss]
    exact h.running
  · rw [hflag, hbefore, habs, hmiss, hrounds]
    exact h.restarted

theorem balanced_heartBeat {info : SingleDetectorInfo} (pkt : LoraPkt)
    (h : Balanced info) : Balanced (heartBeatRecord pkt info) :=
  balanced_refresh _ (h.congr ⟨rfl, rfl, rfl, rfl, rfl, rfl, rfl, rfl⟩)

theorem sameCounts_checkDetector (place : Nat) (info : SingleDetectorInfo) :
    SameCounts (checkDetector place info).1 info := by
  unfold checkDetector
  split
  · exact ⟨rfl, rfl, rfl, rfl, rfl, rfl, rfl, rfl⟩
  · split <;> exact ⟨rfl, rfl, rfl, rfl, rfl, rfl, rfl, rfl⟩

/-! ## All detectors, over whole runs -/

def AllBalanced (state : LoraState) : Prop :=
  ∀ info ∈ state.detectors, Balanced info

theorem findDetector?_getElem? {state : LoraState} {id : UInt32} {place : Nat}
    {info : SingleDetectorInfo}
    (h : state.findDetector? id = some (place, info)) :
    state.detectors[place]? = some info := by
  obtain ⟨found, -, hmap⟩ := Option.bind_eq_some_iff.mp h
  obtain ⟨record, hrecord, hpair⟩ := Option.map_eq_some_iff.mp hmap
  cases hpair
  exact hrecord

theorem allBalanced_modifyDetector {state : LoraState} {place : Nat}
    {change : SingleDetectorInfo → SingleDetectorInfo}
    (h : AllBalanced state)
    (hchange : ∀ info, state.detectors[place]? = some info → Balanced info →
      Balanced (change info)) :
    AllBalanced (state.modifyDetector place change) := by
  intro info hinfo
  obtain ⟨position, hposition⟩ := List.mem_iff_getElem?.mp hinfo
  have hmodify : (state.detectors.modify place change)[position]? = some info :=
    hposition
  rw [List.getElem?_modify] at hmodify
  obtain ⟨old, hold, hnew⟩ := Option.map_eq_some_iff.mp hmodify
  have hbalanced := h old (List.mem_of_getElem? hold)
  split at hnew
  · subst hnew
    rename_i hplace
    subst hplace
    exact hchange old hold hbalanced
  · subst hnew
    exact hbalanced

theorem allBalanced_check {state : LoraState} (h : AllBalanced state) :
    AllBalanced (checkLoraNodeConnect state).1 := by
  intro info hinfo
  obtain ⟨pair, hpair, rfl⟩ := List.mem_map.mp hinfo
  obtain ⟨place, hplace, rfl⟩ := List.mem_mapIdx.mp hpair
  exact (h _ (List.getElem_mem hplace)).congr (sameCounts_checkDetector _ _)

theorem analyseLightState_detectors {env : LoraEnv} {state : LoraState}
    {result : LoraResult} (h : analyseLightState env state = some result) :
    result.1.detectors = state.detectors := by
  unfold analyseLightState at h
  dsimp only at h
  split at h
  · cases h
    rfl
  · cases h

/--
A restart is reported once: a packet has come since the last report, or the
counter stands where the session began.
-/
def RestartOnce (state : LoraState) (input : LoraInput) : Prop :=
  ∀ pkt, input.2 = .loraRecvData pkt → state.Hears pkt →
    pkt.cmd? = some .nodeOnline →
    ∀ place info, state.findDetector? pkt.nodeId = some (place, info) →
      info.recvPackFlag = true ∨ info.cnt.toUInt32 = info.firstCnt

theorem allBalanced_acts {env : LoraEnv} {state next : LoraState}
    {msg : LoraMsg} (h : AllBalanced state)
    (hguard : RestartOnce state (env, msg)) (hacts : Acts env state msg next) :
    AllBalanced next := by
  cases hacts with
  | none _ _ hsame =>
      intro info hinfo
      rw [LoraState.detectors, hsame.1] at hinfo
      exact h info hinfo
  | heartBeat pkt place info hhears hcmd hfind =>
      exact allBalanced_modifyDetector h fun _ _ => balanced_heartBeat pkt
  | lightReport pkt _ hhears hcmd hnext =>
      subst hnext
      unfold lightReported
      dsimp only
      split <;> exact h
  | restart pkt place info hhears hcmd hfind =>
      have hplace := findDetector?_getElem? hfind
      refine allBalanced_modifyDetector h fun record hrecord hbalanced => ?_
      obtain rfl : info = record := Option.some.inj (hplace.symm.trans hrecord)
      exact balanced_restart hbalanced
        (hguard pkt rfl hhears hcmd place info hfind)
  | enterCfg pkt place info hhears hcmd hfind =>
      exact allBalanced_modifyDetector h fun record _ hbalanced =>
        hbalanced.congr ⟨rfl, rfl, rfl, rfl, rfl, rfl, rfl, rfl⟩
  | check => exact allBalanced_check h
  | scan result hscan =>
      intro info hinfo
      rw [analyseLightState_detectors hscan] at hinfo
      exact h info hinfo

/-- The detector list was just read from the configuration files. -/
def JustLoaded (state : LoraState) : Prop :=
  ∃ device, state.parkingLists = (initParkingLists device).parkingLists

theorem allBalanced_of_justLoaded {state : LoraState} (h : JustLoaded state) :
    AllBalanced state := by
  obtain ⟨device, hlists⟩ := h
  intro info hinfo
  rw [LoraState.detectors, hlists, detectorInfo_initParkingLists] at hinfo
  obtain ⟨id, -, rfl⟩ := List.mem_map.mp hinfo
  constructor
  · rfl
  · intro hrunning
    cases hrunning
  · intro _
    exact ⟨rfl, rfl⟩

theorem packets_accounted {start final : LoraState} {inputs : List LoraInput}
    (hload : JustLoaded start)
    (hrun : Run loraStep RestartOnce start inputs final) :
    ∀ info ∈ final.detectors, Accounted info := by
  have hbalanced : AllBalanced final := by
    apply hrun.invariant _ (allBalanced_of_justLoaded hload)
    intro state input next hstate hguard hstep
    exact allBalanced_acts hstate hguard (loraStep_acts hstep)
  exact fun info hinfo => (hbalanced info hinfo).accounted

/-- A device with the single detector 1. -/
def oneDetectorDevice : Device :=
  Device.cold (configuredFlash [] [] (ascii "1;448\n")) ⟨448, []⟩

def oneDetector : LoraState :=
  { LoraState.initial with
    parkingLists := (initParkingLists oneDetectorDevice).parkingLists }

theorem justLoaded_oneDetector : JustLoaded oneDetector :=
  ⟨oneDetectorDevice, rfl⟩

def firstHeartBeat : LoraPkt :=
  nodePkt 1 .detectorHeartBeat [0, 100, 0, 1, 0]

def restartNotice : LoraPkt := nodePkt 1 .nodeOnline []

def heard (pkts : List LoraPkt) (state : LoraState) : LoraState :=
  pkts.foldl (fun state pkt => (analyzeLoraPkt .sample state pkt).1) state

def hearInputs (pkts : List LoraPkt) : List LoraInput :=
  pkts.map fun pkt => (.sample, .loraRecvData pkt)

theorem run_heard (pkts : List LoraPkt) (state : LoraState) :
    Run loraStep (fun _ _ => True) state (hearInputs pkts)
      (heard pkts state) := by
  induction pkts generalizing state with
  | nil => exact .nil state
  | cons pkt pkts ih => exact .cons trivial rfl (ih _)

theorem packets_accounted_one_restart :
    JustLoaded oneDetector ∧
      ∀ info ∈ (heard [firstHeartBeat, restartNotice] oneDetector).detectors,
        Accounted info := by
  have hrun : Run loraStep RestartOnce oneDetector
      (hearInputs [firstHeartBeat, restartNotice])
      (heard [firstHeartBeat, restartNotice] oneDetector) := by
    refine .cons ?_ rfl (.cons ?_ rfl (.nil _))
    · rintro pkt ⟨⟩ - hcmd
      exact absurd hcmd (by decide +kernel)
    · rintro pkt ⟨⟩ - - place info hfind
      have hfound : ((heard [firstHeartBeat] oneDetector).findDetector?
          restartNotice.nodeId).map (·.2.recvPackFlag) = some true := by
        decide +kernel
      have hrecord : (heard [firstHeartBeat] oneDetector).findDetector?
          restartNotice.nodeId = some (place, info) := hfind
      rw [hrecord] at hfound
      left
      simpa using hfound
  exact ⟨justLoaded_oneDetector, packets_accounted justLoaded_oneDetector hrun⟩

theorem repeated_restart_not_accounted :
    JustLoaded oneDetector ∧
      Run loraStep (fun _ _ => True) oneDetector
        (hearInputs [firstHeartBeat, restartNotice, restartNotice,
          firstHeartBeat])
        (heard [firstHeartBeat, restartNotice, restartNotice, firstHeartBeat]
          oneDetector) ∧
      ¬∀ info ∈ (heard [firstHeartBeat, restartNotice, restartNotice,
          firstHeartBeat] oneDetector).detectors, Accounted info := by
  refine ⟨justLoaded_oneDetector, run_heard _ _, ?_⟩
  have hcounts : (heard [firstHeartBeat, restartNotice, restartNotice,
      firstHeartBeat] oneDetector).detectors.map (fun info =>
        (info.sendNum, info.absRecvNum, info.missRecvNum)) = [(3, 2, 0)] := by
    decide +kernel
  intro h
  obtain ⟨info, hinfo, hcount⟩ := List.mem_map.mp
    (hcounts ▸ List.mem_singleton_self (3, 2, 0))
  have haccounted := h info hinfo
  simp only [Prod.mk.injEq] at hcount
  rw [Accounted, hcount.1, hcount.2.1, hcount.2.2] at haccounted
  revert haccounted
  decide

end WncFirmware.Lora
