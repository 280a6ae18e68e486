import Mathlib.Data.Finset.Card
import Mathlib.Order.Interval.Finset.Nat
import WncFirmware.Lora.Detectors

/-!
# Packet counters

A detector counts its packets in eight bits.  `refresh_detector_info` rebuilds
from these the number of packets sent, lost and repeated, as long as fewer than
255 packets are lost in a row.
-/

namespace WncFirmware.Lora

open WncFirmware.Foundation

/-! ## The true numbers of a session -/

/-- The packet behind `last` that arrives next, or `last` once more. -/
def Follows (last next : Nat) : Prop := last ≤ next ∧ next ≤ last + 255

def advances (last : Nat) : List Nat → Nat
  | [] => 0
  | next :: later =>
      (if next = last then 0 else 1) + advances next later

def lastNumber (last : Nat) : List Nat → Nat
  | [] => last
  | next :: later => lastNumber next later

/-- How often a number comes directly behind itself. -/
def immediateRepeats (numbers : List Nat) : Nat :=
  (numbers.zip numbers.tail).countP fun pair => pair.1 == pair.2

theorem advances_le {last : Nat} {later : List Nat}
    (h : (last :: later).IsChain Follows) :
    last + advances last later ≤ lastNumber last later := by
  induction later generalizing last with
  | nil => exact Nat.le_refl last
  | cons next later ih =>
      obtain ⟨⟨hle, -⟩, hlater⟩ := List.isChain_cons_cons.mp h
      have hrest := ih hlater
      rw [advances, lastNumber]
      split <;> omega

theorem immediateRepeats_cons (last : Nat) (later : List Nat) :
    immediateRepeats (last :: later) + advances last later =
      later.length := by
  induction later generalizing last with
  | nil => rfl
  | cons next later ih =>
      have hrest := ih next
      have hsplit : immediateRepeats (last :: next :: later) =
          immediateRepeats (next :: later) +
            if last = next then 1 else 0 := by
        simp [immediateRepeats, List.countP_cons]
      rw [hsplit, advances, List.length_cons]
      by_cases hsame : next = last
      · simp only [hsame, if_true] at hrest ⊢
        omega
      · simp only [hsame, Ne.symm hsame, if_false] at hrest ⊢
        omega

theorem le_of_mem {last number : Nat} {later : List Nat}
    (h : (last :: later).IsChain Follows) (hmem : number ∈ last :: later) :
    last ≤ number ∧ number ≤ lastNumber last later := by
  induction later generalizing last with
  | nil =>
      rw [List.mem_singleton] at hmem
      simp [hmem, lastNumber]
  | cons next later ih =>
      obtain ⟨⟨hle, -⟩, hlater⟩ := List.isChain_cons_cons.mp h
      have hend := advances_le hlater
      rw [lastNumber]
      rcases List.mem_cons.mp hmem with rfl | hmem
      · omega
      · have hnumber := ih hlater hmem
        omega

theorem card_numbers {last : Nat} {later : List Nat}
    (h : (last :: later).IsChain Follows) :
    (last :: later).toFinset.card = advances last later + 1 := by
  induction later generalizing last with
  | nil => rfl
  | cons next later ih =>
      obtain ⟨⟨hle, -⟩, hlater⟩ := List.isChain_cons_cons.mp h
      rw [List.toFinset_cons, advances]
      by_cases hsame : next = last
      · rw [if_pos hsame, Finset.insert_eq_of_mem, ih hlater, Nat.zero_add]
        simp [hsame]
      · have hfresh : last ∉ (next :: later).toFinset := by
          rw [List.mem_toFinset]
          intro hmem
          have hbelow := (le_of_mem hlater hmem).1
          omega
        rw [if_neg hsame, Finset.card_insert_of_notMem hfresh, ih hlater]
        omega

theorem card_missing {last : Nat} {later : List Nat}
    (h : (last :: later).IsChain Follows) :
    ((Finset.Icc last (lastNumber last later)).filter
        (· ∉ last :: later)).card =
      lastNumber last later - last - advances last later := by
  have hinside : (last :: later).toFinset ⊆
      Finset.Icc last (lastNumber last later) := by
    intro number hnumber
    rw [Finset.mem_Icc]
    exact le_of_mem h (List.mem_toFinset.mp hnumber)
  have hmissing : (Finset.Icc last (lastNumber last later)).filter
      (· ∉ last :: later) =
        Finset.Icc last (lastNumber last later) \ (last :: later).toFinset := by
    ext number
    simp
  rw [hmissing, Finset.card_sdiff_of_subset hinside, card_numbers h,
    Nat.card_Icc]
  omega

/-! ## One packet -/

def refreshAll (info : SingleDetectorInfo)
    (reports : List SingleDetectorInfo) : SingleDetectorInfo :=
  reports.foldl (fun info report => refreshDetectorInfo report info) info

theorem refreshAll_cons (info report : SingleDetectorInfo)
    (reports : List SingleDetectorInfo) :
    refreshAll info (report :: reports) =
      refreshAll (refreshDetectorInfo report info) reports := rfl

theorem missFrames_ofNat {last next : Nat} (h : Follows last next) :
    missFrames (UInt8.ofNat last) (UInt8.ofNat next) = next - last - 1 := by
  obtain ⟨hle, hnear⟩ := h
  have hlast : (UInt8.ofNat last).toNat = last % 256 := UInt8.toNat_ofNat'
  have hnext : (UInt8.ofNat next).toNat = next % 256 := UInt8.toNat_ofNat'
  simp only [missFrames, UInt8.lt_iff_toNat_lt, hlast, hnext]
  split
  · omega
  · split <;> omega

theorem ofNat_eq_iff {last next : Nat} (h : Follows last next) :
    UInt8.ofNat next = UInt8.ofNat last ↔ next = last := by
  obtain ⟨hle, hnear⟩ := h
  rw [← UInt8.toNat_inj, UInt8.toNat_ofNat', UInt8.toNat_ofNat']
  omega

theorem rounds_step {last next : Nat} (h : Follows last next) :
    next / 256 - last / 256 =
      if UInt8.ofNat next < UInt8.ofNat last then 1 else 0 := by
  obtain ⟨hle, hnear⟩ := h
  have hlast : (UInt8.ofNat last).toNat = last % 256 := UInt8.toNat_ofNat'
  have hnext : (UInt8.ofNat next).toNat = next % 256 := UInt8.toNat_ofNat'
  simp only [UInt8.lt_iff_toNat_lt, hlast, hnext]
  split <;> omega

/-- The record has heard the packet `last` of the session. -/
structure InSession (last : Nat) (info : SingleDetectorInfo) : Prop where
  flag : info.recvPackFlag = true
  cnt : info.cnt = UInt8.ofNat last

structure Grown (info after : SingleDetectorInfo)
    (rounds arrived missing repeated received : Nat) : Prop where
  rounds : after.rounds = info.rounds + UInt32.ofNat rounds
  absRecvNum : after.absRecvNum = info.absRecvNum + UInt32.ofNat arrived
  missRecvNum : after.missRecvNum = info.missRecvNum + UInt32.ofNat missing
  missSendNum : after.missSendNum = info.missSendNum + UInt32.ofNat repeated
  recvNum : after.recvNum = info.recvNum + UInt32.ofNat received
  firstCnt : after.firstCnt = info.firstCnt
  before : after.sendNumBeforeThisTime = info.sendNumBeforeThisTime

theorem Grown.refl (info : SingleDetectorInfo) : Grown info info 0 0 0 0 0 := by
  constructor <;> simp

theorem Grown.trans {first second third : SingleDetectorInfo}
    {rounds arrived missing repeated received : Nat}
    {rounds' arrived' missing' repeated' received' : Nat}
    (h : Grown first second rounds arrived missing repeated received)
    (h' : Grown second third rounds' arrived' missing' repeated' received') :
    Grown first third (rounds + rounds') (arrived + arrived')
      (missing + missing') (repeated + repeated') (received + received') where
  rounds := by
    rw [h'.rounds, h.rounds, UInt32.ofNat_add, UInt32.add_assoc]
  absRecvNum := by
    rw [h'.absRecvNum, h.absRecvNum, UInt32.ofNat_add, UInt32.add_assoc]
  missRecvNum := by
    rw [h'.missRecvNum, h.missRecvNum, UInt32.ofNat_add, UInt32.add_assoc]
  missSendNum := by
    rw [h'.missSendNum, h.missSendNum, UInt32.ofNat_add, UInt32.add_assoc]
  recvNum := by
    rw [h'.recvNum, h.recvNum, UInt32.ofNat_add, UInt32.add_assoc]
  firstCnt := h'.firstCnt.trans h.firstCnt
  before := h'.before.trans h.before

theorem sendNum_refreshAll {reports : List SingleDetectorInfo}
    (h : reports ≠ []) (info : SingleDetectorInfo) :
    (refreshAll info reports).sendNum =
      (refreshAll info reports).sendNumBeforeThisTime +
        sentPackets (refreshAll info reports) := by
  rw [refreshAll, ← List.dropLast_append_getLast h, List.foldl_append]
  rfl

theorem first_packet {number : Nat} {report info : SingleDetectorInfo}
    (hflag : info.recvPackFlag = false)
    (hcnt : report.cnt = UInt8.ofNat number) :
    let after := refreshDetectorInfo report info
    InSession number after ∧
      after.rounds = info.rounds ∧
      after.absRecvNum = info.absRecvNum + 1 ∧
      after.missRecvNum = info.missRecvNum ∧
      after.missSendNum = info.missSendNum ∧
      after.recvNum = info.recvNum + 1 ∧
      after.sendNumBeforeThisTime = info.sendNumBeforeThisTime ∧
      after.firstCnt = (UInt8.ofNat number).toUInt32 - 1 := by
  simp [refreshDetectorInfo, countPacket, hflag, hcnt, InSession.mk]

theorem next_packet {last next : Nat} {report info : SingleDetectorInfo}
    (h : Follows last next) (hin : InSession last info)
    (hcnt : report.cnt = UInt8.ofNat next) :
    InSession next (refreshDetectorInfo report info) ∧
      Grown info (refreshDetectorInfo report info)
        (next / 256 - last / 256) (if next = last then 0 else 1)
        (next - last - 1) (if next = last then 1 else 0) 1 := by
  have hsame := ofNat_eq_iff h
  rw [rounds_step h, ← missFrames_ofNat h]
  constructor
  · constructor
    · simp [refreshDetectorInfo, countPacket, hin.flag]
    · simp [refreshDetectorInfo, hcnt]
  · constructor
    · simp only [refreshDetectorInfo, countPacket, hin.flag, hcnt, hin.cnt,
        if_true]
      split <;> simp
    · simp only [refreshDetectorInfo, countPacket, hin.flag, hcnt, hin.cnt,
        hsame, if_true]
      split <;> simp
    · simp only [refreshDetectorInfo, countPacket, hin.flag, hcnt, hin.cnt,
        if_true]
    · simp only [refreshDetectorInfo, countPacket, hin.flag, hcnt, hin.cnt,
        hsame, if_true]
      split <;> simp
    · simp [refreshDetectorInfo]
    · simp [refreshDetectorInfo, countPacket, hin.flag]
    · simp [refreshDetectorInfo, countPacket, hin.flag]

/-! ## The whole session -/

/-- From the packet `last` on, each counter grows by what `later` has of it. -/
theorem later_packets {last : Nat} {later : List Nat}
    {reports : List SingleDetectorInfo} {info : SingleDetectorInfo}
    (h : (last :: later).IsChain Follows) (hin : InSession last info)
    (hreports : reports.map (·.cnt) = later.map UInt8.ofNat) :
    InSession (lastNumber last later) (refreshAll info reports) ∧
      Grown info (refreshAll info reports)
        (lastNumber last later / 256 - last / 256) (advances last later)
        (lastNumber last later - last - advances last later)
        (immediateRepeats (last :: later)) later.length := by
  induction later generalizing last reports info with
  | nil =>
      obtain rfl : reports = [] := by simpa using hreports
      simp only [lastNumber, advances, Nat.sub_self]
      exact ⟨hin, Grown.refl info⟩
  | cons next later ih =>
      obtain ⟨report, reports, rfl, hcnt, hcnts⟩ :=
        List.map_eq_cons_iff.mp hreports
      obtain ⟨hnext, hlater⟩ := List.isChain_cons_cons.mp h
      obtain ⟨hstep, hgrown⟩ := next_packet hnext hin hcnt
      obtain ⟨hend, hrest⟩ := ih hlater hstep hcnts
      refine ⟨hend, ?_⟩
      have hwhole := hgrown.trans hrest
      -- The five amounts add up along the chain.
      have hle := hnext.1
      have hreach := advances_le hlater
      have hrounds : next / 256 - last / 256 +
          (lastNumber next later / 256 - next / 256) =
            lastNumber next later / 256 - last / 256 := by
        have hlow := @Nat.div_le_div_right _ _ 256 hle
        have hhigh : next / 256 ≤ lastNumber next later / 256 :=
          Nat.div_le_div_right (by omega)
        omega
      have hmissing : next - last - 1 +
          (lastNumber next later - next - advances next later) =
            lastNumber next later - last -
              ((if next = last then 0 else 1) + advances next later) := by
        split <;> omega
      have hrepeats : (if next = last then 1 else 0) +
          immediateRepeats (next :: later) =
            immediateRepeats (last :: next :: later) := by
        have hshort := immediateRepeats_cons next later
        have hlong := immediateRepeats_cons last (next :: later)
        rw [advances, List.length_cons] at hlong
        by_cases hsame : next = last
        · rw [if_pos hsame] at hlong ⊢
          omega
        · rw [if_neg hsame] at hlong ⊢
          omega
      rw [hrounds, hmissing, hrepeats, Nat.add_comm 1] at hwhole
      exact hwhole

structure CountersRebuilt (info after : SingleDetectorInfo) (first : Nat)
    (rest : List Nat) : Prop where
  sendNum : after.sendNum - after.sendNumBeforeThisTime =
    UInt32.ofNat (lastNumber first rest - first + 1)
  before : after.sendNumBeforeThisTime = info.sendNumBeforeThisTime
  absRecvNum : after.absRecvNum =
    info.absRecvNum + UInt32.ofNat (first :: rest).toFinset.card
  missRecvNum : after.missRecvNum = info.missRecvNum +
    UInt32.ofNat ((Finset.Icc first (lastNumber first rest)).filter
      (· ∉ first :: rest)).card
  missSendNum : after.missSendNum =
    info.missSendNum + UInt32.ofNat (immediateRepeats (first :: rest))
  recvNum : after.recvNum =
    info.recvNum + UInt32.ofNat (first :: rest).length

/-- The counter and the rounds make up the distance to the first packet. -/
theorem sentPackets_session {first last : Nat} {info : SingleDetectorInfo}
    (hle : first ≤ last) (hcnt : info.cnt = UInt8.ofNat last)
    (hrounds : info.rounds = UInt32.ofNat (last / 256 - first / 256))
    (hfirst : info.firstCnt = (UInt8.ofNat first).toUInt32 - 1) :
    sentPackets info = UInt32.ofNat (last - first + 1) := by
  have hwide (number : Nat) :
      (UInt8.ofNat number).toUInt32 = UInt32.ofNat (number % 256) := by
    apply UInt32.toNat_inj.mp
    simp only [UInt8.toNat_toUInt32, UInt8.toNat_ofNat',
      UInt32.toNat_ofNat']
    omega
  have hsum : UInt32.ofNat (last - first + 1) + UInt32.ofNat (first % 256) =
      256 * UInt32.ofNat (last / 256 - first / 256) +
        UInt32.ofNat (last % 256) + 1 := by
    change _ = UInt32.ofNat 256 * _ + _ + UInt32.ofNat 1
    simp only [← UInt32.ofNat_add, ← UInt32.ofNat_mul]
    congr 1
    omega
  rw [sentPackets, hrounds, hcnt, hfirst, hwide, hwide]
  grind

/-- The counters of a session in which fewer than 255 packets are lost in a row
are those of the true packet numbers. -/
theorem session_counters_rebuilt (info : SingleDetectorInfo)
    (reports : List SingleDetectorInfo) (first : Nat) (rest : List Nat)
    (hflag : info.recvPackFlag = false) (hrounds : info.rounds = 0)
    (hchain : (first :: rest).IsChain Follows)
    (hreports : reports.map (·.cnt) = (first :: rest).map UInt8.ofNat) :
    CountersRebuilt info (refreshAll info reports) first rest := by
  obtain ⟨report, reports, rfl, hcnt, hcnts⟩ :=
    List.map_eq_cons_iff.mp hreports
  obtain ⟨hin, hround, harrived, hmiss, hrepeat, hrecv, hbefore,
    hfirst⟩ := first_packet hflag hcnt
  obtain ⟨hend, hgrown⟩ := later_packets hchain hin hcnts
  have hreach := advances_le hchain
  have hsend := sendNum_refreshAll (List.cons_ne_nil report reports) info
  have hsession : (refreshAll (refreshDetectorInfo report info) reports).rounds =
      UInt32.ofNat (lastNumber first rest / 256 - first / 256) := by
    rw [hgrown.rounds, hround, hrounds, UInt32.zero_add]
  rw [refreshAll_cons] at hsend ⊢
  constructor
  · rw [hsend, sentPackets_session (by omega) hend.cnt hsession
      (hgrown.firstCnt.trans hfirst)]
    grind
  · exact hgrown.before.trans hbefore
  · rw [hgrown.absRecvNum, harrived, card_numbers hchain, Nat.add_comm,
      UInt32.ofNat_add, UInt32.add_assoc]
    rfl
  · rw [hgrown.missRecvNum, hmiss, card_missing hchain]
  · rw [hgrown.missSendNum, hrepeat]
  · rw [hgrown.recvNum, hrecv, List.length_cons, Nat.add_comm,
      UInt32.ofNat_add, UInt32.add_assoc]
    rfl

theorem wrapped_counter_rebuilt :
    CountersRebuilt { id := 1 }
      (refreshAll { id := 1 } [{ id := 1, cnt := 254 }, { id := 1, cnt := 254 },
        { id := 1, cnt := 1 }]) 254 [254, 257] :=
  session_counters_rebuilt { id := 1 } _ 254 [254, 257] rfl rfl
    (by simp [Follows]) (by decide)

end WncFirmware.Lora
