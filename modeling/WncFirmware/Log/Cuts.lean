import WncFirmware.Log.Recovery

/-!
# Power cuts while a log is written

A `log_write` that is interrupted leaves the effect of the first operations of
its list.  A sector is in use when its header says so.
-/

namespace WncFirmware

open WncFirmware.Foundation

variable {type : LogType}

/-! ## What an interrupted write leaves -/

/-- The operations that still go to the sector which is open at the start. -/
def openPasses (length : Nat) : Nat := if SectorFull length then 0 else 1

/-- The sectors with a header after `cut` operations of a `log_write`. -/
def openedAtCut (length cut : Nat) : Nat :=
  sectorCount length + (cut + 1 - openPasses length) / 3

def ErasedAtCut (length cut : Nat) : Prop := (cut - openPasses length) % 3 = 1

instance (length cut : Nat) : Decidable (ErasedAtCut length cut) :=
  inferInstanceAs (Decidable (_ = 1))

def keptAtCut (type : LogType) (length cut : Nat) : Nat :=
  if ErasedAtCut length cut then type.sectorNum - 1 else type.sectorNum

theorem openPasses_le (length : Nat) : openPasses length ≤ 1 := by
  unfold openPasses
  split <;> omega

theorem openedAtCut_zero (length : Nat) :
    openedAtCut length 0 = sectorCount length := by
  rw [openedAtCut]
  omega

theorem keptAtCut_zero (type : LogType) (length : Nat) :
    keptAtCut type length 0 = type.sectorNum := by
  rw [keptAtCut, if_neg]
  rw [ErasedAtCut]
  omega

/-- The counts of a cut behind the first pass are those of the later passes. -/
theorem openedAtCut_later (type : LogType)
    {length count cut passes : Nat} (hpos : 0 < count)
    (hroom : count ≤ sectorRoom length)
    (hend : cut = 0 ∨ SectorFull (length + count))
    (hpasses : passes = if SectorFull length then 3 else 1) :
    openedAtCut length (cut + passes) = openedAtCut (length + count) cut ∧
      keptAtCut type length (cut + passes) =
        keptAtCut type (length + count) cut := by
  have hfirst := openPasses_le (length + count)
  have hlater : cut = 0 ∨ openPasses (length + count) = 0 := by
    rcases hend with hzero | hfull
    · exact .inl hzero
    · exact .inr (if_pos hfull)
  by_cases hfull : SectorFull length
  · have hcount := sectorCount_full hfull hpos hroom
    have hopen : openPasses length = 0 := if_pos hfull
    rw [if_pos hfull] at hpasses
    have herased : ErasedAtCut length (cut + passes) ↔
        ErasedAtCut (length + count) cut := by
      simp only [ErasedAtCut]
      omega
    constructor
    · rw [openedAtCut, openedAtCut, hcount]
      omega
    · simp only [keptAtCut, herased]
  · have hcount := sectorCount_inside hfull hroom
    have hopen : openPasses length = 1 := if_neg hfull
    rw [if_neg hfull] at hpasses
    have herased : ErasedAtCut length (cut + passes) ↔
        ErasedAtCut (length + count) cut := by
      simp only [ErasedAtCut]
      omega
    constructor
    · rw [openedAtCut, openedAtCut, hcount]
      omega
    · simp only [keptAtCut, herased]

theorem LogStores.cut_first_pass {history : Bytes} {info : LogInfo type}
    {flash : Memory} (h : LogStores history info flash) {cut : Nat}
    (hcut : cut ≤ info.openSector.2.length) :
    RingStores type history (openedAtCut history.length cut)
      (keptAtCut type history.length cut)
      (applyOps flash (info.openSector.2.take cut)) := by
  by_cases hfull : SectorFull history.length
  · have hopen : openPasses history.length = 0 := if_pos hfull
    rw [(h.openSector_full hfull).1] at hcut ⊢
    match cut with
    | 0 =>
        rw [openedAtCut_zero, keptAtCut_zero]
        exact h.stores
    | 1 =>
        have hkept : keptAtCut type history.length 1 = type.sectorNum - 1 := by
          rw [keptAtCut, if_pos]
          rw [ErasedAtCut, hopen]
        rw [openedAtCut, hopen, hkept]
        exact h.stores.erase
    | 2 =>
        have hkept : keptAtCut type history.length 2 = type.sectorNum := by
          rw [keptAtCut, if_neg]
          rw [ErasedAtCut, hopen]
          decide
        rw [openedAtCut, hopen, hkept]
        exact h.stores.erase.header hfull
    | cut + 3 =>
        simp at hcut
  · rw [h.openSector_inside hfull] at hcut ⊢
    obtain rfl := Nat.le_zero.mp hcut
    rw [openedAtCut_zero, keptAtCut_zero]
    exact h.stores

theorem LogStores.length_openSector {history : Bytes} {info : LogInfo type}
    {flash : Memory} (h : LogStores history info flash) :
    info.openSector.2.length + 1 =
      if SectorFull history.length then 3 else 1 := by
  split
  case isTrue hfull =>
    rw [(h.openSector_full hfull).1]
    rfl
  case isFalse hinside =>
    rw [h.openSector_inside hinside]
    rfl

theorem logWriteLoop_nil (fuel : Nat) (info : LogInfo type) :
    logWriteLoop fuel info [] = (info, []) := by
  cases fuel <;> rfl

theorem take_append_cons {Item : Type} (front : List Item) (item : Item)
    (back : List Item) (count : Nat) :
    (front ++ item :: back).take (count + (front.length + 1)) =
      front ++ item :: back.take count := by
  rw [List.take_append, List.take_of_length_le (by omega),
    show count + (front.length + 1) - front.length = count + 1 by omega,
    List.take_succ_cons]

theorem logWriteLoop_cut {fuel cut : Nat} {history bytes : Bytes}
    {info : LogInfo type} {flash : Memory} (hfuel : bytes.length ≤ fuel)
    (h : LogStores history info flash)
    (hcut : cut ≤ (logWriteLoop fuel info bytes).2.length) :
    ∃ done, RingStores type (history ++ bytes.take done)
      (openedAtCut history.length cut) (keptAtCut type history.length cut)
      (applyOps flash ((logWriteLoop fuel info bytes).2.take cut)) := by
  induction fuel generalizing history bytes info flash cut with
  | zero =>
      obtain rfl := Nat.le_zero.mp hcut
      refine ⟨0, ?_⟩
      rw [openedAtCut_zero, keptAtCut_zero, List.take_zero, List.append_nil]
      exact h.stores
  | succ fuel ih =>
      by_cases hne : bytes = []
      · rw [logWriteLoop, if_pos hne] at hcut ⊢
        obtain rfl := Nat.le_zero.mp hcut
        refine ⟨0, ?_⟩
        rw [openedAtCut_zero, keptAtCut_zero, List.take_zero, List.append_nil]
        exact h.stores
      · obtain ⟨count, later, hpos, hle, hroom, hend, hpass, heq⟩ :=
          h.loop_pass hne fuel
        rw [heq] at hcut ⊢
        rcases Nat.lt_or_ge info.openSector.2.length cut with hbehind | hinside
        · obtain ⟨rest, rfl⟩ := Nat.exists_eq_add_of_le'
            (show info.openSector.2.length + 1 ≤ cut by omega)
          have hrest : rest ≤
              (logWriteLoop fuel later (bytes.drop count)).2.length := by
            rw [List.length_append, List.length_cons] at hcut
            omega
          have hstop : rest = 0 ∨ SectorFull (history.length + count) := by
            rcases hend with hall | hfull
            · left
              rw [hall, List.drop_length, logWriteLoop_nil] at hrest
              exact Nat.le_zero.mp hrest
            · exact .inr hfull
          obtain ⟨hopened, hkept⟩ := openedAtCut_later type hpos hroom hstop
            h.length_openSector
          have hlength : (history ++ bytes.take count).length =
              history.length + count := by
            rw [List.length_append, List.length_take, Nat.min_eq_left hle]
          have hdrop : (bytes.drop count).length ≤ fuel := by
            rw [List.length_drop]
            omega
          obtain ⟨done, hdone⟩ := ih hdrop hpass hrest
          rw [hlength, ← hopened, ← hkept, List.append_assoc,
            ← List.take_add] at hdone
          refine ⟨count + done, ?_⟩
          rw [take_append_cons, applyOps_append, applyOps_cons]
          exact hdone
        · refine ⟨0, ?_⟩
          rw [List.take_zero, List.append_nil,
            List.take_append_of_le_length hinside]
          exact h.cut_first_pass hinside

/-! ## A log in order -/

def InUse (type : LogType) (flash : Memory) (place : Nat) : Prop :=
  place < type.sectorNum ∧
    (readHeader flash (type.sectorAddr place)).used = sectorUseFlag

def serialAt (type : LogType) (flash : Memory) (place : Nat) : UInt16 :=
  (readHeader flash (type.sectorAddr place)).sn

def Newest (type : LogType) (flash : Memory) (place : Nat) : Prop :=
  InUse type flash place ∧ ∀ other, InUse type flash other → other ≠ place →
    snAfter (serialAt type flash place) (serialAt type flash other) = true

def Oldest (type : LogType) (flash : Memory) (place : Nat) : Prop :=
  InUse type flash place ∧ ∀ other, InUse type flash other → other ≠ place →
    snAfter (serialAt type flash other) (serialAt type flash place) = true

def LogInfo.nextPlace (info : LogInfo type) : Nat :=
  (info.writeOffset + flashBytesPerSector - 1) / flashBytesPerSector %
    type.sectorNum

structure InOrder (flash : Memory) (info : LogInfo type) : Prop where
  nextSn_later : ∀ place, InUse type flash place →
    snAfter info.nextSn (serialAt type flash place) = true
  writes_newest : ∀ place, Newest type flash place →
    place * flashBytesPerSector < info.writeOffset ∧
      info.writeOffset ≤ (place + 1) * flashBytesPerSector
  overwrites_oldest : InUse type flash info.nextPlace →
    Oldest type flash info.nextPlace
  reads_oldest : ∀ place, Oldest type flash place →
    (prepareRead flash info).readOffset = place * flashBytesPerSector

section Order

variable {history : Bytes} {opened kept : Nat} {flash : Memory}

theorem RingStores.inUse_iff (h : RingStores type history opened kept flash)
    (place : Nat) :
    InUse type flash place ↔
      ∃ number, InWindow opened kept number ∧
        number % type.sectorNum = place := by
  constructor
  · rintro ⟨hlt, hused⟩
    by_contra hnone
    push Not at hnone
    exact readHeader_erased (h.free place hlt hnone) hused
  · rintro ⟨number, hwindow, rfl⟩
    refine ⟨Nat.mod_lt _ type.sectorNum_pos, ?_⟩
    rw [h.readHeader_held hwindow]

theorem RingStores.serialAt_held
    (h : RingStores type history opened kept flash) {number : Nat}
    (hwindow : InWindow opened kept number) :
    serialAt type flash (number % type.sectorNum) = UInt16.ofNat number := by
  rw [serialAt, h.readHeader_held hwindow]

theorem RingStores.newest_place {newest place : Nat}
    (h : RingStores type history (newest + 1) kept flash)
    (hkept : 0 < kept) (hopened : newest < 32768)
    (hnewest : Newest type flash place) :
    place = newest % type.sectorNum := by
  have hlast : InWindow (newest + 1) kept newest := by
    simp only [InWindow]
    omega
  obtain ⟨hused, hlater⟩ := hnewest
  obtain ⟨number, hwindow, rfl⟩ := (h.inUse_iff place).mp hused
  by_contra hne
  have hafter := hlater (newest % type.sectorNum)
    ((h.inUse_iff _).mpr ⟨newest, hlast, rfl⟩) (fun heq => hne heq.symm)
  have hlt := hwindow.1
  rw [h.serialAt_held hwindow, h.serialAt_held hlast,
    snAfter_ofNat (by omega) hopened] at hafter
  have hbelow := of_decide_eq_true hafter
  omega

theorem RingStores.oldest_iff {oldest place : Nat}
    (h : RingStores type history opened kept flash)
    (hwindow : InWindow opened kept oldest)
    (holdest : ∀ number, InWindow opened kept number → oldest ≤ number)
    (hopened : opened ≤ 32768) :
    Oldest type flash place ↔ place = oldest % type.sectorNum := by
  have hlt := hwindow.1
  constructor
  · rintro ⟨hused, hearlier⟩
    obtain ⟨number, hnumber, rfl⟩ := (h.inUse_iff place).mp hused
    by_contra hne
    have hafter := hearlier (oldest % type.sectorNum)
      ((h.inUse_iff _).mpr ⟨oldest, hwindow, rfl⟩) (fun heq => hne heq.symm)
    have hle := holdest number hnumber
    have hnumber_lt := hnumber.1
    rw [h.serialAt_held hnumber, h.serialAt_held hwindow,
      snAfter_ofNat (by omega) (by omega)] at hafter
    have hbelow := of_decide_eq_true hafter
    omega
  · rintro rfl
    refine ⟨(h.inUse_iff _).mpr ⟨oldest, hwindow, rfl⟩, ?_⟩
    intro other hused hne
    obtain ⟨number, hnumber, rfl⟩ := (h.inUse_iff other).mp hused
    have hle := holdest number hnumber
    have hnumber_lt := hnumber.1
    have hdistinct : number ≠ oldest := fun heq => hne (by rw [heq])
    rw [h.serialAt_held hnumber, h.serialAt_held hwindow,
      snAfter_ofNat (by omega) (by omega)]
    exact decide_eq_true (by omega)

theorem inOrder_of_unused (info : LogInfo type)
    (h : ∀ place, ¬InUse type flash place) : InOrder flash info where
  nextSn_later := fun place hused => absurd hused (h place)
  writes_newest := fun place hnewest => absurd hnewest.1 (h place)
  overwrites_oldest := fun hused => absurd hused (h _)
  reads_oldest := fun place holdest => absurd holdest.1 (h place)

theorem RingStores.inOrder {newest stop : Nat}
    (h : RingStores type history (newest + 1) kept flash)
    (hscan : ScanStops type.sectorNum (newest + 1) kept stop)
    (hkept : 0 < kept) (hseen : newest % type.sectorNum < stop)
    (hseen_oldest : (newest + 1 - kept) % type.sectorNum < stop)
    (hopened : newest + 1 < 32768) (hbytes : ∀ byte ∈ history, byte ≠ 0xff) :
    InOrder flash (perpareWriteInfo flash type) := by
  obtain ⟨hsn, hoffset⟩ :=
    h.perpareWriteInfo_newest hscan hkept hseen (by omega) hbytes
  have hlow : newest * sectorPayloadSize ≤ history.length := h.opened_low
  have hhigh := h.opened_high
  have hposition : (perpareWriteInfo flash type).writeOffset =
      newest % type.sectorNum * flashBytesPerSector + sectorHeaderSize +
        (history.length - newest * sectorPayloadSize) := by
    rw [hoffset, writePosition, if_neg (Nat.succ_ne_zero newest),
      Nat.add_sub_cancel]
  have hnext : (perpareWriteInfo flash type).nextPlace =
      (newest + 1) % type.sectorNum := by
    have hsector : ((perpareWriteInfo flash type).writeOffset +
        flashBytesPerSector - 1) / flashBytesPerSector =
        newest % type.sectorNum + 1 := by
      rw [hposition]
      simp only [sectorPayloadSize_eq, flashBytesPerSector,
        sectorHeaderSize] at *
      omega
    rw [LogInfo.nextPlace, hsector, Nat.mod_add_mod]
  have hwindow : InWindow (newest + 1) kept (newest + 1 - kept) := by
    simp only [InWindow]
    omega
  have holdest : ∀ number, InWindow (newest + 1) kept number →
      newest + 1 - kept ≤ number := by
    intro number hnumber
    simp only [InWindow] at hnumber
    omega
  constructor
  · intro place hused
    obtain ⟨number, hnumber, rfl⟩ := (h.inUse_iff place).mp hused
    have hlt := hnumber.1
    rw [hsn, h.serialAt_held hnumber, snAfter_ofNat hopened (by omega)]
    exact decide_eq_true hlt
  · intro place hnewest
    rw [h.newest_place hkept (by omega) hnewest, hposition]
    simp only [sectorPayloadSize_eq, flashBytesPerSector,
      sectorHeaderSize] at *
    omega
  · intro hused
    rw [hnext] at hused ⊢
    obtain ⟨number, hnumber, hmod⟩ := (h.inUse_iff _).mp hused
    rw [h.oldest_iff hwindow holdest (by omega), ← hmod,
      hnumber.eq_oldest h.kept_le hmod]
  · intro place hplace
    have hfound := h.search_oldest hscan hwindow
      (fun other hother => holdest _ (hscan.seen other hother).2) hseen_oldest
      (by omega)
    rw [prepareRead_of_search hfound,
      (h.oldest_iff hwindow holdest (by omega)).mp hplace]

theorem RingStores.inOrder_full
    (h : RingStores type history opened type.sectorNum flash)
    (hopened : opened < 32768) (hbytes : ∀ byte ∈ history, byte ≠ 0xff) :
    InOrder flash (perpareWriteInfo flash type) := by
  have hpos := type.sectorNum_pos
  cases opened with
  | zero =>
      apply inOrder_of_unused
      intro place hused
      obtain ⟨number, hnumber, -⟩ := (h.inUse_iff place).mp hused
      exact Nat.not_lt_zero _ hnumber.1
  | succ newest =>
      have hscan := scanStops_full type.sectorNum (newest + 1)
      have hlt := Nat.mod_lt newest hpos
      have hle := Nat.mod_le newest type.sectorNum
      have hlt' := Nat.mod_lt (newest + 1 - type.sectorNum) hpos
      have hle' := Nat.mod_le (newest + 1 - type.sectorNum) type.sectorNum
      exact h.inOrder hscan hpos (by omega) (by omega) hopened hbytes

/-- A ring that has wrapped, and whose place after the newest is erased. -/
def BrokenBy (type : LogType) (opened : Nat) : Prop :=
  type.sectorNum ≤ opened ∧ opened % type.sectorNum ≠ type.sectorNum - 1

instance (type : LogType) (opened : Nat) : Decidable (BrokenBy type opened) :=
  inferInstanceAs (Decidable (_ ∧ _))

theorem RingStores.inOrder_erased
    (h : RingStores type history opened (type.sectorNum - 1) flash)
    (hopened : opened < 32768) (hbytes : ∀ byte ∈ history, byte ≠ 0xff)
    (hsound : ¬BrokenBy type opened) :
    InOrder flash (perpareWriteInfo flash type) := by
  have hpos := type.sectorNum_pos
  have hscan := scanStops_erased opened hpos
  cases opened with
  | zero =>
      apply inOrder_of_unused
      intro place hused
      obtain ⟨number, hnumber, -⟩ := (h.inUse_iff place).mp hused
      exact Nat.not_lt_zero _ hnumber.1
  | succ newest =>
      simp only [BrokenBy] at hsound
      refine h.inOrder hscan ?_ ?_ ?_ hopened hbytes
      · cases type <;> decide
      · cases type <;> simp only [LogType.sectorNum] at * <;> omega
      · cases type <;> simp only [LogType.sectorNum] at * <;> omega

theorem RingStores.not_inOrder_erased
    (h : RingStores type history opened (type.sectorNum - 1) flash)
    (hopened : opened < 32768) (hbroken : BrokenBy type opened) :
    ¬InOrder flash (perpareWriteInfo flash type) := by
  intro horder
  have hpos := type.sectorNum_pos
  have hlarge : 1 < type.sectorNum := by cases type <;> decide
  obtain ⟨hwrapped, hlast⟩ := hbroken
  by_cases hfront : opened % type.sectorNum = 0
  · have hfree := h.free 0 hpos fun number hnumber => hfront ▸ hnumber.mod_ne
    rw [LogType.sectorAddr, Nat.zero_mul, Nat.add_zero] at hfree
    have hnewest : InWindow opened (type.sectorNum - 1) (opened - 1) := by
      simp only [InWindow]
      omega
    have hlater := horder.nextSn_later _
      ((h.inUse_iff _).mpr ⟨opened - 1, hnewest, rfl⟩)
    rw [perpareWriteInfo_of_search_none
        (searchSectors_none (readHeader_erased hfree) _),
      h.serialAt_held hnewest] at hlater
    have hsn := snAfter_ofNat (show 0 < 32768 by decide)
      (show opened - 1 < 32768 by omega)
    exact absurd (of_decide_eq_true (hsn.symm.trans hlater)) (Nat.not_lt_zero _)
  · have hscan := scanStops_erased opened hpos
    have hfirst : InWindow opened (type.sectorNum - 1)
        (opened - opened % type.sectorNum) := by
      have hlt := Nat.mod_lt opened hpos
      simp only [InWindow]
      omega
    have hplace : (opened - opened % type.sectorNum) % type.sectorNum = 0 :=
      Nat.sub_mod_eq_zero_of_mod_eq (Nat.mod_mod _ _).symm
    have hfound := h.search_oldest hscan hfirst (by
        intro place hseen
        simp only [latestAt]
        cases type <;> simp only [LogType.sectorNum] at * <;> omega)
      (by omega) hopened.le
    have hwindow : InWindow opened (type.sectorNum - 1)
        (opened - (type.sectorNum - 1)) := by
      simp only [InWindow]
      omega
    have holdest := (h.oldest_iff hwindow (by
      intro number hnumber
      simp only [InWindow] at hnumber
      omega) hopened.le).mpr rfl
    have hread := horder.reads_oldest _ holdest
    rw [prepareRead_of_search hfound] at hread
    cases type <;>
      simp only [LogType.sectorNum, flashBytesPerSector] at * <;> omega

end Order

/-! ## Every cut of every run -/

theorem inOrder_at_cut_iff {history : Bytes} {cut : Nat} {flash : Memory}
    {length : Nat}
    (h : RingStores type history (openedAtCut length cut)
      (keptAtCut type length cut) flash)
    (hopened : openedAtCut length cut < 32768)
    (hbytes : ∀ byte ∈ history, byte ≠ 0xff) :
    InOrder flash (perpareWriteInfo flash type) ↔
      ¬(ErasedAtCut length cut ∧ BrokenBy type (openedAtCut length cut)) := by
  by_cases herased : ErasedAtCut length cut
  · rw [keptAtCut, if_pos herased] at h
    constructor
    · rintro horder ⟨-, hbroken⟩
      exact h.not_inOrder_erased hopened hbroken horder
    · intro hsound
      exact h.inOrder_erased hopened hbytes fun hbroken =>
        hsound ⟨herased, hbroken⟩
  · rw [keptAtCut, if_neg herased] at h
    exact iff_of_true (h.inOrder_full hopened hbytes) fun hboth =>
      herased hboth.1

/-- The flash when a `log_write` that follows other writes is interrupted. -/
theorem ringStores_at_cut (device : Device) (type : LogType)
    (writes : List Bytes) (bytes : Bytes) {cut : Nat}
    (herased : Erased type.baseAddr (type.baseAddr + type.maxSize)
      device.flash)
    (hcut : cut ≤ (logWrite (logWrites ((logsInit device).logInfo type)
      writes).1 bytes).2.length) :
    let written := logWrites ((logsInit device).logInfo type) writes
    ∃ done, RingStores type (writes.flatten ++ bytes.take done)
      (openedAtCut writes.flatten.length cut)
      (keptAtCut type writes.flatten.length cut)
      (applyOps device.flash
        (written.2 ++ (logWrite written.1 bytes).2.take cut)) := by
  intro written
  have hstart := LogStores.erased herased
  rw [← logsInit_logInfo] at hstart
  rw [applyOps_append]
  exact logWriteLoop_cut le_rfl (logWrites_stores hstart writes) hcut

theorem logWrite_ops_pos (info : LogInfo type) {bytes : Bytes}
    (h : bytes ≠ []) : 0 < (logWrite info bytes).2.length := by
  cases bytes with
  | nil => exact absurd rfl h
  | cons byte bytes =>
      rw [logWrite, List.length_cons, logWriteLoop, if_neg h]
      simp

theorem log_in_order_after_cut_iff (device : Device) (type : LogType)
    (writes : List Bytes) (bytes : Bytes) (cut : Nat)
    (herased : Erased type.baseAddr (type.baseAddr + type.maxSize)
      device.flash)
    (hbytes : ∀ byte ∈ writes.flatten ++ bytes, byte ≠ 0xff)
    (hopened : openedAtCut writes.flatten.length cut < 32768)
    (hcut : cut ≤ (logWrite (logWrites ((logsInit device).logInfo type)
      writes).1 bytes).2.length) :
    let booted := logsInit device
    let written := logWrites (booted.logInfo type) writes
    let rebooted := logsInit (booted.run
      (written.2 ++ (logWrite written.1 bytes).2.take cut))
    InOrder rebooted.flash (rebooted.logInfo type) ↔
      ¬(ErasedAtCut writes.flatten.length cut ∧
        BrokenBy type (openedAtCut writes.flatten.length cut)) := by
  intro booted written rebooted
  obtain ⟨done, hdone⟩ := ringStores_at_cut device type writes bytes herased hcut
  rw [logsInit_logInfo]
  refine inOrder_at_cut_iff hdone hopened ?_
  intro byte hbyte
  apply hbytes
  rcases List.mem_append.mp hbyte with hold | hnew
  · exact List.mem_append_left _ hold
  · exact List.mem_append_right _ (List.mem_of_mem_take hnew)

/-- The first sector is full, and the cut comes between the erase of the second
and its header. -/
theorem log_in_order_after_cut_short :
    let booted := logsInit Device.blank
    let written := logWrites (booted.logInfo .systemLog)
      [List.replicate 4092 65]
    let rebooted := logsInit (booted.run
      (written.2 ++ (logWrite written.1 [66]).2.take 1))
    InOrder rebooted.flash (rebooted.logInfo .systemLog) := by
  have hlength : [List.replicate 4092 (65 : UInt8)].flatten.length = 4092 := by
    rw [List.flatten_cons, List.flatten_nil, List.append_nil,
      List.length_replicate]
  have hbytes : ∀ byte ∈ [List.replicate 4092 (65 : UInt8)].flatten ++ [66],
      byte ≠ 0xff := by
    simp only [List.flatten_cons, List.flatten_nil, List.append_nil,
      List.mem_append, List.mem_replicate, List.mem_singleton]
    rintro byte (⟨-, rfl⟩ | rfl) <;> decide
  have hcut : 1 ≤ (logWrite (logWrites ((logsInit Device.blank).logInfo
      .systemLog) [List.replicate 4092 65]).1 [66]).2.length :=
    logWrite_ops_pos _ (List.cons_ne_nil _ _)
  refine (log_in_order_after_cut_iff Device.blank .systemLog
    [List.replicate 4092 65] [66] 1 (fun _ _ _ => rfl) hbytes ?_ hcut).mpr ?_
  · rw [hlength]
    decide
  · rw [hlength]
    decide

theorem not_inOrder_of_full_ring (filled : Bytes)
    (hfilled : filled.length = 65472) :
    let booted := logsInit Device.blank
    let written := logWrites (booted.logInfo .systemLog) [filled]
    let rebooted := logsInit (booted.run
      (written.2 ++ (logWrite written.1 [66]).2.take 1))
    ¬InOrder rebooted.flash (rebooted.logInfo .systemLog) := by
  intro booted written rebooted
  obtain ⟨done, hdone⟩ := ringStores_at_cut Device.blank .systemLog [filled]
    [66] (fun _ _ _ => rfl) (logWrite_ops_pos _ (List.cons_ne_nil _ _))
  have hlength : ([filled] : List Bytes).flatten.length = 65472 := by
    rw [List.flatten_cons, List.flatten_nil, List.append_nil, hfilled]
  rw [hlength] at hdone
  rw [logsInit_logInfo]
  exact hdone.not_inOrder_erased (by decide) (by decide)

/-- Sixteen full sectors, and a cut right after the first of them is erased. -/
theorem full_ring_cut_out_of_order :
    let booted := logsInit Device.blank
    let written := logWrites (booted.logInfo .systemLog)
      [List.replicate 65472 65]
    let rebooted := logsInit (booted.run
      (written.2 ++ (logWrite written.1 [66]).2.take 1))
    ¬InOrder rebooted.flash (rebooted.logInfo .systemLog) :=
  not_inOrder_of_full_ring _ List.length_replicate

end WncFirmware
