import WncFirmware.Foundation.SectorRing
import WncFirmware.Log.Ring

/-!
# The history behind a log ring

What `log_write` leaves in flash, described by everything that was ever written
to the ring: the sector of number `n` holds the `n`-th piece of that history and
lies at the place `n` modulo the number of sectors.
-/

namespace WncFirmware

open WncFirmware.Foundation

variable {type : LogType}

def sectorPayloadSize : Nat := flashBytesPerSector - sectorHeaderSize

def LogType.sectorAddr (type : LogType) (place : Nat) : Nat :=
  type.baseAddr + place * flashBytesPerSector

theorem LogType.sectorNum_pos (type : LogType) : 0 < type.sectorNum := by
  cases type <;> decide

theorem sctErase_sectorAddr (type : LogType) (place : Nat) :
    sctErase (type.sectorAddr place) =
      .erase (type.sectorAddr place) flashBytesPerSector := by
  have haddr : type.sectorAddr place / 4096 * 4096 = type.sectorAddr place := by
    cases type <;>
      simp only [LogType.sectorAddr, LogType.baseAddr, systemLogBaseAddr,
        workStateLogBaseAddr, flashBytesPerSector] <;> omega
  rw [sctErase, haddr]
  rfl

/-! ## What the flash holds -/

/--
The ring has had `opened` sectors, the last `kept` of which are still in use;
the other places are erased.
-/
structure RingStores (type : LogType) (history : Bytes) (opened kept : Nat)
    (flash : Memory) : Prop where
  kept_le : kept ≤ type.sectorNum
  opened_low : (opened - 1) * sectorPayloadSize ≤ history.length
  opened_high : history.length ≤ opened * sectorPayloadSize
  held : ∀ number, InWindow opened kept number →
    Holds (type.sectorAddr (number % type.sectorNum))
      (type.sectorAddr (number % type.sectorNum) + flashBytesPerSector)
      (sectorHeader (UInt16.ofNat number) ++
        piece sectorPayloadSize history number) flash
  free : ∀ place, place < type.sectorNum →
    (∀ number, InWindow opened kept number → number % type.sectorNum ≠ place) →
    Erased (type.sectorAddr place)
      (type.sectorAddr place + flashBytesPerSector) flash

theorem length_sectorContent (number : Nat) (history : Bytes) :
    (sectorHeader (UInt16.ofNat number) ++
      piece sectorPayloadSize history number).length =
      sectorHeaderSize + min sectorPayloadSize
        (history.length - number * sectorPayloadSize) := by
  rw [List.length_append, length_piece]
  rfl

theorem sectorContent_room (addr number : Nat) (history : Bytes) :
    addr + (sectorHeader (UInt16.ofNat number) ++
      piece sectorPayloadSize history number).length ≤
      addr + flashBytesPerSector := by
  rw [length_sectorContent]
  simp only [sectorPayloadSize, flashBytesPerSector, sectorHeaderSize]
  omega

/-- An operation inside one sector leaves the other places as they are. -/
theorem agreeOn_otherSector {op : FlashOp} {place other : Nat} (flash : Memory)
    (hstart : type.sectorAddr place ≤ op.start)
    (hsize : op.start + op.size ≤
      type.sectorAddr place + flashBytesPerSector) (hne : other ≠ place) :
    AgreeOn (type.sectorAddr other)
      (type.sectorAddr other + flashBytesPerSector) (op.apply flash) flash := by
  apply agreeOn_apply
  simp only [FlashOp.Avoids, LogType.sectorAddr, flashBytesPerSector] at *
  omega

theorem RingStores.erased {flash : Memory}
    (h : Erased type.baseAddr (type.baseAddr + type.maxSize) flash) :
    RingStores type [] 0 type.sectorNum flash where
  kept_le := le_rfl
  opened_low := by simp
  opened_high := by simp
  held := by
    intro number hkept
    exact absurd hkept.1 (Nat.not_lt_zero _)
  free := by
    intro place hplace hunused
    apply h.mono
    · exact Nat.le_add_right _ _
    · simp only [LogType.sectorAddr, LogType.maxSize, flashBytesPerSector]
      omega

/-! ## One operation of the writer -/

section Operations

variable {history : Bytes} {opened : Nat} {flash : Memory}

theorem RingStores.erase
    (h : RingStores type history opened type.sectorNum flash) :
    RingStores type history opened (type.sectorNum - 1)
      ((sctErase (type.sectorAddr (opened % type.sectorNum))).apply flash) := by
  have hagree : ∀ other, other ≠ opened % type.sectorNum →
      AgreeOn (type.sectorAddr other)
        (type.sectorAddr other + flashBytesPerSector)
        ((sctErase (type.sectorAddr (opened % type.sectorNum))).apply flash)
        flash := by
    intro other hne
    rw [sctErase_sectorAddr]
    exact agreeOn_otherSector flash le_rfl le_rfl hne
  constructor
  case kept_le => exact Nat.sub_le _ _
  case opened_low => exact h.opened_low
  case opened_high => exact h.opened_high
  case held =>
    intro number hkept
    exact (h.held number (hkept.mono (Nat.sub_le _ _))).congr
      (sectorContent_room _ _ _) (hagree _ hkept.mod_ne)
  case free =>
    intro place hplace hunused
    by_cases hsame : place = opened % type.sectorNum
    · rw [sctErase_sectorAddr, hsame]
      exact erased_erase flash _ _
    · refine (h.free place hplace fun number hkept => ?_).congr
        (hagree place hsame)
      rcases hkept.cases with hkept' | hoverwritten
      · exact hunused number hkept'
      · rw [hoverwritten]
        exact fun heq => hsame heq.symm

theorem RingStores.header
    (h : RingStores type history opened (type.sectorNum - 1) flash)
    (hfull : history.length = opened * sectorPayloadSize) :
    RingStores type history (opened + 1) type.sectorNum
      ((deviceWrite (type.sectorAddr (opened % type.sectorNum))
        (sectorHeader (UInt16.ofNat opened))).apply flash) := by
  have hpos := type.sectorNum_pos
  have hsize : (sectorHeader (UInt16.ofNat opened)).length = 4 := rfl
  have hagree : ∀ other, other ≠ opened % type.sectorNum →
      AgreeOn (type.sectorAddr other)
        (type.sectorAddr other + flashBytesPerSector)
        ((deviceWrite (type.sectorAddr (opened % type.sectorNum))
          (sectorHeader (UInt16.ofNat opened))).apply flash) flash := by
    intro other hne
    refine agreeOn_otherSector flash le_rfl ?_ hne
    simp only [deviceWrite, FlashOp.start, FlashOp.size, hsize,
      flashBytesPerSector]
    omega
  constructor
  case kept_le => exact le_rfl
  case opened_low => exact hfull.ge
  case opened_high =>
    rw [hfull]
    exact Nat.mul_le_mul_right _ (Nat.le_succ opened)
  case held =>
    intro number hkept
    rcases (inWindow_succ hpos).mp hkept with rfl | hkept'
    · have herased := h.free (number % type.sectorNum)
        (Nat.mod_lt _ hpos) fun other hother => hother.mod_ne
      have hroom : type.sectorAddr (number % type.sectorNum) +
          ([] : Bytes).length + (sectorHeader (UInt16.ofNat number)).length ≤
          type.sectorAddr (number % type.sectorNum) + flashBytesPerSector := by
        rw [List.length_nil, hsize, flashBytesPerSector]
        omega
      rw [piece_of_length_le hfull.le, List.append_nil]
      exact herased.holds.program hroom
    · exact (h.held number hkept').congr (sectorContent_room _ _ _)
        (hagree _ hkept'.mod_ne)
  case free =>
    intro place hplace hunused
    have hnext : place ≠ opened % type.sectorNum := fun heq =>
      hunused opened ((inWindow_succ hpos).mpr (.inl rfl)) heq.symm
    refine (h.free place hplace fun number hkept => ?_).congr
      (hagree place hnext)
    exact hunused number ((inWindow_succ hpos).mpr (.inr hkept))

def writePosition (type : LogType) (opened length : Nat) : Nat :=
  if opened = 0 then 0
  else (opened - 1) % type.sectorNum * flashBytesPerSector + sectorHeaderSize +
    (length - (opened - 1) * sectorPayloadSize)

theorem RingStores.payload {more : Bytes}
    (h : RingStores type history (opened + 1) type.sectorNum flash)
    (hroom : history.length + more.length ≤
      (opened + 1) * sectorPayloadSize) :
    RingStores type (history ++ more) (opened + 1) type.sectorNum
      ((deviceWrite (type.baseAddr +
        writePosition type (opened + 1) history.length) more).apply flash) := by
  have hlow : opened * sectorPayloadSize ≤ history.length := h.opened_low
  have hkept_last : InWindow (opened + 1) type.sectorNum opened :=
    ⟨Nat.lt_succ_self opened, by have := type.sectorNum_pos; omega⟩
  have hroom' : history.length - opened * sectorPayloadSize + more.length ≤
      sectorPayloadSize := by
    rw [Nat.add_mul, Nat.one_mul] at hroom
    omega
  have haddr : type.baseAddr + writePosition type (opened + 1) history.length =
      type.sectorAddr (opened % type.sectorNum) +
        (sectorHeader (UInt16.ofNat opened) ++
          piece sectorPayloadSize history opened).length := by
    rw [length_sectorContent, Nat.min_eq_right (by omega), writePosition,
      if_neg (Nat.succ_ne_zero opened), Nat.add_sub_cancel, LogType.sectorAddr]
    omega
  have hinside : type.sectorAddr (opened % type.sectorNum) +
      (sectorHeader (UInt16.ofNat opened) ++
        piece sectorPayloadSize history opened).length + more.length ≤
      type.sectorAddr (opened % type.sectorNum) + flashBytesPerSector := by
    rw [length_sectorContent, Nat.min_eq_right (by omega)]
    simp only [sectorPayloadSize, flashBytesPerSector, sectorHeaderSize] at *
    omega
  have hagree : ∀ other, other ≠ opened % type.sectorNum →
      AgreeOn (type.sectorAddr other)
        (type.sectorAddr other + flashBytesPerSector)
        ((deviceWrite (type.baseAddr +
          writePosition type (opened + 1) history.length) more).apply flash)
        flash := by
    intro other hne
    rw [haddr]
    exact agreeOn_otherSector flash (Nat.le_add_right _ _) hinside hne
  constructor
  case kept_le => exact le_rfl
  case opened_low =>
    rw [List.length_append]
    exact Nat.le_add_right_of_le hlow
  case opened_high =>
    rw [List.length_append]
    exact hroom
  case held =>
    intro number hkept
    by_cases hlast : number = opened
    · rw [hlast, piece_append_of_room hlow hroom, haddr, ← List.append_assoc]
      exact (h.held opened hkept_last).program hinside
    · have hfull : (number + 1) * sectorPayloadSize ≤ history.length :=
        (Nat.mul_le_mul_right _ (by have := hkept.1; omega)).trans hlow
      rw [piece_append_of_full more hfull]
      refine (h.held number hkept).congr (sectorContent_room _ _ _)
        (hagree _ fun hmod => hlast ?_)
      exact hkept.eq_of_mod_eq hkept_last le_rfl hmod
  case free =>
    intro place hplace hunused
    exact (h.free place hplace hunused).congr
      (hagree place fun heq => hunused opened hkept_last heq.symm)

end Operations

/-! ## The writer follows the history -/

def sectorCount (length : Nat) : Nat := pieceCount sectorPayloadSize length

structure LogStores (history : Bytes) (info : LogInfo type) (flash : Memory) :
    Prop where
  stores : RingStores type history (sectorCount history.length) type.sectorNum
    flash
  nextSn_eq : info.nextSn = UInt16.ofNat (sectorCount history.length)
  writeOffset_eq : info.writeOffset =
    writePosition type (sectorCount history.length) history.length

def SectorFull (length : Nat) : Prop :=
  length = sectorCount length * sectorPayloadSize

instance (length : Nat) : Decidable (SectorFull length) :=
  inferInstanceAs (Decidable (length = _))

theorem sectorPayloadSize_eq : sectorPayloadSize = 4092 := rfl

/-- A history that is not empty ends in a sector which holds `rest` bytes. -/
theorem sectorCount_cases (length : Nat) :
    (length = 0 ∧ sectorCount length = 0) ∨
      ∃ count rest, length = count * sectorPayloadSize + rest ∧ 0 < rest ∧
        rest ≤ sectorPayloadSize ∧ sectorCount length = count + 1 := by
  simp only [sectorCount, pieceCount, sectorPayloadSize_eq]
  by_cases hzero : length = 0
  · exact .inl ⟨hzero, by omega⟩
  · exact .inr ⟨(length - 1) / 4092, length - (length - 1) / 4092 * 4092,
      by omega, by omega, by omega, by omega⟩

theorem writePosition_succ (type : LogType) (count rest : Nat) :
    writePosition type (count + 1) (count * sectorPayloadSize + rest) =
      count % type.sectorNum * flashBytesPerSector + sectorHeaderSize +
        rest := by
  rw [writePosition, if_neg (Nat.succ_ne_zero count), Nat.add_sub_cancel,
    Nat.add_sub_cancel_left]

theorem sectorFull_iff {length count rest : Nat}
    (hlength : length = count * sectorPayloadSize + rest)
    (hcount : sectorCount length = count + 1) :
    SectorFull length ↔ rest = sectorPayloadSize := by
  rw [SectorFull, hcount, hlength, Nat.add_mul, Nat.one_mul]
  omega

theorem sectorFull_of_empty {length : Nat} (hzero : length = 0)
    (hcount : sectorCount length = 0) : SectorFull length := by
  rw [SectorFull, hcount, Nat.zero_mul]
  exact hzero

theorem writePosition_mod (type : LogType) (length : Nat) :
    writePosition type (sectorCount length) length % flashBytesPerSector = 0 ↔
      SectorFull length := by
  rcases sectorCount_cases length with
    ⟨hzero, hcount⟩ | ⟨count, rest, hlength, hpos, hrest, hcount⟩
  · rw [hcount, writePosition, if_pos rfl]
    exact iff_of_true rfl (sectorFull_of_empty hzero hcount)
  · rw [sectorFull_iff hlength hcount, hcount, hlength, writePosition_succ]
    simp only [sectorPayloadSize_eq, flashBytesPerSector,
      sectorHeaderSize] at *
    omega

section Passes

variable {history : Bytes} {info : LogInfo type} {flash : Memory}

theorem LogStores.boundary (h : LogStores history info flash) :
    info.writeOffset % flashBytesPerSector = 0 ↔ SectorFull history.length := by
  rw [h.writeOffset_eq]
  exact writePosition_mod type history.length

/-- The place at which `log_write` opens a sector. -/
theorem LogStores.openOffset (h : LogStores history info flash)
    (hfull : SectorFull history.length) :
    (if type.maxSize ≤ info.writeOffset then 0 else info.writeOffset) =
      sectorCount history.length % type.sectorNum * flashBytesPerSector := by
  rw [h.writeOffset_eq]
  rcases sectorCount_cases history.length with
    ⟨hzero, hcount⟩ | ⟨count, rest, hlength, hpos, hrest, hcount⟩
  · simp [hcount, writePosition]
  · have hlast := (sectorFull_iff hlength hcount).mp hfull
    rw [hcount, hlength, writePosition_succ, hlast]
    have hmod := Nat.mod_lt count type.sectorNum_pos
    by_cases hwrap : count % type.sectorNum + 1 = type.sectorNum
    · rw [succ_mod_of_last hwrap, if_pos]
      · exact (Nat.zero_mul _).symm
      · simp only [LogType.maxSize, sectorPayloadSize_eq, flashBytesPerSector,
          sectorHeaderSize]
        omega
    · rw [succ_mod_of_not_last hmod hwrap, if_neg]
      · simp only [sectorPayloadSize_eq, flashBytesPerSector, sectorHeaderSize]
        omega
      · simp only [LogType.maxSize, sectorPayloadSize_eq, flashBytesPerSector,
          sectorHeaderSize]
        omega

theorem LogStores.openSector_full (h : LogStores history info flash)
    (hfull : SectorFull history.length) :
    info.openSector.2 =
      [sctErase (type.sectorAddr
          (sectorCount history.length % type.sectorNum)),
        deviceWrite (type.sectorAddr
          (sectorCount history.length % type.sectorNum))
          (sectorHeader (UInt16.ofNat (sectorCount history.length)))] ∧
      info.openSector.1.nextSn =
        UInt16.ofNat (sectorCount history.length + 1) ∧
      info.openSector.1.writeOffset =
        writePosition type (sectorCount history.length + 1)
          history.length := by
  have hoffset := h.openOffset hfull
  have hsn : UInt16.ofNat (sectorCount history.length) + 1 =
      UInt16.ofNat (sectorCount history.length + 1) := by
    rw [UInt16.ofNat_add]
    rfl
  rw [LogInfo.openSector, dif_pos (h.boundary.mpr hfull)]
  dsimp only
  rw [hoffset, h.nextSn_eq, hsn]
  refine ⟨rfl, rfl, ?_⟩
  rw [writePosition, if_neg (Nat.succ_ne_zero _), Nat.add_sub_cancel,
    Nat.sub_eq_zero_of_le hfull.le, Nat.add_zero]

theorem LogStores.openSector_inside (h : LogStores history info flash)
    (hinside : ¬SectorFull history.length) : info.openSector = (info, []) := by
  rw [LogInfo.openSector, dif_neg (mt h.boundary.mp hinside)]

def sectorRoom (length : Nat) : Nat :=
  sectorPayloadSize - length % sectorPayloadSize

theorem sectorCount_full {length : Nat} (h : SectorFull length) {count : Nat}
    (hpos : 0 < count) (hroom : count ≤ sectorRoom length) :
    sectorCount (length + count) = sectorCount length + 1 := by
  simp only [SectorFull, sectorRoom, sectorCount, pieceCount,
    sectorPayloadSize_eq] at *
  omega

theorem sectorCount_inside {length : Nat} (h : ¬SectorFull length)
    {count : Nat} (hroom : count ≤ sectorRoom length) :
    sectorCount (length + count) = sectorCount length := by
  simp only [SectorFull, sectorRoom, sectorCount, pieceCount,
    sectorPayloadSize_eq] at *
  omega

theorem LogStores.room (h : LogStores history info flash) :
    flashBytesPerSector -
      info.openSector.1.writeOffset % flashBytesPerSector =
      sectorRoom history.length := by
  by_cases hfull : SectorFull history.length
  · have hzero : history.length % sectorPayloadSize = 0 := by
      rw [hfull, Nat.mul_mod_left]
    have hposition := writePosition_succ type (sectorCount history.length) 0
    simp only [Nat.add_zero] at hposition
    rw [← hfull] at hposition
    rw [(h.openSector_full hfull).2.2, hposition, sectorRoom, hzero]
    simp only [sectorPayloadSize_eq, flashBytesPerSector, sectorHeaderSize]
    omega
  · rw [h.openSector_inside hfull, h.writeOffset_eq]
    rcases sectorCount_cases history.length with
      ⟨hzero, hcount⟩ | ⟨count, rest, hlength, hpos, hrest, hcount⟩
    · exact absurd (sectorFull_of_empty hzero hcount) hfull
    · have hlast := mt (sectorFull_iff hlength hcount).mpr hfull
      rw [hcount, hlength, writePosition_succ, sectorRoom]
      simp only [sectorPayloadSize_eq, flashBytesPerSector,
        sectorHeaderSize] at *
      omega

theorem LogStores.opened (h : LogStores history info flash) :
    ∃ number, RingStores type history (number + 1) type.sectorNum
        (applyOps flash info.openSector.2) ∧
      info.openSector.1.nextSn = UInt16.ofNat (number + 1) ∧
      info.openSector.1.writeOffset =
        writePosition type (number + 1) history.length ∧
      ∀ count, 0 < count → count ≤ sectorRoom history.length →
        sectorCount (history.length + count) = number + 1 := by
  by_cases hfull : SectorFull history.length
  · obtain ⟨hops, hsn, hoffset⟩ := h.openSector_full hfull
    refine ⟨sectorCount history.length, ?_, hsn, hoffset, ?_⟩
    · rw [hops]
      exact h.stores.erase.header hfull
    · intro count hpos hroom
      exact sectorCount_full hfull hpos hroom
  · rcases sectorCount_cases history.length with
      ⟨hzero, hcount⟩ | ⟨number, rest, hlength, hpos, hrest, hcount⟩
    · exact absurd (sectorFull_of_empty hzero hcount) hfull
    · rw [h.openSector_inside hfull]
      refine ⟨number, ?_, ?_, ?_, ?_⟩
      · rw [← hcount]
        exact h.stores
      · rw [← hcount]
        exact h.nextSn_eq
      · rw [← hcount]
        exact h.writeOffset_eq
      · intro count hpos hroom
        rw [← hcount]
        exact sectorCount_inside hfull hroom

theorem writePosition_add {opened length : Nat} (count : Nat)
    (h : opened * sectorPayloadSize ≤ length) :
    writePosition type (opened + 1) length + count =
      writePosition type (opened + 1) (length + count) := by
  simp only [writePosition, Nat.succ_ne_zero, if_false, Nat.add_sub_cancel]
  omega

theorem LogStores.pass (h : LogStores history info flash) {bytes : Bytes}
    {later : LogInfo type} (hpos : 0 < bytes.length)
    (hroom : bytes.length ≤ sectorRoom history.length)
    (hsn : later.nextSn = info.openSector.1.nextSn)
    (hoffset : later.writeOffset =
      info.openSector.1.writeOffset + bytes.length) :
    LogStores (history ++ bytes) later
      ((deviceWrite (type.baseAddr + info.openSector.1.writeOffset)
        bytes).apply (applyOps flash info.openSector.2)) := by
  obtain ⟨number, hstores, hsn', hoffset', hcount⟩ := h.opened
  have hnumber : sectorCount (history ++ bytes).length = number + 1 := by
    rw [List.length_append]
    exact hcount bytes.length hpos hroom
  have hfits : (history ++ bytes).length ≤ (number + 1) * sectorPayloadSize := by
    rw [← hnumber]
    simp only [sectorCount, pieceCount, sectorPayloadSize_eq]
    omega
  rw [List.length_append] at hfits
  constructor
  · rw [hnumber, hoffset']
    exact hstores.payload hfits
  · rw [hnumber, hsn, hsn']
  · rw [hnumber, hoffset, hoffset', List.length_append]
    exact writePosition_add bytes.length hstores.opened_low

theorem LogStores.loop_pass (h : LogStores history info flash)
    {bytes : Bytes} (hne : bytes ≠ []) (fuel : Nat) :
    ∃ count later, 0 < count ∧ count ≤ bytes.length ∧
      count ≤ sectorRoom history.length ∧
      (count = bytes.length ∨ SectorFull (history.length + count)) ∧
      LogStores (history ++ bytes.take count) later
        ((deviceWrite (type.baseAddr + info.openSector.1.writeOffset)
          (bytes.take count)).apply (applyOps flash info.openSector.2)) ∧
      logWriteLoop (fuel + 1) info bytes =
        ((logWriteLoop fuel later (bytes.drop count)).1,
          info.openSector.2 ++
            deviceWrite (type.baseAddr + info.openSector.1.writeOffset)
              (bytes.take count) ::
            (logWriteLoop fuel later (bytes.drop count)).2) := by
  have hpos : 0 < bytes.length := List.length_pos_iff.mpr hne
  have hroom := h.room
  have hroom_pos : 0 < sectorRoom history.length := by
    simp only [sectorRoom, sectorPayloadSize_eq]
    omega
  let count := min (flashBytesPerSector -
    info.openSector.1.writeOffset % flashBytesPerSector) bytes.length
  have hcount : count = min (sectorRoom history.length) bytes.length := by
    rw [← hroom]
  have hlength : (bytes.take count).length = count := by
    rw [List.length_take]
    omega
  refine ⟨count, info.openSector.1.advance count info.openSector_inside
    (Nat.min_le_left _ _), by omega, by omega, by omega, ?_, ?_, ?_⟩
  · by_cases hall : count = bytes.length
    · exact .inl hall
    · right
      have hfill : count = sectorRoom history.length := by omega
      rw [hfill]
      simp only [SectorFull, sectorRoom, sectorCount, pieceCount,
        sectorPayloadSize_eq]
      omega
  · refine h.pass ?_ ?_ ?_ ?_
    · omega
    · omega
    · rfl
    · rw [hlength]
      rfl
  · rw [logWriteLoop, if_neg hne]

end Passes

theorem logWriteLoop_stores {fuel : Nat} {history bytes : Bytes}
    {info : LogInfo type} {flash : Memory} (hfuel : bytes.length ≤ fuel)
    (h : LogStores history info flash) :
    LogStores (history ++ bytes) (logWriteLoop fuel info bytes).1
      (applyOps flash (logWriteLoop fuel info bytes).2) := by
  induction fuel generalizing history bytes info flash with
  | zero =>
      obtain rfl := List.eq_nil_of_length_eq_zero (Nat.le_zero.mp hfuel)
      rw [List.append_nil]
      exact h
  | succ fuel ih =>
      by_cases hne : bytes = []
      · rw [logWriteLoop, if_pos hne, hne, List.append_nil]
        exact h
      · obtain ⟨count, later, hpos, hle, -, -, hpass, heq⟩ :=
          h.loop_pass hne fuel
        have hrest : (bytes.drop count).length ≤ fuel := by
          rw [List.length_drop]
          omega
        have hlater := ih hrest hpass
        rw [List.append_assoc, List.take_append_drop] at hlater
        rw [heq, applyOps_append, applyOps_cons]
        exact hlater

theorem logWrite_stores {history : Bytes} {info : LogInfo type}
    {flash : Memory} (h : LogStores history info flash) (bytes : Bytes) :
    LogStores (history ++ bytes) (logWrite info bytes).1
      (applyOps flash (logWrite info bytes).2) :=
  logWriteLoop_stores le_rfl h

/-! ## Runs of the writer -/

def logWrites (info : LogInfo type) :
    List Bytes → LogInfo type × List FlashOp
  | [] => (info, [])
  | bytes :: writes =>
      let first := logWrite info bytes
      let later := logWrites first.1 writes
      (later.1, first.2 ++ later.2)

theorem logWrites_stores {history : Bytes} {info : LogInfo type}
    {flash : Memory} (h : LogStores history info flash)
    (writes : List Bytes) :
    LogStores (history ++ writes.flatten) (logWrites info writes).1
      (applyOps flash (logWrites info writes).2) := by
  induction writes generalizing history info flash with
  | nil =>
      rw [List.flatten_nil, List.append_nil]
      exact h
  | cons bytes writes ih =>
      have hlater := ih (logWrite_stores h bytes)
      rw [List.append_assoc] at hlater
      rw [List.flatten_cons, logWrites, applyOps_append]
      exact hlater

theorem logWrites_append (info : LogInfo type) (first second : List Bytes) :
    logWrites info (first ++ second) =
      ((logWrites (logWrites info first).1 second).1,
        (logWrites info first).2 ++
          (logWrites (logWrites info first).1 second).2) := by
  induction first generalizing info with
  | nil => rfl
  | cons bytes first ih =>
      simp only [List.cons_append, logWrites, ih, List.append_assoc]

end WncFirmware
