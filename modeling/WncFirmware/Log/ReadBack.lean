import Mathlib.Algebra.BigOperators.Group.Finset.Piecewise
import WncFirmware.Log.Recovery

/-!
# Reading a log back

`prepare_read` finds the oldest sector, `calculate_file_size` the number of
bytes, and `log_read` delivers them in pieces of the size of its buffer.
-/

namespace WncFirmware

open WncFirmware.Foundation

variable {type : LogType}

/-! ## The payload that the sectors in use hold -/

def LogType.placeOf (type : LogType) (addr : Nat) : Nat :=
  (addr - type.baseAddr) / flashBytesPerSector

/-- An erase empties a sector; a write that is not a header adds payload. -/
def holdStep (type : LogType) (held : Nat → Nat) : FlashOp → Nat → Nat
  | .erase start _ => Function.update held (type.placeOf start) 0
  | .program start bytes =>
      if (start - type.baseAddr) % flashBytesPerSector = 0 then held
      else Function.update held (type.placeOf start)
        (held (type.placeOf start) + bytes.length)

def heldAfter (type : LogType) (held : Nat → Nat) (ops : List FlashOp) :
    Nat → Nat :=
  ops.foldl (holdStep type) held

def heldTotal (type : LogType) (held : Nat → Nat) : Nat :=
  ∑ place ∈ Finset.range type.sectorNum, held place

def payloadInUse (type : LogType) (ops : List FlashOp) : Nat :=
  heldTotal type (heldAfter type (fun _ => 0) ops)

theorem heldTotal_update (held : Nat → Nat) {place : Nat} (count : Nat)
    (h : place < type.sectorNum) :
    heldTotal type (Function.update held place count) + held place =
      heldTotal type held + count := by
  have hmem := Finset.mem_range.mpr h
  rw [heldTotal, heldTotal, Finset.sum_update_of_mem hmem,
    ← Finset.add_sum_erase _ held hmem, Finset.sdiff_singleton_eq_erase]
  omega

theorem placeOf_sectorAddr (type : LogType) (place : Nat) :
    type.placeOf (type.sectorAddr place) = place := by
  rw [LogType.placeOf, LogType.sectorAddr, Nat.add_sub_cancel_left]
  exact Nat.mul_div_cancel place (by decide)

/-- The counts follow the history as the flash does. -/
structure HeldStores (type : LogType) (length opened kept : Nat)
    (held : Nat → Nat) : Prop where
  kept_le : kept ≤ type.sectorNum
  window : ∀ number, InWindow opened kept number →
    held (number % type.sectorNum) =
      min sectorPayloadSize (length - number * sectorPayloadSize)
  free : ∀ place, place < type.sectorNum →
    (∀ number, InWindow opened kept number → number % type.sectorNum ≠ place) →
    held place = 0
  total : heldTotal type held =
    length - (opened - kept) * sectorPayloadSize

theorem HeldStores.empty (type : LogType) :
    HeldStores type 0 0 type.sectorNum fun _ => 0 where
  kept_le := le_rfl
  window := fun _ _ => by simp
  free := fun _ _ _ => rfl
  total := by simp [heldTotal]

section HeldOperations

variable {length opened : Nat} {held : Nat → Nat}

theorem HeldStores.erase
    (h : HeldStores type length opened type.sectorNum held)
    (hfull : length = opened * sectorPayloadSize) :
    HeldStores type length opened (type.sectorNum - 1)
      (holdStep type held
        (sctErase (type.sectorAddr (opened % type.sectorNum)))) := by
  have hpos := type.sectorNum_pos
  have hplace := Nat.mod_lt opened hpos
  rw [sctErase_sectorAddr, holdStep, placeOf_sectorAddr]
  constructor
  case kept_le => exact Nat.sub_le _ _
  case window =>
    intro number hwindow
    rw [Function.update_of_ne hwindow.mod_ne]
    exact h.window number (hwindow.mono (Nat.sub_le _ _))
  case free =>
    intro place hlt hunused
    by_cases hsame : place = opened % type.sectorNum
    · rw [hsame, Function.update_self]
    · rw [Function.update_of_ne hsame]
      apply h.free place hlt
      intro number hwindow
      rcases hwindow.cases with hwindow' | hoverwritten
      · exact hunused number hwindow'
      · rw [hoverwritten]
        exact fun heq => hsame heq.symm
  case total =>
    have hupdate := heldTotal_update held 0 hplace
    have htotal := h.total
    by_cases hwrapped : type.sectorNum ≤ opened
    · have hwindow : InWindow opened type.sectorNum
          (opened - type.sectorNum) := by
        simp only [InWindow]
        omega
      have hheld := h.window _ hwindow
      rw [← Nat.mod_eq_sub_mod hwrapped] at hheld
      simp only [sectorPayloadSize_eq] at *
      omega
    · have hheld := h.free _ hplace (by
        intro number hwindow
        have hlt := hwindow.1
        rw [Nat.mod_eq_of_lt (by omega), Nat.mod_eq_of_lt (by omega)]
        omega)
      simp only [sectorPayloadSize_eq] at *
      omega

theorem HeldStores.header
    (h : HeldStores type length opened (type.sectorNum - 1) held)
    (hfull : length = opened * sectorPayloadSize) :
    HeldStores type length (opened + 1) type.sectorNum
      (holdStep type held
        (deviceWrite (type.sectorAddr (opened % type.sectorNum))
          (sectorHeader (UInt16.ofNat opened)))) := by
  have hpos := type.sectorNum_pos
  have hheader : (type.sectorAddr (opened % type.sectorNum) - type.baseAddr) %
      flashBytesPerSector = 0 := by
    rw [LogType.sectorAddr, Nat.add_sub_cancel_left, Nat.mul_mod_left]
  rw [deviceWrite, holdStep, if_pos hheader]
  constructor
  case kept_le => exact le_rfl
  case window =>
    intro number hwindow
    rcases (inWindow_succ hpos).mp hwindow with rfl | hwindow'
    · rw [h.free _ (Nat.mod_lt _ hpos) fun other hother => hother.mod_ne]
      omega
    · exact h.window number hwindow'
  case free =>
    intro place hlt hunused
    exact h.free place hlt fun number hwindow =>
      hunused number ((inWindow_succ hpos).mpr (.inr hwindow))
  case total =>
    rw [h.total]
    congr 2
    omega

theorem HeldStores.payload {bytes : Bytes}
    (h : HeldStores type length (opened + 1) type.sectorNum held)
    (hlow : opened * sectorPayloadSize ≤ length) (hpos : 0 < bytes.length)
    (hroom : length + bytes.length ≤ (opened + 1) * sectorPayloadSize) :
    HeldStores type (length + bytes.length) (opened + 1) type.sectorNum
      (holdStep type held (deviceWrite (type.baseAddr +
        writePosition type (opened + 1) length) bytes)) := by
  have hsectors := type.sectorNum_pos
  obtain ⟨rest, rfl⟩ := Nat.exists_eq_add_of_le hlow
  have hplace : type.placeOf (type.baseAddr + writePosition type (opened + 1)
      (opened * sectorPayloadSize + rest)) = opened % type.sectorNum := by
    rw [LogType.placeOf, writePosition_succ, Nat.add_sub_cancel_left]
    simp only [sectorPayloadSize_eq, flashBytesPerSector,
      sectorHeaderSize] at *
    omega
  have hinside : ¬(type.baseAddr + writePosition type (opened + 1)
      (opened * sectorPayloadSize + rest) - type.baseAddr) %
      flashBytesPerSector = 0 := by
    rw [writePosition_succ, Nat.add_sub_cancel_left]
    simp only [sectorPayloadSize_eq, flashBytesPerSector,
      sectorHeaderSize] at *
    omega
  have hlast := h.window opened (inWindow_newest hsectors)
  rw [deviceWrite, holdStep, if_neg hinside, hplace]
  constructor
  case kept_le => exact le_rfl
  case window =>
    intro number hwindow
    by_cases hnewest : number = opened
    · rw [hnewest, Function.update_self, hlast]
      simp only [sectorPayloadSize_eq] at *
      omega
    · have hother : number % type.sectorNum ≠ opened % type.sectorNum :=
        fun hmod => hnewest
          (hwindow.eq_of_mod_eq (inWindow_newest hsectors) le_rfl hmod)
      have hlt := hwindow.1
      rw [Function.update_of_ne hother, h.window number hwindow]
      simp only [sectorPayloadSize_eq] at *
      omega
  case free =>
    intro place hlt hunused
    have hother : place ≠ opened % type.sectorNum := fun heq =>
      hunused opened (inWindow_newest hsectors) heq.symm
    rw [Function.update_of_ne hother]
    exact h.free place hlt hunused
  case total =>
    have hupdate := heldTotal_update held
      (held (opened % type.sectorNum) + bytes.length)
      (Nat.mod_lt opened hsectors)
    have htotal := h.total
    simp only [sectorPayloadSize_eq] at *
    omega

end HeldOperations

section HeldRuns

variable {history : Bytes} {info : LogInfo type} {flash : Memory}
  {held : Nat → Nat}

theorem HeldStores.opened (h : LogStores history info flash)
    (hheld : HeldStores type history.length (sectorCount history.length)
      type.sectorNum held) :
    HeldStores type history.length (sectorCount (history.length + 1))
      type.sectorNum (heldAfter type held info.openSector.2) := by
  have hroom : 1 ≤ sectorRoom history.length := by
    simp only [sectorRoom, sectorPayloadSize_eq]
    omega
  by_cases hfull : SectorFull history.length
  · rw [(h.openSector_full hfull).1, sectorCount_full hfull one_pos hroom]
    exact (hheld.erase hfull).header hfull
  · rw [h.openSector_inside hfull, sectorCount_inside hfull hroom]
    exact hheld

theorem HeldStores.pass (h : LogStores history info flash)
    (hheld : HeldStores type history.length (sectorCount history.length)
      type.sectorNum held) {bytes : Bytes} (hpos : 0 < bytes.length)
    (hroom : bytes.length ≤ sectorRoom history.length) :
    HeldStores type (history.length + bytes.length)
      (sectorCount (history.length + bytes.length)) type.sectorNum
      (holdStep type (heldAfter type held info.openSector.2)
        (deviceWrite (type.baseAddr + info.openSector.1.writeOffset)
          bytes)) := by
  obtain ⟨number, hstores, -, hoffset, hcount⟩ := h.opened
  have hopened := HeldStores.opened h hheld
  rw [hcount 1 one_pos (by omega)] at hopened
  rw [hcount bytes.length hpos hroom, hoffset]
  apply hopened.payload hstores.opened_low hpos
  rw [← hcount bytes.length hpos hroom]
  simp only [sectorCount, pieceCount, sectorPayloadSize_eq]
  omega

theorem logWriteLoop_held {fuel : Nat} {bytes : Bytes}
    (hfuel : bytes.length ≤ fuel) (h : LogStores history info flash)
    (hheld : HeldStores type history.length (sectorCount history.length)
      type.sectorNum held) :
    HeldStores type (history ++ bytes).length
      (sectorCount (history ++ bytes).length) type.sectorNum
      (heldAfter type held (logWriteLoop fuel info bytes).2) := by
  induction fuel generalizing history bytes info flash held with
  | zero =>
      obtain rfl := List.eq_nil_of_length_eq_zero (Nat.le_zero.mp hfuel)
      rw [List.append_nil]
      exact hheld
  | succ fuel ih =>
      by_cases hne : bytes = []
      · rw [logWriteLoop, if_pos hne, hne, List.append_nil]
        exact hheld
      · obtain ⟨count, later, hpos, hle, hroom, -, hpass, heq⟩ :=
          h.loop_pass hne fuel
        have hlength : (bytes.take count).length = count := by
          rw [List.length_take]
          omega
        have hheld' := HeldStores.pass h hheld (hlength.symm ▸ hpos)
          (hlength.symm ▸ hroom)
        rw [← List.length_append] at hheld'
        have hrest : (bytes.drop count).length ≤ fuel := by
          rw [List.length_drop]
          omega
        have hlater := ih hrest hpass hheld'
        rw [List.append_assoc, List.take_append_drop] at hlater
        rw [heq, heldAfter, List.foldl_append]
        exact hlater

theorem logWrites_held (h : LogStores history info flash)
    (hheld : HeldStores type history.length (sectorCount history.length)
      type.sectorNum held) (writes : List Bytes) :
    HeldStores type (history ++ writes.flatten).length
      (sectorCount (history ++ writes.flatten).length) type.sectorNum
      (heldAfter type held (logWrites info writes).2) := by
  induction writes generalizing history info flash held with
  | nil =>
      rw [List.flatten_nil, List.append_nil]
      exact hheld
  | cons bytes writes ih =>
      have hlater := ih (logWrite_stores h bytes)
        (logWriteLoop_held le_rfl h hheld)
      rw [List.append_assoc] at hlater
      rw [List.flatten_cons, logWrites, heldAfter, List.foldl_append]
      exact hlater

end HeldRuns

/-! ## The position of the reader -/

def droppedSectors (type : LogType) (length : Nat) : Nat :=
  sectorCount length - type.sectorNum

def readableSize (type : LogType) (length : Nat) : Nat :=
  length - droppedSectors type length * sectorPayloadSize

/-- The ring has wrapped, and the newest sector is full and not the last place. -/
def WrappedAtBoundary (type : LogType) (length : Nat) : Prop :=
  type.sectorNum < sectorCount length ∧ SectorFull length ∧
    sectorCount length % type.sectorNum ≠ 0

instance (type : LogType) (length : Nat) :
    Decidable (WrappedAtBoundary type length) :=
  inferInstanceAs (Decidable (_ ∧ _ ∧ _))

/-- `read_offset` after the step of `log_read` that enters a new sector. -/
def LogInfo.readPosition (info : LogInfo type) : Nat :=
  if info.readOffset % flashBytesPerSector = 0 then
    (if type.maxSize ≤ info.readOffset then 0 else info.readOffset) +
      sectorHeaderSize
  else info.readOffset

def LogInfo.available (info : LogInfo type) : Nat :=
  if info.readPosition / flashBytesPerSector ≠
      info.writeOffset / flashBytesPerSector then
    flashBytesPerSector - info.readPosition % flashBytesPerSector
  else (info.writeOffset + 2 ^ 32 - info.readPosition) % 2 ^ 32

theorem logReadLoop_succ (flash : Memory) (fuel : Nat) (info : LogInfo type)
    {bufSize : Nat} (hpos : 0 < bufSize) (havailable : info.available ≠ 0) :
    logReadLoop flash (fuel + 1) info bufSize =
      ((logReadLoop flash fuel
          { info with
            readOffset := info.readPosition + min bufSize info.available }
          (bufSize - min bufSize info.available)).1,
        readBytes flash (type.baseAddr + info.readPosition)
            (min bufSize info.available) ++
          (logReadLoop flash fuel
            { info with
              readOffset := info.readPosition + min bufSize info.available }
            (bufSize - min bufSize info.available)).2) := by
  rw [logReadLoop, if_neg (by omega)]
  exact if_neg havailable

structure ReadsAt (info : LogInfo type) (length position : Nat) : Prop where
  readPosition_eq : info.readPosition =
    (droppedSectors type length + position / sectorPayloadSize) %
        type.sectorNum * flashBytesPerSector + sectorHeaderSize +
      position % sectorPayloadSize
  writeOffset_eq : info.writeOffset =
    writePosition type (sectorCount length) length

theorem inWindow_position {length position : Nat}
    (h : position < readableSize type length) :
    InWindow (sectorCount length) type.sectorNum
      (droppedSectors type length + position / sectorPayloadSize) := by
  have hpos := type.sectorNum_pos
  simp only [InWindow, readableSize, droppedSectors, sectorCount, pieceCount,
    sectorPayloadSize_eq] at *
  omega

section Reading

variable {info : LogInfo type} {length position : Nat}

/-- The newest sector is left where the writer stands, the others at their end. -/
theorem readable_left {newest rest : Nat}
    (hlength : length = newest * sectorPayloadSize + rest)
    (hcount : sectorCount length = newest + 1)
    (hposition : position < readableSize type length) :
    let number := droppedSectors type length + position / sectorPayloadSize
    (number = newest → readableSize type length - position =
        rest - position % sectorPayloadSize ∧
        position % sectorPayloadSize < rest) ∧
      (number < newest → sectorPayloadSize - position % sectorPayloadSize ≤
        readableSize type length - position) := by
  simp only [readableSize, droppedSectors, hcount, sectorPayloadSize_eq] at *
  omega

/-- Outside the exception, the reader never meets the sector of the writer early. -/
theorem writerSector_ne {newest number : Nat}
    (hwindow : InWindow (newest + 1) type.sectorNum number)
    (hplain : ¬(type.sectorNum < newest + 1 ∧
      (newest + 1) % type.sectorNum ≠ 0)) :
    number % type.sectorNum ≠ newest % type.sectorNum + 1 := by
  have hlt := Nat.mod_lt number type.sectorNum_pos
  simp only [InWindow] at hwindow
  cases type <;> simp only [LogType.sectorNum] at * <;> omega

theorem sectorOffset_inside {offset place rest : Nat}
    (hoffset : offset = place * flashBytesPerSector + sectorHeaderSize + rest)
    (hrest : rest < sectorPayloadSize) :
    offset / flashBytesPerSector = place ∧
      offset % flashBytesPerSector = sectorHeaderSize + rest := by
  simp only [sectorPayloadSize_eq, flashBytesPerSector, sectorHeaderSize] at *
  omega

theorem sectorOffset_end {offset place : Nat}
    (hoffset : offset =
      place * flashBytesPerSector + sectorHeaderSize + sectorPayloadSize) :
    offset / flashBytesPerSector = place + 1 ∧
      offset % flashBytesPerSector = 0 := by
  simp only [sectorPayloadSize_eq, flashBytesPerSector, sectorHeaderSize] at *
  omega

theorem ReadsAt.available (h : ReadsAt info length position)
    (hposition : position < readableSize type length)
    (hplain : ¬WrappedAtBoundary type length) :
    info.available = min (sectorPayloadSize - position % sectorPayloadSize)
      (readableSize type length - position) := by
  rcases sectorCount_cases length with
    ⟨hzero, hcount⟩ | ⟨newest, rest, hlength, hrest_pos, hrest, hcount⟩
  · simp [readableSize, hzero] at hposition
  · have hwindow := inWindow_position hposition
    obtain ⟨hsame, hother⟩ := readable_left hlength hcount hposition
    have hfull := sectorFull_iff hlength hcount
    have hwriter : info.writeOffset = newest % type.sectorNum *
        flashBytesPerSector + sectorHeaderSize + rest := by
      rw [h.writeOffset_eq, hcount, hlength, writePosition_succ]
    have hreader := h.readPosition_eq
    rw [hcount] at hwindow
    have hinside := sectorOffset_inside hreader
      (Nat.mod_lt position (show sectorPayloadSize > 0 by decide))
    generalize hnumber : droppedSectors type length +
      position / sectorPayloadSize = number at *
    rw [LogInfo.available, hinside.1, hinside.2]
    by_cases hend : rest = sectorPayloadSize
    · have hsector := (sectorOffset_end (hend ▸ hwriter)).1
      have hne := writerSector_ne hwindow fun hwrapped =>
        hplain ⟨hcount ▸ hwrapped.1, hfull.mpr hend, hcount ▸ hwrapped.2⟩
      rw [hsector, if_pos hne]
      have hlt := hwindow.1
      simp only [sectorPayloadSize_eq, flashBytesPerSector,
        sectorHeaderSize] at *
      omega
    · have hsector := (sectorOffset_inside hwriter (by omega)).1
      by_cases hnewest : number = newest
      · obtain ⟨hleft, hlt⟩ := hsame hnewest
        rw [hsector, hnewest, if_neg (not_not.mpr rfl), hleft, hwriter,
          hreader, hnewest]
        simp only [sectorPayloadSize_eq, flashBytesPerSector,
          sectorHeaderSize] at *
        omega
      · have hne : number % type.sectorNum ≠ newest % type.sectorNum :=
          fun hmod => hnewest (hwindow.eq_of_mod_eq
            (inWindow_newest type.sectorNum_pos) le_rfl hmod)
        rw [hsector, if_pos hne]
        have hlt := hwindow.1
        have hleft := hother (by omega)
        simp only [sectorPayloadSize_eq, flashBytesPerSector,
          sectorHeaderSize] at *
        omega

theorem readPosition_sector_end {number : Nat}
    (hoffset : info.readOffset =
      (number % type.sectorNum + 1) * flashBytesPerSector) :
    info.readPosition = (number + 1) % type.sectorNum * flashBytesPerSector +
      sectorHeaderSize := by
  have hlt := Nat.mod_lt number type.sectorNum_pos
  rw [LogInfo.readPosition, hoffset, if_pos (Nat.mul_mod_left _ _)]
  by_cases hlast : number % type.sectorNum + 1 = type.sectorNum
  · have hring : type.maxSize ≤ type.sectorNum * flashBytesPerSector := le_rfl
    rw [succ_mod_of_last hlast, hlast, if_pos hring, Nat.zero_mul]
  · rw [succ_mod_of_not_last hlt hlast, if_neg]
    simp only [LogType.maxSize, flashBytesPerSector]
    omega

theorem ReadsAt.advance (h : ReadsAt info length position) {count : Nat}
    (hpos : 0 < count)
    (hcount : position % sectorPayloadSize + count ≤ sectorPayloadSize) :
    ReadsAt { info with readOffset := info.readPosition + count } length
      (position + count) := by
  refine ⟨?_, h.writeOffset_eq⟩
  have hreader := h.readPosition_eq
  by_cases hend : position % sectorPayloadSize + count = sectorPayloadSize
  · have hquotient : (position + count) / sectorPayloadSize =
        position / sectorPayloadSize + 1 := by
      simp only [sectorPayloadSize_eq] at *
      omega
    have hremainder : (position + count) % sectorPayloadSize = 0 := by
      simp only [sectorPayloadSize_eq] at *
      omega
    rw [hquotient, hremainder, ← Nat.add_assoc, Nat.add_zero]
    apply readPosition_sector_end
    simp only [sectorPayloadSize_eq, flashBytesPerSector,
      sectorHeaderSize] at *
    omega
  · have hquotient : (position + count) / sectorPayloadSize =
        position / sectorPayloadSize := by
      simp only [sectorPayloadSize_eq] at *
      omega
    have hremainder : (position + count) % sectorPayloadSize =
        position % sectorPayloadSize + count := by
      simp only [sectorPayloadSize_eq] at *
      omega
    rw [LogInfo.readPosition, if_neg, hquotient, hremainder]
    · dsimp only
      omega
    · dsimp only
      simp only [sectorPayloadSize_eq, flashBytesPerSector,
        sectorHeaderSize] at *
      omega

theorem ReadsAt.readBytes_eq {history : Bytes} {flash : Memory} {count : Nat}
    {writer : LogInfo type} (hstores : LogStores history writer flash)
    (h : ReadsAt info history.length position) (hpos : 0 < count)
    (hcount : position % sectorPayloadSize + count ≤ sectorPayloadSize)
    (hleft : position + count ≤ readableSize type history.length) :
    readBytes flash (type.baseAddr + info.readPosition) count =
      (history.drop (droppedSectors type history.length * sectorPayloadSize +
        position)).take count := by
  have hwindow : InWindow (sectorCount history.length) type.sectorNum
      (droppedSectors type history.length + position / sectorPayloadSize) :=
    inWindow_position (by omega)
  have hheld := (hstores.stores.held _ hwindow).stored
  have hstart : (droppedSectors type history.length +
      position / sectorPayloadSize) * sectorPayloadSize +
      position % sectorPayloadSize =
      droppedSectors type history.length * sectorPayloadSize + position := by
    rw [Nat.add_mul, Nat.add_assoc, Nat.div_add_mod']
  have hreader := h.readPosition_eq
  rw [readableSize] at hleft
  generalize droppedSectors type history.length +
    position / sectorPayloadSize = number at *
  have hlength := length_sectorContent number history
  have haddr : type.baseAddr + info.readPosition =
      type.sectorAddr (number % type.sectorNum) +
        (sectorHeaderSize + position % sectorPayloadSize) := by
    rw [hreader, LogType.sectorAddr]
    omega
  have hfits : sectorHeaderSize + position % sectorPayloadSize + count ≤
      (sectorHeader (UInt16.ofNat number) ++
        piece sectorPayloadSize history number).length := by
    omega
  have hskip : (sectorHeader (UInt16.ofNat number) ++
      piece sectorPayloadSize history number).drop sectorHeaderSize =
      piece sectorPayloadSize history number := List.drop_left' rfl
  rw [haddr, readBytes_inside hfits, hheld, ← List.drop_drop, hskip,
    take_drop_piece history hcount, hstart]

/-- One call delivers the next bytes and leaves the reader behind them. -/
theorem logReadLoop_delivers {history : Bytes} {flash : Memory}
    {writer : LogInfo type} (hstores : LogStores history writer flash)
    (hplain : ¬WrappedAtBoundary type history.length)
    {fuel bufSize : Nat} (hfuel : bufSize ≤ fuel)
    (h : ReadsAt info history.length position)
    (hleft : position + bufSize ≤ readableSize type history.length) :
    (logReadLoop flash fuel info bufSize).2 =
        (history.drop (droppedSectors type history.length *
          sectorPayloadSize + position)).take bufSize ∧
      ReadsAt (logReadLoop flash fuel info bufSize).1 history.length
        (position + bufSize) := by
  induction fuel generalizing info bufSize position with
  | zero =>
      obtain rfl := Nat.le_zero.mp hfuel
      exact ⟨rfl, h⟩
  | succ fuel ih =>
      rcases Nat.eq_zero_or_pos bufSize with rfl | hpos
      · exact ⟨rfl, h⟩
      · have havailable := h.available (by omega) hplain
        have hinside : position % sectorPayloadSize < sectorPayloadSize :=
          Nat.mod_lt _ (by decide)
        rw [logReadLoop_succ flash fuel info hpos (by omega)]
        generalize hcount : min bufSize info.available = count
        have hcount_pos : 0 < count := by omega
        have hsector : position % sectorPayloadSize + count ≤
            sectorPayloadSize := by omega
        have hrest : count + (bufSize - count) = bufSize := by omega
        have hfuel' : bufSize - count ≤ fuel := by omega
        have hleft' : position + count + (bufSize - count) ≤
            readableSize type history.length := by omega
        obtain ⟨hread, hreads⟩ :=
          ih hfuel' (h.advance hcount_pos hsector) hleft'
        have hdata := ReadsAt.readBytes_eq hstores h hcount_pos hsector
          (by omega)
        constructor
        · dsimp only
          rw [hdata, hread, ← Nat.add_assoc]
          conv_rhs => rw [← hrest, List.take_add, List.drop_drop]
        · have htotal : position + count + (bufSize - count) =
              position + bufSize := by omega
          rw [htotal] at hreads
          exact hreads

end Reading

/-! ## The size and the pieces -/

def logReads (flash : Memory) : LogInfo type → List Nat → Bytes
  | _, [] => []
  | info, size :: sizes =>
      let result := logRead flash info size
      result.2 ++ logReads flash result.1 sizes

theorem logReads_delivers {history : Bytes} {flash : Memory}
    {writer info : LogInfo type} (hstores : LogStores history writer flash)
    (hplain : ¬WrappedAtBoundary type history.length)
    {position : Nat} {sizes : List Nat}
    (h : ReadsAt info history.length position)
    (hleft : position + sizes.sum ≤ readableSize type history.length) :
    logReads flash info sizes =
      (history.drop (droppedSectors type history.length * sectorPayloadSize +
        position)).take sizes.sum := by
  induction sizes generalizing info position with
  | nil => rfl
  | cons size sizes ih =>
      rw [List.sum_cons] at hleft
      have hfirst : position + size ≤ readableSize type history.length := by
        omega
      obtain ⟨hread, hreads⟩ :=
        logReadLoop_delivers hstores hplain le_rfl h hfirst
      rw [logReads, logRead, hread, ih hreads (by omega), List.sum_cons,
        List.take_add, List.drop_drop, Nat.add_assoc]

section Prepare

variable {history : Bytes} {flash : Memory} {info : LogInfo type}

/-- `prepare_read` goes to the oldest sector of a ring that has been used. -/
theorem LogStores.prepareRead (h : LogStores history info flash)
    (hused : 0 < history.length)
    (hopened : sectorCount history.length < 32768) :
    WncFirmware.prepareRead flash info =
      { info with
        readOffset := droppedSectors type history.length %
          type.sectorNum * flashBytesPerSector } := by
  have hpos := type.sectorNum_pos
  have hscan := scanStops_full type.sectorNum (sectorCount history.length)
  have hcount : 0 < sectorCount history.length := by
    simp only [sectorCount, pieceCount, sectorPayloadSize_eq]
    omega
  have hwindow : InWindow (sectorCount history.length) type.sectorNum
      (droppedSectors type history.length) := by
    simp only [InWindow, droppedSectors]
    omega
  have hseen : droppedSectors type history.length % type.sectorNum <
      min (sectorCount history.length) type.sectorNum := by
    have hlt := Nat.mod_lt (droppedSectors type history.length) hpos
    have hle := Nat.mod_le (droppedSectors type history.length) type.sectorNum
    have hbelow := hwindow.1
    omega
  apply prepareRead_of_search
  refine h.stores.search_oldest hscan hwindow ?_ hseen hopened.le
  intro place hplace
  have hkept := (hscan.seen place hplace).2
  simp only [InWindow, droppedSectors] at *
  omega

theorem LogStores.readsAt_start (h : LogStores history info flash)
    (hused : 0 < history.length)
    (hopened : sectorCount history.length < 32768) :
    ReadsAt (WncFirmware.prepareRead flash info) history.length 0 := by
  have hlt := Nat.mod_lt (droppedSectors type history.length)
    type.sectorNum_pos
  have hinside : ¬type.maxSize ≤ droppedSectors type history.length %
      type.sectorNum * flashBytesPerSector := by
    simp only [LogType.maxSize, flashBytesPerSector]
    omega
  rw [h.prepareRead hused hopened]
  refine ⟨?_, h.writeOffset_eq⟩
  rw [LogInfo.readPosition]
  dsimp only
  rw [if_pos (Nat.mul_mod_left _ _), if_neg hinside, Nat.zero_div,
    Nat.add_zero, Nat.zero_mod, Nat.add_zero]

/-- The last sector adds its payload, also when the writer has left it. -/
theorem calculateFileSize_sectors {place rest : Nat}
    (hwrite : info.writeOffset =
      place * flashBytesPerSector + sectorHeaderSize + rest)
    (hrest : rest ≤ sectorPayloadSize)
    (hread : ¬info.writeOffset < info.readOffset) :
    WncFirmware.calculateFileSize info = place * sectorPayloadSize + rest := by
  rw [WncFirmware.calculateFileSize, if_neg hread]
  by_cases hfull : rest = sectorPayloadSize
  · obtain ⟨hplace, hinside⟩ := sectorOffset_end (hfull ▸ hwrite)
    rw [hplace, hinside, if_pos rfl, hfull, Nat.add_zero, Nat.succ_mul]
    rfl
  · obtain ⟨hplace, hinside⟩ := sectorOffset_inside hwrite (by omega)
    have hend : ¬sectorHeaderSize + rest = 0 := by
      rw [sectorHeaderSize]
      omega
    rw [hplace, hinside, if_neg hend, Nat.add_sub_cancel_left]
    rfl

/-- A ring that has wrapped is taken to have all sectors but the last full. -/
theorem calculateFileSize_wrapped {place rest : Nat}
    (hwrite : info.writeOffset =
      place * flashBytesPerSector + sectorHeaderSize + rest)
    (hrest : rest < sectorPayloadSize)
    (hread : info.writeOffset < info.readOffset) :
    WncFirmware.calculateFileSize info =
      (type.sectorNum - 1) * sectorPayloadSize + rest := by
  have hinside := (sectorOffset_inside hwrite hrest).2
  have hend : ¬sectorHeaderSize + rest = 0 := by
    rw [sectorHeaderSize]
    omega
  rw [WncFirmware.calculateFileSize, if_pos hread]
  rw [hinside, if_neg hend, Nat.add_sub_cancel_left]
  rfl

theorem LogStores.calculateFileSize (h : LogStores history info flash)
    (hused : 0 < history.length)
    (hopened : sectorCount history.length < 32768) :
    WncFirmware.calculateFileSize (WncFirmware.prepareRead flash info) =
        readableSize type history.length ↔
      ¬WrappedAtBoundary type history.length := by
  rcases sectorCount_cases history.length with
    ⟨hzero, -⟩ | ⟨newest, rest, hlength, hrest_pos, hrest, hcount⟩
  · omega
  · have hfull := sectorFull_iff hlength hcount
    have hprepared := h.prepareRead hused hopened
    have hwrite : (WncFirmware.prepareRead flash info).writeOffset =
        newest % type.sectorNum * flashBytesPerSector + sectorHeaderSize +
          rest := by
      rw [hprepared, ← writePosition_succ, ← hlength, ← hcount]
      exact h.writeOffset_eq
    have hread : (WncFirmware.prepareRead flash info).readOffset =
        (newest + 1 - type.sectorNum) % type.sectorNum *
          flashBytesPerSector := by
      rw [hprepared, droppedSectors, hcount]
    rw [WrappedAtBoundary, hfull, hcount, readableSize, droppedSectors, hcount]
    rw [hlength]
    clear hprepared hfull hcount hlength hused h
    generalize WncFirmware.prepareRead flash info = prepared at *
    by_cases hbehind : prepared.writeOffset < prepared.readOffset
    · have hopen : rest < sectorPayloadSize := by
        rw [hwrite, hread] at hbehind
        cases type <;>
          simp only [LogType.sectorNum, sectorPayloadSize_eq,
            flashBytesPerSector, sectorHeaderSize] at * <;>
          omega
      rw [calculateFileSize_wrapped hwrite hopen hbehind]
      rw [hwrite, hread] at hbehind
      cases type <;>
        simp only [LogType.sectorNum, sectorPayloadSize_eq,
          flashBytesPerSector, sectorHeaderSize] at * <;>
        omega
    · rw [calculateFileSize_sectors hwrite hrest hbehind]
      rw [hwrite, hread] at hbehind
      cases type <;>
        simp only [LogType.sectorNum, sectorPayloadSize_eq,
          flashBytesPerSector, sectorHeaderSize] at * <;>
        omega

/--
The size is the payload of the sectors in use, and reading with buffers of any
sizes that add up to it gives the end of the history.
-/
structure ReadsBack (flash : Memory) (info : LogInfo type)
    (ops : List FlashOp) (history : Bytes) : Prop where
  size_eq : (prepareReadLog flash info).2 = payloadInUse type ops
  reads_last : ∀ sizes : List Nat, (∀ size ∈ sizes, 0 < size) →
    sizes.sum = (prepareReadLog flash info).2 →
      logReads flash (prepareReadLog flash info).1 sizes =
        history.drop (history.length - (prepareReadLog flash info).2)

theorem LogStores.prepareReadLog_empty (h : LogStores [] info flash)
    (hread : info.readOffset = 0) :
    prepareReadLog flash info = (info, 0) := by
  have hwrite : info.writeOffset = 0 := h.writeOffset_eq
  have hfree := h.stores.free 0 type.sectorNum_pos fun number hwindow =>
    absurd hwindow.1 (Nat.not_lt_zero _)
  rw [LogType.sectorAddr, Nat.zero_mul, Nat.add_zero] at hfree
  have hprepared : WncFirmware.prepareRead flash info = info := by
    rw [WncFirmware.prepareRead, searchSectors_none (readHeader_erased hfree)]
  have hsize : WncFirmware.calculateFileSize info = 0 := by
    simp [WncFirmware.calculateFileSize, hwrite, hread]
  rw [prepareReadLog, hprepared, hsize]

theorem LogStores.readsBack_iff {ops : List FlashOp}
    (h : LogStores history info flash)
    (hheld : payloadInUse type ops = readableSize type history.length)
    (hread : info.readOffset = 0)
    (hopened : sectorCount history.length < 32768) :
    ReadsBack flash info ops history ↔
      ¬WrappedAtBoundary type history.length := by
  rcases List.eq_nil_or_concat history with rfl | ⟨front, last, rfl⟩
  · have hempty := h.prepareReadLog_empty hread
    have hplain : ¬WrappedAtBoundary type ([] : Bytes).length := by
      rintro ⟨hwrapped, -, -⟩
      exact Nat.not_lt_zero _ hwrapped
    refine iff_of_true ⟨?_, ?_⟩ hplain
    · rw [hempty, hheld]
      simp [readableSize]
    · intro sizes hpos hsum
      rw [hempty] at hsum ⊢
      cases sizes with
      | nil => rfl
      | cons size sizes =>
          have hfirst := hpos size List.mem_cons_self
          rw [List.sum_cons] at hsum
          dsimp only at hsum
          omega
  · have hused : 0 < (front.concat last).length := by simp
    have hsize := h.calculateFileSize hused hopened
    generalize front.concat last = history at *
    constructor
    · intro hback
      exact hsize.mp (hback.size_eq.trans hheld)
    · intro hplain
      have hsize' : (prepareReadLog flash info).2 =
          readableSize type history.length := hsize.mpr hplain
      refine ⟨hsize'.trans hheld.symm, ?_⟩
      intro sizes hpos hsum
      have hstart := h.readsAt_start hused hopened
      rw [hsize'] at hsum ⊢
      have hdropped : history.length - readableSize type history.length =
          droppedSectors type history.length * sectorPayloadSize := by
        have hsectors := type.sectorNum_pos
        simp only [readableSize, droppedSectors, sectorCount, pieceCount,
          sectorPayloadSize_eq]
        omega
      have hall : 0 + sizes.sum ≤ readableSize type history.length := by
        omega
      have hreads := logReads_delivers h hplain hstart hall
      rw [Nat.add_zero] at hreads
      rw [hdropped, ← List.take_of_length_le (i := sizes.sum)
        (l := history.drop (droppedSectors type history.length *
          sectorPayloadSize)), ← hreads]
      · rfl
      · rw [List.length_drop, hsum, readableSize]

end Prepare

theorem logWrites_readOffset (info : LogInfo type) (writes : List Bytes) :
    (logWrites info writes).1.readOffset = info.readOffset := by
  have hsame := logWrites_readingFrom info info.readOffset writes
  exact congrArg (fun result => result.1.readOffset) hsame

theorem perpareWriteInfo_readOffset (flash : Memory) (type : LogType) :
    (perpareWriteInfo flash type).readOffset = 0 := by
  unfold perpareWriteInfo
  split <;> rfl

theorem readsBack_after_writes (device : Device) (type : LogType)
    (writes : List Bytes)
    (herased : Erased type.baseAddr (type.baseAddr + type.maxSize)
      device.flash)
    (hopened : sectorCount writes.flatten.length < 32768) :
    let written := logWrites ((logsInit device).logInfo type) writes
    ReadsBack (applyOps device.flash written.2) written.1 written.2
        writes.flatten ↔
      ¬WrappedAtBoundary type writes.flatten.length := by
  intro written
  have hstart := LogStores.erased herased
  rw [← logsInit_logInfo] at hstart
  have hheld := logWrites_held hstart (HeldStores.empty type) writes
  have hread : written.1.readOffset = 0 := by
    rw [logWrites_readOffset, logsInit_logInfo, perpareWriteInfo_readOffset]
  exact (logWrites_stores hstart writes).readsBack_iff hheld.total hread hopened

theorem log_reads_back_iff (device : Device) (type : LogType)
    (writes : List Bytes)
    (herased : Erased type.baseAddr (type.baseAddr + type.maxSize)
      device.flash)
    (hopened : sectorCount writes.flatten.length < 32768) :
    let booted := logsInit device
    let written := logWrites (booted.logInfo type) writes
    ReadsBack (booted.run written.2).flash written.1 written.2
        writes.flatten ↔
      ¬WrappedAtBoundary type writes.flatten.length :=
  readsBack_after_writes device type writes herased hopened

theorem log_reads_back_wrapped :
    let booted := logsInit Device.blank
    let written := logWrites (booted.logInfo .systemLog) wrappedHistory
    ReadsBack (booted.run written.2).flash written.1 written.2
      wrappedHistory.flatten := by
  refine (log_reads_back_iff Device.blank .systemLog wrappedHistory
    (fun _ _ _ => rfl) ?_).mpr ?_
  · rw [length_wrappedHistory]
    decide
  · rw [length_wrappedHistory]
    decide

theorem not_readsBack_at_boundary (filled : Bytes)
    (hfilled : filled.length = 69564) :
    let booted := logsInit Device.blank
    let written := logWrites (booted.logInfo .systemLog) [filled]
    ¬ReadsBack (booted.run written.2).flash written.1 written.2 filled := by
  intro booted written hback
  have hhistory : [filled].flatten = filled := by simp
  have hopened : sectorCount [filled].flatten.length < 32768 := by
    rw [hhistory, hfilled]
    decide
  have hiff := readsBack_after_writes Device.blank .systemLog [filled]
    (fun _ _ _ => rfl) hopened
  rw [hhistory, hfilled] at hiff
  exact hiff.mp hback (by decide)

/-- Seventeen full sectors: the ring has wrapped and its first place is full. -/
theorem boundary_log_not_read_back :
    let booted := logsInit Device.blank
    let written := logWrites (booted.logInfo .systemLog)
      [List.replicate 69564 65]
    ¬ReadsBack (booted.run written.2).flash written.1 written.2
      (List.replicate 69564 65) :=
  not_readsBack_at_boundary _ List.length_replicate

end WncFirmware
