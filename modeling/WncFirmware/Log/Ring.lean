import WncFirmware.FlashLayout

/-!
# The log rings

`log_base.c`: a log occupies a ring of sectors, each with a header that carries
a use flag and a serial number.  A log is given by its type, which fixes the
sectors of the ring, and by the variable part of `struct log_info`.
-/

namespace WncFirmware

open WncFirmware.Foundation

inductive LogType where
  | systemLog
  | workStateLog
  deriving DecidableEq, Repr

namespace LogType

def baseAddr : LogType → Nat
  | systemLog => systemLogBaseAddr
  | workStateLog => workStateLogBaseAddr

def sectorNum : LogType → Nat
  | systemLog => 16
  | workStateLog => 32

def maxSize (type : LogType) : Nat := type.sectorNum * flashBytesPerSector

end LogType

/-- The write position stays inside the ring, or just behind its last byte. -/
structure LogInfo (type : LogType) where
  nextSn : UInt16
  writeOffset : Nat
  readOffset : Nat
  writeOffset_le : writeOffset ≤ type.maxSize

def sectorUseFlag : UInt16 := 0xa5a5

def sectorHeaderSize : Nat := 4

def sectorHeader (sn : UInt16) : Bytes :=
  littleEndian16 sectorUseFlag ++ littleEndian16 sn

def snAfter (first second : UInt16) : Bool :=
  second.toInt16.toInt - first.toInt16.toInt < 0

variable {type : LogType}

/-! ## Writing -/

theorem writeOffset_room {offset count : Nat} (hle : offset ≤ type.maxSize)
    (hinside : offset % flashBytesPerSector ≠ 0)
    (hcount : count ≤
      flashBytesPerSector - offset % flashBytesPerSector) :
    offset + count ≤ type.maxSize := by
  cases type <;>
    simp only [LogType.maxSize, LogType.sectorNum, flashBytesPerSector] at * <;>
    omega

/-- The part of the `log_write` loop that opens a sector. -/
def LogInfo.openSector (info : LogInfo type) :
    LogInfo type × List FlashOp :=
  if hboundary : info.writeOffset % flashBytesPerSector = 0 then
    let offset := if type.maxSize ≤ info.writeOffset then 0 else info.writeOffset
    let addr := type.baseAddr + offset
    ({ nextSn := info.nextSn + 1
       writeOffset := offset + sectorHeaderSize
       readOffset := info.readOffset
       writeOffset_le := by
        have hle := info.writeOffset_le
        simp only [offset]
        cases type <;> split <;>
          simp only [LogType.maxSize, LogType.sectorNum, flashBytesPerSector,
            sectorHeaderSize] at * <;> omega },
      [sctErase addr, deviceWrite addr (sectorHeader info.nextSn)])
  else (info, [])

theorem LogInfo.openSector_inside (info : LogInfo type) :
    info.openSector.1.writeOffset % flashBytesPerSector ≠ 0 := by
  unfold openSector
  split
  case isFalse hinside => exact hinside
  case isTrue hboundary =>
    dsimp only
    split
    · decide
    · simp only [flashBytesPerSector, sectorHeaderSize] at *
      omega

def LogInfo.advance (info : LogInfo type) (count : Nat)
    (hinside : info.writeOffset % flashBytesPerSector ≠ 0)
    (hcount : count ≤
      flashBytesPerSector - info.writeOffset % flashBytesPerSector) :
    LogInfo type :=
  { info with
    writeOffset := info.writeOffset + count
    writeOffset_le := writeOffset_room info.writeOffset_le hinside hcount }

/-- `log_write`; every pass of its loop writes at least one byte. -/
def logWriteLoop : Nat → LogInfo type → Bytes → LogInfo type × List FlashOp
  | 0, info, _ => (info, [])
  | fuel + 1, info, bytes =>
      if bytes = [] then (info, [])
      else
        let opened := info.openSector
        let count := min (flashBytesPerSector -
          opened.1.writeOffset % flashBytesPerSector) bytes.length
        let written := deviceWrite (type.baseAddr + opened.1.writeOffset)
          (bytes.take count)
        let later := logWriteLoop fuel
          (opened.1.advance count info.openSector_inside (Nat.min_le_left _ _))
          (bytes.drop count)
        (later.1, opened.2 ++ written :: later.2)

def logWrite (info : LogInfo type) (bytes : Bytes) :
    LogInfo type × List FlashOp :=
  logWriteLoop bytes.length info bytes

/-! ## The ring is never left -/

def InsideRing (type : LogType) (op : FlashOp) : Prop :=
  type.baseAddr ≤ op.start ∧
    op.start + op.size ≤ type.baseAddr + type.maxSize

theorem openSector_insideRing (info : LogInfo type) :
    ∀ op ∈ info.openSector.2, InsideRing type op := by
  have hle := info.writeOffset_le
  unfold LogInfo.openSector
  split
  case isFalse => simp
  case isTrue hboundary =>
    intro op hop
    have hheader : (sectorHeader info.nextSn).length = 4 := rfl
    simp only [List.mem_cons, List.not_mem_nil, or_false] at hop
    rcases hop with rfl | rfl
    · cases type <;> split <;>
        simp only [InsideRing, sctErase, FlashOp.start, FlashOp.size,
          LogType.baseAddr, LogType.maxSize, LogType.sectorNum,
          systemLogBaseAddr, workStateLogBaseAddr, flashBytesPerSector] at * <;>
        omega
    · cases type <;> split <;>
        simp only [InsideRing, deviceWrite, FlashOp.start,
          FlashOp.size, LogType.baseAddr, LogType.maxSize, LogType.sectorNum,
          systemLogBaseAddr, workStateLogBaseAddr, flashBytesPerSector,
          hheader] at * <;>
        omega

theorem logWriteLoop_insideRing (fuel : Nat) (info : LogInfo type)
    (bytes : Bytes) :
    ∀ op ∈ (logWriteLoop fuel info bytes).2, InsideRing type op := by
  induction fuel generalizing info bytes with
  | zero => simp [logWriteLoop]
  | succ fuel ih =>
      rw [logWriteLoop]
      split
      · simp
      · intro op hop
        rcases List.mem_append.mp hop with hopened | hrest
        · exact openSector_insideRing info op hopened
        · rcases List.mem_cons.mp hrest with rfl | hlater
          · have hroom := writeOffset_room info.openSector.1.writeOffset_le
              info.openSector_inside (Nat.min_le_left _ bytes.length)
            constructor
            · exact Nat.le_add_right _ _
            · simp only [deviceWrite, FlashOp.start, FlashOp.size,
                List.length_take]
              omega
          · exact ih _ _ op hlater

theorem logWrite_insideRing (info : LogInfo type) (bytes : Bytes) :
    ∀ op ∈ (logWrite info bytes).2, InsideRing type op :=
  logWriteLoop_insideRing bytes.length info bytes

/-! ## Reading -/

structure SectorHeader where
  used : UInt16
  sn : UInt16

def readHeader (flash : Memory) (addr : Nat) : SectorHeader :=
  let bytes := readBytes flash addr sectorHeaderSize
  ⟨read16 bytes 0, read16 bytes 2⟩

/--
The search loops of `perpare_write_info` and `prepare_read`: the sectors from
`index` on are compared with the best one so far until one is not in use.  The
result is the number of sectors seen and the best of them.
-/
def searchSectors (flash : Memory) (base : Nat)
    (better : UInt16 → UInt16 → Bool) :
    Nat → Nat → Option (UInt16 × Nat) → Nat × Option (UInt16 × Nat)
  | 0, index, best => (index, best)
  | count + 1, index, best =>
      let header := readHeader flash (base + index * flashBytesPerSector)
      if header.used = sectorUseFlag then
        let best := match best with
          | none => some (header.sn, index)
          | some (sn, sector) =>
              if better header.sn sn then some (header.sn, index)
              else some (sn, sector)
        searchSectors flash base better count (index + 1) best
      else (index, best)

theorem searchSectors_lt (flash : Memory) (base : Nat)
    (better : UInt16 → UInt16 → Bool) {count index bound : Nat}
    (best : Option (UInt16 × Nat)) (hbound : index + count ≤ bound)
    (hbest : ∀ found ∈ best, found.2 < bound) :
    ∀ found ∈ (searchSectors flash base better count index best).2,
      found.2 < bound := by
  induction count generalizing index best with
  | zero => exact hbest
  | succ count ih =>
      simp only [searchSectors]
      split
      case isFalse => exact hbest
      case isTrue =>
        apply ih _ (by omega)
        intro found hfound
        cases best with
        | none =>
            obtain rfl : _ = found := by simpa using hfound
            dsimp only
            omega
        | some current =>
            have hcurrent := hbest current rfl
            dsimp only at hfound
            split at hfound
            · obtain rfl : _ = found := by simpa using hfound
              dsimp only
              omega
            · obtain rfl : _ = found := by simpa using hfound
              exact hcurrent

/-- The offset in a sector behind its last byte that is not `0xff`. -/
def usedInSector (flash : Memory) (addr : Nat) : Nat :=
  sectorHeaderSize + ((readBytes flash (addr + sectorHeaderSize)
    (flashBytesPerSector - sectorHeaderSize)).takeWhile (· != 0xff)).length

theorem usedInSector_le (flash : Memory) (addr : Nat) :
    usedInSector flash addr ≤ flashBytesPerSector := by
  have hle := (List.takeWhile_sublist (p := (· != 0xff)) (l := readBytes flash
    (addr + sectorHeaderSize) (flashBytesPerSector - sectorHeaderSize))).length_le
  rw [length_readBytes] at hle
  simp only [usedInSector, flashBytesPerSector, sectorHeaderSize] at *
  omega

def perpareWriteInfo (flash : Memory) (type : LogType) : LogInfo type :=
  match h : (searchSectors flash type.baseAddr snAfter type.sectorNum 0
      none).2 with
  | none => ⟨0, 0, 0, by simp⟩
  | some (max, sector) =>
      { nextSn := max + 1
        writeOffset := sector * flashBytesPerSector +
          usedInSector flash (type.baseAddr + sector * flashBytesPerSector)
        readOffset := 0
        writeOffset_le := by
          have hsector : sector < type.sectorNum :=
            searchSectors_lt flash type.baseAddr snAfter none
              (Nat.zero_add _).le (by simp) (max, sector) (by simp [h])
          have hused := usedInSector_le flash
            (type.baseAddr + sector * flashBytesPerSector)
          simp only [LogType.maxSize, flashBytesPerSector] at *
          omega }

def prepareRead (flash : Memory) (info : LogInfo type) : LogInfo type :=
  match (searchSectors flash type.baseAddr (fun sn min => snAfter min sn)
      type.sectorNum 0 none).2 with
  | none => info
  | some (_, sector) =>
      { info with readOffset := sector * flashBytesPerSector }

def calculateFileSize (info : LogInfo type) : Nat :=
  let sctNum := if info.writeOffset < info.readOffset then type.sectorNum - 1
    else info.writeOffset / flashBytesPerSector
  let inside := info.writeOffset % flashBytesPerSector
  sctNum * (flashBytesPerSector - sectorHeaderSize) +
    if inside = 0 then 0 else inside - sectorHeaderSize

/-- `log_read`; every pass of its loop reads at least one byte or returns. -/
def logReadLoop (flash : Memory) :
    Nat → LogInfo type → Nat → LogInfo type × Bytes
  | 0, info, _ => (info, [])
  | fuel + 1, info, bufSize =>
      if bufSize = 0 then (info, [])
      else
        let offset :=
          if info.readOffset % flashBytesPerSector = 0 then
            (if type.maxSize ≤ info.readOffset then 0 else info.readOffset) +
              sectorHeaderSize
          else info.readOffset
        let available :=
          if offset / flashBytesPerSector ≠
              info.writeOffset / flashBytesPerSector then
            flashBytesPerSector - offset % flashBytesPerSector
          else (info.writeOffset + 2 ^ 32 - offset) % 2 ^ 32
        if available = 0 then ({ info with readOffset := offset }, [])
        else
          let count := min bufSize available
          let later := logReadLoop flash fuel
            { info with readOffset := offset + count } (bufSize - count)
          (later.1,
            readBytes flash (type.baseAddr + offset) count ++ later.2)

def logRead (flash : Memory) (info : LogInfo type) (bufSize : Nat) :
    LogInfo type × Bytes :=
  logReadLoop flash bufSize info bufSize

theorem length_logReadLoop_le (flash : Memory) (fuel : Nat)
    (info : LogInfo type) (bufSize : Nat) :
    (logReadLoop flash fuel info bufSize).2.length ≤ bufSize := by
  induction fuel generalizing info bufSize with
  | zero => simp [logReadLoop]
  | succ fuel ih =>
      unfold logReadLoop
      split
      · simp
      · extract_lets offset available count later
        split
        · simp
        · have hlater : later.2.length ≤ bufSize - count := ih _ _
          have hcount : count ≤ bufSize := Nat.min_le_left _ _
          simp only [List.length_append, length_readBytes]
          omega

theorem length_logRead_le (flash : Memory) (info : LogInfo type)
    (bufSize : Nat) : (logRead flash info bufSize).2.length ≤ bufSize :=
  length_logReadLoop_le flash bufSize info bufSize

end WncFirmware
