import WncFirmware.Device
import WncFirmware.Log.History

/-!
# Log recovery

After a reboot `logs_init` finds the position of the writer from the sector
headers and from the first erased byte of the newest sector.
-/

namespace WncFirmware

open WncFirmware.Foundation

variable {type : LogType}

/-! ## Serial numbers -/

theorem snAfter_ofNat {first second : Nat} (hfirst : first < 32768)
    (hsecond : second < 32768) :
    snAfter (UInt16.ofNat first) (UInt16.ofNat second) =
      decide (second < first) := by
  rw [snAfter, UInt16.toInt16_ofNat', UInt16.toInt16_ofNat',
    Int16.toInt_ofNat_of_lt hfirst, Int16.toInt_ofNat_of_lt hsecond]
  exact decide_eq_decide.mpr (by omega)

/-! ## The search for a sector -/

section Search

variable {flash : Memory} {base stop total target : Nat}
  {better : UInt16 → UInt16 → Bool}

theorem searchSectors_from (sn : Nat → UInt16)
    (hused : ∀ place, place < stop →
      readHeader flash (base + place * flashBytesPerSector) =
        ⟨sectorUseFlag, sn place⟩)
    (hstop : stop = total ∨ stop < total ∧
      (readHeader flash (base + stop * flashBytesPerSector)).used ≠
        sectorUseFlag)
    (htarget : target < stop)
    (hbest : ∀ place, place < stop → place ≠ target →
      better (sn target) (sn place) = true ∧
        better (sn place) (sn target) = false)
    {count index : Nat} {best : Option (UInt16 × Nat)}
    (htotal : index + count = total) (hindex : index ≤ stop)
    (hbefore : index ≤ target →
      best = none ∨ ∃ place, place < index ∧ best = some (sn place, place))
    (hbehind : target < index → best = some (sn target, target)) :
    (searchSectors flash base better count index best).2 =
      some (sn target, target) := by
  induction count generalizing index best with
  | zero =>
      apply hbehind
      omega
  | succ count ih =>
      simp only [searchSectors]
      by_cases hin : index < stop
      · rw [hused index hin, if_pos rfl]
        apply ih (by omega) (by omega)
        · intro hle
          right
          rcases hbefore (by omega) with rfl | ⟨place, hplace, rfl⟩
          · exact ⟨index, by omega, rfl⟩
          · dsimp only
            split
            · exact ⟨index, by omega, rfl⟩
            · exact ⟨place, by omega, rfl⟩
        · intro hlt
          rcases Nat.lt_or_ge target index with hpassed | hhere
          · rw [hbehind hpassed]
            dsimp only
            rw [(hbest index hin (by omega)).2]
            rfl
          · obtain rfl : index = target := by omega
            rcases hbefore le_rfl with rfl | ⟨place, hplace, rfl⟩
            · rfl
            · dsimp only
              rw [(hbest place (by omega) (by omega)).1]
              rfl
      · obtain rfl : index = stop := by omega
        rcases hstop with hall | ⟨-, hunused⟩
        · omega
        · rw [if_neg hunused]
          exact hbehind htarget

theorem searchSectors_none
    (h : (readHeader flash base).used ≠ sectorUseFlag) (count : Nat) :
    (searchSectors flash base better count 0 none).2 = none := by
  cases count with
  | zero => rfl
  | succ count =>
      simp only [searchSectors, Nat.zero_mul, Nat.add_zero]
      rw [if_neg h]

end Search

/-! ## Headers of a ring that follows its history -/

section Headers

variable {history : Bytes} {opened kept : Nat} {flash : Memory}

theorem readHeader_of_readBytes {addr : Nat} {number : UInt16} {rest : Bytes}
    (h : readBytes flash addr (sectorHeader number ++ rest).length =
      sectorHeader number ++ rest) :
    readHeader flash addr = ⟨sectorUseFlag, number⟩ := by
  have hheader : readBytes flash addr sectorHeaderSize =
      sectorHeader number := by
    rw [List.length_append, readBytes_add] at h
    exact (List.append_inj h (length_readBytes _ _ _)).1
  rw [readHeader, hheader]
  simp only [SectorHeader.mk.injEq]
  exact ⟨read16_of_bytes rfl rfl, read16_of_bytes rfl rfl⟩

theorem readHeader_erased {addr : Nat}
    (h : Erased addr (addr + flashBytesPerSector) flash) :
    (readHeader flash addr).used ≠ sectorUseFlag := by
  have hbytes : readBytes flash addr sectorHeaderSize =
      List.replicate sectorHeaderSize 0xff := by
    apply readBytes_erased
    apply h.mono le_rfl
    simp only [sectorHeaderSize, flashBytesPerSector]
    omega
  rw [readHeader, hbytes]
  decide

theorem RingStores.readHeader_held
    (h : RingStores type history opened kept flash) {number : Nat}
    (hkept : InWindow opened kept number) :
    readHeader flash (type.sectorAddr (number % type.sectorNum)) =
      ⟨sectorUseFlag, UInt16.ofNat number⟩ :=
  readHeader_of_readBytes (h.held number hkept).stored

/-- The scan sees the places below `stop` and finds the best of them. -/
theorem RingStores.search (h : RingStores type history opened kept flash)
    {stop target : Nat} {better : UInt16 → UInt16 → Bool}
    (hscan : ScanStops type.sectorNum opened kept stop)
    (htarget : target < stop)
    (hbest : ∀ place, place < stop → place ≠ target →
      better (UInt16.ofNat (latestAt type.sectorNum opened target))
          (UInt16.ofNat (latestAt type.sectorNum opened place)) = true ∧
        better (UInt16.ofNat (latestAt type.sectorNum opened place))
          (UInt16.ofNat (latestAt type.sectorNum opened target)) = false) :
    (searchSectors flash type.baseAddr better type.sectorNum 0 none).2 =
      some (UInt16.ofNat (latestAt type.sectorNum opened target), target) := by
  refine searchSectors_from
    (fun place => UInt16.ofNat (latestAt type.sectorNum opened place))
    ?_ ?_ htarget hbest (Nat.zero_add _) (Nat.zero_le _) ?_ ?_
  · intro place hplace
    obtain ⟨hlt, hkept⟩ := hscan.seen place hplace
    have hheader := h.readHeader_held hkept
    rw [latestAt_mod opened hlt] at hheader
    exact hheader
  · rcases hscan.stops with hall | ⟨hlt, hunused⟩
    · exact .inl hall
    · exact .inr ⟨hlt, readHeader_erased (h.free stop hlt hunused)⟩
  · intro _
    exact .inl rfl
  · intro hlt
    exact absurd hlt (Nat.not_lt_zero _)

theorem RingStores.search_newest {newest stop : Nat}
    (h : RingStores type history (newest + 1) kept flash)
    (hscan : ScanStops type.sectorNum (newest + 1) kept stop)
    (hseen : newest % type.sectorNum < stop) (hopened : newest < 32768) :
    (searchSectors flash type.baseAddr snAfter type.sectorNum 0 none).2 =
      some (UInt16.ofNat newest, newest % type.sectorNum) := by
  have hnewest : latestAt type.sectorNum (newest + 1)
      (newest % type.sectorNum) = newest :=
    latestAt_newest type.sectorNum_pos
  rw [← hnewest, latestAt_mod _ (Nat.mod_lt _ type.sectorNum_pos)]
  apply h.search hscan hseen
  intro place hplace hne
  obtain ⟨hlt, hkept⟩ := hscan.seen place hplace
  have hother : latestAt type.sectorNum (newest + 1) place ≠ newest := by
    intro heq
    have hmod := latestAt_mod (newest + 1) hlt
    rw [heq] at hmod
    exact hne hmod.symm
  have hbelow := hkept.1
  rw [hnewest, snAfter_ofNat hopened (by omega), snAfter_ofNat (by omega) hopened]
  exact ⟨decide_eq_true (by omega), decide_eq_false (by omega)⟩

/-- The scan for the earliest serial number finds the oldest sector it sees. -/
theorem RingStores.search_oldest {oldest stop : Nat}
    (h : RingStores type history opened kept flash)
    (hscan : ScanStops type.sectorNum opened kept stop)
    (hwindow : InWindow opened kept oldest)
    (holdest : ∀ place, place < stop →
      oldest ≤ latestAt type.sectorNum opened place)
    (hseen : oldest % type.sectorNum < stop) (hopened : opened ≤ 32768) :
    (searchSectors flash type.baseAddr (fun sn min => snAfter min sn)
      type.sectorNum 0 none).2 =
      some (UInt16.ofNat oldest, oldest % type.sectorNum) := by
  have hmod := Nat.mod_lt oldest type.sectorNum_pos
  have hlatest : latestAt type.sectorNum opened (oldest % type.sectorNum) =
      oldest :=
    (hscan.seen _ hseen).2.eq_of_mod_eq hwindow h.kept_le
      (latestAt_mod opened hmod)
  rw [← hlatest, latestAt_mod opened hmod]
  apply h.search hscan hseen
  rw [hlatest]
  intro place hplace hne
  obtain ⟨hlt, hkept⟩ := hscan.seen place hplace
  have hother : latestAt type.sectorNum opened place ≠ oldest := by
    intro heq
    have hplace_eq := latestAt_mod opened hlt
    rw [heq] at hplace_eq
    exact hne hplace_eq.symm
  have hle := holdest place hplace
  have hbelow := hkept.1
  have hbelow' := hwindow.1
  rw [snAfter_ofNat (by omega) (by omega), snAfter_ofNat (by omega) (by omega)]
  exact ⟨decide_eq_true (by omega), decide_eq_false (by omega)⟩

/-! ## The writer that is recovered -/

theorem usedInSector_of_holds {addr : Nat} {number : UInt16} {payload : Bytes}
    (h : Holds addr (addr + flashBytesPerSector)
      (sectorHeader number ++ payload) flash)
    (hroom : payload.length ≤ sectorPayloadSize)
    (hbytes : ∀ byte ∈ payload, byte ≠ 0xff) :
    usedInSector flash addr = sectorHeaderSize + payload.length := by
  have hlength : (sectorHeader number ++ payload).length =
      sectorHeaderSize + payload.length := List.length_append
  have hall := h.readBytes_all (by
    rw [hlength]
    simp only [sectorPayloadSize, flashBytesPerSector, sectorHeaderSize] at *
    omega)
  have hsplit : flashBytesPerSector = sectorHeaderSize +
      (flashBytesPerSector - sectorHeaderSize) := rfl
  rw [hsplit, readBytes_add, List.append_assoc] at hall
  have hbehind := (List.append_inj hall (length_readBytes _ _ _)).2
  rw [usedInSector, hbehind, List.takeWhile_append_of_pos (by simpa using hbytes)]
  have herased : ∀ count,
      (List.replicate count (0xff : UInt8)).takeWhile (· != 0xff) = [] := by
    intro count
    simp
  rw [herased, List.append_nil]

theorem perpareWriteInfo_of_search {max : UInt16} {sector : Nat}
    (h : (searchSectors flash type.baseAddr snAfter type.sectorNum 0 none).2 =
      some (max, sector)) :
    (perpareWriteInfo flash type).nextSn = max + 1 ∧
      (perpareWriteInfo flash type).writeOffset =
        sector * flashBytesPerSector +
          usedInSector flash (type.sectorAddr sector) := by
  unfold perpareWriteInfo
  split
  · simp_all
  · rename_i max' sector' hfound
    rw [h] at hfound
    cases hfound
    exact ⟨rfl, rfl⟩

theorem perpareWriteInfo_of_search_none
    (h : (searchSectors flash type.baseAddr snAfter type.sectorNum 0 none).2 =
      none) :
    perpareWriteInfo flash type = ⟨0, 0, 0, Nat.zero_le _⟩ := by
  unfold perpareWriteInfo
  split
  · rfl
  · simp_all

theorem prepareRead_of_search {info : LogInfo type} {min : UInt16}
    {sector : Nat}
    (h : (searchSectors flash type.baseAddr (fun sn min => snAfter min sn)
      type.sectorNum 0 none).2 = some (min, sector)) :
    prepareRead flash info =
      { info with readOffset := sector * flashBytesPerSector } := by
  rw [prepareRead, h]

theorem RingStores.perpareWriteInfo_newest {newest stop : Nat}
    (h : RingStores type history (newest + 1) kept flash)
    (hscan : ScanStops type.sectorNum (newest + 1) kept stop)
    (hkept : 0 < kept) (hseen : newest % type.sectorNum < stop)
    (hopened : newest < 32768) (hbytes : ∀ byte ∈ history, byte ≠ 0xff) :
    (perpareWriteInfo flash type).nextSn = UInt16.ofNat (newest + 1) ∧
      (perpareWriteInfo flash type).writeOffset =
        writePosition type (newest + 1) history.length := by
  obtain ⟨hsn, hoffset⟩ :=
    perpareWriteInfo_of_search (h.search_newest hscan hseen hopened)
  have hlow : newest * sectorPayloadSize ≤ history.length := h.opened_low
  have hhigh := h.opened_high
  rw [Nat.add_mul, Nat.one_mul] at hhigh
  have hwindow : InWindow (newest + 1) kept newest := by
    simp only [InWindow]
    omega
  have hlength := length_piece sectorPayloadSize history newest
  rw [Nat.min_eq_right (by omega)] at hlength
  have hused := usedInSector_of_holds (h.held newest hwindow) (by omega)
    fun byte hbyte => hbytes byte (mem_of_mem_piece hbyte)
  constructor
  · rw [hsn, UInt16.ofNat_add]
    rfl
  · rw [hoffset, hused, hlength, writePosition, if_neg (Nat.succ_ne_zero _),
      Nat.add_sub_cancel, Nat.add_assoc]

theorem LogStores.perpareWriteInfo {info : LogInfo type}
    (h : LogStores history info flash)
    (hopened : sectorCount history.length < 32768)
    (hbytes : ∀ byte ∈ history, byte ≠ 0xff) :
    (perpareWriteInfo flash type).nextSn = info.nextSn ∧
      (perpareWriteInfo flash type).writeOffset = info.writeOffset := by
  have hpos := type.sectorNum_pos
  have hstores := h.stores
  have hscan := scanStops_full type.sectorNum (sectorCount history.length)
  rw [h.nextSn_eq, h.writeOffset_eq]
  cases hcount : sectorCount history.length with
  | zero =>
      rw [hcount] at hstores
      have hfree : Erased type.baseAddr (type.baseAddr + flashBytesPerSector)
          flash := by
        have hplace := hstores.free 0 hpos fun number hwindow =>
          absurd hwindow.1 (Nat.not_lt_zero _)
        rw [LogType.sectorAddr, Nat.zero_mul, Nat.add_zero] at hplace
        exact hplace
      rw [perpareWriteInfo_of_search_none
        (searchSectors_none (readHeader_erased hfree) _)]
      exact ⟨rfl, rfl⟩
  | succ newest =>
      rw [hcount] at hstores hscan hopened
      have hlt := Nat.mod_lt newest hpos
      have hle := Nat.mod_le newest type.sectorNum
      exact hstores.perpareWriteInfo_newest hscan hpos (by omega) (by omega)
        hbytes

end Headers

/-! ## The run continues -/

theorem LogStores.erased {flash : Memory}
    (h : Erased type.baseAddr (type.baseAddr + type.maxSize) flash) :
    LogStores [] (WncFirmware.perpareWriteInfo flash type) flash := by
  have hstores := RingStores.erased h
  have hempty : LogStores [] (⟨0, 0, 0, Nat.zero_le _⟩ : LogInfo type) flash :=
    ⟨hstores, rfl, rfl⟩
  obtain ⟨hsn, hoffset⟩ := hempty.perpareWriteInfo (by decide) (by simp)
  exact ⟨hstores, hsn, hoffset⟩

def LogInfo.readingFrom (info : LogInfo type) (offset : Nat) : LogInfo type :=
  { info with readOffset := offset }

theorem LogInfo.eq_readingFrom {first second : LogInfo type}
    (hsn : first.nextSn = second.nextSn)
    (hoffset : first.writeOffset = second.writeOffset) :
    first = second.readingFrom first.readOffset := by
  cases first
  cases second
  cases hsn
  cases hoffset
  rfl

/-! Where the reader stands has no influence on the writer. -/

theorem openSector_readingFrom (info : LogInfo type) (offset : Nat) :
    (info.readingFrom offset).openSector =
      (info.openSector.1.readingFrom offset, info.openSector.2) := by
  unfold LogInfo.openSector
  have hsame : (info.readingFrom offset).writeOffset = info.writeOffset := rfl
  by_cases hboundary : info.writeOffset % flashBytesPerSector = 0
  · rw [dif_pos (hsame ▸ hboundary), dif_pos hboundary]
    rfl
  · rw [dif_neg (hsame ▸ hboundary), dif_neg hboundary]

theorem logWriteLoop_readingFrom (fuel : Nat) (info : LogInfo type)
    (offset : Nat) (bytes : Bytes) :
    logWriteLoop fuel (info.readingFrom offset) bytes =
      ((logWriteLoop fuel info bytes).1.readingFrom offset,
        (logWriteLoop fuel info bytes).2) := by
  induction fuel generalizing info bytes with
  | zero => rfl
  | succ fuel ih =>
      by_cases hempty : bytes = []
      · rw [logWriteLoop, logWriteLoop, if_pos hempty, if_pos hempty]
      · rw [logWriteLoop, logWriteLoop, if_neg hempty, if_neg hempty]
        simp only [openSector_readingFrom]
        let count := min (flashBytesPerSector -
          info.openSector.1.writeOffset % flashBytesPerSector) bytes.length
        have hlater := ih (info.openSector.1.advance count
          info.openSector_inside (Nat.min_le_left _ _)) (bytes.drop count)
        exact congrArg (fun later => (later.1, info.openSector.2 ++
          deviceWrite (type.baseAddr + info.openSector.1.writeOffset)
            (bytes.take count) :: later.2)) hlater

theorem logWrites_readingFrom (info : LogInfo type) (offset : Nat)
    (writes : List Bytes) :
    logWrites (info.readingFrom offset) writes =
      ((logWrites info writes).1.readingFrom offset,
        (logWrites info writes).2) := by
  induction writes generalizing info with
  | nil => rfl
  | cons bytes writes ih =>
      simp only [logWrites, logWrite, logWriteLoop_readingFrom, ih]

def Device.logInfo (device : Device) : (type : LogType) → LogInfo type
  | .systemLog => device.systemLog
  | .workStateLog => device.workStateLog

theorem logsInit_logInfo (device : Device) (type : LogType) :
    (logsInit device).logInfo type = perpareWriteInfo device.flash type := by
  cases type <;> rfl

theorem logsInit_recovers_writer (device : Device) (type : LogType)
    (writes : List Bytes)
    (herased : Erased type.baseAddr (type.baseAddr + type.maxSize)
      device.flash)
    (hopened : sectorCount writes.flatten.length < 32768)
    (hbytes : ∀ byte ∈ writes.flatten, byte ≠ 0xff) :
    let booted := logsInit device
    let written := logWrites (booted.logInfo type) writes
    let rebooted := logsInit (booted.run written.2)
    (rebooted.logInfo type).writeOffset = written.1.writeOffset ∧
      (rebooted.logInfo type).nextSn = written.1.nextSn ∧
      ∀ later,
        (rebooted.run (logWrites (rebooted.logInfo type) later).2).flash =
          (booted.run
            (logWrites (booted.logInfo type) (writes ++ later)).2).flash := by
  intro booted written rebooted
  have hstores : LogStores writes.flatten written.1
      (applyOps device.flash written.2) := by
    have hstart := LogStores.erased herased
    rw [← logsInit_logInfo] at hstart
    exact logWrites_stores hstart writes
  have hrebooted : rebooted.logInfo type =
      perpareWriteInfo (applyOps device.flash written.2) type :=
    logsInit_logInfo _ type
  obtain ⟨hsn, hoffset⟩ := hstores.perpareWriteInfo hopened hbytes
  rw [← hrebooted] at hsn hoffset
  refine ⟨hoffset, hsn, ?_⟩
  intro later
  rw [LogInfo.eq_readingFrom hsn hoffset, logWrites_readingFrom,
    logWrites_append, Device.flash_run, Device.flash_run, applyOps_append]
  rfl

/-- More than the ring of the system log holds: its first sector is opened a
second time for the last byte. -/
def wrappedHistory : List Bytes := [[66], List.replicate 65471 65, [67]]

theorem length_wrappedHistory : wrappedHistory.flatten.length = 65473 := by
  simp only [wrappedHistory, List.flatten_cons, List.flatten_nil,
    List.length_append, List.length_cons, List.length_nil,
    List.length_replicate]

theorem logsInit_recovers_writer_wrapped :
    let booted := logsInit Device.blank
    let written := logWrites (booted.logInfo .systemLog) wrappedHistory
    let rebooted := logsInit (booted.run written.2)
    (rebooted.logInfo .systemLog).writeOffset = written.1.writeOffset ∧
      (rebooted.logInfo .systemLog).nextSn = written.1.nextSn ∧
      ∀ later,
        (rebooted.run (logWrites (rebooted.logInfo .systemLog) later).2).flash =
          (booted.run (logWrites (booted.logInfo .systemLog)
            (wrappedHistory ++ later)).2).flash := by
  have hbytes : ∀ byte ∈ wrappedHistory.flatten, byte ≠ 0xff := by
    simp only [wrappedHistory, List.flatten_cons, List.flatten_nil,
      List.append_nil, List.mem_append, List.mem_replicate, List.mem_singleton]
    rintro byte (rfl | ⟨-, rfl⟩ | rfl) <;> decide
  refine logsInit_recovers_writer Device.blank .systemLog wrappedHistory
    (fun _ _ _ => rfl) ?_ hbytes
  rw [length_wrappedHistory]
  decide

end WncFirmware
