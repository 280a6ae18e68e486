import WncFirmware.Parking.Files

/-!
# Reading a file line by line

The loop of the three readers with its variables as the source has them, and
what its passes read: the lines one after the other, inside the file, down to
its last byte or until the list is full.
-/

namespace WncFirmware

open WncFirmware.Foundation

/-! ## Lines -/

theorem takeLine_eq_take (bytes : Bytes) :
    takeLine bytes = bytes.take (takeLine bytes).length := by
  induction bytes with
  | nil => rfl
  | cons byte bytes ih =>
      rw [takeLine]
      split
      · rfl
      · rw [List.length_cons, List.take_succ_cons, ← ih]

theorem newline_last_of_takeLine (bytes : Bytes) :
    10 ∉ (takeLine bytes).dropLast := by
  induction bytes with
  | nil => simp [takeLine]
  | cons byte bytes ih =>
      rw [takeLine]
      split
      case isTrue => simp
      case isFalse hbyte =>
        cases hline : takeLine bytes with
        | nil => simp
        | cons next line =>
            rw [hline] at ih
            rw [List.dropLast_cons_cons, List.mem_cons, not_or]
            exact ⟨fun heq => hbyte heq.symm, ih⟩

/-! ## The loop -/

structure LineLoop (Items : Type) where
  byteLeft : UInt32
  offset : UInt32
  items : Items

section Loop

variable {Items : Type} (flash : Memory) (addr : Nat) (full : Items → Bool)
  (add : Items → Bytes → Items)

namespace LineLoop

def wantLen (loop : LineLoop Items) : Nat :=
  if loop.byteLeft < 64 then (loop.byteLeft + 1).toNat else 64

/-- `real_size` of `flash_file_read_line`, the bytes that are read from flash. -/
def realSize (loop : LineLoop Items) : Nat := min (loop.wantLen - 1) 256

def line (loop : LineLoop Items) : Bytes :=
  flashFileReadLine flash addr loop.offset.toNat loop.wantLen

def pass (loop : LineLoop Items) : LineLoop Items :=
  let readLen := UInt32.ofNat (loop.line flash addr).length
  { byteLeft := loop.byteLeft - readLen
    offset := loop.offset + readLen
    items := add loop.items (loop.line flash addr) }

def running (loop : LineLoop Items) : Bool :=
  0 < loop.byteLeft && !full loop.items

/-- The heads of at most `fuel` passes, and the variables behind them. -/
def run : Nat → LineLoop Items → List (LineLoop Items) × LineLoop Items
  | 0, loop => ([], loop)
  | fuel + 1, loop =>
      if loop.running full then
        let later := run fuel (loop.pass flash addr add)
        (loop :: later.1, later.2)
      else ([], loop)

def start (size : UInt32) (items : Items) : LineLoop Items := ⟨size, 0, items⟩

end LineLoop

/-! ## What one pass reads -/

theorem wantLen_eq (loop : LineLoop Items) :
    loop.wantLen = if loop.byteLeft.toNat < 64 then loop.byteLeft.toNat + 1
      else 64 := by
  rw [LineLoop.wantLen]
  by_cases hfew : loop.byteLeft.toNat < 64
  · rw [if_pos (UInt32.lt_iff_toNat_lt.mpr hfew), if_pos hfew,
      UInt32.toNat_add, UInt32.toNat_one]
    omega
  · rw [if_neg (mt UInt32.lt_iff_toNat_lt.mp hfew), if_neg hfew]

theorem realSize_eq (loop : LineLoop Items) :
    loop.realSize = min loop.byteLeft.toNat 63 := by
  rw [LineLoop.realSize, wantLen_eq]
  split <;> omega

theorem line_eq (loop : LineLoop Items) :
    loop.line flash addr =
      takeLine (readBytes flash (addr + loop.offset.toNat)
        (min loop.byteLeft.toNat 63)) := by
  rw [← realSize_eq, LineLoop.line, flashFileReadLine]
  rfl

structure LineRead (flash : Memory) (addr size : Nat)
    (loop : LineLoop Items) : Prop where
  nonempty : loop.line flash addr ≠ []
  short : (loop.line flash addr).length ≤ 63
  newline : 10 ∉ (loop.line flash addr).dropLast
  noWrap : (loop.line flash addr).length ≤ loop.byteLeft.toNat
  insideFile : loop.offset.toNat + loop.realSize ≤ size
  zeroFits : (loop.line flash addr).length + 1 ≤ 64

def LineLoop.Within (size : Nat) (loop : LineLoop Items) : Prop :=
  loop.offset.toNat + loop.byteLeft.toNat = size

variable {flash addr full} {size : Nat} {loop : LineLoop Items}

theorem lineRead_of_running (hwithin : loop.Within size)
    (hrunning : loop.running full = true) : LineRead flash addr size loop := by
  simp only [LineLoop.running, Bool.and_eq_true, decide_eq_true_eq] at hrunning
  have hpos : 0 < loop.byteLeft.toNat := UInt32.lt_iff_toNat_lt.mp hrunning.1
  have hline := line_eq flash addr loop
  have hlength : (loop.line flash addr).length ≤
      min loop.byteLeft.toNat 63 := by
    rw [hline]
    exact (takeLine_length_le _).trans (length_readBytes _ _ _).le
  have hne : loop.line flash addr ≠ [] := by
    rw [hline, ← List.length_pos_iff]
    apply takeLine_length_pos
    rw [← List.length_pos_iff, length_readBytes]
    omega
  rw [LineLoop.Within] at hwithin
  constructor
  case nonempty => exact hne
  case short => omega
  case newline =>
    rw [hline]
    exact newline_last_of_takeLine _
  case noWrap => omega
  case insideFile =>
    rw [realSize_eq]
    omega
  case zeroFits => omega

theorem LineRead.pass_toNat (h : LineRead flash addr size loop)
    (hsize : size < 2 ^ 32) (hwithin : loop.Within size) :
    (loop.pass flash addr add).byteLeft.toNat =
        loop.byteLeft.toNat - (loop.line flash addr).length ∧
      (loop.pass flash addr add).offset.toNat =
        loop.offset.toNat + (loop.line flash addr).length := by
  have hwrap := h.noWrap
  have hshort := h.short
  rw [LineLoop.Within] at hwithin
  have hlen : (UInt32.ofNat (loop.line flash addr).length).toNat =
      (loop.line flash addr).length := by
    rw [UInt32.toNat_ofNat']
    omega
  constructor
  · rw [LineLoop.pass, UInt32.toNat_sub_of_le, hlen]
    rw [UInt32.le_iff_toNat_le, hlen]
    exact hwrap
  · rw [LineLoop.pass, UInt32.toNat_add, hlen]
    omega

theorem LineRead.within (h : LineRead flash addr size loop)
    (hsize : size < 2 ^ 32) (hwithin : loop.Within size) :
    (loop.pass flash addr add).Within size := by
  have hwrap := h.noWrap
  obtain ⟨hleft, hoffset⟩ := h.pass_toNat add hsize hwithin
  rw [LineLoop.Within] at *
  omega

theorem LineRead.line_eq_readBytes (h : LineRead flash addr size loop) :
    loop.line flash addr = readBytes flash (addr + loop.offset.toNat)
      (loop.line flash addr).length := by
  have hline := line_eq flash addr loop
  have hle : (loop.line flash addr).length ≤
      min loop.byteLeft.toNat 63 :=
    le_min h.noWrap h.short
  conv_lhs => rw [hline, takeLine_eq_take, ← hline, readBytes_take,
    Nat.min_eq_left hle]

/-! ## Whole runs -/

structure ReadsLines (flash : Memory) (addr size : Nat) (full : Items → Bool)
    (passes : List (LineLoop Items)) (final : LineLoop Items) : Prop where
  ended : final.running full = false
  lines : ∀ pass ∈ passes, LineRead flash addr size pass
  front : (passes.map (·.line flash addr)).flatten <+: readBytes flash addr size
  whole : full final.items = false →
    (passes.map (·.line flash addr)).flatten = readBytes flash addr size

theorem run_lines {fuel : Nat} (hsize : size < 2 ^ 32)
    (hwithin : loop.Within size) (hfuel : loop.byteLeft.toNat ≤ fuel) :
    let result := loop.run flash addr full add fuel
    result.2.running full = false ∧
      (∀ pass ∈ result.1, LineRead flash addr size pass) ∧
      readBytes flash addr loop.offset.toNat ++
          (result.1.map (·.line flash addr)).flatten =
        readBytes flash addr result.2.offset.toNat ∧
      result.2.Within size := by
  have hstop : ∀ {loop : LineLoop Items}, loop.Within size →
      loop.running full = false →
      loop.running full = false ∧ (∀ pass ∈ ([] : List (LineLoop Items)),
        LineRead flash addr size pass) ∧
      readBytes flash addr loop.offset.toNat ++
          (([] : List (LineLoop Items)).map (·.line flash addr)).flatten =
        readBytes flash addr loop.offset.toNat ∧ loop.Within size := by
    intro loop hwithin hended
    exact ⟨hended, by simp, by simp, hwithin⟩
  induction fuel generalizing loop with
  | zero =>
      have hzero : loop.byteLeft.toNat = 0 := Nat.le_zero.mp hfuel
      apply hstop hwithin
      have hnone : ¬0 < loop.byteLeft := by
        rw [UInt32.lt_iff_toNat_lt, hzero]
        exact Nat.lt_irrefl 0
      simp [LineLoop.running, hnone]
  | succ fuel ih =>
      by_cases hrunning : loop.running full = true
      · have hread := @lineRead_of_running Items flash addr full size loop
          hwithin hrunning
        have hpos := List.length_pos_iff.mpr hread.nonempty
        have hwrap := hread.noWrap
        obtain ⟨hleft, hoffset⟩ := hread.pass_toNat add hsize hwithin
        obtain ⟨hended, hlines, hcovers, hinside⟩ :=
          ih (hread.within add hsize hwithin) (by omega)
        rw [LineLoop.run, if_pos hrunning]
        refine ⟨hended, ?_, ?_, hinside⟩
        · intro pass hpass
          rcases List.mem_cons.mp hpass with rfl | hlater
          · exact hread
          · exact hlines pass hlater
        · rw [← hcovers, hoffset, readBytes_add, ← hread.line_eq_readBytes,
            List.map_cons, List.flatten_cons, List.append_assoc]
      · rw [LineLoop.run, if_neg hrunning]
        exact hstop hwithin (by simpa using hrunning)

theorem start_readsLines (flash : Memory) (addr : Nat) (size : UInt32)
    (full : Items → Bool) (items : Items) :
    let result := (LineLoop.start size items).run flash addr full add
      size.toNat
    ReadsLines flash addr size.toNat full result.1 result.2 := by
  have hstart : (LineLoop.start size items).Within size.toNat :=
    Nat.zero_add _
  obtain ⟨hended, hlines, hcovers, hwithin⟩ :=
    @run_lines Items flash addr full add size.toNat _ size.toNat
      size.toNat_lt hstart le_rfl
  dsimp only
  generalize (LineLoop.start size items).run flash addr full add size.toNat =
    result at *
  have hcovers : (result.1.map (·.line flash addr)).flatten =
      readBytes flash addr result.2.offset.toNat := hcovers
  rw [LineLoop.Within] at hwithin
  constructor
  case ended => exact hended
  case lines => exact hlines
  case front =>
    rw [hcovers, ← hwithin, readBytes_add]
    exact List.prefix_append _ _
  case whole =>
    intro hroom
    have hnone : result.2.byteLeft.toNat = 0 := by
      simpa [LineLoop.running, hroom, UInt32.lt_iff_toNat_lt] using hended
    rw [hcovers, ← hwithin, hnone, Nat.add_zero]

theorem run_items {fuel : Nat} (hsize : size < 2 ^ 32)
    (hwithin : loop.Within size) :
    (loop.run flash addr full add fuel).2.items =
      readLines flash addr full add fuel loop.byteLeft.toNat
        loop.offset.toNat loop.items := by
  induction fuel generalizing loop with
  | zero => rfl
  | succ fuel ih =>
      have hhead : loop.running full = true ↔
          ¬(loop.byteLeft.toNat = 0 ∨ full loop.items = true) := by
        simp [LineLoop.running, UInt32.lt_iff_toNat_lt, Nat.pos_iff_ne_zero]
      by_cases hrunning : loop.running full = true
      · have hread := @lineRead_of_running Items flash addr full size loop
          hwithin hrunning
        obtain ⟨hleft, hoffset⟩ := hread.pass_toNat add hsize hwithin
        rw [LineLoop.run, if_pos hrunning, readLines,
          if_neg (hhead.mp hrunning)]
        dsimp only
        rw [ih (hread.within add hsize hwithin), hleft, hoffset, ← wantLen_eq]
        rfl
      · rw [LineLoop.run, if_neg hrunning, readLines,
          if_pos (not_not.mp (mt hhead.mpr hrunning))]

structure ReadByLines (flash : Memory) (addr : Nat) (info : SingleFileInfo)
    (full : Items → Bool) (add : Items → Bytes → Items)
    (items result : Items) : Prop where
  missing : fileMissing info = true → result = items
  loop : fileMissing info = false →
    ∃ passes final,
      (LineLoop.start info.size items).run flash addr full add
        info.size.toNat = (passes, final) ∧
      ReadsLines flash addr info.size.toNat full passes final ∧
      result = final.items

theorem readListFile_byLines (flash : Memory) (addr : Nat)
    (info : SingleFileInfo) (full : Items → Bool)
    (add : Items → Bytes → Items) (items : Items) :
    ReadByLines flash addr info full add items
      (readListFile flash addr info full add items) := by
  constructor
  · intro hmissing
    rw [readListFile, if_pos hmissing]
  · intro hfound
    refine ⟨_, _, rfl, start_readsLines add flash addr info.size full items, ?_⟩
    have hitems := @run_items Items flash addr full add info.size.toNat
      (LineLoop.start info.size items) info.size.toNat info.size.toNat_lt
      (Nat.zero_add _)
    rw [readListFile, if_neg (by simp [hfound])]
    exact hitems.symm

end Loop

/-! ## The three files -/

theorem files_read_line_by_line (flash : Memory) (info : FileInfoList)
    (wncId : UInt32) (lists : ParkingLists) :
    ReadByLines flash lightConnectFileAddr info.lightConnect
        (fun ids => maxLightPerWnc ≤ ids.length) (addDeviceId wncId) []
        (readLightConnectFile flash info wncId).relationList.lightId ∧
      ReadByLines flash sensorListFileAddr info.sensorList
        (fun ids => maxDetectorPerWnc ≤ ids.length) (addDeviceId wncId) []
        ((readSensorListFile flash info wncId lists).relationList.relation.map
          (·.detectorId)) ∧
      ReadByLines flash lightParkingFileAddr info.lightParking
        (fun _ => false) (addRelation lists.relationList.lightId)
        lists.relationList.relation
        (readLightParkingFile flash info lists).relationList.relation := by
  have hdetectors : (readSensorListFile flash info wncId
      lists).relationList.relation.map (·.detectorId) =
      readDeviceIds flash sensorListFileAddr info.sensorList maxDetectorPerWnc
        wncId := by
    simp [readSensorListFile, Function.comp_def]
  rw [hdetectors]
  exact ⟨readListFile_byLines _ _ _ _ _ _, readListFile_byLines _ _ _ _ _ _,
    readListFile_byLines _ _ _ _ _ _⟩

end WncFirmware
