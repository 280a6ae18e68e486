import WncFirmware.Foundation.Runs
import WncFirmware.Log.Cuts

/-!
# What the log programs

A program operation on bytes that are not erased would lose bits.  In every run
of `log_write` calls and reboots each program operation finds its bytes erased,
stays in one sector of the ring, and meets a sector header only right behind the
erasure of that sector.
-/

namespace WncFirmware

open WncFirmware.Foundation

variable {type : LogType}

/-! ## The two logs of a device -/

def Device.withLog (device : Device) :
    (type : LogType) → LogInfo type → Device
  | .systemLog, info => { device with systemLog := info }
  | .workStateLog, info => { device with workStateLog := info }

def Device.logWrite (device : Device) (type : LogType) (bytes : Bytes) :
    Device :=
  let written := WncFirmware.logWrite (device.logInfo type) bytes
  (device.run written.2).withLog type written.1

@[simp] theorem flash_withLog (device : Device) (type : LogType)
    (info : LogInfo type) : (device.withLog type info).flash = device.flash := by
  cases type <;> rfl

@[simp] theorem logInfo_withLog (device : Device) (type : LogType)
    (info : LogInfo type) : (device.withLog type info).logInfo type = info := by
  cases type <;> rfl

theorem logInfo_withLog_of_ne (device : Device) {type other : LogType}
    (info : LogInfo type) (h : other ≠ type) :
    (device.withLog type info).logInfo other = device.logInfo other := by
  cases type <;> cases other <;> first | rfl | exact absurd rfl h

theorem logInfo_run (device : Device) (ops : List FlashOp) (type : LogType) :
    (device.run ops).logInfo type = device.logInfo type := by
  cases type <;> rfl

/-! ## Operations of the other ring -/

theorem InsideRing.avoids {other : LogType} {op : FlashOp}
    (h : InsideRing type op) (hne : other ≠ type) :
    op.Avoids other.baseAddr (other.baseAddr + other.maxSize) := by
  obtain ⟨hlow, hhigh⟩ := h
  cases type <;> cases other <;>
    first
    | exact absurd rfl hne
    | simp only [FlashOp.Avoids, LogType.baseAddr, LogType.maxSize,
        LogType.sectorNum, systemLogBaseAddr, workStateLogBaseAddr,
        flashBytesPerSector] at *
      omega

theorem agreeOn_sector {first second : Memory} {place : Nat}
    (h : AgreeOn type.baseAddr (type.baseAddr + type.maxSize) first second)
    (hplace : place < type.sectorNum) :
    AgreeOn (type.sectorAddr place)
      (type.sectorAddr place + flashBytesPerSector) first second := by
  apply h.mono
  · exact Nat.le_add_right _ _
  · simp only [LogType.sectorAddr, LogType.maxSize, flashBytesPerSector]
    omega

theorem LogStores.congr {history : Bytes} {info : LogInfo type}
    {first second : Memory} (h : LogStores history info second)
    (hagree : AgreeOn type.baseAddr (type.baseAddr + type.maxSize) first
      second) : LogStores history info first := by
  refine ⟨?_, h.nextSn_eq, h.writeOffset_eq⟩
  constructor
  case kept_le => exact h.stores.kept_le
  case opened_low => exact h.stores.opened_low
  case opened_high => exact h.stores.opened_high
  case held =>
    intro number hwindow
    exact (h.stores.held number hwindow).congr (sectorContent_room _ _ _)
      (agreeOn_sector hagree (Nat.mod_lt _ type.sectorNum_pos))
  case free =>
    intro place hplace hunused
    exact (h.stores.free place hplace hunused).congr
      (agreeOn_sector hagree hplace)

/-! ## Program operations -/

structure ProgramsErased (type : LogType) (before : List FlashOp)
    (flash : Memory) (start : Nat) (bytes : Bytes) : Prop where
  erased : Erased start (start + bytes.length) flash
  insideRing : type.baseAddr ≤ start ∧
    start + bytes.length ≤ type.baseAddr + type.maxSize
  oneSector : ∃ place, place < type.sectorNum ∧
    type.sectorAddr place ≤ start ∧
    start + bytes.length ≤ type.sectorAddr place + flashBytesPerSector
  header : ∀ place, start < type.sectorAddr place + sectorHeaderSize →
    type.sectorAddr place < start + bytes.length →
      before.getLast? = some (sctErase (type.sectorAddr place)) ∧
        Erased (type.sectorAddr place)
          (type.sectorAddr place + flashBytesPerSector) flash

theorem ProgramsErased.behind {before : List FlashOp} {flash : Memory}
    {start : Nat} {bytes : Bytes}
    (h : ProgramsErased type before flash start bytes)
    (earlier : List FlashOp) :
    ProgramsErased type (earlier ++ before) flash start bytes where
  erased := h.erased
  insideRing := h.insideRing
  oneSector := h.oneSector
  header := by
    intro place hstart hend
    obtain ⟨hlast, herased⟩ := h.header place hstart hend
    refine ⟨?_, herased⟩
    rw [List.getLast?_append, hlast]
    rfl

theorem insideRing_of_oneSector {place start size : Nat}
    (hplace : place < type.sectorNum) (hstart : type.sectorAddr place ≤ start)
    (hend : start + size ≤ type.sectorAddr place + flashBytesPerSector) :
    type.baseAddr ≤ start ∧ start + size ≤ type.baseAddr + type.maxSize := by
  simp only [LogType.sectorAddr, LogType.maxSize, flashBytesPerSector] at *
  omega

section Calls

variable {history : Bytes} {info : LogInfo type} {flash : Memory}

theorem RingStores.header_programsErased {opened : Nat}
    (h : RingStores type history opened (type.sectorNum - 1) flash)
    (number : UInt16) :
    ProgramsErased type
      [sctErase (type.sectorAddr (opened % type.sectorNum))] flash
      (type.sectorAddr (opened % type.sectorNum)) (sectorHeader number) := by
  have hplace := Nat.mod_lt opened type.sectorNum_pos
  have hsize : (sectorHeader number).length = sectorHeaderSize := rfl
  have hfree := h.free _ hplace fun other hother => hother.mod_ne
  have hend : type.sectorAddr (opened % type.sectorNum) +
      (sectorHeader number).length ≤
      type.sectorAddr (opened % type.sectorNum) + flashBytesPerSector := by
    rw [hsize, sectorHeaderSize, flashBytesPerSector]
    omega
  constructor
  case erased => exact hfree.mono le_rfl hend
  case insideRing => exact insideRing_of_oneSector hplace le_rfl hend
  case oneSector => exact ⟨_, hplace, le_rfl, hend⟩
  case header =>
    intro place hstart hbehind
    have hsame : place = opened % type.sectorNum := by
      simp only [LogType.sectorAddr, hsize, sectorHeaderSize,
        flashBytesPerSector] at hstart hbehind
      omega
    rw [hsame]
    exact ⟨rfl, hfree⟩

theorem RingStores.payload_programsErased {opened : Nat} {more : Bytes}
    (h : RingStores type history (opened + 1) type.sectorNum flash)
    (hroom : history.length + more.length ≤ (opened + 1) * sectorPayloadSize)
    (before : List FlashOp) :
    ProgramsErased type before flash
      (type.baseAddr + writePosition type (opened + 1) history.length)
      more := by
  have hplace := Nat.mod_lt opened type.sectorNum_pos
  have hlow : opened * sectorPayloadSize ≤ history.length := h.opened_low
  obtain ⟨rest, hlength⟩ := Nat.exists_eq_add_of_le hlow
  have hfits : rest + more.length ≤ sectorPayloadSize := by
    rw [Nat.add_mul, Nat.one_mul] at hroom
    omega
  have hstart : type.baseAddr + writePosition type (opened + 1) history.length =
      type.sectorAddr (opened % type.sectorNum) + sectorHeaderSize + rest := by
    rw [hlength, writePosition_succ, LogType.sectorAddr]
    omega
  have hend : type.sectorAddr (opened % type.sectorNum) + sectorHeaderSize +
      rest + more.length ≤
      type.sectorAddr (opened % type.sectorNum) + flashBytesPerSector := by
    simp only [sectorPayloadSize_eq, sectorHeaderSize, flashBytesPerSector] at *
    omega
  have hbehind := (h.held opened (inWindow_newest type.sectorNum_pos)).behind
  rw [length_sectorContent, hlength, Nat.add_sub_cancel_left,
    Nat.min_eq_right (by omega), ← Nat.add_assoc] at hbehind
  rw [hstart]
  constructor
  case erased => exact hbehind.mono le_rfl hend
  case insideRing => exact insideRing_of_oneSector hplace (by omega) hend
  case oneSector => exact ⟨_, hplace, by omega, hend⟩
  case header =>
    -- the payload of a sector lies between two headers
    intro place hfront hback
    simp only [LogType.sectorAddr, sectorHeaderSize,
      flashBytesPerSector] at hfront hback hend
    omega

theorem split_append_cons {Item : Type} {front later before after : List Item}
    {item found : Item} (h : front ++ item :: later = before ++ found :: after) :
    (∃ middle, front = before ++ found :: middle) ∨
      (before = front ∧ found = item) ∨
      ∃ middle, before = front ++ item :: middle ∧
        later = middle ++ found :: after := by
  induction front generalizing before with
  | nil =>
      cases before with
      | nil =>
          cases h
          exact .inr (.inl ⟨rfl, rfl⟩)
      | cons first before =>
          cases h
          exact .inr (.inr ⟨before, rfl, rfl⟩)
  | cons first front ih =>
      cases before with
      | nil =>
          cases h
          exact .inl ⟨front, rfl⟩
      | cons first' before =>
          obtain ⟨rfl, hrest⟩ := List.cons.inj h
          rcases ih hrest with
            ⟨middle, rfl⟩ | ⟨rfl, rfl⟩ | ⟨middle, rfl, hlater⟩
          · exact .inl ⟨middle, rfl⟩
          · exact .inr (.inl ⟨rfl, rfl⟩)
          · exact .inr (.inr ⟨middle, rfl, hlater⟩)

theorem LogStores.openSector_programsErased
    (h : LogStores history info flash) {before after : List FlashOp}
    {start : Nat} {bytes : Bytes}
    (hops : info.openSector.2 = before ++ .program start bytes :: after) :
    ProgramsErased type before (applyOps flash before) start bytes := by
  by_cases hfull : SectorFull history.length
  · rw [(h.openSector_full hfull).1] at hops
    match before with
    | [] => cases hops
    | [op] =>
        cases hops
        exact h.stores.erase.header_programsErased _
    | _ :: _ :: _ =>
        have hlength := congrArg List.length hops
        simp at hlength
  · rw [h.openSector_inside hfull] at hops
    cases before <;> cases hops

theorem logWriteLoop_programsErased {fuel : Nat} {bytes : Bytes}
    (h : LogStores history info flash)
    {before after : List FlashOp} {start : Nat} {data : Bytes}
    (hops : (logWriteLoop fuel info bytes).2 =
      before ++ .program start data :: after) :
    ProgramsErased type before (applyOps flash before) start data := by
  induction fuel generalizing history info flash bytes before with
  | zero => cases before <;> cases hops
  | succ fuel ih =>
      by_cases hne : bytes = []
      · rw [logWriteLoop, if_pos hne] at hops
        cases before <;> cases hops
      · obtain ⟨count, later, hpos, hle, hroom, -, hpass, heq⟩ :=
          h.loop_pass hne fuel
        rw [heq] at hops
        rcases split_append_cons hops with
          ⟨middle, hopen⟩ | ⟨rfl, hdata⟩ | ⟨middle, rfl, hlater⟩
        · exact h.openSector_programsErased hopen
        · obtain ⟨rfl, rfl⟩ := FlashOp.program.inj hdata
          obtain ⟨number, hstores, -, hoffset, hcount⟩ := h.opened
          have hhigh := hpass.stores.opened_high
          rw [List.length_append, List.length_take, Nat.min_eq_left hle,
            hcount count hpos hroom] at hhigh
          rw [hoffset]
          apply hstores.payload_programsErased
          rw [List.length_take, Nat.min_eq_left hle]
          exact hhigh
        · rw [applyOps_append, applyOps_cons, List.append_cons]
          exact (ih hpass hlater).behind _

end Calls

/-! ## The sectors that a call opens -/

def FlashOp.isErase : FlashOp → Bool
  | .erase _ _ => true
  | .program _ _ => false

def sectorsOpened (ops : List FlashOp) : Nat := ops.countP FlashOp.isErase

section Opened

variable {history : Bytes} {info : LogInfo type} {flash : Memory}

theorem LogStores.sectorsOpened_openSector (h : LogStores history info flash)
    {count : Nat} (hpos : 0 < count) (hroom : count ≤ sectorRoom history.length) :
    sectorCount history.length + sectorsOpened info.openSector.2 =
      sectorCount (history.length + count) := by
  by_cases hfull : SectorFull history.length
  · rw [(h.openSector_full hfull).1, sectorCount_full hfull hpos hroom]
    rfl
  · rw [h.openSector_inside hfull, sectorCount_inside hfull hroom]
    rfl

theorem LogStores.sectorsOpened_loop {fuel : Nat} {bytes : Bytes}
    (h : LogStores history info flash) (hfuel : bytes.length ≤ fuel) :
    sectorCount history.length +
        sectorsOpened (logWriteLoop fuel info bytes).2 =
      sectorCount (history ++ bytes).length := by
  induction fuel generalizing history info flash bytes with
  | zero =>
      obtain rfl := List.eq_nil_of_length_eq_zero (Nat.le_zero.mp hfuel)
      rw [List.append_nil]
      rfl
  | succ fuel ih =>
      by_cases hne : bytes = []
      · rw [logWriteLoop, if_pos hne, hne, List.append_nil]
        rfl
      · obtain ⟨count, later, hpos, hle, hroom, -, hpass, heq⟩ :=
          h.loop_pass hne fuel
        have hrest : (bytes.drop count).length ≤ fuel := by
          rw [List.length_drop]
          omega
        have hopened := h.sectorsOpened_openSector hpos hroom
        have hlater := ih hpass hrest
        have hprogram : sectorsOpened (info.openSector.2 ++
            deviceWrite (type.baseAddr + info.openSector.1.writeOffset)
              (bytes.take count) ::
            (logWriteLoop fuel later (bytes.drop count)).2) =
            sectorsOpened info.openSector.2 + sectorsOpened
              (logWriteLoop fuel later (bytes.drop count)).2 := by
          rw [sectorsOpened, List.countP_append, List.countP_cons]
          rfl
        rw [List.append_assoc, List.take_append_drop, List.length_append,
          List.length_take, Nat.min_eq_left hle] at hlater
        rw [heq, hprogram, ← Nat.add_assoc, hopened, hlater]

end Opened

/-! ## The loop ends -/

/-- Every pass writes a byte, so that further passes find nothing to do. -/
theorem logWriteLoop_enough {first second : Nat} (info : LogInfo type)
    {bytes : Bytes} (hfirst : bytes.length ≤ first)
    (hsecond : bytes.length ≤ second) :
    logWriteLoop first info bytes = logWriteLoop second info bytes := by
  induction first generalizing second info bytes with
  | zero =>
      obtain rfl := List.eq_nil_of_length_eq_zero (Nat.le_zero.mp hfirst)
      rw [logWriteLoop_nil, logWriteLoop_nil]
  | succ first ih =>
      by_cases hne : bytes = []
      · rw [hne, logWriteLoop_nil, logWriteLoop_nil]
      · have hpos := List.length_pos_iff.mpr hne
        obtain ⟨second, rfl⟩ := Nat.exists_eq_add_of_le'
          (show 1 ≤ second by omega)
        let count := min (flashBytesPerSector -
          info.openSector.1.writeOffset % flashBytesPerSector) bytes.length
        have hcount : 0 < count := by
          have hlt := Nat.mod_lt info.openSector.1.writeOffset
            (show 0 < flashBytesPerSector by decide)
          omega
        have hlater := @ih second
          (info.openSector.1.advance count info.openSector_inside
            (Nat.min_le_left _ _)) (bytes.drop count)
          (by rw [List.length_drop]; omega) (by rw [List.length_drop]; omega)
        rw [logWriteLoop, logWriteLoop, if_neg hne, if_neg hne]
        exact congrArg (fun later => (later.1, info.openSector.2 ++
          deviceWrite (type.baseAddr + info.openSector.1.writeOffset)
            (bytes.take count) :: later.2)) hlater

/-! ## Runs of writes and reboots -/

inductive LogInput where
  | write (type : LogType) (bytes : Bytes)
  | reboot

structure LoggedDevice where
  device : Device
  opened : LogType → Nat

def LoggedDevice.boot (device : Device) : LoggedDevice :=
  ⟨logsInit device, fun _ => 0⟩

def logStep (logged : LoggedDevice) : LogInput → Option LoggedDevice
  | .write type bytes =>
      some ⟨logged.device.logWrite type bytes, Function.update logged.opened type
        (logged.opened type + sectorsOpened
          (logWrite (logged.device.logInfo type) bytes).2)⟩
  | .reboot => some { logged with device := logsInit logged.device }

def PlainInput (logged : LoggedDevice) : LogInput → Prop
  | .write type bytes =>
      (∀ byte ∈ bytes, byte ≠ 0xff) ∧
        logged.opened type + sectorsOpened
          (logWrite (logged.device.logInfo type) bytes).2 < 32768
  | .reboot => True

def RingFollows (device : Device) (type : LogType) (opened : Nat) : Prop :=
  ∃ history, LogStores history (device.logInfo type) device.flash ∧
    (∀ byte ∈ history, byte ≠ 0xff) ∧ sectorCount history.length = opened ∧
    opened < 32768

theorem ringFollows_boot {device : Device} (type : LogType)
    (h : Erased type.baseAddr (type.baseAddr + type.maxSize) device.flash) :
    RingFollows (logsInit device) type 0 := by
  refine ⟨[], ?_, by simp, rfl, by decide⟩
  rw [logsInit_logInfo]
  exact LogStores.erased h

theorem RingFollows.reboot {device : Device} {opened : Nat}
    (h : RingFollows device type opened) :
    RingFollows (logsInit device) type opened := by
  obtain ⟨history, hstores, hbytes, hcount, hopened⟩ := h
  obtain ⟨hsn, hoffset⟩ := hstores.perpareWriteInfo (hcount ▸ hopened) hbytes
  refine ⟨history, ?_, hbytes, hcount, hopened⟩
  rw [logsInit_logInfo]
  exact ⟨hstores.stores, hsn.trans hstores.nextSn_eq,
    hoffset.trans hstores.writeOffset_eq⟩

theorem RingFollows.write {device : Device} {opened : Nat} {bytes : Bytes}
    (h : RingFollows device type opened) (hplain : ∀ byte ∈ bytes, byte ≠ 0xff)
    (hopened : opened + sectorsOpened
      (logWrite (device.logInfo type) bytes).2 < 32768) :
    RingFollows (device.logWrite type bytes) type
      (opened + sectorsOpened (logWrite (device.logInfo type) bytes).2) := by
  obtain ⟨history, hstores, hbytes, rfl, -⟩ := h
  refine ⟨history ++ bytes, ?_, ?_, ?_, hopened⟩
  · rw [Device.logWrite, logInfo_withLog, flash_withLog, Device.flash_run]
    exact logWrite_stores hstores bytes
  · intro byte hbyte
    rcases List.mem_append.mp hbyte with hold | hnew
    · exact hbytes byte hold
    · exact hplain byte hnew
  · exact (hstores.sectorsOpened_loop le_rfl).symm

theorem RingFollows.write_other {device : Device} {other : LogType}
    {opened : Nat} (h : RingFollows device other opened) (hne : other ≠ type)
    (bytes : Bytes) : RingFollows (device.logWrite type bytes) other opened := by
  obtain ⟨history, hstores, hknown⟩ := h
  refine ⟨history, ?_, hknown⟩
  rw [Device.logWrite, logInfo_withLog_of_ne _ _ hne, logInfo_run,
    flash_withLog, Device.flash_run]
  apply hstores.congr
  apply agreeOn_applyOps
  intro op hop
  exact (logWrite_insideRing _ _ op hop).avoids hne

theorem ringFollows_run {device : Device} {inputs : List LogInput}
    {final : LoggedDevice}
    (hblank : ∀ type : LogType,
      Erased type.baseAddr (type.baseAddr + type.maxSize) device.flash)
    (hrun : Run logStep PlainInput (.boot device) inputs final)
    (type : LogType) : RingFollows final.device type (final.opened type) := by
  have hkeep : ∀ logged input next,
      (∀ type, RingFollows logged.device type (logged.opened type)) →
      PlainInput logged input → logStep logged input = some next →
      ∀ type, RingFollows next.device type (next.opened type) := by
    intro logged input next hlogged hplain hstep other
    cases input with
    | reboot =>
        cases hstep
        exact (hlogged other).reboot
    | write type bytes =>
        cases hstep
        dsimp only
        by_cases hsame : other = type
        · subst hsame
          rw [Function.update_self]
          exact (hlogged other).write hplain.1 hplain.2
        · rw [Function.update_of_ne hsame]
          exact (hlogged other).write_other hsame bytes
  exact hrun.invariant hkeep
    (fun type => ringFollows_boot type (hblank type)) type

/-- In a run of writes and reboots every program operation finds erased bytes. -/
theorem log_programs_erased_bytes {device : Device} {inputs : List LogInput}
    {final : LoggedDevice}
    (hblank : ∀ type : LogType,
      Erased type.baseAddr (type.baseAddr + type.maxSize) device.flash)
    (hrun : Run logStep PlainInput (.boot device) inputs final)
    (type : LogType) :
    (∀ bytes before start data after,
      (logWrite (final.device.logInfo type) bytes).2 =
        before ++ .program start data :: after →
      ProgramsErased type before (applyOps final.device.flash before) start
        data) ∧
    ∀ (info : LogInfo type) (bytes : Bytes) (fuel : Nat),
      bytes.length ≤ fuel →
        logWriteLoop fuel info bytes = logWrite info bytes := by
  constructor
  · intro bytes before start data after hops
    obtain ⟨history, hstores, -⟩ := ringFollows_run hblank hrun type
    exact logWriteLoop_programsErased hstores hops
  · intro info bytes fuel hfuel
    exact logWriteLoop_enough info hfuel le_rfl

/-- A line, a reboot and the start of the next line. -/
theorem second_line_programs_erased_bytes :
    ∃ final, Run logStep PlainInput (.boot Device.blank)
        [.write .systemLog [65, 66], .reboot] final ∧
      ProgramsErased .systemLog [] final.device.flash 327686 [67] := by
  have hrun : Run logStep PlainInput (.boot Device.blank)
      [.write .systemLog [65, 66], .reboot] _ :=
    .cons ⟨by simp, by decide +kernel⟩ rfl (.cons trivial rfl (.nil _))
  refine ⟨_, hrun, ?_⟩
  exact (log_programs_erased_bytes (fun _ _ _ _ => rfl) hrun .systemLog).1 [67]
    [] 327686 [67] [] (by decide +kernel)

end WncFirmware
