import WncFirmware.Files.Packets

/-!
# Confirming an upgrade

`upgrade_confirm` runs when a new firmware has started.  It copies the image
from the upgrade region to the backup region and records both, so that the BOOT
program can fall back to it.
-/

namespace WncFirmware

open WncFirmware.Foundation

def firmwareBackupAddr : Nat := 928 * flashBytesPerSector
def firmBackInfoBaseAddr : Nat := 993 * flashBytesPerSector

/-! ## The two records -/

/-- `FIRMUP_FLASHINFO` -/
structure FirmUpInfo where
  haveFirm : UInt32
  needUp : UInt32
  trycnt : UInt8
  success : UInt32
  ver : UInt8 × UInt8 × UInt8
  binLen : UInt32
  verify : UInt8
  deriving DecidableEq, Repr

namespace FirmUpInfo

/-- The packed record without its last byte. -/
def body (info : FirmUpInfo) : Bytes :=
  littleEndian32 info.haveFirm ++ littleEndian32 info.needUp ++
    [info.trycnt] ++ littleEndian32 info.success ++
    [info.ver.1, info.ver.2.1, info.ver.2.2] ++ littleEndian32 info.binLen

def encode (info : FirmUpInfo) : Bytes := info.body ++ [info.verify]

def encodedSize : Nat := 21

def decode (bytes : Bytes) : FirmUpInfo where
  haveFirm := read32 bytes 0
  needUp := read32 bytes 4
  trycnt := byteAt bytes 8
  success := read32 bytes 9
  ver := (byteAt bytes 13, byteAt bytes 14, byteAt bytes 15)
  binLen := read32 bytes 16
  verify := byteAt bytes 20

@[simp] theorem length_encode (info : FirmUpInfo) :
    info.encode.length = encodedSize := rfl

theorem decode_encode (info : FirmUpInfo) : decode info.encode = info := by
  rcases info with ⟨haveFirm, needUp, trycnt, success, ver, binLen, verify⟩
  simp only [decode, FirmUpInfo.mk.injEq]
  simp only [encode, body, littleEndian32, List.cons_append, List.nil_append]
  refine ⟨?_, ?_, rfl, ?_, rfl, ?_, rfl⟩
  · exact read32_of_bytes rfl rfl rfl rfl
  · exact read32_of_bytes rfl rfl rfl rfl
  · exact read32_of_bytes rfl rfl rfl rfl
  · exact read32_of_bytes rfl rfl rfl rfl

end FirmUpInfo

/-- `FIRMBACK_FLASHINFO` -/
structure FirmBackInfo where
  useful : UInt32
  ver : UInt8 × UInt8 × UInt8
  binLen : UInt32
  deriving DecidableEq, Repr

namespace FirmBackInfo

def encode (info : FirmBackInfo) : Bytes :=
  littleEndian32 info.useful ++ [info.ver.1, info.ver.2.1, info.ver.2.2] ++
    littleEndian32 info.binLen

def encodedSize : Nat := 11

def decode (bytes : Bytes) : FirmBackInfo where
  useful := read32 bytes 0
  ver := (byteAt bytes 4, byteAt bytes 5, byteAt bytes 6)
  binLen := read32 bytes 7

@[simp] theorem length_encode (info : FirmBackInfo) :
    info.encode.length = encodedSize := rfl

theorem decode_encode (info : FirmBackInfo) : decode info.encode = info := by
  rcases info with ⟨useful, ver, binLen⟩
  simp only [decode, FirmBackInfo.mk.injEq]
  simp only [encode, littleEndian32, List.cons_append, List.nil_append]
  refine ⟨?_, rfl, ?_⟩
  · exact read32_of_bytes rfl rfl rfl rfl
  · exact read32_of_bytes rfl rfl rfl rfl

end FirmBackInfo

def readFirmUpInfo (flash : Memory) : FirmUpInfo :=
  .decode (readBytes flash firmUpInfoBaseAddr FirmUpInfo.encodedSize)

def readFirmBackInfo (flash : Memory) : FirmBackInfo :=
  .decode (readBytes flash firmBackInfoBaseAddr FirmBackInfo.encodedSize)

/-! ## The function -/

def FirmUpInfo.Confirmable (info : FirmUpInfo) : Prop :=
  info.haveFirm = 0xa5a5a5a5 ∧ info.needUp = 0x05050505 ∧
    info.success = 0xffffffff ∧ info.verify = xorVerify info.body

instance (info : FirmUpInfo) : Decidable info.Confirmable :=
  inferInstanceAs (Decidable (_ ∧ _ ∧ _ ∧ _))

def FirmUpInfo.confirmed (info : FirmUpInfo) : FirmUpInfo :=
  let done := { info with success := 0xa5a5a5a5 }
  { done with verify := xorVerify done.body }

def FirmUpInfo.backup (info : FirmUpInfo) : FirmBackInfo where
  useful := 0xa5a5a5a5
  ver := info.ver
  binLen := info.binLen

def backupErases : List FlashOp :=
  (List.range 4).map fun block =>
    blkErase (firmwareBackupAddr + block * 16 * flashBytesPerSector)

/-- The loop over the image; a pass copies at least one byte. -/
def copyFirmware : Nat → Memory → Nat → Nat → Nat → Memory
  | 0, flash, _, _, _ => flash
  | fuel + 1, flash, sizeLeft, rdAddr, wtAddr =>
      if sizeLeft = 0 then flash
      else
        let tmpSize := if 1024 < sizeLeft then 1024 else sizeLeft
        let readBuf := readBytes flash rdAddr tmpSize
        copyFirmware fuel ((deviceWrite wtAddr readBuf).apply flash)
          (sizeLeft - tmpSize) (rdAddr + tmpSize) (wtAddr + tmpSize)

/-- A sector is erased and gets a record at its start. -/
def rewriteSector (addr : Nat) (bytes : Bytes) : List FlashOp :=
  [sctErase addr, deviceWrite addr bytes]

def recordOps (info : FirmUpInfo) : List FlashOp :=
  rewriteSector firmBackInfoBaseAddr info.backup.encode ++
    rewriteSector firmUpInfoBaseAddr info.confirmed.encode

def upgradeConfirm (device : Device) (rtc : RtcTime) : Device :=
  let info := readFirmUpInfo device.flash
  if info.Confirmable then
    let erased := applyOps device.flash backupErases
    let copied := copyFirmware info.binLen.toNat erased info.binLen.toNat
      firmwareUpgradeAddr firmwareBackupAddr
    let log := addLog device.systemLog rtc (ascii "upgrade new software ok")
    { device with
      flash := applyOps copied (recordOps info ++ log.2)
      systemLog := log.1 }
  else device

theorem upgradeConfirm_flash {device : Device}
    (h : (readFirmUpInfo device.flash).Confirmable) (rtc : RtcTime) :
    let info := readFirmUpInfo device.flash
    (upgradeConfirm device rtc).flash =
      applyOps (copyFirmware info.binLen.toNat
          (applyOps device.flash backupErases) info.binLen.toNat
          firmwareUpgradeAddr firmwareBackupAddr)
        (recordOps info ++ (addLog device.systemLog rtc
          (ascii "upgrade new software ok")).2) := by
  unfold upgradeConfirm
  rw [if_pos h]

/-! ## The records afterwards -/

theorem addLog_avoids (info : LogInfo .systemLog) (rtc : RtcTime)
    (text : Bytes) {low high : Nat} (hlow : firmwareUpgradeAddr ≤ low) :
    ∀ op ∈ (addLog info rtc text).2, op.Avoids low high := by
  intro op hop
  have hring := (logWrite_insideRing _ _ op hop).2
  have hend : LogType.baseAddr .systemLog + LogType.maxSize .systemLog ≤
      firmwareUpgradeAddr := by decide
  exact .inl (hring.trans (hend.trans hlow))

section Sectors

variable {addr : Nat} {bytes : Bytes} (haligned : addr / 4096 * 4096 = addr)
  (hlength : bytes.length ≤ 4096)

include haligned hlength

theorem readBytes_rewriteSector (flash : Memory) :
    readBytes (applyOps flash (rewriteSector addr bytes)) addr bytes.length =
      bytes := by
  rw [rewriteSector, sctErase, haligned]
  exact readBytes_rewrite flash addr bytes hlength

theorem rewriteSector_avoids {low high : Nat}
    (h : addr + 4096 ≤ low ∨ high ≤ addr) :
    ∀ op ∈ rewriteSector addr bytes, op.Avoids low high := by
  intro op hop
  rw [rewriteSector, sctErase, haligned] at hop
  simp only [List.mem_cons, List.not_mem_nil, or_false] at hop
  rcases hop with rfl | rfl
  · exact h
  · simp only [FlashOp.Avoids, deviceWrite, FlashOp.start, FlashOp.size]
    omega

end Sectors

theorem length_encode_le (info : FirmUpInfo) :
    info.backup.encode.length ≤ 4096 ∧ info.confirmed.encode.length ≤ 4096 := by
  rw [FirmBackInfo.length_encode, FirmUpInfo.length_encode]
  decide

theorem readFirmBackInfo_records (flash : Memory) (info : FirmUpInfo) :
    readFirmBackInfo (applyOps flash (recordOps info)) = info.backup := by
  have hlength := length_encode_le info
  have hkept : AgreeOn firmBackInfoBaseAddr (firmBackInfoBaseAddr + 4096)
      (applyOps flash (recordOps info))
      (applyOps flash (rewriteSector firmBackInfoBaseAddr info.backup.encode)) := by
    rw [recordOps, applyOps_append]
    exact agreeOn_applyOps _ (rewriteSector_avoids (by decide) hlength.2
      (.inl (by decide)))
  rw [readFirmBackInfo, hkept.readBytes_eq le_rfl (by decide),
    ← FirmBackInfo.length_encode info.backup,
    readBytes_rewriteSector (by decide) hlength.1, FirmBackInfo.decode_encode]

theorem readFirmUpInfo_records (flash : Memory) (info : FirmUpInfo) :
    readFirmUpInfo (applyOps flash (recordOps info)) = info.confirmed := by
  have hlength := length_encode_le info
  rw [readFirmUpInfo, recordOps, applyOps_append,
    ← FirmUpInfo.length_encode info.confirmed,
    readBytes_rewriteSector (by decide) hlength.2, FirmUpInfo.decode_encode]

theorem upgradeConfirm_records {device : Device}
    (h : (readFirmUpInfo device.flash).Confirmable) (rtc : RtcTime) :
    readFirmBackInfo (upgradeConfirm device rtc).flash =
        (readFirmUpInfo device.flash).backup ∧
      readFirmUpInfo (upgradeConfirm device rtc).flash =
        (readFirmUpInfo device.flash).confirmed := by
  rw [upgradeConfirm_flash h]
  have hlog (flash : Memory) (low high : Nat)
      (hlow : firmwareUpgradeAddr ≤ low) : AgreeOn low high
        (applyOps flash (addLog device.systemLog rtc
          (ascii "upgrade new software ok")).2) flash :=
    agreeOn_applyOps flash (addLog_avoids _ _ _ hlow)
  simp only [applyOps_append]
  constructor
  · rw [readFirmBackInfo, (hlog _ firmBackInfoBaseAddr
      (firmBackInfoBaseAddr + 4096) (by decide)).readBytes_eq le_rfl (by decide)]
    exact readFirmBackInfo_records _ _
  · rw [readFirmUpInfo, (hlog _ firmUpInfoBaseAddr
      (firmUpInfoBaseAddr + 4096) (by decide)).readBytes_eq le_rfl (by decide)]
    exact readFirmUpInfo_records _ _

theorem not_confirmable_confirmed (info : FirmUpInfo) :
    ¬info.confirmed.Confirmable := by
  intro h
  exact absurd h.2.2.1 (by simp [FirmUpInfo.confirmed])

theorem upgradeConfirm_of_not_confirmable {device : Device}
    (h : ¬(readFirmUpInfo device.flash).Confirmable) (rtc : RtcTime) :
    upgradeConfirm device rtc = device := if_neg h

/-! ## The image afterwards -/

theorem backupErases_erase (flash : Memory) :
    Erased firmwareBackupAddr (firmwareBackupAddr + maxUpgradeFileSize)
      (applyOps flash backupErases) := by
  intro address hlow hhigh
  simp only [backupErases, firmwareBackupAddr, maxUpgradeFileSize,
    flashBytesPerSector, List.range_succ_eq_map, List.range_zero,
    List.map_cons, List.map_nil, applyOps_cons, applyOps_nil, blkErase,
    FlashOp.apply] at *
  simp only [Nat.reduceMul, Nat.reduceAdd, Nat.reduceDiv] at *
  grind

theorem backupErases_avoid :
    ∀ op ∈ backupErases, op.Avoids firmwareUpgradeAddr
      (firmwareUpgradeAddr + maxUpgradeFileSize) := by
  decide

structure Copied (before : Memory) (done : Nat) (flash : Memory) : Prop where
  image : Holds firmwareBackupAddr (firmwareBackupAddr + maxUpgradeFileSize)
    (readBytes before firmwareUpgradeAddr done) flash
  upgrade : AgreeOn firmwareUpgradeAddr
    (firmwareUpgradeAddr + maxUpgradeFileSize) flash before

theorem copied_erased (flash : Memory) :
    Copied flash 0 (applyOps flash backupErases) where
  image := (backupErases_erase flash).holds
  upgrade := agreeOn_applyOps flash backupErases_avoid

theorem Copied.write {before flash : Memory} {done size : Nat}
    (h : Copied before done flash) (hroom : done + size ≤ maxUpgradeFileSize) :
    Copied before (done + size)
      ((deviceWrite (firmwareBackupAddr + done)
        (readBytes flash (firmwareUpgradeAddr + done) size)).apply flash) := by
  have hread : readBytes flash (firmwareUpgradeAddr + done) size =
      readBytes before (firmwareUpgradeAddr + done) size :=
    h.upgrade.readBytes_eq (Nat.le_add_right _ _) (by omega)
  have hlength : (readBytes before firmwareUpgradeAddr done).length = done :=
    length_readBytes _ _ _
  constructor
  · have hwritten := h.image.program
      (by simp only [length_readBytes]; omega :
        _ + _ + (readBytes before (firmwareUpgradeAddr + done) size).length ≤ _)
    rw [hlength, ← readBytes_add, ← hread] at hwritten
    exact hwritten
  · refine (agreeOn_apply flash (.inr ?_)).trans h.upgrade
    have hbehind : firmwareUpgradeAddr + maxUpgradeFileSize ≤
        firmwareBackupAddr := by decide
    exact hbehind.trans (Nat.le_add_right _ _)

theorem copyFirmware_copied {before : Memory} {fuel : Nat} {flash : Memory}
    {done sizeLeft : Nat} (h : Copied before done flash)
    (hfuel : sizeLeft ≤ fuel) (hroom : done + sizeLeft ≤ maxUpgradeFileSize) :
    Copied before (done + sizeLeft)
      (copyFirmware fuel flash sizeLeft (firmwareUpgradeAddr + done)
        (firmwareBackupAddr + done)) := by
  induction fuel generalizing flash done sizeLeft with
  | zero =>
      obtain rfl : sizeLeft = 0 := Nat.le_zero.mp hfuel
      exact h
  | succ fuel ih =>
      rw [copyFirmware]
      split
      case isTrue hnone =>
        rw [hnone]
        exact h
      case isFalse hsome =>
        generalize htmp : (if 1024 < sizeLeft then 1024 else sizeLeft) = tmpSize
        have htmpSize : 0 < tmpSize ∧ tmpSize ≤ sizeLeft := by
          split at htmp <;> omega
        have hwritten := @Copied.write _ _ _ tmpSize h (by omega)
        have hstep := @ih _ _ (sizeLeft - tmpSize) hwritten (by omega) (by omega)
        rw [Nat.add_assoc, Nat.add_sub_cancel' htmpSize.2] at hstep
        simpa only [Nat.add_assoc] using hstep

/-! ## Confirming -/

structure BackedUp (before after : Memory) : Prop where
  image : let binLen := (readFirmUpInfo before).binLen.toNat
    readBytes after firmwareBackupAddr binLen =
      readBytes before firmwareUpgradeAddr binLen
  upgrade : AgreeOn firmwareUpgradeAddr
    (firmwareUpgradeAddr + maxUpgradeFileSize) after before
  backupInfo : readFirmBackInfo after = (readFirmUpInfo before).backup
  upInfo : readFirmUpInfo after = (readFirmUpInfo before).confirmed

theorem records_agree (flash : Memory) (info : FirmUpInfo)
    (systemLog : LogInfo .systemLog) (rtc : RtcTime) (text : Bytes) :
    AgreeOn firmwareUpgradeAddr firmUpInfoBaseAddr
      (applyOps flash (recordOps info ++ (addLog systemLog rtc text).2))
      flash := by
  have hlength := length_encode_le info
  apply agreeOn_applyOps
  intro op hop
  rcases List.mem_append.mp hop with hrecord | hlog
  · rcases List.mem_append.mp hrecord with hback | hup
    · exact rewriteSector_avoids (by decide) hlength.1 (.inr (by decide)) op hback
    · exact rewriteSector_avoids (by decide) hlength.2 (.inr le_rfl) op hup
  · exact addLog_avoids _ _ _ le_rfl op hlog

theorem upgradeConfirm_backedUp {device : Device}
    (h : (readFirmUpInfo device.flash).Confirmable)
    (hlen : (readFirmUpInfo device.flash).binLen.toNat ≤ maxUpgradeFileSize)
    (rtc : RtcTime) :
    BackedUp device.flash (upgradeConfirm device rtc).flash := by
  obtain ⟨hback, hup⟩ := upgradeConfirm_records h rtc
  have hcopied := copyFirmware_copied (copied_erased device.flash) le_rfl
    ((Nat.zero_add _).trans_le hlen)
  rw [Nat.zero_add, Nat.add_zero, Nat.add_zero] at hcopied
  have hkept : AgreeOn firmwareUpgradeAddr firmUpInfoBaseAddr
      (upgradeConfirm device rtc).flash
      (copyFirmware (readFirmUpInfo device.flash).binLen.toNat
        (applyOps device.flash backupErases)
        (readFirmUpInfo device.flash).binLen.toNat firmwareUpgradeAddr
        firmwareBackupAddr) := by
    rw [upgradeConfirm_flash h]
    exact records_agree _ _ _ _ _
  have hends : firmwareBackupAddr + maxUpgradeFileSize ≤ firmUpInfoBaseAddr := by
    decide
  constructor
  · have hstored := hcopied.image.stored
    rw [length_readBytes] at hstored
    exact (hkept.readBytes_eq (by decide) (by omega)).trans hstored
  · exact (hkept.mono le_rfl (by decide)).trans hcopied.upgrade
  · exact hback
  · exact hup

/-- Confirming makes the new image the backup, once and only for the record of a
new firmware. -/
theorem upgrade_confirm_backs_up (device : Device) (rtc later : RtcTime) :
    ((readFirmUpInfo device.flash).Confirmable →
      (readFirmUpInfo device.flash).binLen.toNat ≤ maxUpgradeFileSize →
        BackedUp device.flash (upgradeConfirm device rtc).flash ∧
          upgradeConfirm (upgradeConfirm device rtc) later =
            upgradeConfirm device rtc) ∧
      (¬(readFirmUpInfo device.flash).Confirmable →
        upgradeConfirm device rtc = device) := by
  constructor
  · intro h hlen
    refine ⟨upgradeConfirm_backedUp h hlen rtc, ?_⟩
    apply upgradeConfirm_of_not_confirmable
    rw [(upgradeConfirm_records h rtc).2]
    exact not_confirmable_confirmed _
  · intro h
    exact upgradeConfirm_of_not_confirmable h rtc

/-! ## Devices with a record -/

def newFirmware (binLen : UInt32) : FirmUpInfo :=
  let info : FirmUpInfo :=
    ⟨0xa5a5a5a5, 0x05050505, 0, 0xffffffff, (1, 0, 0), binLen, 0⟩
  { info with verify := xorVerify info.body }

def newFirmwareDevice (binLen : UInt32) : Device :=
  Device.blank.run
    [deviceWrite firmUpInfoBaseAddr (newFirmware binLen).encode]

theorem readFirmUpInfo_newFirmware (binLen : UInt32) :
    readFirmUpInfo (newFirmwareDevice binLen).flash = newFirmware binLen := by
  have hwritten : readBytes (newFirmwareDevice binLen).flash firmUpInfoBaseAddr
      (newFirmware binLen).encode.length = (newFirmware binLen).encode :=
    readBytes_program fun _ _ _ => rfl
  rw [FirmUpInfo.length_encode] at hwritten
  rw [readFirmUpInfo, hwritten, FirmUpInfo.decode_encode]

theorem confirmable_newFirmware (binLen : UInt32) :
    (newFirmware binLen).Confirmable := ⟨rfl, rfl, rfl, rfl⟩

theorem new_firmware_backed_up :
    (readFirmUpInfo (newFirmwareDevice 5000).flash).Confirmable ∧
      BackedUp (newFirmwareDevice 5000).flash
        (upgradeConfirm (newFirmwareDevice 5000) ⟨2020, 1, 1, 0, 0, 0⟩).flash := by
  have hrecord := readFirmUpInfo_newFirmware 5000
  have hnew : (readFirmUpInfo (newFirmwareDevice 5000).flash).Confirmable := by
    rw [hrecord]
    exact confirmable_newFirmware 5000
  have hlen : (readFirmUpInfo (newFirmwareDevice 5000).flash).binLen.toNat ≤
      maxUpgradeFileSize := by
    rw [hrecord]
    decide
  exact ⟨hnew, ((upgrade_confirm_backs_up (newFirmwareDevice 5000)
    ⟨2020, 1, 1, 0, 0, 0⟩ ⟨2020, 1, 1, 0, 0, 1⟩).1 hnew hlen).1⟩

/-- A record with an image that is one byte too long is confirmed as well. -/
theorem oversized_firmware_confirmed :
    maxUpgradeFileSize <
        (readFirmUpInfo (newFirmwareDevice 262145).flash).binLen.toNat ∧
      readFirmBackInfo
          (upgradeConfirm (newFirmwareDevice 262145) ⟨2020, 1, 1, 0, 0, 0⟩).flash ≠
        readFirmBackInfo (newFirmwareDevice 262145).flash := by
  have hrecord := readFirmUpInfo_newFirmware 262145
  have hnew : (readFirmUpInfo (newFirmwareDevice 262145).flash).Confirmable := by
    rw [hrecord]
    exact confirmable_newFirmware 262145
  constructor
  · rw [hrecord]
    decide
  · rw [(upgradeConfirm_records hnew _).1, hrecord]
    decide +kernel

end WncFirmware
