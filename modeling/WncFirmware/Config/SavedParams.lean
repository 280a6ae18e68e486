import Mathlib.Data.List.Induction
import WncFirmware.Config.EmbeddedFlash
import WncFirmware.Foundation.Runs

/-!
# What the device boots with

A save is twelve operations of the flash controller.  Whether the power or the
controller fails, a front part of them has taken effect; the next boot decides
from what it finds.
-/

namespace WncFirmware.Embedded

open WncFirmware.Foundation

/-! ## Operations one after another -/

def halfWordOp (data : Bytes) (i : Nat) : FlashOp :=
  .program (deviceParamsAddress + i * 2) (littleEndian16 (read16 data (i * 2)))

def saveOps (data : Bytes) : List FlashOp :=
  .erase deviceParamsAddress 2048 :: (List.range 11).map (halfWordOp data)

@[simp] theorem length_saveOps (data : Bytes) : (saveOps data).length = 12 := by
  simp [saveOps]

def Fmc.attempt (outcome : Nat → FmcOutcome) : Nat → List FlashOp → Fmc → Fmc
  | _, [], fmc => fmc
  | i, op :: ops, fmc =>
      attempt outcome (i + 1) ops (fmc.operate op (outcome i)).2

/-- How many of the first `count` operations end well before one does not. -/
def progress (outcome : Nat → FmcOutcome) : Nat → Nat
  | 0 => 0
  | count + 1 =>
      if progress outcome count = count ∧ outcome count = .done then count + 1
      else progress outcome count

theorem progress_le (outcome : Nat → FmcOutcome) (count : Nat) :
    progress outcome count ≤ count := by
  induction count with
  | zero => exact Nat.le_refl 0
  | succ count ih =>
      simp only [progress]
      split <;> omega

theorem progress_eq_iff (outcome : Nat → FmcOutcome) (count : Nat) :
    progress outcome count = count ↔ ∀ i < count, outcome i = .done := by
  induction count with
  | zero => simp [progress]
  | succ count ih =>
      have hle := progress_le outcome count
      rw [Nat.forall_lt_succ_right, ← ih, progress]
      split
      · simp_all
      · next hstops =>
          constructor
          · intro heq
            omega
          · intro hall
            exact absurd hall hstops

variable {fmc : Fmc} {data stack mac : Bytes} {id : UInt32}
  {outcome : Nat → FmcOutcome}

namespace Fmc

theorem operate_ready (h : fmc.getB1State = .ready) (op : FlashOp)
    (how : FmcOutcome) : (fmc.operate op how).2 = fmc.perform op how :=
  if_pos h

theorem operate_blocked (h : fmc.getB1State ≠ .ready) (op : FlashOp)
    (how : FmcOutcome) : (fmc.operate op how).2 = fmc :=
  if_neg h

theorem attempt_blocked (h : fmc.getB1State ≠ .ready) (i : Nat)
    (ops : List FlashOp) : attempt outcome i ops fmc = fmc := by
  induction ops generalizing i with
  | nil => rfl
  | cons op ops ih => rw [attempt, operate_blocked h, ih]

theorem attempt_concat (i : Nat) (ops : List FlashOp) (op : FlashOp) :
    attempt outcome i (ops ++ [op]) fmc =
      ((attempt outcome i ops fmc).operate op (outcome (i + ops.length))).2 := by
  induction ops generalizing i fmc with
  | nil => rfl
  | cons first ops ih =>
      rw [List.cons_append, attempt, ih, attempt, List.length_cons]
      congr 3
      omega

theorem ready_iff (fmc : Fmc) :
    fmc.getB1State = .ready ↔ fmc.wpef = false ∧ fmc.pgef = false := by
  unfold getB1State
  cases fmc.wpef <;> cases fmc.pgef <;> simp

@[simp] theorem reset_ready (fmc : Fmc) : fmc.reset.getB1State = .ready := rfl

theorem perform_ready_iff (h : fmc.getB1State = .ready) (op : FlashOp)
    (how : FmcOutcome) :
    (fmc.perform op how).getB1State = .ready ↔ how = .done := by
  obtain ⟨hwpef, hpgef⟩ := (ready_iff fmc).mp h
  cases how <;> simp [ready_iff, perform, hwpef, hpgef]

theorem perform_failed {how : FmcOutcome} (h : how ≠ .done) (op : FlashOp) :
    (fmc.perform op how).flash = fmc.flash := by
  cases how <;> first | rfl | exact absurd rfl h

theorem attempt_spec (h : fmc.getB1State = .ready) (ops : List FlashOp) :
    (attempt outcome 0 ops fmc).flash =
        applyOps fmc.flash (ops.take (progress outcome ops.length)) ∧
      ((attempt outcome 0 ops fmc).getB1State = .ready ↔
        progress outcome ops.length = ops.length) := by
  induction ops using List.reverseRecOn with
  | nil => simpa [attempt, progress] using h
  | append_singleton ops op ih =>
      obtain ⟨hflash, hready⟩ := ih
      have hle := progress_le outcome ops.length
      rw [attempt_concat, List.length_append, List.length_singleton, progress,
        Nat.zero_add]
      by_cases hall : progress outcome ops.length = ops.length
      · rw [operate_ready (hready.mpr hall), perform_ready_iff (hready.mpr hall)]
        by_cases hdone : outcome ops.length = .done
        · rw [if_pos ⟨hall, hdone⟩, hdone]
          have hwhole : (ops ++ [op]).take (ops.length + 1) = ops ++ [op] :=
            List.take_of_length_le (by simp)
          refine ⟨?_, by simp⟩
          simp [perform, hflash, hall, hwhole, applyOps_append]
        · rw [if_neg (by simp [hdone]), hall, perform_failed hdone, hflash, hall]
          refine ⟨?_, by simp [hdone]⟩
          simp
      · have hblocked := fun hstate => hall (hready.mp hstate)
        rw [operate_blocked hblocked, if_neg (by simp [hall]), hflash]
        refine ⟨?_, ?_⟩
        · rw [List.take_append_of_le_length hle]
        · constructor
          · exact fun hstate => absurd hstate hblocked
          · intro heq
            omega

end Fmc

/-! ## The loop as a row of operations -/

theorem programLoop_ready (h : fmc.getB1State = .ready) (left i : Nat) :
    programLoop data outcome (left + 1) i fmc =
      programLoop data outcome left (i + 1)
        (fmc.operate (halfWordOp data i) (outcome (i + 1))).2 :=
  if_pos h

theorem programLoop_blocked (h : fmc.getB1State ≠ .ready) (left i : Nat) :
    programLoop data outcome (left + 1) i fmc = (false, fmc) := by
  have hblocked := Fmc.operate_blocked h (halfWordOp data i) (outcome (i + 1))
  exact (if_neg h).trans (congrArg (false, ·) hblocked)

theorem save_ready (h : fmc.getB1State = .ready) :
    saveDeviceParams fmc data outcome =
      programLoop data outcome 11 0
        (fmc.operate (.erase deviceParamsAddress 2048) (outcome 0)).2 :=
  if_pos h

theorem save_blocked (h : fmc.getB1State ≠ .ready) :
    saveDeviceParams fmc data outcome = (false, fmc) := by
  have hblocked := Fmc.operate_blocked h (.erase deviceParamsAddress 2048)
    (outcome 0)
  exact (if_neg h).trans (congrArg (false, ·) hblocked)

theorem programLoop_snd (left i : Nat) (fmc : Fmc) :
    (programLoop data outcome left i fmc).2 =
      fmc.attempt outcome (i + 1) ((List.range' i left).map (halfWordOp data)) := by
  induction left generalizing i fmc with
  | zero => rfl
  | succ left ih =>
      by_cases hready : fmc.getB1State = .ready
      · rw [programLoop_ready hready, ih, List.range'_succ, List.map_cons,
          Fmc.attempt]
      · rw [programLoop_blocked hready, Fmc.attempt_blocked hready]

theorem programLoop_fst (left i : Nat) (fmc : Fmc) :
    (programLoop data outcome (left + 1) i fmc).1 = true ↔
      (fmc.attempt outcome (i + 1)
        ((List.range' i left).map (halfWordOp data))).getB1State = .ready := by
  induction left generalizing i fmc with
  | zero =>
      by_cases hready : fmc.getB1State = .ready
      · rw [programLoop_ready hready]
        exact iff_of_true rfl hready
      · simpa [programLoop_blocked hready, Fmc.attempt] using hready
  | succ left ih =>
      by_cases hready : fmc.getB1State = .ready
      · rw [programLoop_ready hready, ih, List.range'_succ, List.map_cons,
          Fmc.attempt]
      · rw [programLoop_blocked hready, Fmc.attempt_blocked hready]
        simp [hready]

theorem saveDeviceParams_snd (fmc : Fmc) :
    (saveDeviceParams fmc data outcome).2 =
      fmc.attempt outcome 0 (saveOps data) := by
  by_cases hready : fmc.getB1State = .ready
  · rw [save_ready hready, programLoop_snd, saveOps, List.range_eq_range',
      Fmc.attempt]
  · rw [save_blocked hready, Fmc.attempt_blocked hready]

theorem saveDeviceParams_fst (fmc : Fmc) :
    (saveDeviceParams fmc data outcome).1 = true ↔
      (fmc.attempt outcome 0 ((saveOps data).take 11)).getB1State = .ready := by
  have hfront : (saveOps data).take 11 =
      .erase deviceParamsAddress 2048 ::
        (List.range' 0 10).map (halfWordOp data) := rfl
  by_cases hready : fmc.getB1State = .ready
  · rw [save_ready hready, programLoop_fst, hfront, Fmc.attempt]
  · rw [save_blocked hready, Fmc.attempt_blocked hready]
    simp [hready]

/-- The command handler takes its `saveOk` from the flash. -/
theorem setDeviceIdAndMac_fst {env : Tcp.CommandEnv}
    (henv : env.saveOk =
      (saveDeviceParams fmc (tmpDevice stack id mac) outcome).1) :
    (setDeviceIdAndMac fmc stack id mac outcome).1 =
      Tcp.setDeviceIdAndMac env id mac := by
  rw [setDeviceIdAndMac, Tcp.setDeviceIdAndMac, henv]
  split
  · next haccepted => rw [haccepted, Bool.true_and]
  · next hrefused => simp [hrefused]

theorem save_answer (h : fmc.getB1State = .ready) :
    (saveDeviceParams fmc data outcome).1 = true ↔
      ∀ i < 11, outcome i = .done := by
  have hlength : ((saveOps data).take 11).length = 11 := by simp
  rw [saveDeviceParams_fst, (Fmc.attempt_spec h _).2, hlength, progress_eq_iff]

/-! ## What a front part of the operations leaves -/

theorem littleEndian16_read16 {index : Nat} (h : index + 2 ≤ data.length) :
    littleEndian16 (read16 data index) = (data.drop index).take 2 := by
  apply bytes_ext (by simp [littleEndian16]; omega)
  intro offset hoffset
  have hlow := (byteAt data index).toNat_lt
  have hhigh := (byteAt data (index + 1)).toNat_lt
  have hcell : byteAt ((data.drop index).take 2) offset =
      byteAt data (index + offset) := by
    simp only [littleEndian16, List.length_cons, List.length_nil] at hoffset
    simp [byteAt, hoffset]
  rw [hcell]
  apply UInt8.toNat_inj.mp
  have hbound : offset < 2 := hoffset
  rcases (by omega : offset = 0 ∨ offset = 1) with rfl | rfl
  · simp [littleEndian16, toNat_byteOf, read16]
  · simp [littleEndian16, toNat_byteOf, read16]
    omega

theorem take_saveOps {count : Nat} (h : count ≤ 11) :
    (saveOps data).take (count + 1) =
      .erase deviceParamsAddress 2048 ::
        (List.range count).map (halfWordOp data) := by
  rw [saveOps, List.take_succ_cons, ← List.map_take, List.take_range,
    Nat.min_eq_left h]

theorem holds_saved (memory : Memory) (hlength : data.length = 22)
    {count : Nat} (h : count ≤ 11) :
    Holds deviceParamsAddress (deviceParamsAddress + 22) (data.take (2 * count))
      (applyOps memory ((saveOps data).take (count + 1))) := by
  rw [take_saveOps h, applyOps_cons]
  induction count with
  | zero =>
      apply Erased.holds
      exact (erased_erase memory deviceParamsAddress 2048).mono le_rfl
        (Nat.add_le_add_left (by decide) _)
  | succ count ih =>
      have hfilled : (data.take (2 * count)).length = 2 * count := by
        simp
        omega
      have hop : halfWordOp data count =
          .program (deviceParamsAddress + 2 * count)
            ((data.drop (2 * count)).take 2) := by
        rw [halfWordOp, Nat.mul_comm count, littleEndian16_read16 (by omega)]
      have hnext := @Holds.program _ _ _ ((data.drop (2 * count)).take 2) _
        (ih (by omega)) (by simp; omega)
      rw [hfilled, ← hop] at hnext
      rw [List.range_succ, List.map_append, applyOps_append, Nat.mul_succ,
        List.take_add]
      exact hnext

/-- The structure as it reads after the erase and `count` half-words. -/
def partImage (data : Bytes) (count : Nat) : Bytes :=
  data.take (2 * count) ++ List.replicate (22 - 2 * count) 0xff

theorem readBytes_saved (memory : Memory) (hlength : data.length = 22)
    {count : Nat} (h : count ≤ 11) :
    readBytes (applyOps memory ((saveOps data).take (count + 1)))
      deviceParamsAddress sizeofWncDevice = partImage data count := by
  have hfilled : (data.take (2 * count)).length = 2 * count := by
    simp
    omega
  have hread := (holds_saved memory hlength h).readBytes_all
    (by rw [hfilled]; omega)
  rwa [hfilled] at hread

theorem byteAt_partImage (hlength : data.length = 22) {count index : Nat}
    (hcount : count ≤ 11) (h : index < 22) :
    byteAt (partImage data count) index =
      if index < 2 * count then byteAt data index else 0xff := by
  have hfilled : (data.take (2 * count)).length = 2 * count := by
    simp
    omega
  split
  · next hfront =>
      rw [partImage, byteAt_append_left _ (by omega)]
      simp [byteAt, hfront]
  · next hbehind =>
      have hindex : index = (data.take (2 * count)).length +
          (index - 2 * count) := by omega
      rw [partImage, hindex, byteAt_append_right]
      simp only [byteAt, List.getD_eq_getElem?_getD, List.getElem?_replicate]
      rw [if_pos (by omega)]
      rfl

theorem partImage_all (hlength : data.length = 22) :
    partImage data 11 = data := by
  rw [partImage, List.take_of_length_le (by omega)]
  simp

/-! ## The fields of the structure -/

@[simp] theorem length_tmpDevice (stack : Bytes) (id : UInt32) (mac : Bytes) :
    (tmpDevice stack id mac).length = 22 := by
  simp [tmpDevice, littleEndian32]

theorem byteAt_tmpDevice_mac {index : Nat} (h : index < 6) :
    byteAt (tmpDevice stack id mac) (10 + index) = byteAt mac index := by
  have hskip := byteAt_append_right (slice stack 0 10)
    (slice mac 0 6 ++ (slice stack 16 2 ++ littleEndian32 id)) index
  rw [length_slice] at hskip
  rw [tmpDevice, List.append_assoc, List.append_assoc, hskip,
    byteAt_append_left _ (by simpa using h), byteAt_slice _ h, Nat.zero_add]

theorem byteAt_tmpDevice_id (index : Nat) :
    byteAt (tmpDevice stack id mac) (18 + index) =
      byteAt (littleEndian32 id) index := by
  have hskip := byteAt_append_right
    (slice stack 0 10 ++ slice mac 0 6 ++ slice stack 16 2)
    (littleEndian32 id) index
  simp only [List.length_append, length_slice] at hskip
  exact hskip

theorem slice_partImage_mac {count : Nat} (h : count ≤ 11) :
    slice (partImage (tmpDevice stack id mac) count) 10 6 =
      (List.range 6).map fun index =>
        if 10 + index < 2 * count then byteAt mac index else 0xff := by
  apply List.map_congr_left
  intro index hindex
  have hlt := List.mem_range.mp hindex
  rw [byteAt_partImage (length_tmpDevice _ _ _) h (by omega),
    byteAt_tmpDevice_mac hlt]

theorem macValid_partImage (hmac : Tcp.macValid mac = true) {count : Nat}
    (h : count ≤ 11) :
    Tcp.macValid (slice (partImage (tmpDevice stack id mac) count) 10 6) =
      decide (7 ≤ count) := by
  rw [slice_partImage_mac h]
  by_cases hfew : 7 ≤ count
  · have h0 : 10 < 2 * count := by omega
    have h1 : 11 < 2 * count := by omega
    have h2 : 12 < 2 * count := by omega
    simpa [Tcp.macValid, List.range_succ, byteAt, h0, h1, h2, hfew] using hmac
  · have h2 : ¬12 < 2 * count := by omega
    simp [Tcp.macValid, List.range_succ, byteAt, h2, hfew]

theorem strtol_partImage (hmac : Tcp.macValid mac = true) {count : Nat}
    (hcount : 6 ≤ count) (h : count ≤ 11) :
    strtol (partImage (tmpDevice stack id mac) count) =
      strtol (slice stack 0 10) := by
  have hfront : (partImage (tmpDevice stack id mac) count).take 10 =
      slice stack 0 10 := by
    rw [partImage, List.take_append_of_le_length (by simp; omega),
      List.take_take, Nat.min_eq_left (by omega), tmpDevice,
      List.append_assoc, List.append_assoc, List.take_left' (by simp)]
  have hzero : byteAt (partImage (tmpDevice stack id mac) count) 10 = 0 := by
    rw [byteAt_partImage (length_tmpDevice _ _ _) h (by omega),
      if_pos (by omega)]
    have hfirst : byteAt mac 0 = 0 := by
      simp only [Tcp.macValid, Bool.and_eq_true, beq_iff_eq] at hmac
      exact hmac.1.1
    exact (byteAt_tmpDevice_mac (by decide)).trans hfirst
  have hlength : 10 < (partImage (tmpDevice stack id mac) count).length := by
    simp [partImage]
    omega
  have hsplit := List.take_append_drop 10
    (partImage (tmpDevice stack id mac) count)
  rw [hfront, List.drop_eq_getElem_cons hlength] at hsplit
  have hcell : (partImage (tmpDevice stack id mac) count)[10] = 0 := by
    simpa [byteAt, hlength] using hzero
  rw [hcell] at hsplit
  rw [← hsplit, strtol_terminated]

theorem read32_partImage {count : Nat} (h : count ≤ 9) :
    read32 (partImage (tmpDevice stack id mac) count) 18 = 0xffffffff := by
  have hbytes : ∀ index, 18 ≤ index → index < 22 →
      byteAt (partImage (tmpDevice stack id mac) count) index = 0xff := by
    intro index hlow hhigh
    rw [byteAt_partImage (length_tmpDevice _ _ _) (by omega) hhigh,
      if_neg (by omega)]
  simp [read32, hbytes]

theorem read32_partImage_low :
    read32 (partImage (tmpDevice stack id mac) 10) 18 =
      UInt32.ofNat (0xffff0000 + id.toNat % 65536) := by
  have hlow : ∀ index < 2,
      byteAt (partImage (tmpDevice stack id mac) 10) (18 + index) =
        byteAt (littleEndian32 id) index := by
    intro index hindex
    rw [byteAt_partImage (length_tmpDevice _ _ _) (by omega) (by omega),
      if_pos (by omega), byteAt_tmpDevice_id]
  have hhigh : ∀ index, 20 ≤ index → index < 22 →
      byteAt (partImage (tmpDevice stack id mac) 10) index = 0xff := by
    intro index hlow hhigh
    rw [byteAt_partImage (length_tmpDevice _ _ _) (by omega) hhigh,
      if_neg (by omega)]
  have h0 := hlow 0 (by omega)
  have h1 := hlow 1 (by omega)
  simp only [Nat.add_zero] at h0
  simp only [read32, h0, h1, hhigh 20 (by omega) (by omega),
    hhigh 21 (by omega) (by omega)]
  congr 1
  simp [littleEndian32, toNat_byteOf]
  omega

theorem read32_tmpDevice (stack : Bytes) (id : UInt32) (mac : Bytes) :
    read32 (tmpDevice stack id mac) 18 = id :=
  read32_of_bytes (byteAt_tmpDevice_id 0) (byteAt_tmpDevice_id 1)
    (byteAt_tmpDevice_id 2) (byteAt_tmpDevice_id 3)

theorem idValid_ne (h : Tcp.idValid id = true) : id ≠ 0xffffffff := by
  rintro rfl
  exact absurd h (by decide)

/-! ## The next boot -/

def paramsAfter (before : DeviceParams) (stack : Bytes) (id : UInt32)
    (mac : Bytes) (done : Nat) : DeviceParams :=
  let textId := UInt32.ofInt (strtol (slice stack 0 10))
  let lowId := UInt32.ofNat (0xffff0000 + id.toNat % 65536)
  if done = 0 then before
  else if done ≤ 7 then Tcp.defaultDeviceParams
  else
    { id := if done ≤ 10 then textId
        else if done = 11 then
          if id.toNat % 65536 = 65535 then textId else lowId
        else id
      ethMac := if done = 8 then slice mac 0 4 ++ [0xff, 0xff]
        else slice mac 0 6 }

theorem userParamsInit_fst (fmc : Fmc) (boot : Nat → FmcOutcome) :
    (userParamsInit fmc boot).1 =
      if Tcp.macValid (getDeviceParams fmc.flash).ethMac then
        getDeviceParams fmc.flash
      else Tcp.defaultDeviceParams := by
  simp only [userParamsInit]
  split <;> rfl

theorem lowId_erased (id : UInt32) :
    UInt32.ofNat (0xffff0000 + id.toNat % 65536) = 0xffffffff ↔
      id.toNat % 65536 = 65535 := by
  rw [← UInt32.toNat_inj, UInt32.toNat_ofNat']
  simp only [UInt32.reduceToNat]
  omega

theorem slice_partImage_mac_valid {count : Nat} (hlow : 7 ≤ count)
    (h : count ≤ 11) :
    slice (partImage (tmpDevice stack id mac) count) 10 6 =
      if count = 7 then slice mac 0 4 ++ [0xff, 0xff] else slice mac 0 6 := by
  rw [slice_partImage_mac h]
  split
  · next hseven =>
      subst hseven
      simp [slice, List.range_succ]
  · apply List.map_congr_left
    intro index hindex
    have hlt := List.mem_range.mp hindex
    rw [if_pos (by omega), Nat.zero_add]

theorem loadedParams_partImage (before : DeviceParams)
    (hid : id ≠ 0xffffffff) (hmac : Tcp.macValid mac = true)
    {count : Nat} (hlow : 7 ≤ count) (h : count ≤ 11) :
    loadedParams (partImage (tmpDevice stack id mac) count) =
      paramsAfter before stack id mac (count + 1) := by
  have htext := @strtol_partImage stack mac id hmac count (by omega) h
  have hmany : ¬count + 1 ≤ 7 := by omega
  simp only [loadedParams, paramsAfter, if_neg hmany, htext,
    slice_partImage_mac_valid hlow h, Nat.reduceEqDiff, reduceIte]
  rw [DeviceParams.mk.injEq]
  refine ⟨?_, rfl⟩
  rcases (by omega : count ≤ 9 ∨ count = 10 ∨ count = 11) with hfew | rfl | rfl
  · rw [if_pos (read32_partImage hfew), if_pos (by omega)]
  · simp only [read32_partImage_low, lowId_erased, Nat.reduceAdd,
      Nat.reduceLeDiff, reduceIte]
  · rw [partImage_all (length_tmpDevice _ _ _), read32_tmpDevice,
      if_neg hid]
    simp

/-- The parameters that a boot after `done` operations of a save finds. -/
theorem boot_after_save (hid : id ≠ 0xffffffff)
    (hmac : Tcp.macValid mac = true) (before : Fmc) (boot : Nat → FmcOutcome)
    {done : Nat} (h : done ≤ 12)
    (hflash : fmc.flash = applyOps before.flash
      ((saveOps (tmpDevice stack id mac)).take done)) :
    (userParamsInit fmc boot).1 =
      paramsAfter (userParamsInit before boot).1 stack id mac done := by
  cases done with
  | zero =>
      have hsame : fmc.flash = before.flash := by simpa using hflash
      simp [userParamsInit_fst, hsame, paramsAfter]
  | succ count =>
      have hread : getDeviceParams fmc.flash =
          loadedParams (partImage (tmpDevice stack id mac) count) := by
        rw [getDeviceParams, hflash,
          readBytes_saved _ (length_tmpDevice _ _ _) (by omega)]
      have hvalid : Tcp.macValid
          (loadedParams (partImage (tmpDevice stack id mac) count)).ethMac =
            decide (7 ≤ count) :=
        macValid_partImage hmac (by omega)
      rw [userParamsInit_fst, hread, hvalid]
      by_cases hlow : 7 ≤ count
      · rw [if_pos (by simpa using hlow)]
        exact loadedParams_partImage _ hid hmac hlow (by omega)
      · rw [if_neg (by simpa using hlow), paramsAfter,
          if_neg (Nat.succ_ne_zero _), if_pos (by omega)]

/--
A save of valid parameters that the power or the controller cuts short: the
next boot finds the old parameters, the defaults, an id out of the text that
happens to lie in `id_str`, half an id, or the new parameters, by the number of
operations that took effect.
-/
theorem interrupted_save_boots_with (hready : fmc.getB1State = .ready)
    (hid : Tcp.idValid id = true) (hmac : Tcp.macValid mac = true)
    (boot : Nat → FmcOutcome) {cut : Nat} (hcut : cut ≤ 12) :
    (userParamsInit (fmc.attempt outcome 0
        ((saveOps (tmpDevice stack id mac)).take cut)).reset boot).1 =
      paramsAfter (userParamsInit fmc.reset boot).1 stack id mac
        (progress outcome cut) ∧
    (setDeviceIdAndMac fmc stack id mac outcome).2 =
      fmc.attempt outcome 0 ((saveOps (tmpDevice stack id mac)).take 12) := by
  constructor
  · have hlength : ((saveOps (tmpDevice stack id mac)).take cut).length = cut := by
      simpa using hcut
    have hle := progress_le outcome cut
    have hspec := (@Fmc.attempt_spec fmc outcome hready
      ((saveOps (tmpDevice stack id mac)).take cut)).1
    rw [hlength, List.take_take, Nat.min_eq_left hle] at hspec
    exact boot_after_save (idValid_ne hid) hmac fmc.reset boot (by omega) hspec
  · have hwhole : (saveOps (tmpDevice stack id mac)).take 12 =
        saveOps (tmpDevice stack id mac) := List.take_of_length_le (by simp)
    rw [setDeviceIdAndMac, if_pos (by simp [hid, hmac]), saveDeviceParams_snd,
      hwhole]

theorem interrupted_save_boots_with_half_mac :
    (userParamsInit (Fmc.attempt (fun _ => .done) 0
      ((saveOps (tmpDevice (ascii "0x7f") 448000
        [0x00, 0x1e, 0x38, 1, 2, 3])).take 8)
      ⟨fun _ => 0, false, false⟩).reset fun _ => .done).1 =
        ⟨127, [0x00, 0x1e, 0x38, 1, 0xff, 0xff]⟩ := by
  have hdone : progress (fun _ => .done) 8 = 8 := by decide
  rw [(@interrupted_save_boots_with ⟨fun _ => 0, false, false⟩ (ascii "0x7f")
    [0x00, 0x1e, 0x38, 1, 2, 3] 448000 (fun _ => .done) rfl (by decide)
    (by decide) (fun _ => .done) 8 (by decide)).1, hdone]
  decide +kernel

/-! ## Histories of boots, commands and power cuts -/

inductive ParamCall where
  | boot
  | set (stack : Bytes) (id : UInt32) (mac : Bytes)
  | erase
  deriving DecidableEq, Repr

/-- With a cut the power fails after that many operations of the flash. -/
structure ParamEvent where
  call : ParamCall
  outcome : Nat → FmcOutcome
  cut : Option Nat

/--
`wncDevice` is `none` while the device has no power; `saved` are the parameters
of the last save that took effect as a whole, unless a later one has destroyed
them.
-/
structure ParamSystem where
  fmc : Fmc
  wncDevice : Option DeviceParams
  saved : Option DeviceParams

namespace ParamSystem

def saves (s : ParamSystem) : ParamCall → Option (Bytes × UInt32 × Bytes)
  | .boot =>
      if Tcp.macValid (getDeviceParams s.fmc.flash).ethMac then none
      else some (ascii "448", 448, Tcp.defaultDeviceParams.ethMac)
  | .set stack id mac =>
      if Tcp.idValid id && Tcp.macValid mac then some (stack, id, mac) else none
  | .erase => some (ascii "448", 448, Tcp.defaultDeviceParams.ethMac)

def fmcFor (s : ParamSystem) (call : ParamCall) : Fmc :=
  if call = .boot then s.fmc.reset else s.fmc

def operations (event : ParamEvent) : Nat := min (event.cut.getD 12) 12

def keeps (s : ParamSystem) (event : ParamEvent) : Option DeviceParams :=
  match s.saves event.call with
  | none => s.saved
  | some (_, id, mac) =>
      let done := progress event.outcome (operations event)
      if (s.fmcFor event.call).getB1State ≠ .ready ∨ done = 0 then s.saved
      else if done = 12 then some ⟨id, slice mac 0 6⟩
      else none

def cutFmc (s : ParamSystem) (event : ParamEvent) : Fmc :=
  match s.saves event.call with
  | none => s.fmcFor event.call
  | some (stack, id, mac) =>
      (s.fmcFor event.call).attempt event.outcome 0
        ((saveOps (tmpDevice stack id mac)).take (operations event))

def next (s : ParamSystem) (event : ParamEvent) : ParamSystem :=
  let saved := s.keeps event
  match event.cut, event.call with
  | some _, _ => ⟨s.cutFmc event, none, saved⟩
  | none, .boot =>
      let booted := userParamsInit s.fmc.reset event.outcome
      ⟨booted.2, some booted.1, saved⟩
  | none, .set stack id mac =>
      ⟨(setDeviceIdAndMac s.fmc stack id mac event.outcome).2, s.wncDevice, saved⟩
  | none, .erase =>
      ⟨(initDeviceParam s.fmc event.outcome).2, some Tcp.defaultDeviceParams,
        saved⟩

def step (s : ParamSystem) (event : ParamEvent) : Option ParamSystem :=
  some (s.next event)

def start (flash : Memory) : ParamSystem := ⟨⟨flash, false, false⟩, none, none⟩

def Powered (s : ParamSystem) (event : ParamEvent) : Prop :=
  event.call = .boot ∨ s.wncDevice.isSome

instance (s : ParamSystem) (event : ParamEvent) : Decidable (s.Powered event) :=
  inferInstanceAs (Decidable (_ ∨ _))

structure Sound (s : ParamSystem) : Prop where
  flash : ∀ p, s.saved = some p →
    Tcp.macValid p.ethMac = true ∧ getDeviceParams s.fmc.flash = p
  ram : ∀ p, s.wncDevice = some p → Tcp.macValid p.ethMac = true

theorem defaultImage_eq : defaultImage =
    tmpDevice (ascii "448") 448 Tcp.defaultDeviceParams.ethMac := by
  decide +kernel

@[simp] theorem next_saved (s : ParamSystem) (event : ParamEvent) :
    (s.next event).saved = s.keeps event := by
  obtain ⟨call, how, cut⟩ := event
  cases cut <;> cases call <;> rfl

theorem next_fmc (s : ParamSystem) (event : ParamEvent) :
    (s.next event).fmc = s.cutFmc event := by
  obtain ⟨call, how, cut⟩ := event
  cases cut with
  | some cut => rfl
  | none =>
      have hwhole : ∀ data, (saveOps data).take 12 = saveOps data := fun data =>
        List.take_of_length_le (by simp)
      cases call with
      | boot =>
          simp only [next, cutFmc, saves, fmcFor, operations, userParamsInit]
          by_cases hmac :
              Tcp.macValid (getDeviceParams s.fmc.flash).ethMac = true
          · simp [Fmc.reset, hmac]
          · simp [Fmc.reset, hmac, initDeviceParam, saveDeviceParams_snd,
              defaultImage_eq, hwhole]
      | set stack id mac =>
          simp only [next, cutFmc, saves, fmcFor, operations, setDeviceIdAndMac]
          by_cases hvalid : (Tcp.idValid id && Tcp.macValid mac) = true
          · simp [hvalid, saveDeviceParams_snd, hwhole]
          · simp [hvalid]
      | erase =>
          simp [next, cutFmc, saves, fmcFor, operations, initDeviceParam,
            saveDeviceParams_snd, defaultImage_eq, hwhole]

@[simp] theorem fmcFor_flash (s : ParamSystem) (call : ParamCall) :
    (s.fmcFor call).flash = s.fmc.flash := by
  unfold fmcFor
  split <;> rfl

theorem saves_valid {s : ParamSystem} {call : ParamCall}
    (h : s.saves call = some (stack, id, mac)) :
    id ≠ 0xffffffff ∧ Tcp.macValid mac = true := by
  have hdefault : ∀ fields : Bytes × UInt32 × Bytes,
      fields = (ascii "448", 448, Tcp.defaultDeviceParams.ethMac) →
      fields.2.1 ≠ 0xffffffff ∧ Tcp.macValid fields.2.2 = true := by
    rintro fields rfl
    decide
  cases call with
  | boot =>
      simp only [saves] at h
      split at h
      · cases h
      · exact hdefault (stack, id, mac) (Option.some.inj h).symm
  | set stack' id' mac' =>
      simp only [saves] at h
      split at h
      · next hvalid =>
          cases h
          obtain ⟨hid, hmac⟩ := Bool.and_eq_true_iff.mp hvalid
          exact ⟨idValid_ne hid, hmac⟩
      · cases h
  | erase => exact hdefault (stack, id, mac) (Option.some.inj h).symm

/-- The flash after a call that saves, if the controller takes commands. -/
theorem cutFmc_flash {s : ParamSystem} {event : ParamEvent}
    (h : s.saves event.call = some (stack, id, mac))
    (hready : (s.fmcFor event.call).getB1State = .ready) :
    (s.cutFmc event).flash = applyOps s.fmc.flash
      ((saveOps (tmpDevice stack id mac)).take
        (progress event.outcome (operations event))) := by
  have hlength : ((saveOps (tmpDevice stack id mac)).take
      (operations event)).length = operations event := by
    simp [operations]
  have hspec := (@Fmc.attempt_spec _ event.outcome hready
    ((saveOps (tmpDevice stack id mac)).take (operations event))).1
  rw [hlength, List.take_take, Nat.min_eq_left (progress_le _ _),
    fmcFor_flash] at hspec
  rw [cutFmc, h]
  exact hspec

theorem getDeviceParams_saved (memory : Memory) (hid : id ≠ 0xffffffff)
    (hmac : Tcp.macValid mac = true) :
    getDeviceParams (applyOps memory
      ((saveOps (tmpDevice stack id mac)).take 12)) = ⟨id, slice mac 0 6⟩ := by
  rw [getDeviceParams,
    readBytes_saved memory (length_tmpDevice _ _ _) (le_refl 11)]
  exact loadedParams_partImage Tcp.defaultDeviceParams hid hmac (by omega)
    (by omega)

theorem keeps_sound {s : ParamSystem} (h : s.Sound) (event : ParamEvent)
    {p : DeviceParams} (hp : s.keeps event = some p) :
    Tcp.macValid p.ethMac = true ∧
      getDeviceParams (s.cutFmc event).flash = p := by
  cases hsaves : s.saves event.call with
  | none =>
      simp only [keeps, hsaves] at hp
      simpa only [cutFmc, hsaves, fmcFor_flash] using h.flash p hp
  | some fields =>
      obtain ⟨stack, id, mac⟩ := fields
      obtain ⟨hid, hmac⟩ := saves_valid hsaves
      simp only [keeps, hsaves] at hp
      by_cases hready : (s.fmcFor event.call).getB1State = .ready
      · rw [cutFmc_flash hsaves hready]
        by_cases hnone : progress event.outcome (operations event) = 0
        · rw [if_pos (.inr hnone)] at hp
          simpa [hnone] using h.flash p hp
        · rw [if_neg (by simp [hready, hnone])] at hp
          split at hp
          · next hall =>
              cases hp
              rw [hall]
              exact ⟨hmac, getDeviceParams_saved _ hid hmac⟩
          · cases hp
      · rw [if_pos (.inl hready)] at hp
        have hsame : s.cutFmc event = s.fmcFor event.call := by
          simp only [cutFmc, hsaves]
          exact Fmc.attempt_blocked hready _ _
        rw [hsame, fmcFor_flash]
        exact h.flash p hp

theorem next_sound {s : ParamSystem} (h : s.Sound) (event : ParamEvent) :
    (s.next event).Sound where
  flash p hp := by
    rw [next_saved] at hp
    rw [next_fmc]
    exact keeps_sound h event hp
  ram p hp := by
    obtain ⟨call, how, cut⟩ := event
    cases cut with
    | some cut => cases hp
    | none =>
        cases call with
        | boot =>
            have hbooted := Option.some.inj hp
            rw [userParamsInit_fst] at hbooted
            subst hbooted
            split
            · next hmac => exact hmac
            · rfl
        | set stack id mac => exact h.ram p hp
        | erase =>
            cases hp
            rfl

/--
Whatever the flash held at first, and however boots, commands, power cuts and
failing operations follow on each other: the parameters in use have the MAC
header, and as long as no later save has destroyed the parameters of a complete
one, the next boot loads them and leaves the flash alone.
-/
theorem boots_with_saved_params {flash : Memory} {events : List ParamEvent}
    {s : ParamSystem} (run : Run step Powered (start flash) events s) :
    (∀ p, s.wncDevice = some p → Tcp.macValid p.ethMac = true) ∧
      ∀ p, s.saved = some p → ∀ outcome,
        userParamsInit s.fmc.reset outcome = (p, s.fmc.reset) := by
  have hsound : s.Sound := by
    apply run.invariant
    · intro state event after hstate _ hstep
      cases hstep
      exact next_sound hstate event
    · exact ⟨by simp [start], by simp [start]⟩
  refine ⟨hsound.ram, fun p hp outcome => ?_⟩
  obtain ⟨hmac, hload⟩ := hsound.flash p hp
  have hsame : getDeviceParams s.fmc.reset.flash = p := hload
  simp only [userParamsInit, hsame, hmac, if_true]

theorem boots_with_saved_params_after_cut :
    ∃ s, Run step Powered (start fun _ => 0xff)
        [⟨.boot, fun _ => .done, none⟩,
          ⟨.set [] 448000 [0x00, 0x1e, 0x38, 1, 2, 3], fun _ => .done, none⟩,
          ⟨.erase, fun _ => .done, some 0⟩] s ∧
      ∀ outcome, userParamsInit s.fmc.reset outcome =
        (⟨448000, [0x00, 0x1e, 0x38, 1, 2, 3]⟩, s.fmc.reset) := by
  refine ⟨_, .cons (.inl rfl) rfl (.cons (.inr rfl) rfl
    (.cons (.inr rfl) rfl (.nil _))), ?_⟩
  apply (boots_with_saved_params (.cons (.inl rfl) rfl (.cons (.inr rfl) rfl
    (.cons (.inr rfl) rfl (.nil _))))).2
  decide +kernel

/-! ## After a failed operation -/

def StaysOn (s : ParamSystem) (event : ParamEvent) : Prop :=
  s.Powered event ∧ event.call ≠ .boot

instance (s : ParamSystem) (event : ParamEvent) : Decidable (s.StaysOn event) :=
  inferInstanceAs (Decidable (_ ∧ _))

theorem next_blocked {s : ParamSystem} {event : ParamEvent}
    (h : s.fmc.getB1State ≠ .ready) (hcall : event.call ≠ .boot) :
    (s.next event).fmc = s.fmc := by
  have hsame : s.fmcFor event.call = s.fmc := if_neg hcall
  rw [next_fmc, cutFmc, hsame]
  cases s.saves event.call with
  | none => rfl
  | some fields => exact Fmc.attempt_blocked h _ _

/--
An operation of an accepted command fails.  The answer is a failure unless it
was the last one, and from then on to the next boot every save answers with a
failure and the flash stays as the operations before the failed one left it.
-/
theorem failed_operation_blocks_saves {s s' : ParamSystem}
    {events : List ParamEvent} (hready : s.fmc.getB1State = .ready)
    (hid : Tcp.idValid id = true) (hmac : Tcp.macValid mac = true)
    (hfails : ∃ i < 12, outcome i ≠ .done)
    (run : Run step StaysOn (s.next ⟨.set stack id mac, outcome, none⟩) events
      s') :
    (setDeviceIdAndMac s.fmc stack id mac outcome).1 =
        decide (progress outcome 12 = 11) ∧
      s'.fmc.flash = applyOps s.fmc.flash
        ((saveOps (tmpDevice stack id mac)).take (progress outcome 12)) ∧
      ∀ stack' id' mac' outcome',
        (setDeviceIdAndMac s'.fmc stack' id' mac' outcome').1 = false ∧
          (initDeviceParam s'.fmc outcome').1 = false := by
  have hshort : progress outcome 12 ≠ 12 := by
    rw [ne_eq, progress_eq_iff]
    obtain ⟨i, hi, hfailed⟩ := hfails
    exact fun hall => hfailed (hall i hi)
  have hlast : progress outcome 12 = progress outcome 11 := by
    rw [progress] at hshort ⊢
    split
    · next hall => exact absurd (if_pos hall) hshort
    · rfl
  have haccepted : setDeviceIdAndMac s.fmc stack id mac outcome =
      saveDeviceParams s.fmc (tmpDevice stack id mac) outcome :=
    if_pos (by simp [hid, hmac])
  obtain ⟨hflash, hstate⟩ := @Fmc.attempt_spec s.fmc outcome hready
    (saveOps (tmpDevice stack id mac))
  rw [← saveDeviceParams_snd, ← haccepted, length_saveOps] at hflash hstate
  have hstays : s'.fmc = (setDeviceIdAndMac s.fmc stack id mac outcome).2 := by
    apply @Run.invariant _ _ _ _ (fun state => state.fmc =
      (setDeviceIdAndMac s.fmc stack id mac outcome).2) ?_ _ _ _ run rfl
    intro state event after hsame hguard hstep
    cases hstep
    rw [← hsame]
    exact next_blocked (by rw [hsame]; exact fun h => hshort (hstate.mp h))
      hguard.2
  refine ⟨?_, ?_, fun stack' id' mac' outcome' => ?_⟩
  · rw [haccepted, Bool.eq_iff_iff, save_answer hready, decide_eq_true_iff,
      hlast, progress_eq_iff]
  · rw [hstays, hflash]
  · have hblocked : s'.fmc.getB1State ≠ .ready := by
      rw [hstays]
      exact fun h => hshort (hstate.mp h)
    constructor
    · unfold setDeviceIdAndMac
      split
      · rw [save_blocked hblocked]
      · rfl
    · rw [initDeviceParam, save_blocked hblocked]

theorem failed_operation_blocks_saves_of_half_id :
    let how := fun i => if i = 11 then FmcOutcome.writeProtected else .done
    let booted := (start fun _ => 0xff).next ⟨.boot, fun _ => .done, none⟩
    let set := ParamCall.set [] 448000 [0x00, 0x1e, 0x38, 1, 2, 3]
    let left := (booted.next ⟨set, how, none⟩).next ⟨.erase, how, none⟩
    (setDeviceIdAndMac booted.fmc [] 448000 [0x00, 0x1e, 0x38, 1, 2, 3] how).1 =
        true ∧ (initDeviceParam left.fmc how).1 = false := by
  intro how booted set left
  have hblocks := @failed_operation_blocks_saves [] [0x00, 0x1e, 0x38, 1, 2, 3]
    448000 how booted left [⟨.erase, how, none⟩] (by decide +kernel) (by decide)
    (by decide) ⟨11, by decide, by decide⟩
    (.cons ⟨.inr rfl, by decide⟩ rfl (.nil _))
  have hlast : progress how 12 = 11 := by decide
  exact ⟨hblocks.1.trans (decide_eq_true hlast), (hblocks.2.2 [] 0 [] how).2⟩

end ParamSystem

end WncFirmware.Embedded
