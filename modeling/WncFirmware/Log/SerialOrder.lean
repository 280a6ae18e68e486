import WncFirmware.Foundation.Circle
import WncFirmware.Log.Recovery

/-!
# The order of the serial numbers

`sn_after` subtracts two 16-bit numbers as `int`, so that it compares their
signed values.  This is the order of the writer as long as the serial numbers do
not run from `0x7fff` to `0x8000`; wrapping from `0xffff` to 0 does no harm.
-/

namespace WncFirmware

open WncFirmware.Foundation

/-! ## Two serial numbers -/

def serialValue (sn : UInt16) : Int := sn.toInt16.toInt

theorem serialValue_eq (sn : UInt16) :
    serialValue sn =
      if sn.toNat < 32768 then (sn.toNat : Int) else sn.toNat - 65536 := by
  have hcond := BitVec.toInt_eq_toNat_cond sn.toBitVec
  have hlt := sn.toNat_lt
  rw [serialValue]
  change sn.toBitVec.toInt = _
  rw [hcond]
  simp only [UInt16.toNat_toBitVec]
  split <;> split <;> omega

theorem snAfter_iff (first second : UInt16) :
    snAfter first second = true ↔ serialValue second < serialValue first := by
  rw [snAfter, decide_eq_true_iff, serialValue, serialValue]
  omega

theorem snAfter_eq_false_iff (first second : UInt16) :
    snAfter first second = false ↔ serialValue first ≤ serialValue second := by
  rw [← Bool.not_eq_true, snAfter_iff, Int.not_lt]

def PassesLimit (first : UInt16) (steps : Nat) : Prop :=
  first.toNat < 32768 ∧ 32768 ≤ first.toNat + steps

instance (first : UInt16) (steps : Nat) : Decidable (PassesLimit first steps) :=
  inferInstanceAs (Decidable (_ ∧ _))

theorem serialValue_add (first : UInt16) {steps : Nat} (h : steps < 32768) :
    serialValue (first + UInt16.ofNat steps) =
      if PassesLimit first steps then serialValue first + steps - 65536
      else serialValue first + steps := by
  have hlt := first.toNat_lt
  have hsum : (first + UInt16.ofNat steps).toNat =
      (first.toNat + steps) % 65536 := by
    rw [UInt16.toNat_add, UInt16.toNat_ofNat']
    omega
  rw [serialValue_eq, serialValue_eq, hsum]
  by_cases hpasses : PassesLimit first steps
  · rw [if_pos hpasses]
    simp only [PassesLimit] at hpasses
    omega
  · rw [if_neg hpasses]
    simp only [PassesLimit] at hpasses
    omega

def OrderedAt (first : UInt16) (steps : Nat) : Prop :=
  snAfter (first + UInt16.ofNat steps) first = true ∧
    snAfter first (first + UInt16.ofNat steps) = false

theorem orderedAt_iff (first : UInt16) {steps : Nat} (hpos : 0 < steps)
    (hlt : steps < 32768) : OrderedAt first steps ↔ ¬PassesLimit first steps := by
  rw [OrderedAt, snAfter_iff, snAfter_eq_false_iff, serialValue_add first hlt]
  split
  case isTrue hpasses =>
    refine iff_of_false ?_ (not_not.mpr hpasses)
    omega
  case isFalse hstays =>
    refine iff_of_true ?_ hstays
    omega

/-! ## A full ring -/

section Ring

variable {flash : Memory} {base count place : Nat} {first : UInt16}

/-- Every sector is in use, with consecutive serial numbers from a place on. -/
def SerialsFrom (flash : Memory) (base count place : Nat) (first : UInt16) :
    Prop :=
  ∀ other, other < count →
    readHeader flash (base + other * flashBytesPerSector) =
      ⟨sectorUseFlag, first + UInt16.ofNat (distance count place other)⟩

/-- The search finds the serial number that is better than all the others. -/
theorem SerialsFrom.search (h : SerialsFrom flash base count place first)
    (hplace : place < count) {better : UInt16 → UInt16 → Bool} {steps : Nat}
    (hsteps : steps < count)
    (hbest : ∀ other, other < count → other ≠ steps →
      better (first + UInt16.ofNat steps) (first + UInt16.ofNat other) =
          true ∧
        better (first + UInt16.ofNat other) (first + UInt16.ofNat steps) =
          false) :
    (searchSectors flash base better count 0 none).2 =
      some (first + UInt16.ofNat steps, (place + steps) % count) := by
  have hpos : 0 < count := by omega
  have hdistance := distance_add hplace hsteps
  have hothers : ∀ other, other < count → other ≠ (place + steps) % count →
      better (first + UInt16.ofNat
          (distance count place ((place + steps) % count)))
          (first + UInt16.ofNat (distance count place other)) = true ∧
        better (first + UInt16.ofNat (distance count place other))
          (first + UInt16.ofNat
            (distance count place ((place + steps) % count))) = false := by
    intro other hother hne
    rw [hdistance]
    apply hbest _ (distance_lt hpos place other)
    intro hsame
    rw [← hsame, add_distance hplace hother] at hne
    exact hne rfl
  have hsearch := searchSectors_from
    (fun other => first + UInt16.ofNat (distance count place other)) h
    (.inl rfl) (Nat.mod_lt (place + steps) hpos) hothers (Nat.zero_add count)
    (Nat.zero_le _) (fun _ => .inl rfl) fun hlt => absurd hlt (Nat.not_lt_zero _)
  rw [hdistance] at hsearch
  exact hsearch

structure FindsEnds (flash : Memory) (base count place : Nat)
    (first : UInt16) : Prop where
  newest : (searchSectors flash base snAfter count 0 none).2 =
    some (first + UInt16.ofNat (count - 1), (place + (count - 1)) % count)
  oldest : (searchSectors flash base (fun sn min => snAfter min sn) count 0
    none).2 = some (first, place)

/-- No limit in between: the loops find the last and the first serial number. -/
theorem SerialsFrom.findsEnds (h : SerialsFrom flash base count place first)
    (hplace : place < count) (hcount : count ≤ 32)
    (hstays : ¬PassesLimit first (count - 1)) :
    FindsEnds flash base count place first := by
  have hvalue : ∀ steps, steps < count →
      serialValue (first + UInt16.ofNat steps) = serialValue first + steps := by
    intro steps hsteps
    rw [serialValue_add first (by omega), if_neg]
    simp only [PassesLimit] at hstays ⊢
    omega
  constructor
  · apply h.search hplace (by omega)
    intro other hother hne
    rw [snAfter_iff, snAfter_eq_false_iff, hvalue other hother,
      hvalue _ (by omega)]
    omega
  · have hsearch := @SerialsFrom.search flash base count place first h hplace
      (fun sn min => snAfter min sn) 0 (by omega) (by
        intro other hother hne
        rw [snAfter_iff, snAfter_eq_false_iff, hvalue other hother,
          hvalue 0 (by omega)]
        omega)
    rw [Nat.add_zero, Nat.mod_eq_of_lt hplace] at hsearch
    rw [hsearch]
    congr 2
    exact UInt16.add_zero first

/-- The limit in between: the loop finds the first number behind it as oldest. -/
theorem SerialsFrom.search_limit (h : SerialsFrom flash base count place first)
    (hplace : place < count) (hcount : count ≤ 32)
    (hpasses : PassesLimit first (count - 1)) :
    ∃ steps, 0 < steps ∧ steps < count ∧
      (searchSectors flash base (fun sn min => snAfter min sn) count 0
        none).2 =
        some (first + UInt16.ofNat steps, (place + steps) % count) := by
  obtain ⟨hlow, hhigh⟩ := hpasses
  refine ⟨32768 - first.toNat, by omega, by omega, ?_⟩
  apply h.search hplace (by omega)
  intro other hother hne
  have hfound : PassesLimit first (32768 - first.toNat) := by
    simp only [PassesLimit]
    omega
  rw [snAfter_iff, snAfter_eq_false_iff, serialValue_add first (by omega),
    serialValue_add first (by omega), if_pos hfound]
  by_cases hbehind : PassesLimit first other
  · rw [if_pos hbehind]
    simp only [PassesLimit] at hbehind
    omega
  · rw [if_neg hbehind]
    omega

theorem SerialsFrom.findsEnds_iff
    (h : SerialsFrom flash base count place first) (hplace : place < count)
    (hcount : count ≤ 32) :
    FindsEnds flash base count place first ↔
      ¬PassesLimit first (count - 1) := by
  refine ⟨?_, h.findsEnds hplace hcount⟩
  intro hfinds hpasses
  obtain ⟨steps, hpos, hlt, hsearch⟩ :=
    h.search_limit hplace hcount hpasses
  rw [hfinds.oldest] at hsearch
  obtain ⟨-, hsame⟩ := Prod.mk.inj (Option.some.inj hsearch)
  exact add_mod_ne hplace hpos hlt hsame.symm

end Ring

/-! ## The writer and the reader -/

structure StartsAtEnds (flash : Memory) (type : LogType) (place : Nat)
    (first : UInt16) : Prop where
  nextSn : (perpareWriteInfo flash type).nextSn =
    first + UInt16.ofNat type.sectorNum
  writeOffset : (perpareWriteInfo flash type).writeOffset =
    (place + (type.sectorNum - 1)) % type.sectorNum * flashBytesPerSector +
      usedInSector flash (type.sectorAddr
        ((place + (type.sectorNum - 1)) % type.sectorNum))
  readOffset : ∀ info : LogInfo type,
    (prepareRead flash info).readOffset = place * flashBytesPerSector

theorem LogType.sectorNum_le (type : LogType) : type.sectorNum ≤ 32 := by
  cases type <;> decide

theorem SerialsFrom.startsAtEnds_iff {flash : Memory} {type : LogType}
    {place : Nat} {first : UInt16}
    (h : SerialsFrom flash type.baseAddr type.sectorNum place first)
    (hplace : place < type.sectorNum) :
    StartsAtEnds flash type place first ↔
      ¬PassesLimit first (type.sectorNum - 1) := by
  constructor
  · intro hstarts hpasses
    obtain ⟨steps, hpos, hlt, hsearch⟩ :=
      h.search_limit hplace type.sectorNum_le hpasses
    have hread := hstarts.readOffset ⟨0, 0, 0, Nat.zero_le _⟩
    rw [prepareRead_of_search hsearch] at hread
    apply add_mod_ne hplace hpos hlt
    simp only [flashBytesPerSector] at hread
    omega
  · intro hstays
    have hfinds := h.findsEnds hplace type.sectorNum_le hstays
    obtain ⟨hsn, hoffset⟩ := perpareWriteInfo_of_search hfinds.newest
    refine ⟨?_, hoffset, ?_⟩
    · have hpos := type.sectorNum_pos
      have hsucc : UInt16.ofNat type.sectorNum =
          UInt16.ofNat (type.sectorNum - 1) + 1 := by
        rw [← UInt16.ofNat_one, ← UInt16.ofNat_add, Nat.sub_add_cancel hpos]
      rw [hsn, hsucc, UInt16.add_assoc]
    · intro info
      rw [prepareRead_of_search hfinds.oldest]

theorem serial_order_iff (first : UInt16) :
    (∀ steps, 0 < steps → steps < 32768 →
      (OrderedAt first steps ↔ ¬PassesLimit first steps)) ∧
    (∀ (flash : Memory) (base count place : Nat), place < count → count ≤ 32 →
      SerialsFrom flash base count place first →
      (FindsEnds flash base count place first ↔
        ¬PassesLimit first (count - 1))) ∧
    ∀ (flash : Memory) (type : LogType) (place : Nat), place < type.sectorNum →
      SerialsFrom flash type.baseAddr type.sectorNum place first →
      (StartsAtEnds flash type place first ↔
        ¬PassesLimit first (type.sectorNum - 1)) := by
  refine ⟨?_, ?_, ?_⟩
  · intro steps hpos hlt
    exact orderedAt_iff first hpos hlt
  · intro flash base count place hplace hcount hserials
    exact hserials.findsEnds_iff hplace hcount
  · intro flash type place hplace hserials
    exact hserials.startsAtEnds_iff hplace

def ringFlash (type : LogType) (place : Nat) (first : UInt16) : Memory :=
  fun address =>
    let offset := address - type.baseAddr
    byteAt (sectorHeader (first + UInt16.ofNat (distance type.sectorNum place
      (offset / flashBytesPerSector)))) (offset % flashBytesPerSector)

theorem serialsFrom_ringFlash (type : LogType) (place : Nat) (first : UInt16) :
    SerialsFrom (ringFlash type place first) type.baseAddr type.sectorNum place
      first := by
  intro other _
  refine @readHeader_of_readBytes _ _ _ [] ?_
  rw [List.append_nil]
  apply bytes_ext (length_readBytes _ _ _)
  intro index hindex
  have hsmall : index < flashBytesPerSector := by
    rw [length_readBytes] at hindex
    exact hindex.trans (show 4 < 4096 by decide)
  have hoffset : type.baseAddr + other * flashBytesPerSector + index -
      type.baseAddr = index + flashBytesPerSector * other := by
    rw [Nat.mul_comm]
    omega
  have hread : byteAt (readBytes (ringFlash type place first)
      (type.baseAddr + other * flashBytesPerSector)
      (sectorHeader (first + UInt16.ofNat
        (distance type.sectorNum place other))).length) index =
      ringFlash type place first
        (type.baseAddr + other * flashBytesPerSector + index) := by
    rw [length_readBytes] at hindex
    simp [byteAt, readBytes, hindex]
  rw [hread, ringFlash, hoffset, Nat.add_mul_div_left _ _ (by decide),
    Nat.add_mul_mod_self_left, Nat.mod_eq_of_lt hsmall,
    Nat.div_eq_of_lt hsmall, Nat.zero_add]

/-- The serial numbers wrap from `0xffff` to 0 inside the ring. -/
theorem wrapped_ring_in_order :
    OrderedAt 65535 1 ∧
      StartsAtEnds (ringFlash .systemLog 5 65530) .systemLog 5 65530 :=
  ⟨((serial_order_iff 65535).1 1 (by decide) (by decide)).mpr (by decide),
    ((serial_order_iff 65530).2.2 _ .systemLog 5 (by decide)
      (serialsFrom_ringFlash _ _ _)).mpr (by decide)⟩

/-- `0x8000` counts as earlier than `0x7fff`. -/
theorem limit_out_of_order :
    ¬∀ (first : UInt16) (steps : Nat), 0 < steps → steps < 32768 →
      OrderedAt first steps := by
  intro h
  exact absurd (h 32767 1 (by decide) (by decide)).1 (by decide)

end WncFirmware
