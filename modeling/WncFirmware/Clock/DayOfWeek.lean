import Mathlib.Tactic.IntervalCases
import WncFirmware.Foundation.Calendar

/-!
# The day of the week

`GetDOY` takes the length of a month from the place before it in the table, whose
first place is a dummy.  The length of the month before the date is therefore
missing from every count.
-/

namespace WncFirmware.Clock

open WncFirmware.Foundation

/-! ## The code -/

def rtcMonthVal : List Nat := [0, 31, 28, 31, 30, 31, 30, 31, 31, 30, 31, 30, 31]

def monthVal (month : Nat) : Nat := rtcMonthVal.getD month 0

def rtcBaseYear : Nat := 1901

def rtcBaseDow : Nat := 2

def isLeapYear (year : UInt16) : Bool :=
  (year % 4 == 0 && year % 100 != 0) || year % 400 == 0

/-- The loop over the months; `check_datetime` keeps its index within the table. -/
def doyLoop (month : Nat) : Nat :=
  (List.range' 1 (month - 1)).foldl (fun doy i => doy + monthVal (i - 1)) 0

def getDOY (year : UInt16) (month day : UInt8) : Nat :=
  let doy := doyLoop month.toNat
  let doy := if 2 < month ∧ isLeapYear year then doy + 1 else doy
  doy + day.toNat

def dowLoop (year : Nat) : Nat :=
  (List.range' rtcBaseYear (year - rtcBaseYear)).foldl (fun dow i =>
    if isLeapYear (UInt16.ofNat i) then dow + 365 + 1 else dow + 365) 0

def getDOW (year : UInt16) (month day : UInt8) : UInt8 :=
  let dow := (dowLoop year.toNat : Int) + (getDOY year month day - 1)
  UInt8.ofInt ((dow + rtcBaseDow).tmod 7)

def dateOf (year : UInt16) (month day : UInt8) : Date :=
  ⟨year.toNat, month.toNat, day.toNat⟩

/-! ## The two loops -/

theorem isLeapYear_iff (year : UInt16) :
    isLeapYear year = true ↔ LeapYear year.toNat := by
  simp only [isLeapYear, LeapYear, Bool.or_eq_true, Bool.and_eq_true,
    beq_iff_eq, bne_iff_ne, ne_eq, ← UInt16.toNat_inj, UInt16.toNat_mod,
    UInt16.toNat_ofNat, Nat.dvd_iff_mod_eq_zero, Nat.reducePow, Nat.reduceMod]
  omega

theorem monthLength_eq {month : Nat} (year : Nat) (hpos : 1 ≤ month)
    (hle : month ≤ 12) : monthLength year month =
      monthVal month + if month = 2 ∧ LeapYear year then 1 else 0 := by
  by_cases hleap : LeapYear year
  · interval_cases month <;> simp [monthLength, monthVal, rtcMonthVal, hleap]
  · interval_cases month <;> simp [monthLength, monthVal, rtcMonthVal, hleap]

theorem doyLoop_succ {month : Nat} (hpos : 1 ≤ month) :
    doyLoop (month + 1) = doyLoop month + monthVal (month - 1) := by
  obtain ⟨month, rfl⟩ := Nat.exists_eq_add_of_le' hpos
  rw [doyLoop, doyLoop, Nat.add_sub_cancel, Nat.add_sub_cancel,
    List.range'_1_concat, List.foldl_concat, Nat.add_sub_cancel_left]

theorem doyLoop_add_missing {month : Nat} (year : Nat) (hpos : 1 ≤ month)
    (hle : month ≤ 12) :
    doyLoop month + monthVal (month - 1) +
        (if 2 < month ∧ LeapYear year then 1 else 0) =
      ∑ earlier ∈ Finset.Ico 1 month, monthLength year earlier := by
  induction month, hpos using Nat.le_induction with
  | base => rfl
  | succ month hpos ih =>
      rw [Finset.sum_Ico_succ_top hpos, ← ih (by omega), doyLoop_succ hpos,
        monthLength_eq year hpos (by omega), Nat.add_sub_cancel]
      by_cases hleap : LeapYear year
      · simp only [hleap, and_true]
        split_ifs <;> omega
      · simp only [hleap, and_false, if_false]
        omega

theorem dowLoop_eq {year : Nat} (hbase : rtcBaseYear ≤ year)
    (h : year < 65536) :
    dowLoop year =
      ∑ earlier ∈ Finset.Ico rtcBaseYear year, yearLength earlier := by
  induction year, hbase using Nat.le_induction with
  | base => rw [Finset.Ico_self, Finset.sum_empty, dowLoop, Nat.sub_self]; rfl
  | succ year hbase ih =>
      have hleap := isLeapYear_iff (UInt16.ofNat year)
      rw [UInt16.toNat_ofNat_of_lt' (show year < 65536 by omega)] at hleap
      rw [Finset.sum_Ico_succ_top hbase, ← ih (by omega), dowLoop, dowLoop,
        Nat.sub_add_comm hbase, List.range'_1_concat, List.foldl_concat,
        Nat.add_sub_cancel' hbase, yearLength]
      simp only [hleap]
      split_ifs <;> rfl

/-! ## What is missing -/

section Missing

variable {year : UInt16} {month day : UInt8}

theorem getDOY_add_missing (h : (dateOf year month day).Valid) :
    getDOY year month day + monthVal (month.toNat - 1) =
      (dateOf year month day).dayOfYear := by
  have hmonths := @doyLoop_add_missing month.toNat year.toNat h.month_pos
    h.month_le
  have hcorrection : (2 < month ∧ isLeapYear year = true) ↔
      2 < month.toNat ∧ LeapYear year.toNat := by
    rw [isLeapYear_iff, UInt8.lt_iff_toNat_lt]
    rfl
  have hdate : (dateOf year month day).dayOfYear =
      ∑ earlier ∈ Finset.Ico 1 month.toNat, monthLength year.toNat earlier +
        day.toNat := rfl
  rw [hdate, ← hmonths, getDOY]
  simp only [hcorrection]
  split_ifs <;> omega

theorem getDOY_pos (h : (dateOf year month day).Valid) :
    1 ≤ getDOY year month day :=
  Nat.le_add_left_of_le h.day_pos

theorem toNat_getDOW (h : (dateOf year month day).Valid) :
    (getDOW year month day).toNat =
      (dowLoop year.toNat + (getDOY year month day - 1) + rtcBaseDow) % 7 := by
  have hpos := getDOY_pos h
  have hint : ((dowLoop year.toNat : Int) + (getDOY year month day - 1) +
      rtcBaseDow).tmod 7 =
      ((dowLoop year.toNat + (getDOY year month day - 1) + rtcBaseDow) % 7 :
        Nat) := by
    rw [Int.tmod_eq_emod_of_nonneg (by omega)]
    omega
  simp only [getDOW]
  rw [hint, UInt8.ofInt, UInt8.toNat_ofNat']
  omega

theorem getDOW_add_missing (hyear : rtcBaseYear ≤ year.toNat)
    (h : (dateOf year month day).Valid) :
    ((getDOW year month day).toNat + monthVal (month.toNat - 1)) % 7 =
      (dateOf year month day).dayOfWeek rtcBaseYear rtcBaseDow := by
  have hdays := getDOY_add_missing h
  have hpos := getDOY_pos h
  rw [toNat_getDOW h, dowLoop_eq hyear year.toNat_lt, Date.dayOfWeek,
    Date.daysSince, ← hdays]
  simp only [dateOf]
  omega

theorem getDOW_lt (h : (dateOf year month day).Valid) :
    (getDOW year month day).toNat < 7 := by
  rw [toNat_getDOW h]
  exact Nat.mod_lt _ (by decide)

end Missing

/-! ## When the results are right -/

theorem missing_eq_zero_iff {month : Nat} (hpos : 1 ≤ month)
    (hle : month ≤ 12) : monthVal (month - 1) = 0 ↔ month = 1 := by
  interval_cases month <;> simp [monthVal, rtcMonthVal]

theorem missing_weeks_iff {month : Nat} (hpos : 1 ≤ month)
    (hle : month ≤ 12) :
    monthVal (month - 1) % 7 = 0 ↔ month = 1 ∨ month = 3 := by
  interval_cases month <;> simp [monthVal, rtcMonthVal]

theorem missing_step_iff {month : Nat} (hpos : 1 ≤ month) (hlt : month < 12) :
    monthVal (month - 1) % 7 = monthVal month % 7 ↔ month = 8 := by
  interval_cases month <;> simp [monthVal, rtcMonthVal]

section Results

variable {year : UInt16} {month day : UInt8}

theorem getDOY_right_iff (h : (dateOf year month day).Valid) :
    getDOY year month day = (dateOf year month day).dayOfYear ↔ month = 1 := by
  have hmissing := missing_eq_zero_iff h.month_pos h.month_le
  have hmonth : month = 1 ↔ month.toNat = 1 := UInt8.toNat_inj.symm
  rw [← getDOY_add_missing h, hmonth]
  simp only [dateOf] at hmissing
  omega

theorem getDOW_right_iff (hyear : rtcBaseYear ≤ year.toNat)
    (h : (dateOf year month day).Valid) :
    (getDOW year month day).toNat =
        (dateOf year month day).dayOfWeek rtcBaseYear rtcBaseDow ↔
      month = 1 ∨ month = 3 := by
  have hmissing := missing_weeks_iff h.month_pos h.month_le
  have hlt := getDOW_lt h
  have hjanuary : month = 1 ↔ month.toNat = 1 := UInt8.toNat_inj.symm
  have hmarch : month = 3 ↔ month.toNat = 3 := UInt8.toNat_inj.symm
  rw [← getDOW_add_missing hyear h, hjanuary, hmarch]
  simp only [dateOf] at hmissing
  omega

/-- The result goes up by one where two dates lose the same days of the week. -/
theorem getDOW_step_iff_missing {laterYear : UInt16} {laterMonth laterDay : UInt8}
    (hyear : rtcBaseYear ≤ year.toNat) (h : (dateOf year month day).Valid)
    (hnext : dateOf laterYear laterMonth laterDay =
      (dateOf year month day).next) :
    (getDOW laterYear laterMonth laterDay).toNat =
        ((getDOW year month day).toNat + 1) % 7 ↔
      monthVal (month.toNat - 1) % 7 =
        monthVal ((dateOf year month day).next.month - 1) % 7 := by
  have hlater : (dateOf laterYear laterMonth laterDay).Valid :=
    hnext ▸ h.next
  have hlaterYear : rtcBaseYear ≤ laterYear.toNat :=
    calc
      rtcBaseYear ≤ (dateOf year month day).year := hyear
      _ ≤ (dateOf year month day).next.year := Date.year_le_next _
      _ = laterYear.toNat := congrArg Date.year hnext.symm
  have hnow := getDOW_add_missing hyear h
  have hthen := getDOW_add_missing hlaterYear hlater
  have hdays := @Date.dayOfWeek_next rtcBaseYear rtcBaseDow _ hyear h
  have hmonth : laterMonth.toNat = (dateOf year month day).next.month :=
    congrArg Date.month hnext
  have hlt := getDOW_lt h
  have hlaterLt := getDOW_lt hlater
  rw [hnext, hdays, ← hnow, hmonth] at hthen
  omega

theorem getDOW_step_iff {laterYear : UInt16} {laterMonth laterDay : UInt8}
    (hyear : rtcBaseYear ≤ year.toNat) (h : (dateOf year month day).Valid)
    (hnext : dateOf laterYear laterMonth laterDay =
      (dateOf year month day).next) :
    (getDOW laterYear laterMonth laterDay).toNat =
        ((getDOW year month day).toNat + 1) % 7 ↔
      day.toNat < monthLength year.toNat month.toNat ∨ month = 8 := by
  have haugust : month = 8 ↔ month.toNat = 8 := UInt8.toNat_inj.symm
  have hpos : 1 ≤ month.toNat := h.month_pos
  have hle : month.toNat ≤ 12 := h.month_le
  rw [getDOW_step_iff_missing hyear h hnext, haugust]
  by_cases hinside : day.toNat < monthLength year.toNat month.toNat
  · have hsame : (dateOf year month day).next.month = month.toNat := by
      rw [Date.next, dateOf, if_pos hinside]
    rw [hsame]
    exact iff_of_true rfl (.inl hinside)
  · by_cases hmonth : month.toNat < 12
    · have hfollowing : (dateOf year month day).next.month =
          month.toNat + 1 := by
        rw [Date.next, dateOf, if_neg hinside, if_pos hmonth]
      rw [hfollowing, Nat.add_sub_cancel, missing_step_iff hpos hmonth]
      simp only [hinside, false_or]
    · have hdecember : month.toNat = 12 := by omega
      have hjanuary : (dateOf year month day).next.month = 1 := by
        rw [Date.next, dateOf, if_neg hinside, if_neg hmonth]
      simp only [hjanuary, hinside, false_or]
      rw [hdecember]
      decide

end Results

theorem weekday_right_iff (year : UInt16) (month day : UInt8)
    (hyear : rtcBaseYear ≤ year.toNat) (h : (dateOf year month day).Valid) :
    (getDOY year month day = (dateOf year month day).dayOfYear ∧
        (getDOW year month day).toNat =
          (dateOf year month day).dayOfWeek rtcBaseYear rtcBaseDow ↔
      month = 1) ∧
    ((getDOW year month day).toNat =
        (dateOf year month day).dayOfWeek rtcBaseYear rtcBaseDow ↔
      month = 1 ∨ month = 3) ∧
    ∀ (laterYear : UInt16) (laterMonth laterDay : UInt8),
      dateOf laterYear laterMonth laterDay = (dateOf year month day).next →
      ((getDOW laterYear laterMonth laterDay).toNat =
          ((getDOW year month day).toNat + 1) % 7 ↔
        day.toNat < monthLength year.toNat month.toNat ∨ month = 8) := by
  refine ⟨?_, getDOW_right_iff hyear h,
    fun _ _ _ hnext => getDOW_step_iff hyear h hnext⟩
  rw [getDOY_right_iff h, getDOW_right_iff hyear h]
  exact ⟨And.left, fun hjanuary => ⟨hjanuary, .inl hjanuary⟩⟩

theorem weekday_on_new_year :
    getDOY 2020 1 1 = 1 ∧ (getDOW 2020 1 1).toNat = 3 := by
  have hright := (weekday_right_iff 2020 1 1 (by decide) (by decide)).1.mpr rfl
  exact ⟨hright.1, hright.2.trans (by decide +kernel)⟩

/-- The first of February 2020 is a Saturday; the clock is set to Wednesday. -/
theorem weekday_in_february :
    (dateOf 2020 2 1).Valid ∧
    getDOY 2020 2 1 = 1 ∧ (dateOf 2020 2 1).dayOfYear = 32 ∧
    (getDOW 2020 2 1).toNat = 3 ∧
    (dateOf 2020 2 1).dayOfWeek rtcBaseYear rtcBaseDow = 6 := by
  refine ⟨by decide, by decide, by decide, ?_, ?_⟩
  · decide +kernel
  · decide +kernel

end WncFirmware.Clock
