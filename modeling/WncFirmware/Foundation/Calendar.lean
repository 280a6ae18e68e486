import Mathlib.Algebra.BigOperators.Intervals
import Mathlib.Order.Interval.Finset.Nat

/-!
# The Gregorian calendar

Dates are counted from a first of January.  The count goes up by one with every
date, over the ends of months and years.
-/

namespace WncFirmware.Foundation

def LeapYear (year : Nat) : Prop :=
  4 ∣ year ∧ (¬100 ∣ year ∨ 400 ∣ year)

instance (year : Nat) : Decidable (LeapYear year) :=
  inferInstanceAs (Decidable (_ ∧ _))

def monthLength (year : Nat) : Nat → Nat
  | 2 => if LeapYear year then 29 else 28
  | 4 | 6 | 9 | 11 => 30
  | _ => 31

theorem monthLength_pos (year month : Nat) : 1 ≤ monthLength year month := by
  unfold monthLength
  split
  · split <;> decide
  all_goals decide

theorem monthLength_le (year month : Nat) : monthLength year month ≤ 31 := by
  unfold monthLength
  split
  · split <;> decide
  all_goals decide

def yearLength (year : Nat) : Nat := if LeapYear year then 366 else 365

structure Date where
  year : Nat
  month : Nat
  day : Nat
  deriving DecidableEq, Repr

namespace Date

structure Valid (date : Date) : Prop where
  month_pos : 1 ≤ date.month
  month_le : date.month ≤ 12
  day_pos : 1 ≤ date.day
  day_le : date.day ≤ monthLength date.year date.month

theorem valid_iff (date : Date) :
    date.Valid ↔ 1 ≤ date.month ∧ date.month ≤ 12 ∧ 1 ≤ date.day ∧
      date.day ≤ monthLength date.year date.month :=
  ⟨fun h => ⟨h.month_pos, h.month_le, h.day_pos, h.day_le⟩,
    fun ⟨hpos, hle, hday, hlength⟩ => ⟨hpos, hle, hday, hlength⟩⟩

instance (date : Date) : Decidable date.Valid :=
  decidable_of_iff _ date.valid_iff.symm

def dayOfYear (date : Date) : Nat :=
  ∑ month ∈ Finset.Ico 1 date.month, monthLength date.year month + date.day

def daysSince (base : Nat) (date : Date) : Nat :=
  ∑ year ∈ Finset.Ico base date.year, yearLength year + (date.dayOfYear - 1)

def dayOfWeek (base first : Nat) (date : Date) : Nat :=
  (date.daysSince base + first) % 7

/-! ## The next date -/

def next (date : Date) : Date :=
  if date.day < monthLength date.year date.month then
    { date with day := date.day + 1 }
  else if date.month < 12 then ⟨date.year, date.month + 1, 1⟩
  else ⟨date.year + 1, 1, 1⟩

theorem Valid.next {date : Date} (h : date.Valid) : date.next.Valid := by
  have hpos := h.month_pos
  have hle := h.month_le
  unfold Date.next
  split
  · next hinside => exact ⟨hpos, hle, by simp, hinside⟩
  · split
    · next hmonth => exact ⟨by simp, hmonth, by simp, monthLength_pos _ _⟩
    · exact ⟨by simp, by simp, by simp, monthLength_pos _ _⟩

theorem year_le_next (date : Date) : date.year ≤ date.next.year := by
  unfold next
  split
  · exact Nat.le_refl _
  · split
    · exact Nat.le_refl _
    · exact Nat.le_succ _

theorem sum_monthLength (year : Nat) :
    ∑ month ∈ Finset.Ico 1 13, monthLength year month = yearLength year := by
  rw [Finset.sum_Ico_eq_sum_range]
  simp only [Nat.add_one_sub_one, Finset.sum_range_succ, Finset.sum_range_zero,
    Nat.reduceAdd, monthLength, yearLength]
  split <;> rfl

theorem dayOfYear_pos {date : Date} (h : date.Valid) : 1 ≤ date.dayOfYear :=
  Nat.le_add_left_of_le h.day_pos

theorem daysSince_next {base : Nat} {date : Date} (hbase : base ≤ date.year)
    (h : date.Valid) : date.next.daysSince base = date.daysSince base + 1 := by
  have hpos := dayOfYear_pos h
  have hle := h.day_le
  unfold next
  split
  · simp only [daysSince, dayOfYear] at hpos ⊢
    omega
  · next hlast =>
    have hday : date.day = monthLength date.year date.month := by omega
    split
    · simp only [daysSince, dayOfYear, hday,
        Finset.sum_Ico_succ_top h.month_pos] at hpos ⊢
      omega
    · next hyear =>
      have hmonth : date.month = 12 := by
        have := h.month_le
        omega
      -- the last month completes the year
      have hsum := sum_monthLength date.year
      rw [Finset.sum_Ico_succ_top (show 1 ≤ 12 by decide)] at hsum
      simp only [daysSince, dayOfYear, hday, hmonth, Finset.Ico_self,
        Finset.sum_empty, Finset.sum_Ico_succ_top hbase] at hpos ⊢
      omega

theorem dayOfWeek_next {base first : Nat} {date : Date}
    (hbase : base ≤ date.year) (h : date.Valid) :
    date.next.dayOfWeek base first = (date.dayOfWeek base first + 1) % 7 := by
  rw [dayOfWeek, dayOfWeek, daysSince_next hbase h]
  omega

-- a Thursday, counted from a Tuesday
example : (⟨2017, 5, 11⟩ : Date).dayOfWeek 1901 2 = 4 := by decide +kernel

end Date

end WncFirmware.Foundation
