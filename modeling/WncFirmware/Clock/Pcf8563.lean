import WncFirmware.Clock.DayOfWeek
import WncFirmware.Sysctrl.SoftDogs
import WncFirmware.Tcp.Commands

/-!
# The clock chip

The PCF8563 holds the date and the time in registers of binary coded decimals.  A
write fills all sixteen registers; a reading takes seven of them, and leaves out
the day of the week.
-/

namespace WncFirmware.Clock

open WncFirmware.Foundation
open WncFirmware.Sysctrl (RtErr)
open WncFirmware.Tcp

/-! ## The code -/

/-- `RTC_T` -/
structure RtcT extends RtcTime where
  week : UInt8
  deriving DecidableEq, Repr

def dayTooLate (rtc : RtcTime) : Bool :=
  if monthVal rtc.month.toNat < rtc.day.toNat then
    if rtc.month = 2 then
      if isLeapYear rtc.year ∧ 29 < rtc.day then true
      else if 28 < rtc.day then true
      else false
    else true
  else false

def checkDatetime (rtc : RtcTime) : RtErr :=
  if rtc.year < 2009 ∨ 2099 < rtc.year then .error
  else if rtc.month < 1 ∨ 12 < rtc.month then .error
  else if rtc.day < 1 ∨ 31 < rtc.day then .error
  else if dayTooLate rtc then .error
  else if 23 < rtc.hour ∨ 59 < rtc.minute ∨ 59 < rtc.second then .error
  else .eok

def byteToPbcd (value : UInt8) : UInt8 := ((value / 10) <<< 4) + value % 10

def pbcdToByte (bcd : UInt8) : UInt8 :=
  (10 : UInt8) * (bcd >>> 4) + (bcd &&& 0x0f)

/-- The registers of the chip, and whether `pcf8563_init` found its bus. -/
structure Pcf8563 where
  devRtc : Bool
  registers : Nat → UInt8

inductive Transfer where
  | done
  | broken (registers : Nat → UInt8)

def Pcf8563.write (chip : Pcf8563) (pos : Nat) (buf : Bytes) :
    Transfer → Nat × Pcf8563
  | .done =>
      (buf.length, { chip with
        registers := fun register =>
          if pos ≤ register ∧ register < pos + buf.length then
            byteAt buf (register - pos)
          else chip.registers register })
  | .broken registers => (0, { chip with registers })

def Pcf8563.read (chip : Pcf8563) (pos count : Nat) : Transfer → Nat × Bytes
  | .done =>
      (count, (List.range count).map fun offset => chip.registers (pos + offset))
  | .broken _ => (0, [])

/-- The control registers, the date, and the alarm and timer registers. -/
def registerBlock (rtc : RtcT) : Bytes :=
  [0, 0,
    byteToPbcd rtc.second,
    byteToPbcd rtc.minute,
    byteToPbcd rtc.hour,
    byteToPbcd rtc.day,
    byteToPbcd rtc.week,
    byteToPbcd rtc.month,
    byteToPbcd ((rtc.year - 2000) &&& 0xff).toUInt8,
    0x00, 0x00, 0x01, 0x00, 0x00, 0x00, 0x00]

/-- The result, the structure with the day of the week, and the chip. -/
def pcf8563SetDatetime (chip : Pcf8563) (rtc : RtcT) (transfer : Transfer) :
    RtErr × RtcT × Pcf8563 :=
  if chip.devRtc = false then (.error, rtc, chip)
  else if checkDatetime rtc.toRtcTime ≠ .eok then (.error, rtc, chip)
  else
    let dated := { rtc with week := getDOW rtc.year rtc.month rtc.day }
    let written := chip.write 0 (registerBlock dated) transfer
    if written.1 = 0 then (.error, dated, written.2)
    else (.eok, dated, written.2)

/-- The fields that a reading fills; the day of the week stays as it was. -/
def RtcT.fill (rtc : RtcT) (buf : Bytes) : RtcT :=
  { rtc with
    second := pbcdToByte (byteAt buf 0 &&& 0x7f)
    minute := pbcdToByte (byteAt buf 1 &&& 0x7f)
    hour := pbcdToByte (byteAt buf 2 &&& 0x3f)
    day := pbcdToByte (byteAt buf 3 &&& 0x3f)
    month := pbcdToByte (byteAt buf 5 &&& 0x1f)
    year := (pbcdToByte (byteAt buf 6)).toUInt16 + 2000 }

def pcf8563GetDatetime (chip : Pcf8563) (rtc : RtcT) (transfer : Transfer) :
    RtErr × RtcT :=
  if chip.devRtc = false then (.error, rtc)
  else
    let received := chip.read 2 7 transfer
    if received.1 = 0 then (.error, rtc)
    else (.eok, rtc.fill received.2)

/-! ## The commands -/

/-- What `set_datetime` takes from a command; the day of the week is not set. -/
def datetimeOf (data : Bytes) (week : UInt8) : RtcT where
  year := UInt16.ofNat (bigEndian16 (byteAt data 0) (byteAt data 1))
  month := byteAt data 2
  day := byteAt data 3
  hour := byteAt data 4
  minute := byteAt data 5
  second := byteAt data 6
  week := week

def setDatetime (chip : Pcf8563) (data : Bytes) (week : UInt8)
    (transfer : Transfer) : Bool × Pcf8563 :=
  let result := pcf8563SetDatetime chip (datetimeOf data week) transfer
  (result.1 = .eok, result.2.2)

def atClock (env : CommandEnv) (chip : Pcf8563) (rtc : RtcT)
    (transfer : Transfer) : CommandEnv :=
  let reading := pcf8563GetDatetime chip rtc transfer
  { env with
    rtcReadable := reading.1 = .eok
    rtc := reading.2.toRtcTime }

/-! ## The dates that are accepted -/

structure ValidDatetime (rtc : RtcTime) : Prop where
  year_ge : 2009 ≤ rtc.year.toNat
  year_le : rtc.year.toNat ≤ 2099
  date : (dateOf rtc.year rtc.month rtc.day).Valid
  hour_lt : rtc.hour.toNat < 24
  minute_lt : rtc.minute.toNat < 60
  second_lt : rtc.second.toNat < 60

theorem dayTooLate_february {rtc : RtcTime} (hmonth : rtc.month = 2) :
    dayTooLate rtc = true ↔ 28 < rtc.day.toNat := by
  have hlength : monthVal (2 : UInt8).toNat = 28 := rfl
  have hlate : 28 < rtc.day ↔ 28 < rtc.day.toNat := UInt8.lt_iff_toNat_lt
  simp only [dayTooLate, hmonth, hlength, if_true, hlate]
  split_ifs <;> simp_all

theorem dayTooLate_of_ne {rtc : RtcTime} (hmonth : rtc.month ≠ 2) :
    dayTooLate rtc = true ↔ monthVal rtc.month.toNat < rtc.day.toNat := by
  simp [dayTooLate, hmonth]

theorem dayTooLate_iff {rtc : RtcTime} (hpos : 1 ≤ rtc.month.toNat)
    (hle : rtc.month.toNat ≤ 12) :
    dayTooLate rtc = true ↔
      ¬rtc.day.toNat ≤ monthLength rtc.year.toNat rtc.month.toNat ∨
        (rtc.month = 2 ∧ rtc.day = 29) := by
  have hlength := monthLength_eq rtc.year.toNat hpos hle
  have hday : rtc.day = 29 ↔ rtc.day.toNat = 29 := UInt8.toNat_inj.symm
  by_cases hmonth : rtc.month = 2
  · have htwo : rtc.month.toNat = 2 := by
      rw [hmonth]
      rfl
    have hval : monthVal 2 = 28 := rfl
    rw [dayTooLate_february hmonth, hlength, htwo, hval, hday]
    simp only [hmonth, true_and]
    split_ifs <;> omega
  · have htwo : ¬rtc.month.toNat = 2 := fun htwo =>
      hmonth (UInt8.toNat_inj.mp htwo)
    rw [dayTooLate_of_ne hmonth, hlength]
    simp only [htwo, hmonth, false_and, if_false, or_false]
    omega

theorem checkDatetime_eok_iff (rtc : RtcTime) :
    checkDatetime rtc = .eok ↔
      ValidDatetime rtc ∧ ¬(rtc.month = 2 ∧ rtc.day = 29) := by
  have hmax := monthLength_le rtc.year.toNat rtc.month.toNat
  constructor
  · intro h
    simp only [checkDatetime] at h
    split_ifs at h with hyear hmonth hday hlate htime
    simp only [UInt16.lt_iff_toNat_lt, UInt8.lt_iff_toNat_lt, not_or,
      Nat.not_lt] at hyear hmonth hday htime
    rw [dayTooLate_iff hmonth.1 hmonth.2, not_or, not_not] at hlate
    exact ⟨⟨hyear.1, hyear.2, ⟨hmonth.1, hmonth.2, hday.1, hlate.1⟩,
      Nat.lt_succ_of_le htime.1, Nat.lt_succ_of_le htime.2.1,
      Nat.lt_succ_of_le htime.2.2⟩, hlate.2⟩
  · rintro ⟨hvalid, hleap⟩
    have hdate := hvalid.date
    have hday := hdate.day_le
    simp only [dateOf] at hday
    have hyear : ¬(rtc.year < 2009 ∨ 2099 < rtc.year) := by
      rw [UInt16.lt_iff_toNat_lt, UInt16.lt_iff_toNat_lt, not_or]
      exact ⟨Nat.not_lt.mpr hvalid.year_ge, Nat.not_lt.mpr hvalid.year_le⟩
    have hmonth : ¬(rtc.month < 1 ∨ 12 < rtc.month) := by
      rw [UInt8.lt_iff_toNat_lt, UInt8.lt_iff_toNat_lt, not_or]
      exact ⟨Nat.not_lt.mpr hdate.month_pos, Nat.not_lt.mpr hdate.month_le⟩
    have hwithin : ¬(rtc.day < 1 ∨ 31 < rtc.day) := by
      rw [UInt8.lt_iff_toNat_lt, UInt8.lt_iff_toNat_lt, not_or]
      exact ⟨Nat.not_lt.mpr hdate.day_pos, Nat.not_lt.mpr (hday.trans hmax)⟩
    have hlate : ¬dayTooLate rtc = true := by
      rw [dayTooLate_iff hdate.month_pos hdate.month_le, not_or, not_not]
      exact ⟨hday, hleap⟩
    have htime : ¬(23 < rtc.hour ∨ 59 < rtc.minute ∨ 59 < rtc.second) := by
      rw [UInt8.lt_iff_toNat_lt, UInt8.lt_iff_toNat_lt, UInt8.lt_iff_toNat_lt,
        not_or, not_or]
      exact ⟨Nat.not_lt.mpr (Nat.le_of_lt_succ hvalid.hour_lt),
        Nat.not_lt.mpr (Nat.le_of_lt_succ hvalid.minute_lt),
        Nat.not_lt.mpr (Nat.le_of_lt_succ hvalid.second_lt)⟩
    rw [checkDatetime, if_neg hyear, if_neg hmonth, if_neg hwithin,
      if_neg hlate, if_neg htime]

/-! ## Reading back -/

theorem pbcdToByte_byteToPbcd {bound : Nat} {mask value : UInt8}
    (hall : ∀ number < bound, pbcdToByte (byteToPbcd (UInt8.ofNat number) &&&
      mask) = UInt8.ofNat number)
    (h : value.toNat < bound) : pbcdToByte (byteToPbcd value &&& mask) = value := by
  have hvalue := hall value.toNat h
  rwa [UInt8.ofNat_toNat] at hvalue

theorem pbcd_sixty {value : UInt8} (h : value.toNat < 60) :
    pbcdToByte (byteToPbcd value &&& 0x7f) = value :=
  pbcdToByte_byteToPbcd (by decide +kernel) h

theorem pbcd_forty {value : UInt8} (h : value.toNat < 40) :
    pbcdToByte (byteToPbcd value &&& 0x3f) = value :=
  pbcdToByte_byteToPbcd (by decide +kernel) h

theorem pbcd_month {value : UInt8} (h : value.toNat < 20) :
    pbcdToByte (byteToPbcd value &&& 0x1f) = value :=
  pbcdToByte_byteToPbcd (by decide +kernel) h

theorem pbcd_year {year : UInt16} (hge : 2009 ≤ year.toNat)
    (hle : year.toNat ≤ 2099) :
    (pbcdToByte (byteToPbcd ((year - 2000) &&& 0xff).toUInt8)).toUInt16 + 2000 =
      year := by
  have hall : ∀ number < 91,
      (pbcdToByte (byteToPbcd ((UInt16.ofNat (2009 + number) - 2000) &&&
        0xff).toUInt8)).toUInt16 + 2000 = UInt16.ofNat (2009 + number) := by
    decide +kernel
  have hyear := hall (year.toNat - 2009) (by omega)
  rwa [Nat.add_sub_cancel' hge, UInt16.ofNat_toNat] at hyear

theorem read_write_registerBlock (chip : Pcf8563) (rtc : RtcT) :
    ((chip.write 0 (registerBlock rtc) .done).2.read 2 7 .done).2 =
      slice (registerBlock rtc) 2 7 := rfl

theorem fill_registerBlock {rtc : RtcT} (stale : RtcT)
    (h : ValidDatetime rtc.toRtcTime) :
    (stale.fill (slice (registerBlock rtc) 2 7)).toRtcTime =
      rtc.toRtcTime := by
  have hmonth : rtc.month.toNat ≤ 12 := h.date.month_le
  have hday : rtc.day.toNat ≤ 31 :=
    h.date.day_le.trans (monthLength_le _ _)
  have hhour := h.hour_lt
  have hblock : slice (registerBlock rtc) 2 7 =
      [byteToPbcd rtc.second, byteToPbcd rtc.minute, byteToPbcd rtc.hour,
        byteToPbcd rtc.day, byteToPbcd rtc.week, byteToPbcd rtc.month,
        byteToPbcd ((rtc.year - 2000) &&& 0xff).toUInt8] := rfl
  simp only [hblock, RtcT.fill, byteAt, List.getD_cons_zero,
    List.getD_cons_succ, pbcd_sixty h.second_lt, pbcd_sixty h.minute_lt,
    pbcd_year h.year_ge h.year_le]
  rw [pbcd_forty (by omega), pbcd_forty (by omega), pbcd_month (by omega)]

section Set

variable {chip : Pcf8563} {rtc : RtcT}

theorem pcf8563SetDatetime_eok_iff (hdev : chip.devRtc = true) :
    (pcf8563SetDatetime chip rtc .done).1 = .eok ↔
      checkDatetime rtc.toRtcTime = .eok := by
  rw [pcf8563SetDatetime, if_neg (by rw [hdev]; decide)]
  by_cases hcheck : checkDatetime rtc.toRtcTime = .eok
  · rw [if_neg (not_not.mpr hcheck)]
    exact iff_of_true rfl hcheck
  · rw [if_pos hcheck]
    exact iff_of_false nofun hcheck

theorem pcf8563SetDatetime_chip (hdev : chip.devRtc = true)
    (hcheck : checkDatetime rtc.toRtcTime = .eok) :
    (pcf8563SetDatetime chip rtc .done).2.2 =
      (chip.write 0 (registerBlock
        { rtc with week := getDOW rtc.year rtc.month rtc.day }) .done).2 := by
  rw [pcf8563SetDatetime, if_neg (by rw [hdev]; decide),
    if_neg (not_not.mpr hcheck)]
  rfl

theorem pcf8563GetDatetime_after_set (hdev : chip.devRtc = true)
    (hcheck : checkDatetime rtc.toRtcTime = .eok) (stale : RtcT) :
    (pcf8563GetDatetime (pcf8563SetDatetime chip rtc .done).2.2 stale .done).1 =
        .eok ∧
      (pcf8563GetDatetime (pcf8563SetDatetime chip rtc .done).2.2 stale
        .done).2.toRtcTime = rtc.toRtcTime := by
  have hvalid := ((checkDatetime_eok_iff _).mp hcheck).1
  rw [pcf8563SetDatetime_chip hdev hcheck, pcf8563GetDatetime, if_neg]
  · exact ⟨rfl, (congrArg (fun buf => (stale.fill buf).toRtcTime)
      (read_write_registerBlock _ _)).trans (fill_registerBlock stale hvalid)⟩
  · rw [Pcf8563.write, hdev]
    decide

end Set

theorem networkOrder16_bigEndian16 (high low : UInt8) :
    networkOrder16 (UInt16.ofNat (bigEndian16 high low)) = [high, low] := by
  have hhigh := high.toNat_lt
  have hlow := low.toNat_lt
  have hnumber : (UInt16.ofNat (bigEndian16 high low)).toNat =
      high.toNat * 256 + low.toNat :=
    UInt16.toNat_ofNat_of_lt' (show _ < 65536 by rw [bigEndian16]; omega)
  have hfirst : UInt8.ofNat ((high.toNat * 256 + low.toNat) / 256 ^ 1) = high := by
    rw [show (high.toNat * 256 + low.toNat) / 256 ^ 1 = high.toNat by omega,
      UInt8.ofNat_toNat]
  have hsecond : UInt8.ofNat ((high.toNat * 256 + low.toNat) / 256 ^ 0) = low := by
    rw [← UInt8.toNat_inj, UInt8.toNat_ofNat']
    omega
  simp only [networkOrder16, littleEndian16, hnumber, byteOf, hfirst, hsecond]
  rfl

theorem getDatetime_atClock {chip : Pcf8563} {data : Bytes} {week : UInt8}
    {env : CommandEnv} {stale : RtcT}
    (hread : (pcf8563GetDatetime chip stale .done).1 = .eok)
    (hsame : (pcf8563GetDatetime chip stale .done).2.toRtcTime =
      (datetimeOf data week).toRtcTime) :
    getDatetime (atClock env chip stale .done) = slice data 0 7 := by
  have hreadable : (atClock env chip stale .done).rtcReadable = true :=
    decide_eq_true hread
  have hrtc : (atClock env chip stale .done).rtc =
      (datetimeOf data week).toRtcTime := hsame
  rw [getDatetime, if_pos hreadable, hrtc]
  simp only [datetimeOf, networkOrder16_bigEndian16]
  rfl

/-! ## The clock as a whole -/

/--
A value is accepted if and only if it is a date and time of the years 2009 to
2099.  It is then read back, and by a command as the bytes it was set with.
-/
structure ClockRight (chip : Pcf8563) (rtc : RtcT) : Prop where
  accepted_iff : (pcf8563SetDatetime chip rtc .done).1 = .eok ↔
    ValidDatetime rtc.toRtcTime
  read_back : (pcf8563SetDatetime chip rtc .done).1 = .eok → ∀ stale,
    (pcf8563GetDatetime (pcf8563SetDatetime chip rtc .done).2.2 stale .done).1 =
        .eok ∧
      (pcf8563GetDatetime (pcf8563SetDatetime chip rtc .done).2.2 stale
        .done).2.toRtcTime = rtc.toRtcTime
  commands : ∀ data week, datetimeOf data week = rtc →
    (setDatetime chip data week .done).1 = true →
    ∀ env fd device frame stale,
      handleCommand (atClock env (setDatetime chip data week .done).2 stale .done)
          fd device frame .readMachineClock =
        some ⟨device, [reply frame (slice data 0 7)]⟩

theorem clock_right_iff (chip : Pcf8563) (rtc : RtcT)
    (hdev : chip.devRtc = true) :
    ClockRight chip rtc ↔
      ¬(ValidDatetime rtc.toRtcTime ∧ rtc.month = 2 ∧ rtc.day = 29) := by
  have haccepted := (@pcf8563SetDatetime_eok_iff chip rtc hdev).trans
    (checkDatetime_eok_iff rtc.toRtcTime)
  constructor
  · rintro hright ⟨hvalid, hleap⟩
    exact (haccepted.mp (hright.accepted_iff.mpr hvalid)).2 hleap
  · intro hleap
    refine ⟨?_, ?_, ?_⟩
    · rw [haccepted]
      exact ⟨And.left, fun hvalid => ⟨hvalid, fun h => hleap ⟨hvalid, h⟩⟩⟩
    · intro heok stale
      exact pcf8563GetDatetime_after_set hdev
        ((pcf8563SetDatetime_eok_iff hdev).mp heok) stale
    · intro data week hdata hdone env fd device frame stale
      have heok : (pcf8563SetDatetime chip rtc .done).1 = .eok := by
        rw [← hdata]
        exact of_decide_eq_true hdone
      obtain ⟨hread, hsame⟩ :=
        pcf8563GetDatetime_after_set hdev
          ((pcf8563SetDatetime_eok_iff hdev).mp heok) stale
      rw [← hdata] at hread hsame
      have hbytes := @getDatetime_atClock _ data week env stale hread hsame
      exact congrArg (fun bytes =>
        some (CommandResult.mk device [reply frame bytes])) hbytes

/-- A second before the end of 2020, over a clock that was never set. -/
theorem new_year_clock_right :
    ClockRight ⟨true, fun _ => 0⟩ ⟨⟨2020, 12, 31, 23, 59, 59⟩, 0⟩ :=
  (clock_right_iff ⟨true, fun _ => 0⟩ ⟨⟨2020, 12, 31, 23, 59, 59⟩, 0⟩ rfl).mpr
    fun h => absurd h.2.1 (by decide)

/-- The first second of the leap day of 2020 is a valid time, and refused. -/
theorem leap_day_refused :
    ValidDatetime ⟨2020, 2, 29, 0, 0, 0⟩ ∧
    (pcf8563SetDatetime ⟨true, fun _ => 0⟩ ⟨⟨2020, 2, 29, 0, 0, 0⟩, 0⟩ .done).1 =
      .error ∧
    ¬ClockRight ⟨true, fun _ => 0⟩ ⟨⟨2020, 2, 29, 0, 0, 0⟩, 0⟩ := by
  have hvalid : ValidDatetime ⟨2020, 2, 29, 0, 0, 0⟩ :=
    ⟨by decide, by decide, by decide, by decide, by decide, by decide⟩
  have herror : (pcf8563SetDatetime ⟨true, fun _ => 0⟩
      ⟨⟨2020, 2, 29, 0, 0, 0⟩, 0⟩ .done).1 = .error := rfl
  refine ⟨hvalid, herror, fun hright => ?_⟩
  have heok := hright.accepted_iff.mpr hvalid
  exact absurd (heok.symm.trans herror) (by decide)

end WncFirmware.Clock
