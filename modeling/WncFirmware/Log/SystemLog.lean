import WncFirmware.Log.Ring

/-!
# The system log

`system_log.c`: a log line is a date, the text and the end of line.  The texts
of the firmware fit the 256 bytes of `str_log`, so that `rt_snprintf` cuts
nothing off.
-/

namespace WncFirmware

open WncFirmware.Foundation

structure RtcTime where
  year : UInt16
  month : UInt8
  day : UInt8
  hour : UInt8
  minute : UInt8
  second : UInt8
  deriving DecidableEq, Repr

/-- The `%d` conversion of `rt_snprintf`. -/
def decimal (number : Int) : Bytes := ascii (toString number)

/-- The `%0wd` conversion, for a number that is not negative. -/
def padded (width number : Nat) : Bytes :=
  let digits := decimal number
  List.replicate (width - digits.length) 48 ++ digits

def RtcTime.format (rtc : RtcTime) : Bytes :=
  padded 4 rtc.year.toNat ++ ascii "-" ++ padded 2 rtc.month.toNat ++
    ascii "-" ++ padded 2 rtc.day.toNat ++ ascii " " ++
    padded 2 rtc.hour.toNat ++ ascii ":" ++ padded 2 rtc.minute.toNat ++
    ascii ":" ++ padded 2 rtc.second.toNat

def logLine (rtc : RtcTime) (text : Bytes) : Bytes :=
  rtc.format ++ ascii "  " ++ text ++ [13, 10]

def addLog (info : LogInfo .systemLog) (rtc : RtcTime) (text : Bytes) :
    LogInfo .systemLog × List FlashOp :=
  logWrite info (logLine rtc text)

def prepareReadLog {type : LogType} (flash : Memory) (info : LogInfo type) :
    LogInfo type × Nat :=
  let prepared := prepareRead flash info
  (prepared, calculateFileSize prepared)

end WncFirmware
