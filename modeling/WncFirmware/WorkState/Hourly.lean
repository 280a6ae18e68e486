import WncFirmware.Log.SystemLog
import WncFirmware.Lora.DataProcess

/-!
# The hourly report

`work_state_log.c`: once an hour the system thread writes a report to the work
state log, with a line for every detector that calls for one.  For this purpose
each record remembers its counters from the hour before.
-/

namespace WncFirmware.WorkState

open WncFirmware.Foundation WncFirmware.Lora

/-! ## Which detectors get a line -/

inductive LogReason where
  | notWrite
  | resend
  | send
  | missFrame
  | offline
  | reset
  | change
  | power
  | lora
  deriving DecidableEq, Repr

/-- `tmp_ptr`, the place in the two rings that the report looks at. -/
def tmpPtr (info : SingleDetectorInfo) : UInt8 :=
  if info.cPtr = 0 then UInt8.ofNat maxAvgNum else info.cPtr - 1

/-- Behind the ten places of `c_rssi` stands `c_avg_rssi`. -/
def cRssiAt (info : SingleDetectorInfo) (ptr : UInt8) : Int16 :=
  (info.cRssi ++ [info.cAvgRssi]).getD ptr.toNat 0

/-- Behind the ten places of `c_snr` stands `c_avg_snr`. -/
def cSnrAt (info : SingleDetectorInfo) (ptr : UInt8) : Int8 :=
  (info.cSnr ++ [info.cAvgSnr]).getD ptr.toNat 0

def resends (info : SingleDetectorInfo) : UInt32 :=
  (info.resend1 + info.resend2 * 2 + info.resend3 * 3) -
    (info.lastResend1 + info.lastResend2 * 2 + info.lastResend3 * 3)

def needWriteToLog (info : SingleDetectorInfo) : LogReason :=
  if 10 < resends info then .resend
  else if 12 < info.sendNum - info.lastSend then .send
  else if info.lastMissRecv ≠ info.missRecvNum then .missFrame
  else if info.state = nodeStateOffline ∨
      info.lastOffline ≠ info.offlineTime then .offline
  else if info.lastOffline ≠ info.offlineTime then .reset
  else if 10 < info.changeTime then .change
  else if info.lowestPower < 140 ∧ info.lowestPower ≠ 0 then .power
  else if 9 ≤ info.currentDr ∨ (cRssiAt info (tmpPtr info)).toInt < -100 ∨
      (cSnrAt info (tmpPtr info)).toInt < -5 then .lora
  else .notWrite

/-! ## The text of a line -/

/-- The `%wd` conversion of `rt_snprintf`. -/
def spaced (width : Nat) (number : Int) : Bytes :=
  let digits := decimal number
  List.replicate (width - digits.length) 32 ++ digits

/-- `%wd` takes an unsigned number for a signed one. -/
def spacedWord (width : Nat) (number : UInt32) : Bytes :=
  spaced width number.toInt32.toInt

def detectorRow (info : SingleDetectorInfo) : Bytes :=
  let columns : List Bytes :=
    [spacedWord 10 info.id, spaced 5 info.state.toNat,
      spacedWord 6 info.sendNum, spacedWord 6 info.absRecvNum,
      spacedWord 6 info.recvNum, spacedWord 3 info.resend1,
      spacedWord 3 info.resend2, spacedWord 3 info.resend3,
      spacedWord 3 info.changeTime, spacedWord 3 info.offlineTime,
      spacedWord 3 info.resetTime, spaced 3 (info.lowestPower.toNat * 2),
      spaced 2 info.currentDr.toNat,
      spaced 4 (cRssiAt info (tmpPtr info)).toInt,
      spaced 3 (cSnrAt info (tmpPtr info)).toInt]
  columns.flatMap fun column => column ++ ascii " | "

def LogReason.text : LogReason → Bytes
  | .notWrite => ascii "by mistake\r\n"
  | .resend => ascii "resend\r\n"
  | .send => ascii "send\r\n"
  | .missFrame => ascii "miss frame\r\n"
  | .offline => ascii "offline\r\n"
  | .reset => ascii "reset\r\n"
  | .change => ascii "change\r\n"
  | .power => ascii "power\r\n"
  | .lora => ascii "lora\r\n"

def detectorLine (info : SingleDetectorInfo) : List Bytes :=
  if needWriteToLog info ≠ .notWrite then
    [detectorRow info, (needWriteToLog info).text]
  else []

def closeHour (info : SingleDetectorInfo) : SingleDetectorInfo :=
  { info with
    lastResend1 := info.resend1
    lastResend2 := info.resend2
    lastResend3 := info.resend3
    lastOffline := info.offlineTime
    lastReset := info.resetTime
    lastSend := info.sendNum
    lastMissRecv := info.missRecvNum
    changeTime := 0 }

/-! ## The report -/

/-- `g_work_state` -/
structure StuWorkState where
  timeStart : RtcTime
  events : WorkEvent → UInt32

def workStateLogAddEvent (work : StuWorkState) (event : WorkEvent) : StuWorkState :=
  { work with
    events := fun other =>
      if other = event then work.events other + 1 else work.events other }

structure ReportEnv where
  rtc : RtcTime
  nowTick : UInt32
  softwareVersion : Bytes
  ip : UInt32

def getOnlineDetector (lists : ParkingLists) : Nat :=
  lists.detectorInfoList.detectorInfo.countP (·.state ≠ nodeStateOffline)

def getOnlineLight (lists : ParkingLists) : Nat :=
  (List.range lists.lightInfoList.num).countP fun index =>
    (lists.lightInfoList.lightInfo index).state ≠ nodeStateOffline

def shortTime (rtc : RtcTime) : Bytes :=
  padded 2 rtc.month.toNat ++ ascii "/" ++ padded 2 rtc.day.toNat ++
    ascii " " ++ padded 2 rtc.hour.toNat ++ ascii ":" ++
    padded 2 rtc.minute.toNat

def reportHead (env : ReportEnv) (work : StuWorkState) (lists : ParkingLists) :
    List Bytes :=
  let tick := env.nowTick.toNat
  [ascii "\r\n-----------\r\n" ++ shortTime work.timeStart ++ ascii " -- " ++
      shortTime env.rtc ++ ascii "\r\n",
    ascii "continuous work: " ++ decimal (tick / 3600 / 24) ++
      ascii " days " ++ decimal (tick % (3600 * 24) / 3600) ++
      ascii " hours " ++ decimal (tick % 3600 / 60) ++ ascii " minitues\r\n",
    ascii "software version:" ++ cString env.softwareVersion ++ ascii "\r\n",
    ascii "ip: " ++ decimal (env.ip &&& 0xff).toNat ++ ascii "." ++
      decimal (env.ip >>> 8 &&& 0xff).toNat ++ ascii "." ++
      decimal (env.ip >>> 16 &&& 0xff).toNat ++ ascii "." ++
      decimal (env.ip >>> 24 &&& 0xff).toNat ++ ascii "\r\n",
    ascii "detector num: " ++
      decimal lists.detectorInfoList.detectorInfo.length ++ ascii ", ",
    ascii "online: " ++ decimal (getOnlineDetector lists) ++ ascii "\r\n",
    ascii "light num: " ++ decimal lists.lightInfoList.num ++ ascii ", ",
    ascii "online: " ++ decimal (getOnlineLight lists) ++ ascii "\r\n",
    ascii "errors:\r\n",
    ascii "detector offline times:" ++
      spacedWord 0 (work.events .detectorOffline) ++ ascii "\r\n",
    ascii "detector reset times:" ++
      spacedWord 0 (work.events .detectorRestart) ++ ascii "\r\n",
    ascii "detector state:\r\n",
    ascii "    ID     | state |  send  |  recv  |  resp  | rs1 | rs2 | rs3 | " ++
      ascii "chg | off | rst | pwr | SF | rssi | snr | reason\r\n"]

def reportTexts (env : ReportEnv) (work : StuWorkState) (lists : ParkingLists) :
    List Bytes :=
  reportHead env work lists ++
    lists.detectorInfoList.detectorInfo.flatMap detectorLine

def closeHourLists (lists : ParkingLists) : ParkingLists :=
  { lists with
    detectorInfoList :=
      { detectorInfo := lists.detectorInfoList.detectorInfo.map closeHour
        length_le := by
          simpa using lists.detectorInfoList.length_le } }

def workStateTimePeriod (env : ReportEnv) (work : StuWorkState)
    (lists : ParkingLists) : StuWorkState × ParkingLists × List Bytes :=
  (⟨env.rtc, fun _ => 0⟩, closeHourLists lists, reportTexts env work lists)

/-! ## The threads together -/

structure Station where
  lora : LoraState
  work : StuWorkState

inductive StationInput where
  | message (env : LoraEnv) (msg : LoraMsg)
  | hour (env : ReportEnv)

def addEvents (work : StuWorkState) (effects : List LoraEffect) :
    StuWorkState :=
  effects.foldl (fun work effect =>
    match effect with
    | .addEvent event => workStateLogAddEvent work event
    | _ => work) work

def Station.report (station : Station) (env : ReportEnv) : Station :=
  let period := workStateTimePeriod env station.work station.lora.parkingLists
  ⟨{ station.lora with parkingLists := period.2.1 }, period.1⟩

def stationStep (station : Station) : StationInput → Option Station
  | .message env msg =>
      (dataProcess env station.lora msg).map fun result =>
        ⟨result.1, addEvents station.work result.2⟩
  | .hour env => some (station.report env)

@[simp] theorem detectors_report (station : Station) (env : ReportEnv) :
    (station.report env).lora.detectors =
      station.lora.detectors.map closeHour := rfl

end WncFirmware.WorkState
