import WncFirmware.Lora.State

/-!
# Detector records

What a heartbeat does to the record of its detector: the average signal
strength behind the adaptive data rate, and the packet counters.
-/

namespace WncFirmware.Lora

open WncFirmware.Foundation

/-! ## The adaptive data rate -/

def averageCount (info : SingleDetectorInfo) : Nat :=
  min maxAvgNum (info.recvNum + 1).toNat

/-- The new reading goes to the place `c_ptr` of the two rings. -/
def recordSignal (pkt : LoraPkt) (info : SingleDetectorInfo) :
    SingleDetectorInfo :=
  { info with
    cRssi := info.cRssi.set info.cPtr.toNat pkt.rssi
    cSnr := info.cSnr.set info.cPtr.toNat pkt.snr
    cPtr := if maxAvgNum ≤ (info.cPtr + 1).toNat then 0 else info.cPtr + 1
    currentDr := pkt.datarate }

def averageRssi (info : SingleDetectorInfo) (count : Nat) : Int :=
  let sum : Int :=
    (info.cRssi.take count).foldl (fun sum rssi => sum + rssi.toInt) 0
  sum.tdiv count

/-- The sum is kept in eight bits. -/
def averageSnr (info : SingleDetectorInfo) (count : Nat) : Int8 :=
  let sum : Int8 := (info.cSnr.take count).foldl (fun sum snr => sum + snr) 0
  Int8.ofInt (sum.toInt.tdiv count)

def rateUp (pkt : LoraPkt) (rssi : Int) (snr : Int8) : Bool :=
  let above (rssiLimit snrLimit : Int) : Bool :=
    rssiLimit < pkt.rssi.toInt && snrLimit < pkt.snr.toInt &&
      rssiLimit < rssi && snrLimit < snr.toInt
  if pkt.datarate = 8 then above (-90) 5
  else if pkt.datarate = 9 then above (-100) 0
  else if pkt.datarate = 10 then above (-125) (-5)
  else false

/-- The decision, and the record with the new averages. -/
def adrControl (pkt : LoraPkt) (info : SingleDetectorInfo) :
    Bool × SingleDetectorInfo :=
  let count := averageCount info
  let recorded := recordSignal pkt info
  let rssi := averageRssi recorded count
  let snr := averageSnr recorded count
  (rateUp pkt rssi snr,
    { recorded with cAvgRssi := Int16.ofInt rssi, cAvgSnr := snr })

/-! ## The counters -/

def missFrames (last cnt : UInt8) : Nat :=
  if cnt < last ∧ last.toNat + 1 < cnt.toNat + 256 then
    cnt.toNat + 256 - last.toNat - 1
  else if last.toNat + 1 < cnt.toNat then cnt.toNat - last.toNat - 1
  else 0

def countPacket (info : SingleDetectorInfo) (cnt : UInt8) :
    SingleDetectorInfo :=
  if info.recvPackFlag then
    { info with
      missRecvNum :=
        info.missRecvNum + UInt32.ofNat (missFrames info.cnt cnt)
      missSendNum :=
        if cnt = info.cnt then info.missSendNum + 1 else info.missSendNum
      absRecvNum :=
        if cnt = info.cnt then info.absRecvNum else info.absRecvNum + 1
      rounds := if cnt < info.cnt then info.rounds + 1 else info.rounds }
  else
    { info with
      recvPackFlag := true
      firstCnt := cnt.toUInt32 - 1
      absRecvNum := info.absRecvNum + 1 }

/-- Less than 1.8 V is taken for an error of the packet. -/
def newLowestPower (lowest battery : UInt8) : UInt8 :=
  if (battery < lowest ∨ lowest = 0) ∧ ¬battery < 90 then battery else lowest

def sentPackets (info : SingleDetectorInfo) : UInt32 :=
  256 * info.rounds + info.cnt.toUInt32 - info.firstCnt

def refreshDetectorInfo (nodeInfo info : SingleDetectorInfo) :
    SingleDetectorInfo :=
  let counted := countPacket info nodeInfo.cnt
  let changed := nodeInfo.state ≠ info.state
  let next := { counted with
    recvNum := info.recvNum + 1
    isParkStateChanged := changed || info.isParkStateChanged
    changeTime := if changed then info.changeTime + 1 else info.changeTime
    state := nodeInfo.state
    value := nodeInfo.value
    battery := nodeInfo.battery
    lowestPower := newLowestPower info.lowestPower nodeInfo.battery
    rssi := nodeInfo.rssi
    cnt := nodeInfo.cnt
    snr := nodeInfo.snr
    interval := 0
    resend1 := info.resend1 + nodeInfo.resend1
    resend2 := info.resend2 + nodeInfo.resend2
    resend3 := info.resend3 + nodeInfo.resend3 }
  { next with sendNum := next.sendNumBeforeThisTime + sentPackets next }

def refreshLogs (nodeInfo info : SingleDetectorInfo) : List LoraEffect :=
  (if info.recvPackFlag ∧ 0 < missFrames info.cnt nodeInfo.cnt then
    [.addLog (printId info.id ++ ascii " miss frame(s), lasc cnt " ++
      decimal info.cnt.toNat ++ ascii ", now cnt " ++
      decimal nodeInfo.cnt.toNat ++ ascii ", SF" ++
      decimal info.currentDr.toNat ++ ascii ", avg rssi " ++
      decimal info.cAvgRssi.toInt ++ ascii ", avg snr " ++
      decimal info.cAvgSnr.toInt)]
  else []) ++
  (if nodeInfo.state ≠ info.state then
    [.addLog (printId nodeInfo.id ++ ascii " from " ++
      decimal info.state.toNat ++ ascii " to " ++
      decimal nodeInfo.state.toNat ++ ascii ", value " ++
      decimal nodeInfo.value.toNat)]
  else []) ++
  (if (nodeInfo.battery < info.lowestPower ∨ info.lowestPower = 0) ∧
      nodeInfo.battery < 90 then
    [.addLog (printId nodeInfo.id ++ ascii " got battery " ++
      decimal (nodeInfo.battery.toNat * 2) ++ ascii " V")]
  else [])

/-! ## The other notices of a detector -/

def heartBeatInfo (pkt : LoraPkt) : SingleDetectorInfo :=
  let resendTimes := byteAt pkt.payload 9 >>> 6
  { id := pkt.nodeId
    state := byteAt pkt.payload 5 >>> 7
    value := byteAt pkt.payload 5 &&& 0x7f
    battery := byteAt pkt.payload 6
    rssi := (byteAt pkt.payload 7).toInt8
    cnt := byteAt pkt.payload 8
    snr := (byteAt pkt.payload 9 &&& 0x3f).toInt8 - 20
    resend1 := if resendTimes = 1 then 1 else 0
    resend2 := if resendTimes = 2 then 1 else 0
    resend3 := if resendTimes = 3 then 1 else 0 }

def restartDetector (info : SingleDetectorInfo) : SingleDetectorInfo :=
  { info with
    sendNumBeforeThisTime := info.sendNumBeforeThisTime + sentPackets info
    rounds := 0
    recvPackFlag := false
    resetTime := info.resetTime + 1 }

def checkDetector (place : Nat) (info : SingleDetectorInfo) :
    SingleDetectorInfo × List LoraEffect :=
  if info.state = nodeStateOffline then (info, [])
  else if info.interval < 35 then
    ({ info with interval := info.interval + 1 },
      [.setLed true (place / 8) (place % 8)])
  else
    ({ info with
      state := nodeStateOffline
      offlineTime := info.offlineTime + 1 },
      [.setLed false (place / 8) (place % 8), .addEvent .detectorOffline,
        .addLog (printId info.id ++ ascii " offline")])

end WncFirmware.Lora
