import WncFirmware.Files.FileInfo
import WncFirmware.Foundation.Scanf

/-!
# The parking lists

The records of `wnc_data_base.h`, and the functions that fill them from the
configuration files.  A list of the source with its count is a Lean list of that
length; only the light records behind the count are represented too, since
`analyse_light_state` may get there.
-/

namespace WncFirmware

open WncFirmware.Foundation

def maxDetectorPerWnc : Nat := 60
def maxLightPerWnc : Nat := 40
def nodeStateOffline : UInt8 := 251
def maxAvgNum : Nat := 10

structure SingleDetectorInfo where
  id : UInt32
  state : UInt8 := 0
  value : UInt8 := 0
  battery : UInt8 := 0
  lowestPower : UInt8 := 0
  rssi : Int8 := 0
  snr : Int8 := 0
  cnt : UInt8 := 0
  interval : UInt8 := 0
  isParkStateChanged : Bool := false
  recvPackFlag : Bool := false
  resend1 : UInt32 := 0
  resend2 : UInt32 := 0
  resend3 : UInt32 := 0
  firstCnt : UInt32 := 0
  offlineTime : UInt32 := 0
  resetTime : UInt32 := 0
  sendNum : UInt32 := 0
  recvNum : UInt32 := 0
  absRecvNum : UInt32 := 0
  missSendNum : UInt32 := 0
  missRecvNum : UInt32 := 0
  sendNumBeforeThisTime : UInt32 := 0
  rounds : UInt32 := 0
  changeTime : UInt32 := 0
  lastResend1 : UInt32 := 0
  lastResend2 : UInt32 := 0
  lastResend3 : UInt32 := 0
  lastOffline : UInt32 := 0
  lastReset : UInt32 := 0
  lastSend : UInt32 := 0
  lastMissRecv : UInt32 := 0
  isInConfig : Bool := false
  currentDr : UInt8 := 0
  cPtr : UInt8 := 0
  cRssi : List Int16 := List.replicate maxAvgNum 0
  cAvgRssi : Int16 := 0
  cSnr : List Int8 := List.replicate maxAvgNum 0
  cAvgSnr : Int8 := 0
  deriving DecidableEq, Repr

structure SingleLightInfo where
  id : UInt32 := 0
  state : UInt8 := 0
  rssi : Int8 := 0
  snr : Int8 := 0
  correctColor : UInt8 := 0
  currentColor : UInt8 := 0
  interval : UInt8 := 0
  timeLeft : UInt8 := 0
  deriving DecidableEq, Repr

/-- `mask` has one bit for each of the 40 lights. -/
structure SingleRelation where
  detectorId : UInt32
  mask : Bytes := List.replicate 5 0
  deriving DecidableEq, Repr

/-- `empty` counts the free parking lots of each light. -/
structure RelationList where
  lightId : List UInt32
  empty : List Nat
  relation : List SingleRelation
  deriving DecidableEq, Repr

structure DetectorInfoList where
  detectorInfo : List SingleDetectorInfo
  length_le : detectorInfo.length ≤ maxDetectorPerWnc

structure LightInfoList where
  num : Nat
  lightInfo : Nat → SingleLightInfo
  num_le : num ≤ maxLightPerWnc

structure ParkingLists where
  relationList : RelationList
  lightInfoList : LightInfoList
  detectorInfoList : DetectorInfoList

def ParkingLists.empty : ParkingLists where
  relationList := ⟨[], [], []⟩
  lightInfoList := ⟨0, fun _ => {}, Nat.zero_le _⟩
  detectorInfoList := ⟨[], Nat.zero_le _⟩

/-! ## Reading a file line by line -/

def takeLine : Bytes → Bytes
  | [] => []
  | byte :: bytes => if byte = 10 then [byte] else byte :: takeLine bytes

def flashFileReadLine (flash : Memory) (addr offset size : Nat) : Bytes :=
  takeLine (readBytes flash (addr + offset) (min (size - 1) 256))

/-- The common loop of the three readers; a pass reads at least one byte. -/
def readLines {Items : Type} (flash : Memory) (addr : Nat)
    (full : Items → Bool) (add : Items → Bytes → Items) :
    Nat → Nat → Nat → Items → Items
  | 0, _, _, items => items
  | fuel + 1, byteLeft, offset, items =>
      if byteLeft = 0 ∨ full items = true then items
      else
        let wantLen := if byteLeft < 64 then byteLeft + 1 else 64
        let line := flashFileReadLine flash addr offset wantLen
        readLines flash addr full add fuel (byteLeft - line.length)
          (offset + line.length) (add items line)

def fileMissing (info : SingleFileInfo) : Bool :=
  info.sn == 0 || info.sn == 0xffffffff

/-- `sscanf(tmp_buf, "%d;%d", ...) == 2` -/
def scanPair (line : Bytes) : Option (UInt32 × UInt32) :=
  match sscanf (cString line) [.int, .literal 59, .int] with
  | [first, second] => some (first.toUInt32, second.toUInt32)
  | _ => none

def readListFile {Items : Type} (flash : Memory) (addr : Nat)
    (info : SingleFileInfo) (full : Items → Bool)
    (add : Items → Bytes → Items) (start : Items) : Items :=
  if fileMissing info then start
  else readLines flash addr full add info.size.toNat info.size.toNat 0 start

def addDeviceId (wncId : UInt32) (ids : List UInt32) (line : Bytes) :
    List UInt32 :=
  match scanPair line with
  | some (id, wnc) => if wnc = wncId then ids ++ [id] else ids
  | none => ids

def readDeviceIds (flash : Memory) (addr : Nat) (info : SingleFileInfo)
    (limit : Nat) (wncId : UInt32) : List UInt32 :=
  readListFile flash addr info (fun ids => limit ≤ ids.length)
    (addDeviceId wncId) []

theorem length_addDeviceId_le (wncId : UInt32) (ids : List UInt32)
    (line : Bytes) : (addDeviceId wncId ids line).length ≤ ids.length + 1 := by
  unfold addDeviceId
  split
  · split
    · simp
    · exact Nat.le_succ _
  · exact Nat.le_succ _

theorem length_readLines_le {flash : Memory} {addr limit : Nat}
    {wncId : UInt32} {fuel byteLeft offset : Nat} {ids : List UInt32}
    (h : ids.length ≤ limit) :
    (readLines flash addr (fun ids => limit ≤ ids.length) (addDeviceId wncId)
      fuel byteLeft offset ids).length ≤ limit := by
  induction fuel generalizing byteLeft offset ids with
  | zero => exact h
  | succ fuel ih =>
      rw [readLines]
      split
      · exact h
      · rename_i hcontinue
        simp only [decide_eq_true_eq, not_or, Nat.not_le] at hcontinue
        exact ih ((length_addDeviceId_le wncId ids _).trans hcontinue.2)

theorem length_readDeviceIds_le (flash : Memory) (addr : Nat)
    (info : SingleFileInfo) (limit : Nat) (wncId : UInt32) :
    (readDeviceIds flash addr info limit wncId).length ≤ limit := by
  unfold readDeviceIds readListFile
  split
  · exact Nat.zero_le _
  · exact length_readLines_le (Nat.zero_le _)

/-! ## The three files -/

def readLightConnectFile (flash : Memory) (info : FileInfoList)
    (wncId : UInt32) : ParkingLists :=
  let ids := readDeviceIds flash lightConnectFileAddr info.lightConnect
    maxLightPerWnc wncId
  { relationList := ⟨ids, [], []⟩
    lightInfoList :=
      { num := ids.length
        lightInfo := fun index =>
          match ids[index]? with
          | some id => { id := id, timeLeft := 10 }
          | none => {}
        num_le := length_readDeviceIds_le _ _ _ _ _ }
    detectorInfoList := ⟨[], Nat.zero_le _⟩ }

def readSensorListFile (flash : Memory) (info : FileInfoList) (wncId : UInt32)
    (lists : ParkingLists) : ParkingLists :=
  let ids := readDeviceIds flash sensorListFileAddr info.sensorList
    maxDetectorPerWnc wncId
  { lists with
    relationList :=
      { lists.relationList with
        relation := ids.map fun id => { detectorId := id } }
    detectorInfoList :=
      { detectorInfo := ids.map fun id => { id := id, state := nodeStateOffline }
        length_le := by
          rw [List.length_map]
          exact length_readDeviceIds_le _ _ _ _ _ } }

def setRegionMaskByIndex (detectorIndex regionIndex : Nat)
    (relations : List SingleRelation) : List SingleRelation :=
  relations.modify detectorIndex fun relation =>
    { relation with
      mask := relation.mask.modify (regionIndex / 8) fun byte =>
        byte ||| (1 <<< UInt8.ofNat (regionIndex % 8)) }

def maskBit (relation : SingleRelation) (light : Nat) : Bool :=
  byteAt relation.mask (light / 8) &&& (1 <<< UInt8.ofNat (light % 8)) != 0

def addRelation (lightId : List UInt32) (relations : List SingleRelation)
    (line : Bytes) : List SingleRelation :=
  match scanPair line with
  | none => relations
  | some (light, detector) =>
      match lightId.findIdx? (· == light),
        relations.findIdx? (·.detectorId == detector) with
      | some lightIndex, some detectorIndex =>
          setRegionMaskByIndex detectorIndex lightIndex relations
      | _, _ => relations

def readLightParkingFile (flash : Memory) (info : FileInfoList)
    (lists : ParkingLists) : ParkingLists :=
  { lists with
    relationList :=
      { lists.relationList with
        relation := readListFile flash lightParkingFileAddr info.lightParking
          (fun _ => false) (addRelation lists.relationList.lightId)
          lists.relationList.relation } }

end WncFirmware
