import WncFirmware.Foundation.Circle
import WncFirmware.Lora.State

/-!
# Light records

`analyse_light_state` counts the free parking lots of each light and then walks
the lights in a circle, from the static `index` on, until it has sent a command
or is back at `index`.
-/

namespace WncFirmware.Lora

open WncFirmware.Foundation

def lightColorRed : UInt8 := 1
def lightColorGreen : UInt8 := 2

def modifyLight (lights : LightInfoList) (place : Nat)
    (change : SingleLightInfo → SingleLightInfo) : LightInfoList :=
  { lights with
    lightInfo := fun position =>
      if position = place then change (lights.lightInfo place)
      else lights.lightInfo position }

/-! ## Reports and checks -/

def LoraPkt.IsLightReport (pkt : LoraPkt) : Prop :=
  pkt.cmd? = some .lightResponse ∨ pkt.cmd? = some .lightHeartBeat

instance (pkt : LoraPkt) : Decidable pkt.IsLightReport :=
  inferInstanceAs (Decidable (_ ∨ _))

def lightReport (pkt : LoraPkt) : SingleLightInfo where
  id := pkt.nodeId
  currentColor := byteAt pkt.payload 5
  rssi := (byteAt pkt.payload 7).toInt8
  snr := (byteAt pkt.payload 8).toInt8

def refreshLightInfo (report light : SingleLightInfo) : SingleLightInfo :=
  { light with
    state := 0
    rssi := report.rssi
    snr := report.snr
    currentColor := report.currentColor
    interval := 0
    timeLeft := 10 }

/-- Every record with the id of the report is refreshed. -/
def refreshLights (report : SingleLightInfo) (lights : LightInfoList) :
    LightInfoList :=
  { lights with
    lightInfo := fun place =>
      let light := lights.lightInfo place
      if place < lights.num ∧ light.id = report.id then
        refreshLightInfo report light
      else light }

def checkLight (light : SingleLightInfo) : SingleLightInfo :=
  if light.state = nodeStateOffline then light
  else if light.interval < 35 then { light with interval := light.interval + 1 }
  else { light with state := nodeStateOffline }

def checkLights (lights : LightInfoList) : LightInfoList :=
  { lights with
    lightInfo := fun place =>
      if place < lights.num then checkLight (lights.lightInfo place)
      else lights.lightInfo place }

def checkLightsEvents (lights : LightInfoList) : List LoraEffect :=
  ((List.range lights.num).filter fun place =>
    (lights.lightInfo place).state != nodeStateOffline &&
      (checkLight (lights.lightInfo place)).state == nodeStateOffline).map
    fun _ => .addEvent .lightOffline

/-! ## Free parking lots -/

def addEmpty (lightNum : Nat) (relation : SingleRelation)
    (empty : List Nat) : List Nat :=
  (List.range lightNum).foldl (fun empty light =>
    if maskBit relation light then empty.modify light (· + 1) else empty) empty

/-- A detector and the relation at the same place belong together. -/
def countEmpty (lists : ParkingLists) : List Nat :=
  let detectors := lists.detectorInfoList.detectorInfo
  (detectors.zip lists.relationList.relation).foldl
    (fun empty (detector, relation) =>
      if detector.state = 0 then
        addEmpty lists.relationList.lightId.length relation empty
      else empty)
    (List.replicate maxLightPerWnc 0)

/-! ## The circle of lights -/

def correctColor (empty : List Nat) (place : Nat) : UInt8 :=
  if 0 < empty.getD place 0 then lightColorGreen else lightColorRed

def setCorrectColor (empty : List Nat) (lights : LightInfoList)
    (place : Nat) : LightInfoList :=
  modifyLight lights place fun light =>
    { light with correctColor := correctColor empty place }

/-- A light that is online and has another colour than it should. -/
def wrongColor (light : SingleLightInfo) : Bool :=
  light.state != nodeStateOffline && light.correctColor != light.currentColor

def controlPkt (env : LoraEnv) (light : SingleLightInfo) : LoraPkt where
  freqHz := env.txFreq
  rssi := 0
  snr := 0
  datarate := 9
  len := 12
  payload := withCrc (networkOrder32 light.id ++
    [LoraCmd.lightResponse.code, light.correctColor])

def controlEffects (env : LoraEnv) (light : SingleLightInfo) :
    List LoraEffect :=
  [.addLog (ascii "light " ++ printId light.id ++ ascii " color to " ++
    decimal light.correctColor.toNat), .loraSend (controlPkt env light)]

/-- `visited` are the places of the passes, and `ended` says that the loop is over. -/
structure LightScan where
  visited : List Nat
  lights : LightInfoList
  index : Nat
  effects : List LoraEffect
  ended : Bool

def scanLoop (env : LoraEnv) (empty : List Nat) (index : Nat) :
    Nat → Bool → Nat → LightInfoList → LightScan
  | 0, _, _, lights => ⟨[], lights, index, [], false⟩
  | fuel + 1, isFirst, place, lights =>
      if (place ≠ index ∨ isFirst) ∧ 0 < lights.num then
        let colored := setCorrectColor empty lights place
        let light := colored.lightInfo place
        if wrongColor light ∧ 0 < light.timeLeft then
          { visited := [place]
            lights := modifyLight colored place fun light =>
              { light with timeLeft := light.timeLeft - 1 }
            index := nextPlace lights.num place
            effects := controlEffects env light
            ended := true }
        else
          let passed :=
            if wrongColor light then
              modifyLight colored place fun light =>
                { light with state := nodeStateOffline }
            else colored
          let later := scanLoop env empty index fuel false
            (nextPlace lights.num place) passed
          { later with visited := place :: later.visited }
      else ⟨[], lights, index, [], true⟩

/--
One call of `analyse_light_state`.  Two passes more than there are lights are
enough whenever the loop ends at all; the call has no result when it does not.
-/
def analyseLightState (env : LoraEnv) (state : LoraState) :
    Option (LoraState × List LoraEffect) :=
  let lists := state.parkingLists
  let empty := countEmpty lists
  let scan := scanLoop env empty state.index (lists.lightInfoList.num + 2) true
    state.index lists.lightInfoList
  if scan.ended then
    some ({ state with
      parkingLists := { lists with
        relationList := { lists.relationList with empty := empty }
        lightInfoList := scan.lights }
      index := scan.index }, scan.effects)
  else none

end WncFirmware.Lora
