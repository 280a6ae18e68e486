import WncFirmware.Device
import WncFirmware.Foundation.Runs
import WncFirmware.Lora.DataProcess

/-!
# The scan of the lights ends

The loop of `analyse_light_state` stops when it is back at the static `index`.
That is certain only while `index` is a place of the present list.
-/

namespace WncFirmware.Lora

open WncFirmware.Foundation

variable {env : LoraEnv} {empty : List Nat} {index : Nat}

/-! ## One pass -/

@[simp] theorem num_modifyLight (lights : LightInfoList) (place : Nat)
    (change : SingleLightInfo → SingleLightInfo) :
    (modifyLight lights place change).num = lights.num := rfl

theorem lightInfo_modifyLight_self (lights : LightInfoList) (place : Nat)
    (change : SingleLightInfo → SingleLightInfo) :
    (modifyLight lights place change).lightInfo place =
      change (lights.lightInfo place) := if_pos rfl

theorem lightInfo_modifyLight_ne {place position : Nat}
    (lights : LightInfoList) (change : SingleLightInfo → SingleLightInfo)
    (h : position ≠ place) :
    (modifyLight lights place change).lightInfo position =
      lights.lightInfo position := if_neg h

def driven (empty : List Nat) (lights : LightInfoList) (place : Nat) : Bool :=
  let light := (setCorrectColor empty lights place).lightInfo place
  wrongColor light && 0 < light.timeLeft

def passedLights (empty : List Nat) (lights : LightInfoList) (place : Nat) :
    LightInfoList :=
  let colored := setCorrectColor empty lights place
  if wrongColor (colored.lightInfo place) then
    modifyLight colored place fun light =>
      { light with state := nodeStateOffline }
  else colored

@[simp] theorem num_passedLights (lights : LightInfoList) (place : Nat) :
    (passedLights empty lights place).num = lights.num := by
  unfold passedLights
  dsimp only
  split <;> rfl

theorem scanLoop_end {fuel place : Nat} {isFirst : Bool}
    {lights : LightInfoList}
    (h : ¬((place ≠ index ∨ isFirst = true) ∧ 0 < lights.num)) :
    scanLoop env empty index (fuel + 1) isFirst place lights =
      ⟨[], lights, index, [], true⟩ := if_neg h

theorem scanLoop_driven {fuel place : Nat} {isFirst : Bool}
    {lights : LightInfoList} (h : (place ≠ index ∨ isFirst = true) ∧ 0 < lights.num)
    (hdriven : driven empty lights place = true) :
    scanLoop env empty index (fuel + 1) isFirst place lights =
      { visited := [place]
        lights := modifyLight (setCorrectColor empty lights place) place
          fun light => { light with timeLeft := light.timeLeft - 1 }
        index := nextPlace lights.num place
        effects := controlEffects env
          ((setCorrectColor empty lights place).lightInfo place)
        ended := true } := by
  rw [scanLoop, if_pos h]
  exact if_pos (by simpa [driven] using hdriven)

theorem scanLoop_passed {fuel place : Nat} {isFirst : Bool}
    {lights : LightInfoList} (h : (place ≠ index ∨ isFirst = true) ∧ 0 < lights.num)
    (hdriven : driven empty lights place = false) :
    scanLoop env empty index (fuel + 1) isFirst place lights =
      { scanLoop env empty index fuel false (nextPlace lights.num place)
          (passedLights empty lights place) with
        visited := place :: (scanLoop env empty index fuel false
          (nextPlace lights.num place)
          (passedLights empty lights place)).visited } := by
  rw [scanLoop, if_pos h]
  exact if_neg (by simpa [driven] using hdriven)

/-! ## What a scan leaves of a light -/

structure Scanned (before after : SingleLightInfo) : Prop where
  id : after.id = before.id
  rssi : after.rssi = before.rssi
  currentColor : after.currentColor = before.currentColor
  interval : after.interval = before.interval
  state : after.state = before.state ∨ after.state = nodeStateOffline

theorem Scanned.refl (light : SingleLightInfo) : Scanned light light :=
  ⟨rfl, rfl, rfl, rfl, .inl rfl⟩

theorem Scanned.trans {first second third : SingleLightInfo}
    (h : Scanned first second) (h' : Scanned second third) :
    Scanned first third where
  id := h'.id.trans h.id
  rssi := h'.rssi.trans h.rssi
  currentColor := h'.currentColor.trans h.currentColor
  interval := h'.interval.trans h.interval
  state := by
    rcases h'.state with hsame | hoffline
    · rw [hsame]
      exact h.state
    · exact .inr hoffline

theorem scanned_modifyLight (lights : LightInfoList) (place position : Nat)
    {change : SingleLightInfo → SingleLightInfo}
    (hchange : ∀ light, Scanned light (change light)) :
    Scanned (lights.lightInfo position)
      ((modifyLight lights place change).lightInfo position) := by
  by_cases hposition : position = place
  · rw [hposition, lightInfo_modifyLight_self]
    exact hchange _
  · rw [lightInfo_modifyLight_ne _ _ hposition]
    exact .refl _

theorem scanned_setCorrectColor (empty : List Nat) (lights : LightInfoList)
    (place position : Nat) :
    Scanned (lights.lightInfo position)
      ((setCorrectColor empty lights place).lightInfo position) :=
  scanned_modifyLight lights place position fun _ =>
    ⟨rfl, rfl, rfl, rfl, .inl rfl⟩

theorem scanned_passedLights (lights : LightInfoList) (place position : Nat) :
    Scanned (lights.lightInfo position)
      ((passedLights empty lights place).lightInfo position) := by
  have hcolored := scanned_setCorrectColor empty lights place position
  unfold passedLights
  dsimp only
  split
  · exact hcolored.trans (scanned_modifyLight _ _ _ fun _ =>
      ⟨rfl, rfl, rfl, rfl, .inr rfl⟩)
  · exact hcolored

theorem scanLoop_scanned (fuel : Nat) (isFirst : Bool) (place : Nat)
    (lights : LightInfoList) (position : Nat) :
    Scanned (lights.lightInfo position)
      ((scanLoop env empty index fuel isFirst place lights).lights.lightInfo
        position) := by
  induction fuel generalizing isFirst place lights with
  | zero => exact .refl _
  | succ fuel ih =>
      by_cases hgoes : (place ≠ index ∨ isFirst = true) ∧ 0 < lights.num
      · cases hdriven : driven empty lights place with
        | true =>
            rw [scanLoop_driven hgoes hdriven]
            dsimp only
            refine (scanned_setCorrectColor empty lights place position).trans ?_
            apply scanned_modifyLight
            exact fun _ => ⟨rfl, rfl, rfl, rfl, .inl rfl⟩
        | false =>
            rw [scanLoop_passed hgoes hdriven]
            exact (scanned_passedLights lights place position).trans (ih _ _ _)
      · rw [scanLoop_end hgoes]
        exact .refl _

/-! ## From a place of the list -/

/-- After `step` passes the loop visits the rest of one way round the circle. -/
theorem scanLoop_walk {num fuel step : Nat} {lights : LightInfoList}
    (hcount : lights.num = num) (hindex : index < num) (hstep : step ≤ num) :
    (scanLoop env empty index fuel (step == 0) ((index + step) % num)
        lights).visited <+: walk num (num - step) ((index + step) % num) ∧
      (num - step < fuel → (scanLoop env empty index fuel (step == 0)
        ((index + step) % num) lights).ended = true) := by
  have hnum : 0 < num := by omega
  induction fuel generalizing step lights with
  | zero => exact ⟨List.nil_prefix, fun hfuel => by omega⟩
  | succ fuel ih =>
      by_cases hback : step = num
      · have hend : ¬(((index + step) % num ≠ index ∨ (step == 0) = true) ∧
            0 < lights.num) := by
          rw [hback, Nat.add_mod_right, Nat.mod_eq_of_lt hindex]
          simp only [ne_eq, not_true_eq_false, beq_iff_eq, false_or]
          omega
        rw [scanLoop_end hend]
        exact ⟨List.nil_prefix, fun _ => rfl⟩
      · have hgoes : ((index + step) % num ≠ index ∨ (step == 0) = true) ∧
            0 < lights.num := by
          refine ⟨?_, by omega⟩
          by_cases hfirst : step = 0
          · right
            simp [hfirst]
          · left
            exact add_mod_ne hindex (by omega) (by omega)
        obtain ⟨left, hleft⟩ : ∃ left, num - step = left + 1 :=
          ⟨num - step - 1, by omega⟩
        rw [hleft, walk]
        cases hdriven : driven empty lights ((index + step) % num) with
        | true =>
            rw [scanLoop_driven hgoes hdriven]
            exact ⟨List.cons_prefix_cons.mpr ⟨rfl, List.nil_prefix⟩,
              fun _ => rfl⟩
        | false =>
            have hpassed : (passedLights empty lights
                ((index + step) % num)).num = num := by
              rw [num_passedLights, hcount]
            obtain ⟨hvisited, hended⟩ := ih hpassed (show step + 1 ≤ num by omega)
            have hrest : num - (step + 1) = left := by omega
            rw [hrest] at hvisited hended
            rw [scanLoop_passed hgoes hdriven, hcount, nextPlace_mod hnum]
            exact ⟨List.cons_prefix_cons.mpr ⟨rfl, hvisited⟩,
              fun hfuel => hended (by omega)⟩

theorem scanLoop_inRange {fuel : Nat} {lights : LightInfoList}
    (hindex : index < lights.num) :
    (scanLoop env empty index fuel true index lights).visited <+:
        walk lights.num lights.num index ∧
      (lights.num < fuel →
        (scanLoop env empty index fuel true index lights).ended = true) := by
  have hstart : (index + 0) % lights.num = index := Nat.mod_eq_of_lt hindex
  have hwalk := @scanLoop_walk env empty index lights.num fuel 0 lights rfl
    hindex (Nat.zero_le _)
  rwa [hstart] at hwalk

def LoraState.lightNum (state : LoraState) : Nat :=
  state.parkingLists.lightInfoList.num

def LoraState.scan (state : LoraState) (env : LoraEnv) (fuel : Nat) :
    LightScan :=
  scanLoop env (countEmpty state.parkingLists) state.index fuel true
    state.index state.parkingLists.lightInfoList

theorem analyseLightState_eq {env : LoraEnv} {state : LoraState}
    {result : LoraResult} (h : analyseLightState env state = some result) :
    result =
      ({ state with
        parkingLists := { state.parkingLists with
          relationList := { state.parkingLists.relationList with
            empty := countEmpty state.parkingLists }
          lightInfoList := (state.scan env (state.lightNum + 2)).lights }
        index := (state.scan env (state.lightNum + 2)).index },
      (state.scan env (state.lightNum + 2)).effects) := by
  unfold analyseLightState at h
  dsimp only at h
  split at h
  · cases h
    rfl
  · cases h

structure ScanEnds (env : LoraEnv) (state : LoraState) : Prop where
  ended : (state.scan env (state.lightNum + 2)).ended = true
  once : ((state.scan env (state.lightNum + 2)).visited.filter
    (· < state.lightNum)).Nodup

def IndexInRange (state : LoraState) : Prop :=
  state.index < state.lightNum ∨ state.lightNum = 0

theorem scanEnds_of_inRange {state : LoraState} (h : IndexInRange state) :
    ScanEnds env state := by
  rcases h with hlt | hzero
  · obtain ⟨hvisited, hended⟩ := scanLoop_inRange hlt
    have hnodup : (walk state.lightNum state.lightNum state.index).Nodup := by
      have hwalk := walk_nodup (Nat.zero_lt_of_lt hlt) (Nat.le_refl _)
        state.index
      rwa [Nat.mod_eq_of_lt hlt] at hwalk
    constructor
    · exact hended (by rw [LoraState.lightNum]; omega)
    · exact (hnodup.sublist hvisited.sublist).filter _
  · have hend : ¬((state.index ≠ state.index ∨ true = true) ∧
        0 < state.parkingLists.lightInfoList.num) := by
      rintro ⟨-, hpos⟩
      exact absurd hzero (Nat.ne_of_gt hpos)
    have hscan : state.scan env (state.lightNum + 2) =
        ⟨[], state.parkingLists.lightInfoList, state.index, [], true⟩ :=
      scanLoop_end hend
    constructor
    · rw [hscan]
    · rw [hscan]
      exact List.nodup_nil

/-! ## From a place behind the list -/

theorem driven_congr {first second : LightInfoList} {place : Nat}
    (h : first.lightInfo place = second.lightInfo place) :
    driven empty first place = driven empty second place := by
  simp only [driven, setCorrectColor, lightInfo_modifyLight_self, h]

theorem lightInfo_passedLights_ne {place position : Nat}
    (lights : LightInfoList) (h : position ≠ place) :
    (passedLights empty lights place).lightInfo position =
      lights.lightInfo position := by
  unfold passedLights
  dsimp only
  split
  · rw [lightInfo_modifyLight_ne _ _ h, setCorrectColor,
      lightInfo_modifyLight_ne _ _ h]
  · rw [setCorrectColor, lightInfo_modifyLight_ne _ _ h]

theorem driven_passedLights_ne {place position : Nat}
    (lights : LightInfoList) (h : position ≠ place) :
    driven empty (passedLights empty lights place) position =
      driven empty lights position :=
  driven_congr (lightInfo_passedLights_ne lights h)

theorem driven_passedLights_self (lights : LightInfoList) (place : Nat) :
    driven empty (passedLights empty lights place) place = false := by
  unfold passedLights
  dsimp only
  split
  · simp [driven, setCorrectColor, lightInfo_modifyLight_self, wrongColor]
  · rename_i hright
    simp only [driven, setCorrectColor, lightInfo_modifyLight_self] at hright ⊢
    simp [hright]

theorem driven_passedLights {place position : Nat} {lights : LightInfoList}
    (h : driven empty lights position = false) :
    driven empty (passedLights empty lights place) position = false := by
  by_cases hsame : position = place
  · rw [hsame]
    exact driven_passedLights_self lights place
  · rw [driven_passedLights_ne lights hsame]
    exact h

theorem scanLoop_goes_on {fuel place : Nat} {isFirst : Bool}
    {lights : LightInfoList} (hbehind : lights.num ≤ index)
    (hnum : 0 < lights.num)
    (hplace : place < lights.num ∨
      isFirst = true ∧ driven empty lights place = false)
    (hlights : ∀ position < lights.num,
      driven empty lights position = false) :
    (scanLoop env empty index fuel isFirst place lights).ended = false := by
  induction fuel generalizing place isFirst lights with
  | zero => rfl
  | succ fuel ih =>
      have hdriven : driven empty lights place = false :=
        hplace.elim (hlights place) And.right
      have hgoes : (place ≠ index ∨ isFirst = true) ∧ 0 < lights.num := by
        refine ⟨hplace.imp (fun hlt => ?_) And.left, hnum⟩
        omega
      rw [scanLoop_passed hgoes hdriven]
      apply ih
      · rw [num_passedLights]
        exact hbehind
      · rw [num_passedLights]
        exact hnum
      · rw [num_passedLights]
        exact .inl (nextPlace_lt hnum)
      · intro position hposition
        rw [num_passedLights] at hposition
        exact driven_passedLights (hlights position hposition)

/-- From a place before a driven light, the loop gets no further than it. -/
theorem scanLoop_reaches {fuel place target : Nat} {isFirst : Bool}
    {lights : LightInfoList} (hbehind : lights.num ≤ index)
    (hplace : place ≤ target) (htarget : target < lights.num)
    (hdriven : driven empty lights target = true)
    (hfuel : target - place < fuel) :
    (scanLoop env empty index fuel isFirst place lights).ended = true := by
  induction fuel generalizing place isFirst lights with
  | zero => omega
  | succ fuel ih =>
      have hgoes : (place ≠ index ∨ isFirst = true) ∧ 0 < lights.num := by
        refine ⟨.inl ?_, ?_⟩ <;> omega
      cases hpass : driven empty lights place with
      | true => rw [scanLoop_driven hgoes hpass]
      | false =>
          have hne : target ≠ place := by
            rintro rfl
            rw [hdriven] at hpass
            cases hpass
          have hnext : nextPlace lights.num place = place + 1 :=
            if_neg (by omega)
          rw [scanLoop_passed hgoes hpass, hnext]
          apply ih
          · rw [num_passedLights]
            exact hbehind
          · omega
          · rw [num_passedLights]
            exact htarget
          · rw [driven_passedLights_ne lights hne]
            exact hdriven
          · omega

/-- `index` is in range, or one of the lights on the way gets a command. -/
def ScanHalts (state : LoraState) : Prop :=
  IndexInRange state ∨ ∃ place, (place = state.index ∨
    place < state.lightNum) ∧ driven (countEmpty state.parkingLists)
      state.parkingLists.lightInfoList place = true

theorem scan_goes_on {state : LoraState} (h : ¬ScanHalts state) (fuel : Nat) :
    (state.scan env fuel).ended = false := by
  simp only [ScanHalts, IndexInRange, not_or, not_exists, not_and,
    Bool.not_eq_true] at h
  obtain ⟨⟨hindex, hnum⟩, hlights⟩ := h
  exact scanLoop_goes_on (Nat.not_lt.mp hindex) (Nat.pos_of_ne_zero hnum)
    (.inr ⟨rfl, hlights _ (.inl rfl)⟩)
    fun place hplace => hlights place (.inr hplace)

theorem scan_halts {state : LoraState} (h : ScanHalts state) :
    (state.scan env (state.lightNum + 2)).ended = true := by
  by_cases hrange : IndexInRange state
  · exact (scanEnds_of_inRange hrange).ended
  · obtain ⟨place, hplace, hdriven⟩ := h.resolve_left hrange
    simp only [IndexInRange, not_or, Nat.not_lt] at hrange
    obtain ⟨hbehind, hnum⟩ := hrange
    have hgoes : (state.index ≠ state.index ∨ true = true) ∧
        0 < state.parkingLists.lightInfoList.num :=
      ⟨.inr rfl, Nat.pos_of_ne_zero hnum⟩
    unfold LoraState.scan
    cases hfirst : driven (countEmpty state.parkingLists)
        state.parkingLists.lightInfoList state.index with
    | true => rw [scanLoop_driven hgoes hfirst]
    | false =>
        have hne : place ≠ state.index := by
          rintro rfl
          rw [hdriven] at hfirst
          cases hfirst
        have hlt := hplace.resolve_left hne
        -- behind the end of the list, the next place is the first one
        have hnext : nextPlace state.parkingLists.lightInfoList.num
            state.index = 0 := if_pos (by rw [LoraState.lightNum] at hbehind; omega)
        rw [scanLoop_passed hgoes hfirst, hnext]
        apply scanLoop_reaches _ (Nat.zero_le place)
        · rw [num_passedLights]
          exact hlt
        · rw [driven_passedLights_ne _ hne]
          exact hdriven
        · omega
        · rw [num_passedLights]
          exact hbehind

theorem analyseLightState_isSome_iff_ended (env : LoraEnv)
    (state : LoraState) :
    (analyseLightState env state).isSome ↔
      (state.scan env (state.lightNum + 2)).ended = true := by
  unfold analyseLightState
  simp only [LoraState.scan, LoraState.lightNum]
  split
  case isTrue hended => simp [hended]
  case isFalse hended => simp [hended]

/-- The number of passes in `analyseLightState` is enough. -/
theorem analyseLightState_isSome_iff (env : LoraEnv) (state : LoraState) :
    (analyseLightState env state).isSome ↔
      ∃ fuel, (state.scan env fuel).ended = true := by
  rw [analyseLightState_isSome_iff_ended]
  constructor
  · exact fun hended => ⟨_, hended⟩
  · rintro ⟨fuel, hended⟩
    apply scan_halts
    by_contra hnot
    rw [scan_goes_on hnot] at hended
    cases hended

/-! ## Whole runs -/

theorem scanLoop_shape (fuel : Nat) (isFirst : Bool) (place : Nat)
    (lights : LightInfoList) :
    (scanLoop env empty index fuel isFirst place lights).lights.num =
        lights.num ∧
      ((scanLoop env empty index fuel isFirst place lights).index = index ∨
        (scanLoop env empty index fuel isFirst place lights).index <
          lights.num) := by
  induction fuel generalizing isFirst place lights with
  | zero => exact ⟨rfl, .inl rfl⟩
  | succ fuel ih =>
      by_cases hgoes : (place ≠ index ∨ isFirst = true) ∧ 0 < lights.num
      · cases hdriven : driven empty lights place with
        | true =>
            rw [scanLoop_driven hgoes hdriven]
            exact ⟨rfl, .inr (nextPlace_lt hgoes.2)⟩
        | false =>
            rw [scanLoop_passed hgoes hdriven]
            have hlater := ih false (nextPlace lights.num place)
              (passedLights empty lights place)
            rwa [num_passedLights] at hlater
      · rw [scanLoop_end hgoes]
        exact ⟨rfl, .inl rfl⟩

theorem scan_shape (env : LoraEnv) (state : LoraState) (fuel : Nat) :
    (state.scan env fuel).lights.num = state.lightNum ∧
      ((state.scan env fuel).index = state.index ∨
        (state.scan env fuel).index < state.lightNum) :=
  scanLoop_shape fuel true state.index state.parkingLists.lightInfoList

theorem indexInRange_scan {state : LoraState} {result : LoraResult}
    (h : IndexInRange state)
    (hscan : analyseLightState env state = some result) :
    IndexInRange result.1 := by
  have hshape := scan_shape env state (state.lightNum + 2)
  have hresult := analyseLightState_eq hscan
  have hindex : result.1.index =
      (state.scan env (state.lightNum + 2)).index := by
    rw [hresult]
  have hnum : result.1.lightNum = state.lightNum := by
    rw [hresult]
    exact hshape.1
  rw [IndexInRange, hindex, hnum]
  rcases hshape.2 with hsame | hlt
  · rw [hsame]
    exact h
  · exact .inl hlt

theorem indexInRange_acts {state next : LoraState} {msg : LoraMsg}
    (h : IndexInRange state) (hacts : Acts env state msg next) :
    IndexInRange next := by
  cases hacts with
  | none _ _ hsame =>
      rw [IndexInRange, LoraState.lightNum, hsame.1, hsame.2]
      exact h
  | heartBeat pkt place info hhears hcmd hfind => exact h
  | lightReport pkt _ hhears hcmd hnext =>
      subst hnext
      unfold lightReported
      dsimp only
      split <;> exact h
  | restart pkt place info hhears hcmd hfind => exact h
  | enterCfg pkt place info hhears hcmd hfind => exact h
  | check => exact h
  | scan result hscan => exact indexInRange_scan h hscan

inductive LightEvent where
  | message (env : LoraEnv) (msg : LoraMsg)
  | reload (device : Device)

def LoraState.reload (state : LoraState) (device : Device) : LoraState :=
  { state with parkingLists := (initParkingLists device).parkingLists }

def lightStep (state : LoraState) : LightEvent → Option LoraState
  | .message env msg => loraStep state (env, msg)
  | .reload device => some (state.reload device)

/-- A reload leaves no light, or keeps the static `index` inside the list. -/
def ReloadInRange (state : LoraState) (event : LightEvent) : Prop :=
  ∀ device, event = .reload device → IndexInRange (state.reload device)

theorem light_scan_ends {final : LoraState} {events : List LightEvent}
    (hrun : Run lightStep ReloadInRange LoraState.initial events final)
    (env : LoraEnv) : ScanEnds env final := by
  apply scanEnds_of_inRange
  apply hrun.invariant _ (show IndexInRange LoraState.initial from .inr rfl)
  intro state event next hstate hguard hstep
  cases event with
  | message env msg =>
      exact indexInRange_acts hstate (loraStep_acts hstep)
  | reload device =>
      simp only [lightStep, Option.some.injEq] at hstep
      subst hstep
      exact hguard device rfl

/-- The lights of the file `text`, and no detectors. -/
def lightsDevice (text : String) : Device :=
  Device.cold (configuredFlash (ascii text) [] []) ⟨448, []⟩

def twoLights : LoraState :=
  LoraState.initial.reload (lightsDevice "7;448\n8;448\n")

theorem lightNum_twoLights : twoLights.lightNum = 2 := by
  decide +kernel

theorem light_scan_ends_two_lights : ScanEnds .sample twoLights := by
  have hrun : Run lightStep ReloadInRange LoraState.initial
      [.reload (lightsDevice "7;448\n8;448\n")] twoLights := by
    refine .cons ?_ rfl (.nil twoLights)
    rintro device ⟨⟩
    left
    exact Nat.lt_of_lt_of_eq Nat.two_pos lightNum_twoLights.symm
  exact light_scan_ends hrun .sample

/-! ## A reload that leaves `index` behind the list -/

/-- One tick: the first light gets a command, and `index` becomes 1. -/
def afterTick : LoraState :=
  ((analyseLightState .sample twoLights).map Prod.fst).getD twoLights

/-- The light 7 reports that it is red, as it should be. -/
def redReport : LoraPkt := nodePkt 7 .lightHeartBeat [lightColorRed]

def oneLightLeft : LoraState :=
  (analyzeLoraPkt .sample (afterTick.reload (lightsDevice "7;448\n"))
    redReport).1

def shrinkingEvents : List LightEvent :=
  [.reload (lightsDevice "7;448\n8;448\n"), .message .sample .analizeLightState,
    .reload (lightsDevice "7;448\n"),
    .message .sample (.loraRecvData redReport)]

theorem run_oneLightLeft :
    Run lightStep (fun _ _ => True) LoraState.initial shrinkingEvents
      oneLightLeft := by
  have htick : (analyseLightState .sample twoLights).isSome = true := by
    decide +kernel
  have hstep : lightStep twoLights (.message .sample .analizeLightState) =
      some afterTick := by
    obtain ⟨result, hresult⟩ := Option.isSome_iff_exists.mp htick
    rw [afterTick, lightStep, loraStep, dataProcess, hresult]
    rfl
  exact .cons trivial rfl (.cons trivial hstep (.cons trivial rfl
    (.cons trivial rfl (.nil _))))

theorem shrunk_list_scan_never_ends :
    Run lightStep (fun _ _ => True) LoraState.initial shrinkingEvents
        oneLightLeft ∧
      ∀ fuel, (oneLightLeft.scan .sample fuel).ended = false := by
  refine ⟨run_oneLightLeft, scan_goes_on ?_⟩
  have hindex : oneLightLeft.index = 1 := by
    decide +kernel
  have hnum : oneLightLeft.lightNum = 1 := by
    decide +kernel
  rintro (hrange | ⟨place, hplace, hdriven⟩)
  · rw [IndexInRange, hindex, hnum] at hrange
    omega
  · rw [hindex, hnum] at hplace
    have hnone : ∀ place, place < 2 → driven (countEmpty
        oneLightLeft.parkingLists) oneLightLeft.parkingLists.lightInfoList
        place = false := by
      decide +kernel
    rw [hnone place (by omega)] at hdriven
    cases hdriven

end WncFirmware.Lora
