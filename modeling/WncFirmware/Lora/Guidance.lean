import WncFirmware.Lora.LightScan
import WncFirmware.Parking.Files

/-!
# Guidance lights follow the files

From the three configuration files to the colour of each light: the free
parking lots of a light are the free detectors that the files link to it, and
the light is green if and only if there is one.
-/

namespace WncFirmware.Lora

open WncFirmware.Foundation

/-! ## Counting the free parking lots -/

theorem addEmpty_succ (lightNum : Nat) (relation : SingleRelation)
    (empty : List Nat) :
    addEmpty (lightNum + 1) relation empty =
      if maskBit relation lightNum then
        (addEmpty lightNum relation empty).modify lightNum (· + 1)
      else addEmpty lightNum relation empty := by
  rw [addEmpty, List.range_succ, List.foldl_append, ← addEmpty]
  rfl

theorem length_addEmpty (lightNum : Nat) (relation : SingleRelation)
    (empty : List Nat) :
    (addEmpty lightNum relation empty).length = empty.length := by
  induction lightNum with
  | zero => rfl
  | succ lightNum ih =>
      rw [addEmpty_succ]
      split
      · rw [List.length_modify, ih]
      · exact ih

theorem getD_modify_succ {counts : List Nat} {light : Nat} (place : Nat)
    (h : light < counts.length) :
    (counts.modify place (· + 1)).getD light 0 =
      counts.getD light 0 + (place == light).toNat := by
  rw [List.getD_eq_getElem?_getD, List.getD_eq_getElem?_getD,
    List.getElem?_modify, List.getElem?_eq_getElem h]
  by_cases hplace : place = light <;> simp [hplace]

theorem getD_addEmpty {empty : List Nat} {light : Nat} (lightNum : Nat)
    (relation : SingleRelation) (h : light < empty.length) :
    (addEmpty lightNum relation empty).getD light 0 = empty.getD light 0 +
      (light < lightNum && maskBit relation light).toNat := by
  induction lightNum with
  | zero => simp [addEmpty]
  | succ lightNum ih =>
      have hlength : light < (addEmpty lightNum relation empty).length := by
        rw [length_addEmpty]
        exact h
      rw [addEmpty_succ]
      by_cases hlast : light = lightNum
      · subst hlast
        cases hbit : maskBit relation light with
        | true =>
            rw [if_pos rfl, getD_modify_succ light hlength, ih]
            simp
        | false =>
            rw [if_neg Bool.false_ne_true, ih]
            simp
      · have hbefore : (light < lightNum + 1) ↔ light < lightNum := by omega
        split
        · rw [getD_modify_succ lightNum hlength, ih]
          simp [Ne.symm hlast, hbefore]
        · rw [ih]
          simp [hbefore]

def countDetector (lightNum : Nat) (empty : List Nat)
    (pair : SingleDetectorInfo × SingleRelation) : List Nat :=
  if pair.1.state = 0 then addEmpty lightNum pair.2 empty else empty

theorem getD_countDetectors {empty : List Nat} {light lightNum : Nat}
    (pairs : List (SingleDetectorInfo × SingleRelation))
    (hlight : light < lightNum) (h : light < empty.length) :
    (pairs.foldl (countDetector lightNum) empty).getD light 0 =
      empty.getD light 0 + pairs.countP fun pair =>
        pair.1.state == 0 && maskBit pair.2 light := by
  induction pairs generalizing empty with
  | nil => simp
  | cons pair pairs ih =>
      rw [List.foldl_cons, List.countP_cons, countDetector]
      by_cases hstate : pair.1.state = 0
      · have hlength : light < (addEmpty lightNum pair.2 empty).length := by
          rw [length_addEmpty]
          exact h
        rw [if_pos hstate, ih hlength, getD_addEmpty lightNum pair.2 h]
        cases maskBit pair.2 light <;> simp [hlight, hstate]
        omega
      · rw [if_neg hstate, ih h]
        simp [hstate]

theorem countP_zip (test : SingleDetectorInfo → Bool)
    (bit : SingleRelation → Bool) (linked : Nat → Bool) (start : Nat)
    (detectors : List SingleDetectorInfo) {relations : List SingleRelation}
    (hlength : relations.length = detectors.length)
    (hbits : ∀ place relation, relations[place]? = some relation →
      bit relation = linked (start + place)) :
    (detectors.zip relations).countP (fun pair => test pair.1 && bit pair.2) =
      (detectors.zipIdx start).countP fun pair =>
        test pair.1 && linked pair.2 := by
  induction detectors generalizing relations start with
  | nil => rfl
  | cons detector detectors ih =>
      cases relations with
      | nil => cases hlength
      | cons relation relations =>
          have hfirst : bit relation = linked start := hbits 0 relation rfl
          rw [List.zip_cons_cons, List.zipIdx_cons, List.countP_cons,
            List.countP_cons, hfirst, ih (start + 1) (Nat.succ.inj hlength)]
          intro place relation hplace
          rw [Nat.add_right_comm, Nat.add_assoc]
          exact hbits (place + 1) relation hplace

/-! ## The lists after `init_parking_lists` -/

/--
Lists with the devices and links of `loaded`, whatever the states of the devices
have become.
-/
structure SameConfiguration (lists loaded : ParkingLists) : Prop where
  lightId : lists.relationList.lightId = loaded.relationList.lightId
  relation : lists.relationList.relation = loaded.relationList.relation
  lightNum : lists.lightInfoList.num = loaded.lightInfoList.num
  lightInfoId : ∀ place, (lists.lightInfoList.lightInfo place).id =
    (loaded.lightInfoList.lightInfo place).id
  detectorId : lists.detectorInfoList.detectorInfo.map (·.id) =
    loaded.detectorInfoList.detectorInfo.map (·.id)

/-- The detectors in state 0 that the files link to the light. -/
def freeLots (device : Device) (lists : ParkingLists) (light : Nat) : Nat :=
  lists.detectorInfoList.detectorInfo.zipIdx.countP fun pair =>
    pair.1.state == 0 && device.linked light pair.2

theorem countEmpty_eq_foldl (lists : ParkingLists) :
    countEmpty lists = (lists.detectorInfoList.detectorInfo.zip
      lists.relationList.relation).foldl
        (countDetector lists.relationList.lightId.length)
        (List.replicate maxLightPerWnc 0) := rfl

theorem countEmpty_eq_freeLots {device : Device} {lists : ParkingLists}
    (hsame : SameConfiguration lists (initParkingLists device).parkingLists)
    {light : Nat} (hlight : light < lists.lightInfoList.num) :
    (countEmpty lists).getD light 0 = freeLots device lists light := by
  have hmasks := masksSay_initParkingLists device
  have hnum : light < lists.relationList.lightId.length := by
    rw [hsame.lightId, lightId_initParkingLists,
      ← lightNum_initParkingLists, ← hsame.lightNum]
    exact hlight
  have hmax : light < (List.replicate maxLightPerWnc 0).length := by
    rw [List.length_replicate]
    exact Nat.lt_of_lt_of_le hlight lists.lightInfoList.num_le
  have hlength : lists.relationList.relation.length =
      lists.detectorInfoList.detectorInfo.length := by
    have hids := congrArg List.length hmasks.ids
    have hdetectors := congrArg List.length hsame.detectorId
    rw [detectors_initParkingLists] at hdetectors
    rw [hsame.relation]
    simp only [List.length_map] at hids hdetectors
    omega
  rw [countEmpty_eq_foldl, getD_countDetectors _ hnum hmax,
    List.getD_replicate _ (by simpa using hmax), Nat.zero_add, freeLots]
  apply countP_zip (fun detector => detector.state == 0)
    (fun relation => maskBit relation light) (device.linked light) 0 _ hlength
  intro place relation hplace
  rw [hsame.relation] at hplace
  rw [Nat.zero_add, Device.linked]
  exact hmasks.bits place relation hplace light

/-! ## The colours -/

variable {env : LoraEnv} {empty : List Nat} {index : Nat}

def Colored (empty : List Nat) (lights : LightInfoList) (light : Nat) : Prop :=
  (lights.lightInfo light).correctColor = correctColor empty light

theorem Colored.modifyLight {lights : LightInfoList} {light : Nat}
    (h : Colored empty lights light) (place : Nat)
    {change : SingleLightInfo → SingleLightInfo}
    (hchange : ∀ info, (change info).correctColor = info.correctColor) :
    Colored empty (modifyLight lights place change) light := by
  rw [Colored]
  by_cases hplace : light = place
  · subst hplace
    rw [lightInfo_modifyLight_self, hchange]
    exact h
  · rw [lightInfo_modifyLight_ne _ _ hplace]
    exact h

theorem colored_setCorrectColor {lights : LightInfoList} {light place : Nat}
    (h : light = place ∨ Colored empty lights light) :
    Colored empty (setCorrectColor empty lights place) light := by
  rw [Colored, setCorrectColor]
  by_cases hplace : light = place
  · subst hplace
    rw [lightInfo_modifyLight_self]
  · rw [lightInfo_modifyLight_ne _ _ hplace]
    exact h.resolve_left hplace

theorem colored_passedLights {lights : LightInfoList} {light place : Nat}
    (h : light = place ∨ Colored empty lights light) :
    Colored empty (passedLights empty lights place) light := by
  have hcolored := colored_setCorrectColor h
  unfold passedLights
  dsimp only
  split
  · exact hcolored.modifyLight place fun _ => rfl
  · exact hcolored

theorem scanLoop_colored (fuel : Nat) (isFirst : Bool) (place : Nat)
    (lights : LightInfoList) {light : Nat}
    (h : light ∈ (scanLoop env empty index fuel isFirst place lights).visited ∨
      Colored empty lights light) :
    Colored empty (scanLoop env empty index fuel isFirst place lights).lights
      light := by
  induction fuel generalizing isFirst place lights with
  | zero => exact h.resolve_left List.not_mem_nil
  | succ fuel ih =>
      by_cases hgoes : (place ≠ index ∨ isFirst = true) ∧ 0 < lights.num
      · cases hdriven : driven empty lights place with
        | true =>
            rw [scanLoop_driven hgoes hdriven] at h ⊢
            dsimp only
            refine Colored.modifyLight (colored_setCorrectColor ?_) place ?_
            · exact h.imp_left List.mem_singleton.mp
            · exact fun _ => rfl
        | false =>
            rw [scanLoop_passed hgoes hdriven] at h ⊢
            apply ih
            rcases h with hvisited | hcolored
            · rcases List.mem_cons.mp hvisited with hplace | hlater
              · exact .inr (colored_passedLights (.inl hplace))
              · exact .inl hlater
            · exact .inr (colored_passedLights (.inr hcolored))
      · rw [scanLoop_end hgoes] at h ⊢
        exact h.resolve_left List.not_mem_nil

/-! ## Messages keep the configuration -/

theorem SameConfiguration.refl (lists : ParkingLists) :
    SameConfiguration lists lists := ⟨rfl, rfl, rfl, fun _ => rfl, rfl⟩

theorem SameConfiguration.trans {first second third : ParkingLists}
    (h : SameConfiguration first second) (h' : SameConfiguration second third) :
    SameConfiguration first third where
  lightId := h.lightId.trans h'.lightId
  relation := h.relation.trans h'.relation
  lightNum := h.lightNum.trans h'.lightNum
  lightInfoId := fun place => (h.lightInfoId place).trans (h'.lightInfoId place)
  detectorId := h.detectorId.trans h'.detectorId

theorem sameConfiguration_modifyDetector (state : LoraState) (place : Nat)
    {change : SingleDetectorInfo → SingleDetectorInfo}
    (hchange : ∀ info, (change info).id = info.id) :
    SameConfiguration (state.modifyDetector place change).parkingLists
      state.parkingLists where
  lightId := rfl
  relation := rfl
  lightNum := rfl
  lightInfoId := fun _ => rfl
  detectorId := by
    apply List.ext_getElem?
    intro position
    simp only [LoraState.modifyDetector, ParkingLists.modifyDetector,
      List.getElem?_map, List.getElem?_modify]
    cases state.parkingLists.detectorInfoList.detectorInfo[position]? with
    | none => rfl
    | some info =>
        by_cases hposition : place = position <;> simp [hposition, hchange]

theorem id_heartBeatRecord (pkt : LoraPkt) (info : SingleDetectorInfo) :
    (heartBeatRecord pkt info).id = info.id := by
  simp only [heartBeatRecord, refreshDetectorInfo, countPacket]
  split <;> rfl

theorem sameConfiguration_lightReported (state : LoraState) (pkt : LoraPkt) :
    SameConfiguration (lightReported state pkt).parkingLists
      state.parkingLists := by
  have hids : ∀ place, ((refreshLights (lightReport pkt)
      state.parkingLists.lightInfoList).lightInfo place).id =
        (state.parkingLists.lightInfoList.lightInfo place).id := by
    intro place
    simp only [refreshLights]
    split <;> rfl
  unfold lightReported
  dsimp only
  split <;> exact ⟨rfl, rfl, rfl, hids, rfl⟩

theorem sameConfiguration_check (state : LoraState) :
    SameConfiguration (checkLoraNodeConnect state).1.parkingLists
      state.parkingLists where
  lightId := rfl
  relation := rfl
  lightNum := rfl
  lightInfoId := fun place => by
    simp only [checkLoraNodeConnect, checkLights, checkLight]
    repeat' split
    all_goals rfl
  detectorId := by
    have hid : ∀ place info, (checkDetector place info).1.id = info.id := by
      intro place info
      unfold checkDetector
      repeat' split
      all_goals rfl
    apply List.ext_getElem?
    intro place
    simp [checkLoraNodeConnect, hid, Function.comp_def]

theorem sameConfiguration_acts {state next : LoraState} {msg : LoraMsg}
    (hacts : Acts env state msg next) :
    SameConfiguration next.parkingLists state.parkingLists := by
  cases hacts with
  | none _ _ hsame =>
      rw [hsame.1]
      exact .refl _
  | heartBeat pkt place info hhears hcmd hfind =>
      exact sameConfiguration_modifyDetector state place
        (id_heartBeatRecord pkt)
  | lightReport pkt _ hhears hcmd hnext =>
      subst hnext
      exact sameConfiguration_lightReported state pkt
  | restart pkt place info hhears hcmd hfind =>
      exact sameConfiguration_modifyDetector state place fun _ => rfl
  | enterCfg pkt place info hhears hcmd hfind =>
      exact sameConfiguration_modifyDetector state place fun _ => rfl
  | check => exact sameConfiguration_check state
  | scan result hscan =>
      rw [analyseLightState_eq hscan]
      exact ⟨rfl, rfl, (scan_shape env state _).1,
        fun position => (scanLoop_scanned _ _ _ _ position).id, rfl⟩

theorem sameConfiguration_run {guard : LoraState → LoraInput → Prop}
    {device : Device} {start final : LoraState} {inputs : List LoraInput}
    (hload : start.parkingLists = (initParkingLists device).parkingLists)
    (hrun : Run loraStep guard start inputs final) :
    SameConfiguration final.parkingLists
      (initParkingLists device).parkingLists := by
  have hkeep : ∀ state input next, SameConfiguration state.parkingLists
      (initParkingLists device).parkingLists → guard state input →
      loraStep state input = some next → SameConfiguration next.parkingLists
        (initParkingLists device).parkingLists := by
    intro state input next hstate _ hstep
    exact (sameConfiguration_acts (loraStep_acts hstep)).trans hstate
  apply hrun.invariant hkeep
  rw [hload]
  exact .refl _

/-! ## From the files to the colours -/

/-- The lists after at most `passes` passes of the loop of one call. -/
def LoraState.duringScan (state : LoraState) (env : LoraEnv) (passes : Nat) :
    ParkingLists :=
  { state.parkingLists with
    relationList := { state.parkingLists.relationList with
      empty := countEmpty state.parkingLists }
    lightInfoList := (state.scan env passes).lights }

/--
In every state with the configuration of the files, whatever the states of the
detectors: the lists are those of the files, and after any number of passes
`empty` holds the numbers of free parking lots and every light visited so far is
green if and only if its number is positive.  A call that starts at a place of
the list returns, and leaves the lists of its last pass.
-/
theorem lights_follow_files (device : Device) (state : LoraState)
    (hsame : SameConfiguration state.parkingLists
      (initParkingLists device).parkingLists) :
    (state.lightNum = device.lightIds.length ∧
      ∀ place id, device.lightIds[place]? = some id →
        (state.parkingLists.lightInfoList.lightInfo place).id = id) ∧
    state.parkingLists.detectorInfoList.detectorInfo.map (·.id) =
      device.detectorIds ∧
    (∀ env passes, ∀ light < state.lightNum,
      (state.duringScan env passes).relationList.empty.getD light 0 =
          freeLots device state.parkingLists light ∧
        (light ∈ (state.scan env passes).visited →
          ((state.duringScan env passes).lightInfoList.lightInfo
              light).correctColor =
            if 0 < freeLots device state.parkingLists light then
              lightColorGreen
            else lightColorRed)) ∧
    ∀ env,
      (IndexInRange state → (analyseLightState env state).isSome) ∧
        ∀ result, analyseLightState env state = some result →
          result.1.parkingLists = state.duringScan env (state.lightNum + 2) ∧
            (state.scan env (state.lightNum + 2)).ended = true := by
  refine ⟨⟨?_, ?_⟩, ?_, ?_, ?_⟩
  · rw [LoraState.lightNum, hsame.lightNum, lightNum_initParkingLists]
  · intro place id hid
    rw [hsame.lightInfoId, lightInfo_initParkingLists hid]
  · rw [hsame.detectorId, detectors_initParkingLists, List.map_map]
    exact List.map_id _
  · intro env passes light hlight
    refine ⟨countEmpty_eq_freeLots hsame hlight, fun hvisited => ?_⟩
    have hcolored := scanLoop_colored passes true state.index
      state.parkingLists.lightInfoList (.inl hvisited)
    rw [Colored, correctColor, countEmpty_eq_freeLots hsame hlight] at hcolored
    exact hcolored
  · intro env
    constructor
    · intro hrange
      rw [analyseLightState_isSome_iff_ended]
      exact (scanEnds_of_inRange hrange).ended
    · intro result hresult
      refine ⟨by rw [analyseLightState_eq hresult]; rfl, ?_⟩
      rw [← analyseLightState_isSome_iff_ended, hresult]
      rfl

def guidedDevice : Device :=
  Device.cold (configuredFlash (ascii "7;448\n") (ascii "7;1\n")
    (ascii "1;448\n")) ⟨448, []⟩

def guidedState : LoraState :=
  (LoraState.initial.reload guidedDevice).modifyDetector 0 fun info =>
    { info with state := 0 }

theorem guided_light_is_green :
    ∃ result, analyseLightState .sample guidedState = some result ∧
      result.1.parkingLists.relationList.empty.getD 0 0 = 1 ∧
      (result.1.parkingLists.lightInfoList.lightInfo 0).correctColor =
        lightColorGreen := by
  have hsame : SameConfiguration guidedState.parkingLists
      (initParkingLists guidedDevice).parkingLists :=
    sameConfiguration_modifyDetector _ 0 fun _ => rfl
  have hlight : 0 < guidedState.lightNum := by
    decide +kernel
  have hvisited : 0 ∈ (guidedState.scan .sample (guidedState.lightNum + 2)).visited := by
    decide +kernel
  have hfree : freeLots guidedDevice guidedState.parkingLists 0 = 1 := by
    decide +kernel
  obtain ⟨-, -, hpasses, hcalls⟩ := lights_follow_files guidedDevice guidedState hsame
  obtain ⟨hcount, hcolor⟩ := hpasses .sample (guidedState.lightNum + 2) 0 hlight
  obtain ⟨result, hresult⟩ := Option.isSome_iff_exists.mp
    ((hcalls .sample).1 (.inl hlight))
  refine ⟨result, hresult, ?_, ?_⟩
  · rw [((hcalls .sample).2 result hresult).1, hcount, hfree]
  · rw [((hcalls .sample).2 result hresult).1, hcolor hvisited, hfree]
    rfl

end WncFirmware.Lora
