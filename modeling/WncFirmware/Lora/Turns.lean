import WncFirmware.Lora.Guidance
import WncFirmware.Lora.SentPackets

/-!
# The lights in turn

A tick of `analyse_light_state` walks the circle of lights from the static
`index` and serves the first light that is online, has the wrong colour and may
still be tried.  A light that waits for its turn comes closer with every tick.
-/

namespace WncFirmware.Lora

open WncFirmware.Foundation

/-! ## One light -/

def LoraState.wantedColor (state : LoraState) (place : Nat) : UInt8 :=
  correctColor (countEmpty state.parkingLists) place

def LoraState.mismatched (state : LoraState) (place : Nat) : Bool :=
  (state.light place).state != nodeStateOffline &&
    state.wantedColor place != (state.light place).currentColor

def LoraState.eligible (state : LoraState) (place : Nat) : Bool :=
  state.mismatched place && 0 < (state.light place).timeLeft

def LoraState.passedLight (state : LoraState) (place : Nat) : SingleLightInfo :=
  { state.light place with
    correctColor := state.wantedColor place
    state := if state.mismatched place then nodeStateOffline
      else (state.light place).state }

def LoraState.servedLight (state : LoraState) (place : Nat) : SingleLightInfo :=
  { state.light place with
    correctColor := state.wantedColor place
    timeLeft := (state.light place).timeLeft - 1 }

/-! ## The walk -/

def LoraState.round (state : LoraState) : List Nat :=
  walk state.lightNum state.lightNum state.index

def LoraState.turn? (state : LoraState) : Option Nat :=
  state.round.find? state.eligible

def LoraState.passed (state : LoraState) : List Nat :=
  state.round.takeWhile fun place => !state.eligible place

structure TickResult (env : LoraEnv) (state : LoraState)
    (result : LoraResult) : Prop where
  queued : sentPkts result.2 = state.turn?.toList.map fun place =>
    controlPkt env (result.1.light place)
  index : result.1.index =
    state.turn?.elim state.index (nextPlace state.lightNum)
  light : ∀ place, result.1.light place =
    if state.turn? = some place then state.servedLight place
    else if place ∈ state.passed then state.passedLight place
    else state.light place
  rest : ∃ lights : LightInfoList, lights.num = state.lightNum ∧
    result.1 = { state with
      parkingLists := { state.parkingLists with
        relationList := { state.parkingLists.relationList with
          empty := countEmpty state.parkingLists }
        lightInfoList := lights }
      index := result.1.index }

/-! ## One pass of the loop -/

/-- The loop on a given list of places; the place that it serves, and the lights. -/
def visit (empty : List Nat) :
    List Nat → LightInfoList → Option Nat × LightInfoList
  | [], lights => (none, lights)
  | place :: places, lights =>
      if driven empty lights place then
        (some place, modifyLight (setCorrectColor empty lights place) place
          fun light => { light with timeLeft := light.timeLeft - 1 })
      else visit empty places (passedLights empty lights place)

theorem num_visit (empty : List Nat) (places : List Nat)
    (lights : LightInfoList) : (visit empty places lights).2.num = lights.num := by
  induction places generalizing lights with
  | nil => rfl
  | cons place places ih =>
      rw [visit]
      split
      · rfl
      · rw [ih, num_passedLights]

/-- From `step` places behind `index`, the loop visits the rest of the circle. -/
theorem scanLoop_visit {env : LoraEnv} {empty : List Nat}
    {index num fuel step : Nat} {lights : LightInfoList}
    (hcount : lights.num = num) (hindex : index < num) (hstep : step ≤ num)
    (hfuel : num - step < fuel) :
    let scan := scanLoop env empty index fuel (step == 0)
      ((index + step) % num) lights
    let visited := visit empty (walk num (num - step) ((index + step) % num))
      lights
    scan.lights = visited.2 ∧
      scan.index = visited.1.elim index (nextPlace num) ∧
      sentPkts scan.effects = visited.1.toList.map fun place =>
        controlPkt env (visited.2.lightInfo place) := by
  have hnum : 0 < num := by omega
  induction fuel generalizing step lights with
  | zero => omega
  | succ fuel ih =>
      rcases Nat.eq_or_lt_of_le hstep with rfl | hlt
      · have hend : ¬(((index + step) % step ≠ index ∨ (step == 0) = true) ∧
            0 < lights.num) := by
          rw [Nat.add_mod_right, Nat.mod_eq_of_lt hindex]
          simp only [ne_eq, not_true_eq_false, beq_iff_eq, false_or]
          omega
        rw [scanLoop_end hend, Nat.sub_self]
        exact ⟨rfl, rfl, rfl⟩
      have hgoes : ((index + step) % num ≠ index ∨ (step == 0) = true) ∧
          0 < lights.num := by
        refine ⟨?_, by omega⟩
        by_cases hfirst : step = 0
        · right
          simp [hfirst]
        · left
          exact add_mod_ne hindex (by omega) hlt
      obtain ⟨left, hleft⟩ : ∃ left, num - step = left + 1 :=
        ⟨num - step - 1, by omega⟩
      rw [hleft, walk, visit]
      cases hdriven : driven empty lights ((index + step) % num) with
      | true =>
          rw [scanLoop_driven hgoes hdriven, if_pos rfl, hcount]
          refine ⟨rfl, rfl, ?_⟩
          simp [sentPkts, controlEffects, controlPkt,
            lightInfo_modifyLight_self]
      | false =>
          have hpassed : (passedLights empty lights
              ((index + step) % num)).num = num := by
            rw [num_passedLights, hcount]
          have hrest : num - (step + 1) = left := by omega
          have hlater := ih hpassed (show step + 1 ≤ num by omega) (by omega)
          rw [hrest] at hlater
          rw [scanLoop_passed hgoes hdriven, hcount, nextPlace_mod hnum,
            if_neg Bool.false_ne_true]
          exact hlater

/-! ## Place by place -/

section Visit

variable {state : LoraState}

theorem driven_eq_eligible {lights : LightInfoList} {place : Nat}
    (h : lights.lightInfo place = state.light place) :
    driven (countEmpty state.parkingLists) lights place =
      state.eligible place := by
  simp [driven, setCorrectColor, lightInfo_modifyLight_self, h, wrongColor,
    LoraState.eligible, LoraState.mismatched, LoraState.wantedColor]

theorem lightInfo_passedLights_self {lights : LightInfoList} {place : Nat}
    (h : lights.lightInfo place = state.light place) :
    (passedLights (countEmpty state.parkingLists) lights place).lightInfo
      place = state.passedLight place := by
  have hcolored : (setCorrectColor (countEmpty state.parkingLists) lights
      place).lightInfo place = { state.light place with
        correctColor := state.wantedColor place } := by
    rw [setCorrectColor, lightInfo_modifyLight_self, h]
    rfl
  unfold passedLights
  dsimp only
  rw [hcolored]
  cases hwrong : state.mismatched place with
  | true =>
      have hwrong' : wrongColor { state.light place with
          correctColor := state.wantedColor place } = true := hwrong
      rw [if_pos hwrong', lightInfo_modifyLight_self, hcolored]
      simp [LoraState.passedLight, hwrong]
  | false =>
      have hwrong' : wrongColor { state.light place with
          correctColor := state.wantedColor place } = false := hwrong
      rw [if_neg (by simp [hwrong']), hcolored]
      simp [LoraState.passedLight, hwrong]

theorem visit_spec {places : List Nat} {lights : LightInfoList}
    (hnodup : places.Nodup)
    (hsame : ∀ place ∈ places, lights.lightInfo place = state.light place) :
    let visited := visit (countEmpty state.parkingLists) places lights
    visited.1 = places.find? state.eligible ∧
      ∀ position, visited.2.lightInfo position =
        if places.find? state.eligible = some position then
          state.servedLight position
        else if position ∈ places.takeWhile fun place =>
            !state.eligible place then state.passedLight position
        else lights.lightInfo position := by
  induction places generalizing lights with
  | nil => simp [visit]
  | cons place places ih =>
      obtain ⟨hfresh, hnodup⟩ := List.nodup_cons.mp hnodup
      have hhere := hsame place List.mem_cons_self
      have heligible := driven_eq_eligible hhere
      cases hcase : state.eligible place with
      | true =>
          rw [hcase] at heligible
          simp only [visit, heligible, if_true, List.find?_cons, hcase,
            Bool.not_true, List.takeWhile_cons, Option.some.injEq, true_and]
          intro position
          by_cases hposition : place = position
          · subst hposition
            rw [lightInfo_modifyLight_self, setCorrectColor,
              lightInfo_modifyLight_self, hhere, if_pos rfl]
            rfl
          · rw [lightInfo_modifyLight_ne _ _ (Ne.symm hposition),
              setCorrectColor, lightInfo_modifyLight_ne _ _ (Ne.symm hposition),
              if_neg hposition]
            simp
      | false =>
          rw [hcase] at heligible
          have hother : ∀ other ∈ places, (passedLights (countEmpty
              state.parkingLists) lights place).lightInfo other =
                state.light other := by
            intro other hmem
            rw [lightInfo_passedLights_ne]
            · exact hsame other (List.mem_cons_of_mem _ hmem)
            · rintro rfl
              exact hfresh hmem
          obtain ⟨hfound, hlights⟩ := ih hnodup hother
          simp only [visit, heligible, Bool.false_eq_true, if_false,
            List.find?_cons, hcase, Bool.not_false, List.takeWhile_cons,
            if_true]
          refine ⟨hfound, ?_⟩
          intro position
          rw [hlights position]
          by_cases hposition : position = place
          · subst hposition
            have hserved : places.find? state.eligible ≠ some position := by
              intro hfind
              exact hfresh (List.mem_of_find?_eq_some hfind)
            have hlater : position ∉ places.takeWhile fun place =>
                !state.eligible place := by
              intro hmem
              exact hfresh (List.takeWhile_subset _ hmem)
            rw [if_neg hserved, if_neg hlater, if_neg hserved,
              if_pos List.mem_cons_self, lightInfo_passedLights_self hhere]
          · rw [lightInfo_passedLights_ne _ hposition]
            simp [hposition]

end Visit

/-! ## A tick -/

theorem scan_visit (env : LoraEnv) {state : LoraState}
    (hindex : state.index < state.lightNum) :
    let scan := state.scan env (state.lightNum + 2)
    let visited := visit (countEmpty state.parkingLists) state.round
      state.parkingLists.lightInfoList
    scan.lights = visited.2 ∧
      scan.index = visited.1.elim state.index (nextPlace state.lightNum) ∧
      sentPkts scan.effects = visited.1.toList.map fun place =>
        controlPkt env (visited.2.lightInfo place) := by
  have hstart : (state.index + 0) % state.lightNum = state.index :=
    Nat.mod_eq_of_lt hindex
  have hvisit := @scanLoop_visit env (countEmpty state.parkingLists)
    state.index state.lightNum (state.lightNum + 2) 0
    state.parkingLists.lightInfoList rfl hindex (Nat.zero_le _) (by omega)
  rwa [hstart] at hvisit

theorem nodup_round {state : LoraState} (hindex : state.index < state.lightNum) :
    state.round.Nodup := by
  have hwalk := walk_nodup (Nat.zero_lt_of_lt hindex) (Nat.le_refl _)
    state.index
  rwa [Nat.mod_eq_of_lt hindex] at hwalk

theorem tickResult_of_eq {env : LoraEnv} {state : LoraState}
    {result : LoraResult} (hindex : state.index < state.lightNum)
    (h : analyseLightState env state = some result) :
    TickResult env state result := by
  obtain ⟨hlights, hnext, hsent⟩ := scan_visit env hindex
  obtain ⟨hturn, hlight⟩ := @visit_spec state state.round
    state.parkingLists.lightInfoList (nodup_round hindex) fun _ _ => rfl
  have hfound : (visit (countEmpty state.parkingLists) state.round
      state.parkingLists.lightInfoList).1 = state.turn? := hturn
  rw [hfound] at hnext hsent
  rw [analyseLightState_eq h]
  refine ⟨?_, hnext, ?_, ?_⟩
  · dsimp only [LoraState.light]
    rw [hsent, hlights]
  · intro place
    dsimp only [LoraState.light]
    rw [hlights]
    exact hlight place
  · refine ⟨_, ?_, rfl⟩
    rw [hlights]
    exact num_visit _ _ _

theorem analyseLightState_tick (env : LoraEnv) {state : LoraState}
    (hindex : state.index < state.lightNum) :
    ∃ result, analyseLightState env state = some result ∧
      TickResult env state result := by
  have hended := (@scanEnds_of_inRange env state (.inl hindex)).ended
  have hsome := (analyseLightState_isSome_iff env state).mpr ⟨_, hended⟩
  obtain ⟨result, hresult⟩ := Option.isSome_iff_exists.mp hsome
  exact ⟨result, hresult, tickResult_of_eq hindex hresult⟩

/-! ## Runs -/

structure TickStep where
  env : LoraEnv
  before : LoraState
  result : LoraResult

def ticks : LoraState → List LoraInput → List TickStep
  | _, [] => []
  | state, (env, msg) :: inputs =>
      match dataProcess env state msg with
      | none => []
      | some result =>
          match msg with
          | .analizeLightState =>
              ⟨env, state, result⟩ :: ticks result.1 inputs
          | _ => ticks result.1 inputs

def TickStep.Serves (step : TickStep) (place : Nat) : Prop :=
  step.before.turn? = some place ∧ sentPkts step.result.2 =
    [controlPkt step.env (step.result.1.light place)]

theorem index_of_not_tick {env : LoraEnv} {state next : LoraState}
    {msg : LoraMsg} (hacts : Acts env state msg next)
    (hmsg : msg ≠ .analizeLightState) : next.index = state.index := by
  cases hacts with
  | none _ _ hsame => exact hsame.2
  | heartBeat pkt place info hhears hcmd hfind => rfl
  | lightReport pkt _ hhears hcmd hnext =>
      subst hnext
      unfold lightReported
      dsimp only
      split <;> rfl
  | restart pkt place info hhears hcmd hfind => rfl
  | enterCfg pkt place info hhears hcmd hfind => rfl
  | check => rfl
  | scan result hscan => exact absurd rfl hmsg

theorem TickResult.serves {env : LoraEnv} {state : LoraState}
    {result : LoraResult} {place : Nat} (h : TickResult env state result)
    (hturn : state.turn? = some place) :
    TickStep.Serves ⟨env, state, result⟩ place := by
  refine ⟨hturn, ?_⟩
  rw [h.queued, hturn]
  rfl

theorem TickResult.lightNum {env : LoraEnv} {state : LoraState}
    {result : LoraResult} (h : TickResult env state result) :
    result.1.lightNum = state.lightNum := by
  obtain ⟨lights, hnum, hresult⟩ := h.rest
  rw [hresult]
  exact hnum

def StaysEligible (place : Nat) (steps : List TickStep) : Prop :=
  ∀ earlier step later, steps = earlier ++ step :: later →
    (∀ other ∈ earlier, ¬other.Serves place) →
      step.before.eligible place = true

theorem StaysEligible.tail {place : Nat} {step : TickStep}
    {steps : List TickStep} (h : StaysEligible place (step :: steps))
    (hnot : ¬step.Serves place) : StaysEligible place steps := by
  intro earlier other later hsplit hnever
  apply h (step :: earlier) other later
  · rw [hsplit, List.cons_append]
  · exact List.forall_mem_cons.mpr ⟨hnot, hnever⟩

theorem ticks_of_not_tick {env : LoraEnv} {state : LoraState}
    {msg : LoraMsg} {result : LoraResult} (hmsg : msg ≠ .analizeLightState)
    (h : dataProcess env state msg = some result) (inputs : List LoraInput) :
    ticks state ((env, msg) :: inputs) = ticks result.1 inputs := by
  rw [ticks, h]
  cases msg <;> first | rfl | exact absurd rfl hmsg

theorem ticks_of_tick {env : LoraEnv} {state : LoraState}
    {result : LoraResult} (h : analyseLightState env state = some result)
    (inputs : List LoraInput) :
    ticks state ((env, .analizeLightState) :: inputs) =
      ⟨env, state, result⟩ :: ticks result.1 inputs := by
  have hresult : dataProcess env state .analizeLightState = some result := h
  rw [ticks, hresult]

theorem TickResult.progress {env : LoraEnv} {state : LoraState}
    {result : LoraResult} {place : Nat} (h : TickResult env state result)
    (hindex : state.index < state.lightNum) (hplace : place < state.lightNum)
    (heligible : state.eligible place = true) :
    TickStep.Serves ⟨env, state, result⟩ place ∨
      (result.1.index < state.lightNum ∧
        distance state.lightNum result.1.index place <
          distance state.lightNum state.index place) := by
  obtain ⟨served, hturn⟩ : ∃ served, state.turn? = some served := by
    rw [← Option.isSome_iff_exists, LoraState.turn?, List.find?_isSome]
    exact ⟨place, mem_walk hindex hplace, heligible⟩
  obtain ⟨hserved, -, hfirst⟩ := find?_walk hindex hturn
  by_cases hsame : served = place
  · left
    rw [← hsame]
    exact h.serves hturn
  · right
    have hnext : result.1.index = nextPlace state.lightNum served := by
      rw [h.index, hturn]
      rfl
    rw [hnext]
    refine ⟨nextPlace_lt (by omega),
      distance_nextPlace hindex hserved hplace ?_⟩
    refine Nat.lt_of_le_of_ne (hfirst place hplace heligible) ?_
    intro hequal
    apply hsame
    rw [← add_distance hindex hserved, hequal, add_distance hindex hplace]

/-- The tick that serves the light is at most as far as the light is away. -/
theorem served_in_time {state : LoraState} {inputs : List LoraInput}
    {place : Nat} (hindex : state.index < state.lightNum)
    (hplace : place < state.lightNum)
    (heligible : StaysEligible place (ticks state inputs))
    (hmany : distance state.lightNum state.index place <
      (ticks state inputs).length) :
    ∃ step ∈ (ticks state inputs).take
      (distance state.lightNum state.index place + 1),
      step.Serves place := by
  induction inputs generalizing state with
  | nil => exact absurd hmany (Nat.not_lt_zero _)
  | cons input inputs ih =>
      obtain ⟨env, msg⟩ := input
      cases hresult : dataProcess env state msg with
      | none =>
          rw [ticks, hresult] at hmany
          exact absurd hmany (Nat.not_lt_zero _)
      | some result =>
          have hnum := (sameConfiguration_acts
            (dataProcess_acts hresult)).lightNum
          change result.1.lightNum = state.lightNum at hnum
          by_cases hmsg : msg = .analizeLightState
          case neg =>
            have hsame := index_of_not_tick (dataProcess_acts hresult) hmsg
            rw [ticks_of_not_tick hmsg hresult] at heligible hmany ⊢
            rw [← hnum, ← hsame] at hindex hmany ⊢
            exact ih hindex (hnum ▸ hplace) heligible hmany
          case pos =>
            subst hmsg
            have htick := tickResult_of_eq hindex hresult
            rw [ticks_of_tick hresult] at heligible hmany ⊢
            have hnow := heligible [] _ _ rfl (List.forall_mem_nil _)
            by_cases hserves : TickStep.Serves ⟨env, state, result⟩ place
            · refine ⟨_, ?_, hserves⟩
              rw [List.take_succ_cons]
              exact List.mem_cons_self
            · obtain ⟨hrange, hcloser⟩ :=
                (htick.progress hindex hplace hnow).resolve_left hserves
              rw [← hnum] at hrange
              have hnear : distance result.1.lightNum result.1.index place <
                  distance state.lightNum state.index place := by
                rw [hnum]
                exact hcloser
              rw [List.length_cons] at hmany
              obtain ⟨step, hstep, hserved⟩ := ih hrange (hnum ▸ hplace)
                (heligible.tail hserves) (by omega)
              refine ⟨step, ?_, hserved⟩
              rw [List.take_succ_cons]
              exact List.mem_cons_of_mem _
                (List.take_subset_take_left _ (by omega) hstep)

theorem lights_served_in_turn (state : LoraState)
    (hindex : state.index < state.lightNum) :
    (∀ env, ∃ result, analyseLightState env state = some result ∧
      TickResult env state result) ∧
    ∀ inputs, ∀ place < state.lightNum,
      StaysEligible place (ticks state inputs) →
      state.lightNum ≤ (ticks state inputs).length →
      ∃ step ∈ (ticks state inputs).take state.lightNum,
        step.Serves place := by
  constructor
  · intro env
    exact analyseLightState_tick env hindex
  · intro inputs place hplace heligible hmany
    have hlt := distance_lt (Nat.zero_lt_of_lt hindex) state.index place
    obtain ⟨step, hstep, hserved⟩ :=
      served_in_time hindex hplace heligible (by omega)
    exact ⟨step, List.take_subset_take_left _ hlt hstep, hserved⟩

def twoTicks : List LoraInput :=
  [(.sample, .analizeLightState), (.sample, .analizeLightState)]

/-- Both lights of a fresh list are to be red, and the second one waits. -/
theorem second_light_served :
    twoLights.index < twoLights.lightNum ∧
      ∃ step ∈ (ticks twoLights twoTicks).take twoLights.lightNum,
        step.Serves 1 := by
  have hindex : twoLights.index < twoLights.lightNum := by
    rw [lightNum_twoLights]
    decide
  refine ⟨hindex, (lights_served_in_turn twoLights hindex).2 twoTicks 1 ?_ ?_ ?_⟩
  · rw [lightNum_twoLights]
    decide
  · intro earlier step later hsplit _
    have hall : ∀ step ∈ ticks twoLights twoTicks,
        step.before.eligible 1 = true := by
      decide +kernel
    apply hall
    rw [hsplit]
    exact List.mem_append_right _ List.mem_cons_self
  · decide +kernel

end WncFirmware.Lora
