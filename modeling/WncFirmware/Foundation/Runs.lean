import Mathlib.Data.List.Basic

/-!
# Guarded runs

A system is given by a partial step function.  `Run step guard` relates a
state to the states it reaches when every step is taken under the guard.
-/

namespace WncFirmware.Foundation

variable {State Input : Type}

inductive Run (step : State → Input → Option State)
    (guard : State → Input → Prop) : State → List Input → State → Prop
  | nil (state) : Run step guard state [] state
  | cons {state input next inputs final} (hguard : guard state input)
      (hstep : step state input = some next)
      (later : Run step guard next inputs final) :
      Run step guard state (input :: inputs) final

variable {step : State → Input → Option State} {guard : State → Input → Prop}

theorem Run.invariant {invariant : State → Prop}
    (hkeep : ∀ state input next, invariant state → guard state input →
      step state input = some next → invariant next)
    {start final : State} {inputs : List Input}
    (h : Run step guard start inputs final) (hstart : invariant start) :
    invariant final := by
  induction h with
  | nil state => exact hstart
  | cons hguard hstep later ih => exact ih (hkeep _ _ _ hstart hguard hstep)

theorem Run.append {start middle final : State} {first second : List Input}
    (h : Run step guard start first middle)
    (h' : Run step guard middle second final) :
    Run step guard start (first ++ second) final := by
  induction h with
  | nil state => exact h'
  | cons hguard hstep later ih => exact .cons hguard hstep (ih h')

theorem Run.of_foldlM {start final : State} {inputs : List Input}
    (h : inputs.foldlM step start = some final) :
    Run step (fun _ _ => True) start inputs final := by
  induction inputs generalizing start with
  | nil =>
      cases h
      exact .nil _
  | cons input inputs ih =>
      rw [List.foldlM_cons] at h
      obtain ⟨next, hnext, hlater⟩ := Option.bind_eq_some_iff.mp h
      exact .cons trivial hnext (ih hlater)

theorem Run.of_checked [∀ state input, Decidable (guard state input)]
    {start final : State} {inputs : List Input}
    (h : inputs.foldlM (fun state input =>
      if guard state input then step state input else none) start =
        some final) :
    Run step guard start inputs final := by
  induction inputs generalizing start with
  | nil =>
      cases h
      exact .nil _
  | cons input inputs ih =>
      rw [List.foldlM_cons] at h
      obtain ⟨next, hnext, hlater⟩ := Option.bind_eq_some_iff.mp h
      split at hnext
      · next hguard => exact .cons hguard hnext (ih hlater)
      · cases hnext

end WncFirmware.Foundation
