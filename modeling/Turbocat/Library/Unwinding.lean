import Mathlib.Data.List.Basic

/-! Noninterference by unwinding, for a machine whose inputs come from several domains.
The observer's domain is `mine`; `Same` relates states it cannot tell apart.
-/

namespace Turbocat.Library

variable {σ τ ι ο ρ : Type*}

/-- The state after a list of inputs. -/
def finalState (step : σ → ι → σ × ο) : σ → List ι → σ
  | state, [] => state
  | state, input :: inputs => finalState step (step state input).1 inputs

/-- What an observer reads of the outputs given to the inputs of its own domain. -/
def observations (step : σ → ι → σ × ο) (mine : ι → Bool) (view : ο → ρ)
    : σ → List ι → List ρ
  | _, [] => []
  | state, input :: inputs =>
      let result := step state input
      if mine input then view result.2 :: observations step mine view result.1 inputs
      else observations step mine view result.1 inputs

/-- Every input of the run is admissible in the state it arrives in. -/
def Admissible (step : σ → ι → σ × ο) (allowed : σ → ι → Prop) : σ → List ι → Prop
  | _, [] => True
  | state, input :: inputs =>
      allowed state input ∧ Admissible step allowed (step state input).1 inputs

/-- The unwinding conditions: own inputs are answered alike in related states and keep
them related, and an input of another domain leaves its state related to what it was
related to before.
-/
structure Unwinds (step : σ → ι → σ × ο) (mine : ι → Bool) (view : ο → ρ)
    (allowed : σ → ι → Prop) (Same : σ → σ → Prop)
    : Prop where
  own
    : ∀ {state other input},
        Same state other
        → mine input = true
        → allowed state input
        → view (step state input).2 = view (step other input).2
          ∧ Same (step state input).1 (step other input).1
  foreign
    : ∀ {state other input},
        Same state other
        → mine input = false
        → allowed state input
        → Same (step state input).1 other

/-- Purging every foreign input changes no observation. Witness: induction over the
inputs; a foreign input steps the unpurged machine alone.
-/
theorem Unwinds.observations_purge {step : σ → ι → σ × ο} {mine : ι → Bool} {view : ο → ρ}
    {allowed : σ → ι → Prop} {Same : σ → σ → Prop}
    (unwinds : Unwinds step mine view allowed Same)
    {state other : σ} {inputs : List ι} (same : Same state other)
    (admissible : Admissible step allowed state inputs)
    : observations step mine view state inputs
      = observations step mine view other (inputs.filter mine) := by
  induction inputs generalizing state other with
  | nil => rfl
  | cons input rest ih =>
      obtain ⟨allowed, later⟩ := admissible
      cases own : mine input with
      | true =>
          obtain ⟨answer, next⟩ := unwinds.own same own allowed
          simp only [observations, own, List.filter_cons_of_pos, if_true, answer]
          exact congrArg _ (ih next later)
      | false =>
          have next := unwinds.foreign same own allowed
          simp only [observations, own, Bool.false_eq_true, if_false, not_false_eq_true,
            List.filter_cons_of_neg]
          exact ih next later

/-- In an admissible run each input is admissible where it arrives, by induction over the
inputs before it.
-/
theorem Admissible.at_input {step : σ → ι → σ × ο} {allowed : σ → ι → Prop} {state : σ}
    {earlier later : List ι} {input : ι}
    (admissible : Admissible step allowed state (earlier ++ input :: later))
    : allowed (finalState step state earlier) input := by
  induction earlier generalizing state with
  | nil => exact admissible.1
  | cons first rest ih => exact ih admissible.2

/-- A property that every admissible input keeps holds where an admissible run has come to,
by induction over its inputs.
-/
theorem Admissible.invariant {step : σ → ι → σ × ο} {allowed : σ → ι → Prop} {P : σ → Prop}
    (keeps : ∀ {state input}, P state → allowed state input → P (step state input).1)
    {state : σ} {earlier later : List ι} (holds : P state)
    (admissible : Admissible step allowed state (earlier ++ later))
    : P (finalState step state earlier) := by
  induction earlier generalizing state with
  | nil => exact holds
  | cons input rest ih => exact ih (keeps holds admissible.1) admissible.2

/-- A machine whose every step another one mirrors on its own states is mirrored over whole
runs: the other ends where this one does and shows an observer the same, by induction over
the inputs.
-/
theorem mirrored_run {step : σ → ι → σ × ο} {next : τ → ι → τ × ο} {abstract : σ → τ}
    {allowed : ι → Prop} {mine : ι → Bool} {view : ο → ρ}
    (mirrors
      : ∀ {state input},
          allowed input
          → next (abstract state) input
            = (abstract (step state input).1, (step state input).2))
    {state : σ} {inputs : List ι} (each : ∀ input ∈ inputs, allowed input)
    : finalState next (abstract state) inputs = abstract (finalState step state inputs)
      ∧ observations next mine view (abstract state) inputs
        = observations step mine view state inputs := by
  induction inputs generalizing state with
  | nil => exact ⟨rfl, rfl⟩
  | cons input rest ih =>
      obtain ⟨first, later⟩ := List.forall_mem_cons.mp each
      obtain ⟨ends, observed⟩ := @ih (step state input).1 later
      simp only [finalState, observations, mirrors first]
      exact ⟨ends, by rw [observed]⟩

-----------------------------------------------------------------------------------------
-- Two machines side by side
-----------------------------------------------------------------------------------------

/-- Two runs of a machine side by side, each with its own input. -/
def sideBySide (step : σ → ι → σ × ο) (states : σ × σ) (inputs : ι × ι)
    : (σ × σ) × (ο × ο) :=
  let left := step states.1 inputs.1
  let right := step states.2 inputs.2
  ((left.1, right.1), (left.2, right.2))

/-- Two runs whose inputs keep their states related and are answered alike end in related
states and show an observer of all outputs the same, by induction over the inputs.
-/
theorem Admissible.lockstep {step : σ → ι → σ × ο} {Related : σ → σ → Prop}
    {allowed : σ × σ → ι × ι → Prop} {view : ο → ρ}
    (steps
      : ∀ {left right inputs},
          Related left right
          → allowed (left, right) inputs
          → Related (step left inputs.1).1 (step right inputs.2).1
            ∧ view (step left inputs.1).2 = view (step right inputs.2).2)
    {left right : σ} {inputs : List (ι × ι)} (start : Related left right)
    (admissible : Admissible (sideBySide step) allowed (left, right) inputs)
    : Related (finalState step left (inputs.map Prod.fst))
          (finalState step right (inputs.map Prod.snd))
      ∧ observations step (fun _ => true) view left (inputs.map Prod.fst)
        = observations step (fun _ => true) view right (inputs.map Prod.snd) := by
  induction inputs generalizing left right with
  | nil => exact ⟨start, rfl⟩
  | cons pair rest ih =>
      obtain ⟨related, answer⟩ := steps start admissible.1
      obtain ⟨ends, observed⟩ := ih related admissible.2
      refine ⟨ends, ?_⟩
      simp only [List.map_cons, observations, if_true, answer]
      exact congrArg _ observed

end Turbocat.Library
