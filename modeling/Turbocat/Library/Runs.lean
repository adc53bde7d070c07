import Mathlib.Data.List.Basic

/-! Finite runs of a partial step function over labelled events. The step refuses an
event by returning `none`, so every theorem about a run also holds of its prefixes.
-/

namespace Turbocat.Library

variable {σ ε τ φ : Type*}

/-- The state after `events`; one refused event refuses the whole run. -/
def run (step : σ → ε → Option σ) : σ → List ε → Option σ
  | state, [] => some state
  | state, event :: events =>
      match step state event with
      | none => none
      | some next => run step next events

@[simp]
theorem run_nil (step : σ → ε → Option σ) (state : σ) : run step state [] = some state :=
  rfl

/-- A run of at least one event starts with an accepted step. -/
theorem run_cons_iff {step : σ → ε → Option σ} {state last : σ} {event : ε}
    {events : List ε}
    : run step state (event :: events) = some last
      ↔ ∃ next, step state event = some next ∧ run step next events = some last := by
  cases stepped : step state event with
  | none =>
      rw [run, stepped]
      constructor
      · intro ran
        cases ran
      · intro starts
        obtain ⟨_, same, _⟩ := starts
        cases same
  | some next =>
      rw [run, stepped]
      constructor
      · intro ran
        exact ⟨next, rfl, ran⟩
      · intro starts
        obtain ⟨_, same, ran⟩ := starts
        cases same
        exact ran

/-- A run over two lists of events passes through the state between them. -/
theorem run_append_iff {step : σ → ε → Option σ} {state last : σ} {before after : List ε}
    : run step state (before ++ after) = some last
      ↔ ∃ middle,
          run step state before = some middle ∧ run step middle after = some last := by
  induction before generalizing state with
  | nil => simp
  | cons event rest ih =>
      simp only [List.cons_append, run_cons_iff, ih]
      constructor
      · intro whole
        obtain ⟨next, stepped, middle, first, second⟩ := whole
        exact ⟨middle, ⟨next, stepped, first⟩, second⟩
      · intro halves
        obtain ⟨middle, ⟨next, stepped, first⟩, second⟩ := halves
        exact ⟨next, stepped, middle, first, second⟩

/-- One more step extends a run at its end. -/
theorem run_concat {step : σ → ε → Option σ} {state middle last : σ} {events : List ε}
    {event : ε} (ran : run step state events = some middle)
    (stepped : step middle event = some last)
    : run step state (events ++ [event]) = some last :=
  run_append_iff.mpr ⟨middle, ran, run_cons_iff.mpr ⟨last, stepped, rfl⟩⟩

/-- Every event of the run meets `condition` in the state it is taken in. -/
def Along (step : σ → ε → Option σ) (condition : σ → ε → Prop) : σ → List ε → Prop
  | _, [] => True
  | state, event :: events =>
      condition state event
      ∧ ∀ next, step state event = some next → Along step condition next events

/-- A condition along a run, one step at a time. -/
theorem Along.cons {step : σ → ε → Option σ} {condition : σ → ε → Prop} {state next : σ}
    {event : ε} {events : List ε} (met : condition state event)
    (stepped : step state event = some next) (rest : Along step condition next events)
    : Along step condition state (event :: events) := by
  refine ⟨met, fun other same => ?_⟩
  cases stepped.symm.trans same
  exact rest

/-- A condition that never fails holds along every run. -/
theorem along_of_forall {step : σ → ε → Option σ} {condition : σ → ε → Prop}
    (always : ∀ state event, condition state event) (state : σ) (events : List ε)
    : Along step condition state events := by
  induction events generalizing state with
  | nil => trivial
  | cons event rest ih => exact ⟨always state event, fun next _ => ih next⟩

/-- A condition along a run, together with one that all its events meet. -/
theorem Along.and_of_forall {step : σ → ε → Option σ} {condition : σ → ε → Prop}
    {allowed : ε → Prop} {state : σ} {events : List ε}
    (along : Along step condition state events) (each : ∀ event ∈ events, allowed event)
    : Along step (fun state event => condition state event ∧ allowed event) state events := by
  induction events generalizing state with
  | nil => trivial
  | cons event rest ih =>
      obtain ⟨first, later⟩ := List.forall_mem_cons.mp each
      exact ⟨⟨along.1, first⟩, fun next stepped => ih (along.2 next stepped) later⟩

/-- A condition along a run implies every weaker one along it. -/
theorem Along.imp {step : σ → ε → Option σ} {condition weaker : σ → ε → Prop}
    (implies : ∀ state event, condition state event → weaker state event)
    {state : σ} {events : List ε} (along : Along step condition state events)
    : Along step weaker state events := by
  induction events generalizing state with
  | nil => trivial
  | cons event rest ih =>
      exact ⟨implies state event along.1, fun next stepped => ih (along.2 next stepped)⟩

instance decidableAlong (step : σ → ε → Option σ) (condition : σ → ε → Prop)
    [∀ state event, Decidable (condition state event)]
    : (state : σ) → (events : List ε) → Decidable (Along step condition state events)
  | _, [] => isTrue trivial
  | state, event :: events =>
      match stepped : step state event with
      | none =>
          decidable_of_iff (condition state event)
            ⟨fun holds => ⟨holds, fun _ same => nomatch stepped.symm.trans same⟩,
              fun along => along.1⟩
      | some next =>
          have := decidableAlong step condition next events
          decidable_of_iff (condition state event ∧ Along step condition next events)
            ⟨fun both => ⟨both.1, fun _ same =>
                (Option.some.inj (stepped.symm.trans same) ▸ both.2)⟩,
              fun along => ⟨along.1, along.2 next stepped⟩⟩

/-- A condition along a run holds along each half of it, by induction on the first. -/
theorem Along.split {step : σ → ε → Option σ} {condition : σ → ε → Prop}
    {state middle : σ} {before after : List ε}
    (along : Along step condition state (before ++ after))
    (ran : run step state before = some middle)
    : Along step condition state before ∧ Along step condition middle after := by
  induction before generalizing state with
  | nil =>
      cases ran
      exact ⟨trivial, along⟩
  | cons event rest ih =>
      obtain ⟨next, stepped, tail⟩ := run_cons_iff.mp ran
      have halves := ih (along.2 next stepped) tail
      refine ⟨⟨along.1, ?_⟩, halves.2⟩
      intro other same
      cases stepped.symm.trans same
      exact halves.1

/-- A condition holds along a run exactly when it holds of every event in the state the events
before it lead to. Witness: induction over the events.
-/
theorem along_iff_positions {step : σ → ε → Option σ} {condition : σ → ε → Prop} {state : σ}
    {events : List ε}
    : Along step condition state events
      ↔ ∀ before event after middle,
          events = before ++ event :: after
          → run step state before = some middle
          → condition middle event := by
  induction events generalizing state with
  | nil => exact ⟨fun _ before _ _ _ whole => by simp at whole, fun _ => trivial⟩
  | cons first rest ih =>
      constructor
      · intro along before event after middle whole ran
        cases before with
        | nil =>
            cases whole
            cases ran
            exact along.1
        | cons head tail =>
            cases whole
            obtain ⟨next, stepped, later⟩ := run_cons_iff.mp ran
            exact ih.mp (along.2 next stepped) tail event after middle rfl later
      · intro positions
        refine ⟨positions [] first rest state rfl rfl, fun next stepped => ih.mpr ?_⟩
        intro before event after middle whole ran
        exact positions (first :: before) event after middle (congrArg _ whole)
          (run_cons_iff.mpr ⟨next, stepped, ran⟩)

/-- The invariant rule under a condition on the steps: what every allowed step keeps,
every allowed run keeps. Witness: induction over the events.
-/
theorem Along.invariant {step : σ → ε → Option σ} {condition : σ → ε → Prop}
    {Holds : σ → Prop}
    (keeps
      : ∀ {state event next},
          Holds state → condition state event → step state event = some next → Holds next)
    {state last : σ} {events : List ε} (start : Holds state)
    (along : Along step condition state events)
    (ran : run step state events = some last)
    : Holds last := by
  induction events generalizing state with
  | nil =>
      cases ran
      exact start
  | cons event rest ih =>
      obtain ⟨next, stepped, tail⟩ := run_cons_iff.mp ran
      exact ih (keeps start along.1 stepped) (along.2 next stepped) tail

/-- A condition that tells of each step whether it keeps a property is met along a run
exactly when the run has the property throughout. Witness: induction over the events.
-/
theorem along_iff_throughout {step : σ → ε → Option σ} {condition : σ → ε → Prop}
    {Holds Good : σ → Prop}
    (keeps : ∀ {state event next}, Holds state → step state event = some next → Holds next)
    (exact
      : ∀ {state event next},
          Holds state → Good state → step state event = some next
          → (Good next ↔ condition state event))
    {state last : σ} {events : List ε} (start : Holds state) (good : Good state)
    (ran : run step state events = some last)
    : (∀ before after middle,
        events = before ++ after → run step state before = some middle → Good middle)
      ↔ Along step condition state events := by
  induction events generalizing state with
  | nil =>
      refine ⟨fun _ => trivial, fun _ before after middle whole first => ?_⟩
      obtain ⟨rfl, _⟩ := List.nil_eq_append_iff.mp whole
      cases first
      exact good
  | cons event rest ih =>
      obtain ⟨next, stepped, tail⟩ := run_cons_iff.mp ran
      have tells := exact start good stepped
      constructor
      · intro throughout
        have goodNext : Good next :=
          throughout [event] rest next rfl (run_cons_iff.mpr ⟨next, stepped, rfl⟩)
        apply Along.cons (tells.mp goodNext) stepped
        apply (ih (keeps start stepped) goodNext tail).mp
        intro before after middle whole first
        exact throughout (event :: before) after middle (congrArg (event :: ·) whole)
          (run_cons_iff.mpr ⟨next, stepped, first⟩)
      · intro along before after middle whole first
        cases before with
        | nil =>
            cases first
            exact good
        | cons head before =>
            obtain ⟨rfl, rfl⟩ := List.cons.inj whole
            obtain ⟨other, same, first⟩ := run_cons_iff.mp first
            cases stepped.symm.trans same
            exact (ih (keeps start stepped) (tells.mpr along.1) tail).mpr
              (along.2 next stepped) before after middle rfl first

/-- The invariant rule: what every step keeps, every run keeps. -/
theorem run_invariant {step : σ → ε → Option σ} {Holds : σ → Prop}
    (keeps : ∀ {state event next}, Holds state → step state event = some next → Holds next)
    {state last : σ} {events : List ε} (start : Holds state)
    (ran : run step state events = some last)
    : Holds last :=
  Along.invariant (fun holds (_ : True) stepped => keeps holds stepped) start
    (along_of_forall (fun _ _ => trivial) state events) ran

/-- A condition that an invariant implies is met along every run. -/
theorem along_of_invariant {step : σ → ε → Option σ} {condition : σ → ε → Prop}
    {Holds : σ → Prop}
    (keeps : ∀ {state event next}, Holds state → step state event = some next → Holds next)
    (implies : ∀ state event, Holds state → condition state event)
    {state : σ} (start : Holds state) (events : List ε)
    : Along step condition state events := by
  induction events generalizing state with
  | nil => trivial
  | cons event rest ih =>
      exact ⟨implies state event start, fun next stepped => ih (keeps start stepped)⟩

/-- A run over steps that each use up some of a measure is no longer than the measure. -/
theorem run_length_le {step : σ → ε → Option σ} {measure : σ → Nat}
    (decreases : ∀ {state event next}, step state event = some next → measure next < measure state)
    {state last : σ} {events : List ε} (ran : run step state events = some last)
    : events.length + measure last ≤ measure state := by
  induction events generalizing state with
  | nil =>
      cases ran
      exact Nat.le_of_eq (Nat.zero_add _)
  | cons event rest ih =>
      obtain ⟨next, stepped, tail⟩ := run_cons_iff.mp ran
      have shorter := ih tail
      have used := decreases stepped
      rw [List.length_cons]
      omega

/-- A relation that is reflexive, transitive and made by every step relates the ends of
a run.
-/
theorem run_relates {step : σ → ε → Option σ} {Rel : σ → σ → Prop}
    (refl : ∀ state, Rel state state)
    (trans : ∀ {first second third}, Rel first second → Rel second third → Rel first third)
    (steps : ∀ {state event next}, step state event = some next → Rel state next)
    {state last : σ} {events : List ε} (ran : run step state events = some last)
    : Rel state last :=
  @run_invariant _ _ step (Rel state) (fun held stepped => trans held (steps stepped)) _ _ _
    (refl state) ran

/-- The simulation rule: when each concrete step is matched by a list of abstract events
between the abstractions of its ends, so is each concrete run.
-/
theorem run_simulates {step : σ → ε → Option σ} {abstractStep : τ → φ → Option τ}
    {abstraction : σ → τ}
    (simulates
      : ∀ {state event next}, step state event = some next →
          ∃ matching, run abstractStep (abstraction state) matching
            = some (abstraction next))
    {state last : σ} {events : List ε} (ran : run step state events = some last)
    : ∃ matching, run abstractStep (abstraction state) matching = some (abstraction last) := by
  induction events generalizing state with
  | nil =>
      cases ran
      exact ⟨[], rfl⟩
  | cons event rest ih =>
      obtain ⟨next, stepped, tail⟩ := run_cons_iff.mp ran
      obtain ⟨first, head⟩ := simulates stepped
      obtain ⟨later, remaining⟩ := ih tail
      exact ⟨first ++ later, run_append_iff.mpr ⟨_, head, remaining⟩⟩

/-- A run over the events that match some others starts with what matches the first of them. -/
theorem run_filterMap_cons_iff {step : τ → φ → Option τ} {matching : ε → Option φ} {event : ε}
    {events : List ε} {state last : τ}
    : run step state ((event :: events).filterMap matching) = some last
      ↔ ∃ middle,
          run step state (matching event).toList = some middle
          ∧ run step middle (events.filterMap matching) = some last := by
  have parts
      : (event :: events).filterMap matching
        = (matching event).toList ++ events.filterMap matching := by
    rw [List.filterMap_cons]
    cases matching event <;> rfl
  rw [parts, run_append_iff]

/-- A condition that tells of each step whether the abstraction takes the matching step is met
along a run exactly when the abstract run leads to the abstraction throughout. Witness:
induction over the events.
-/
theorem along_iff_abstracted {step : σ → ε → Option σ} {abstractStep : τ → φ → Option τ}
    {abstraction : σ → τ} {matching : ε → Option φ} {condition : σ → ε → Prop}
    {Holds : σ → Prop}
    (keeps
      : ∀ {state event next},
          Holds state → step state event = some next
          → run abstractStep (abstraction state) (matching event).toList
            = some (abstraction next)
          → Holds next)
    (exact
      : ∀ {state event next},
          Holds state → step state event = some next
          → (run abstractStep (abstraction state) (matching event).toList
              = some (abstraction next)
            ↔ condition state event))
    {state last : σ} {events : List ε} (start : Holds state)
    (ran : run step state events = some last)
    : (∀ before after middle,
        events = before ++ after
        → run step state before = some middle
        → run abstractStep (abstraction state) (before.filterMap matching)
          = some (abstraction middle))
      ↔ Along step condition state events := by
  induction events generalizing state with
  | nil =>
      refine ⟨fun _ => trivial, fun _ before after middle whole first => ?_⟩
      obtain ⟨rfl, _⟩ := List.nil_eq_append_iff.mp whole
      cases first
      rfl
  | cons event rest ih =>
      obtain ⟨next, stepped, tail⟩ := run_cons_iff.mp ran
      constructor
      · intro throughout
        have first
            : run abstractStep (abstraction state) (matching event).toList
              = some (abstraction next) := by
          have whole :=
            throughout [event] rest next rfl (run_cons_iff.mpr ⟨next, stepped, rfl⟩)
          rw [run_filterMap_cons_iff] at whole
          obtain ⟨middle, head, ends⟩ := whole
          cases ends
          exact head
        apply Along.cons ((exact start stepped).mp first) stepped
        apply (ih (keeps start stepped first) tail).mp
        intro before after middle whole later
        have all := throughout (event :: before) after middle (congrArg (event :: ·) whole)
          (run_cons_iff.mpr ⟨next, stepped, later⟩)
        rw [run_filterMap_cons_iff] at all
        obtain ⟨reached, head, remaining⟩ := all
        cases first.symm.trans head
        exact remaining
      · intro along before after middle whole first
        cases before with
        | nil =>
            cases first
            rfl
        | cons head before =>
            obtain ⟨rfl, rfl⟩ := List.cons.inj whole
            obtain ⟨other, same, later⟩ := run_cons_iff.mp first
            cases stepped.symm.trans same
            have matched := (exact start stepped).mpr along.1
            rw [run_filterMap_cons_iff]
            exact ⟨_, matched,
              (ih (keeps start stepped matched) tail).mpr (along.2 next stepped) before after
                middle rfl later⟩

/-- The lockstep rule: when related states take related steps to related states, a run over
the first events of some pairs is matched by a run over their second events. Witness:
induction over the pairs.
-/
theorem run_lockstep {step : σ → ε → Option σ} {Related : σ → σ → Prop}
    {paired : σ → ε × ε → Prop}
    (steps
      : ∀ {left right events next},
          Related left right → paired left events → step left events.1 = some next →
            ∃ other, step right events.2 = some other ∧ Related next other)
    {left right last : σ} {pairs : List (ε × ε)} (start : Related left right)
    (along : Along (fun state events => step state events.1) paired left pairs)
    (ran : run step left (pairs.map Prod.fst) = some last)
    : ∃ other, run step right (pairs.map Prod.snd) = some other ∧ Related last other := by
  induction pairs generalizing left right with
  | nil =>
      cases ran
      exact ⟨right, rfl, start⟩
  | cons events rest ih =>
      obtain ⟨next, stepped, tail⟩ := run_cons_iff.mp ran
      obtain ⟨matched, follows, related⟩ := steps start along.1 stepped
      obtain ⟨other, later, ends⟩ := ih related (along.2 next stepped) tail
      exact ⟨other, run_cons_iff.mpr ⟨matched, follows, later⟩, ends⟩

-----------------------------------------------------------------------------------------
-- What a state can be driven to
-----------------------------------------------------------------------------------------

section

variable {step : σ → ε → Option σ} {allowed weaker : ε → Prop} {first second third : σ}

/-- A run of allowed events leads from one state to another. -/
def Reaches (step : σ → ε → Option σ) (allowed : ε → Prop) (first second : σ) : Prop :=
  ∃ events, (∀ event ∈ events, allowed event) ∧ run step first events = some second

theorem Reaches.refl (state : σ) : Reaches step allowed state state :=
  ⟨[], fun _ member => absurd member List.not_mem_nil, rfl⟩

theorem Reaches.single {event : ε} (stepped : step first event = some second)
    (permitted : allowed event)
    : Reaches step allowed first second :=
  ⟨[event], List.forall_mem_singleton.mpr permitted, run_cons_iff.mpr ⟨second, stepped, rfl⟩⟩

theorem Reaches.trans (earlier : Reaches step allowed first second)
    (later : Reaches step allowed second third)
    : Reaches step allowed first third := by
  obtain ⟨before, allowedBefore, ranBefore⟩ := earlier
  obtain ⟨after, allowedAfter, ranAfter⟩ := later
  exact ⟨before ++ after, List.forall_mem_append.mpr ⟨allowedBefore, allowedAfter⟩,
    run_append_iff.mpr ⟨second, ranBefore, ranAfter⟩⟩

/-- What allowed events reach, events reach that may do more. -/
theorem Reaches.mono (reaches : Reaches step allowed first second)
    (implies : ∀ event, allowed event → weaker event)
    : Reaches step weaker first second := by
  obtain ⟨events, each, ran⟩ := reaches
  exact ⟨events, fun event member => implies event (each event member), ran⟩

end

end Turbocat.Library
