import Mathlib.Init

/-! Computations that attempt calls to their surroundings and may raise: what they have
attempted when they end, and how they end, by the rules of sequencing and of catching.
-/

namespace Turbocat.Library

variable {ε ω α β : Type}

/-- A computation that returns or raises, and leaves behind the calls it has attempted. -/
abbrev Traced (ε ω α : Type) := ExceptT ε (StateM (List ω)) α

/-- Attempt a call that ends in a given way. -/
def attempt (call : ω) (outcome : Except ε α) : Traced ε ω α := do
  modify (fun calls => calls ++ [call])
  match outcome with
  | .ok value => return value
  | .error raised => throw raised

/-- Whatever was attempted before, a computation attempts certain calls and ends in a certain
way.
-/
def Ends (computation : Traced ε ω α) (calls : List ω) (outcome : Except ε α) : Prop :=
  ∀ before, computation.run.run before = (outcome, before ++ calls)

namespace Ends

variable {computation : Traced ε ω α} {calls later : List ω} {outcome other : Except ε α}

/-- A computation ends in one way. -/
theorem unique (ends : Ends computation calls outcome) (again : Ends computation later other)
    : calls = later ∧ outcome = other := by
  have same := Prod.mk.inj ((ends []).symm.trans (again []))
  exact ⟨same.2, same.1⟩

theorem pure (value : α) : Ends (return value : Traced ε ω α) [] (.ok value) := by
  intro before
  rw [List.append_nil]
  rfl

theorem throw (raised : ε) : Ends (throw raised : Traced ε ω α) [] (.error raised) := by
  intro before
  rw [List.append_nil]
  rfl

/-- A call is recorded however it ends. -/
theorem attempt (call : ω) (outcome : Except ε α)
    : Ends (Library.attempt call outcome) [call] outcome := by
  intro before
  cases outcome <;> rfl

/-- A value is passed on. -/
theorem bind {value : α} {next : α → Traced ε ω β} {result : Except ε β}
    (first : Ends computation calls (.ok value)) (rest : Ends (next value) later result)
    : Ends (computation >>= next) (calls ++ later) result := by
  intro before
  have whole : (computation >>= next).run.run before
      = (next value).run.run (before ++ calls) := by
    simp only [ExceptT.run_bind, StateT.run_bind, first before]
    rfl
  rw [whole, rest, List.append_assoc]

/-- What is raised ends the sequence. -/
theorem bind_raised {raised : ε} {next : α → Traced ε ω β}
    (first : Ends computation calls (.error raised))
    : Ends (computation >>= next) calls (.error raised) := by
  intro before
  simp only [ExceptT.run_bind, StateT.run_bind, first before]
  rfl

/-- A call that returns is followed by the rest. -/
theorem attempt_bind {call : ω} {value : α} {next : α → Traced ε ω β} {result : Except ε β}
    (rest : Ends (next value) later result)
    : Ends (Library.attempt call (.ok value) >>= next) (call :: later) result :=
  (Ends.attempt call (.ok value)).bind rest

/-- A call that raises ends the sequence. -/
theorem attempt_raised {call : ω} {raised : ε} {next : α → Traced ε ω β}
    : Ends (Library.attempt call (.error raised) >>= next) [call] (.error raised) :=
  (Ends.attempt call (.error raised)).bind_raised

theorem map {value : α} {f : α → β} (first : Ends computation calls (.ok value))
    : Ends (f <$> computation) calls (.ok (f value)) := by
  intro before
  simp only [ExceptT.run_map, StateT.run_map, first before]
  rfl

theorem map_raised {raised : ε} {f : α → β} (first : Ends computation calls (.error raised))
    : Ends (f <$> computation) calls (.error raised) := by
  intro before
  simp only [ExceptT.run_map, StateT.run_map, first before]
  rfl

/-- A computation, run as the state transformer it is. -/
theorem transformer (ends : Ends computation calls outcome) (before : List ω)
    : StateT.run computation before = (outcome, before ++ calls) :=
  ends before

/-- Nothing is caught where nothing is raised. -/
theorem tryCatch {value : α} {handler : ε → Traced ε ω α}
    (first : Ends computation calls (.ok value))
    : Ends (MonadExcept.tryCatch computation handler) calls (.ok value) := by
  intro before
  simp only [MonadExcept.tryCatch, tryCatchThe, MonadExceptOf.tryCatch, ExceptT.tryCatch,
    ExceptT.run_mk, StateT.run_bind, first.transformer before]
  rfl

/-- What is raised is handed to the handler. -/
theorem tryCatch_raised {raised : ε} {handler : ε → Traced ε ω α}
    (first : Ends computation calls (.error raised)) (rest : Ends (handler raised) later outcome)
    : Ends (MonadExcept.tryCatch computation handler) (calls ++ later) outcome := by
  intro before
  simp only [MonadExcept.tryCatch, tryCatchThe, MonadExceptOf.tryCatch, ExceptT.tryCatch,
    ExceptT.run_mk, StateT.run_bind, first.transformer before]
  rw [← List.append_assoc]
  exact rest (before ++ calls)

end Ends

end Turbocat.Library
