import Turbocat.System.Schedules

/-! Starting a process: `load_schedules` reads the schedule of every active pipeline, and
one that is rejected ends the start for all of them. Rows are committed before their
schedules are read, so such a row can be stored.
-/

namespace Turbocat.System

open Turbocat.Library Turbocat.Python Turbocat.Connectors Turbocat.Orchestrator Turbocat.Agent

/-- A process that starts on this database loads every schedule that can be read. -/
structure StartsUp (platform : Platform) (db : Db) : Prop where
  completes : (loadSchedules platform.fromCrontab db .empty).2 = none
  registers
    : ∀ pipeline ∈ db.activePipelines,
        pipeline.Accepted platform.fromCrontab
        → (loadSchedules platform.fromCrontab db .empty).1.get? pipeline.pipelineId
          = some pipeline.scheduledJob

/-- A start succeeds exactly on a database whose active schedules are all accepted. -/
theorem startsUp_iff {platform : Platform} {db : Db}
    : StartsUp platform db ↔ SchedulesAccepted platform db := by
  constructor
  · intro starts
    have completes := starts.completes
    rw [loadSchedules_empty, registerEach_completes_iff] at completes
    exact completes
  · intro accepted
    constructor
    · rw [loadSchedules_empty]
      exact registerEach_completes_iff.mpr accepted
    · intro pipeline active _
      rw [loadSchedules_empty]
      exact get?_registerEach_of_mem (activePipelines_distinct db) accepted active

/-- In every reachable state a process can start exactly when the active schedules are
accepted; this holds after every run whose committed bulk requests name accepted ones.
-/
theorem starts_up_when_accepted {platform : Platform} {agents : Table Agent.agentId}
    {secrets : SecretStore} {events : List Event} {last : State}
    (ran : run (step platform) (State.initial agents secrets) events = some last)
    : (StartsUp platform last.db ↔ SchedulesAccepted platform last.db)
      ∧ (Along (step platform) (CommitsAccepted platform) (State.initial agents secrets) events
        → StartsUp platform last.db) := by
  refine ⟨startsUp_iff, fun allowed => startsUp_iff.mpr ?_⟩
  exact @Along.invariant _ _ (step platform) (CommitsAccepted platform)
    (fun state => SchedulesAccepted platform state.db)
    (fun accepted allowed stepped => accepted.step allowed stepped) _ _ _
    (schedulesAccepted_initial platform agents) allowed ran

/-- A process starts again after a pipeline was created. -/
theorem starts_up_after_create
    : ∃ last,
        run (step Platform.written) (State.initial Sample.agents Sample.secrets)
            [.start 0, Sample.save 2 11 "key", Sample.create 2 11 21]
          = some last
        ∧ StartsUp Platform.written last.db :=
  ⟨_, rfl, (@starts_up_when_accepted Platform.written Sample.agents Sample.secrets
    [.start 0, Sample.save 2 11 "key", Sample.create 2 11 21] _ rfl).2
    (along_of_forall (fun _ _ _ _ _ _ _ _ _ _ _ _ => rfl) _ _)⟩

namespace Sample

/-- Libraries that read one schedule of five fields and reject the others. -/
def strict : Platform :=
  { Platform.written with
    fromCrontab := fun schedule =>
      if schedule = "0 * * * *" then .ok ()
      else .error ⟨.valueError, "Wrong number of fields; got 1, expected 5"⟩ }

/-- Agent 1 of account 2 and agent 4 of account 3. -/
def twoAgents : Table Agent.agentId := ⟨[⟨⟨1⟩, ⟨2⟩⟩, ⟨⟨4⟩, ⟨3⟩⟩], by decide⟩

/-- Account 3 asks for a pipeline with a schedule of one field. The request ends in a server
error. Then account 2 creates a pipeline.
-/
def malformedSchedule : List Event :=
  [.start 0, save 3 12 "key",
    .request 0 ⟨⟨3⟩, env 22,
      .bulkCreatePipelines ⟨4⟩ ⟨12⟩ [⟨"razorpay_orders", "orders", "daily", []⟩]⟩,
    save 2 11 "key", create 2 11 21]

end Sample

/-- The stored schedule of one account ends every start, and the pipeline of another is not
scheduled although its schedule is accepted.
-/
theorem malformed_schedule_ends_start
    : ∃ last,
        run (step Sample.strict) (State.initial Sample.twoAgents Sample.secrets)
            Sample.malformedSchedule
          = some last
        ∧ (loadSchedules Sample.strict.fromCrontab last.db .empty).2
          = some ⟨.valueError, "Wrong number of fields; got 1, expected 5"⟩
        ∧ scheduled last.db ⟨21⟩ = some ⟨⟨21⟩, ⟨1⟩, "0 * * * *"⟩
        ∧ (loadSchedules Sample.strict.fromCrontab last.db .empty).1.get? ⟨21⟩ = none
        ∧ ¬ StartsUp Sample.strict last.db := by
  refine ⟨_, rfl, rfl, rfl, rfl, fun starts => ?_⟩
  exact Option.some_ne_none _ starts.completes

end Turbocat.System
