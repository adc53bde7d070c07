import Turbocat.Orchestrator.Scheduling

/-! When a deactivated pipeline gets no more job runs: the deactivation must find that no
other process, no operation under way and no tick already fired still has the pipeline's
job. Nothing else brings the pipeline back.
-/

namespace Turbocat.Orchestrator.Scheduling

open Turbocat.Library Turbocat.Python

/-- An operation that can still register a pipeline or insert a job run for it. -/
def Work.Holds : Work → UUID → Prop
  | .registering pipelines, pipelineId => pipelineId ∈ pipelines.map Pipeline.pipelineId
  | .deregistering _, _ => False
  | .loading pipelines, pipelineId => pipelineId ∈ pipelines.map Pipeline.pipelineId
  | .enqueueing job, pipelineId => job.pipelineId = pipelineId

-----------------------------------------------------------------------------------------
-- Steps
-----------------------------------------------------------------------------------------

/-- What is left of an operation that registers pipelines holds no more than before. -/
structure Work.Leaves (work later : Work) : Prop where
  less : ∀ pipelineId, later.Holds pipelineId → work.Holds pipelineId
  registers : ∀ pipelineId, later ≠ .deregistering pipelineId

/-- What the next step of an operation does. -/
inductive Moves (state : State) (process : Nat) (scheduler : Scheduler)
    : Work → State → Prop
  | ended {work} : Moves state process scheduler work state
  | skipped {work later} (leaves : work.Leaves later)
    : Moves state process scheduler work (state.opened process later)
  | registered {work later} {pipeline : Pipeline} (among : work.Holds pipeline.pipelineId)
    (leaves : work.Leaves later)
    : Moves state process scheduler work
        ((state.rescheduled process (scheduler.put pipeline.scheduledJob)).opened process later)
  | deregistered {pipelineId}
    : Moves state process scheduler (.deregistering pipelineId)
        { state.rescheduled process (scheduler.erase pipelineId) with
          log := .deactivated pipelineId :: state.log }
  | inserted {job jobRuns}
    : Moves state process scheduler (.enqueueing job)
        { state with
          db := { state.db with jobRuns }
          log := .inserted job.pipelineId :: state.log }

/-- A registration ends the operation or leaves the scheduler with the pipeline's job. -/
theorem registered_moves {fromCrontab : FromCrontab} {state : State} {process : Nat}
    {scheduler : Scheduler} {pipeline : Pipeline} {work later : Work}
    (among : work.Holds pipeline.pipelineId) (leaves : work.Leaves later)
    : Moves state process scheduler work
        (state.registered fromCrontab process scheduler pipeline later) := by
  unfold State.registered
  split
  · exact .ended
  · next moved registered =>
      obtain ⟨_, rfl⟩ := registerPipeline_ok_iff.mp registered
      exact .registered among leaves

theorem leaves_registering (pipeline : Pipeline) (rest : List Pipeline)
    : (Work.registering (pipeline :: rest)).Leaves (.registering rest) :=
  ⟨fun _ among => List.mem_cons_of_mem _ among, fun _ => by simp⟩

theorem leaves_loading (pipeline : Pipeline) (rest : List Pipeline)
    : (Work.loading (pipeline :: rest)).Leaves (.loading rest) :=
  ⟨fun _ among => List.mem_cons_of_mem _ among, fun _ => by simp⟩

theorem advanced_moves {fromCrontab : FromCrontab} {state next : State} {process : Nat}
    {scheduler : Scheduler} {jobId : UUID} {work : Work}
    (moved : state.advanced fromCrontab process scheduler jobId work = some next)
    : Moves state process scheduler work next := by
  cases work with
  | registering pipelines =>
      cases pipelines with
      | nil =>
          cases moved
          exact .ended
      | cons pipeline rest =>
          simp only [State.advanced] at moved
          split at moved
          · cases moved
            exact .ended
          · next refreshed found =>
              cases moved
              refine registered_moves ?_ (leaves_registering pipeline rest)
              rw [Table.key_of_get? found]
              exact List.mem_cons_self
  | deregistering pipelineId =>
      cases moved
      exact .deregistered
  | loading pipelines =>
      cases pipelines with
      | nil =>
          cases moved
          exact .ended
      | cons pipeline rest =>
          simp only [State.advanced] at moved
          split at moved
          · cases moved
            exact .skipped (leaves_loading pipeline rest)
          · cases moved
            refine registered_moves ?_ (leaves_loading pipeline rest)
            exact List.mem_cons_self
  | enqueueing job =>
      obtain ⟨jobRuns, _, rfl⟩ := Option.map_eq_some_iff.mp moved
      exact .inserted

/-- What each accepted event does. -/
inductive Takes (state : State) : Event → State → Prop
  | started {process} (down : state.schedulers process = none)
    : Takes state (.start process)
        ((state.rescheduled process .empty).opened process
          (.loading state.db.activePipelines))
  | stopped {process}
    : Takes state (.stop process)
        { state with
          schedulers := Function.update state.schedulers process none
          operations := state.operations.filter
            (fun operation => decide (operation.process ≠ process)) }
  | refused {event} : Takes state event state
  | created {process env accountId agentId connectionId tables db}
    (commits : CommitsBulk env state.db accountId agentId connectionId tables db)
    : Takes state (.bulk process env accountId agentId connectionId tables)
        ({ state with db }.opened process
          (.registering (requestedPipelines env accountId agentId connectionId tables)))
  | deactivated {process env accountId pipelineId pipeline}
    (found : state.db.pipelines.get? pipelineId = some pipeline)
    : Takes state (.deactivate process env accountId pipelineId)
        ({ state with
          db := { state.db with
            pipelines := state.db.pipelines.modify pipelineId
              Pipeline.deactivated (fun _ => rfl) } }.opened process
          (.deregistering pipelineId))
  | fired {process pipelineId scheduler job} (up : state.schedulers process = some scheduler)
    (found : scheduler.get? pipelineId = some job)
    : Takes state (.tick process pipelineId) (state.opened process (.enqueueing job))
  | advanced {number jobId process work scheduler next}
    (under : state.operations[number]? = some ⟨process, work⟩)
    (up : state.schedulers process = some scheduler)
    (moves
      : Moves { state with operations := state.operations.eraseIdx number } process scheduler
          work next)
    : Takes state (.advance number jobId) next

theorem step_takes {fromCrontab : FromCrontab} {state next : State} {event : Event}
    (stepped : step fromCrontab state event = some next)
    : Takes state event next := by
  cases event with
  | start process =>
      simp only [step] at stepped
      split at stepped
      · cases stepped
      · next down =>
          cases stepped
          exact .started down
  | stop process =>
      cases stepped
      exact .stopped
  | bulk process env accountId agentId connectionId tables =>
      simp only [step] at stepped
      split at stepped
      · cases stepped
      · split at stepped
        · cases stepped
          exact .refused
        · next connection own =>
            split at stepped
            · cases stepped
              exact .refused
            · next db written =>
                cases stepped
                exact .created ⟨⟨connection, ownRow_ok_iff.mp own⟩, written⟩
  | deactivate process env accountId pipelineId =>
      simp only [step] at stepped
      split at stepped
      · cases stepped
      · split at stepped
        · cases stepped
          exact .refused
        · next pipeline own =>
            split at stepped
            · cases stepped
              exact .refused
            · next written =>
                cases commit_ok written
                cases stepped
                exact .deactivated (ownRow_ok_iff.mp own).1
  | tick process pipelineId =>
      simp only [step] at stepped
      split at stepped
      · cases stepped
      · next job found =>
          obtain ⟨scheduler, up, scheduled⟩ := Option.bind_eq_some_iff.mp found
          cases stepped
          exact .fired up scheduled
  | advance number jobId =>
      simp only [step] at stepped
      split at stepped
      · cases stepped
      · next operation under =>
          split at stepped
          · cases stepped
          · next scheduler up => exact .advanced under up (advanced_moves stepped)

-----------------------------------------------------------------------------------------
-- Pipelines that are gone
-----------------------------------------------------------------------------------------

/-- The pipeline's row is stored and not active. -/
def Inactive (db : Db) (pipelineId : UUID) : Prop :=
  ∃ row, db.pipelines.get? pipelineId = some row ∧ row.isActive = false

/-- Nothing is left that could insert a job run for the pipeline. -/
structure Gone (state : State) (pipelineId : UUID) : Prop where
  inactive : Inactive state.db pipelineId
  unscheduled
    : ∀ process scheduler, state.schedulers process = some scheduler →
        scheduler.get? pipelineId = none
  unheld : ∀ operation ∈ state.operations, ¬ operation.work.Holds pipelineId

section

variable {state next : State} {process : Nat} {scheduler : Scheduler} {pipelineId : UUID}

/-- No step of an operation touches the pipelines of the database. -/
theorem Moves.pipelines {work : Work} (moves : Moves state process scheduler work next)
    : next.db.pipelines = state.db.pipelines := by
  cases moves <;> rfl

theorem Inactive.congr {db other : Db} (inactive : Inactive db pipelineId)
    (same : other.pipelines = db.pipelines)
    : Inactive other pipelineId := by
  unfold Inactive
  rw [same]
  exact inactive

/-- An inactive row stays inactive: created rows are under other ids, by cases of the
step.
-/
theorem Inactive.step {event : Event} (inactive : Inactive state.db pipelineId)
    (takes : Takes state event next)
    : Inactive next.db pipelineId := by
  cases takes with
  | started _ => exact inactive
  | stopped => exact inactive
  | refused => exact inactive
  | created commits =>
      obtain ⟨row, found, off⟩ := inactive
      obtain ⟨member, rfl⟩ := Table.get?_eq_some_iff.mp found
      exact ⟨row, Table.get?_of_mem (commits.appended ▸ List.mem_append_left _ member), off⟩
  | @deactivated process env accountId target pipeline found =>
      obtain ⟨row, stored, off⟩ := inactive
      have lookup := Table.get?_modify state.db.pipelines target Pipeline.deactivated
        (fun _ => rfl) pipelineId
      by_cases same : pipelineId = target
      · subst same
        rw [if_pos rfl, stored, Option.map_some] at lookup
        exact ⟨row.deactivated, lookup, rfl⟩
      · rw [if_neg same, stored] at lookup
        exact ⟨row, lookup, off⟩
  | fired _ _ => exact inactive
  | advanced _ _ moves => exact inactive.congr moves.pipelines

/-- Another scheduler in one process. -/
theorem unscheduled_rescheduled {later : Scheduler}
    (unscheduled
      : ∀ process scheduler, state.schedulers process = some scheduler →
          scheduler.get? pipelineId = none)
    (absent : later.get? pipelineId = none)
    : ∀ other scheduler,
        (state.rescheduled process later).schedulers other = some scheduler →
          scheduler.get? pipelineId = none := by
  intro other found up
  simp only [State.rescheduled, Function.update_apply] at up
  split at up
  · cases up
    exact absent
  · exact unscheduled other found up

/-- A step of an operation brings no pipeline back that the operation does not hold. -/
theorem Gone.moves {work : Work} (gone : Gone state pipelineId)
    (up : state.schedulers process = some scheduler) (unheld : ¬ work.Holds pipelineId)
    (moves : Moves state process scheduler work next)
    : Gone next pipelineId := by
  cases moves with
  | ended => exact gone
  | skipped leaves =>
      refine ⟨gone.inactive, gone.unscheduled, ?_⟩
      intro operation member
      rcases List.mem_cons.mp member with rfl | old
      · exact mt (leaves.less pipelineId) unheld
      · exact gone.unheld operation old
  | registered among leaves =>
      refine ⟨gone.inactive, ?_, ?_⟩
      · apply unscheduled_rescheduled gone.unscheduled
        rw [Table.get?_put, if_neg]
        · exact gone.unscheduled process scheduler up
        · intro same
          exact unheld (same ▸ among)
      · intro operation member
        rcases List.mem_cons.mp member with rfl | old
        · exact mt (leaves.less pipelineId) unheld
        · exact gone.unheld operation old
  | deregistered =>
      refine ⟨gone.inactive, ?_, gone.unheld⟩
      apply unscheduled_rescheduled gone.unscheduled
      rw [Table.get?_erase]
      split
      · rfl
      · exact gone.unscheduled process scheduler up
  | inserted => exact ⟨gone.inactive, gone.unscheduled, gone.unheld⟩

/-- A new operation that does not hold the pipeline. -/
theorem Gone.opened (gone : Gone state pipelineId) {work : Work}
    (unheld : ¬ work.Holds pipelineId)
    : Gone (state.opened process work) pipelineId := by
  refine ⟨gone.inactive, gone.unscheduled, ?_⟩
  intro operation member
  rcases List.mem_cons.mp member with rfl | old
  · exact unheld
  · exact gone.unheld operation old

/-- An operation is taken from the list. -/
theorem Gone.taken (gone : Gone state pipelineId) (number : Nat)
    : Gone { state with operations := state.operations.eraseIdx number } pipelineId :=
  ⟨gone.inactive, gone.unscheduled,
    fun operation member => gone.unheld operation (List.mem_of_mem_eraseIdx member)⟩

/-- A pipeline that is gone stays gone, by cases of the step. -/
theorem Gone.step {event : Event} (gone : Gone state pipelineId)
    (takes : Takes state event next)
    : Gone next pipelineId := by
  have inactive := gone.inactive.step takes
  cases takes with
  | started _ =>
      apply Gone.opened
      · exact ⟨inactive, unscheduled_rescheduled gone.unscheduled rfl, gone.unheld⟩
      · intro among
        obtain ⟨row, active, rfl⟩ := List.mem_map.mp among
        obtain ⟨member, on⟩ := mem_activePipelines.mp active
        obtain ⟨stored, found, off⟩ := gone.inactive
        cases (Table.get?_of_mem member).symm.trans found
        exact absurd (on.symm.trans off) (by decide)
  | @stopped stopping =>
      refine ⟨inactive, ?_, ?_⟩
      · intro other scheduler up
        simp only [Function.update_apply] at up
        split at up
        · cases up
        · exact gone.unscheduled other scheduler up
      · exact fun operation member => gone.unheld operation (List.mem_filter.mp member).1
  | refused => exact gone
  | created commits =>
      apply Gone.opened
      · exact ⟨inactive, gone.unscheduled, gone.unheld⟩
      · intro among
        obtain ⟨row, found, _⟩ := gone.inactive
        obtain ⟨member, rfl⟩ := Table.get?_eq_some_iff.mp found
        exact commits.fresh member among
  | deactivated _ =>
      apply Gone.opened
      · exact ⟨inactive, gone.unscheduled, gone.unheld⟩
      · exact fun held => held
  | @fired process ticked scheduler job up found =>
      apply gone.opened
      intro same
      obtain rfl := (Table.key_of_get? found).symm.trans same
      rw [gone.unscheduled process scheduler up] at found
      cases found
  | advanced under up moves =>
      exact (gone.taken _).moves up (gone.unheld _ (List.mem_of_getElem? under)) moves

end

-----------------------------------------------------------------------------------------
-- Runs
-----------------------------------------------------------------------------------------

/-- No job run is inserted for a pipeline after its deactivation has returned. -/
def NoLateJobs (log : List Happening) : Prop :=
  log.Pairwise (fun later earlier =>
    ∀ pipelineId, later = .inserted pipelineId → earlier ≠ .deactivated pipelineId)

/-- When a deactivation deregisters, its process is the last to have the pipeline's job, and
no operation under way holds the pipeline.
-/
def DeregistersLast (state : State) : Event → Prop
  | .advance number _ =>
      ∀ process pipelineId,
        state.operations[number]? = some ⟨process, .deregistering pipelineId⟩
        → (∀ other scheduler,
            other ≠ process
            → state.schedulers other = some scheduler
            → scheduler.get? pipelineId = none)
          ∧ ∀ operation ∈ state.operations, ¬ operation.work.Holds pipelineId
  | _ => True

/-- Deactivated pipelines are gone, and rows are inactive before they are deregistered. -/
structure Settled (state : State) : Prop where
  gone : ∀ pipelineId, .deactivated pipelineId ∈ state.log → Gone state pipelineId
  committed
    : ∀ operation ∈ state.operations,
        ∀ pipelineId,
          operation.work = .deregistering pipelineId → Inactive state.db pipelineId
  noLateJobs : NoLateJobs state.log

theorem settled_initial (db : Db) : Settled (State.initial db) :=
  ⟨fun _ listed => absurd listed List.not_mem_nil,
    fun _ member => absurd member List.not_mem_nil, List.Pairwise.nil⟩

section

variable {state next : State} {process : Nat} {scheduler : Scheduler} {pipelineId : UUID}

/-- The last holder of a pipeline takes its job away. -/
theorem gone_of_deregistered (inactive : Inactive state.db pipelineId)
    (others
      : ∀ other scheduler,
          other ≠ process
          → state.schedulers other = some scheduler
          → scheduler.get? pipelineId = none)
    (unheld : ∀ operation ∈ state.operations, ¬ operation.work.Holds pipelineId)
    (number : Nat) (log : List Happening)
    : Gone
        { (State.rescheduled { state with operations := state.operations.eraseIdx number }
            process (scheduler.erase pipelineId)) with log }
        pipelineId := by
  refine ⟨inactive, ?_, ?_⟩
  · intro other found up
    simp only [State.rescheduled, Function.update_apply] at up
    split at up
    · cases up
      rw [Table.get?_erase, if_pos rfl]
    · next different => exact others other found different up
  · exact fun operation member => unheld operation (List.mem_of_mem_eraseIdx member)

/-- Operations of the next state that deregister were under way before, or have just
committed their deactivation.
-/
theorem Settled.committed_step {event : Event} (settled : Settled state)
    (takes : Takes state event next)
    : ∀ operation ∈ next.operations,
        ∀ pipelineId,
          operation.work = .deregistering pipelineId → Inactive next.db pipelineId := by
  have kept {operation : Operation} (member : operation ∈ state.operations) {target : UUID}
      (deregisters : operation.work = .deregistering target) : Inactive next.db target :=
    (settled.committed operation member target deregisters).step takes
  cases takes with
  | started _ =>
      intro operation member target deregisters
      rcases List.mem_cons.mp member with rfl | old
      · cases deregisters
      · exact kept old deregisters
  | stopped =>
      exact fun operation member target => kept (List.mem_filter.mp member).1
  | refused => exact fun operation member target => kept member
  | created _ =>
      intro operation member target deregisters
      rcases List.mem_cons.mp member with rfl | old
      · cases deregisters
      · exact kept old deregisters
  | @deactivated _ _ _ deactivatedId pipeline found =>
      intro operation member target deregisters
      rcases List.mem_cons.mp member with rfl | old
      · cases deregisters
        have lookup := Table.get?_modify state.db.pipelines deactivatedId
          Pipeline.deactivated (fun _ => rfl) deactivatedId
        rw [if_pos rfl, found, Option.map_some] at lookup
        exact ⟨pipeline.deactivated, lookup, rfl⟩
      · exact kept old deregisters
  | fired _ _ =>
      intro operation member target deregisters
      rcases List.mem_cons.mp member with rfl | old
      · cases deregisters
      · exact kept old deregisters
  | @advanced number jobId process work scheduler next under up moves =>
      have rest {operation : Operation}
          (member : operation ∈ state.operations.eraseIdx number) {target : UUID}
          (deregisters : operation.work = .deregistering target) : Inactive next.db target :=
        kept (List.mem_of_mem_eraseIdx member) deregisters
      cases moves with
      | ended => exact fun operation member target => rest member
      | skipped leaves =>
          intro operation member target deregisters
          rcases List.mem_cons.mp member with rfl | old
          · exact absurd deregisters (leaves.registers target)
          · exact rest old deregisters
      | registered among leaves =>
          intro operation member target deregisters
          rcases List.mem_cons.mp member with rfl | old
          · exact absurd deregisters (leaves.registers target)
          · exact rest old deregisters
      | deregistered => exact fun operation member target => rest member
      | inserted => exact fun operation member target => rest member

/-- A step under the condition keeps deactivated pipelines without new jobs. -/
theorem Settled.step {event : Event} (settled : Settled state)
    (last : DeregistersLast state event) (takes : Takes state event next)
    : Settled next := by
  have committed := settled.committed_step takes
  have kept {target : UUID} (listed : .deactivated target ∈ state.log) : Gone next target :=
    (settled.gone target listed).step takes
  cases takes with
  | started _ => exact ⟨fun _ => kept, committed, settled.noLateJobs⟩
  | stopped => exact ⟨fun _ => kept, committed, settled.noLateJobs⟩
  | refused => exact settled
  | created _ => exact ⟨fun _ => kept, committed, settled.noLateJobs⟩
  | deactivated _ => exact ⟨fun _ => kept, committed, settled.noLateJobs⟩
  | fired _ _ => exact ⟨fun _ => kept, committed, settled.noLateJobs⟩
  | @advanced number jobId process work scheduler next under up moves =>
      cases moves with
      | ended => exact ⟨fun _ => kept, committed, settled.noLateJobs⟩
      | skipped _ => exact ⟨fun _ => kept, committed, settled.noLateJobs⟩
      | registered _ _ => exact ⟨fun _ => kept, committed, settled.noLateJobs⟩
      | @deregistered target =>
          refine ⟨?_, committed, List.Pairwise.cons ?_ settled.noLateJobs⟩
          · intro other listed
            rcases List.mem_cons.mp listed with same | old
            · cases same
              obtain ⟨others, unheld⟩ := last process target under
              have inactive := settled.committed _ (List.mem_of_getElem? under) target rfl
              exact gone_of_deregistered inactive others unheld number _
            · exact kept old
          · exact fun _ _ _ same => absurd same (by simp)
      | @inserted job jobRuns =>
          refine ⟨?_, committed, List.Pairwise.cons ?_ settled.noLateJobs⟩
          · intro other listed
            rcases List.mem_cons.mp listed with same | old
            · cases same
            · exact kept old
          · intro earlier among target same deactivated
            cases same
            subst deactivated
            have gone := settled.gone job.pipelineId among
            exact gone.unheld _ (List.mem_of_getElem? under) rfl

end

/-- Over any database and with any number of processes: in every run in which each
deactivation deregisters the last job of its pipeline, no job run is inserted for a pipeline
after its deactivation has returned.
-/
theorem no_job_after_deactivation {fromCrontab : FromCrontab} {db : Db} {events : List Event}
    {last : State}
    (ran : run (step fromCrontab) (State.initial db) events = some last)
    (deregistersLast
      : Along (step fromCrontab) DeregistersLast (State.initial db) events)
    : NoLateJobs last.log :=
  (@Along.invariant _ _ (step fromCrontab) DeregistersLast Settled
    (fun settled met stepped => settled.step met (step_takes stepped)) _ _ _
    (settled_initial db) deregistersLast ran).noLateJobs

namespace Sample

/-- A request that meets no failure. -/
def env : RequestEnv :=
  {
    uuid := fun _ => ⟨0⟩
    now := default
    createdAt := default
    configure := fun _ _ => .ok ()
    testConnection := fun _ _ => .ok ()
  }

/-- A pipeline of account 2. -/
def pipeline : Pipeline :=
  {
    pipelineId := ⟨21⟩
    accountId := ⟨2⟩
    agentId := ⟨1⟩
    connectionId := ⟨11⟩
    connector := "razorpay_orders"
    tableName := "orders"
    schedule := "0 * * * *"
    params := []
  }

/-- A database with one active pipeline. -/
def db : Db := ⟨.empty, .empty, ⟨[pipeline], List.nodup_singleton _⟩, .empty⟩

/-- A process starts and loads the one pipeline. -/
def startUp (process : Nat) : List Event :=
  [.start process, .advance 0 ⟨0⟩, .advance 0 ⟨0⟩]

/-- The deactivation of the pipeline in process 0, to its end. -/
def deactivation : List Event := [.deactivate 0 env ⟨2⟩ ⟨21⟩, .advance 0 ⟨0⟩]

/-- In every state without operations that deregister, any step meets the condition. -/
theorem deregistersLast_of_loading {state : State} {number : Nat} {jobId : UUID}
    {process : Nat} {pipelines : List Pipeline}
    (under : state.operations[number]? = some ⟨process, .loading pipelines⟩)
    : DeregistersLast state (.advance number jobId) := by
  intro other pipelineId found
  cases under.symm.trans found

end Sample

/-- With one process, nothing is inserted after the deactivation. -/
theorem no_job_after_deactivation_alone
    : ∃ last,
        run (step (fun _ => .ok ())) (State.initial Sample.db)
            (Sample.startUp 0 ++ Sample.deactivation)
          = some last
        ∧ last.log = [.deactivated ⟨21⟩]
        ∧ NoLateJobs last.log := by
  refine ⟨_, rfl, rfl, @no_job_after_deactivation (fun _ => .ok ()) Sample.db
    (Sample.startUp 0 ++ Sample.deactivation) _ rfl ?_⟩
  refine .cons trivial rfl (.cons (Sample.deregistersLast_of_loading rfl) rfl
    (.cons (Sample.deregistersLast_of_loading rfl) rfl (.cons trivial rfl
      (.cons ?_ rfl trivial))))
  intro process pipelineId found
  cases found
  constructor
  · intro other scheduler different up
    cases other with
    | zero => exact absurd rfl different
    | succ number => cases up
  · intro operation member
    rw [List.mem_singleton.mp member]
    exact fun held => held

/-- Two processes have loaded the pipeline. After its deactivation in one of them has
returned, a tick of the other inserts a job run.
-/
theorem other_process_inserts_late_job
    : ∃ last,
        run (step (fun _ => .ok ())) (State.initial Sample.db)
            (Sample.startUp 0 ++ Sample.startUp 1 ++ Sample.deactivation
              ++ [.tick 1 ⟨21⟩, .advance 0 ⟨31⟩])
          = some last
        ∧ last.log = [.inserted ⟨21⟩, .deactivated ⟨21⟩]
        ∧ ¬ NoLateJobs last.log := by
  refine ⟨_, rfl, rfl, fun timely => ?_⟩
  exact (List.pairwise_cons.mp timely).1 _ List.mem_cons_self ⟨21⟩ rfl rfl

end Turbocat.Orchestrator.Scheduling
