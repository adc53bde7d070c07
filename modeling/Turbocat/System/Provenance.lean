import Turbocat.System.Steps

/-! Where everything in flight comes from: payloads from rows that are still stored, tasks
from payloads that were answered, and reports from the actions of tasks.
-/

namespace Turbocat.System

open Turbocat.Library Turbocat.Python Turbocat.Connectors Turbocat.Orchestrator Turbocat.Agent

/-- Loaded rows are still stored, with the fields that nothing rewrites. -/
structure Snapshot (db : Db) (loaded : LoadedJob) : Prop where
  job
    : ∃ row, db.jobRuns.get? loaded.job.jobId = some row ∧ row.fixed = loaded.job.fixed
  pipeline
    : ∀ pipeline, loaded.pipeline = some pipeline →
        pipeline.pipelineId = loaded.job.pipelineId
        ∧ ∃ row,
            db.pipelines.get? pipeline.pipelineId = some row ∧ row.fixed = pipeline.fixed
  connection
    : ∀ pipeline connection,
        loaded.pipeline = some pipeline
        → loaded.connection = some connection
        → connection.connectionId = pipeline.connectionId
          ∧ ∃ row,
              db.connections.get? connection.connectionId = some row
              ∧ row.fixed = connection.fixed

/-- The job, the pipeline and the connection of a payload are stored. -/
structure Grounded (db : Db) (entry : BuiltPayload) : Prop where
  job
    : ∃ row,
        db.jobRuns.get? entry.payload.jobId = some row
        ∧ row.pipelineId = entry.payload.pipelineId
  pipeline
    : ∃ row,
        db.pipelines.get? entry.payload.pipelineId = some row
        ∧ row.connector = entry.payload.connector
        ∧ row.params = entry.payload.params
        ∧ row.connectionId = entry.connection.connectionId
  connection
    : ∃ row,
        db.connections.get? entry.connection.connectionId = some row
        ∧ row.fixed = entry.connection.fixed

/-- A payload was in some response. -/
def Answered (log : Log) (payload : JobPayload) : Prop :=
  ∃ answer ∈ log.answers, answer.built.payload = payload

/-- The actions a job still has, by how far it has come. -/
inductive Progress (platform : Platform) (log : Log) (job : JobPayload) : List Action → Prop
  | started {env} : Progress platform log job (runJob platform.repr env job)
  | unhandled {exception}
    : Progress platform log job [.report (unhandledReport job exception)]
  | synced {env source run} (built : buildSource platform.repr env job = .ok source)
    (returned : syncJob env job source = some run)
    : Progress platform log job [.synced run, .report (resultReport job run.result)]
  | reporting {run} (logged : (job, run) ∈ log.syncs)
    : Progress platform log job [.report (resultReport job run.result)]
  | done : Progress platform log job []

/-- The reports a job makes, with the sync that a report tells of. -/
inductive Origin (log : Log) (job : JobPayload) : Report → Prop
  | running : Origin log job (runningReport job)
  | unhandled {exception} : Origin log job (unhandledReport job exception)
  | result {run} (logged : (job, run) ∈ log.syncs)
    : Origin log job (resultReport job run.result)

/-- A report was made by a job that was answered. -/
def Reported (log : Log) (report : Report) : Prop :=
  ∃ job, Answered log job ∧ Origin log job report

/-- A sync of a job that was answered. -/
def Synced (platform : Platform) (log : Log) (entry : JobPayload × SyncRun) : Prop :=
  Answered log entry.1
  ∧ ∃ env source,
      buildSource platform.repr env entry.1 = .ok source
      ∧ syncJob env entry.1 source = some entry.2

/-- Everything in flight and in the log is accounted for. -/
structure Provenance (platform : Platform) (state : State) : Prop where
  snapshots
    : ∀ pollId, ∀ loaded ∈ (state.builds pollId).remaining, Snapshot state.db loaded
  builds : ∀ pollId, ∀ entry ∈ (state.builds pollId).built, entry ∈ state.log.built
  built : ∀ entry ∈ state.log.built, Grounded state.db entry
  answers : ∀ answer ∈ state.log.answers, answer.built ∈ state.log.built
  waiting : ∀ payload ∈ state.waiting, Answered state.log payload
  tasks
    : ∀ task ∈ state.tasks,
        Answered state.log task.payload
        ∧ Progress platform state.log task.payload task.actions
  syncs : ∀ entry ∈ state.log.syncs, Synced platform state.log entry
  network : ∀ report ∈ state.network, Reported state.log report
  reports : ∀ report ∈ state.log.reports, Reported state.log report

theorem Snapshot.mono {db next : Db} {loaded : LoadedJob} (snapshot : Snapshot db loaded)
    (grows : DbGrows db next)
    : Snapshot next loaded where
  job := by
    obtain ⟨row, found, same⟩ := snapshot.job
    obtain ⟨kept, foundKept, sameKept⟩ := grows.jobRuns _ _ found
    exact ⟨kept, foundKept, sameKept.trans same⟩
  pipeline := by
    intro pipeline loads
    obtain ⟨own, row, found, same⟩ := snapshot.pipeline pipeline loads
    obtain ⟨kept, foundKept, sameKept⟩ := grows.pipelines _ _ found
    exact ⟨own, kept, foundKept, sameKept.trans same⟩
  connection := by
    intro pipeline connection loads loadsConnection
    obtain ⟨own, row, found, same⟩ := snapshot.connection pipeline connection loads loadsConnection
    obtain ⟨kept, foundKept, sameKept⟩ := grows.connections _ _ found
    exact ⟨own, kept, foundKept, sameKept.trans same⟩

theorem Grounded.mono {db next : Db} {entry : BuiltPayload} (grounded : Grounded db entry)
    (grows : DbGrows db next)
    : Grounded next entry where
  job := by
    obtain ⟨row, found, pipelineId⟩ := grounded.job
    obtain ⟨kept, foundKept, same⟩ := grows.jobRuns _ _ found
    exact ⟨kept, foundKept, (congrArg Prod.fst same).trans pipelineId⟩
  pipeline := by
    obtain ⟨row, found, connector, params, connectionId⟩ := grounded.pipeline
    obtain ⟨kept, foundKept, same⟩ := grows.pipelines _ _ found
    exact ⟨kept, foundKept, (congrArg Pipeline.connector same).trans connector,
      (congrArg Pipeline.params same).trans params,
      (congrArg Pipeline.connectionId same).trans connectionId⟩
  connection := by
    obtain ⟨row, found, fixed⟩ := grounded.connection
    obtain ⟨kept, foundKept, same⟩ := grows.connections _ _ found
    exact ⟨kept, foundKept, same.trans fixed⟩

theorem Answered.mono {state next : State} {payload : JobPayload}
    (answered : Answered state.log payload) (grows : Grows state next)
    : Answered next.log payload := by
  obtain ⟨answer, member, same⟩ := answered
  exact ⟨answer, grows.answers member, same⟩

theorem Progress.mono {platform : Platform} {state next : State} {job : JobPayload}
    {actions : List Action} (progress : Progress platform state.log job actions)
    (grows : Grows state next)
    : Progress platform next.log job actions := by
  cases progress with
  | started => exact .started
  | unhandled => exact .unhandled
  | synced built returned => exact .synced built returned
  | reporting logged => exact .reporting (grows.syncs logged)
  | done => exact .done

theorem Reported.mono {state next : State} {report : Report}
    (reported : Reported state.log report) (grows : Grows state next)
    : Reported next.log report := by
  obtain ⟨job, answered, origin⟩ := reported
  refine ⟨job, answered.mono grows, ?_⟩
  cases origin with
  | running => exact .running
  | unhandled => exact .unhandled
  | result logged => exact .result (grows.syncs logged)

theorem Synced.mono {platform : Platform} {state next : State} {entry : JobPayload × SyncRun}
    (synced : Synced platform state.log entry) (grows : Grows state next)
    : Synced platform next.log entry :=
  ⟨synced.1.mono grows, synced.2⟩

/-- Every item of the next state is an old one or accounted for. -/
structure Introduces (platform : Platform) (state next : State) : Prop where
  snapshots
    : ∀ pollId, ∀ loaded ∈ (next.builds pollId).remaining,
        loaded ∈ (state.builds pollId).remaining ∨ Snapshot next.db loaded
    := by exact fun _ _ member => Or.inl member
  builds
    : ∀ pollId, ∀ entry ∈ (next.builds pollId).built,
        entry ∈ (state.builds pollId).built ∨ entry ∈ next.log.built
    := by exact fun _ _ member => Or.inl member
  built : ∀ entry ∈ next.log.built, entry ∈ state.log.built ∨ Grounded next.db entry
    := by exact fun _ member => Or.inl member
  answers
    : ∀ answer ∈ next.log.answers,
        answer ∈ state.log.answers ∨ answer.built ∈ next.log.built
    := by exact fun _ member => Or.inl member
  waiting : ∀ payload ∈ next.waiting, payload ∈ state.waiting ∨ Answered next.log payload
    := by exact fun _ member => Or.inl member
  tasks
    : ∀ task ∈ next.tasks,
        task ∈ state.tasks
        ∨ Answered next.log task.payload
          ∧ Progress platform next.log task.payload task.actions
    := by exact fun _ member => Or.inl member
  syncs : ∀ entry ∈ next.log.syncs, entry ∈ state.log.syncs ∨ Synced platform next.log entry
    := by exact fun _ member => Or.inl member
  network : ∀ report ∈ next.network, report ∈ state.network ∨ Reported next.log report
    := by exact fun _ member => Or.inl member
  reports
    : ∀ report ∈ next.log.reports, report ∈ state.log.reports ∨ Reported next.log report
    := by exact fun _ member => Or.inl member

/-- Old items stay accounted for as the state grows. -/
theorem Provenance.extend {platform : Platform} {state next : State}
    (provenance : Provenance platform state) (grows : Grows state next)
    (introduces : Introduces platform state next)
    : Provenance platform next where
  snapshots := fun pollId loaded member =>
    (introduces.snapshots pollId loaded member).elim
      (fun old => (provenance.snapshots pollId loaded old).mono grows.db) id
  builds := fun pollId entry member =>
    (introduces.builds pollId entry member).elim
      (fun old => grows.built (provenance.builds pollId entry old)) id
  built := fun entry member =>
    (introduces.built entry member).elim
      (fun old => (provenance.built entry old).mono grows.db) id
  answers := fun answer member =>
    (introduces.answers answer member).elim
      (fun old => grows.built (provenance.answers answer old)) id
  waiting := fun payload member =>
    (introduces.waiting payload member).elim
      (fun old => (provenance.waiting payload old).mono grows) id
  tasks := fun task member =>
    (introduces.tasks task member).elim
      (fun old => ⟨(provenance.tasks task old).1.mono grows,
        (provenance.tasks task old).2.mono grows⟩) id
  syncs := fun entry member =>
    (introduces.syncs entry member).elim
      (fun old => (provenance.syncs entry old).mono grows) id
  network := fun report member =>
    (introduces.network report member).elim
      (fun old => (provenance.network report old).mono grows) id
  reports := fun report member =>
    (introduces.reports report member).elim
      (fun old => (provenance.reports report old).mono grows) id

/-- A reload takes a snapshot of the rows of its jobs. -/
theorem snapshot_of_reload {db : Db} {jobIds : List UUID} {loaded : LoadedJob}
    (member : loaded ∈ loadedJobs db jobIds)
    : Snapshot db loaded := by
  obtain ⟨jobId, _, loads⟩ := List.mem_filterMap.mp member
  obtain ⟨job, found, rfl⟩ := Option.map_eq_some_iff.mp loads
  constructor
  · exact ⟨job, Table.get?_of_mem (Table.mem_of_get? found), rfl⟩
  · intro pipeline loaded
    have key := Table.key_of_get? loaded
    exact ⟨key, pipeline, key ▸ loaded, rfl⟩
  · intro pipeline connection loadsPipeline loadsConnection
    obtain ⟨loaded, foundPipeline, foundConnection⟩ := Option.bind_eq_some_iff.mp loadsConnection
    cases loadsPipeline.symm.trans foundPipeline
    have key := Table.key_of_get? foundConnection
    exact ⟨key, connection, key ▸ foundConnection, rfl⟩

/-- A payload made from a snapshot is grounded in its rows. -/
theorem Snapshot.grounded {platform : Platform} {db : Db} {loaded : LoadedJob}
    {connection : Connection} {fetch : String → Except PyException Json} {now : Datetime}
    {payload : JobPayload} (snapshot : Snapshot db loaded)
    (made : buildPayload platform fetch now loaded = .ok payload)
    (found : loaded.connection = some connection)
    : Grounded db ⟨connection, payload⟩ := by
  obtain ⟨pipeline, _, _, _, loads, _, _, _, _, rfl⟩ := buildPayload_ok_iff.mp made
  obtain ⟨job, foundJob, sameJob⟩ := snapshot.job
  obtain ⟨own, row, foundRow, same⟩ := snapshot.pipeline pipeline loads
  obtain ⟨connectionId, stored⟩ := snapshot.connection pipeline connection loads found
  exact {
    job := ⟨job, foundJob, (congrArg Prod.fst sameJob :)⟩
    pipeline := ⟨row, own ▸ foundRow, (congrArg Pipeline.connector same :),
      (congrArg Pipeline.params same :),
      (congrArg Pipeline.connectionId same).trans connectionId.symm⟩
    connection := stored
  }

/-- The next action of a job leaves it further on. -/
theorem Progress.act {platform : Platform} {log next : Log} {job : JobPayload}
    {action : Action} {rest : List Action}
    (progress : Progress platform log job (action :: rest))
    (logs : ∀ run, action = .synced run → (job, run) ∈ next.syncs)
    : Progress platform next job rest := by
  generalize actions : action :: rest = all at progress
  cases progress with
  | started =>
      next env =>
        unfold runJob at actions
        cases actions
        cases built : buildSource platform.repr env job with
        | error exception => exact .unhandled
        | ok source =>
            dsimp only
            cases returned : syncJob env job source with
            | none => exact .done
            | some run => exact .synced built returned
  | unhandled =>
      cases actions
      exact .done
  | synced built returned =>
      cases actions
      exact .reporting (logs _ rfl)
  | reporting logged =>
      cases actions
      exact .done
  | done => cases actions

/-- What a job posts was made by it. -/
theorem Progress.origin {platform : Platform} {log : Log} {job : JobPayload}
    {report : Report} {rest : List Action}
    (progress : Progress platform log job (.report report :: rest))
    : Origin log job report := by
  generalize actions : Action.report report :: rest = all at progress
  cases progress with
  | started =>
      unfold runJob at actions
      cases actions
      exact .running
  | unhandled =>
      cases actions
      exact .unhandled
  | synced built returned => cases actions
  | reporting logged =>
      cases actions
      exact .result logged
  | done => cases actions

theorem Origin.jobId {log : Log} {job : JobPayload} {report : Report}
    (origin : Origin log job report)
    : report.jobId = job.jobId := by
  cases origin with
  | running => rfl
  | unhandled => rfl
  | @result run logged =>
      unfold resultReport
      split <;> rfl

/-- A sync a job has returned from is one of its own. -/
theorem Progress.sync {platform : Platform} {log : Log} {job : JobPayload} {run : SyncRun}
    {rest : List Action} (progress : Progress platform log job (.synced run :: rest))
    : ∃ env source,
        buildSource platform.repr env job = .ok source ∧ syncJob env job source = some run := by
  generalize actions : Action.synced run :: rest = all at progress
  cases progress with
  | started =>
      unfold runJob at actions
      cases actions
  | unhandled => cases actions
  | synced built returned =>
      cases actions
      exact ⟨_, _, built, returned⟩
  | reporting logged => cases actions
  | done => cases actions

/-- What the loop of a poll holds after one poll's was set. -/
theorem mem_update_builds {α : Type} {builds : Nat → Build} {pollId set : Nat} {build : Build}
    (items : Build → List α) {item : α}
    (member : item ∈ items (Function.update builds set build pollId))
    : pollId = set ∧ item ∈ items build ∨ item ∈ items (builds pollId) := by
  by_cases same : pollId = set
  · subst same
    rw [Function.update_self] at member
    exact Or.inl ⟨rfl, member⟩
  · rw [Function.update_of_ne same] at member
    exact Or.inr member

section

variable {platform : Platform} {state : State}

/-- A reload introduces snapshots of the rows as they are. -/
theorem introduces_reload {pollId : Nat} {jobIds : List UUID} {dispatch : Dispatch.State}
    (grows : DbGrows state.db (state.dispatched dispatch).db)
    : Introduces platform state
        { state.dispatched dispatch with
          builds := Function.update state.builds pollId ⟨loadedJobs state.db jobIds, []⟩ } where
  snapshots := fun _ loaded member => by
    rcases mem_update_builds (fun build => build.remaining) member with ⟨_, new⟩ | old
    · exact Or.inr ((snapshot_of_reload new).mono grows)
    · exact Or.inl old
  builds := fun _ entry member => by
    rcases mem_update_builds (fun build => build.built) member with ⟨_, new⟩ | old
    · cases new
    · exact Or.inl old

/-- A turn of the loop introduces a payload grounded in its snapshot. -/
theorem introduces_build (provenance : Provenance platform state) {pollId : Nat}
    {loaded : LoadedJob} {remaining : List LoadedJob} {connection : Connection}
    {fetch : String → Except PyException Json} {now : Datetime} {payload : JobPayload}
    (turn : (state.builds pollId).remaining = loaded :: remaining)
    (made : buildPayload platform fetch now loaded = .ok payload)
    (found : loaded.connection = some connection)
    : Introduces platform state (state.built pollId remaining ⟨connection, payload⟩) where
  snapshots := fun poll later member => by
    rcases mem_update_builds (fun build => build.remaining) member with ⟨rfl, new⟩ | old
    · exact Or.inl (turn ▸ List.mem_cons_of_mem _ new)
    · exact Or.inl old
  builds := fun poll entry member => by
    rcases mem_update_builds (fun build => build.built) member with ⟨rfl, new⟩ | old
    · rcases List.mem_append.mp new with earlier | last
      · exact Or.inl earlier
      · exact Or.inr (List.mem_singleton.mp last ▸ List.mem_cons_self)
    · exact Or.inl old
  built := fun entry member => by
    have snapshot := provenance.snapshots pollId loaded (turn ▸ List.mem_cons_self)
    rcases List.mem_cons.mp member with rfl | old
    · exact Or.inr (snapshot.grounded made found)
    · exact Or.inl old

/-- A response introduces answers with the payloads of its poll. -/
theorem introduces_respond (provenance : Provenance platform state)
    (dispatch : Dispatch.State) (poll : Dispatch.Poll)
    : Introduces platform state
        ((state.dispatched dispatch).answered poll.pollId poll.agentId) where
  answers := fun answer member => by
    rcases List.mem_append.mp member with new | old
    · obtain ⟨entry, among, rfl⟩ := List.mem_map.mp new
      exact Or.inr (provenance.builds poll.pollId entry among)
    · exact Or.inl old
  waiting := fun payload member => by
    rcases List.mem_append.mp member with old | new
    · exact Or.inl old
    · obtain ⟨entry, among, rfl⟩ := List.mem_map.mp new
      exact Or.inr ⟨⟨poll.agentId, entry⟩,
        List.mem_append_left _ (List.mem_map_of_mem among), rfl⟩

/-- An action introduces the report it posts, or the sync it has returned from. -/
theorem introduces_act (provenance : Provenance platform state) {number : Nat}
    {payload : JobPayload} {action : Action} {rest : List Action}
    (found : state.tasks[number]? = some ⟨payload, action :: rest⟩)
    (grows : Grows state (state.acted number payload rest action))
    : Introduces platform state (state.acted number payload rest action) := by
  obtain ⟨answered, progress⟩ := provenance.tasks _ (List.mem_of_getElem? found)
  have kept := answered.mono grows
  cases action with
  | report report =>
      refine {
        tasks := fun task member => ?_
        network := fun other member => ?_ }
      · rcases List.mem_cons.mp member with rfl | old
        · exact Or.inr ⟨kept, progress.act (fun run same => nomatch same)⟩
        · exact Or.inl (List.mem_of_mem_eraseIdx old)
      · rcases List.mem_cons.mp member with rfl | old
        · exact Or.inr ⟨payload, answered, progress.origin⟩
        · exact Or.inl old
  | synced run =>
      refine {
        tasks := fun task member => ?_
        syncs := fun entry member => ?_ }
      · rcases List.mem_cons.mp member with rfl | old
        · refine Or.inr ⟨kept, progress.act (fun run same => ?_)⟩
          cases same
          exact List.mem_cons_self
        · exact Or.inl (List.mem_of_mem_eraseIdx old)
      · rcases List.mem_cons.mp member with rfl | old
        · exact Or.inr ⟨kept, progress.sync⟩
        · exact Or.inl old

/-- Every step accounts for the items it introduces, by cases of the step. -/
theorem Provenance.step {next : State} {event : Event}
    (provenance : Provenance platform state)
    (stepped : step platform state event = some next)
    : Provenance platform next := by
  have grows := step_grows stepped
  refine provenance.extend grows ?_
  cases step_takes stepped with
  | start _ => exact {}
  | stop => exact {}
  | request _ => exact {}
  | tick _ _ _ => exact {}
  | contend _ _ _ => exact {}
  | reload _ => exact introduces_reload grows.db
  | build _ _ turn made found => exact introduces_build provenance turn made found
  | @respond dispatch poll _ _ _ => exact introduces_respond provenance dispatch poll
  | @work number env payload found =>
      refine {
        waiting := fun payload member => Or.inl (List.mem_of_mem_eraseIdx member)
        tasks := fun task member => ?_ }
      rcases List.mem_cons.mp member with rfl | old
      · exact Or.inr ⟨provenance.waiting payload (List.mem_of_getElem? found), .started⟩
      · exact Or.inl old
  | act found => exact introduces_act provenance found grows
  | @process number now report db found _ _ =>
      refine {
        network := fun report member => Or.inl (List.mem_of_mem_eraseIdx member)
        reports := fun other member => ?_ }
      rcases List.mem_cons.mp member with rfl | old
      · exact Or.inr ((provenance.network _ (List.mem_of_getElem? found)).mono grows)
      · exact Or.inl old
  | lose =>
      exact { waiting := fun payload member => Or.inl (List.mem_of_mem_eraseIdx member) }
  | crash =>
      exact { tasks := fun task member => Or.inl (List.mem_of_mem_eraseIdx member) }
  | drop =>
      exact { network := fun report member => Or.inl (List.mem_of_mem_eraseIdx member) }

end

/-- Nothing is in flight at the start. -/
theorem provenance_initial (platform : Platform) (agents : Table Agent.agentId)
    (secrets : SecretStore)
    : Provenance platform (State.initial agents secrets) := by
  constructor <;> simp [State.initial]

/-- Everything is accounted for in every reachable state. -/
theorem run_provenance {platform : Platform} {agents : Table Agent.agentId}
    {secrets : SecretStore} {events : List Event} {last : State}
    (ran : run (System.step platform) (State.initial agents secrets) events = some last)
    : Provenance platform last :=
  run_invariant (fun provenance stepped => provenance.step stepped)
    (provenance_initial platform agents secrets) ran

end Turbocat.System
