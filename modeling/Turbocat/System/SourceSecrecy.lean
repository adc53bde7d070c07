import Turbocat.System.Delivery

/-! What the orchestrator learns of a source: of each job how it ended, how many rows it
loaded and the text of its error. Runs whose jobs end alike there end in the same
orchestrator state, whatever their sources, destinations and hosts hold.
-/

namespace Turbocat.System

open Turbocat.Library Turbocat.Python Turbocat.Connectors Turbocat.Orchestrator Turbocat.Agent

/-- What a job in an environment comes to, as far as its reports tell. -/
inductive Outcome where
  | unbuilt (error : String)
  -- Its sync waits for a reply for ever.
  | waiting
  | failed (loaded : Nat) (error : Option String)
  | succeeded (loaded : Nat)
  deriving DecidableEq, Repr

/-- The outcome of a job in an environment. -/
def outcome (repr : String → String) (env : JobEnv) (job : JobPayload) : Outcome :=
  match buildSource repr env job with
  | .error exception => .unbuilt exception.message
  | .ok source =>
      match syncJob env job source with
      | none => .waiting
      | some run =>
          match run.result.status with
          | .success => .succeeded run.result.recordsLoaded
          | .error => .failed run.result.recordsLoaded run.result.error

/-- The report an action posts; a sync that returns posts none. -/
def Action.posted : Action → Option Report
  | .report report => some report
  | .synced _ => none

/-- The cursor of a successful sync, which its job determines. -/
def JobPayload.nextState (job : JobPayload) : Dict :=
  Connectors.nextState job.endTime (if job.state.isEmpty then none else some job.state)

/-- The actions of a job as far as they post reports, which its outcome determines. -/
def Outcome.posts (job : JobPayload) : Outcome → List (Option Report)
  | .unbuilt error =>
      [some (runningReport job), some { jobId := job.jobId, status := .failed, error := error }]
  | .waiting => [some (runningReport job)]
  | .failed loaded error =>
      [some (runningReport job), none,
        some { jobId := job.jobId, status := .failed, rowsSynced := some loaded, error }]
  | .succeeded loaded =>
      [some (runningReport job), none,
        some {
          jobId := job.jobId
          status := .success
          rowsSynced := some loaded
          nextState := if (JobPayload.nextState job).isEmpty then none else some (JobPayload.nextState job) }]

/-- What a job posts is decided by its outcome, by cases of how far it comes. -/
theorem runJob_posts (repr : String → String) (env : JobEnv) (job : JobPayload)
    : (runJob repr env job).map Action.posted = (outcome repr env job).posts job := by
  unfold runJob outcome
  cases built : buildSource repr env job with
  | error exception => rfl
  | ok source =>
      dsimp only
      cases returned : syncJob env job source with
      | none => rfl
      | some run =>
          dsimp only
          cases status : run.result.status with
          | error => simp [Action.posted, resultReport, status, Outcome.posts]
          | success =>
              have next : run.result.nextState = JobPayload.nextState job :=
                (sync_success returned status).2.2
              simp [Action.posted, resultReport, status, Outcome.posts, next]

-----------------------------------------------------------------------------------------
-- States that look alike to the orchestrator
-----------------------------------------------------------------------------------------

/-- A task as far as it posts reports. -/
def Task.posted (task : Task) : JobPayload × List (Option Report) :=
  (task.payload, task.actions.map Action.posted)

/-- The state with other tasks and syncs. -/
def State.withAgents (state : State) (tasks : List Task) (syncs : List (JobPayload × SyncRun))
    : State :=
  { state with tasks, log := { state.log with syncs } }

/-- Two states differ only in what syncs have moved. -/
structure SameOutside (left right : State) : Prop where
  rest : ∃ tasks syncs, right = left.withAgents tasks syncs
  tasks : right.tasks.map Task.posted = left.tasks.map Task.posted
  syncs : right.log.syncs.map Prod.fst = left.log.syncs.map Prod.fst

/-- Two events are the same, but that a job may start in another environment with the same
outcome.
-/
inductive Alike (platform : Platform) (state : State) : Event × Event → Prop
  | same (event : Event) : Alike platform state (event, event)
  | work {number env other}
    (ends
      : ∀ payload, state.waiting[number]? = some payload →
          outcome platform.repr env payload = outcome platform.repr other payload)
    : Alike platform state (.work number env, .work number other)

section

variable {platform : Platform} {state next : State} {event : Event}

/-- Whether an event starts, advances or ends a task. -/
def Event.ofTask : Event → Bool
  | .work _ _ => true
  | .act _ => true
  | .crash _ => true
  | _ => false

/-- Polls, ticks and reports do not see tasks and syncs. -/
theorem dispatched_withAgents (state : State) (tasks : List Task)
    (syncs : List (JobPayload × SyncRun)) (moved : Dispatch.Event)
    : (Dispatch.step (state.withAgents tasks syncs).dispatch moved).map
          (state.withAgents tasks syncs).dispatched
      = ((Dispatch.step state.dispatch moved).map state.dispatched).map
          (fun next => next.withAgents tasks syncs) := by
  have same : (state.withAgents tasks syncs).dispatch = state.dispatch := rfl
  rw [same]
  cases Dispatch.step state.dispatch moved <;> rfl

/-- A step that is none of a task sees no task and no sync, by cases of the event. -/
theorem step_withAgents (platform : Platform) (state : State) (tasks : List Task)
    (syncs : List (JobPayload × SyncRun)) (other : event.ofTask = false)
    : step platform (state.withAgents tasks syncs) event
      = (step platform state event).map (fun next => next.withAgents tasks syncs) := by
  cases event with
  | start process =>
      simp only [step, State.withAgents]
      cases state.schedulers process <;> rfl
  | stop process => rfl
  | request process call =>
      simp only [step, State.withAgents]
      cases state.schedulers process <;> rfl
  | tick process pipelineId jobId =>
      simp only [step]
      have same : (state.withAgents tasks syncs).schedulers = state.schedulers := rfl
      rw [same]
      cases (state.schedulers process).bind (fun scheduler => scheduler.get? pipelineId) with
      | none => rfl
      | some job => exact dispatched_withAgents state tasks syncs _
  | select pollId agentId jobIds => exact dispatched_withAgents state tasks syncs _
  | commit pollId => exact dispatched_withAgents state tasks syncs _
  | reload pollId jobIds =>
      simp only [step, State.withAgents, State.dispatch]
      cases Dispatch.step ⟨state.db.jobRuns, state.polls⟩ (.reload pollId jobIds) <;> rfl
  | build pollId getFault now =>
      simp only [step, State.withAgents]
      split
      · split
        · rfl
        · exact dispatched_withAgents state tasks syncs _
      · rfl
  | respond pollId =>
      simp only [step, State.withAgents, State.dispatch]
      split
      · cases Dispatch.step ⟨state.db.jobRuns, state.polls⟩ (.respond pollId) <;> rfl
      · rfl
  | abort pollId => exact dispatched_withAgents state tasks syncs _
  | work number env => cases other
  | act number => cases other
  | process number now =>
      have network : (state.withAgents tasks syncs).network = state.network := rfl
      have dispatch : (state.withAgents tasks syncs).dispatch = state.dispatch := rfl
      have db : (state.withAgents tasks syncs).db = state.db := rfl
      simp only [step, network, dispatch, db]
      cases state.network[number]? with
      | none => rfl
      | some report =>
          dsimp only
          by_cases locked : state.dispatch.locked report.jobId = true
          · rw [if_pos locked, if_pos locked, Option.map_none]
          · rw [if_neg locked, if_neg locked]
            cases updateJobStatus state.db report.jobId report.body now <;> rfl
  | lose number => rfl
  | crash number => cases other
  | drop number => rfl

/-- Such a step leaves the tasks and the syncs. -/
theorem step_keepsAgents (other : event.ofTask = false)
    (stepped : step platform state event = some next)
    : next.tasks = state.tasks ∧ next.log.syncs = state.log.syncs := by
  cases step_takes stepped with
  | start _ => exact ⟨rfl, rfl⟩
  | stop => exact ⟨rfl, rfl⟩
  | request _ => exact ⟨rfl, rfl⟩
  | tick _ _ _ => exact ⟨rfl, rfl⟩
  | contend _ _ _ => exact ⟨rfl, rfl⟩
  | reload _ => exact ⟨rfl, rfl⟩
  | build _ _ _ _ _ => exact ⟨rfl, rfl⟩
  | respond _ _ _ => exact ⟨rfl, rfl⟩
  | work _ => cases other
  | act _ => cases other
  | process _ _ _ => exact ⟨rfl, rfl⟩
  | lose => exact ⟨rfl, rfl⟩
  | crash => cases other
  | drop => exact ⟨rfl, rfl⟩

end

section

variable {platform : Platform} {left right next : State}

/-- A task in its place looks alike on both sides. -/
theorem SameOutside.task (same : SameOutside left right) {number : Nat} {task : Task}
    (found : left.tasks[number]? = some task)
    : ∃ other, right.tasks[number]? = some other ∧ other.posted = task.posted := by
  have place := congrArg (fun tasks => tasks[number]?) same.tasks
  simp only [List.getElem?_map, found, Option.map_some] at place
  exact Option.map_eq_some_iff.mp place

/-- The tasks but one look alike when all do. -/
theorem SameOutside.eraseIdx (same : SameOutside left right) (number : Nat)
    : (right.tasks.eraseIdx number).map Task.posted
      = (left.tasks.eraseIdx number).map Task.posted := by
  rw [← List.eraseIdx_map, ← List.eraseIdx_map, same.tasks]

/-- A step of both sides that is none of a task. -/
theorem SameOutside.outside (same : SameOutside left right) {event : Event}
    (outside : event.ofTask = false) (stepped : step platform left event = some next)
    : ∃ other, step platform right event = some other ∧ SameOutside next other := by
  obtain ⟨tasks, syncs, rfl⟩ := same.rest
  obtain ⟨tasksKept, syncsKept⟩ := step_keepsAgents outside stepped
  refine ⟨next.withAgents tasks syncs, ?_, ⟨tasks, syncs, rfl⟩, ?_, ?_⟩
  · rw [step_withAgents platform left tasks syncs outside, stepped]
    rfl
  · rw [tasksKept]
    exact same.tasks
  · rw [syncsKept]
    exact same.syncs

/-- Both sides start a job, in environments with one outcome. -/
theorem SameOutside.work (same : SameOutside left right) {number : Nat} {env other : JobEnv}
    (ends
      : ∀ payload, left.waiting[number]? = some payload →
          outcome platform.repr env payload = outcome platform.repr other payload)
    (stepped : step platform left (.work number env) = some next)
    : ∃ matched,
        step platform right (.work number other) = some matched
        ∧ SameOutside next matched := by
  obtain ⟨payload, found, rfl⟩ := Option.map_eq_some_iff.mp stepped
  obtain ⟨tasks, syncs, rfl⟩ := same.rest
  have foundRight : (left.withAgents tasks syncs).waiting[number]? = some payload := found
  refine ⟨_, congrArg (Option.map _) foundRight, ⟨_, syncs, rfl⟩, ?_, same.syncs⟩
  have posts : (⟨payload, runJob platform.repr other payload⟩ : Task).posted
      = (⟨payload, runJob platform.repr env payload⟩ : Task).posted := by
    simp only [Task.posted, runJob_posts, ends payload found]
  rw [List.map_cons, List.map_cons, posts]
  exact congrArg _ same.tasks

/-- Both sides do the next action of a task: they post one report, or return from a sync. -/
theorem SameOutside.act (same : SameOutside left right) {number : Nat}
    (stepped : step platform left (.act number) = some next)
    : ∃ other, step platform right (.act number) = some other ∧ SameOutside next other := by
  simp only [step] at stepped
  split at stepped
  · next payload action rest found =>
      cases stepped
      obtain ⟨⟨payload', actions'⟩, foundRight, posted⟩ := same.task found
      obtain ⟨rfl, shape⟩ := Prod.mk.inj posted
      rw [List.map_cons] at shape
      obtain ⟨action', rest', rfl, first, later⟩ := List.map_eq_cons_iff.mp shape
      have after : (⟨payload', rest'⟩ : Task).posted = (⟨payload', rest⟩ : Task).posted :=
        congrArg (Prod.mk payload') later
      have others := same.eraseIdx number
      refine ⟨right.acted number payload' rest' action', by simp only [step, foundRight], ?_⟩
      obtain ⟨tasks, syncs, rfl⟩ := same.rest
      cases action with
      | report report =>
          cases action' with
          | report other =>
              cases first
              refine ⟨⟨_, syncs, rfl⟩, ?_, same.syncs⟩
              simp only [State.acted, List.map_cons, after]
              exact congrArg _ others
          | synced run => cases first
      | synced run =>
          cases action' with
          | report other => cases first
          | synced other =>
              refine ⟨⟨_, _, rfl⟩, ?_, ?_⟩
              · simp only [State.acted, List.map_cons, after]
                exact congrArg _ others
              · simp only [State.acted, List.map_cons]
                exact congrArg _ same.syncs
  · cases stepped

/-- Alike events take states that look alike to such states, by cases of the event. -/
theorem SameOutside.step (same : SameOutside left right) {events : Event × Event}
    (alike : Alike platform left events)
    (stepped : System.step platform left events.1 = some next)
    : ∃ other, System.step platform right events.2 = some other ∧ SameOutside next other := by
  cases alike with
  | work ends => exact same.work ends stepped
  | same event =>
      cases event with
      | work number env => exact same.work (fun _ _ => rfl) stepped
      | act number => exact same.act stepped
      | crash number =>
          cases stepped
          refine ⟨_, rfl, ?_⟩
          have others := same.eraseIdx number
          obtain ⟨tasks, syncs, rfl⟩ := same.rest
          exact ⟨⟨_, syncs, rfl⟩, others, same.syncs⟩
      | _ => exact same.outside rfl stepped

end

/-- What is not the agents': the database, the secrets, the schedulers, the polls and what
was answered, and the reports on their way and processed.
-/
structure SameOrchestrator (left right : State) : Prop where
  db : right.db = left.db
  secrets : right.secrets = left.secrets
  schedulers : right.schedulers = left.schedulers
  polls : right.polls = left.polls
  builds : right.builds = left.builds
  answers : right.log.answers = left.log.answers
  network : right.network = left.network
  reports : right.log.reports = left.log.reports

theorem SameOutside.orchestrator {left right : State} (same : SameOutside left right)
    : SameOrchestrator left right := by
  obtain ⟨tasks, syncs, rfl⟩ := same.rest
  exact ⟨rfl, rfl, rfl, rfl, rfl, rfl, rfl, rfl⟩

/-- A run whose jobs start in other environments, each with the same outcome for its job, is
possible exactly as the first one and ends with the same orchestrator: sources,
destinations and hosts show there only in whether a job succeeded, how many rows it loaded
and the text of its error.
-/
theorem outcomes_decide_orchestrator {platform : Platform} {agents : Table Agent.agentId}
    {secrets : SecretStore} {pairs : List (Event × Event)} {last : State}
    (alike
      : Along (fun state events => step platform state events.1) (Alike platform)
          (State.initial agents secrets) pairs)
    (ran : run (step platform) (State.initial agents secrets) (pairs.map Prod.fst) = some last)
    : ∃ other,
        run (step platform) (State.initial agents secrets) (pairs.map Prod.snd) = some other
        ∧ SameOrchestrator last other := by
  have start : SameOutside (State.initial agents secrets) (State.initial agents secrets) :=
    ⟨⟨_, _, rfl⟩, rfl, rfl⟩
  obtain ⟨other, ranOther, same⟩ :=
    run_lockstep (fun same alike stepped => same.step alike stepped) start alike ran
  exact ⟨other, ranOther, same.orchestrator⟩

namespace Sample

/-- The sync of the customer of the sample, paired with that of another customer on a host
with another clock.
-/
def otherCustomer : List (Event × Event) :=
  (firstDelivery.take 9).map (fun event => (event, event))
  ++ [(.work 0 { jobEnv with replies := [.ok customerReply] },
    .work 0 { jobEnv with
      now := time 40
      clock := fun _ => time 50
      replies := [.ok (.dict [("items", .list
        [.dict [("id", .str "cust_2"), ("contact", .str "2"), ("created_at", .int 7)]])])] })]
  ++ (firstDelivery.drop 10).map (fun event => (event, event))

end Sample

/-- The two customers of the samples make jobs with one outcome. -/
theorem otherCustomer_alike
    : Along (fun state events => step Platform.written state events.1)
        (Alike Platform.written) (State.initial Sample.agents Sample.secrets)
        Sample.otherCustomer := by
  iterate 9 refine Along.cons (.same _) rfl ?_
  refine Along.cons (.work ?_) rfl ?_
  · intro payload found
    cases found
    rfl
  · iterate 4 refine Along.cons (.same _) rfl ?_
    trivial

/-- The orchestrator cannot tell them apart. -/
theorem outcomes_decide_orchestrator_customers
    : ∃ last other,
        run (step Platform.written) (State.initial Sample.agents Sample.secrets)
            (Sample.otherCustomer.map Prod.fst)
          = some last
        ∧ run (step Platform.written) (State.initial Sample.agents Sample.secrets)
            (Sample.otherCustomer.map Prod.snd)
          = some other
        ∧ SameOrchestrator last other := by
  have ran : ∃ last, run (step Platform.written) (State.initial Sample.agents Sample.secrets)
      (Sample.otherCustomer.map Prod.fst) = some last := ⟨_, rfl⟩
  obtain ⟨last, ran⟩ := ran
  obtain ⟨other, ranOther, same⟩ := outcomes_decide_orchestrator otherCustomer_alike ran
  exact ⟨last, other, ran, ranOther, same⟩

end Turbocat.System
