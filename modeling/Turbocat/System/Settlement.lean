import Turbocat.System.AnsweredOnce

/-! Each job is settled at most once: its outcome is in one place only, in a payload not yet
started, in a task, in a report on its way or in a processed one, and it is the outcome of
the job's sync.
-/

namespace Turbocat.System

open Turbocat.Library Turbocat.Python Turbocat.Connectors Turbocat.Orchestrator Turbocat.Agent

/-- Whether a task can still report an outcome of a job. -/
def Task.mayEnd (jobId : UUID) (task : Task) : Bool :=
  decide (task.payload.jobId = jobId) && !task.actions.isEmpty

/-- Whether a report tells how a job ended. -/
def endsJob (jobId : UUID) (report : Report) : Bool :=
  decide (report.jobId = jobId) && report.terminal

/-- How many outcomes a job has had or may still get. -/
def State.outcomes (state : State) (jobId : UUID) : Nat :=
  state.waiting.countP (fun payload => decide (payload.jobId = jobId))
  + state.tasks.countP (Task.mayEnd jobId)
  + state.network.countP (endsJob jobId)
  + state.log.reports.countP (endsJob jobId)

/-- How often a job was answered. -/
def State.answers (state : State) (jobId : UUID) : Nat :=
  state.log.answers.countP (fun answer => decide (answer.jobId = jobId))

theorem countP_eraseIdx {α : Type} {items : List α} {number : Nat} {item : α} (p : α → Bool)
    (found : items[number]? = some item)
    : items.countP p = (items.eraseIdx number).countP p + if p item then 1 else 0 := by
  obtain ⟨inside, rfl⟩ := List.getElem?_eq_some_iff.mp found
  have moved := (List.getElem_cons_eraseIdx_perm inside).countP_eq p
  rw [← moved, List.countP_cons]

theorem countP_eraseIdx_le {α : Type} (items : List α) (number : Nat) (p : α → Bool)
    : (items.eraseIdx number).countP p ≤ items.countP p :=
  (List.eraseIdx_sublist items number).countP_le

/-- A job that is answered once has at most one outcome. -/
theorem AnsweredOnce.answers_le {state : State} (once : AnsweredOnce state) (jobId : UUID)
    : state.answers jobId ≤ 1 := by
  have distinct := List.nodup_iff_count_le_one.mp once.once jobId
  rw [List.count, List.countP_map] at distinct
  refine le_trans (le_of_eq (List.countP_congr fun answer _ => ?_)) distinct
  simp

/-- The next action of a task leaves at most one chance to end its job in its place. -/
theorem Progress.act_outcomes {platform : Platform} {log : Log} {job : JobPayload}
    {report : Report} {rest : List Action}
    (progress : Progress platform log job (.report report :: rest))
    : report.jobId = job.jobId ∧ (report.terminal = true → rest = []) := by
  refine ⟨progress.origin.jobId, fun terminal => ?_⟩
  generalize actions : Action.report report :: rest = all at progress
  cases progress with
  | started =>
      unfold runJob at actions
      cases actions
      cases terminal
  | unhandled =>
      cases actions
      rfl
  | synced built returned => cases actions
  | reporting logged =>
      cases actions
      rfl
  | done => cases actions

/-- After its sync a job has only the report of the sync left. -/
theorem Progress.after_sync {platform : Platform} {log : Log} {job : JobPayload}
    {run : SyncRun} {rest : List Action}
    (progress : Progress platform log job (.synced run :: rest))
    : rest = [.report (resultReport job run.result)] := by
  generalize actions : Action.synced run :: rest = all at progress
  cases progress with
  | started =>
      unfold runJob at actions
      cases actions
  | unhandled => cases actions
  | synced built returned =>
      cases actions
      rfl
  | reporting logged => cases actions
  | done => cases actions

/-- A response adds as many chances to end a job as answers for it. -/
theorem outcomes_respond (state : State) (dispatch : Dispatch.State) (poll : Dispatch.Poll)
    (jobId : UUID) (bounded : state.outcomes jobId ≤ state.answers jobId)
    : let next := (state.dispatched dispatch).answered poll.pollId poll.agentId
      next.outcomes jobId ≤ next.answers jobId := by
  have same : ((state.builds poll.pollId).built.map (fun entry => entry.payload)).countP
        (fun payload => decide (payload.jobId = jobId))
      = ((state.builds poll.pollId).built.map
          (fun entry => (⟨poll.agentId, entry⟩ : Answer))).countP
        (fun answer => decide (answer.jobId = jobId)) := by
    rw [List.countP_map, List.countP_map]
    rfl
  simp only [State.outcomes, State.answers, State.answered, State.dispatched,
    List.countP_append] at bounded same ⊢
  omega

/-- An action passes its task's chance to end a job on at most once. -/
theorem outcomes_act {platform : Platform} {state : State} {number : Nat}
    {payload : JobPayload} {action : Action} {rest : List Action}
    (found : state.tasks[number]? = some ⟨payload, action :: rest⟩)
    (progress : Progress platform state.log payload (action :: rest)) (jobId : UUID)
    : (state.acted number payload rest action).outcomes jobId ≤ state.outcomes jobId := by
  have moved := countP_eraseIdx (Task.mayEnd jobId) found
  cases action with
  | report report =>
      obtain ⟨own, last⟩ := progress.act_outcomes
      simp only [State.outcomes, State.acted, List.countP_cons] at moved ⊢
      have atMost : (if Task.mayEnd jobId ⟨payload, rest⟩ = true then 1 else 0)
            + (if endsJob jobId report = true then 1 else 0)
          ≤ if Task.mayEnd jobId ⟨payload, .report report :: rest⟩ = true then 1 else 0 := by
        cases terminal : report.terminal with
        | true => simp [Task.mayEnd, endsJob, own, last terminal, terminal]
        | false =>
            by_cases same : payload.jobId = jobId <;> cases rest <;>
              simp [Task.mayEnd, endsJob, terminal, same]
      omega
  | synced run =>
      simp only [State.outcomes, State.acted, List.countP_cons] at moved ⊢
      have atMost : (if Task.mayEnd jobId ⟨payload, rest⟩ = true then 1 else 0)
          ≤ if Task.mayEnd jobId ⟨payload, .synced run :: rest⟩ = true then 1 else 0 := by
        by_cases same : payload.jobId = jobId <;> cases rest <;> simp [Task.mayEnd, same]
      omega

/-- Outcomes of a job are answered payloads that were passed on, by cases of the step. -/
theorem step_outcomes {platform : Platform} {state next : State} {event : Event}
    (provenance : Provenance platform state)
    (stepped : step platform state event = some next) (jobId : UUID)
    (bounded : state.outcomes jobId ≤ state.answers jobId)
    : next.outcomes jobId ≤ next.answers jobId := by
  cases step_takes stepped with
  | start _ => exact bounded
  | stop => exact bounded
  | request _ => exact bounded
  | tick _ _ _ => exact bounded
  | contend _ _ _ => exact bounded
  | reload _ => exact bounded
  | build _ _ _ _ _ => exact bounded
  | @respond dispatch poll _ _ _ => exact outcomes_respond state dispatch poll jobId bounded
  | @work number env payload found =>
      have moved := countP_eraseIdx (fun payload => decide (payload.jobId = jobId)) found
      simp only [State.outcomes, State.answers, List.countP_cons] at bounded moved ⊢
      have atMost : (if Task.mayEnd jobId ⟨payload, runJob platform.repr env payload⟩ = true
            then 1 else 0)
          ≤ if decide (payload.jobId = jobId) = true then 1 else 0 := by
        simp [Task.mayEnd, runJob]
      omega
  | @act number payload action rest found =>
      have progress := (provenance.tasks _ (List.mem_of_getElem? found)).2
      have fewer := outcomes_act found progress jobId
      have same : (state.acted number payload rest action).answers jobId
          = state.answers jobId := by
        cases action <;> rfl
      omega
  | @process number now report db found unlocked updated =>
      have moved := countP_eraseIdx (endsJob jobId) found
      simp only [State.outcomes, State.answers, List.countP_cons] at bounded moved ⊢
      omega
  | @lose number =>
      have fewer := countP_eraseIdx_le state.waiting number
        (fun payload => decide (payload.jobId = jobId))
      simp only [State.outcomes, State.answers] at bounded fewer ⊢
      omega
  | @crash number =>
      have fewer := countP_eraseIdx_le state.tasks number (Task.mayEnd jobId)
      simp only [State.outcomes, State.answers] at bounded fewer ⊢
      omega
  | @drop event number =>
      have fewer := countP_eraseIdx_le state.network number (endsJob jobId)
      simp only [State.outcomes, State.answers] at bounded fewer ⊢
      omega

-----------------------------------------------------------------------------------------
-- The outcome is the sync's
-----------------------------------------------------------------------------------------

/-- Once a job's sync has returned, everything that can still settle the job, or has, is the
report of that sync.
-/
structure Agrees (state : State) (job : JobPayload) (run : SyncRun) : Prop where
  waiting : ∀ payload ∈ state.waiting, payload.jobId ≠ job.jobId
  tasks
    : ∀ task ∈ state.tasks, task.payload.jobId = job.jobId →
        task.actions = [] ∨ task.actions = [.report (resultReport job run.result)]
  network
    : ∀ report ∈ state.network, endsJob job.jobId report = true →
        report = resultReport job run.result
  reports
    : ∀ report ∈ state.log.reports, endsJob job.jobId report = true →
        report = resultReport job run.result

/-- Outcomes only move or disappear, so what agreed goes on to. -/
theorem Agrees.mono {state next : State} {job : JobPayload} {run : SyncRun}
    (agrees : Agrees state job run)
    (waiting
      : ∀ payload ∈ next.waiting, payload ∈ state.waiting ∨ payload.jobId ≠ job.jobId)
    (tasks : next.tasks ⊆ state.tasks) (network : next.network ⊆ state.network)
    (reports : next.log.reports = state.log.reports)
    : Agrees next job run where
  waiting := fun payload member =>
    (waiting payload member).elim (fun old => agrees.waiting payload old) id
  tasks := fun task member => agrees.tasks task (tasks member)
  network := fun report member => agrees.network report (network member)
  reports := fun report member => agrees.reports report (reports ▸ member)

/-- A sync that has just returned is the only one left to settle its job. -/
theorem agrees_of_returned {platform : Platform} {state : State} {number : Nat}
    {payload : JobPayload} {run : SyncRun} {rest : List Action}
    (found : state.tasks[number]? = some ⟨payload, .synced run :: rest⟩)
    (progress : Progress platform state.log payload (.synced run :: rest))
    (single : state.outcomes payload.jobId ≤ 1)
    : Agrees (state.acted number payload rest (.synced run)) payload run := by
  have moved := countP_eraseIdx (Task.mayEnd payload.jobId) found
  have counted : Task.mayEnd payload.jobId ⟨payload, .synced run :: rest⟩ = true := by
    simp [Task.mayEnd]
  rw [if_pos counted] at moved
  unfold State.outcomes at single
  have noWaiting : state.waiting.countP
      (fun other => decide (other.jobId = payload.jobId)) = 0 := by omega
  have noTask : (state.tasks.eraseIdx number).countP (Task.mayEnd payload.jobId) = 0 := by omega
  have noNetwork : state.network.countP (endsJob payload.jobId) = 0 := by omega
  have noReport : state.log.reports.countP (endsJob payload.jobId) = 0 := by omega
  constructor
  · intro other member
    simpa using List.countP_eq_zero.mp noWaiting other member
  · intro task member same
    rcases List.mem_cons.mp member with rfl | other
    · exact Or.inr progress.after_sync
    · have ended := List.countP_eq_zero.mp noTask task other
      simp only [Task.mayEnd, same, decide_true, Bool.true_and, Bool.not_eq_true',
        Bool.not_eq_false] at ended
      exact Or.inl (List.isEmpty_iff.mp ended)
  · exact fun report member ends => absurd ends (List.countP_eq_zero.mp noNetwork report member)
  · exact fun report member ends => absurd ends (List.countP_eq_zero.mp noReport report member)

/-- A job that is answered now was not answered before, so it has no sync yet. -/
theorem Agrees.respond {platform : Platform} {state : State} {dispatch : Dispatch.State}
    {poll : Dispatch.Poll} {job : JobPayload} {run : SyncRun} (agrees : Agrees state job run)
    (logged : (job, run) ∈ state.log.syncs) (provenance : Provenance platform state)
    (once : AnsweredOnce state) (consistent : Dispatch.Consistent state.dispatch)
    (member : poll ∈ state.polls.rows) (done : (state.builds poll.pollId).remaining = [])
    (moved : Dispatch.step state.dispatch (.respond poll.pollId) = some dispatch)
    : Agrees ((state.dispatched dispatch).answered poll.pollId poll.agentId) job run := by
  obtain ⟨found, foundMember, jobIds, sameId, phase, _⟩ := respond_inversion moved
  cases Table.eq_of_key foundMember member sameId
  have ids := once.building poll member jobIds phase
  rw [done, List.map_nil, List.append_nil] at ids
  refine agrees.mono (fun payload among => ?_) (List.Subset.refl _) (List.Subset.refl _) rfl
  rcases List.mem_append.mp among with old | new
  · exact Or.inl old
  · obtain ⟨entry, built, rfl⟩ := List.mem_map.mp new
    refine Or.inr fun sameJob => ?_
    obtain ⟨answer, answered, own⟩ := (provenance.syncs _ logged).1
    have fresh := (once.unanswered consistent member phase).2 entry.payload.jobId
      (ids ▸ List.mem_map_of_mem built)
    exact fresh (List.mem_map.mpr ⟨answer, answered,
      (congrArg JobPayload.jobId own).trans sameJob.symm⟩)

/-- After its sync a task of the job can only post the report of the sync. -/
theorem Agrees.act {platform : Platform} {state : State} {number : Nat}
    {payload : JobPayload} {action : Action} {rest : List Action} {job : JobPayload}
    {run : SyncRun} (agrees : Agrees state job run)
    (found : state.tasks[number]? = some ⟨payload, action :: rest⟩)
    (progress : Progress platform state.log payload (action :: rest))
    : Agrees (state.acted number payload rest action) job run := by
  have later := agrees.tasks _ (List.mem_of_getElem? found)
  cases action with
  | report report =>
      refine { agrees with
        tasks := fun task member own => ?_
        network := fun other member ends => ?_ }
      · rcases List.mem_cons.mp member with rfl | old
        · rcases later own with none_ | only
          · cases none_
          · exact Or.inl (List.cons.inj only).2
        · exact agrees.tasks task (List.mem_of_mem_eraseIdx old) own
      · rcases List.mem_cons.mp member with rfl | old
        · simp only [endsJob, Bool.and_eq_true, decide_eq_true_eq] at ends
          rcases later (progress.origin.jobId.symm.trans ends.1) with none_ | only
          · cases none_
          · exact Action.report.inj (List.cons.inj only).1
        · exact agrees.network other old ends
  | synced synced =>
      refine { agrees with tasks := fun task member own => ?_ }
      rcases List.mem_cons.mp member with rfl | old
      · rcases later own with none_ | only
        · cases none_
        · cases only
      · exact agrees.tasks task (List.mem_of_mem_eraseIdx old) own

/-- Every step keeps what settles a job in agreement with its sync, by cases of the step. -/
theorem Agrees.step {platform : Platform} {state next : State} {event : Event}
    {job : JobPayload} {run : SyncRun} (agrees : Agrees state job run)
    (logged : (job, run) ∈ state.log.syncs) (provenance : Provenance platform state)
    (once : AnsweredOnce state) (consistent : Dispatch.Consistent state.dispatch)
    (stepped : System.step platform state event = some next)
    : Agrees next job run := by
  have same {changed : State} (waiting : changed.waiting = state.waiting)
      (tasks : changed.tasks = state.tasks) (network : changed.network = state.network)
      (reports : changed.log.reports = state.log.reports)
      : Agrees changed job run :=
    agrees.mono (fun payload member => Or.inl (waiting ▸ member))
      (tasks ▸ List.Subset.refl _) (network ▸ List.Subset.refl _) reports
  cases step_takes stepped with
  | start _ => exact same rfl rfl rfl rfl
  | stop => exact same rfl rfl rfl rfl
  | request _ => exact same rfl rfl rfl rfl
  | tick _ _ _ => exact same rfl rfl rfl rfl
  | contend _ _ _ => exact same rfl rfl rfl rfl
  | reload _ => exact same rfl rfl rfl rfl
  | build _ _ _ _ _ => exact same rfl rfl rfl rfl
  | @respond dispatch poll member done moved =>
      exact agrees.respond logged provenance once consistent member done moved
  | @work number env payload found =>
      refine { agrees with
        waiting := fun other member => agrees.waiting other (List.mem_of_mem_eraseIdx member)
        tasks := fun task member own => ?_ }
      rcases List.mem_cons.mp member with rfl | old
      · exact absurd own (agrees.waiting payload (List.mem_of_getElem? found))
      · exact agrees.tasks task old own
  | @act number payload action rest found =>
      exact agrees.act found (provenance.tasks _ (List.mem_of_getElem? found)).2
  | @process number now report db found unlocked updated =>
      refine { agrees with
        network := fun other member => agrees.network other (List.mem_of_mem_eraseIdx member)
        reports := fun other member ends => ?_ }
      rcases List.mem_cons.mp member with rfl | old
      · exact agrees.network _ (List.mem_of_getElem? found) ends
      · exact agrees.reports other old ends
  | lose =>
      exact agrees.mono (fun payload member => Or.inl (List.mem_of_mem_eraseIdx member))
        (List.Subset.refl _) (List.Subset.refl _) rfl
  | crash =>
      exact agrees.mono (fun _ member => Or.inl member)
        (fun _ member => List.mem_of_mem_eraseIdx member) (List.Subset.refl _) rfl
  | drop =>
      exact agrees.mono (fun _ member => Or.inl member) (List.Subset.refl _)
        (fun _ member => List.mem_of_mem_eraseIdx member) rfl

/-- What holds of answers, outcomes and syncs in every reachable state. -/
structure Settled (platform : Platform) (state : State) : Prop where
  consistent : Dispatch.Consistent state.dispatch
  provenance : Provenance platform state
  once : AnsweredOnce state
  bounded : ∀ jobId, state.outcomes jobId ≤ state.answers jobId
  agrees : ∀ job run, (job, run) ∈ state.log.syncs → Agrees state job run

/-- A job has at most one outcome. -/
theorem Settled.outcomes_le {platform : Platform} {state : State}
    (settled : Settled platform state) (jobId : UUID)
    : state.outcomes jobId ≤ 1 :=
  (settled.bounded jobId).trans (settled.once.answers_le jobId)

/-- A sync that is new in the log belongs to the task that acted. -/
theorem step_syncs {platform : Platform} {state next : State} {event : Event}
    (stepped : step platform state event = some next) {entry : JobPayload × SyncRun}
    (member : entry ∈ next.log.syncs)
    : entry ∈ state.log.syncs
      ∨ ∃ number rest,
          state.tasks[number]? = some ⟨entry.1, .synced entry.2 :: rest⟩
          ∧ next = state.acted number entry.1 rest (.synced entry.2) := by
  cases step_takes stepped with
  | @act number payload action rest found =>
      cases action with
      | report report => exact Or.inl member
      | synced run =>
          rcases List.mem_cons.mp member with rfl | old
          · exact Or.inr ⟨number, rest, found, rfl⟩
          · exact Or.inl old
  | start _ => exact Or.inl member
  | stop => exact Or.inl member
  | request _ => exact Or.inl member
  | tick _ _ _ => exact Or.inl member
  | contend _ _ _ => exact Or.inl member
  | reload _ => exact Or.inl member
  | build _ _ _ _ _ => exact Or.inl member
  | respond _ _ _ => exact Or.inl member
  | work _ => exact Or.inl member
  | process _ _ _ => exact Or.inl member
  | lose => exact Or.inl member
  | crash => exact Or.inl member
  | drop => exact Or.inl member

theorem Settled.step {platform : Platform} {state next : State} {event : Event}
    (settled : Settled platform state)
    (stepped : System.step platform state event = some next)
    : Settled platform next where
  consistent := step_consistent settled.consistent stepped
  provenance := settled.provenance.step stepped
  once := settled.once.step settled.consistent stepped
  bounded := fun jobId => step_outcomes settled.provenance stepped jobId (settled.bounded jobId)
  agrees := fun job run logged => by
    rcases step_syncs stepped logged with old | ⟨number, rest, found, rfl⟩
    · exact (settled.agrees job run old).step old settled.provenance settled.once
        settled.consistent stepped
    · exact agrees_of_returned found
        (settled.provenance.tasks _ (List.mem_of_getElem? found)).2
        (settled.outcomes_le job.jobId)

theorem settled_initial (platform : Platform) (agents : Table Agent.agentId)
    (secrets : SecretStore)
    : Settled platform (State.initial agents secrets) where
  consistent := Dispatch.consistent_initial .empty
  provenance := provenance_initial platform agents secrets
  once := answeredOnce_initial agents secrets
  bounded := fun _ => Nat.le_refl 0
  agrees := fun _ _ member => nomatch member

/-- Every reachable state is settled. -/
theorem run_settled {platform : Platform} {agents : Table Agent.agentId}
    {secrets : SecretStore} {events : List Event} {last : State}
    (ran : run (System.step platform) (State.initial agents secrets) events = some last)
    : Settled platform last :=
  run_invariant (fun settled stepped => settled.step stepped)
    (settled_initial platform agents secrets) ran

end Turbocat.System
