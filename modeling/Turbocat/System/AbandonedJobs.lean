import Turbocat.System.TerminalStates

/-! A claimed job that nothing in flight belongs to is never taken up again: no poll selects
it, no task runs it and no report changes its row.
-/

namespace Turbocat.System

open Turbocat.Library Turbocat.Python Turbocat.Connectors Turbocat.Orchestrator Turbocat.Agent

/-- A job was claimed, and no open poll, payload, task or report of it is left. -/
structure Abandoned (state : State) (jobId : UUID) : Prop where
  claimed
    : ∃ row, state.db.jobRuns.get? jobId = some row ∧ row.status ≠ JobStatus.pending.value
  polls
    : ∀ poll ∈ state.polls.rows, jobId ∈ poll.jobIds →
        poll.phase = .failed ∨ ∃ jobIds, poll.phase = .responded jobIds
  waiting : ∀ payload ∈ state.waiting, payload.jobId ≠ jobId
  tasks : ∀ task ∈ state.tasks, task.payload.jobId = jobId → task.actions = []
  network : ∀ report ∈ state.network, report.jobId ≠ jobId

section

variable {platform : Platform} {state next : State} {event : Event} {jobId : UUID}

/-- Polls that have ended leave the job and its row to no one, by cases of the step. -/
theorem Abandoned.dispatch (abandoned : Abandoned state jobId)
    {moved : Dispatch.Event} {dispatch : Dispatch.State}
    (stepped : Dispatch.step state.dispatch moved = some dispatch)
    (silent : ∀ report now, moved ≠ .report report now)
    : dispatch.jobRuns.get? jobId = state.db.jobRuns.get? jobId
      ∧ ∀ poll ∈ dispatch.polls.rows, jobId ∈ poll.jobIds →
          poll.phase = .failed ∨ ∃ jobIds, poll.phase = .responded jobIds := by
  obtain ⟨row, found, notPending⟩ := abandoned.claimed
  have stored : state.dispatch.jobRuns.get? jobId = some row := found
  -- A poll that moves on is still open, so it does not hold the job.
  have advances {poll : Dispatch.Poll} {phase : Dispatch.PollPhase}
      (member : poll ∈ state.dispatch.polls.rows)
      (opened : poll.phase ≠ .failed ∧ ∀ jobIds, poll.phase ≠ .responded jobIds)
      : jobId ∉ poll.jobIds
        ∧ ∀ other ∈ (state.dispatch.setPhase poll.pollId phase).polls.rows,
            jobId ∈ other.jobIds →
              other.phase = .failed ∨ ∃ jobIds, other.phase = .responded jobIds := by
    have apart : jobId ∉ poll.jobIds := fun among => by
      rcases abandoned.polls poll member among with failed | ⟨jobIds, responded⟩
      · exact opened.1 failed
      · exact opened.2 jobIds responded
    refine ⟨apart, fun other among holds => ?_⟩
    obtain ⟨old, oldMember, rfl⟩ := Dispatch.mem_setPhase.mp among
    by_cases same : old.pollId = poll.pollId
    · obtain rfl := Table.eq_of_key oldMember member same
      simp only [if_true] at holds
      exact absurd holds apart
    · rw [if_neg same] at holds ⊢
      exact abandoned.polls old oldMember holds
  cases Dispatch.step_takes stepped with
  | @select pollId agentId jobIds polls selectable inserted =>
      refine ⟨rfl, fun poll member holds => ?_⟩
      rcases List.mem_append.mp ((Table.insert_eq_some_iff.mp inserted).2 ▸ member) with old | new
      · exact abandoned.polls poll old holds
      · rw [List.mem_singleton.mp new] at holds
        obtain ⟨⟨selected, foundSelected, pending⟩, _⟩ :=
          (Dispatch.selectable_iff.mp selectable).2 jobId holds
        cases stored.symm.trans foundSelected
        simp only [isPendingFor, decide_eq_true_eq] at pending
        exact absurd pending.2 notPending
  | @commit poll member phase =>
      obtain ⟨apart, polls⟩ := @advances poll .claimed member (by simp [phase])
      refine ⟨?_, polls⟩
      rw [get?_markDispatched, stored, Option.map_some, found]
      have own : row.jobId = jobId := Table.key_of_get? stored
      rw [if_neg (own ▸ apart)]
  | @reload poll jobIds member phase _ =>
      exact ⟨rfl, (@advances poll (.reloaded jobIds) member (by simp [phase])).2⟩
  | @respond poll jobIds member phase =>
      exact ⟨rfl, (@advances poll (.responded jobIds) member (by simp [phase])).2⟩
  | @fail poll member live unanswered =>
      exact ⟨rfl, (@advances poll .failed member ⟨live, unanswered⟩).2⟩
  | @enqueue newId pipelineId agentId jobRuns inserted =>
      refine ⟨?_, abandoned.polls⟩
      exact (Table.get?_insert_of_some inserted stored).trans found.symm
  | report _ _ => exact absurd rfl (silent _ _)

/-- A step of the polls and ticks leaves an abandoned job abandoned. -/
theorem Abandoned.dispatched (abandoned : Abandoned state jobId) {moved : Dispatch.Event}
    {dispatch : Dispatch.State}
    (stepped : Dispatch.step state.dispatch moved = some dispatch)
    (silent : ∀ report now, moved ≠ .report report now)
    : Abandoned (state.dispatched dispatch) jobId
      ∧ (state.dispatched dispatch).db.jobRuns.get? jobId = state.db.jobRuns.get? jobId := by
  obtain ⟨row, polls⟩ := abandoned.dispatch stepped silent
  refine ⟨⟨?_, polls, abandoned.waiting, abandoned.tasks, abandoned.network⟩, row⟩
  obtain ⟨stored, found, notPending⟩ := abandoned.claimed
  exact ⟨stored, row.trans found, notPending⟩

/-- A step that only takes from what is in flight leaves an abandoned job abandoned. -/
theorem Abandoned.mono (abandoned : Abandoned state jobId)
    (jobRuns : next.db.jobRuns = state.db.jobRuns) (polls : next.polls = state.polls)
    (waiting : next.waiting ⊆ state.waiting) (tasks : next.tasks ⊆ state.tasks)
    (network : next.network ⊆ state.network)
    : Abandoned next jobId ∧ next.db.jobRuns.get? jobId = state.db.jobRuns.get? jobId := by
  refine ⟨⟨jobRuns ▸ abandoned.claimed, polls ▸ abandoned.polls, ?_, ?_, ?_⟩, by rw [jobRuns]⟩
  · exact fun payload member => abandoned.waiting payload (waiting member)
  · exact fun task member => abandoned.tasks task (tasks member)
  · exact fun report member => abandoned.network report (network member)

/-- A poll that responds names jobs it holds, so none that is abandoned. -/
theorem Abandoned.respond {dispatch : Dispatch.State} {poll : Dispatch.Poll}
    (abandoned : Abandoned state jobId) (consistent : Dispatch.Consistent state.dispatch)
    (once : AnsweredOnce state) (member : poll ∈ state.polls.rows)
    (done : (state.builds poll.pollId).remaining = [])
    (moved : Dispatch.step state.dispatch (.respond poll.pollId) = some dispatch)
    : Abandoned ((state.dispatched dispatch).answered poll.pollId poll.agentId) jobId
      ∧ ((state.dispatched dispatch).answered poll.pollId poll.agentId).db.jobRuns.get? jobId
        = state.db.jobRuns.get? jobId := by
  obtain ⟨left, row⟩ := abandoned.dispatched moved (by simp)
  refine ⟨⟨left.claimed, left.polls, fun payload among => ?_, left.tasks, left.network⟩, row⟩
  obtain ⟨found, foundMember, jobIds, sameId, phase, _⟩ := respond_inversion moved
  cases Table.eq_of_key foundMember member sameId
  rcases List.mem_append.mp among with old | new
  · exact abandoned.waiting payload old
  · obtain ⟨entry, built, rfl⟩ := List.mem_map.mp new
    intro same
    have ids := once.building poll member jobIds phase
    rw [done, List.map_nil, List.append_nil] at ids
    have named : jobId ∈ jobIds := ids ▸ same ▸ List.mem_map_of_mem built
    have holds := (consistent.complete poll member jobIds (Or.inl phase)).subset named
    rcases abandoned.polls poll member holds with failed | ⟨_, responded⟩
    · rw [phase] at failed
      cases failed
    · rw [phase] at responded
      cases responded

/-- Every step leaves an abandoned job abandoned and its row as it is, by cases of the
step.
-/
theorem Abandoned.step (abandoned : Abandoned state jobId) (settled : Settled platform state)
    (stepped : System.step platform state event = some next)
    : Abandoned next jobId ∧ next.db.jobRuns.get? jobId = state.db.jobRuns.get? jobId := by
  have same {changed : State} (jobRuns : changed.db.jobRuns = state.db.jobRuns)
      (polls : changed.polls = state.polls) (waiting : changed.waiting = state.waiting)
      (tasks : changed.tasks = state.tasks) (network : changed.network = state.network)
      : Abandoned changed jobId
        ∧ changed.db.jobRuns.get? jobId = state.db.jobRuns.get? jobId :=
    abandoned.mono jobRuns polls (waiting ▸ List.Subset.refl _) (tasks ▸ List.Subset.refl _)
      (network ▸ List.Subset.refl _)
  cases step_takes stepped with
  | start _ => exact same rfl rfl rfl rfl rfl
  | stop => exact same rfl rfl rfl rfl rfl
  | @request process call scheduler up =>
      exact same (handle_grows platform call.env ⟨state.db, state.secrets, scheduler⟩
        call.accountId call.request).2 rfl rfl rfl rfl
  | tick _ _ moved => exact abandoned.dispatched moved (by simp)
  | @contend _ moved dispatch contending _ taken =>
      refine abandoned.dispatched taken fun report now same => ?_
      rw [same] at contending
      cases contending
  | reload moved =>
      obtain ⟨left, row⟩ := abandoned.dispatched moved (by simp)
      exact ⟨⟨left.claimed, left.polls, left.waiting, left.tasks, left.network⟩, row⟩
  | build _ _ _ _ _ => exact same rfl rfl rfl rfl rfl
  | respond member done moved =>
      exact abandoned.respond settled.consistent settled.once member done moved
  | @work number env payload found =>
      refine ⟨⟨abandoned.claimed, abandoned.polls, fun other member => ?_,
        fun task member own => ?_, abandoned.network⟩, rfl⟩
      · exact abandoned.waiting other (List.mem_of_mem_eraseIdx member)
      · rcases List.mem_cons.mp member with rfl | old
        · exact absurd own (abandoned.waiting payload (List.mem_of_getElem? found))
        · exact abandoned.tasks task old own
  | @act number payload action rest found =>
      have busy := List.mem_of_getElem? found
      have other : payload.jobId ≠ jobId := fun own => by
        cases abandoned.tasks _ busy own
      have tasks : ∀ task ∈ (⟨payload, rest⟩ : Task) :: state.tasks.eraseIdx number,
          task.payload.jobId = jobId → task.actions = [] := by
        intro task member own
        rcases List.mem_cons.mp member with rfl | old
        · exact absurd own other
        · exact abandoned.tasks task (List.mem_of_mem_eraseIdx old) own
      cases action with
      | report report =>
          refine ⟨⟨abandoned.claimed, abandoned.polls, abandoned.waiting, tasks,
            fun posted member => ?_⟩, rfl⟩
          rcases List.mem_cons.mp member with rfl | old
          · rw [(settled.provenance.tasks _ busy).2.origin.jobId]
            exact other
          · exact abandoned.network posted old
      | synced run =>
          exact ⟨⟨abandoned.claimed, abandoned.polls, abandoned.waiting, tasks,
            abandoned.network⟩, rfl⟩
  | @process number now report db found _ updated =>
      obtain ⟨row, _, _, rfl⟩ := updateJobStatus_some updated
      have other := abandoned.network report (List.mem_of_getElem? found)
      have kept : (reportJob state.db.jobRuns report.jobId report.body now).get? jobId
          = state.db.jobRuns.get? jobId := by
        rw [reportJob, Table.get?_modify, if_neg (Ne.symm other)]
      refine ⟨⟨?_, abandoned.polls, abandoned.waiting, abandoned.tasks,
        fun posted member => abandoned.network posted (List.mem_of_mem_eraseIdx member)⟩, kept⟩
      obtain ⟨stored, foundStored, notPending⟩ := abandoned.claimed
      exact ⟨stored, kept.trans foundStored, notPending⟩
  | lose =>
      exact abandoned.mono rfl rfl (fun _ member => List.mem_of_mem_eraseIdx member)
        (List.Subset.refl _) (List.Subset.refl _)
  | crash =>
      exact abandoned.mono rfl rfl (List.Subset.refl _)
        (fun _ member => List.mem_of_mem_eraseIdx member) (List.Subset.refl _)
  | drop =>
      exact abandoned.mono rfl rfl (List.Subset.refl _) (List.Subset.refl _)
        (fun _ member => List.mem_of_mem_eraseIdx member)

end

/-- From a reachable state on, whatever happens, an abandoned job keeps its row as it is: it
is not selected, run or reported on again.
-/
theorem abandoned_for_ever {platform : Platform} {agents : Table Agent.agentId}
    {secrets : SecretStore} {before after : List Event} {middle last : State} {jobId : UUID}
    (reached : run (step platform) (State.initial agents secrets) before = some middle)
    (abandoned : Abandoned middle jobId)
    (ran : run (step platform) middle after = some last)
    : Abandoned last jobId ∧ last.db.jobRuns.get? jobId = middle.db.jobRuns.get? jobId := by
  have all : Settled platform last
      ∧ Abandoned last jobId
      ∧ last.db.jobRuns.get? jobId = middle.db.jobRuns.get? jobId :=
    @run_invariant _ _ (System.step platform)
      (fun state => Settled platform state ∧ Abandoned state jobId
        ∧ state.db.jobRuns.get? jobId = middle.db.jobRuns.get? jobId)
      (fun holds stepped =>
        have left := holds.2.1.step holds.1 stepped
        ⟨holds.1.step stepped, left.1, left.2.trans holds.2.2⟩)
      middle _ _ ⟨run_settled reached, abandoned, rfl⟩ ran
  exact all.2

namespace Sample

/-- A job is answered, and its agent ends before it starts the job. -/
def lostJob : List Event :=
  [.start 0, save 2 11 "key", create 2 11 21, .tick 0 ⟨21⟩ ⟨31⟩] ++ poll 1 31 (time 10)
  ++ [.lose 0]

/-- The next tick of the same pipeline, and the poll that claims its job. -/
def nextJob : List Event := .tick 0 ⟨21⟩ ⟨32⟩ :: poll 2 32 (time 20)

end Sample

/-- The lost job stays dispatched through the next tick and poll of its pipeline. -/
theorem abandoned_for_ever_lost_job
    : ∃ middle last row,
        run (step Platform.written) (State.initial Sample.agents Sample.secrets)
            Sample.lostJob
          = some middle
        ∧ run (step Platform.written) middle Sample.nextJob = some last
        ∧ middle.db.jobRuns.get? ⟨31⟩ = some row
        ∧ row.status = JobStatus.dispatched.value
        ∧ last.db.jobRuns.get? ⟨31⟩ = middle.db.jobRuns.get? ⟨31⟩ := by
  refine ⟨_, _, _, rfl, rfl, rfl, rfl, ?_⟩
  refine (@abandoned_for_ever Platform.written Sample.agents Sample.secrets Sample.lostJob
    Sample.nextJob _ _ ⟨31⟩ rfl ?_ rfl).2
  refine ⟨⟨_, rfl, by decide⟩, fun poll member _ => ?_, fun _ member => (nomatch member),
    fun _ member => (nomatch member), fun _ member => (nomatch member)⟩
  cases List.mem_singleton.mp member
  exact Or.inr ⟨_, rfl⟩

end Turbocat.System
