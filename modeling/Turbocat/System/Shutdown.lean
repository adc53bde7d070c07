import Turbocat.System.Polling

/-! What a shutdown does to claimed jobs: `drain` waits for the tasks of jobs that reached the
poll loop, and nothing waits for a request that is in flight when the loops are cancelled.
-/

namespace Turbocat.System.Polling

open Turbocat.Library Turbocat.Python Turbocat.Orchestrator Turbocat.Agent

variable {repr : String → String} {maxWorkers : Nat} {agentId : UUID}

/-- Whether an event ends the wait for a response without one. -/
def Event.endsWait : Event → Bool
  | .failed => true
  | .agent .cancel => true
  | _ => false

/-- Jobs are claimed for the agent only while its poll loop awaits the answer, and neither a
cancellation nor an error ends that wait once they are claimed.
-/
def Delivers (state : State) (event : Event) : Prop :=
  (∀ pollId ∈ event.commit?,
      pollId ∈ state.requests → state.awaits pollId ∧ state.agent.isAsking = true)
  ∧ (event.endsWait = true → state.inFlight = [])

instance decidableDelivers (state : State) (event : Event)
    : Decidable (Delivers state event) :=
  inferInstanceAs (Decidable ((∀ pollId ∈ event.commit?, _) ∧ (_ → _)))

/-- Whether the poll loop has received a job. -/
def State.Received (state : State) (jobId : UUID) : Prop :=
  jobId ∈ state.agent.received.map JobPayload.jobId

/-- Every claimed job was received, or is on its way to a poll loop that awaits it. -/
def Undropped (state : State) : Prop :=
  ∀ claim ∈ state.claims,
    state.Received claim.jobId
    ∨ state.awaits claim.pollId
      ∧ ∀ jobs, state.agent.thread = .ended jobs →
          claim.jobId ∈ (jobs.getD []).map JobPayload.jobId

/-- Without jobs in flight every claimed job was received. -/
theorem Undropped.settled {state : State} (undropped : Undropped state)
    (nothing : state.inFlight = [])
    : ∀ claim ∈ state.claims, state.Received claim.jobId := by
  intro claim member
  rcases undropped claim member with received | ⟨awaits, _⟩
  · exact received
  · have among : claim.jobId ∈ state.inFlight :=
      List.mem_map_of_mem (List.mem_filter.mpr ⟨member, decide_eq_true awaits⟩)
    rw [nothing] at among
    cases among

/-- A step under the condition drops no claimed job, by cases of the step. -/
theorem Undropped.step {state next : State} {event : Event} (undropped : Undropped state)
    (linked : Linked state) (delivers : Delivers state event)
    (stepped : step repr maxWorkers agentId state event = some next)
    : Undropped next := by
  intro claim member
  cases step_moves stepped with
  | @orchestrator event orchestrator moved =>
      rcases List.mem_append.mp member with new | old
      · cases event with
        | commit pollId =>
            rw [State.newClaims] at new
            split at new
            · next own =>
                obtain ⟨jobId, _, rfl⟩ := List.mem_map.mp new
                obtain ⟨awaits, asking⟩ := delivers.1 pollId rfl own
                refine Or.inr ⟨awaits, fun jobs ended => ?_⟩
                have asks : state.agent.thread = .ended jobs := ended
                rw [Process.State.isAsking, asks] at asking
                cases asking
            · cases new
        | _ => cases new
      · exact undropped claim old
  | sleep => exact undropped claim member
  | @ask pollId ready fresh unknown =>
      rcases undropped claim member with received | ⟨awaits, _⟩
      · exact Or.inl received
      · exact absurd awaits.1 (by simp [ready])
  | @answered jobs poll asking stored latest responded =>
      rcases undropped claim member with received | ⟨awaits, _⟩
      · exact Or.inl received
      · refine Or.inr ⟨awaits, fun others ended => ?_⟩
        cases ended
        have named := linked.answer stored (List.mem_of_head? latest) responded
        have own : claim.pollId = poll.pollId :=
          Option.some.inj (awaits.2.symm.trans latest)
        exact named.symm.subset (List.mem_map_of_mem
          (List.mem_filter.mpr ⟨member, decide_eq_true own⟩))
  | failed asking => exact Or.inl (undropped.settled (delivers.2 rfl) claim member)
  | @resume jobs agent awaiting ended loop thread received unfinished =>
      refine Or.inl ?_
      show claim.jobId ∈ agent.received.map JobPayload.jobId
      rw [received, List.map_append]
      rcases undropped claim member with earlier | ⟨_, named⟩
      · exact List.mem_append_left _ earlier
      · exact List.mem_append_right _ (named jobs ended)
  | cancel => exact Or.inl (undropped.settled (delivers.2 rfl) claim member)
  | @quiet event agent loop thread received fewer =>
      rcases undropped claim member with earlier | ⟨awaits, named⟩
      · refine Or.inl ?_
        show claim.jobId ∈ agent.received.map JobPayload.jobId
        rw [received]
        exact earlier
      · refine Or.inr ⟨⟨loop.trans awaits.1, awaits.2⟩, fun jobs ended => ?_⟩
        exact named jobs (thread ▸ ended)

/-- In every run under the condition no claimed job is dropped. -/
theorem run_undropped {jobRuns : Table JobRun.jobId} {events : List Event} {last : State}
    (delivers
      : Along (step repr maxWorkers agentId) Delivers (.initial maxWorkers jobRuns) events)
    (ran
      : run (step repr maxWorkers agentId) (.initial maxWorkers jobRuns) events = some last)
    : Linked last ∧ Undropped last :=
  @Along.invariant _ _ _ _ (fun state => Linked state ∧ Undropped state)
    (fun both met stepped => ⟨both.1.step stepped, both.2.step both.1 met stepped⟩) _ _ _
    ⟨linked_initial jobRuns, fun _ member => (nomatch member)⟩ delivers ran

/-- In every run under the condition, when the process has exited, every job that was made
DISPATCHED for one of its polls has been run, and its terminal report has been attempted.
-/
theorem no_claimed_job_abandoned {jobRuns : Table JobRun.jobId} {events : List Event}
    {last : State}
    (delivers
      : Along (step repr maxWorkers agentId) Delivers (.initial maxWorkers jobRuns) events)
    (ran
      : run (step repr maxWorkers agentId) (.initial maxWorkers jobRuns) events = some last)
    (exited : last.agent.main = .exited)
    : ∀ claim ∈ last.claims,
        (∃ job ∈ last.agent.called, job.jobId = claim.jobId)
        ∧ ∃ report ∈ last.agent.attempted,
            report.jobId = claim.jobId ∧ report.terminal = true := by
  obtain ⟨_, undropped⟩ := run_undropped delivers ran
  obtain ⟨matching, process⟩ := run_agent ran
  have accounts := Process.run_accounts process
  have tracked := Process.run_tracked process
  have cancelled : last.agent.loop = .cancelled :=
    tracked.stopped (by simp [exited]) (by simp [exited])
  have nothing : last.inFlight = [] :=
    inFlight_of_not (fun _ awaits => by simp [State.awaits, cancelled] at awaits)
  obtain ⟨called, returned⟩ :=
    accounts.completed (tracked.drained (by rw [exited]; rfl))
  intro claim member
  obtain ⟨job, received, same⟩ := List.mem_map.mp (undropped.settled nothing claim member)
  obtain ⟨report, attempted, own, terminal⟩ :=
    accounts.reported job (returned.symm.subset received)
  exact ⟨⟨job, called.symm.subset received, same⟩, report, attempted, own.trans same,
    terminal⟩

/-- The signal comes while a claimed job executes and no request is under way. -/
def Sample.drained : List Event :=
  Sample.polls 1 [31]
  ++ [.agent .signal, .agent .cancel, .agent .drain]
  ++ (Process.Sample.works 0).map .agent
  ++ [.agent .drainReturns, .agent .exit]

theorem no_claimed_job_abandoned_drained
    : ∃ last,
        run (step id 1 ⟨1⟩) (.initial 1 Sample.oneJob) Sample.drained = some last
        ∧ last.claims = [⟨1, ⟨31⟩⟩]
        ∧ ∀ claim ∈ last.claims,
            (∃ job ∈ last.agent.called, job.jobId = claim.jobId)
            ∧ ∃ report ∈ last.agent.attempted,
                report.jobId = claim.jobId ∧ report.terminal = true :=
  ⟨_, rfl, rfl,
    @no_claimed_job_abandoned id 1 ⟨1⟩ Sample.oneJob Sample.drained _ (by decide) rfl rfl⟩

/-- The signal comes while a request is in flight, and the loops are cancelled before the
orchestrator processes it.
-/
def Sample.cancelledPoll : List Event :=
  [.turn 1, .agent .signal, .agent .cancel]
  ++ Sample.serves 1 [31]
  ++ [.answered [Process.Sample.job 31], .agent .drain, .agent .exit]

/-- The job is DISPATCHED and the process exits without having run it. -/
theorem claimed_job_abandoned
    : ∃ last,
        run (step id 1 ⟨1⟩) (.initial 1 Sample.oneJob) Sample.cancelledPoll = some last
        ∧ last.agent.main = .exited
        ∧ last.claims = [⟨1, ⟨31⟩⟩]
        ∧ (last.orchestrator.jobRuns.get? ⟨31⟩).map JobRun.status
          = some JobStatus.dispatched.value
        ∧ last.agent.called = []
        ∧ last.agent.attempted = [] :=
  ⟨_, rfl, rfl, rfl, rfl, rfl, rfl⟩

end Turbocat.System.Polling
