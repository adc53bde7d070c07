import Turbocat.Orchestrator.Jobs

/-! Concurrent polls as a state machine: each is a locking select, a claim that is
committed, a reload and a response, and other requests run between these steps. A locking
select returns only committed rows that match and that no other open transaction holds.
-/

namespace Turbocat.Orchestrator.Dispatch

open Turbocat.Library Turbocat.Python

/-- How far a poll has come. -/
inductive PollPhase where
  -- Its transaction is open and holds the selected rows.
  | selected
  | claimed
  | reloaded (jobIds : List UUID)
  | responded (jobIds : List UUID)
  -- It ended without a response.
  | failed
  deriving DecidableEq, Repr

/-- A poll, with the jobs it selected. -/
structure Poll where
  pollId : Nat
  agentId : UUID
  jobIds : List UUID
  phase : PollPhase
  deriving DecidableEq, Repr

structure State where
  jobRuns : Table JobRun.jobId
  polls : Table Poll.pollId

/-- Whether an open transaction holds a row. -/
def State.locked (state : State) (jobId : UUID) : Bool :=
  state.polls.rows.any
    (fun poll => decide (poll.phase = .selected) && decide (jobId ∈ poll.jobIds))

/-- Whether a locking select may return these rows to an agent's poll. It may leave out
any row that another transaction happens to hold.
-/
def State.selectable (state : State) (agentId : UUID) (jobIds : List UUID) : Bool :=
  decide jobIds.Nodup
  && jobIds.all (fun jobId =>
      (state.jobRuns.get? jobId).any (isPendingFor agentId) && !state.locked jobId)

/-- The steps of polls, of cron ticks and of reports. -/
inductive Event where
  | select (pollId : Nat) (agentId : UUID) (jobIds : List UUID)
  | commit (pollId : Nat)
  | reload (pollId : Nat) (jobIds : List UUID)
  | respond (pollId : Nat)
  | fail (pollId : Nat)
  | enqueue (jobId pipelineId agentId : UUID)
  | report (report : Report) (now : Datetime)

/-- The state with a poll in another phase. -/
def State.setPhase (state : State) (pollId : Nat) (phase : PollPhase) : State :=
  { state with
    polls := state.polls.modify pollId (fun poll => { poll with phase }) (fun _ => rfl) }

/-- One step, or nothing where the event cannot happen. A poll that selects no row responds
at once; a report waits for the lock of its row.
-/
def step (state : State) : Event → Option State
  | .select pollId agentId jobIds =>
      if state.selectable agentId jobIds then
        let phase := if jobIds.isEmpty then .responded [] else .selected
        (state.polls.insert ⟨pollId, agentId, jobIds, phase⟩).map
          (fun polls => { state with polls })
      else none
  | .commit pollId =>
      match state.polls.get? pollId with
      | some poll =>
          if poll.phase = .selected then
            some { state.setPhase pollId .claimed with
              jobRuns := markDispatched state.jobRuns poll.jobIds }
          else none
      | none => none
  | .reload pollId jobIds =>
      match state.polls.get? pollId with
      | some poll =>
          if poll.phase = .claimed
            ∧ jobIds.Perm
              ((state.jobRuns.rows.map JobRun.jobId).filter (fun jobId => jobId ∈ poll.jobIds))
          then some (state.setPhase pollId (.reloaded jobIds))
          else none
      | none => none
  | .respond pollId =>
      match state.polls.get? pollId with
      | some poll =>
          match poll.phase with
          | .reloaded jobIds => some (state.setPhase pollId (.responded jobIds))
          | _ => none
      | none => none
  | .fail pollId =>
      match state.polls.get? pollId with
      | some poll =>
          match poll.phase with
          | .responded _ => none
          | .failed => none
          | _ => some (state.setPhase pollId .failed)
      | none => none
  | .enqueue jobId pipelineId agentId =>
      (enqueueJob state.jobRuns jobId pipelineId agentId).map
        (fun jobRuns => { state with jobRuns })
  | .report report now =>
      match state.jobRuns.get? report.jobId with
      | some _ =>
          if !state.locked report.jobId && report.body.fits then
            some { state with
              jobRuns := reportJob state.jobRuns report.jobId report.body now }
          else none
      | none => none

/-- The jobs a poll's response names. -/
def Poll.response (poll : Poll) : List UUID :=
  match poll.phase with
  | .responded jobIds => jobIds
  | _ => []

/-- Every job a response has named, over the whole run. -/
def State.dispatched (state : State) : List UUID :=
  state.polls.rows.flatMap Poll.response

end Turbocat.Orchestrator.Dispatch
