import Turbocat.Agent.TaskLifecycle
import Turbocat.Orchestrator.AtMostOnceDispatch

/-! One agent's process against the orchestrator: the polls its requests make, the jobs
these claim, and the responses that reach its poll loop or do not. Cron ticks, reports and
the polls of other agents run in between.
-/

namespace Turbocat.System.Polling

open Turbocat.Library Turbocat.Python Turbocat.Orchestrator Turbocat.Agent

/-- A job that was made DISPATCHED for a poll. -/
structure Claim where
  pollId : Nat
  jobId : UUID
  deriving DecidableEq, Repr

structure State where
  orchestrator : Dispatch.State
  agent : Process.State
  -- The polls of the agent's requests, the latest first.
  requests : List Nat
  -- What was claimed for them, the latest first. No step reads it.
  claims : List Claim

/-- An agent that has just started, before a database with some jobs. -/
def State.initial (maxWorkers : Nat) (jobRuns : Table JobRun.jobId) : State :=
  ⟨⟨jobRuns, .empty⟩, .initial maxWorkers, [], []⟩

inductive Event where
  | orchestrator (event : Dispatch.Event)
  -- A turn of the poll loop, whose request would make this poll.
  | turn (pollId : Nat)
  -- The response with these jobs reaches the thread of the latest request.
  | answered (jobs : List JobPayload)
  -- The latest request raises; the orchestrator may still process it.
  | failed
  | agent (event : Process.Event)

/-- Whether an event is not a poll for another agent under a number of the agent's. -/
def State.serves (state : State) (agentId : UUID) : Dispatch.Event → Bool
  | .select pollId other _ => decide (pollId ∈ state.requests → other = agentId)
  | _ => true

/-- The jobs a poll has selected. -/
def State.selected (state : State) (pollId : Nat) : List UUID :=
  ((state.orchestrator.polls.get? pollId).map Dispatch.Poll.jobIds).getD []

/-- The jobs an event claims for the agent. -/
def State.newClaims (state : State) : Dispatch.Event → List Claim
  | .commit pollId =>
      if pollId ∈ state.requests then (state.selected pollId).map (Claim.mk pollId) else []
  | _ => []

/-- The state after a step of the orchestrator. -/
def State.orchestrated (state : State) (event : Dispatch.Event)
    (orchestrator : Dispatch.State)
    : State :=
  { state with orchestrator, claims := state.newClaims event ++ state.claims }

/-- Whether the latest request's poll has responded with these jobs. -/
def State.responds (state : State) (jobs : List JobPayload) : Bool :=
  (state.requests.head?.bind state.orchestrator.polls.get?).any
    (fun poll => decide (poll.phase = .responded (jobs.map JobPayload.jobId)))

/-- The events of the process that no request takes part in. -/
def separate : Process.Event → Bool
  | .turn => false
  | .requestEnds _ => false
  | _ => true

/-- One step, or nothing where the event cannot happen. -/
def step (repr : String → String) (maxWorkers : Nat) (agentId : UUID) (state : State)
    : Event → Option State
  | .orchestrator event =>
      if state.serves agentId event then
        (Dispatch.step state.orchestrator event).map (state.orchestrated event)
      else none
  | .turn pollId =>
      if pollId ∈ state.requests ∨ (state.orchestrator.polls.get? pollId).isSome then none
      else
        (Process.step repr maxWorkers state.agent .turn).map
          (fun agent =>
            { state with
              agent
              requests :=
                if agent.loop = .awaiting then pollId :: state.requests
                else state.requests })
  | .answered jobs =>
      if state.responds jobs then
        (Process.step repr maxWorkers state.agent (.requestEnds (some jobs))).map
          (fun agent => { state with agent })
      else none
  | .failed =>
      (Process.step repr maxWorkers state.agent (.requestEnds none)).map
        (fun agent => { state with agent })
  | .agent event =>
      if separate event then
        (Process.step repr maxWorkers state.agent event).map
          (fun agent => { state with agent })
      else none

/-- The poll whose claim an event commits. -/
def Event.commit? : Event → Option Nat
  | .orchestrator (.commit pollId) => some pollId
  | _ => none

/-- Whether the poll loop awaits the request of a poll. -/
def State.awaits (state : State) (pollId : Nat) : Prop :=
  state.agent.loop = .awaiting ∧ state.requests.head? = some pollId

instance decidableAwaits (state : State) (pollId : Nat) : Decidable (state.awaits pollId) :=
  inferInstanceAs (Decidable (_ ∧ _))

/-- The jobs claimed for a poll. -/
def State.claimsOf (state : State) (pollId : Nat) : List UUID :=
  (state.claims.filter (fun claim => decide (claim.pollId = pollId))).map Claim.jobId

/-- The jobs claimed for the request that the poll loop awaits. -/
def State.inFlight (state : State) : List UUID :=
  (state.claims.filter (fun claim => decide (state.awaits claim.pollId))).map Claim.jobId

variable {repr : String → String} {maxWorkers : Nat} {agentId : UUID}

-----------------------------------------------------------------------------------------
-- What each step does
-----------------------------------------------------------------------------------------

/-- What each accepted event does to the claims and to the poll loop. -/
inductive Moves (state : State) : Event → State → Prop
  | orchestrator {event orchestrator}
    (stepped : Dispatch.step state.orchestrator event = some orchestrator)
    : Moves state (.orchestrator event) (state.orchestrated event orchestrator)
  | sleep {pollId} : Moves state (.turn pollId) state
  | ask {pollId} (ready : state.agent.loop = .ready) (fresh : pollId ∉ state.requests)
    (unknown : state.orchestrator.polls.get? pollId = none)
    : Moves state (.turn pollId)
        { state with
          agent := { state.agent with loop := .awaiting, thread := .asking }
          requests := pollId :: state.requests }
  | answered {jobs poll} (asking : state.agent.thread = .asking)
    (member : poll ∈ state.orchestrator.polls.rows)
    (latest : state.requests.head? = some poll.pollId)
    (responded : poll.phase = .responded (jobs.map JobPayload.jobId))
    : Moves state (.answered jobs)
        { state with agent := { state.agent with thread := .ended (some jobs) } }
  | failed (asking : state.agent.thread = .asking)
    : Moves state .failed { state with agent := { state.agent with thread := .ended none } }
  | resume {jobs agent} (awaiting : state.agent.loop = .awaiting)
    (ended : state.agent.thread = .ended jobs) (loop : agent.loop = .ready)
    (thread : agent.thread = .idle)
    (received : agent.received = state.agent.received ++ jobs.getD [])
    (unfinished
      : agent.unfinishedTasks = state.agent.unfinishedTasks + (jobs.getD []).length)
    : Moves state (.agent .resume) { state with agent }
  | cancel
    : Moves state (.agent .cancel)
        { state with agent := { state.agent with main := .cancelling, loop := .cancelled } }
  | quiet {event agent} (loop : agent.loop = state.agent.loop)
    (thread : agent.thread = state.agent.thread)
    (received : agent.received = state.agent.received)
    (fewer : agent.unfinishedTasks ≤ state.agent.unfinishedTasks)
    : Moves state (.agent event) { state with agent }

theorem responds_iff {state : State} {jobs : List JobPayload}
    : state.responds jobs = true
      ↔ ∃ poll ∈ state.orchestrator.polls.rows,
          state.requests.head? = some poll.pollId
          ∧ poll.phase = .responded (jobs.map JobPayload.jobId) := by
  simp only [State.responds, Option.any_eq_true, decide_eq_true_eq, Option.bind_eq_some_iff]
  constructor
  · intro responds
    obtain ⟨poll, ⟨pollId, latest, found⟩, responded⟩ := responds
    obtain ⟨member, rfl⟩ := Table.get?_eq_some_iff.mp found
    exact ⟨poll, member, latest, responded⟩
  · intro responds
    obtain ⟨poll, member, latest, responded⟩ := responds
    exact ⟨poll, ⟨poll.pollId, latest, Table.get?_of_mem member⟩, responded⟩

theorem step_moves {state next : State} {event : Event}
    (stepped : step repr maxWorkers agentId state event = some next)
    : Moves state event next := by
  cases event with
  | orchestrator event =>
      simp only [step] at stepped
      split at stepped
      · obtain ⟨orchestrator, moved, rfl⟩ := Option.map_eq_some_iff.mp stepped
        exact .orchestrator moved
      · cases stepped
  | turn pollId =>
      simp only [step] at stepped
      split at stepped
      · cases stepped
      · next unused =>
          obtain ⟨fresh, unknown⟩ := not_or.mp unused
          obtain ⟨agent, turned, rfl⟩ := Option.map_eq_some_iff.mp stepped
          obtain ⟨ready, rfl | rfl⟩ := Process.turn_step turned
          · simp only [ready, reduceCtorEq, if_false]
            exact .sleep
          · exact .ask ready fresh (Option.not_isSome_iff_eq_none.mp unknown)
  | answered jobs =>
      simp only [step] at stepped
      split at stepped
      · next responds =>
          obtain ⟨agent, ended, rfl⟩ := Option.map_eq_some_iff.mp stepped
          obtain ⟨asking, rfl⟩ := Process.requestEnds_step ended
          obtain ⟨poll, member, latest, responded⟩ := responds_iff.mp responds
          exact .answered asking member latest responded
      · cases stepped
  | failed =>
      obtain ⟨agent, ended, rfl⟩ := Option.map_eq_some_iff.mp stepped
      obtain ⟨asking, rfl⟩ := Process.requestEnds_step ended
      exact .failed asking
  | agent event =>
      simp only [step] at stepped
      split at stepped
      · next apart =>
          obtain ⟨agent, moved, rfl⟩ := Option.map_eq_some_iff.mp stepped
          cases event with
          | turn => cases apart
          | requestEnds jobs => cases apart
          | resume =>
              obtain ⟨jobs, awaiting, ended, loop, thread, received, unfinished⟩ :=
                Process.resume_step moved
              exact .resume awaiting ended loop thread received unfinished
          | cancel =>
              cases Process.cancel_step moved
              exact .cancel
          | _ =>
              obtain ⟨loop, thread, received, fewer⟩ := Process.quiet_step rfl moved
              exact .quiet loop thread received fewer
      · cases stepped

/-- Every step of the whole is a step of the process, or leaves it as it is. -/
theorem step_agent {state next : State} {event : Event}
    (stepped : step repr maxWorkers agentId state event = some next)
    : ∃ matching,
        run (Process.step repr maxWorkers) state.agent matching = some next.agent := by
  have single {event : Process.Event} {agent : Process.State}
      (moved : Process.step repr maxWorkers state.agent event = some agent)
      : ∃ matching, run (Process.step repr maxWorkers) state.agent matching = some agent :=
    ⟨[event], run_cons_iff.mpr ⟨agent, moved, rfl⟩⟩
  cases event with
  | orchestrator event =>
      simp only [step] at stepped
      split at stepped
      · obtain ⟨orchestrator, _, rfl⟩ := Option.map_eq_some_iff.mp stepped
        exact ⟨[], rfl⟩
      · cases stepped
  | turn pollId =>
      simp only [step] at stepped
      split at stepped
      · cases stepped
      · obtain ⟨agent, moved, rfl⟩ := Option.map_eq_some_iff.mp stepped
        exact single moved
  | answered jobs =>
      simp only [step] at stepped
      split at stepped
      · obtain ⟨agent, moved, rfl⟩ := Option.map_eq_some_iff.mp stepped
        exact single moved
      · cases stepped
  | failed =>
      obtain ⟨agent, moved, rfl⟩ := Option.map_eq_some_iff.mp stepped
      exact single moved
  | agent event =>
      simp only [step] at stepped
      split at stepped
      · obtain ⟨agent, moved, rfl⟩ := Option.map_eq_some_iff.mp stepped
        exact single moved
      · cases stepped

/-- What holds of every run of the process holds of the process here. -/
theorem run_agent {jobRuns : Table JobRun.jobId} {events : List Event} {last : State}
    (ran
      : run (step repr maxWorkers agentId) (.initial maxWorkers jobRuns) events = some last)
    : ∃ matching,
        run (Process.step repr maxWorkers) (.initial maxWorkers) matching = some last.agent :=
  run_simulates step_agent ran

-----------------------------------------------------------------------------------------
-- Polls and claims
-----------------------------------------------------------------------------------------

/-- What a step of the orchestrator has made of a poll it now stores. -/
inductive PollAfter (orchestrator : Dispatch.State) (event : Dispatch.Event)
    (poll : Dispatch.Poll)
    : Prop
  | kept (member : poll ∈ orchestrator.polls.rows) (other : event ≠ .commit poll.pollId)
  | opened (fresh : orchestrator.polls.get? poll.pollId = none)
    (other : event ≠ .commit poll.pollId) (empty : poll.phase ≠ .selected → poll.jobIds = [])
  | committed (old : Dispatch.Poll) (member : old ∈ orchestrator.polls.rows)
    (own : event = .commit old.pollId) (phase : old.phase = .selected)
    (same : poll = { old with phase := .claimed })
  | advanced (old : Dispatch.Poll) (member : old ∈ orchestrator.polls.rows)
    (other : event ≠ .commit old.pollId) (passed : old.phase ≠ .selected)
    (live : old.phase ≠ .failed) (unselected : poll.phase ≠ .selected)
    (same : poll = { old with phase := poll.phase })
  | failed (phase : poll.phase = .failed)

/-- Every stored poll is accounted for, by cases of the step. -/
theorem poll_after {orchestrator next : Dispatch.State} {event : Dispatch.Event}
    (stepped : Dispatch.step orchestrator event = some next) {poll : Dispatch.Poll}
    (member : poll ∈ next.polls.rows)
    : PollAfter orchestrator event poll := by
  cases Dispatch.step_takes stepped with
  | @select pollId agentId jobIds polls selectable inserted =>
      obtain ⟨fresh, rows⟩ := Table.insert_eq_some_iff.mp inserted
      rw [rows] at member
      rcases List.mem_append.mp member with old | new
      · exact .kept old (by simp)
      · obtain rfl := List.mem_singleton.mp new
        refine .opened fresh (by simp) ?_
        cases jobIds with
        | nil => exact fun _ => rfl
        | cons _ _ => exact fun selected => absurd rfl selected
  | @commit moved found phase =>
      obtain ⟨old, stored, rfl⟩ := Dispatch.mem_setPhase.mp member
      by_cases same : old.pollId = moved.pollId
      · obtain rfl := Table.eq_of_key stored found same
        rw [if_pos rfl]
        exact .committed old stored rfl phase rfl
      · rw [if_neg same]
        exact .kept stored (by simpa using Ne.symm same)
  | @reload moved jobIds found phase rows =>
      obtain ⟨old, stored, rfl⟩ := Dispatch.mem_setPhase.mp member
      by_cases same : old.pollId = moved.pollId
      · obtain rfl := Table.eq_of_key stored found same
        rw [if_pos rfl]
        exact .advanced old stored (by simp) (by simp [phase]) (by simp [phase]) (by simp) rfl
      · rw [if_neg same]
        exact .kept stored (by simp)
  | @respond moved jobIds found phase =>
      obtain ⟨old, stored, rfl⟩ := Dispatch.mem_setPhase.mp member
      by_cases same : old.pollId = moved.pollId
      · obtain rfl := Table.eq_of_key stored found same
        rw [if_pos rfl]
        exact .advanced old stored (by simp) (by simp [phase]) (by simp [phase]) (by simp) rfl
      · rw [if_neg same]
        exact .kept stored (by simp)
  | @fail moved found live unanswered =>
      obtain ⟨old, stored, rfl⟩ := Dispatch.mem_setPhase.mp member
      by_cases same : old.pollId = moved.pollId
      · rw [if_pos same]
        exact .failed rfl
      · rw [if_neg same]
        exact .kept stored (by simp)
  | enqueue inserted => exact .kept member (by simp)
  | report found unlocked => exact .kept member (by simp)

/-- A stored poll stays stored under its number. -/
theorem polls_kept {orchestrator next : Dispatch.State} {event : Dispatch.Event}
    (stepped : Dispatch.step orchestrator event = some next) {pollId : Nat}
    (found : (orchestrator.polls.get? pollId).isSome = true)
    : (next.polls.get? pollId).isSome = true := by
  have moved (other : Nat) (phase : Dispatch.PollPhase)
      : ((orchestrator.setPhase other phase).polls.get? pollId).isSome = true := by
    rw [Dispatch.State.setPhase, Table.get?_modify]
    by_cases same : pollId = other
    · rw [if_pos same, Option.isSome_map, ← same]
      exact found
    · rw [if_neg same]
      exact found
  cases Dispatch.step_takes stepped with
  | select selectable inserted =>
      obtain ⟨poll, stored⟩ := Option.isSome_iff_exists.mp found
      rw [Table.get?_insert_of_some inserted stored]
      rfl
  | commit member phase => exact moved _ _
  | reload member phase rows => exact moved _ _
  | respond member phase => exact moved _ _
  | fail member live unanswered => exact moved _ _
  | enqueue inserted => exact found
  | report stored unlocked => exact found

theorem selected_of_mem {state : State} {poll : Dispatch.Poll}
    (member : poll ∈ state.orchestrator.polls.rows)
    : state.selected poll.pollId = poll.jobIds := by
  rw [State.selected, Table.get?_of_mem member]
  rfl

section

variable {state : State} {orchestrator : Dispatch.State} {event : Dispatch.Event}
  {pollId : Nat}

/-- The claims after a step of the orchestrator. -/
theorem claimsOf_step
    : (state.orchestrated event orchestrator).claimsOf pollId
      = ((state.newClaims event).filter
          (fun claim => decide (claim.pollId = pollId))).map Claim.jobId
        ++ state.claimsOf pollId := by
  simp only [State.claimsOf, State.orchestrated, List.filter_append, List.map_append]

/-- A poll's own commit claims what it has selected. -/
theorem claimsOf_commit (own : pollId ∈ state.requests)
    : (state.orchestrated (.commit pollId) orchestrator).claimsOf pollId
      = state.selected pollId ++ state.claimsOf pollId := by
  rw [claimsOf_step, State.newClaims, if_pos own]
  simp [List.filter_map, Function.comp_def]

/-- No other step claims anything for a poll. -/
theorem claimsOf_other (other : event ≠ .commit pollId)
    : (state.orchestrated event orchestrator).claimsOf pollId
      = state.claimsOf pollId := by
  rw [claimsOf_step]
  cases event with
  | commit committed =>
      have different : committed ≠ pollId := fun same => other (congrArg _ same)
      simp only [State.newClaims]
      split
      · simp [List.filter_map, Function.comp_def, different]
      · rfl
  | _ => rfl

end

/-- The claims are those of the polls the agent's requests made, and an answer that has
reached the agent is the response of the latest one.
-/
structure Linked (state : State) : Prop where
  consistent : Dispatch.Consistent state.orchestrator
  known
    : ∀ claim ∈ state.claims,
        claim.pollId ∈ state.requests
        ∧ (state.orchestrator.polls.get? claim.pollId).isSome = true
  unclaimed
    : ∀ poll ∈ state.orchestrator.polls.rows,
        poll.phase = .selected → state.claimsOf poll.pollId = []
  claimed
    : ∀ poll ∈ state.orchestrator.polls.rows,
        poll.pollId ∈ state.requests
        → poll.phase ≠ .selected
        → poll.phase ≠ .failed
        → state.claimsOf poll.pollId = poll.jobIds
  answered
    : ∀ jobs,
        state.agent.thread = .ended (some jobs)
        → ∃ poll ∈ state.orchestrator.polls.rows,
            state.requests.head? = some poll.pollId
            ∧ poll.phase = .responded (jobs.map JobPayload.jobId)

theorem linked_initial (jobRuns : Table JobRun.jobId)
    : Linked (.initial maxWorkers jobRuns) := by
  refine ⟨Dispatch.consistent_initial jobRuns, ?_, ?_, ?_, ?_⟩
  · exact fun claim member => (nomatch member)
  · exact fun poll member => (nomatch member)
  · exact fun poll member => (nomatch member)
  · exact fun jobs ended => (nomatch ended)

/-- Without a claim for it, a poll has claimed nothing. -/
theorem claimsOf_eq_nil {state : State} {pollId : Nat}
    (absent : ∀ claim ∈ state.claims, claim.pollId ≠ pollId)
    : state.claimsOf pollId = [] := by
  rw [State.claimsOf, List.filter_eq_nil_iff.mpr]
  · rfl
  · intro claim member
    simpa using absent claim member

/-- A number no poll has is one nothing was claimed for. -/
theorem Linked.unused {state : State} (linked : Linked state) {pollId : Nat}
    (unknown : state.orchestrator.polls.get? pollId = none)
    : state.claimsOf pollId = [] := by
  apply claimsOf_eq_nil
  rintro claim member rfl
  have found := (linked.known claim member).2
  rw [unknown] at found
  cases found

/-- The orchestrator's steps keep the link, by cases of what became of each poll. -/
theorem Linked.orchestrated {state : State} (linked : Linked state)
    {orchestrator : Dispatch.State} {event : Dispatch.Event}
    (stepped : Dispatch.step state.orchestrator event = some orchestrator)
    : Linked (state.orchestrated event orchestrator) := by
  refine ⟨linked.consistent.step stepped, ?_, ?_, ?_, ?_⟩
  · intro claim member
    rcases List.mem_append.mp member with new | old
    · cases event with
      | commit pollId =>
          rw [State.newClaims] at new
          split at new
          · next own =>
              obtain ⟨jobId, selected, rfl⟩ := List.mem_map.mp new
              refine ⟨own, polls_kept stepped ?_⟩
              by_contra missing
              rw [State.selected, Option.not_isSome_iff_eq_none.mp missing] at selected
              cases selected
          · cases new
      | _ => cases new
    · exact ⟨(linked.known claim old).1, polls_kept stepped (linked.known claim old).2⟩
  · intro poll member selected
    cases poll_after stepped member with
    | kept old other => rw [claimsOf_other other, linked.unclaimed poll old selected]
    | opened fresh other empty => rw [claimsOf_other other, linked.unused fresh]
    | committed old found own phase same => simp [same] at selected
    | advanced old found other passed live unselected same => exact absurd selected unselected
    | failed phase => simp [phase] at selected
  · intro poll member own passed live
    cases poll_after stepped member with
    | kept old other =>
        rw [claimsOf_other other]
        exact linked.claimed poll old own passed live
    | opened fresh other empty =>
        rw [claimsOf_other other, linked.unused fresh, empty passed]
    | committed old found committed phase same =>
        subst same
        subst committed
        have total := @claimsOf_commit state orchestrator old.pollId own
        rw [selected_of_mem found, linked.unclaimed old found phase, List.append_nil] at total
        exact total
    | advanced old found other before oldLive unselected same =>
        rw [same] at own ⊢
        rw [claimsOf_other other]
        exact linked.claimed old found own before oldLive
    | failed phase => exact absurd phase live
  · intro jobs ended
    obtain ⟨poll, member, latest, responded⟩ := linked.answered jobs ended
    exact ⟨poll, Dispatch.responded_final stepped member responded, latest, responded⟩

/-- Every step keeps the link. -/
theorem Linked.step {state next : State} {event : Event} (linked : Linked state)
    (stepped : step repr maxWorkers agentId state event = some next)
    : Linked next := by
  cases step_moves stepped with
  | orchestrator moved => exact linked.orchestrated moved
  | sleep => exact linked
  | @ask pollId ready fresh unknown =>
      refine ⟨linked.consistent, ?_, linked.unclaimed, ?_, fun jobs ended => ?_⟩
      · intro claim member
        exact ⟨List.mem_cons_of_mem _ (linked.known claim member).1,
          (linked.known claim member).2⟩
      · intro poll member own
        rcases List.mem_cons.mp own with same | own
        · rw [← same, Table.get?_of_mem member] at unknown
          cases unknown
        · exact linked.claimed poll member own
      · cases ended
  | @answered jobs poll asking member latest responded =>
      refine ⟨linked.consistent, linked.known, linked.unclaimed, linked.claimed, ?_⟩
      intro others ended
      cases ended
      exact ⟨poll, member, latest, responded⟩
  | failed asking =>
      refine ⟨linked.consistent, linked.known, linked.unclaimed, linked.claimed, ?_⟩
      intro jobs ended
      cases ended
  | @resume jobs agent awaiting ended loop thread received unfinished =>
      refine ⟨linked.consistent, linked.known, linked.unclaimed, linked.claimed, ?_⟩
      intro jobs ended
      rw [thread] at ended
      cases ended
  | cancel =>
      exact ⟨linked.consistent, linked.known, linked.unclaimed, linked.claimed,
        linked.answered⟩
  | @quiet event agent loop thread received fewer =>
      refine ⟨linked.consistent, linked.known, linked.unclaimed, linked.claimed, ?_⟩
      intro jobs ended
      exact linked.answered jobs (thread ▸ ended)

/-- While the poll loop awaits a request, what was claimed for it is in flight. -/
theorem inFlight_of_awaits {state : State} {pollId : Nat} (awaits : state.awaits pollId)
    : state.inFlight = state.claimsOf pollId := by
  have same (claim : Claim) : state.awaits claim.pollId ↔ claim.pollId = pollId := by
    constructor
    · exact fun other => Option.some.inj (other.2.symm.trans awaits.2)
    · exact fun own => own ▸ awaits
  simp only [State.inFlight, State.claimsOf, same]

theorem inFlight_of_not {state : State} (idle : ∀ pollId, ¬ state.awaits pollId)
    : state.inFlight = [] := by
  simp [State.inFlight, idle]

/-- What is in flight depends on what the loop awaits and on the claims. -/
theorem inFlight_congr {state next : State} (loop : next.agent.loop = state.agent.loop)
    (requests : next.requests = state.requests) (claims : next.claims = state.claims)
    : next.inFlight = state.inFlight := by
  have same (pollId : Nat) : next.awaits pollId ↔ state.awaits pollId := by
    rw [State.awaits, State.awaits, loop, requests]
  simp only [State.inFlight, claims, same]

/-- A response names exactly the jobs claimed for it. -/
theorem Linked.answer {state : State} (linked : Linked state) {poll : Dispatch.Poll}
    (member : poll ∈ state.orchestrator.polls.rows) (own : poll.pollId ∈ state.requests)
    {jobIds : List UUID} (responded : poll.phase = .responded jobIds)
    : jobIds.Perm (state.claimsOf poll.pollId) := by
  rw [linked.claimed poll member own (by simp [responded]) (by simp [responded])]
  exact linked.consistent.complete poll member jobIds (Or.inr responded)

-----------------------------------------------------------------------------------------
-- A small deployment
-----------------------------------------------------------------------------------------

namespace Sample

open Process.Sample

/-- A pending job of agent 1. -/
def pending (jobId : Fin (2 ^ 128)) : JobRun :=
  { jobId := ⟨jobId⟩, pipelineId := ⟨21⟩, agentId := ⟨1⟩ }

def oneJob : Table JobRun.jobId := ⟨[pending 31], by decide⟩

def twoJobs : Table JobRun.jobId := ⟨[pending 31, pending 32], by decide⟩

/-- The orchestrator serves a poll of agent 1. -/
def serves (pollId : Nat) (jobIds : List (Fin (2 ^ 128))) : List Event :=
  let jobIds := jobIds.map UUID.mk
  [.orchestrator (.select pollId ⟨1⟩ jobIds), .orchestrator (.commit pollId),
    .orchestrator (.reload pollId jobIds), .orchestrator (.respond pollId)]

/-- A request of the agent whose response reaches its poll loop. -/
def polls (pollId : Nat) (jobIds : List (Fin (2 ^ 128))) : List Event :=
  [.turn pollId] ++ serves pollId jobIds
  ++ [.answered (jobIds.map job), .agent .resume]

end Sample

end Turbocat.System.Polling
