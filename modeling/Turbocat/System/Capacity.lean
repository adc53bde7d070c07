import Turbocat.System.Polling

/-! How many jobs an agent has claimed and not finished: within its capacity exactly as long
as no poll selects more jobs than there is room for. The poll loop asks for jobs when it has
room, and the orchestrator claims all that are pending.
-/

namespace Turbocat.System.Polling

open Turbocat.Library Turbocat.Python Turbocat.Orchestrator Turbocat.Agent

variable {repr : String → String} {maxWorkers : Nat} {agentId : UUID}

/-- The number of jobs claimed and not finished: those with an unfinished task, and those of
the response that the poll loop awaits.
-/
def State.outstanding (state : State) : Nat :=
  state.agent.unfinishedTasks + state.inFlight.length

/-- The jobs that a commit claims for the awaited request fit beside the unfinished tasks. -/
def Fits (maxWorkers : Nat) (state : State) (event : Event) : Prop :=
  ∀ pollId ∈ event.commit?,
    state.awaits pollId
    → state.agent.unfinishedTasks + (state.selected pollId).length ≤ maxWorkers

instance decidableFits (maxWorkers : Nat) (state : State) (event : Event)
    : Decidable (Fits maxWorkers state event) :=
  inferInstanceAs (Decidable (∀ pollId ∈ event.commit?, _))

/-- An event that claims nothing fits. -/
theorem fits_of_none {state : State} {event : Event} (claimless : event.commit? = none)
    : Fits maxWorkers state event := by
  intro pollId among
  rw [claimless] at among
  cases among

/-- A commit for the awaited request adds the jobs its poll has selected. -/
theorem outstanding_commit {state : State} (linked : Linked state) {pollId : Nat}
    (awaits : state.awaits pollId) {orchestrator : Dispatch.State}
    (stepped : Dispatch.step state.orchestrator (.commit pollId) = some orchestrator)
    : (state.orchestrated (.commit pollId) orchestrator).outstanding
      = state.agent.unfinishedTasks + (state.selected pollId).length := by
  have own : pollId ∈ state.requests := List.mem_of_head? awaits.2
  have unclaimed : state.claimsOf pollId = [] := by
    cases Dispatch.step_takes stepped with
    | commit member phase => exact linked.unclaimed _ member phase
  have claims := @claimsOf_commit state orchestrator pollId own
  rw [unclaimed, List.append_nil] at claims
  rw [State.outstanding,
    @inFlight_of_awaits (state.orchestrated (.commit pollId) orchestrator) pollId awaits, claims]
  rfl

/-- No other step of the orchestrator changes what is in flight. -/
theorem inFlight_other {state : State} {orchestrator : Dispatch.State}
    {event : Dispatch.Event} (other : ∀ pollId, state.awaits pollId → event ≠ .commit pollId)
    : (state.orchestrated event orchestrator).inFlight = state.inFlight := by
  by_cases waiting : ∃ pollId, state.awaits pollId
  · obtain ⟨pollId, awaits⟩ := waiting
    rw [@inFlight_of_awaits (state.orchestrated event orchestrator) pollId awaits,
      inFlight_of_awaits awaits, claimsOf_other (other pollId awaits)]
  · have idle := not_exists.mp waiting
    rw [@inFlight_of_not (state.orchestrated event orchestrator) idle, inFlight_of_not idle]

/-- A response turns what is in flight into tasks. -/
theorem Linked.resumed {state : State} (linked : Linked state)
    {jobs : Option (List JobPayload)} (awaiting : state.agent.loop = .awaiting)
    (ended : state.agent.thread = .ended jobs)
    : (jobs.getD []).length ≤ state.inFlight.length := by
  cases jobs with
  | none => exact Nat.zero_le _
  | some jobs =>
      obtain ⟨poll, member, latest, responded⟩ := linked.answered jobs ended
      have named := linked.answer member (List.mem_of_head? latest) responded
      rw [inFlight_of_awaits ⟨awaiting, latest⟩, ← named.length_eq, List.length_map]
      exact le_refl _

/-- A step that claims nothing and only ends tasks leaves no more outstanding. -/
theorem outstanding_le {state next : State} (loop : next.agent.loop = state.agent.loop)
    (requests : next.requests = state.requests) (claims : next.claims = state.claims)
    (fewer : next.agent.unfinishedTasks ≤ state.agent.unfinishedTasks)
    : next.outstanding ≤ state.outstanding := by
  rw [State.outstanding, State.outstanding, inFlight_congr loop requests claims]
  exact Nat.add_le_add_right fewer _

/-- From a state within the capacity, a step leads to another exactly when it fits. -/
theorem step_fits_iff {state next : State} {event : Event} (linked : Linked state)
    (within : state.outstanding ≤ maxWorkers)
    (stepped : step repr maxWorkers agentId state event = some next)
    : next.outstanding ≤ maxWorkers ↔ Fits maxWorkers state event := by
  cases step_moves stepped with
  | @orchestrator event orchestrator moved =>
      by_cases claiming : ∃ pollId, state.awaits pollId ∧ event = .commit pollId
      · obtain ⟨pollId, awaits, rfl⟩ := claiming
        rw [outstanding_commit linked awaits moved]
        constructor
        · intro fits committed among _
          obtain rfl := Option.some.inj among
          exact fits
        · exact fun fits => fits pollId rfl awaits
      · have others : ∀ pollId, state.awaits pollId → event ≠ .commit pollId :=
          fun pollId awaits same => claiming ⟨pollId, awaits, same⟩
        have unclaimed : Fits maxWorkers state (.orchestrator event) := by
          intro pollId among awaits
          cases event with
          | commit committed =>
              obtain rfl := Option.some.inj among
              exact absurd rfl (others committed awaits)
          | _ => cases among
        apply iff_of_true _ unclaimed
        rw [State.outstanding, inFlight_other others]
        exact within
  | sleep => exact iff_of_true within (fits_of_none rfl)
  | @ask pollId ready fresh unknown =>
      have none_claimed := linked.unused unknown
      refine iff_of_true ?_ (fits_of_none rfl)
      rw [State.outstanding, inFlight_of_awaits ⟨rfl, rfl⟩]
      exact le_trans (Nat.add_le_add_left (le_of_eq_of_le (congrArg List.length none_claimed)
        (Nat.zero_le _)) _) within
  | answered asking member latest responded =>
      exact iff_of_true (le_trans (outstanding_le rfl rfl rfl (le_refl _)) within)
        (fits_of_none rfl)
  | failed asking =>
      exact iff_of_true (le_trans (outstanding_le rfl rfl rfl (le_refl _)) within)
        (fits_of_none rfl)
  | @resume jobs agent awaiting ended loop thread received unfinished =>
      have room := linked.resumed awaiting ended
      refine iff_of_true ?_ (fits_of_none rfl)
      rw [State.outstanding, inFlight_of_not (fun _ awaits => by
        simp [State.awaits, loop] at awaits)]
      unfold State.outstanding at within
      simp only [unfinished, List.length_nil]
      omega
  | cancel =>
      refine iff_of_true ?_ (fits_of_none rfl)
      rw [State.outstanding, inFlight_of_not (fun _ awaits => by
        simp [State.awaits] at awaits)]
      exact le_trans (Nat.le_add_right _ _) within
  | @quiet event agent loop thread received fewer =>
      exact iff_of_true (le_trans (outstanding_le loop rfl rfl fewer) within)
        (fits_of_none rfl)

/-- The number of claimed and unfinished jobs stays within `max_workers` throughout a run
exactly when every poll that claims jobs for the awaited request has selected no more of them
than there is room for.
-/
theorem within_capacity_iff {jobRuns : Table JobRun.jobId} {events : List Event} {last : State}
    (ran
      : run (step repr maxWorkers agentId) (.initial maxWorkers jobRuns) events = some last)
    : (∀ before after middle,
        events = before ++ after
        → run (step repr maxWorkers agentId) (.initial maxWorkers jobRuns) before = some middle
        → middle.outstanding ≤ maxWorkers)
      ↔ Along (step repr maxWorkers agentId) (Fits maxWorkers) (.initial maxWorkers jobRuns)
          events :=
  along_iff_throughout (fun linked stepped => linked.step stepped) step_fits_iff
    (linked_initial jobRuns) (Nat.zero_le maxWorkers) ran

/-- An agent with one worker asks for jobs while one is pending. -/
theorem within_capacity_one_job
    : Along (step id 1 ⟨1⟩) (Fits 1) (.initial 1 Sample.oneJob) (Sample.polls 1 [31])
      ∧ ∀ before after middle,
          Sample.polls 1 [31] = before ++ after
          → run (step id 1 ⟨1⟩) (.initial 1 Sample.oneJob) before = some middle
          → middle.outstanding ≤ 1 := by
  have fits
      : Along (step id 1 ⟨1⟩) (Fits 1) (.initial 1 Sample.oneJob) (Sample.polls 1 [31]) := by
    decide
  exact ⟨fits,
    (@within_capacity_iff id 1 ⟨1⟩ Sample.oneJob (Sample.polls 1 [31]) _ rfl).mpr fits⟩

/-- An agent with one worker asks for jobs while two are pending, and is given both. -/
theorem more_claimed_than_capacity
    : ∃ last,
        run (step id 1 ⟨1⟩) (.initial 1 Sample.twoJobs) (Sample.polls 1 [31, 32]) = some last
        ∧ last.agent.activeTasks.card = 2
        ∧ ¬ last.outstanding ≤ 1 :=
  ⟨_, rfl, rfl, by decide⟩

end Turbocat.System.Polling
