import Turbocat.Library.Runs
import Turbocat.Orchestrator.Dispatch

/-! Every job is named by at most one response, which goes to a poll of the job's agent and
names exactly what the poll claimed, whatever the order of the steps.
-/

namespace Turbocat.Orchestrator.Dispatch

open Turbocat.Library Turbocat.Python

/-- What each accepted event does, with the guards it has passed. -/
inductive Takes (state : State) : Event → State → Prop
  | select {pollId agentId jobIds polls} (selectable : state.selectable agentId jobIds = true)
    (inserted
      : state.polls.insert ⟨pollId, agentId, jobIds,
          if jobIds.isEmpty then .responded [] else .selected⟩
        = some polls)
    : Takes state (.select pollId agentId jobIds) { state with polls }
  | commit {poll} (member : poll ∈ state.polls.rows) (phase : poll.phase = .selected)
    : Takes state (.commit poll.pollId)
        { state.setPhase poll.pollId .claimed with
          jobRuns := markDispatched state.jobRuns poll.jobIds }
  | reload {poll jobIds} (member : poll ∈ state.polls.rows) (phase : poll.phase = .claimed)
    (rows
      : jobIds.Perm
          ((state.jobRuns.rows.map JobRun.jobId).filter (fun jobId => jobId ∈ poll.jobIds)))
    : Takes state (.reload poll.pollId jobIds) (state.setPhase poll.pollId (.reloaded jobIds))
  | respond {poll jobIds} (member : poll ∈ state.polls.rows)
    (phase : poll.phase = .reloaded jobIds)
    : Takes state (.respond poll.pollId) (state.setPhase poll.pollId (.responded jobIds))
  | fail {poll} (member : poll ∈ state.polls.rows) (live : poll.phase ≠ .failed)
    (unanswered : ∀ jobIds, poll.phase ≠ .responded jobIds)
    : Takes state (.fail poll.pollId) (state.setPhase poll.pollId .failed)
  | enqueue {jobId pipelineId agentId jobRuns}
    (inserted : enqueueJob state.jobRuns jobId pipelineId agentId = some jobRuns)
    : Takes state (.enqueue jobId pipelineId agentId) { state with jobRuns }
  | report {report now row} (found : state.jobRuns.get? report.jobId = some row)
    (unlocked : state.locked report.jobId = false)
    : Takes state (.report report now)
        { state with jobRuns := reportJob state.jobRuns report.jobId report.body now }

theorem step_takes {state next : State} {event : Event} (stepped : step state event = some next)
    : Takes state event next := by
  cases event with
  | select pollId agentId jobIds =>
      simp only [step] at stepped
      split at stepped
      · next selectable =>
          obtain ⟨polls, inserted, rfl⟩ := Option.map_eq_some_iff.mp stepped
          exact .select selectable inserted
      · cases stepped
  | commit pollId =>
      simp only [step] at stepped
      split at stepped
      · next poll found =>
          obtain ⟨member, rfl⟩ := Table.get?_eq_some_iff.mp found
          split at stepped
          · next phase =>
              cases stepped
              exact .commit member phase
          · cases stepped
      · cases stepped
  | reload pollId jobIds =>
      simp only [step] at stepped
      split at stepped
      · next poll found =>
          obtain ⟨member, rfl⟩ := Table.get?_eq_some_iff.mp found
          split at stepped
          · next guard =>
              cases stepped
              exact .reload member guard.1 guard.2
          · cases stepped
      · cases stepped
  | respond pollId =>
      simp only [step] at stepped
      split at stepped
      · next poll found =>
          obtain ⟨member, rfl⟩ := Table.get?_eq_some_iff.mp found
          split at stepped
          · next jobIds phase =>
              cases stepped
              exact .respond member phase
          · cases stepped
      · cases stepped
  | fail pollId =>
      simp only [step] at stepped
      split at stepped
      · next poll found =>
          obtain ⟨member, rfl⟩ := Table.get?_eq_some_iff.mp found
          split at stepped
          · cases stepped
          · cases stepped
          · next unanswered live =>
              cases stepped
              exact .fail member live unanswered
      · cases stepped
  | enqueue jobId pipelineId agentId =>
      obtain ⟨jobRuns, inserted, rfl⟩ := Option.map_eq_some_iff.mp stepped
      exact .enqueue inserted
  | report report now =>
      simp only [step] at stepped
      split at stepped
      · next row found =>
          split at stepped
          · next guard =>
              cases stepped
              simp only [Bool.and_eq_true, Bool.not_eq_true'] at guard
              exact .report found guard.1
          · cases stepped
      · cases stepped

/-- The polls after one of them changed its phase. -/
theorem mem_setPhase {state : State} {pollId : Nat} {phase : PollPhase} {poll : Poll}
    : poll ∈ (state.setPhase pollId phase).polls.rows
      ↔ ∃ old ∈ state.polls.rows,
          poll = if old.pollId = pollId then { old with phase } else old :=
  Table.mem_modify state.polls pollId (fun poll => { poll with phase }) (fun _ => rfl)

-----------------------------------------------------------------------------------------
-- The invariant
-----------------------------------------------------------------------------------------

/-- What relates row statuses, held locks and responses. Polls that ended without a response
claim nothing any more, but the rows they dispatched are not pending.
-/
structure Consistent (state : State) : Prop where
  distinct : ∀ poll ∈ state.polls.rows, poll.jobIds.Nodup
  apart
    : ∀ left ∈ state.polls.rows,
        ∀ right ∈ state.polls.rows,
          left.phase ≠ .failed
          → right.phase ≠ .failed
          → left.pollId ≠ right.pollId
          → ∀ jobId ∈ left.jobIds, jobId ∉ right.jobIds
  held
    : ∀ poll ∈ state.polls.rows,
        poll.phase = .selected
        → ∀ jobId ∈ poll.jobIds,
            ∃ row, state.jobRuns.get? jobId = some row ∧ isPendingFor poll.agentId row = true
  owned
    : ∀ poll ∈ state.polls.rows,
        poll.phase ≠ .selected
        → poll.phase ≠ .failed
        → ∀ jobId ∈ poll.jobIds,
            ∃ row,
              state.jobRuns.get? jobId = some row
              ∧ row.agentId = poll.agentId
              ∧ row.status ≠ JobStatus.pending.value
  complete
    : ∀ poll ∈ state.polls.rows,
        ∀ jobIds,
          poll.phase = .reloaded jobIds ∨ poll.phase = .responded jobIds
          → jobIds.Perm poll.jobIds

/-- Without polls there is nothing to relate. -/
theorem consistent_initial (jobRuns : Table JobRun.jobId)
    : Consistent ⟨jobRuns, .empty⟩ := by
  constructor <;> exact fun _ member => nomatch member

/-- A phase change of a poll that has not failed keeps what does not depend on the phase. -/
theorem Consistent.apart_setPhase {state : State} (consistent : Consistent state) {poll : Poll}
    (member : poll ∈ state.polls.rows) (live : poll.phase ≠ .failed) (phase : PollPhase)
    : let next := state.setPhase poll.pollId phase
      (∀ poll ∈ next.polls.rows, poll.jobIds.Nodup)
      ∧ ∀ left ∈ next.polls.rows, ∀ right ∈ next.polls.rows,
          left.phase ≠ .failed → right.phase ≠ .failed → left.pollId ≠ right.pollId →
            ∀ jobId ∈ left.jobIds, jobId ∉ right.jobIds := by
  have origin {changed : Poll} (found : changed ∈ (state.setPhase poll.pollId phase).polls.rows)
      (kept : changed.phase ≠ .failed)
      : ∃ old ∈ state.polls.rows,
          old.phase ≠ .failed ∧ old.pollId = changed.pollId ∧ old.jobIds = changed.jobIds := by
    obtain ⟨old, oldMember, rfl⟩ := mem_setPhase.mp found
    by_cases same : old.pollId = poll.pollId
    · obtain rfl := Table.eq_of_key oldMember member same
      exact ⟨old, oldMember, live, by simp, by simp⟩
    · simp only [same, if_false] at kept ⊢
      exact ⟨old, oldMember, kept, rfl, rfl⟩
  constructor
  · intro changed found
    obtain ⟨old, oldMember, rfl⟩ := mem_setPhase.mp found
    split <;> exact consistent.distinct old oldMember
  · intro left leftFound right rightFound leftLive rightLive different
    obtain ⟨oldLeft, leftMember, leftOld, leftId, leftJobs⟩ := origin leftFound leftLive
    obtain ⟨oldRight, rightMember, rightOld, rightId, rightJobs⟩ := origin rightFound rightLive
    rw [← leftJobs, ← rightJobs]
    exact consistent.apart oldLeft leftMember oldRight rightMember leftOld rightOld
      (leftId ▸ rightId ▸ different)

/-- A reload that saw exactly the rows a poll holds is a permutation of its jobs. -/
theorem reloaded_perm {state : State} (consistent : Consistent state) {poll : Poll}
    (member : poll ∈ state.polls.rows) (phase : poll.phase = .claimed) {jobIds : List UUID}
    (rows
      : jobIds.Perm
          ((state.jobRuns.rows.map JobRun.jobId).filter (fun jobId => jobId ∈ poll.jobIds)))
    : jobIds.Perm poll.jobIds := by
  refine rows.trans ((List.perm_ext_iff_of_nodup ?_ (consistent.distinct poll member)).mpr ?_)
  · exact state.jobRuns.unique.filter _
  · intro jobId
    simp only [List.mem_filter, decide_eq_true_eq, and_iff_right_iff_imp]
    intro claimed
    obtain ⟨row, found, _⟩ := consistent.owned poll member (by simp [phase]) (by simp [phase])
      jobId claimed
    exact Table.key_of_get? found ▸ List.mem_map_of_mem (Table.mem_of_get? found)

/-- What a locking select has checked of each row. -/
theorem selectable_iff {state : State} {agentId : UUID} {jobIds : List UUID}
    : state.selectable agentId jobIds = true
      ↔ jobIds.Nodup
        ∧ ∀ jobId ∈ jobIds,
            (∃ row, state.jobRuns.get? jobId = some row ∧ isPendingFor agentId row = true)
            ∧ state.locked jobId = false := by
  simp [State.selectable, Option.any_eq_true]

/-- A selectable row belongs to no other poll: one that holds it has it locked, and one that
claimed it has made it something else than pending.
-/
theorem selectable_unclaimed {state : State} (consistent : Consistent state) {agentId : UUID}
    {jobIds : List UUID} (selectable : state.selectable agentId jobIds = true) {poll : Poll}
    (member : poll ∈ state.polls.rows) (live : poll.phase ≠ .failed) {jobId : UUID}
    (among : jobId ∈ jobIds)
    : jobId ∉ poll.jobIds := by
  intro claimed
  obtain ⟨⟨row, found, pending⟩, unlocked⟩ := (selectable_iff.mp selectable).2 jobId among
  by_cases holds : poll.phase = .selected
  · have locked : state.locked jobId = true :=
      List.any_eq_true.mpr ⟨poll, member, by simp [holds, claimed]⟩
    rw [locked] at unlocked
    cases unlocked
  · obtain ⟨same, sameFound, _, status⟩ := consistent.owned poll member holds live jobId claimed
    cases found.symm.trans sameFound
    simp only [isPendingFor, decide_eq_true_eq] at pending
    exact status pending.2

/-- A poll that keeps its rows owned may move on to a later phase. -/
theorem Consistent.setPhase {state : State} (consistent : Consistent state) {poll : Poll}
    (member : poll ∈ state.polls.rows) (live : poll.phase ≠ .failed)
    {phase : PollPhase} (passed : poll.phase ≠ .selected ∨ phase = .failed)
    (later : phase ≠ .selected)
    (complete
      : ∀ jobIds, phase = .reloaded jobIds ∨ phase = .responded jobIds →
          jobIds.Perm poll.jobIds)
    : Consistent (state.setPhase poll.pollId phase) := by
  obtain ⟨distinct, apart⟩ := consistent.apart_setPhase member live phase
  refine ⟨distinct, apart, ?_, ?_, ?_⟩
  · intro changed found selected
    obtain ⟨old, oldMember, rfl⟩ := mem_setPhase.mp found
    by_cases same : old.pollId = poll.pollId
    · simp only [same, if_true] at selected
      exact absurd selected later
    · simp only [same, if_false] at selected ⊢
      exact consistent.held old oldMember selected
  · intro changed found notSelected notFailed
    obtain ⟨old, oldMember, rfl⟩ := mem_setPhase.mp found
    by_cases same : old.pollId = poll.pollId
    · obtain rfl := Table.eq_of_key oldMember member same
      simp only [if_true] at notFailed ⊢
      rcases passed with passed | failed
      · exact consistent.owned old oldMember passed live
      · exact absurd failed notFailed
    · simp only [same, if_false] at notSelected notFailed ⊢
      exact consistent.owned old oldMember notSelected notFailed
  · intro changed found jobIds reached
    obtain ⟨old, oldMember, rfl⟩ := mem_setPhase.mp found
    by_cases same : old.pollId = poll.pollId
    · obtain rfl := Table.eq_of_key oldMember member same
      simp only [if_true] at reached ⊢
      exact complete jobIds reached
    · simp only [same, if_false] at reached ⊢
      exact consistent.complete old oldMember jobIds reached

/-- Job rows may change as long as held rows stay pending and claimed rows stay claimed. -/
theorem Consistent.withJobRuns {state : State} (consistent : Consistent state)
    {jobRuns : Table JobRun.jobId}
    (held
      : ∀ jobId row, state.locked jobId = true → state.jobRuns.get? jobId = some row →
          jobRuns.get? jobId = some row)
    (owned
      : ∀ jobId row,
          state.jobRuns.get? jobId = some row
          → row.status ≠ JobStatus.pending.value
          → ∃ next,
              jobRuns.get? jobId = some next
              ∧ next.agentId = row.agentId
              ∧ next.status ≠ JobStatus.pending.value)
    : Consistent { state with jobRuns } := by
  refine ⟨consistent.distinct, consistent.apart, ?_, ?_, consistent.complete⟩
  · intro poll member selected jobId among
    obtain ⟨row, found, pending⟩ := consistent.held poll member selected jobId among
    have locked : state.locked jobId = true :=
      List.any_eq_true.mpr ⟨poll, member, by simp [selected, among]⟩
    exact ⟨row, held jobId row locked found, pending⟩
  · intro poll member notSelected notFailed jobId among
    obtain ⟨row, found, agent, status⟩ :=
      consistent.owned poll member notSelected notFailed jobId among
    obtain ⟨next, nextFound, nextAgent, nextStatus⟩ := owned jobId row found status
    exact ⟨next, nextFound, nextAgent.trans agent, nextStatus⟩

/-- A locking select adds a poll that shares no row with another. -/
theorem Consistent.select {state : State} (consistent : Consistent state) {pollId : Nat}
    {agentId : UUID} {jobIds : List UUID} {polls : Table Poll.pollId}
    (selectable : state.selectable agentId jobIds = true)
    (inserted
      : state.polls.insert ⟨pollId, agentId, jobIds,
          if jobIds.isEmpty then .responded [] else .selected⟩
        = some polls)
    : Consistent { state with polls } := by
  obtain ⟨_, rows⟩ := Table.insert_eq_some_iff.mp inserted
  have members {poll : Poll} (found : poll ∈ polls.rows)
      : poll ∈ state.polls.rows
        ∨ poll
          = ⟨pollId, agentId, jobIds, if jobIds.isEmpty then .responded [] else .selected⟩ := by
    rw [rows] at found
    simpa using found
  have guard := selectable_iff.mp selectable
  have unclaimed {poll : Poll} (member : poll ∈ state.polls.rows) (live : poll.phase ≠ .failed)
      {jobId : UUID} (among : jobId ∈ jobIds) : jobId ∉ poll.jobIds :=
    selectable_unclaimed consistent selectable member live among
  constructor
  · intro poll found
    rcases members found with old | rfl
    · exact consistent.distinct poll old
    · exact guard.1
  · intro left leftFound right rightFound leftLive rightLive different jobId among
    rcases members leftFound with leftOld | rfl <;> rcases members rightFound with rightOld | rfl
    · exact consistent.apart left leftOld right rightOld leftLive rightLive different jobId among
    · exact fun claimed => unclaimed leftOld leftLive claimed among
    · exact unclaimed rightOld rightLive among
    · exact absurd rfl different
  · intro poll found selected jobId among
    rcases members found with old | rfl
    · exact consistent.held poll old selected jobId among
    · exact (guard.2 jobId among).1
  · intro poll found notSelected notFailed jobId among
    rcases members found with old | rfl
    · exact consistent.owned poll old notSelected notFailed jobId among
    · cases jobIds with
      | nil => cases among
      | cons _ _ => simp at notSelected
  · intro poll found order reached
    rcases members found with old | rfl
    · exact consistent.complete poll old order reached
    · cases jobIds with
      | nil => simpa [eq_comm] using reached
      | cons _ _ => simp at reached

/-- A commit makes the rows of one poll its own; no other poll holds any of them. -/
theorem Consistent.commit {state : State} (consistent : Consistent state) {poll : Poll}
    (member : poll ∈ state.polls.rows) (phase : poll.phase = .selected)
    : Consistent { state.setPhase poll.pollId .claimed with
        jobRuns := markDispatched state.jobRuns poll.jobIds } := by
  have live : poll.phase ≠ .failed := by simp [phase]
  obtain ⟨distinct, apart⟩ := consistent.apart_setPhase member live .claimed
  refine ⟨distinct, apart, ?_, ?_, ?_⟩
  · intro changed found selected jobId among
    obtain ⟨old, oldMember, rfl⟩ := mem_setPhase.mp found
    by_cases same : old.pollId = poll.pollId
    · simp [same] at selected
    · simp only [same, if_false] at selected among ⊢
      obtain ⟨row, rowFound, pending⟩ := consistent.held old oldMember selected jobId among
      have unclaimed := consistent.apart old oldMember poll member (by simp [selected]) live same
        jobId among
      exact ⟨row, get?_markDispatched_eq_some_iff.mpr ⟨row, rowFound, by rw [if_neg unclaimed]⟩,
        pending⟩
  · intro changed found notSelected notFailed jobId among
    obtain ⟨old, oldMember, rfl⟩ := mem_setPhase.mp found
    by_cases same : old.pollId = poll.pollId
    · obtain rfl := Table.eq_of_key oldMember member same
      simp only [if_true] at among ⊢
      obtain ⟨row, rowFound, pending⟩ := consistent.held old oldMember phase jobId among
      simp only [isPendingFor, decide_eq_true_eq] at pending
      refine ⟨row.dispatched, ?_, pending.1, row.dispatched_not_pending⟩
      exact get?_markDispatched_eq_some_iff.mpr ⟨row, rowFound, by rw [if_pos among]⟩
    · simp only [same, if_false] at notSelected notFailed among ⊢
      obtain ⟨row, rowFound, agent, status⟩ :=
        consistent.owned old oldMember notSelected notFailed jobId among
      refine ⟨_, get?_markDispatched_eq_some_iff.mpr ⟨row, rowFound, rfl⟩, ?_, ?_⟩
      · split <;> exact agent
      · split
        · exact row.dispatched_not_pending
        · exact status
  · intro changed found jobIds reached
    obtain ⟨old, oldMember, rfl⟩ := mem_setPhase.mp found
    by_cases same : old.pollId = poll.pollId
    · simp [same] at reached
    · simp only [same, if_false] at reached ⊢
      exact consistent.complete old oldMember jobIds reached

/-- Every step keeps the invariant, by cases of the step. -/
theorem Consistent.step {state next : State} {event : Event} (consistent : Consistent state)
    (stepped : step state event = some next)
    : Consistent next := by
  cases step_takes stepped with
  | @select pollId agentId jobIds polls selectable inserted =>
      exact consistent.select selectable inserted
  | @commit poll member phase => exact consistent.commit member phase
  | @reload poll jobIds member phase rows =>
      refine consistent.setPhase member (by simp [phase]) (Or.inl (by simp [phase]))
        (by simp) ?_
      intro order reached
      obtain rfl : jobIds = order := by simpa using reached
      exact reloaded_perm consistent member phase rows
  | @respond poll jobIds member phase =>
      refine consistent.setPhase member (by simp [phase]) (Or.inl (by simp [phase]))
        (by simp) ?_
      intro order reached
      obtain rfl : jobIds = order := by simpa using reached
      exact consistent.complete poll member jobIds (Or.inl phase)
  | @fail poll member live _ =>
      exact consistent.setPhase member live (Or.inr rfl) (by simp) (by simp)
  | @enqueue jobId pipelineId agentId jobRuns inserted =>
      exact consistent.withJobRuns
        (fun _ _ _ found => Table.get?_insert_of_some inserted found)
        (fun _ row found status =>
          ⟨row, Table.get?_insert_of_some inserted found, rfl, status⟩)
  | @report report now row found unlocked =>
      have others {jobId : UUID} (different : jobId ≠ report.jobId)
          : (reportJob state.jobRuns report.jobId report.body now).get? jobId
            = state.jobRuns.get? jobId := by
        rw [reportJob, Table.get?_modify, if_neg different]
      refine consistent.withJobRuns ?_ ?_
      · intro jobId held locked heldFound
        rw [others, heldFound]
        intro same
        subst same
        rw [locked] at unlocked
        cases unlocked
      · intro jobId old oldFound status
        by_cases same : jobId = report.jobId
        · subst same
          refine ⟨old.report report.body now, ?_, ?_, ?_⟩
          · rw [reportJob, Table.get?_modify, if_pos rfl, oldFound, Option.map_some]
          · exact congrArg Prod.snd (old.report_fixed report.body now)
          · rw [old.report_status]
            exact report.body_not_pending
        · exact ⟨old, by rw [others same, oldFound], rfl, status⟩

-----------------------------------------------------------------------------------------
-- Responses over a run
-----------------------------------------------------------------------------------------

/-- A poll that has responded stays as it is, by cases of the step. -/
theorem responded_final {state next : State} {event : Event}
    (stepped : step state event = some next) {poll : Poll} (member : poll ∈ state.polls.rows)
    {jobIds : List UUID} (responded : poll.phase = .responded jobIds)
    : poll ∈ next.polls.rows := by
  have kept {moved : Poll} {phase : PollPhase} (found : moved ∈ state.polls.rows)
      (earlier : moved.phase ≠ .responded jobIds)
      : poll ∈ (state.setPhase moved.pollId phase).polls.rows := by
    refine mem_setPhase.mpr ⟨poll, member, ?_⟩
    rw [if_neg]
    intro same
    exact earlier (Table.eq_of_key found member same.symm ▸ responded)
  cases step_takes stepped with
  | select selectable inserted =>
      obtain ⟨_, rows⟩ := Table.insert_eq_some_iff.mp inserted
      exact rows ▸ List.mem_append_left _ member
  | commit found phase => exact kept found (by simp [phase])
  | reload found phase _ => exact kept found (by simp [phase])
  | respond found phase => exact kept found (by simp [phase])
  | fail found live unanswered => exact kept found (unanswered jobIds)
  | enqueue inserted => exact member
  | report found unlocked => exact member

/-- A response stays on record to the end of the run. -/
theorem responded_kept {state last : State} {events : List Event}
    (ran : run step state events = some last) {poll : Poll} (member : poll ∈ state.polls.rows)
    {jobIds : List UUID} (responded : poll.phase = .responded jobIds)
    : poll ∈ last.polls.rows :=
  @run_invariant _ _ step (fun state => poll ∈ state.polls.rows)
    (fun member stepped => responded_final stepped member responded) _ _ _ member ran

/-- In every state the responses name no job twice. -/
theorem Consistent.dispatched_nodup {state : State} (consistent : Consistent state)
    : state.dispatched.Nodup := by
  have responded {poll : Poll} {jobId : UUID} (named : jobId ∈ poll.response)
      : ∃ jobIds, poll.phase = .responded jobIds ∧ jobId ∈ jobIds := by
    unfold Poll.response at named
    split at named
    · next jobIds phase => exact ⟨jobIds, phase, named⟩
    · cases named
  refine List.nodup_flatMap.mpr ⟨fun poll member => ?_, ?_⟩
  · unfold Poll.response
    split
    · next jobIds phase =>
        exact (consistent.complete poll member jobIds (Or.inr phase)).nodup_iff.mpr
          (consistent.distinct poll member)
    · exact List.nodup_nil
  · have keys := List.pairwise_map.mp state.polls.unique
    refine keys.imp_of_mem fun {left right} leftMember rightMember different => ?_
    intro jobId leftNamed rightNamed
    obtain ⟨leftIds, leftPhase, leftAmong⟩ := responded leftNamed
    obtain ⟨rightIds, rightPhase, rightAmong⟩ := responded rightNamed
    have leftClaimed := (consistent.complete left leftMember leftIds (Or.inr leftPhase)).subset
      leftAmong
    have rightClaimed :=
      (consistent.complete right rightMember rightIds (Or.inr rightPhase)).subset rightAmong
    exact consistent.apart left leftMember right rightMember (by simp [leftPhase])
      (by simp [rightPhase]) different jobId leftClaimed rightClaimed

/-- In every run from any job table, each job is named by at most one of all the responses
given and once in it, a response names exactly the jobs its poll claimed, and each is a job
of the poll's agent.
-/
theorem dispatch_at_most_once {jobRuns : Table JobRun.jobId} {events : List Event}
    {last : State} (ran : run step ⟨jobRuns, .empty⟩ events = some last)
    : (∀ before after middle,
        events = before ++ after
        → run step ⟨jobRuns, .empty⟩ before = some middle
        → ∀ poll ∈ middle.polls.rows, ∀ jobIds, poll.phase = .responded jobIds →
            poll ∈ last.polls.rows)
      ∧ last.dispatched.Nodup
      ∧ ∀ poll ∈ last.polls.rows, ∀ jobIds, poll.phase = .responded jobIds →
          jobIds.Perm poll.jobIds
          ∧ ∀ jobId ∈ jobIds,
              ∃ row, last.jobRuns.get? jobId = some row ∧ row.agentId = poll.agentId := by
  have consistent : Consistent last :=
    run_invariant (fun holds stepped => holds.step stepped) (consistent_initial jobRuns) ran
  refine ⟨?_, consistent.dispatched_nodup, fun poll member jobIds responded => ?_⟩
  · intro before after middle whole first poll member jobIds responded
    subst whole
    obtain ⟨same, reached, rest⟩ := run_append_iff.mp ran
    cases first.symm.trans reached
    exact responded_kept rest member responded
  have claimed := consistent.complete poll member jobIds (Or.inr responded)
  refine ⟨claimed, fun jobId among => ?_⟩
  obtain ⟨row, found, agent, _⟩ := consistent.owned poll member (by simp [responded])
    (by simp [responded]) jobId (claimed.subset among)
  exact ⟨row, found, agent⟩

/-- Two polls of one agent race for a job; only one of them is given it. -/
theorem dispatch_at_most_once_race
    : ∃ last,
        run step ⟨⟨[{ jobId := ⟨31⟩, pipelineId := ⟨21⟩, agentId := ⟨1⟩ }], by decide⟩, .empty⟩
            [.select 1 ⟨1⟩ [⟨31⟩], .select 2 ⟨1⟩ [], .commit 1, .reload 1 [⟨31⟩], .respond 1]
          = some last
        ∧ last.dispatched = [⟨31⟩]
        ∧ last.dispatched.Nodup :=
  ⟨_, rfl, by decide, (@dispatch_at_most_once
    ⟨[{ jobId := ⟨31⟩, pipelineId := ⟨21⟩, agentId := ⟨1⟩ }], by decide⟩
    [.select 1 ⟨1⟩ [⟨31⟩], .select 2 ⟨1⟩ [], .commit 1, .reload 1 [⟨31⟩], .respond 1] _ rfl).2.1⟩

end Turbocat.Orchestrator.Dispatch
