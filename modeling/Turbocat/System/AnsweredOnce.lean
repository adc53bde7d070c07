import Turbocat.System.Provenance

/-! A job is answered at most once, and only one task, report or waiting payload at a time
can still settle it.
-/

namespace Turbocat.System

open Turbocat.Library Turbocat.Python Turbocat.Connectors Turbocat.Orchestrator Turbocat.Agent

def BuiltPayload.jobId (entry : BuiltPayload) : UUID := entry.payload.jobId

def Answer.jobId (answer : Answer) : UUID := answer.built.jobId

def LoadedJob.jobId (loaded : LoadedJob) : UUID := loaded.job.jobId

/-- A poll's loop works through its reloaded jobs in order, and each answer names another
job of a poll that responded.
-/
structure AnsweredOnce (state : State) : Prop where
  building
    : ∀ poll ∈ state.polls.rows, ∀ jobIds, poll.phase = .reloaded jobIds →
        (state.builds poll.pollId).built.map BuiltPayload.jobId
            ++ (state.builds poll.pollId).remaining.map LoadedJob.jobId
          = jobIds
  responded
    : ∀ answer ∈ state.log.answers,
        ∃ poll ∈ state.polls.rows, ∃ jobIds,
          poll.phase = .responded jobIds
          ∧ poll.agentId = answer.agentId
          ∧ answer.jobId ∈ jobIds
  once : (state.log.answers.map Answer.jobId).Nodup

/-- Where no poll reloads or responds, each reloaded poll was one before, by cases of the
step.
-/
theorem reloaded_before {state next : Dispatch.State} {event : Dispatch.Event}
    (contending : contends event = true) (stepped : Dispatch.step state event = some next)
    {poll : Dispatch.Poll} (member : poll ∈ next.polls.rows) {jobIds : List UUID}
    (reloaded : poll.phase = .reloaded jobIds)
    : poll ∈ state.polls.rows := by
  have moved {pollId : Nat} {phase : Dispatch.PollPhase} (other : phase ≠ .reloaded jobIds)
      (found : poll ∈ (state.setPhase pollId phase).polls.rows)
      : poll ∈ state.polls.rows := by
    obtain ⟨old, stored, rfl⟩ := Dispatch.mem_setPhase.mp found
    split at reloaded <;> rename_i same
    · exact absurd reloaded other
    · rw [if_neg same]
      exact stored
  cases Dispatch.step_takes stepped with
  | @select pollId agentId claimed polls _ inserted =>
      rcases List.mem_append.mp ((Table.insert_eq_some_iff.mp inserted).2 ▸ member)
        with old | new
      · exact old
      · rw [List.mem_singleton.mp new] at reloaded
        dsimp only at reloaded
        split at reloaded <;> cases reloaded
  | commit _ _ => exact moved (by simp) member
  | reload _ _ _ => cases contending
  | respond _ _ => cases contending
  | fail _ _ _ => exact moved (by simp) member
  | enqueue _ => exact member
  | report _ _ => cases contending

/-- A responding poll had reloaded exactly the jobs it names. -/
theorem respond_inversion {state next : Dispatch.State} {pollId : Nat}
    (stepped : Dispatch.step state (.respond pollId) = some next)
    : ∃ poll ∈ state.polls.rows, ∃ jobIds,
        poll.pollId = pollId
        ∧ poll.phase = .reloaded jobIds
        ∧ next = state.setPhase pollId (.responded jobIds) := by
  generalize respond : Dispatch.Event.respond pollId = event at stepped
  cases Dispatch.step_takes stepped with
  | @respond poll jobIds member phase =>
      cases respond
      exact ⟨poll, member, jobIds, rfl, phase, rfl⟩
  | select _ _ => cases respond
  | commit _ _ => cases respond
  | reload _ _ _ => cases respond
  | fail _ _ _ => cases respond
  | enqueue _ => cases respond
  | report _ _ => cases respond

/-- A reloading poll saw the rows of the jobs it names. -/
theorem reload_inversion {state next : Dispatch.State} {pollId : Nat} {jobIds : List UUID}
    (stepped : Dispatch.step state (.reload pollId jobIds) = some next)
    : (∀ jobId ∈ jobIds, ∃ row, state.jobRuns.get? jobId = some row)
      ∧ next = state.setPhase pollId (.reloaded jobIds) := by
  generalize reload : Dispatch.Event.reload pollId jobIds = event at stepped
  cases Dispatch.step_takes stepped with
  | @reload poll reloaded member phase rows =>
      cases reload
      refine ⟨fun jobId among => ?_, rfl⟩
      have known := (List.mem_filter.mp (rows.subset among)).1
      obtain ⟨row, stored, rfl⟩ := List.mem_map.mp known
      exact ⟨row, Table.get?_of_mem stored⟩
  | select _ _ => cases reload
  | commit _ _ => cases reload
  | respond _ _ => cases reload
  | fail _ _ _ => cases reload
  | enqueue _ => cases reload
  | report _ _ => cases reload

/-- The loaded jobs of stored rows, in the order asked for. -/
theorem loadedJobs_ids {db : Db} {jobIds : List UUID}
    (stored : ∀ jobId ∈ jobIds, ∃ row, db.jobRuns.get? jobId = some row)
    : (loadedJobs db jobIds).map LoadedJob.jobId = jobIds := by
  induction jobIds with
  | nil => rfl
  | cons jobId rest ih =>
      obtain ⟨row, found⟩ := stored jobId List.mem_cons_self
      have later := ih (fun other among => stored other (List.mem_cons_of_mem _ among))
      unfold loadedJobs at later ⊢
      rw [List.filterMap_cons, found, Option.map_some, List.map_cons, later]
      have own : row.jobId = jobId := Table.key_of_get? found
      exact congrArg (· :: rest) own

/-- Answers stay answers of polls that responded. -/
theorem AnsweredOnce.responded_kept {state : State} (once : AnsweredOnce state)
    {event : Dispatch.Event} {dispatch : Dispatch.State}
    (stepped : Dispatch.step state.dispatch event = some dispatch)
    : ∀ answer ∈ state.log.answers,
        ∃ poll ∈ dispatch.polls.rows, ∃ jobIds,
          poll.phase = .responded jobIds
          ∧ poll.agentId = answer.agentId
          ∧ answer.jobId ∈ jobIds := by
  intro answer member
  obtain ⟨poll, stored, jobIds, phase, agent, named⟩ := once.responded answer member
  exact ⟨poll, Dispatch.responded_final stepped stored phase, jobIds, phase, agent, named⟩

/-- The jobs of a reloaded poll are named by no answer so far. -/
theorem AnsweredOnce.unanswered {state : State} (once : AnsweredOnce state)
    (consistent : Dispatch.Consistent state.dispatch) {poll : Dispatch.Poll}
    (member : poll ∈ state.polls.rows) {jobIds : List UUID}
    (phase : poll.phase = .reloaded jobIds)
    : jobIds.Nodup ∧ ∀ jobId ∈ jobIds, jobId ∉ state.log.answers.map Answer.jobId := by
  have claimed := consistent.complete poll member jobIds (Or.inl phase)
  refine ⟨claimed.nodup_iff.mpr (consistent.distinct poll member), fun jobId among answered => ?_⟩
  obtain ⟨answer, earlier, rfl⟩ := List.mem_map.mp answered
  obtain ⟨other, otherMember, otherIds, otherPhase, _, named⟩ := once.responded answer earlier
  have different : poll.pollId ≠ other.pollId := by
    intro same
    cases Table.eq_of_key member otherMember same
    rw [phase] at otherPhase
    cases otherPhase
  have otherClaimed := consistent.complete other otherMember otherIds (Or.inr otherPhase)
  exact consistent.apart poll member other otherMember (by simp [phase]) (by simp [otherPhase])
    different answer.jobId (claimed.subset among) (otherClaimed.subset named)

/-- A step that changes no poll, build or answer keeps the invariant. -/
theorem AnsweredOnce.of_same {state next : State} (once : AnsweredOnce state)
    (polls : next.polls = state.polls) (builds : next.builds = state.builds)
    (answers : next.log.answers = state.log.answers)
    : AnsweredOnce next where
  building := fun poll member => by
    rw [builds]
    exact once.building poll (polls ▸ member)
  responded := fun answer member => by
    rw [polls]
    exact once.responded answer (answers ▸ member)
  once := answers ▸ once.once

theorem AnsweredOnce.contend {state : State} (once : AnsweredOnce state)
    {event : Dispatch.Event} {dispatch : Dispatch.State} (contending : contends event = true)
    (stepped : Dispatch.step state.dispatch event = some dispatch)
    : AnsweredOnce (state.dispatched dispatch) where
  building := fun poll member jobIds phase =>
    once.building poll (reloaded_before contending stepped member phase) jobIds phase
  responded := once.responded_kept stepped
  once := once.once

theorem AnsweredOnce.reload {state : State} (once : AnsweredOnce state) {pollId : Nat}
    {jobIds : List UUID} {dispatch : Dispatch.State}
    (stepped : Dispatch.step state.dispatch (.reload pollId jobIds) = some dispatch)
    : AnsweredOnce
        { state.dispatched dispatch with
          builds := Function.update state.builds pollId ⟨loadedJobs state.db jobIds, []⟩ } where
  building := by
    obtain ⟨stored, rfl⟩ := reload_inversion stepped
    intro poll member reloaded phase
    obtain ⟨old, oldMember, rfl⟩ := Dispatch.mem_setPhase.mp member
    by_cases same : old.pollId = pollId
    · rw [if_pos same] at phase ⊢
      cases phase
      dsimp only
      rw [same, Function.update_self]
      exact loadedJobs_ids stored
    · rw [if_neg same] at phase ⊢
      dsimp only
      rw [Function.update_of_ne same]
      exact once.building old oldMember reloaded phase
  responded := once.responded_kept stepped
  once := once.once

theorem AnsweredOnce.build {platform : Platform} {state : State} (once : AnsweredOnce state)
    {fetch : String → Except PyException Json} {now : Datetime} {pollId : Nat}
    {loaded : LoadedJob} {remaining : List LoadedJob} {connection : Connection}
    {payload : JobPayload} (turn : (state.builds pollId).remaining = loaded :: remaining)
    (made : buildPayload platform fetch now loaded = .ok payload)
    : AnsweredOnce (state.built pollId remaining ⟨connection, payload⟩) where
  building := by
    intro poll member jobIds phase
    have old := once.building poll member jobIds phase
    simp only [State.built]
    by_cases same : poll.pollId = pollId
    · obtain ⟨_, _, _, _, _, _, _, _, _, rfl⟩ := buildPayload_ok_iff.mp made
      rw [same, turn, List.map_cons] at old
      rw [same, Function.update_self, List.map_append, List.append_assoc]
      exact old
    · rw [Function.update_of_ne same]
      exact old
  responded := once.responded
  once := once.once

theorem AnsweredOnce.respond {state : State} (once : AnsweredOnce state)
    (consistent : Dispatch.Consistent state.dispatch) {poll : Dispatch.Poll}
    {dispatch : Dispatch.State} (member : poll ∈ state.polls.rows)
    (done : (state.builds poll.pollId).remaining = [])
    (stepped : Dispatch.step state.dispatch (.respond poll.pollId) = some dispatch)
    : AnsweredOnce ((state.dispatched dispatch).answered poll.pollId poll.agentId) := by
  have kept := once.responded_kept stepped
  obtain ⟨found, foundMember, jobIds, same, phase, rfl⟩ := respond_inversion stepped
  cases Table.eq_of_key foundMember member same
  have ids := once.building poll member jobIds phase
  rw [done, List.map_nil, List.append_nil] at ids
  obtain ⟨distinct, fresh⟩ := once.unanswered consistent member phase
  constructor
  · intro other otherMember otherIds otherPhase
    obtain ⟨old, oldMember, rfl⟩ := Dispatch.mem_setPhase.mp otherMember
    split at otherPhase <;> rename_i sameId
    · cases otherPhase
    · rw [if_neg sameId]
      exact once.building old oldMember otherIds otherPhase
  · intro answer answered
    rcases List.mem_append.mp answered with new | old
    · obtain ⟨entry, among, rfl⟩ := List.mem_map.mp new
      refine ⟨{ poll with phase := .responded jobIds },
        Dispatch.mem_setPhase.mpr ⟨poll, member, by rw [if_pos rfl]⟩, jobIds, rfl, rfl, ?_⟩
      exact ids ▸ List.mem_map_of_mem among
    · exact kept answer old
  · have newIds : ((state.builds poll.pollId).built.map
          (fun entry => (⟨poll.agentId, entry⟩ : Answer))).map Answer.jobId = jobIds := by
      rw [List.map_map]
      exact ids
    simp only [State.answered, State.dispatched, List.map_append, newIds]
    exact List.nodup_append.mpr ⟨distinct, once.once,
      fun jobId among other answered same => fresh jobId among (same ▸ answered)⟩

/-- Every step keeps the invariant, by cases of the step. -/
theorem AnsweredOnce.step {platform : Platform} {state next : State} {event : Event}
    (once : AnsweredOnce state) (consistent : Dispatch.Consistent state.dispatch)
    (stepped : step platform state event = some next)
    : AnsweredOnce next := by
  cases step_takes stepped with
  | start _ => exact once.of_same rfl rfl rfl
  | stop => exact once.of_same rfl rfl rfl
  | request _ => exact once.of_same rfl rfl rfl
  | tick _ _ moved => exact once.contend rfl moved
  | contend contending _ moved => exact once.contend contending moved
  | reload moved => exact once.reload moved
  | build _ _ turn made _ => exact once.build turn made
  | respond member done moved => exact once.respond consistent member done moved
  | work _ => exact once.of_same rfl rfl rfl
  | @act number payload action rest found =>
      cases action with
      | report report => exact once.of_same rfl rfl rfl
      | synced run => exact once.of_same rfl rfl rfl
  | process _ _ _ => exact once.of_same rfl rfl rfl
  | lose => exact once.of_same rfl rfl rfl
  | crash => exact once.of_same rfl rfl rfl
  | drop => exact once.of_same rfl rfl rfl

theorem answeredOnce_initial (agents : Table Agent.agentId) (secrets : SecretStore)
    : AnsweredOnce (State.initial agents secrets) where
  building := fun _ member => nomatch member
  responded := fun _ member => nomatch member
  once := List.nodup_nil

/-- Every reachable state has answered each job at most once. -/
theorem run_answeredOnce {platform : Platform} {agents : Table Agent.agentId}
    {secrets : SecretStore} {events : List Event} {last : State}
    (ran : run (System.step platform) (State.initial agents secrets) events = some last)
    : AnsweredOnce last := by
  have both : Dispatch.Consistent last.dispatch ∧ AnsweredOnce last :=
    @run_invariant _ _ (System.step platform)
      (fun state => Dispatch.Consistent state.dispatch ∧ AnsweredOnce state)
      (fun holds stepped =>
        ⟨step_consistent holds.1 stepped, holds.2.step holds.1 stepped⟩)
      (State.initial agents secrets) _ _
      ⟨Dispatch.consistent_initial .empty, answeredOnce_initial agents secrets⟩ ran
  exact both.2

end Turbocat.System
