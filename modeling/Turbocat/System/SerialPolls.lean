import Turbocat.Orchestrator.FailedPolls
import Turbocat.System.AnsweredOnce

/-! A poll that nothing comes between: its steps do, one after the other, what
`get_pending_jobs` does as one function.
-/

namespace Turbocat.System

open Turbocat.Library Turbocat.Python Turbocat.Connectors Turbocat.Orchestrator Turbocat.Agent

/-- The steps of one poll. -/
def Event.OfPoll (pollId : Nat) : Event → Prop
  | .select other _ _ => other = pollId
  | .commit other => other = pollId
  | .reload other _ => other = pollId
  | .build other _ _ => other = pollId
  | .respond other => other = pollId
  | .abort other => other = pollId
  | _ => False

-----------------------------------------------------------------------------------------
-- The steps of a poll
-----------------------------------------------------------------------------------------

/-- A state that differs from an earlier one by what a single poll has done: its own phase
and payloads, and the job rows.
-/
structure Alone (start : State) (jobRuns : Table JobRun.jobId) (poll : Dispatch.Poll)
    (loop : Build) (state : State)
    : Prop where
  same
    : ∃ polls builds log,
        state = { start with db := { start.db with jobRuns }, polls, builds, log }
  phase : state.polls.get? poll.pollId = some poll
  others
    : ∀ pollId, pollId ≠ poll.pollId → state.polls.get? pollId = start.polls.get? pollId
  building : state.builds poll.pollId = loop

section

variable {platform : Platform} {start state : State} {jobRuns : Table JobRun.jobId}
  {poll : Dispatch.Poll} {loop : Build}

theorem Alone.jobRuns_eq (alone : Alone start jobRuns poll loop state)
    : state.db.jobRuns = jobRuns := by
  obtain ⟨_, _, _, rfl⟩ := alone.same
  rfl

theorem Alone.secrets_eq (alone : Alone start jobRuns poll loop state)
    : state.secrets = start.secrets := by
  obtain ⟨_, _, _, rfl⟩ := alone.same
  rfl

/-- The poll moves on to another phase, perhaps with a claim on job rows. -/
theorem Alone.moves (alone : Alone start jobRuns poll loop state)
    (phase : Dispatch.PollPhase) (rows : Table JobRun.jobId)
    : Alone start rows { poll with phase } loop
        (state.dispatched ⟨rows, (state.dispatch.setPhase poll.pollId phase).polls⟩) where
  same := by
    obtain ⟨_, _, _, rfl⟩ := alone.same
    exact ⟨_, _, _, rfl⟩
  phase := by
    have found : state.dispatch.polls.get? poll.pollId = some poll := alone.phase
    simp only [State.dispatched, Dispatch.State.setPhase, Table.get?_modify, if_true, found,
      Option.map_some]
  others := by
    intro pollId other
    simp only [State.dispatched, Dispatch.State.setPhase, Table.get?_modify, if_neg other]
    exact alone.others pollId other
  building := alone.building

/-- A poll that has not ended can end without a response. -/
theorem Alone.fail (alone : Alone start jobRuns poll loop state)
    (live : poll.phase ≠ .failed) (unanswered : ∀ jobIds, poll.phase ≠ .responded jobIds)
    : ∃ dispatch,
        Dispatch.step state.dispatch (.fail poll.pollId) = some dispatch
        ∧ Alone start jobRuns { poll with phase := .failed } loop
            (state.dispatched dispatch) := by
  have found : state.dispatch.polls.get? poll.pollId = some poll := alone.phase
  have rows : state.dispatch.jobRuns = jobRuns := alone.jobRuns_eq
  refine ⟨⟨jobRuns, (state.dispatch.setPhase poll.pollId .failed).polls⟩, ?_,
    alone.moves .failed jobRuns⟩
  rw [← rows]
  simp only [Dispatch.step, found]
  cases phase : poll.phase with
  | responded jobIds => exact absurd phase (unanswered jobIds)
  | failed => exact absurd phase live
  | selected | claimed | reloaded _ => rfl

theorem Alone.abort (alone : Alone start jobRuns poll loop state)
    (live : poll.phase ≠ .failed) (unanswered : ∀ jobIds, poll.phase ≠ .responded jobIds)
    : ∃ next,
        step platform state (.abort poll.pollId) = some next
        ∧ Alone start jobRuns { poll with phase := .failed } loop next := by
  obtain ⟨dispatch, moved, after⟩ := alone.fail live unanswered
  exact ⟨_, Option.map_eq_some_iff.mpr ⟨dispatch, moved, rfl⟩, after⟩

theorem Alone.commit (alone : Alone start jobRuns poll loop state)
    (phase : poll.phase = .selected)
    : ∃ next,
        step platform state (.commit poll.pollId) = some next
        ∧ Alone start (markDispatched jobRuns poll.jobIds) { poll with phase := .claimed } loop
            next := by
  have found : state.dispatch.polls.get? poll.pollId = some poll := alone.phase
  have rows : state.dispatch.jobRuns = jobRuns := alone.jobRuns_eq
  refine ⟨_, Option.map_eq_some_iff.mpr ⟨_, ?_, rfl⟩, alone.moves .claimed _⟩
  simp only [Dispatch.step, found, if_pos phase, rows]

/-- The reload of a claim sees the claimed rows in any order. -/
theorem Alone.reload (alone : Alone start jobRuns poll loop state)
    (phase : poll.phase = .claimed) {jobIds : List UUID}
    (seen
      : jobIds.Perm ((jobRuns.rows.map JobRun.jobId).filter (fun jobId => jobId ∈ poll.jobIds)))
    : ∃ next,
        step platform state (.reload poll.pollId jobIds) = some next
        ∧ Alone start jobRuns { poll with phase := .reloaded jobIds }
            ⟨loadedJobs { start.db with jobRuns } jobIds, []⟩ next := by
  have found : state.dispatch.polls.get? poll.pollId = some poll := alone.phase
  have rows : state.dispatch.jobRuns = jobRuns := alone.jobRuns_eq
  have moved := alone.moves (.reloaded jobIds) jobRuns
  have db : state.db = { start.db with jobRuns } := by
    obtain ⟨_, _, _, rfl⟩ := alone.same
    rfl
  refine ⟨_, Option.map_eq_some_iff.mpr ⟨⟨jobRuns, _⟩, ?_, rfl⟩, ?_, moved.phase, moved.others,
    ?_⟩
  · simp only [Dispatch.step, found]
    rw [rows, if_pos ⟨phase, seen⟩, ← rows]
    rfl
  · obtain ⟨_, _, _, rfl⟩ := alone.same
    exact ⟨_, _, _, rfl⟩
  · simp only [db, Function.update_self]

/-- A turn of the loop whose payload can be built. -/
theorem Alone.build {remaining : List LoadedJob} {built : List BuiltPayload}
    {loaded : LoadedJob} (alone : Alone start jobRuns poll ⟨loaded :: remaining, built⟩ state)
    {jobIds : List UUID} (phase : poll.phase = .reloaded jobIds) {fault : Option String}
    {now : Datetime} {payload : JobPayload}
    (made : buildPayload platform (getSecret start.secrets fault) now loaded = .ok payload)
    : ∃ next connection,
        step platform state (.build poll.pollId fault now) = some next
        ∧ Alone start jobRuns poll ⟨remaining, built ++ [⟨connection, payload⟩]⟩ next := by
  obtain ⟨_, connection, _, _, _, found, _⟩ := buildPayload_ok_iff.mp made
  obtain ⟨pollId, agentId, selected, phase_⟩ := poll
  cases phase
  rw [← alone.secrets_eq] at made
  refine ⟨state.built pollId remaining ⟨connection, payload⟩, connection, ?_, ?_⟩
  · simp only [step, alone.phase, alone.building, made, found]
  · refine ⟨?_, alone.phase, alone.others, ?_⟩
    · obtain ⟨_, _, _, rfl⟩ := alone.same
      exact ⟨_, _, _, rfl⟩
    · simp only [State.built, Function.update_self, alone.building]

/-- A turn of the loop that raises ends the poll. -/
theorem Alone.build_raises {remaining : List LoadedJob} {built : List BuiltPayload}
    {loaded : LoadedJob} (alone : Alone start jobRuns poll ⟨loaded :: remaining, built⟩ state)
    {jobIds : List UUID} (phase : poll.phase = .reloaded jobIds) {fault : Option String}
    {now : Datetime} {exception : PyException}
    (raised : buildPayload platform (getSecret start.secrets fault) now loaded = .error exception)
    : ∃ next,
        step platform state (.build poll.pollId fault now) = some next
        ∧ Alone start jobRuns { poll with phase := .failed } ⟨loaded :: remaining, built⟩
            next := by
  obtain ⟨dispatch, moved, after⟩ := alone.fail (by simp [phase]) (by simp [phase])
  refine ⟨state.dispatched dispatch, ?_, after⟩
  obtain ⟨pollId, agentId, selected, phase_⟩ := poll
  cases phase
  rw [← alone.secrets_eq] at raised
  simp only [step, alone.phase, alone.building, raised]
  exact Option.map_eq_some_iff.mpr ⟨dispatch, moved, rfl⟩

/-- What a poll has done when it has ended: it may have claimed rows, and its response, if it
got that far, waits at its agent.
-/
structure Ended (start : State) (db : Db) (pollId : Nat) (answer : Option (List JobPayload))
    (state : State)
    : Prop where
  same
    : ∃ polls builds log,
        state
          = { start with db, polls, builds, log, waiting := start.waiting ++ answer.getD [] }
  ended
    : ∃ poll,
        state.polls.get? pollId = some poll
        ∧ match answer with
          | none => poll.phase = .failed
          | some payloads => poll.phase = .responded (payloads.map (fun payload => payload.jobId))
  others : ∀ other, other ≠ pollId → state.polls.get? other = start.polls.get? other

/-- A failed poll has ended without an answer. -/
theorem Alone.ended (alone : Alone start jobRuns poll loop state) (failed : poll.phase = .failed)
    : Ended start { start.db with jobRuns } poll.pollId none state := by
  refine ⟨?_, ⟨poll, alone.phase, failed⟩, alone.others⟩
  obtain ⟨polls, builds, log, rfl⟩ := alone.same
  exact ⟨polls, builds, log, by simp⟩

theorem Alone.answered_eq (alone : Alone start jobRuns poll loop state) (agentId : UUID)
    (dispatch : Dispatch.State)
    : (state.dispatched dispatch).answered poll.pollId agentId
      = { start with
          db := { start.db with jobRuns := dispatch.jobRuns }
          polls := dispatch.polls
          builds := state.builds
          waiting :=
            start.waiting ++ (state.builds poll.pollId).built.map (fun entry => entry.payload)
          log := ((state.dispatched dispatch).answered poll.pollId agentId).log } := by
  obtain ⟨polls, builds, log, rfl⟩ := alone.same
  rfl

/-- A poll that has built all its payloads responds with them. -/
theorem Alone.respond {built : List BuiltPayload}
    (alone : Alone start jobRuns poll ⟨[], built⟩ state) {jobIds : List UUID}
    (phase : poll.phase = .reloaded jobIds)
    (ids : jobIds = built.map (fun entry => entry.payload.jobId))
    : ∃ next,
        step platform state (.respond poll.pollId) = some next
        ∧ Ended start { start.db with jobRuns } poll.pollId
            (some (built.map (fun entry => entry.payload))) next := by
  have found : state.dispatch.polls.get? poll.pollId = some poll := alone.phase
  have rows : state.dispatch.jobRuns = jobRuns := alone.jobRuns_eq
  have moved := alone.moves (.responded jobIds) jobRuns
  have stepped
      : Dispatch.step state.dispatch (.respond poll.pollId)
        = some ⟨jobRuns, (state.dispatch.setPhase poll.pollId (.responded jobIds)).polls⟩ := by
    rw [← rows]
    simp only [Dispatch.step, found, phase]
    rfl
  refine
    ⟨(state.dispatched
        ⟨jobRuns, (state.dispatch.setPhase poll.pollId (.responded jobIds)).polls⟩).answered
        poll.pollId poll.agentId,
      ?_, ⟨?_, ?_, moved.others⟩⟩
  · simp only [step, alone.phase, alone.building]
    exact Option.map_eq_some_iff.mpr ⟨_, stepped, rfl⟩
  · have entries : (state.builds poll.pollId).built = built :=
      congrArg Build.built alone.building
    have same :=
      @Alone.answered_eq start state jobRuns poll _ alone poll.agentId
        ⟨jobRuns, (state.dispatch.setPhase poll.pollId (.responded jobIds)).polls⟩
    rw [same, entries]
    exact ⟨_, _, _, rfl⟩
  · refine ⟨_, moved.phase, ?_⟩
    simp only [ids, List.map_map]
    rfl

/-- The loop over the reloaded jobs comes to what `buildPayloads` returns or raises, by
induction over the jobs.
-/
theorem Alone.turns {faults : Nat → Option String} {clock : Nat → Datetime}
    {jobIds : List UUID} (phase : poll.phase = .reloaded jobIds) {remaining : List LoadedJob}
    {built : List BuiltPayload} {number : Nat}
    (alone : Alone start jobRuns poll ⟨remaining, built⟩ state)
    : match
        buildPayloads platform (fun position => getSecret start.secrets (faults position)) clock
          number remaining
      with
      | .ok payloads =>
          ∃ next more,
            Reaches (step platform) (Event.OfPoll poll.pollId) state next
            ∧ Alone start jobRuns poll ⟨[], built ++ more⟩ next
            ∧ more.map (fun entry => entry.payload) = payloads
      | .error _ =>
          ∃ next left,
            Reaches (step platform) (Event.OfPoll poll.pollId) state next
            ∧ Alone start jobRuns { poll with phase := .failed } left next := by
  induction remaining generalizing built number state with
  | nil =>
      refine ⟨state, [], .refl state, ?_, rfl⟩
      rw [List.append_nil]
      exact alone
  | cons loaded rest ih =>
      cases made : buildPayload platform (getSecret start.secrets (faults number)) (clock number)
          loaded with
      | error exception =>
          obtain ⟨next, stepped, failed⟩ := alone.build_raises phase made
          simp only [buildPayloads, made, bind, Except.bind]
          exact ⟨next, _, .single stepped rfl, failed⟩
      | ok payload =>
          obtain ⟨next, connection, stepped, after⟩ := alone.build phase made
          have first : Reaches (step platform) (Event.OfPoll poll.pollId) state next :=
            .single stepped rfl
          have later := @ih next (built ++ [⟨connection, payload⟩]) (number + 1) after
          simp only [buildPayloads, made, bind, Except.bind]
          cases others : buildPayloads platform
              (fun position => getSecret start.secrets (faults position)) clock (number + 1)
              rest with
          | error exception =>
              rw [others] at later
              obtain ⟨last, left, reaches, failed⟩ := later
              exact ⟨last, left, first.trans reaches, failed⟩
          | ok payloads =>
              rw [others] at later
              obtain ⟨last, more, reaches, ends, same⟩ := later
              refine ⟨last, ⟨connection, payload⟩ :: more, first.trans reaches, ?_, ?_⟩
              · rw [List.append_assoc] at ends
                exact ends
              · exact congrArg (payload :: ·) same

-----------------------------------------------------------------------------------------
-- A whole poll
-----------------------------------------------------------------------------------------

/-- A poll that selects rows holds them. -/
theorem alone_selected {pollId : Nat} {agentId : UUID} {jobIds : List UUID}
    (fresh : start.polls.get? pollId = none)
    (selectable : start.dispatch.selectable agentId jobIds = true) (nonempty : jobIds ≠ [])
    : ∃ next,
        step platform start (.select pollId agentId jobIds) = some next
        ∧ Alone start start.db.jobRuns ⟨pollId, agentId, jobIds, .selected⟩
            (start.builds pollId) next := by
  obtain ⟨polls, inserted⟩ :=
    @Table.insert_isSome _ _ Dispatch.Poll.pollId _ start.polls
      ⟨pollId, agentId, jobIds, .selected⟩ fresh
  have stepped
      : Dispatch.step start.dispatch (.select pollId agentId jobIds)
        = some { start.dispatch with polls } := by
    have some_ : jobIds.isEmpty = false := by simpa using nonempty
    simp only [Dispatch.step, if_pos selectable, some_, Bool.false_eq_true, if_false]
    exact Option.map_eq_some_iff.mpr ⟨polls, inserted, rfl⟩
  refine ⟨_, Option.map_eq_some_iff.mpr ⟨_, stepped, rfl⟩, ⟨polls, start.builds, start.log, rfl⟩,
    ?_, fun other different => ?_, rfl⟩
  · exact (Table.get?_insert inserted pollId).trans (if_pos rfl)
  · exact (Table.get?_insert inserted other).trans (if_neg different.symm)

/-- A poll that selects no row responds at once. -/
theorem ended_nothing {pollId : Nat} {agentId : UUID} (fresh : start.polls.get? pollId = none)
    : ∃ next,
        step platform start (.select pollId agentId []) = some next
        ∧ Ended start start.db pollId (some []) next := by
  obtain ⟨polls, inserted⟩ :=
    @Table.insert_isSome _ _ Dispatch.Poll.pollId _ start.polls
      ⟨pollId, agentId, [], .responded []⟩ fresh
  have stepped
      : Dispatch.step start.dispatch (.select pollId agentId [])
        = some { start.dispatch with polls } := by
    have selectable : start.dispatch.selectable agentId [] = true := rfl
    simp only [Dispatch.step, if_pos selectable]
    exact Option.map_eq_some_iff.mpr ⟨polls, inserted, rfl⟩
  refine ⟨_, Option.map_eq_some_iff.mpr ⟨_, stepped, rfl⟩, ⟨polls, start.builds, start.log, ?_⟩,
    ⟨_, (Table.get?_insert inserted pollId).trans (if_pos rfl), rfl⟩, fun other different => ?_⟩
  · simp only [Option.getD_some, List.append_nil]
    rfl
  · exact (Table.get?_insert inserted other).trans (if_neg different.symm)

/-- The reload of stored rows loads them with what they are related to. -/
theorem loadedJobs_stored {db : Db} {jobs : List JobRun}
    (stored : ∀ job ∈ jobs, job ∈ db.jobRuns.rows)
    : loadedJobs db (jobs.map (fun job => job.jobId)) = jobs.map db.load := by
  unfold loadedJobs
  induction jobs with
  | nil => rfl
  | cons job rest ih =>
      obtain ⟨member, others⟩ := List.forall_mem_cons.mp stored
      rw [List.map_cons, List.filterMap_cons, Table.get?_of_mem member, Option.map_some, ih others,
        List.map_cons]

/-- The payloads of a response are those of the loaded jobs, each with a clock reading as the
end of its window, by induction over the jobs.
-/
theorem buildPayloads_origin {fetch : Nat → String → Except PyException Json}
    {clock : Nat → Datetime} {number : Nat} {jobs : List LoadedJob} {payloads : List JobPayload}
    (made : buildPayloads platform fetch clock number jobs = .ok payloads)
    : payloads.map (fun payload => payload.jobId) = jobs.map (fun loaded => loaded.job.jobId)
      ∧ ∀ payload ∈ payloads,
          ∃ loaded ∈ jobs, ∃ position,
            payload.jobId = loaded.job.jobId
            ∧ payload.pipelineId = loaded.job.pipelineId
            ∧ payload.endTime = some (clock position) := by
  induction jobs generalizing number payloads with
  | nil =>
      cases made
      exact ⟨rfl, fun _ member => absurd member List.not_mem_nil⟩
  | cons loaded rest ih =>
      obtain ⟨payload, built, remaining⟩ := bind_eq_ok_iff.mp made
      obtain ⟨others, later, same⟩ := bind_eq_ok_iff.mp remaining
      cases same
      obtain ⟨_, _, _, _, _, _, _, _, _, rfl⟩ := buildPayload_ok_iff.mp built
      obtain ⟨ids, origins⟩ := ih later
      refine ⟨congrArg (_ :: ·) ids, List.forall_mem_cons.mpr ⟨?_, fun payload member => ?_⟩⟩
      · exact ⟨loaded, List.mem_cons_self, number, rfl, rfl, rfl⟩
      · obtain ⟨origin, among, facts⟩ := origins payload member
        exact ⟨origin, List.mem_cons_of_mem _ among, facts⟩

/-- What the reload of a claim sees, as a poll and as the whole function have it. -/
theorem reload_claimed (env : PollEnv) (db : Db) (agentId : UUID)
    : let jobIds := (selectedJobs env db agentId).map (fun job => job.jobId)
      let claimed : Db := { db with jobRuns := markDispatched db.jobRuns jobIds }
      (claimed.jobRuns.rows.map JobRun.jobId).filter (fun jobId => jobId ∈ jobIds) = jobIds
      ∧ loadedJobs claimed jobIds = claimed.reload jobIds
      ∧ (claimed.reload jobIds).map (fun loaded => loaded.job.jobId) = jobIds := by
  intro jobIds claimed
  have reloads := reload_selected env db agentId
  have ids : (claimed.reload jobIds).map (fun loaded => loaded.job.jobId) = jobIds := by
    rw [reloads, List.map_map]
    rfl
  have rows
      : (claimed.jobRuns.rows.filter (fun job => decide (job.jobId ∈ jobIds))).map JobRun.jobId
        = jobIds := by
    rw [Db.reload, List.map_map] at ids
    exact ids
  refine ⟨?_, ?_, ids⟩
  · rw [List.filter_map]
    exact rows
  · have stored := @loadedJobs_stored claimed
      (claimed.jobRuns.rows.filter (fun job => decide (job.jobId ∈ jobIds)))
      (fun job member => (List.mem_filter.mp member).1)
    rw [rows] at stored
    exact stored

/-- The rows a poll selects when it runs alone may be selected together. -/
theorem selectedJobs_selectable {env : PollEnv} (locks : env.locked = start.dispatch.locked)
    (agentId : UUID)
    : start.dispatch.selectable agentId
        ((selectedJobs env start.db agentId).map (fun job => job.jobId))
      = true := by
  refine Dispatch.selectable_iff.mpr ⟨?_, fun jobId among => ?_⟩
  · exact start.db.jobRuns.unique.sublist (List.filter_sublist.map _)
  · obtain ⟨job, member, rfl⟩ := List.mem_map.mp among
    obtain ⟨stored, passes⟩ := List.mem_filter.mp member
    rw [Bool.and_eq_true, locks, Bool.not_eq_true'] at passes
    exact ⟨⟨job, Table.get?_of_mem stored, passes.1⟩, passes.2⟩

end

/-- From every state, the steps of a new poll with nothing between them can do what
`get_pending_jobs` does in one piece, whatever faults its commit, its reload and its fetches
meet: the same rows are claimed, and the same payloads come back or none do.
-/
theorem poll_uninterrupted {platform : Platform} {state : State} {env : PollEnv}
    {faults : Nat → Option String} {pollId : Nat} (agentId : UUID)
    (fresh : state.polls.get? pollId = none) (locks : env.locked = state.dispatch.locked)
    (fetches : env.fetch = fun number => getSecret state.secrets (faults number))
    : let result := getPendingJobs platform env state.db agentId
      ∃ last,
        Reaches (step platform) (Event.OfPoll pollId) state last
        ∧ Ended state result.1 pollId result.2.toOption last := by
  intro result
  cases selection : selectedJobs env state.db agentId with
  | nil =>
      obtain ⟨last, stepped, ended⟩ := @ended_nothing platform state pollId agentId fresh
      have same : result = (state.db, .ok []) := by
        simp only [result, getPendingJobs, selection, List.isEmpty_nil, if_true]
      rw [same]
      exact ⟨last, .single stepped rfl, ended⟩
  | cons first others =>
      have selectable := selectedJobs_selectable locks agentId
      have some_ : (selectedJobs env state.db agentId).isEmpty = false := by
        rw [selection]
        rfl
      obtain ⟨seen, loads, ids⟩ := reload_claimed env state.db agentId
      have nonempty : (selectedJobs env state.db agentId).map (fun job => job.jobId) ≠ [] := by
        rw [selection]
        exact List.cons_ne_nil _ _
      generalize chosen
        : (selectedJobs env state.db agentId).map (fun job => job.jobId) = jobIds
        at selectable nonempty seen loads ids
      obtain ⟨held, selects, holds⟩ :=
        @alone_selected platform state pollId agentId jobIds fresh selectable nonempty
      have toHeld : Reaches (step platform) (Event.OfPoll pollId) state held :=
        .single selects rfl
      simp only [result, getPendingJobs, some_, Bool.false_eq_true, if_false, chosen]
      cases env.commitFault with
      | some exception =>
          -- The transaction is rolled back.
          obtain ⟨last, stepped, after⟩ := @Alone.abort platform _ _ _ _ _ holds (by simp) (by simp)
          exact ⟨last, toHeld.trans (.single stepped rfl), after.ended rfl⟩
      | none =>
          obtain ⟨claimed, commits, claims⟩ := @Alone.commit platform _ _ _ _ _ holds rfl
          have toClaimed := toHeld.trans (.single commits rfl)
          cases env.reloadFault with
          | some exception =>
              obtain ⟨last, stepped, after⟩ :=
                @Alone.abort platform _ _ _ _ _ claims (by simp) (by simp)
              exact ⟨last, toClaimed.trans (.single stepped rfl), after.ended rfl⟩
          | none =>
              obtain ⟨reloaded, reloads, alone⟩ :=
                @Alone.reload platform _ _ _ _ _ claims rfl jobIds (.of_eq seen.symm)
              have toReloaded := toClaimed.trans (.single reloads rfl)
              rw [loads] at alone
              have turns := @Alone.turns platform _ _ _ _ faults env.clock jobIds rfl _ _ 0 alone
              simp only [fetches]
              cases made : buildPayloads platform
                  (fun number => getSecret state.secrets (faults number)) env.clock 0
                  (Db.reload
                    { state.db with jobRuns := markDispatched state.db.jobRuns jobIds } jobIds) with
              | error exception =>
                  rw [made] at turns
                  obtain ⟨last, left, toLast, failed⟩ := turns
                  exact ⟨last, toReloaded.trans toLast, failed.ended rfl⟩
              | ok payloads =>
                  rw [made] at turns
                  obtain ⟨done, entries, toDone, complete, same⟩ := turns
                  rw [List.nil_append] at complete
                  have named : jobIds = entries.map (fun entry => entry.payload.jobId) := by
                    rw [← ids, ← (buildPayloads_origin made).1, ← same, List.map_map]
                    rfl
                  obtain ⟨last, responds, ended⟩ :=
                    @Alone.respond platform _ _ _ _ _ complete jobIds rfl named
                  rw [same] at ended
                  exact ⟨last, toReloaded.trans (toDone.trans (.single responds rfl)), ended⟩

end Turbocat.System
