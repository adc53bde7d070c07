import Turbocat.System.Provenance

/-! The secret behind a connection is what its account last submitted for its source: saving
another connection of the source replaces it.
-/

namespace Turbocat.System

open Turbocat.Library Turbocat.Python Turbocat.Connectors Turbocat.Orchestrator Turbocat.Agent

/-- The credentials an account submitted last for a source. -/
def latest (submissions : List Submission) (accountId : UUID) (source : String)
    : Option (List (String × String)) :=
  (submissions.find?
    (fun submission => decide (submission.accountId = accountId ∧ submission.source = source))).map
      (fun submission => submission.credentials)

theorem latest_cons (submission : Submission) (earlier : List Submission) (accountId : UUID)
    (source : String)
    : latest (submission :: earlier) accountId source
      = if submission.accountId = accountId ∧ submission.source = source
        then some submission.credentials
        else latest earlier accountId source := by
  unfold latest
  rw [List.find?_cons]
  by_cases same : submission.accountId = accountId ∧ submission.source = source
  · simp [same]
  · simp only [same, decide_false, if_false]

/-- A request leaves no account without a submission it had. -/
theorem latest_of_earlier (new : Option Submission) {earlier : List Submission}
    {accountId : UUID} {source : String} {credentials : List (String × String)}
    (before : latest earlier accountId source = some credentials)
    : ∃ credentials, latest (new.toList ++ earlier) accountId source = some credentials := by
  cases new with
  | none => exact ⟨credentials, before⟩
  | some entry =>
      rw [Option.toList_some, List.singleton_append, latest_cons]
      split
      · exact ⟨_, rfl⟩
      · exact ⟨credentials, before⟩

theorem mem_of_latest {submissions : List Submission} {accountId : UUID} {source : String}
    {credentials : List (String × String)}
    (found : latest submissions accountId source = some credentials)
    : (⟨accountId, source, credentials⟩ : Submission) ∈ submissions := by
  obtain ⟨⟨submitter, submittedSource, submitted⟩, first, rfl⟩ := Option.map_eq_some_iff.mp found
  have own := List.find?_some first
  simp only [decide_eq_true_eq] at own
  obtain ⟨rfl, rfl⟩ := own
  exact List.mem_of_find?_eq_some first

/-- A request writes the secret of its submission and no other. -/
theorem handle_secrets (platform : Platform) (backend : Backend) (call : Call)
    : (Orchestrator.serve platform backend call).1.secrets
      = match submission call with
        | none => backend.secrets
        | some submitted =>
            Function.update backend.secrets
              (secretRefOf submitted.accountId submitted.source)
              (some (.decoded (credentialsJson submitted.credentials))) := by
  obtain ⟨accountId, env, request⟩ := call
  have effect := handle_effect platform env backend accountId request
  cases request with
  | createConnection name source credentials =>
      simp only [Orchestrator.serve, handle, createConnection, putSecret, submission]
      cases env.putFault with
      | some error => rfl
      | none =>
          simp only [Option.isNone_none, if_true]
          split
          · rfl
          · split <;> rfl
  | testConnection source credentials => exact effect.keeps_secrets (by simp)
  | listConnections => exact effect.keeps_secrets (by simp)
  | testSavedConnection connectionId => exact effect.keeps_secrets (by simp)
  | listSchema connectionId => exact effect.keeps_secrets (by simp)
  | bulkCreatePipelines agentId connectionId tables => exact effect.keeps_secrets (by simp)
  | getPipeline pipelineId => exact effect.keeps_secrets (by simp)
  | listPipelines => exact effect.keeps_secrets (by simp)
  | deactivatePipeline pipelineId => exact effect.keeps_secrets (by simp)

-----------------------------------------------------------------------------------------
-- The invariant
-----------------------------------------------------------------------------------------

/-- The store holds the latest submission of each account for each source, and no connection
was saved without one.
-/
structure Vault (state : State) : Prop where
  derived : state.db.RefsDerived
  held
    : ∀ accountId source credentials,
        latest state.log.submissions accountId source = some credentials →
          state.secrets (secretRefOf accountId source)
            = some (.decoded (credentialsJson credentials))
  saved
    : ∀ connection ∈ state.db.connections.rows,
        ∃ credentials,
          latest state.log.submissions connection.accountId connection.source
            = some credentials

/-- What is fetched for a connection is its account's latest submission for its source. -/
theorem Vault.fetched {state : State} (vault : Vault state) {connection : Connection}
    (member : connection ∈ state.db.connections.rows)
    : ∃ credentials,
        latest state.log.submissions connection.accountId connection.source = some credentials
        ∧ getSecret state.secrets none connection.secretRef = .ok (credentialsJson credentials) := by
  obtain ⟨credentials, submitted⟩ := vault.saved connection member
  refine ⟨credentials, submitted, getSecret_ok_iff.mpr ⟨rfl, ?_⟩⟩
  rw [vault.derived connection member]
  exact vault.held _ _ _ submitted

/-- A step that leaves connections, secrets and submissions alone keeps the invariant. -/
theorem Vault.of_same {state next : State} (vault : Vault state)
    (connections : next.db.connections = state.db.connections)
    (secrets : next.secrets = state.secrets)
    (submissions : next.log.submissions = state.log.submissions)
    : Vault next where
  derived := fun connection member => vault.derived connection (connections ▸ member)
  held := by
    rw [secrets, submissions]
    exact vault.held
  saved := by
    rw [connections, submissions]
    exact vault.saved

/-- A request keeps the invariant: a new connection comes with its submission. -/
theorem Vault.request {state : State} (vault : Vault state) (platform : Platform)
    (process : Nat) (scheduler : Scheduler) (call : Call)
    : Vault (state.serve platform process scheduler call) where
  derived :=
    handle_keeps_refs platform call.env call.accountId call.request vault.derived
  held := by
    intro accountId source credentials submitted
    have written := handle_secrets platform ⟨state.db, state.secrets, scheduler⟩ call
    simp only [State.serve] at submitted ⊢
    rw [written]
    cases new : submission call with
    | none =>
        rw [new] at submitted
        exact vault.held _ _ _ submitted
    | some entry =>
        rw [new, Option.toList_some, List.singleton_append, latest_cons] at submitted
        dsimp only
        split at submitted
        · next own =>
            cases submitted
            rw [own.1, own.2, Function.update_self]
        · next other =>
            rw [Function.update_of_ne, vault.held _ _ _ submitted]
            intro same
            exact other ⟨(secretRefOf_inj same).1.symm, (secretRefOf_inj same).2.symm⟩
  saved := by
    have kept : ∀ connection ∈ state.db.connections.rows,
        ∃ credentials,
          latest ((submission call).toList ++ state.log.submissions) connection.accountId
              connection.source
            = some credentials := by
      intro connection member
      obtain ⟨credentials, before⟩ := vault.saved connection member
      exact latest_of_earlier (submission call) before
    have effect := handle_effect platform call.env ⟨state.db, state.secrets, scheduler⟩
      call.accountId call.request
    simp only [State.serve, Orchestrator.serve]
    generalize (handle platform call.env ⟨state.db, state.secrets, scheduler⟩ call.accountId
      call.request).1 = backend at effect ⊢
    generalize requested : call.request = request at effect
    cases effect with
    | unchanged => exact kept
    | stored _ => exact kept
    | created accepted inserted own source _ =>
        intro connection member
        rcases List.mem_append.mp ((Table.insert_eq_some_iff.mp inserted).2 ▸ member)
          with old | new
        · exact kept connection old
        · rw [List.mem_singleton.mp new, own, source]
          simp [submission, requested, accepted, latest_cons]
    | @tested connectionId connection status _ _ =>
        intro row member
        obtain ⟨old, stored, rfl⟩ := (Table.mem_modify state.db.connections connectionId
          (fun row => row.retested status call.env.now) (fun _ => rfl)).mp member
        split
        · exact kept old stored
        · exact kept old stored
    | bulk _ _ inserted =>
        intro connection member
        exact kept connection ((insertPipelines_ok inserted).2.1 ▸ member)
    | deactivated _ _ => exact kept

/-- Every step keeps the invariant, by cases of the step. -/
theorem Vault.step {platform : Platform} {state next : State} {event : Event}
    (vault : Vault state) (stepped : step platform state event = some next)
    : Vault next := by
  cases step_takes stepped with
  | start _ => exact vault.of_same rfl rfl rfl
  | stop => exact vault.of_same rfl rfl rfl
  | request _ => exact vault.request platform _ _ _
  | tick _ _ _ => exact vault.of_same rfl rfl rfl
  | contend _ _ _ => exact vault.of_same rfl rfl rfl
  | reload _ => exact vault.of_same rfl rfl rfl
  | build _ _ _ _ _ => exact vault.of_same rfl rfl rfl
  | respond _ _ _ => exact vault.of_same rfl rfl rfl
  | work _ => exact vault.of_same rfl rfl rfl
  | @act number payload action rest found =>
      cases action <;> exact vault.of_same rfl rfl rfl
  | process _ _ updated =>
      obtain ⟨_, _, _, rfl⟩ := updateJobStatus_some updated
      exact vault.of_same rfl rfl rfl
  | lose => exact vault.of_same rfl rfl rfl
  | crash => exact vault.of_same rfl rfl rfl
  | drop => exact vault.of_same rfl rfl rfl

theorem vault_initial (agents : Table Agent.agentId) (secrets : SecretStore)
    : Vault (State.initial agents secrets) where
  derived := fun _ member => nomatch member
  held := fun _ _ _ submitted => nomatch submitted
  saved := fun _ member => nomatch member

/-- A payload made from a snapshot holds the latest submission for its connection. -/
theorem Vault.payload {platform : Platform} {state : State} (vault : Vault state)
    {loaded : LoadedJob} {connection : Connection} {fault : Option String} {now : Datetime}
    {payload : JobPayload} (grounded : Grounded state.db ⟨connection, payload⟩)
    (made
      : buildPayload platform (getSecret state.secrets fault) now loaded = .ok payload)
    (found : loaded.connection = some connection)
    : ∃ credentials,
        latest state.log.submissions connection.accountId connection.source = some credentials
        ∧ credentialsJson credentials = .dict payload.credentials := by
  obtain ⟨_, loadedConnection, _, _, _, loads, _, fetched, _, rfl⟩ :=
    buildPayload_ok_iff.mp made
  cases found.symm.trans loads
  obtain ⟨row, stored, fixed⟩ := grounded.connection
  obtain ⟨credentials, submitted, held⟩ := vault.fetched (Table.mem_of_get? stored)
  have account : row.accountId = connection.accountId :=
    (congrArg Connection.accountId fixed :)
  have source : row.source = connection.source := (congrArg Connection.source fixed :)
  have secretRef : row.secretRef = connection.secretRef :=
    (congrArg Connection.secretRef fixed :)
  rw [account, source] at submitted
  rw [secretRef, getSecret_ok_iff] at held
  obtain ⟨_, inStore⟩ := getSecret_ok_iff.mp fetched
  have same := held.2.symm.trans inStore
  simp only [Option.some.injEq, SecretString.decoded.injEq] at same
  exact ⟨credentials, submitted, same⟩

/-- A payload that a step adds holds the latest submission for its connection. -/
theorem Vault.built {platform : Platform} {state next : State} {event : Event}
    (vault : Vault state) (provenance : Provenance platform state)
    (stepped : System.step platform state event = some next) {entry : BuiltPayload}
    (member : entry ∈ next.log.built)
    : entry ∈ state.log.built
      ∨ ∃ credentials,
          latest state.log.submissions entry.connection.accountId entry.connection.source
            = some credentials
          ∧ credentialsJson credentials = .dict entry.payload.credentials := by
  cases step_takes stepped with
  | @build getFault now loaded remaining connection payload poll jobIds _ _ turn made found =>
      rcases List.mem_cons.mp member with rfl | old
      · have snapshot := provenance.snapshots poll.pollId loaded (turn ▸ List.mem_cons_self)
        exact Or.inr (vault.payload (snapshot.grounded made found) made found)
      · exact Or.inl old
  | @act number payload action rest found =>
      cases action <;> exact Or.inl member
  | start _ => exact Or.inl member
  | stop => exact Or.inl member
  | request _ => exact Or.inl member
  | tick _ _ _ => exact Or.inl member
  | contend _ _ _ => exact Or.inl member
  | reload _ => exact Or.inl member
  | respond _ _ _ => exact Or.inl member
  | work _ => exact Or.inl member
  | process _ _ _ => exact Or.inl member
  | lose => exact Or.inl member
  | crash => exact Or.inl member
  | drop => exact Or.inl member

/-- A saved connection is tested again with its account's latest submission. -/
theorem Vault.retest {state : State} (vault : Vault state) (platform : Platform)
    (env : RequestEnv) (scheduler : Scheduler) {connection : Connection}
    (member : connection ∈ state.db.connections.rows) (reachable : env.getFault = none)
    : ∃ credentials,
        latest state.log.submissions connection.accountId connection.source = some credentials
        ∧ (testSavedConnection platform env ⟨state.db, state.secrets, scheduler⟩
            connection.accountId connection.connectionId).2
          = match runTest platform env connection.source (credentialsJson credentials) with
            | .error response => response
            | .ok (status, error) =>
                match env.commitFault with
                | some exception => .serverError exception
                | none => .ok (.test (decide (status = .active)) error) := by
  obtain ⟨credentials, submitted, fetched⟩ := vault.fetched member
  refine ⟨credentials, submitted, ?_⟩
  have own : ownRow Connection.accountId "Connection not found" connection.accountId
      (state.db.connections.get? connection.connectionId) = .ok connection :=
    ownRow_ok_iff.mpr ⟨Table.get?_of_mem member, rfl⟩
  simp only [testSavedConnection, own, reachable, fetched]
  cases runTest platform env connection.source (credentialsJson credentials) with
  | error response => rfl
  | ok tested =>
      obtain ⟨status, error⟩ := tested
      simp only [RequestEnv.commit]
      cases env.commitFault <;> rfl

/-- The secret of every saved connection is in the store in every reachable state. -/
theorem run_vault {platform : Platform} {agents : Table Agent.agentId}
    {secrets : SecretStore} {events : List Event} {last : State}
    (ran : run (step platform) (State.initial agents secrets) events = some last)
    : Vault last :=
  run_invariant (fun vault stepped => vault.step stepped) (vault_initial agents secrets) ran

/-- Every payload holds credentials that were submitted for its connection's account and
source.
-/
theorem run_submitted {platform : Platform} {agents : Table Agent.agentId}
    {secrets : SecretStore} {events : List Event} {last : State}
    (ran : run (step platform) (State.initial agents secrets) events = some last)
    : ∀ entry ∈ last.log.built,
        ∃ submission ∈ last.log.submissions,
          submission.accountId = entry.connection.accountId
          ∧ submission.source = entry.connection.source
          ∧ credentialsJson submission.credentials = .dict entry.payload.credentials := by
  let Submitted (state : State) : Prop :=
    ∀ entry ∈ state.log.built,
      ∃ submission ∈ state.log.submissions,
        submission.accountId = entry.connection.accountId
        ∧ submission.source = entry.connection.source
        ∧ credentialsJson submission.credentials = .dict entry.payload.credentials
  have all : (Vault last ∧ Provenance platform last) ∧ Submitted last := by
    refine @run_invariant _ _ (step platform)
      (fun state => (Vault state ∧ Provenance platform state) ∧ Submitted state)
      (fun holds stepped => ?_) (State.initial agents secrets) _ _
      ⟨⟨vault_initial agents secrets, provenance_initial platform agents secrets⟩,
        fun _ member => nomatch member⟩ ran
    obtain ⟨⟨vault, provenance⟩, submitted⟩ := holds
    refine ⟨⟨vault.step stepped, provenance.step stepped⟩, fun entry member => ?_⟩
    rcases vault.built provenance stepped member with old | ⟨credentials, found, same⟩
    · obtain ⟨submission, among, rest⟩ := submitted entry old
      exact ⟨submission, (step_grows stepped).submissions among, rest⟩
    · exact ⟨⟨_, _, credentials⟩, (step_grows stepped).submissions (mem_of_latest found),
        rfl, rfl, same⟩
  exact all.2

/-- In every reachable state, fetching a saved connection's secret gives what its account
submitted last for its source; a payload that is built next holds that for its connection,
and so does the next test of the connection.
-/
theorem connection_credentials {platform : Platform} {agents : Table Agent.agentId}
    {secrets : SecretStore} {events : List Event} {last : State}
    (ran : run (step platform) (State.initial agents secrets) events = some last)
    : (∀ connection ∈ last.db.connections.rows,
        ∃ credentials,
          latest last.log.submissions connection.accountId connection.source = some credentials
          ∧ getSecret last.secrets none connection.secretRef
            = .ok (credentialsJson credentials))
      ∧ (∀ event next entry,
          step platform last event = some next
          → entry ∈ next.log.built
          → entry ∈ last.log.built
            ∨ ∃ credentials,
                latest last.log.submissions entry.connection.accountId entry.connection.source
                  = some credentials
                ∧ credentialsJson credentials = .dict entry.payload.credentials)
      ∧ (∀ answer ∈ last.log.answers,
          answer.built ∈ last.log.built
          ∧ ∃ pipeline,
              last.db.pipelines.get? answer.built.payload.pipelineId = some pipeline
              ∧ pipeline.connectionId = answer.built.connection.connectionId)
      ∧ ∀ env scheduler connection,
          connection ∈ last.db.connections.rows
          → env.getFault = none
          → ∃ credentials,
              latest last.log.submissions connection.accountId connection.source
                = some credentials
              ∧ (testSavedConnection platform env ⟨last.db, last.secrets, scheduler⟩
                  connection.accountId connection.connectionId).2
                = match runTest platform env connection.source
                      (credentialsJson credentials) with
                  | .error response => response
                  | .ok (status, error) =>
                      match env.commitFault with
                      | some exception => .serverError exception
                      | none => .ok (.test (decide (status = .active)) error) := by
  have vault := run_vault ran
  have provenance := run_provenance ran
  refine ⟨fun connection member => vault.fetched member,
    fun event next entry stepped member => vault.built provenance stepped member,
    fun answer member => ?_,
    fun env scheduler connection member reachable =>
      vault.retest platform env scheduler member reachable⟩
  have built := provenance.answers answer member
  obtain ⟨pipeline, found, _, _, connectionId⟩ := (provenance.built _ built).pipeline
  exact ⟨built, pipeline, found, connectionId⟩

/-- After two saves for one source each connection gives the second's credentials. -/
theorem connection_credentials_one_source
    : ∃ last,
        run (step Platform.written) (State.initial Sample.agents Sample.secrets)
            [.start 0, Sample.save 2 11 "first", Sample.save 2 12 "second"]
          = some last
        ∧ ∀ connection ∈ last.db.connections.rows,
            ∃ credentials,
              latest last.log.submissions connection.accountId connection.source
                = some credentials
              ∧ getSecret last.secrets none connection.secretRef
                = .ok (credentialsJson credentials) :=
  ⟨_, rfl, (@connection_credentials Platform.written Sample.agents Sample.secrets
    [.start 0, Sample.save 2 11 "first", Sample.save 2 12 "second"] _ rfl).1⟩

/-- The first of two connections for one source has lost its own credentials. -/
theorem second_save_replaces_first
    : ∃ last connection,
        run (step Platform.written) (State.initial Sample.agents Sample.secrets)
            [.start 0, Sample.save 2 11 "first", Sample.save 2 12 "second"]
          = some last
        ∧ last.db.connections.get? ⟨11⟩ = some connection
        ∧ getSecret last.secrets none connection.secretRef
          = .ok (credentialsJson [("api_key", "second")])
        ∧ credentialsJson [("api_key", "second")] ≠ credentialsJson [("api_key", "first")] :=
  ⟨_, _, rfl, rfl, rfl, by simp [credentialsJson]⟩

end Turbocat.System
