import Turbocat.Orchestrator.Api

/-! What a request can change, whatever its response: a caller writes connections and
pipelines of its own account and the secrets of its own references. A connection's reference
is always the one of its account and source.
-/

namespace Turbocat.Orchestrator

open Turbocat.Library Turbocat.Python Turbocat.Connectors

/-- A row was found for its own account. -/
theorem ownRow_ok_iff {ρ : Type} {accountId : ρ → UUID} {missing : String} {caller : UUID}
    {found : Option ρ} {row : ρ}
    : ownRow accountId missing caller found = .ok row
      ↔ found = some row ∧ accountId row = caller := by
  cases found with
  | none => simp [ownRow]
  | some stored =>
      by_cases own : accountId stored = caller
      · simp only [ownRow, own, ne_eq, not_true_eq_false, if_false, Except.ok.injEq,
          Option.some.injEq]
        exact ⟨fun same => ⟨same, same ▸ own⟩, fun both => both.1⟩
      · simp only [ownRow, own, ne_eq, not_false_eq_true, if_true, reduceCtorEq,
          Option.some.injEq, false_iff, not_and]
        intro same
        subst same
        exact own

theorem commit_ok {env : RequestEnv} {α : Type} {written committed : α}
    (done : env.commit written = .ok committed)
    : committed = written := by
  unfold RequestEnv.commit at done
  split at done
  · cases done
  · cases done
    rfl

/-- A committed connection was inserted. -/
theorem insertConnection_ok {env : RequestEnv} {db next : Db} {connection : Connection}
    (done : insertConnection env db connection = .ok next)
    : ∃ connections,
        db.connections.insert connection = some connections
        ∧ next = { db with connections } := by
  obtain ⟨_, _, rest⟩ := bind_eq_ok_iff.mp done
  split at rest
  · cases rest
  · next connections inserted => exact ⟨connections, inserted, commit_ok rest⟩

/-- Inserted pipelines are appended, their agents exist, and nothing else changes. -/
theorem insertPipelines_ok {db next : Db} {pipelines : List Pipeline}
    (done : insertPipelines db pipelines = .ok next)
    : next.agents = db.agents
      ∧ next.connections = db.connections
      ∧ next.jobRuns = db.jobRuns
      ∧ next.pipelines.rows = db.pipelines.rows ++ pipelines
      ∧ ∀ pipeline ∈ pipelines, ∃ agent, db.agents.get? pipeline.agentId = some agent := by
  induction pipelines generalizing db with
  | nil =>
      cases done
      simp
  | cons pipeline rest ih =>
      obtain ⟨_, _, inserted⟩ := bind_eq_ok_iff.mp done
      split at inserted
      · cases inserted
      · next agent =>
          split at inserted
          · cases inserted
          · next pipelines added =>
              obtain ⟨agents, connections, jobRuns, rows, known⟩ := ih inserted
              obtain ⟨_, addedRows⟩ := Table.insert_eq_some_iff.mp added
              refine ⟨agents, connections, jobRuns, ?_, ?_⟩
              · rw [rows, addedRows, List.append_assoc, List.singleton_append]
              · intro other member
                rcases List.mem_cons.mp member with rfl | later
                · exact Option.ne_none_iff_exists'.mp (by simpa using agent)
                · exact known other later

/-- Every job after the registration loop of a bulk request is one of its pipelines' or an
old one, by induction over the pipelines.
-/
theorem mem_registerEach {fromCrontab : FromCrontab} {scheduler : Scheduler}
    {pipelines : List Pipeline} {job : ScheduledJob}
    (member : job ∈ (registerEach fromCrontab scheduler pipelines).1.rows)
    : (∃ origin ∈ pipelines, job = origin.scheduledJob) ∨ job ∈ scheduler.rows := by
  induction pipelines generalizing scheduler with
  | nil => exact Or.inr member
  | cons pipeline rest ih =>
      unfold registerEach at member
      split at member
      · exact Or.inr member
      · next next registered =>
          rcases ih member with ⟨origin, among, same⟩ | kept
          · exact Or.inl ⟨origin, List.mem_cons_of_mem _ among, same⟩
          · rcases mem_registerPipeline registered kept with same | old
            · exact Or.inl ⟨pipeline, List.mem_cons_self, same⟩
            · exact Or.inr old

/-- A requested pipeline belongs to its caller, runs on the requested agent and connection
and has no cursor yet.
-/
theorem mem_requestedPipelines {env : RequestEnv} {accountId agentId connectionId : UUID}
    {tables : List PipelineTableConfig} {pipeline : Pipeline}
    (member : pipeline ∈ requestedPipelines env accountId agentId connectionId tables)
    : pipeline.accountId = accountId
      ∧ pipeline.agentId = agentId
      ∧ pipeline.connectionId = connectionId
      ∧ pipeline.state = none := by
  obtain ⟨number, inside, rfl⟩ := List.mem_mapIdx.mp member
  exact ⟨rfl, rfl, rfl, rfl⟩

/-- The effect of one request of an account. -/
inductive HandleEffect (platform : Platform) (env : RequestEnv) (backend : Backend)
    (accountId : UUID)
    : ApiRequest → Backend → Prop
  | unchanged {request} : HandleEffect platform env backend accountId request backend
  | stored {name source credentials} (accepted : env.putFault = none)
    : HandleEffect platform env backend accountId (.createConnection name source credentials)
        { backend with
          secrets := Function.update backend.secrets (secretRefOf accountId source)
            (some (.decoded (credentialsJson credentials))) }
  | created {name source credentials connection connections} (accepted : env.putFault = none)
    (inserted : backend.db.connections.insert connection = some connections)
    (own : connection.accountId = accountId) (source_ : connection.source = source)
    (secretRef : connection.secretRef = secretRefOf accountId source)
    : HandleEffect platform env backend accountId (.createConnection name source credentials)
        { backend with
          db := { backend.db with connections }
          secrets := Function.update backend.secrets (secretRefOf accountId source)
            (some (.decoded (credentialsJson credentials))) }
  | tested {connectionId connection status}
    (found : backend.db.connections.get? connectionId = some connection)
    (own : connection.accountId = accountId)
    : HandleEffect platform env backend accountId (.testSavedConnection connectionId)
        { backend with
          db := { backend.db with
            connections := backend.db.connections.modify connectionId
              (fun row => row.retested status env.now) (fun _ => rfl) } }
  | bulk {agentId connectionId tables connection db}
    (found : backend.db.connections.get? connectionId = some connection)
    (own : connection.accountId = accountId)
    (inserted
      : insertPipelines backend.db
          (requestedPipelines env accountId agentId connectionId tables)
        = .ok db)
    : HandleEffect platform env backend accountId
        (.bulkCreatePipelines agentId connectionId tables)
        { backend with
          db
          scheduler := (registerEach platform.fromCrontab backend.scheduler
            (requestedPipelines env accountId agentId connectionId tables)).1 }
  | deactivated {pipelineId pipeline}
    (found : backend.db.pipelines.get? pipelineId = some pipeline)
    (own : pipeline.accountId = accountId)
    : HandleEffect platform env backend accountId (.deactivatePipeline pipelineId)
        { backend with
          db := { backend.db with
            pipelines := backend.db.pipelines.modify pipelineId
              Pipeline.deactivated (fun _ => rfl) }
          scheduler := deregisterPipeline backend.scheduler pipelineId }

section

variable (platform : Platform) (env : RequestEnv) (backend : Backend) (accountId : UUID)

theorem testConnection_effect (source : String) (credentials : List (String × String))
    : HandleEffect platform env backend accountId (.testConnection source credentials)
        (testConnection platform env backend source credentials).1 := by
  unfold testConnection
  split <;> exact .unchanged

/-- A connection is created once its credentials are stored. -/
theorem createConnection_effect (name source : String) (credentials : List (String × String))
    : HandleEffect platform env backend accountId (.createConnection name source credentials)
        (createConnection platform env backend accountId name source credentials).1 := by
  simp only [createConnection]
  split
  · exact .unchanged
  · next secrets put =>
      obtain ⟨accepted, rfl⟩ := putSecret_ok_iff.mp put
      split
      · exact .stored accepted
      · split
        · exact .stored accepted
        · next done =>
            obtain ⟨connections, inserted, rfl⟩ := insertConnection_ok done
            exact .created accepted inserted rfl rfl rfl

/-- A test of a connection writes its outcome. -/
theorem testSavedConnection_effect (connectionId : UUID)
    : HandleEffect platform env backend accountId (.testSavedConnection connectionId)
        (testSavedConnection platform env backend accountId connectionId).1 := by
  simp only [testSavedConnection]
  split
  · exact .unchanged
  · next connection own =>
      obtain ⟨found, account⟩ := ownRow_ok_iff.mp own
      split
      · exact .unchanged
      · split
        · exact .unchanged
        · split
          · exact .unchanged
          · next done =>
              cases commit_ok done
              exact .tested found account

theorem listSchema_effect (connectionId : UUID)
    : HandleEffect platform env backend accountId (.listSchema connectionId)
        (listSchema platform env backend accountId connectionId).1 := by
  unfold listSchema
  split
  · exact .unchanged
  · split
    · exact .unchanged
    · split
      · exact .unchanged
      · split <;> exact .unchanged

/-- Pipelines are inserted together and then registered. -/
theorem bulkCreatePipelines_effect (agentId connectionId : UUID)
    (tables : List PipelineTableConfig)
    : HandleEffect platform env backend accountId
        (.bulkCreatePipelines agentId connectionId tables)
        (bulkCreatePipelines platform env backend accountId agentId connectionId tables).1 := by
  unfold bulkCreatePipelines
  split
  · exact .unchanged
  · next connection own =>
      obtain ⟨found, account⟩ := ownRow_ok_iff.mp own
      dsimp only
      split
      · exact .unchanged
      · next db done =>
          obtain ⟨written, inserted, committed⟩ := bind_eq_ok_iff.mp done
          cases commit_ok committed
          have effect := @HandleEffect.bulk platform env _ _ _ _ tables _ _ found account
            inserted
          split
          · next registered =>
              rw [registered] at effect
              exact effect
          · next registered =>
              rw [registered] at effect
              exact effect

theorem getPipeline_effect (pipelineId : UUID)
    : HandleEffect platform env backend accountId (.getPipeline pipelineId)
        (getPipeline backend accountId pipelineId).1 := by
  unfold getPipeline
  split <;> exact .unchanged

theorem deactivatePipeline_effect (pipelineId : UUID)
    : HandleEffect platform env backend accountId (.deactivatePipeline pipelineId)
        (deactivatePipeline env backend accountId pipelineId).1 := by
  unfold deactivatePipeline
  split
  · exact .unchanged
  · next pipeline own =>
      obtain ⟨found, account⟩ := ownRow_ok_iff.mp own
      dsimp only
      split
      · exact .unchanged
      · next done =>
          cases commit_ok done
          exact .deactivated found account

/-- Every request has one of these effects, by cases of the request. -/
theorem handle_effect (request : ApiRequest)
    : HandleEffect platform env backend accountId request
        (handle platform env backend accountId request).1 := by
  cases request with
  | testConnection source credentials =>
      exact testConnection_effect platform env backend accountId source credentials
  | createConnection name source credentials =>
      exact createConnection_effect platform env backend accountId name source credentials
  | listConnections => exact .unchanged
  | testSavedConnection connectionId =>
      exact testSavedConnection_effect platform env backend accountId connectionId
  | listSchema connectionId =>
      exact listSchema_effect platform env backend accountId connectionId
  | bulkCreatePipelines agentId connectionId tables =>
      exact bulkCreatePipelines_effect platform env backend accountId agentId connectionId tables
  | getPipeline pipelineId =>
      exact getPipeline_effect platform env backend accountId pipelineId
  | listPipelines => exact .unchanged
  | deactivatePipeline pipelineId =>
      exact deactivatePipeline_effect platform env backend accountId pipelineId

end

/-- Only the creation of a connection writes a secret. -/
theorem HandleEffect.keeps_secrets {platform : Platform} {env : RequestEnv}
    {backend next : Backend} {accountId : UUID} {request : ApiRequest}
    (effect : HandleEffect platform env backend accountId request next)
    (other : ∀ name source credentials, request ≠ .createConnection name source credentials)
    : next.secrets = backend.secrets := by
  cases effect with
  | unchanged => rfl
  | stored _ => exact absurd rfl (other _ _ _)
  | created _ _ _ _ _ => exact absurd rfl (other _ _ _)
  | tested _ _ => rfl
  | bulk _ _ _ => rfl
  | deactivated _ _ => rfl

/-- A reference determines its account and its source, whatever characters the source has:
the text of an account's id always has the same length.
-/
theorem secretRefOf_inj {left right : UUID} {leftSource rightSource : String}
    (same : secretRefOf left leftSource = secretRefOf right rightSource)
    : left = right ∧ leftSource = rightSource := by
  have chars := congrArg String.toList same
  unfold secretRefOf at chars
  simp only [String.toList_append, UUID.str, String.toList_ofList, List.append_assoc,
    List.append_cancel_left_eq] at chars
  obtain ⟨ids, rest⟩ := List.append_inj chars (by rw [UUID.chars_length, UUID.chars_length])
  refine ⟨UUID.chars_inj ids, String.toList_injective ?_⟩
  exact List.append_cancel_left rest

/-- Every connection refers to the secret of its account and source. -/
def Db.RefsDerived (db : Db) : Prop :=
  ∀ connection ∈ db.connections.rows,
    connection.secretRef = secretRefOf connection.accountId connection.source

/-- Requests keep every connection's reference derived, by cases of their effect. -/
theorem handle_keeps_refs (platform : Platform) (env : RequestEnv) {backend : Backend}
    (accountId : UUID) (request : ApiRequest) (derived : backend.db.RefsDerived)
    : (handle platform env backend accountId request).1.db.RefsDerived := by
  have effect := handle_effect platform env backend accountId request
  generalize (handle platform env backend accountId request).1 = next at effect ⊢
  cases effect with
  | unchanged => exact derived
  | stored accepted => exact derived
  | created accepted inserted own source secretRef =>
      intro connection member
      rcases List.mem_append.mp ((Table.insert_eq_some_iff.mp inserted).2 ▸ member)
        with old | new
      · exact derived connection old
      · rw [List.mem_singleton.mp new, secretRef, own, source]
  | @tested connectionId connection status found own =>
      intro row member
      obtain ⟨old, stored, rfl⟩ := (Table.mem_modify backend.db.connections connectionId
        (fun row => row.retested status env.now) (fun _ => rfl)).mp member
      have oldRef := derived old stored
      split
      · exact oldRef
      · exact oldRef
  | bulk found own inserted =>
      intro connection member
      exact derived connection ((insertPipelines_ok inserted).2.1 ▸ member)
  | deactivated found own => exact derived

end Turbocat.Orchestrator
