import Turbocat.Orchestrator.TenantIsolation

/-! An account's own requests are answered alike by backends it cannot tell apart, and keep
them so; with the requests of others changing nothing it can tell, no response to it depends
on them.
-/

namespace Turbocat.Orchestrator

open Turbocat.Library Turbocat.Python Turbocat.Connectors

/-- Whether a schedule is rejected does not depend on what is scheduled. -/
theorem registerEach_exception (fromCrontab : FromCrontab) (left right : Scheduler)
    (pipelines : List Pipeline)
    : (registerEach fromCrontab left pipelines).2 = (registerEach fromCrontab right pipelines).2 := by
  induction pipelines generalizing left right with
  | nil => rfl
  | cons pipeline rest ih =>
      simp only [registerEach, registerPipeline]
      cases fromCrontab pipeline.schedule with
      | error exception => rfl
      | ok _ => exact ih _ _

/-- A connection under a fresh id is committed in both databases or fails alike. -/
theorem insertConnection_same {env : RequestEnv} {left right : Db} {connection : Connection}
    (freeLeft : left.connections.get? connection.connectionId = none)
    (freeRight : right.connections.get? connection.connectionId = none)
    : (∃ exception,
        insertConnection env left connection = .error exception
        ∧ insertConnection env right connection = .error exception)
      ∨ ∃ next other,
          insertConnection env left connection = .ok next
          ∧ insertConnection env right connection = .ok other := by
  obtain ⟨leftRows, leftInserted⟩ := Table.insert_isSome freeLeft
  obtain ⟨rightRows, rightInserted⟩ := Table.insert_isSome freeRight
  simp only [insertConnection, leftInserted, rightInserted]
  cases checkLengths
      [(connection.name, 255), (connection.source, 100), (connection.secretRef, 255)] with
  | error exception => exact Or.inl ⟨exception, rfl, rfl⟩
  | ok _ =>
      cases fault : env.commitFault with
      | some exception =>
          exact Or.inl ⟨exception, by simp only [RequestEnv.commit, fault]; rfl,
            by simp only [RequestEnv.commit, fault]; rfl⟩
      | none =>
          exact Or.inr ⟨_, _, by simp only [RequestEnv.commit, fault]; rfl,
            by simp only [RequestEnv.commit, fault]; rfl⟩

/-- Pipelines under fresh ids are inserted in both databases or fail alike, by induction
over them.
-/
theorem insertPipelines_same {left right : Db} {pipelines : List Pipeline}
    (agents : left.agents = right.agents)
    (distinct : (pipelines.map Pipeline.pipelineId).Nodup)
    (freeLeft : ∀ pipeline ∈ pipelines, left.pipelines.get? pipeline.pipelineId = none)
    (freeRight : ∀ pipeline ∈ pipelines, right.pipelines.get? pipeline.pipelineId = none)
    : (∃ exception,
        insertPipelines left pipelines = .error exception
        ∧ insertPipelines right pipelines = .error exception)
      ∨ ∃ next other,
          insertPipelines left pipelines = .ok next ∧ insertPipelines right pipelines = .ok other := by
  induction pipelines generalizing left right with
  | nil => exact Or.inr ⟨left, right, rfl, rfl⟩
  | cons pipeline rest ih =>
      obtain ⟨newId, distinctRest⟩ := List.nodup_cons.mp distinct
      obtain ⟨leftRows, leftInserted⟩ := Table.insert_isSome (freeLeft pipeline List.mem_cons_self)
      obtain ⟨rightRows, rightInserted⟩ :=
        Table.insert_isSome (freeRight pipeline List.mem_cons_self)
      have stillFree {table next : Table Pipeline.pipelineId}
          (inserted : table.insert pipeline = some next)
          (free : ∀ other ∈ pipeline :: rest, table.get? other.pipelineId = none)
          : ∀ other ∈ rest, next.get? other.pipelineId = none := by
        intro other member
        rw [Table.get?_insert inserted, if_neg, free other (List.mem_cons_of_mem _ member)]
        exact fun same => newId (List.mem_map.mpr ⟨other, member, same.symm⟩)
      have sameAgent : left.agents.get? pipeline.agentId = right.agents.get? pipeline.agentId := by
        rw [agents]
      simp only [insertPipelines, leftInserted, rightInserted, sameAgent]
      cases checkLengths [(pipeline.connector, 100), (pipeline.tableName, 255),
          (pipeline.schedule, 100)] with
      | error exception => exact Or.inl ⟨exception, rfl, rfl⟩
      | ok _ =>
          cases known : (right.agents.get? pipeline.agentId).isNone with
          | true => exact Or.inl ⟨_, rfl, rfl⟩
          | false =>
              exact @ih { left with pipelines := leftRows } { right with pipelines := rightRows }
                agents distinctRest (stillFree leftInserted freeLeft)
                (stillFree rightInserted freeRight)

-----------------------------------------------------------------------------------------
-- Own requests
-----------------------------------------------------------------------------------------

section

variable {accountId : UUID} {left right : Backend}

/-- A secret behind an account's connection is fetched alike. -/
theorem SameFor.getSecret (same : SameFor accountId left right) {connection : Connection}
    {connectionId : UUID} (found : left.db.connections.get? connectionId = some connection)
    (own : connection.accountId = accountId) (fault : Option String)
    : getSecret left.secrets fault connection.secretRef
      = getSecret right.secrets fault connection.secretRef := by
  have member : connection ∈ left.connectionsOf accountId :=
    List.mem_filter.mpr ⟨Table.mem_of_get? found, decide_eq_true own⟩
  simp only [Orchestrator.getSecret, same.secretRefs connection member, same.secrets]

/-- An account stores one secret in both backends. -/
theorem SameFor.stored (same : SameFor accountId left right) (secretRef : String)
    (value : Option SecretString)
    : SameFor accountId
        { left with secrets := Function.update left.secrets secretRef value }
        { right with secrets := Function.update right.secrets secretRef value } :=
  { same with
    secrets := fun source => by
      by_cases written : secretRefOf accountId source = secretRef
      · simp only [written, Function.update_self]
      · simp only [Function.update_of_ne written, same.secrets source] }

/-- An account's new connection joins both backends. -/
theorem SameFor.created (same : SameFor accountId left right) {connection : Connection}
    {leftRows rightRows : Table Connection.connectionId}
    (leftInserted : left.db.connections.insert connection = some leftRows)
    (rightInserted : right.db.connections.insert connection = some rightRows)
    (secretRef : connection.secretRef = secretRefOf accountId connection.source)
    : SameFor accountId
        { left with db := { left.db with connections := leftRows } }
        { right with db := { right.db with connections := rightRows } } :=
  { same with
    connections := by
      have first := @rowsOf_insert _ _ Connection.accountId accountId _ _ _ leftInserted
      have second := @rowsOf_insert _ _ Connection.accountId accountId _ _ _ rightInserted
      exact first.trans ((congrArg (· ++ _) same.connections).trans second.symm)
    secretRefs := fun stored member => by
      have listed : stored ∈ rowsOf leftRows Connection.accountId accountId := member
      rw [rowsOf_insert leftInserted] at listed
      rcases List.mem_append.mp listed with old | new
      · exact same.secretRefs stored old
      · obtain ⟨isNew, _⟩ := List.mem_filter.mp new
        rw [List.mem_singleton.mp isNew, secretRef]
    connectionIds := fun id free => by
      have leftIds := get?_append_eq_none_iff (Table.insert_eq_some_iff.mp leftInserted).2 id
      have rightIds := get?_append_eq_none_iff (Table.insert_eq_some_iff.mp rightInserted).2 id
      obtain ⟨old, other⟩ := leftIds.mp free
      exact rightIds.mpr ⟨same.connectionIds id old, other⟩ }

/-- An account's connection is tested again in both backends. -/
theorem SameFor.retested (same : SameFor accountId left right) (connectionId : UUID)
    (status : ConnectionStatus) (now : Datetime)
    : SameFor accountId
        { left with db := { left.db with
          connections := left.db.connections.modify connectionId
            (fun row => row.retested status now) (fun _ => rfl) } }
        { right with db := { right.db with
          connections := right.db.connections.modify connectionId
            (fun row => row.retested status now) (fun _ => rfl) } } := by
  have rows (table : Table Connection.connectionId) :=
    @rowsOf_modify _ _ Connection.accountId accountId table connectionId
      (fun row => row.retested status now) (fun _ => rfl) (fun _ => rfl)
  have ids (table : Table Connection.connectionId) :=
    get?_modify_eq_none_iff table connectionId (fun row => row.retested status now)
      (fun _ => rfl)
  exact { same with
    connections :=
      (rows _).trans ((congrArg (List.map _) same.connections).trans (rows _).symm)
    secretRefs := fun stored member => by
      obtain ⟨old, oldMember, rfl⟩ := List.mem_map.mp ((congrArg (stored ∈ ·) (rows _)).mp member)
      have oldRef := same.secretRefs old oldMember
      split
      · exact oldRef
      · exact oldRef
    connectionIds := fun id free =>
      (ids _ id).mpr (same.connectionIds id ((ids _ id).mp free)) }

/-- An account's new pipelines join both backends. -/
theorem SameFor.bulk (same : SameFor accountId left right) {pipelines : List Pipeline}
    {leftDb rightDb : Db} (leftInserted : insertPipelines left.db pipelines = .ok leftDb)
    (rightInserted : insertPipelines right.db pipelines = .ok rightDb)
    (leftScheduler rightScheduler : Scheduler)
    : SameFor accountId
        { left with db := leftDb, scheduler := leftScheduler }
        { right with db := rightDb, scheduler := rightScheduler } := by
  obtain ⟨leftAgents, leftConnections, _, leftRows, _⟩ := insertPipelines_ok leftInserted
  obtain ⟨rightAgents, rightConnections, _, rightRows, _⟩ := insertPipelines_ok rightInserted
  have ownConnections : rowsOf leftDb.connections Connection.accountId accountId
      = left.connectionsOf accountId := by
    rw [leftConnections]
    rfl
  exact {
    agents := leftAgents.trans (same.agents.trans rightAgents.symm)
    connections := by
      refine ownConnections.trans (same.connections.trans ?_)
      simp only [Backend.connectionsOf, rightConnections]
    pipelines := by
      have rest := same.pipelines
      simp only [Backend.pipelinesOf, rowsOf] at rest ⊢
      rw [leftRows, rightRows, List.filter_append, List.filter_append, rest]
    secrets := same.secrets
    secretRefs := fun stored member => same.secretRefs stored (ownConnections ▸ member)
    connectionIds := fun id free => by
      dsimp only at free ⊢
      rw [rightConnections]
      exact same.connectionIds id (leftConnections ▸ free)
    pipelineIds := fun id free => by
      obtain ⟨old, other⟩ := (get?_append_eq_none_iff leftRows id).mp free
      exact (get?_append_eq_none_iff rightRows id).mpr ⟨same.pipelineIds id old, other⟩
  }

/-- An account's pipeline is deactivated in both backends. -/
theorem SameFor.deactivated (same : SameFor accountId left right) (pipelineId : UUID)
    : SameFor accountId
        { left with
          db := { left.db with
            pipelines := left.db.pipelines.modify pipelineId Pipeline.deactivated
              (fun _ => rfl) }
          scheduler := deregisterPipeline left.scheduler pipelineId }
        { right with
          db := { right.db with
            pipelines := right.db.pipelines.modify pipelineId Pipeline.deactivated
              (fun _ => rfl) }
          scheduler := deregisterPipeline right.scheduler pipelineId } := by
  have rows (table : Table Pipeline.pipelineId) :=
    @rowsOf_modify _ _ Pipeline.accountId accountId table pipelineId Pipeline.deactivated
      (fun _ => rfl) (fun _ => rfl)
  have ids (table : Table Pipeline.pipelineId) :=
    get?_modify_eq_none_iff table pipelineId Pipeline.deactivated (fun _ => rfl)
  exact { same with
    pipelines := (rows _).trans ((congrArg (List.map _) same.pipelines).trans (rows _).symm)
    pipelineIds := fun id free =>
      (ids _ id).mpr (same.pipelineIds id ((ids _ id).mp free)) }

/-- Two results of a request that an account cannot tell apart. -/
def SameResult (accountId : UUID) (first second : Backend × Response) : Prop :=
  first.2.view = second.2.view ∧ SameFor accountId first.1 second.1

/-- One response, with the backends left as they were. -/
theorem SameFor.answer (same : SameFor accountId left right) (response : Response)
    : SameResult accountId (left, response) (right, response) :=
  ⟨rfl, same⟩

theorem createConnection_same (platform : Platform) {env : RequestEnv}
    (same : SameFor accountId left right)
    (free : left.db.connections.get? (env.uuid 0) = none) (name source : String)
    (credentials : List (String × String))
    : SameResult accountId
        (createConnection platform env left accountId name source credentials)
        (createConnection platform env right accountId name source credentials) := by
  have next := same.stored (secretRefOf accountId source)
    (some (.decoded (credentialsJson credentials)))
  simp only [createConnection, putSecret]
  cases env.putFault with
  | some error => exact same.answer _
  | none =>
      dsimp only
      cases runTest platform env source (credentialsJson credentials) with
      | error response => exact next.answer response
      | ok tested =>
          obtain ⟨status, error⟩ := tested
          let connection : Connection := ⟨env.uuid 0, accountId, name, source,
            secretRefOf accountId source, status, some env.now, env.createdAt⟩
          dsimp only
          rcases @insertConnection_same env left.db right.db connection free
              (same.connectionIds _ free)
            with ⟨exception, first, second⟩ | ⟨leftDb, rightDb, first, second⟩
          · rw [first, second]
            exact next.answer _
          · rw [first, second]
            obtain ⟨leftRows, leftInserted, rfl⟩ := insertConnection_ok first
            obtain ⟨rightRows, rightInserted, rfl⟩ := insertConnection_ok second
            exact ⟨rfl, next.created leftInserted rightInserted rfl⟩

theorem testSavedConnection_same (platform : Platform) (env : RequestEnv)
    (same : SameFor accountId left right) (connectionId : UUID)
    : SameResult accountId
        (testSavedConnection platform env left accountId connectionId)
        (testSavedConnection platform env right accountId connectionId) := by
  unfold testSavedConnection
  rcases ownRow_same same.connections "Connection not found" connectionId
    with ⟨connection, first, second⟩ | ⟨_, _, first, second, view⟩
  · rw [first, second]
    obtain ⟨found, own⟩ := ownRow_ok_iff.mp first
    simp only [same.getSecret found own]
    cases Orchestrator.getSecret right.secrets env.getFault connection.secretRef with
    | error exception => exact same.answer _
    | ok credentials =>
        dsimp only
        cases runTest platform env connection.source credentials with
        | error response => exact same.answer response
        | ok tested =>
            obtain ⟨status, error⟩ := tested
            simp only [RequestEnv.commit]
            cases env.commitFault with
            | some exception => exact same.answer _
            | none => exact ⟨rfl, same.retested connectionId status env.now⟩
  · rw [first, second]
    exact ⟨view, same⟩

theorem listSchema_same (platform : Platform) (env : RequestEnv)
    (same : SameFor accountId left right) (connectionId : UUID)
    : SameResult accountId
        (listSchema platform env left accountId connectionId)
        (listSchema platform env right accountId connectionId) := by
  unfold listSchema
  rcases ownRow_same same.connections "Connection not found" connectionId
    with ⟨connection, first, second⟩ | ⟨_, _, first, second, view⟩
  · rw [first, second]
    obtain ⟨found, own⟩ := ownRow_ok_iff.mp first
    simp only [same.getSecret found own]
    cases Orchestrator.getSecret right.secrets env.getFault connection.secretRef with
    | error exception => exact same.answer _
    | ok credentials =>
        dsimp only
        cases getSchemasForSource platform.repr env.configure connection.source credentials with
        | ok entries => exact same.answer _
        | error exception =>
            dsimp only
            split
            · exact same.answer _
            · exact same.answer _
  · rw [first, second]
    exact ⟨view, same⟩

/-- The pipelines of one request take its ids in turn. -/
theorem requestedPipelines_ids (env : RequestEnv) (accountId agentId connectionId : UUID)
    (tables : List PipelineTableConfig)
    : (requestedPipelines env accountId agentId connectionId tables).map Pipeline.pipelineId
      = (List.range tables.length).map env.uuid := by
  have numbers : tables.zipIdx.map Prod.snd = List.range tables.length := by
    rw [List.zipIdx_map_snd, List.range_eq_range']
  rw [← numbers, requestedPipelines, List.mapIdx_eq_zipIdx_map, List.map_map, List.map_map]
  rfl

theorem bulkCreatePipelines_same (platform : Platform) {env : RequestEnv}
    (same : SameFor accountId left right) (agentId connectionId : UUID)
    {tables : List PipelineTableConfig}
    (distinct : ((List.range tables.length).map env.uuid).Nodup)
    (free : ∀ number < tables.length, left.db.pipelines.get? (env.uuid number) = none)
    : SameResult accountId
        (bulkCreatePipelines platform env left accountId agentId connectionId tables)
        (bulkCreatePipelines platform env right accountId agentId connectionId tables) := by
  unfold bulkCreatePipelines
  rcases ownRow_same same.connections "Connection not found" connectionId
    with ⟨connection, first, second⟩ | ⟨_, _, first, second, view⟩
  · rw [first, second]
    have freeLeft
        : ∀ pipeline ∈ requestedPipelines env accountId agentId connectionId tables,
            left.db.pipelines.get? pipeline.pipelineId = none := by
      intro pipeline member
      obtain ⟨number, inside, rfl⟩ := List.mem_mapIdx.mp member
      exact free number inside
    dsimp only
    rcases insertPipelines_same same.agents
        (requestedPipelines_ids env accountId agentId connectionId tables ▸ distinct) freeLeft
        (fun pipeline member => same.pipelineIds _ (freeLeft pipeline member))
      with ⟨exception, failed, failedToo⟩ | ⟨leftDb, rightDb, done, doneToo⟩
    · rw [failed, failedToo]
      exact same.answer _
    · rw [done, doneToo]
      simp only [RequestEnv.commit, bind, Except.bind]
      cases env.commitFault with
      | some exception => exact same.answer _
      | none =>
          have schedules := registerEach_exception platform.fromCrontab left.scheduler
            right.scheduler (requestedPipelines env accountId agentId connectionId tables)
          dsimp only
          split
          · next registered =>
              rw [registered] at schedules
              split
              · next registeredToo =>
                  rw [registeredToo] at schedules
                  cases schedules
                  exact ⟨rfl, same.bulk done doneToo _ _⟩
              · next registeredToo =>
                  rw [registeredToo] at schedules
                  cases schedules
          · next registered =>
              rw [registered] at schedules
              split
              · next registeredToo =>
                  rw [registeredToo] at schedules
                  cases schedules
              · exact ⟨rfl, same.bulk done doneToo _ _⟩
  · rw [first, second]
    exact ⟨view, same⟩

theorem deactivatePipeline_same (env : RequestEnv) (same : SameFor accountId left right)
    (pipelineId : UUID)
    : SameResult accountId
        (deactivatePipeline env left accountId pipelineId)
        (deactivatePipeline env right accountId pipelineId) := by
  unfold deactivatePipeline
  rcases ownRow_same same.pipelines "Pipeline not found" pipelineId
    with ⟨pipeline, first, second⟩ | ⟨_, _, first, second, view⟩
  · rw [first, second]
    simp only [RequestEnv.commit]
    cases env.commitFault with
    | some exception => exact same.answer _
    | none => exact ⟨rfl, same.deactivated pipelineId⟩
  · rw [first, second]
    exact ⟨view, same⟩

/-- An account's own request is answered alike and keeps the backends alike, by cases of
the request.
-/
theorem SameFor.own (platform : Platform) {call : Call}
    (same : SameFor call.accountId left right) (fresh : FreshIds left call)
    : SameResult call.accountId (serve platform left call) (serve platform right call) := by
  obtain ⟨accountId, env, request⟩ := call
  cases request with
  | testConnection source credentials =>
      simp only [serve, handle, testConnection]
      cases runTest platform env source (credentialsJson credentials) with
      | error response => exact same.answer response
      | ok tested => exact same.answer _
  | createConnection name source credentials =>
      exact createConnection_same platform same fresh name source credentials
  | listConnections =>
      refine ⟨?_, same⟩
      have rows := same.connections
      simp only [Backend.connectionsOf, rowsOf] at rows
      simp only [serve, handle, listConnections, rows]
  | testSavedConnection connectionId =>
      exact testSavedConnection_same platform env same connectionId
  | listSchema connectionId => exact listSchema_same platform env same connectionId
  | bulkCreatePipelines agentId connectionId tables =>
      exact bulkCreatePipelines_same platform same agentId connectionId fresh.1 fresh.2
  | getPipeline pipelineId =>
      simp only [serve, handle, getPipeline]
      rcases ownRow_same same.pipelines "Pipeline not found" pipelineId
        with ⟨pipeline, first, second⟩ | ⟨_, _, first, second, view⟩
      · rw [first, second]
        exact same.answer _
      · rw [first, second]
        exact ⟨view, same⟩
  | listPipelines =>
      refine ⟨?_, same⟩
      have rows := same.pipelines
      simp only [Backend.pipelinesOf, rowsOf] at rows
      simp only [serve, handle, listPipelines, rows]
  | deactivatePipeline pipelineId => exact deactivatePipeline_same env same pipelineId

end

-----------------------------------------------------------------------------------------
-- Runs of requests
-----------------------------------------------------------------------------------------

/-- The backend of a new deployment, over whatever secrets its store holds already. -/
def Backend.deployed (agents : Table Agent.agentId) (secrets : SecretStore) : Backend :=
  ⟨Db.provisioned agents, secrets, .empty⟩

/-- After any requests, a connection refers to the secret of its account and source. -/
theorem finalState_refsDerived (platform : Platform) {backend : Backend}
    (derived : backend.db.RefsDerived) (calls : List Call)
    : (finalState (serve platform) backend calls).db.RefsDerived := by
  induction calls generalizing backend with
  | nil => exact derived
  | cons call rest ih =>
      exact ih (handle_keeps_refs platform call.env call.accountId call.request derived)

/-- A backend with derived references looks the same to an account as itself. -/
theorem Db.RefsDerived.sameFor {backend : Backend} (derived : backend.db.RefsDerived)
    (accountId : UUID)
    : SameFor accountId backend backend := by
  refine SameFor.refl fun connection member => ?_
  obtain ⟨stored, own⟩ := List.mem_filter.mp member
  rw [derived connection stored, of_decide_eq_true own]

/-- The relation unwinds the endpoints for every account. -/
theorem serve_unwinds (platform : Platform) (accountId : UUID)
    : Unwinds (serve platform) (fun call => decide (call.accountId = accountId))
        Response.view FreshIds (SameFor accountId) where
  own := by
    intro left right call same mine fresh
    cases of_decide_eq_true mine
    exact same.own platform fresh
  foreign := fun same mine _ => same.foreign (of_decide_eq_false mine)

/-- In every run of requests from a new deployment, an account is answered as if no other
account had made any request, and no request of another account changes its rows or the
secret behind one of its connections. Generated ids are fresh.
-/
theorem tenant_noninterference (platform : Platform) (agents : Table Agent.agentId)
    (secrets : SecretStore) (accountId : UUID) {calls : List Call}
    (fresh
      : Admissible (serve platform) FreshIds (Backend.deployed agents secrets) calls)
    : let start := Backend.deployed agents secrets
      let mine := fun call : Call => decide (call.accountId = accountId)
      observations (serve platform) mine Response.view start calls
        = observations (serve platform) mine Response.view start (calls.filter mine)
      ∧ ∀ earlier call later,
          calls = earlier ++ call :: later
          → call.accountId ≠ accountId
          → let before := finalState (serve platform) start earlier
            let after := (serve platform before call).1
            after.connectionsOf accountId = before.connectionsOf accountId
            ∧ after.pipelinesOf accountId = before.pipelinesOf accountId
            ∧ ∀ connection ∈ before.connectionsOf accountId,
                after.secrets connection.secretRef = before.secrets connection.secretRef := by
  have derived : (Backend.deployed agents secrets).db.RefsDerived :=
    fun connection member => nomatch member
  refine ⟨(serve_unwinds platform accountId).observations_purge (derived.sameFor accountId)
    fresh, ?_⟩
  intro earlier call later _ foreign before after
  have same : SameFor accountId after before :=
    ((finalState_refsDerived platform derived earlier).sameFor accountId).foreign foreign
  refine ⟨same.connections, same.pipelines, fun connection member => ?_⟩
  rw [same.secretRefs connection (same.connections ▸ member)]
  exact same.secrets connection.source

/-- Two accounts save credentials for one source; the second changes nothing the first
reads or owns.
-/
theorem tenant_noninterference_one_source
    : let epoch : Datetime := ⟨0, by decide, by decide⟩
      let env (id : Fin (2 ^ 128)) : RequestEnv :=
        { uuid := fun _ => ⟨id⟩, now := epoch, createdAt := epoch, configure := fun _ _ => .ok (),
          testConnection := fun _ _ => .ok () }
      let save (accountId id : Fin (2 ^ 128)) (value : String) : Call :=
        ⟨⟨accountId⟩, env id, .createConnection "shop" "razorpay" [("api_key", value)]⟩
      let list : Call := ⟨⟨1⟩, env 0, .listConnections⟩
      let start := Backend.deployed .empty (fun _ => none)
      let mine := fun call : Call => decide (call.accountId = ⟨1⟩)
      let calls := [save 1 11 "first", save 2 12 "second", list]
      observations (serve Platform.written) mine Response.view start calls
        = observations (serve Platform.written) mine Response.view start
            [save 1 11 "first", list] := by
  intro epoch env save list start mine calls
  have free : (serve Platform.written start (save 1 11 "first")).1.db.connections.get? ⟨12⟩
      = none := by decide
  exact (@tenant_noninterference Platform.written .empty (fun _ => none) ⟨1⟩ calls
    ⟨rfl, free, trivial, trivial⟩).1

end Turbocat.Orchestrator
