import Turbocat.Orchestrator.AppEffects
import Turbocat.Orchestrator.TenantNoninterference

/-! What the deployed app answers to the tokens of one account does not depend on anything
else that reaches it: other accounts, agents, requests without a valid token, cron ticks
and restarts. Cursors and jobs are the only rows that agents write, and no answer to a token
shows them.
-/

namespace Turbocat.Orchestrator

open Turbocat.Library Turbocat.Python Turbocat.Connectors

/-- A pipeline without its cursor. -/
def Pipeline.uncursored (pipeline : Pipeline) : Pipeline := { pipeline with state := none }

/-- A database without what agents and ticks write. -/
def Db.shown (db : Db) : Db :=
  { db with
    pipelines := db.pipelines.update Pipeline.uncursored (fun _ => rfl)
    jobRuns := .empty }

/-- What API clients are served from, as far as any answer tells. -/
def App.shown (app : App) : Backend := ⟨app.db.shown, app.secrets, .empty⟩

section

variable {ρ : Type} {key : ρ → UUID}

theorem table_ext {left right : Table key} (rows : left.rows = right.rows) : left = right := by
  cases left
  cases right
  cases rows
  rfl

/-- A row that a rewrite leaves alone is inserted before or after it. -/
theorem insert_update (table : Table key) (f : ρ → ρ) (keeps : ∀ row, key (f row) = key row)
    {row : ρ} (fixed : f row = row)
    : (table.update f keeps).insert row
      = (table.insert row).map (fun next => next.update f keeps) := by
  cases inserted : table.insert row with
  | none =>
      cases other : (table.update f keeps).insert row with
      | none => rfl
      | some next =>
          obtain ⟨free, _⟩ := Table.insert_eq_some_iff.mp other
          rw [Table.get?_update, Option.map_eq_none_iff] at free
          obtain ⟨next, new⟩ := Table.insert_isSome free
          cases new.symm.trans inserted
  | some next =>
      obtain ⟨free, rows⟩ := Table.insert_eq_some_iff.mp inserted
      refine Table.insert_eq_some_iff.mpr ⟨by rw [Table.get?_update, free]; rfl, ?_⟩
      rw [Table.update_rows, rows, List.map_append, List.map_singleton, fixed, Table.update_rows]

/-- Rewriting one row and then every row, where the two commute. -/
theorem modify_update (table : Table key) (k : UUID) (f g : ρ → ρ)
    (keeps : ∀ row, key (f row) = key row) (keeps' : ∀ row, key (g row) = key row)
    (commute : ∀ row, f (g row) = g (f row))
    : (table.update f keeps).modify k g keeps' = (table.modify k g keeps').update f keeps := by
  refine table_ext ?_
  simp only [Table.modify, Table.update_rows, List.map_map]
  refine List.map_congr_left fun row _ => ?_
  simp only [Function.comp_apply, keeps]
  split
  · exact (commute row).symm
  · rfl

/-- Rewriting every row, where that undoes what one row was rewritten by. -/
theorem update_modify (table : Table key) (k : UUID) (f g : ρ → ρ)
    (keeps : ∀ row, key (f row) = key row) (keeps' : ∀ row, key (g row) = key row)
    (undoes : ∀ row, f (g row) = f row)
    : (table.modify k g keeps').update f keeps = table.update f keeps := by
  refine table_ext ?_
  simp only [Table.modify, Table.update_rows, List.map_map]
  refine List.map_congr_left fun row _ => ?_
  simp only [Function.comp_apply]
  split
  · exact undoes row
  · rfl

/-- A path names the same row of the caller, rewritten. -/
theorem ownRow_map (accountId : ρ → UUID) (missing : String) (caller : UUID) (found : Option ρ)
    (f : ρ → ρ) (keeps : ∀ row, accountId (f row) = accountId row)
    : ownRow accountId missing caller (found.map f)
      = (ownRow accountId missing caller found).map f := by
  cases found with
  | none => rfl
  | some row =>
      simp only [ownRow, Option.map_some, keeps]
      split <;> rfl

end

-----------------------------------------------------------------------------------------
-- Answers to API clients
-----------------------------------------------------------------------------------------

theorem get?_shown (db : Db) (pipelineId : UUID)
    : db.shown.pipelines.get? pipelineId
      = (db.pipelines.get? pipelineId).map Pipeline.uncursored :=
  Table.get?_update db.pipelines Pipeline.uncursored (fun _ => rfl) pipelineId

theorem shown_rows (db : Db)
    : db.shown.pipelines.rows = db.pipelines.rows.map Pipeline.uncursored :=
  rfl

/-- One result shows what the other has. -/
structure Shows (full bare : Backend × Response) : Prop where
  db : bare.1.db = full.1.db.shown
  secrets : bare.1.secrets = full.1.secrets
  response : bare.2 = full.2

section

variable (platform : Platform) (env : RequestEnv) (db : Db) (secrets : SecretStore)
  (scheduler other : Scheduler) (accountId : UUID)

/-- The same answer over the database and over what it shows. -/
theorem Shows.answer (response : Response)
    : Shows (⟨db, secrets, scheduler⟩, response) (⟨db.shown, secrets, other⟩, response) :=
  ⟨rfl, rfl, rfl⟩

theorem insertConnection_shown (connection : Connection)
    : insertConnection env db.shown connection
      = (insertConnection env db connection).map Db.shown := by
  have same : db.shown.connections = db.connections := rfl
  simp only [insertConnection, same]
  cases checkLengths
      [(connection.name, 255), (connection.source, 100), (connection.secretRef, 255)] with
  | error exception => rfl
  | ok _ =>
      cases db.connections.insert connection with
      | none => rfl
      | some connections =>
          simp only [RequestEnv.commit]
          cases env.commitFault <;> rfl

/-- Pipelines without a cursor are inserted alike, by induction over them. -/
theorem insertPipelines_shown {pipelines : List Pipeline}
    (new : ∀ pipeline ∈ pipelines, pipeline.state = none)
    : insertPipelines db.shown pipelines = (insertPipelines db pipelines).map Db.shown := by
  induction pipelines generalizing db with
  | nil => rfl
  | cons pipeline rest ih =>
      have fixed : pipeline.uncursored = pipeline := by
        cases pipeline
        cases new _ List.mem_cons_self
        rfl
      have agents : db.shown.agents = db.agents := rfl
      have inserted
          : db.shown.pipelines.insert pipeline
            = (db.pipelines.insert pipeline).map
                (fun next => next.update Pipeline.uncursored (fun _ => rfl)) :=
        insert_update db.pipelines Pipeline.uncursored (fun _ => rfl) fixed
      simp only [insertPipelines, agents, inserted]
      cases checkLengths [(pipeline.connector, 100), (pipeline.tableName, 255),
          (pipeline.schedule, 100)] with
      | error exception => rfl
      | ok _ =>
          cases (db.agents.get? pipeline.agentId).isNone with
          | true => rfl
          | false =>
              cases db.pipelines.insert pipeline with
              | none => rfl
              | some pipelines =>
                  exact @ih { db with pipelines } fun other member =>
                    new other (List.mem_cons_of_mem _ member)

theorem createConnection_shown (name source : String) (credentials : List (String × String))
    : Shows
        (createConnection platform env ⟨db, secrets, scheduler⟩ accountId name source credentials)
        (createConnection platform env ⟨db.shown, secrets, other⟩ accountId name source
          credentials) := by
  simp only [createConnection]
  cases putSecret secrets env.putFault (secretRefOf accountId source)
      (credentialsJson credentials) with
  | error exception => exact .answer _ _ _ _ _
  | ok stored =>
      dsimp only
      cases runTest platform env source (credentialsJson credentials) with
      | error response => exact .answer _ _ _ _ _
      | ok tested =>
          simp only [insertConnection_shown]
          cases insertConnection env db _ with
          | error exception => exact .answer _ _ _ _ _
          | ok next => exact .answer _ _ _ _ _

theorem testSavedConnection_shown (connectionId : UUID)
    : Shows
        (testSavedConnection platform env ⟨db, secrets, scheduler⟩ accountId connectionId)
        (testSavedConnection platform env ⟨db.shown, secrets, other⟩ accountId connectionId) := by
  have same : db.shown.connections = db.connections := rfl
  simp only [testSavedConnection, same]
  cases ownRow Connection.accountId "Connection not found" accountId
      (db.connections.get? connectionId) with
  | error response => exact .answer _ _ _ _ _
  | ok connection =>
      dsimp only
      cases getSecret secrets env.getFault connection.secretRef with
      | error exception => exact .answer _ _ _ _ _
      | ok credentials =>
          dsimp only
          cases runTest platform env connection.source credentials with
          | error response => exact .answer _ _ _ _ _
          | ok tested =>
              simp only [RequestEnv.commit]
              cases env.commitFault with
              | some exception => exact .answer _ _ _ _ _
              | none => exact ⟨rfl, rfl, rfl⟩

theorem listSchema_shown (connectionId : UUID)
    : Shows
        (listSchema platform env ⟨db, secrets, scheduler⟩ accountId connectionId)
        (listSchema platform env ⟨db.shown, secrets, other⟩ accountId connectionId) := by
  have same : db.shown.connections = db.connections := rfl
  simp only [listSchema, same]
  cases ownRow Connection.accountId "Connection not found" accountId
      (db.connections.get? connectionId) with
  | error response => exact .answer _ _ _ _ _
  | ok connection =>
      dsimp only
      cases getSecret secrets env.getFault connection.secretRef with
      | error exception => exact .answer _ _ _ _ _
      | ok credentials =>
          dsimp only
          cases getSchemasForSource platform.repr env.configure connection.source credentials with
          | ok entries => exact .answer _ _ _ _ _
          | error exception =>
              dsimp only
              split
              · exact .answer _ _ _ _ _
              · exact .answer _ _ _ _ _

theorem bulkCreatePipelines_shown (agentId connectionId : UUID)
    (tables : List PipelineTableConfig)
    : Shows
        (bulkCreatePipelines platform env ⟨db, secrets, scheduler⟩ accountId agentId connectionId
          tables)
        (bulkCreatePipelines platform env ⟨db.shown, secrets, other⟩ accountId agentId connectionId
          tables) := by
  have same : db.shown.connections = db.connections := rfl
  have inserts := @insertPipelines_shown db
    (requestedPipelines env accountId agentId connectionId tables)
    fun pipeline member => (mem_requestedPipelines member).2.2.2
  simp only [bulkCreatePipelines, same, inserts]
  cases ownRow Connection.accountId "Connection not found" accountId
      (db.connections.get? connectionId) with
  | error response => exact .answer _ _ _ _ _
  | ok connection =>
      dsimp only
      cases insertPipelines db (requestedPipelines env accountId agentId connectionId tables) with
      | error exception => exact .answer _ _ _ _ _
      | ok next =>
          simp only [Except.map, bind, Except.bind, RequestEnv.commit]
          cases env.commitFault with
          | some exception => exact .answer _ _ _ _ _
          | none =>
              have alike := registerEach_exception platform.fromCrontab scheduler other
                (requestedPipelines env accountId agentId connectionId tables)
              dsimp only
              rcases left : registerEach platform.fromCrontab scheduler
                (requestedPipelines env accountId agentId connectionId tables) with ⟨first, failed⟩
              rcases right : registerEach platform.fromCrontab other
                (requestedPipelines env accountId agentId connectionId tables)
                with ⟨second, failedToo⟩
              rw [left, right] at alike
              cases alike
              cases failed with
              | some exception => exact ⟨rfl, rfl, rfl⟩
              | none => exact ⟨rfl, rfl, rfl⟩

theorem deactivatePipeline_shown (pipelineId : UUID)
    : Shows
        (deactivatePipeline env ⟨db, secrets, scheduler⟩ accountId pipelineId)
        (deactivatePipeline env ⟨db.shown, secrets, other⟩ accountId pipelineId) := by
  have modified
      : db.shown.pipelines.modify pipelineId Pipeline.deactivated (fun _ => rfl)
        = (db.pipelines.modify pipelineId Pipeline.deactivated (fun _ => rfl)).update
            Pipeline.uncursored (fun _ => rfl) :=
    modify_update db.pipelines pipelineId Pipeline.uncursored Pipeline.deactivated
      (fun _ => rfl) (fun _ => rfl) (fun _ => rfl)
  simp only [deactivatePipeline, get?_shown, modified,
    ownRow_map Pipeline.accountId "Pipeline not found" accountId (db.pipelines.get? pipelineId)
      Pipeline.uncursored (fun _ => rfl)]
  cases ownRow Pipeline.accountId "Pipeline not found" accountId
      (db.pipelines.get? pipelineId) with
  | error response => exact .answer _ _ _ _ _
  | ok pipeline =>
      simp only [Except.map, RequestEnv.commit]
      cases env.commitFault with
      | some exception => exact .answer _ _ _ _ _
      | none => exact ⟨rfl, rfl, rfl⟩

/-- No answer to an API client depends on cursors, jobs or cron jobs, by cases of the
request.
-/
theorem handle_shown (request : ApiRequest)
    : Shows
        (handle platform env ⟨db, secrets, scheduler⟩ accountId request)
        (handle platform env ⟨db.shown, secrets, other⟩ accountId request) := by
  cases request with
  | testConnection source credentials =>
      simp only [handle, testConnection]
      cases runTest platform env source (credentialsJson credentials) with
      | error response => exact .answer _ _ _ _ _
      | ok tested => exact .answer _ _ _ _ _
  | createConnection name source credentials =>
      exact createConnection_shown platform env db secrets scheduler other accountId name source
        credentials
  | listConnections => exact .answer _ _ _ _ _
  | testSavedConnection connectionId =>
      exact testSavedConnection_shown platform env db secrets scheduler other accountId connectionId
  | listSchema connectionId =>
      exact listSchema_shown platform env db secrets scheduler other accountId connectionId
  | bulkCreatePipelines agentId connectionId tables =>
      exact bulkCreatePipelines_shown platform env db secrets scheduler other accountId agentId
        connectionId tables
  | getPipeline pipelineId =>
      simp only [handle, getPipeline, get?_shown,
        ownRow_map Pipeline.accountId "Pipeline not found" accountId
          (db.pipelines.get? pipelineId) Pipeline.uncursored (fun _ => rfl)]
      cases ownRow Pipeline.accountId "Pipeline not found" accountId
          (db.pipelines.get? pipelineId) with
      | error response => exact .answer _ _ _ _ _
      | ok pipeline => exact .answer _ _ _ _ _
  | listPipelines =>
      refine ⟨rfl, rfl, ?_⟩
      simp only [handle, listPipelines, shown_rows, List.filter_map, List.map_map]
      rfl
  | deactivatePipeline pipelineId =>
      exact deactivatePipeline_shown env db secrets scheduler other accountId pipelineId

end

-----------------------------------------------------------------------------------------
-- Arrivals
-----------------------------------------------------------------------------------------

/-- Whether an arrival is a request to the API with a token of an account. -/
def Arrival.ofAccount (service : Service) (accountId : UUID) : Arrival → Bool
  | .http request => decide (request.caller service = some accountId)
  | .tick _ _ => false
  | .restart => false

/-- What an API client reads of a response. -/
def AppResponse.view : AppResponse → Option View
  | .answer response => some response.view
  | _ => none

/-- The ids a request generates are fresh, and a new process comes up: no stored schedule is
rejected.
-/
def Admits (service : Service) (app : App) : Arrival → Prop
  | .http request =>
      ∀ accountId apiRequest,
        request.caller service = some accountId
        → request.endpoint = .api apiRequest
        → FreshIds app.shown ⟨accountId, request.env, apiRequest⟩
  | .tick _ _ => True
  | .restart => (loadSchedules service.platform.fromCrontab app.db .empty).2 = none

/-- Two apps that are up and that an account cannot tell apart. -/
structure SameApp (accountId : UUID) (left right : App) : Prop where
  up : left.scheduler.isSome = true
  otherUp : right.scheduler.isSome = true
  shown : SameFor accountId left.shown right.shown

section

variable {service : Service} {accountId : UUID} {left right app : App}

/-- No scheduler tells backends apart. -/
theorem SameFor.reschedule {left right : Backend} (same : SameFor accountId left right)
    (first second : Scheduler)
    : SameFor accountId { left with scheduler := first } { right with scheduler := second } :=
  ⟨same.agents, same.connections, same.pipelines, same.secrets, same.secretRefs,
    same.connectionIds, same.pipelineIds⟩

/-- What an app shows after a request is what the request makes of what it showed. -/
theorem served_shown (scheduler : Scheduler) (call : Call)
    : (app.served
        (handle service.platform call.env (app.backend scheduler) call.accountId call.request).1).shown
      = ⟨(serve service.platform app.shown call).1.db,
          (serve service.platform app.shown call).1.secrets, .empty⟩ := by
  have shows := handle_shown service.platform call.env app.db app.secrets scheduler .empty
    call.accountId call.request
  have db : (serve service.platform app.shown call).1.db = _ := shows.db
  have secrets : (serve service.platform app.shown call).1.secrets = _ := shows.secrets
  rw [db, secrets]
  rfl

/-- A caller of the API has shown a token of its account. -/
theorem caller_eq_some_iff {request : HttpRequest}
    : request.caller service = some accountId
      ↔ ∃ apiRequest token,
          request.endpoint = .api apiRequest
          ∧ request.token service = .ok token
          ∧ getAccountId token = accountId := by
  unfold HttpRequest.caller
  constructor
  · intro called
    split at called
    · next apiRequest token endpoint verified =>
        exact ⟨apiRequest, token, endpoint, verified, Option.some.inj called⟩
    · cases called
  · intro called
    obtain ⟨apiRequest, token, endpoint, verified, rfl⟩ := called
    rw [endpoint, verified]

/-- A request of an API client is served by its endpoint. -/
theorem step_caller {request : HttpRequest} {apiRequest : ApiRequest} {scheduler : Scheduler}
    (up : app.scheduler = some scheduler) (called : request.caller service = some accountId)
    (endpoint : request.endpoint = .api apiRequest)
    : app.step service (.http request)
      = let result := handle service.platform request.env (app.backend scheduler) accountId
          apiRequest
        (app.served result.1, .answer result.2) := by
  obtain ⟨_, token, _, verified, rfl⟩ := caller_eq_some_iff.mp called
  simp only [App.step, up, App.serve, endpoint, verified]

/-- A report changes cursors and jobs only. -/
theorem reported_shown {jobId : UUID} {body : StatusUpdate} {now : Datetime} {db : Db}
    (updated : updateJobStatus app.db jobId body now = some db)
    : db.shown = app.db.shown := by
  obtain ⟨job, _, _, rfl⟩ := updateJobStatus_some updated
  cases body.cursor with
  | none => rfl
  | some state =>
      have pipelines
          : (app.db.pipelines.modify job.pipelineId
                (fun pipeline => pipeline.advanced state) (fun _ => rfl)).update
              Pipeline.uncursored (fun _ => rfl)
            = app.db.pipelines.update Pipeline.uncursored (fun _ => rfl) :=
        update_modify app.db.pipelines job.pipelineId Pipeline.uncursored
          (fun pipeline => pipeline.advanced state) (fun _ => rfl) (fun _ => rfl) (fun _ => rfl)
      simp only [Db.shown, pipelines]

/-- An admissible arrival leaves the app up. -/
theorem step_up {arrival : Arrival} (up : app.scheduler.isSome = true)
    (admits : Admits service app arrival)
    : (app.step service arrival).1.scheduler.isSome = true := by
  cases arrival with
  | http request =>
      have effect := step_effect service app (.http request)
      generalize (app.step service (.http request)).1 = next at effect ⊢
      cases effect with
      | unchanged => exact up
      | served _ _ _ => rfl
      | dispatched _ _ _ => exact up
      | reported _ _ _ => exact up
      | seen _ _ _ => exact up
  | tick pipelineId jobId =>
      have effect := step_effect service app (.tick pipelineId jobId)
      generalize (app.step service (.tick pipelineId jobId)).1 = next at effect ⊢
      cases effect with
      | unchanged => exact up
      | ticked _ _ _ => exact up
  | restart =>
      have loads : (loadSchedules service.platform.fromCrontab app.db .empty).2 = none := admits
      simp only [App.step, App.restart]
      split
      · rfl
      · next failed =>
          rw [failed] at loads
          cases loads

/-- A request with a token of the account is answered alike and keeps the apps alike. -/
theorem SameApp.own {arrival : Arrival} (same : SameApp accountId left right)
    (mine : arrival.ofAccount service accountId = true) (admits : Admits service left arrival)
    : (left.step service arrival).2.view = (right.step service arrival).2.view
      ∧ SameApp accountId (left.step service arrival).1 (right.step service arrival).1 := by
  cases arrival with
  | http request =>
      have called : request.caller service = some accountId := of_decide_eq_true mine
      obtain ⟨apiRequest, token, endpoint, verified, own⟩ := caller_eq_some_iff.mp called
      obtain ⟨first, up⟩ := Option.isSome_iff_exists.mp same.up
      obtain ⟨second, otherUp⟩ := Option.isSome_iff_exists.mp same.otherUp
      let call : Call := ⟨accountId, request.env, apiRequest⟩
      obtain ⟨view, next⟩ := @SameFor.own left.shown right.shown service.platform call same.shown
        (admits accountId apiRequest called endpoint)
      have shows := handle_shown service.platform request.env left.db left.secrets first .empty
        accountId apiRequest
      have otherShows := handle_shown service.platform request.env right.db right.secrets second
        .empty accountId apiRequest
      rw [step_caller up called endpoint, step_caller otherUp called endpoint]
      refine ⟨congrArg some ?_, rfl, rfl, ?_⟩
      · exact (congrArg Response.view shows.response).symm.trans
          (view.trans (congrArg Response.view otherShows.response))
      · have first_ := @served_shown service left first call
        have second_ := @served_shown service right second call
        exact first_ ▸ second_ ▸ next.reschedule .empty .empty
  | tick pipelineId jobId => cases mine
  | restart => cases mine

/-- Any other arrival changes nothing the account can tell, by cases of its effect. -/
theorem SameApp.foreign {arrival : Arrival} (same : SameApp accountId left right)
    (foreign : arrival.ofAccount service accountId = false)
    (admits : Admits service left arrival)
    : SameApp accountId (left.step service arrival).1 right := by
  refine ⟨step_up same.up admits, same.otherUp, ?_⟩
  have effect := step_effect service left arrival
  generalize (left.step service arrival).1 = next at effect ⊢
  cases effect with
  | unchanged => exact same.shown
  | @served request caller apiRequest scheduler up called endpoint =>
      have other : caller ≠ accountId := by
        intro own
        subst own
        have mine : request.caller service ≠ some caller := of_decide_eq_false foreign
        exact mine called
      let call : Call := ⟨caller, request.env, apiRequest⟩
      have shown := @served_shown service left scheduler call
      have next := @SameFor.foreign service.platform accountId left.shown right.shown call
        same.shown other
      exact shown ▸ next.reschedule .empty right.shown.scheduler
  | dispatched _ _ _ => exact same.shown
  | reported _ _ updated =>
      have shown := reported_shown updated
      simp only [App.shown, shown]
      exact same.shown
  | seen _ _ _ => exact same.shown
  | ticked _ _ _ => exact same.shown
  | restarted _ => exact same.shown

end

/-- The app unwinds for every account. -/
theorem app_unwinds (service : Service) (accountId : UUID)
    : Unwinds (App.step service) (Arrival.ofAccount service accountId) AppResponse.view
        (Admits service) (SameApp accountId) where
  own := fun same mine admits => same.own mine admits
  foreign := fun same foreign admits => same.foreign foreign admits

/-- Every arrival keeps references derived. -/
theorem step_keeps_refs {service : Service} {app : App} {arrival : Arrival}
    (derived : app.db.RefsDerived)
    : (app.step service arrival).1.db.RefsDerived := by
  have effect := step_effect service app arrival
  generalize (app.step service arrival).1 = next at effect ⊢
  cases effect with
  | unchanged => exact derived
  | @served request caller apiRequest scheduler _ _ _ =>
      have before : (app.backend scheduler).db.RefsDerived := derived
      exact handle_keeps_refs service.platform request.env caller apiRequest before
  | dispatched _ _ _ => exact derived
  | reported _ _ updated =>
      obtain ⟨_, _, _, rfl⟩ := updateJobStatus_some updated
      exact derived
  | seen _ _ _ => exact derived
  | ticked _ _ _ => exact derived
  | restarted _ => exact derived

/-- What an account finds in an app that is up is the same as itself. -/
theorem SameApp.refl {app : App} (up : app.scheduler.isSome = true)
    (derived : app.db.RefsDerived) (accountId : UUID)
    : SameApp accountId app app :=
  have shown : app.shown.db.RefsDerived := derived
  ⟨up, up, shown.sameFor accountId⟩

/-- In every run of a new deployment, an account is answered as if nothing had arrived but
the requests with its tokens, and no other arrival changes its connections, its pipelines
up to their cursors, or the secret behind one of its connections. Generated ids are fresh,
and no stored schedule keeps a new process from coming up.
-/
theorem app_noninterference (service : Service) (agents : Table Agent.agentId)
    (secrets : SecretStore) (accountId : UUID) {arrivals : List Arrival}
    (admissible
      : Admissible (App.step service) (Admits service) (App.deployed agents secrets) arrivals)
    : let start := App.deployed agents secrets
      let mine := Arrival.ofAccount service accountId
      observations (App.step service) mine AppResponse.view start arrivals
        = observations (App.step service) mine AppResponse.view start (arrivals.filter mine)
      ∧ ∀ earlier arrival later,
          arrivals = earlier ++ arrival :: later
          → mine arrival = false
          → let before := (finalState (App.step service) start earlier).shown
            let after := ((finalState (App.step service) start earlier).step service arrival).1.shown
            after.connectionsOf accountId = before.connectionsOf accountId
            ∧ after.pipelinesOf accountId = before.pipelinesOf accountId
            ∧ ∀ connection ∈ before.connectionsOf accountId,
                after.secrets connection.secretRef = before.secrets connection.secretRef := by
  intro start mine
  have derived : start.db.RefsDerived := fun connection member => nomatch member
  refine ⟨(app_unwinds service accountId).observations_purge (.refl rfl derived accountId)
    admissible, ?_⟩
  intro earlier arrival later split_ foreign before after
  subst split_
  obtain ⟨up, refs⟩ := @Admissible.invariant _ _ _ (App.step service) (Admits service)
    (fun app => app.scheduler.isSome = true ∧ app.db.RefsDerived)
    (fun holds admits => ⟨step_up holds.1 admits, step_keeps_refs holds.2⟩) start earlier
    (arrival :: later) ⟨rfl, derived⟩ admissible
  have same := ((SameApp.refl up refs accountId).foreign foreign admissible.at_input).shown
  refine ⟨same.connections, same.pipelines, fun connection member => ?_⟩
  rw [same.secretRefs connection (same.connections ▸ member)]
  exact same.secrets connection.source

-----------------------------------------------------------------------------------------
-- Two accounts and an agent
-----------------------------------------------------------------------------------------

namespace Sample

/-- The token of an account 1 or 2. -/
def token (accountId : UUID) : String :=
  if accountId = ⟨1⟩ then
    "eyJ0eXAiOiJKV1QiLCJhbGciOiJIUzI1NiJ9."
    ++ "eyJzdWIiOiJ1IiwiYWNjb3VudF9pZCI6IjAwMDAwMDAwLTAwMDAtMDAwMC0wMDAwLTAwMDAwMDAwMDAwMSJ9."
    ++ "36CsX8NOJSdgcDkGVqYLQ2E7ODu606E_ncptYt2yHzg"
  else
    "eyJ0eXAiOiJKV1QiLCJhbGciOiJIUzI1NiJ9."
    ++ "eyJzdWIiOiJ1IiwiYWNjb3VudF9pZCI6IjAwMDAwMDAwLTAwMDAtMDAwMC0wMDAwLTAwMDAwMDAwMDAwMiJ9."
    ++ "BWr0hBk40DjL-vGxj_msRYeCBEgXuJFxdGSWuWdKqr0"

/-- A reader that accepts the two tokens, under the secret they were signed with. -/
def tokens : TokenReader :=
  {
    decode := fun _ text secret algorithms =>
      if secret ≠ "0123456789abcdef0123456789abcdef" ∨ "HS256" ∉ algorithms then
        .error .invalidToken
      else if text = token ⟨1⟩ then
        .ok (.dict [("sub", .str "u"),
          ("account_id", .str "00000000-0000-0000-0000-000000000001")])
      else if text = token ⟨2⟩ then
        .ok (.dict [("sub", .str "u"),
          ("account_id", .str "00000000-0000-0000-0000-000000000002")])
      else .error .invalidToken
    uuid := fun text =>
      if text = "00000000-0000-0000-0000-000000000001" then some ⟨1⟩
      else if text = "00000000-0000-0000-0000-000000000002" then some ⟨2⟩
      else none
  }

def service : Service :=
  {
    platform := Platform.written
    settings := { jwtSecret := "0123456789abcdef0123456789abcdef", agentApiKey := "agents" }
    tokens
  }

def epoch : Datetime := default

/-- A request that shows this token and key, with one id to give away. -/
def http (credentials agentKey : Option String) (endpoint : Endpoint) (id : Fin (2 ^ 128))
    : Arrival :=
  .http {
    credentials
    agentKey
    endpoint
    receivedAt := epoch
    env :=
      {
        uuid := fun _ => ⟨id⟩
        now := epoch
        createdAt := epoch
        configure := fun _ _ => .ok ()
        testConnection := fun _ _ => .ok ()
      }
    agentEnv := { now := epoch, clock := fun _ => epoch }
  }

/-- An account saves a connection. -/
def saves (accountId connectionId : Fin (2 ^ 128)) : Arrival :=
  http (some (token ⟨accountId⟩)) none
    (.api (.createConnection "shop" "razorpay" [("api_key", "key")])) connectionId

/-- Account 1 lists its connections. -/
def lists : Arrival := http (some (token ⟨1⟩)) none (.api .listConnections) 0

/-- An agent shows that it is alive. -/
def beats (agentKey : String) : Arrival := http none (some agentKey) (.agent (.heartbeat ⟨1⟩)) 0

end Sample

/-- Between the requests of one account another saves a connection for the same source, an
agent shows its key and another a wrong one, and the process is restarted.
-/
theorem app_noninterference_two_accounts
    : let start := App.deployed ⟨[⟨⟨1⟩, ⟨2⟩⟩], List.nodup_singleton _⟩ (fun _ => none)
      observations (App.step Sample.service) (Arrival.ofAccount Sample.service ⟨1⟩)
          AppResponse.view start
          [Sample.saves 1 11, Sample.beats "agents", Sample.saves 2 12, Sample.beats "wrong",
            .restart, Sample.lists]
        = observations (App.step Sample.service) (Arrival.ofAccount Sample.service ⟨1⟩)
            AppResponse.view start [Sample.saves 1 11, Sample.lists] := by
  intro start
  have first : Admits Sample.service start (Sample.saves 1 11) := by
    intro accountId request _ same
    cases same
    rfl
  have beat (app : App) (agentKey : String) : Admits Sample.service app (Sample.beats agentKey) := by
    intro accountId request _ same
    cases same
  let saved := (start.step Sample.service (Sample.saves 1 11)).1
  have second
      : Admits Sample.service (saved.step Sample.service (Sample.beats "agents")).1
          (Sample.saves 2 12) := by
    intro accountId request _ same
    cases same
    change (saved.step Sample.service (Sample.beats "agents")).1.shown.db.connections.get? ⟨12⟩ = none
    decide +kernel
  have last (app : App) : Admits Sample.service app Sample.lists := by
    intro accountId request _ same
    cases same
    trivial
  have comesUp (app : App) (quiet : app.db.pipelines.rows.isEmpty = true)
      : Admits Sample.service app .restart := by
    have active : app.db.pipelines.rows.filter (fun pipeline => pipeline.isActive) = [] := by
      rw [List.isEmpty_iff.mp quiet]
      rfl
    simp only [Admits, loadSchedules, active, registerAll]
  have purged := (@app_noninterference Sample.service _ _ ⟨1⟩
    [Sample.saves 1 11, Sample.beats "agents", Sample.saves 2 12, Sample.beats "wrong", .restart,
      Sample.lists]
    ⟨first, beat _ _, second, beat _ _, comesUp _ (by decide +kernel), last _, trivial⟩).1
  have saves : (Sample.saves 1 11).ofAccount Sample.service ⟨1⟩ = true := by decide +kernel
  have others : (Sample.saves 2 12).ofAccount Sample.service ⟨1⟩ = false := by decide +kernel
  have lists : Sample.lists.ofAccount Sample.service ⟨1⟩ = true := by decide +kernel
  have beats (agentKey : String)
      : (Sample.beats agentKey).ofAccount Sample.service ⟨1⟩ = false := rfl
  have restart : Arrival.restart.ofAccount Sample.service ⟨1⟩ = false := rfl
  simpa only [List.filter_cons, saves, others, lists, beats, restart, if_true,
    Bool.false_eq_true, if_false, List.filter_nil] using purged

end Turbocat.Orchestrator
