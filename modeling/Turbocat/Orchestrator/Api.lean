import Mathlib.Data.List.Sort
import Turbocat.Connectors.Registry
import Turbocat.Orchestrator.Jobs

/-! The endpoints that end users call with a token: connections and pipelines. A request
arrives with the account of its token.
-/

namespace Turbocat.Orchestrator

open Turbocat.Library Turbocat.Python Turbocat.Connectors

structure PipelineTableConfig where
  connector : String
  tableName : String
  schedule : String
  params : Dict := []
  deriving Repr

inductive ApiRequest where
  | testConnection (source : String) (credentials : List (String × String))
  | createConnection (name source : String) (credentials : List (String × String))
  | listConnections
  | testSavedConnection (connectionId : UUID)
  | listSchema (connectionId : UUID)
  | bulkCreatePipelines (agentId connectionId : UUID) (tables : List PipelineTableConfig)
  | getPipeline (pipelineId : UUID)
  | listPipelines
  | deactivatePipeline (pipelineId : UUID)
  deriving Repr

/-- What one request meets: the ids it generates, clock readings, and how the services it
calls answer.
-/
structure RequestEnv where
  uuid : Nat → UUID
  now : Datetime
  createdAt : Datetime
  putFault : Option String := none
  getFault : Option String := none
  commitFault : Option PyException := none
  configure : Configure
  testConnection : ConnectorClass → Json → Except PyException Unit

structure ConnectionResponse where
  connectionId : UUID
  accountId : UUID
  name : String
  source : String
  status : String
  lastTestedAt : Option Datetime
  deriving DecidableEq, Repr

structure PipelineResponse where
  pipelineId : UUID
  accountId : UUID
  agentId : UUID
  connectionId : UUID
  connector : String
  tableName : String
  schedule : String
  params : Dict
  isActive : Bool
  deriving Repr

inductive ResponseBody where
  | test (success : Bool) (error : Option String)
  | connection (connection : ConnectionResponse)
  | connections (connections : List ConnectionResponse)
  | entries (entries : List TableEntry)
  | pipeline (pipeline : PipelineResponse)
  | pipelines (pipelines : List PipelineResponse)
  deriving Repr

/-- A response; an exception no handler catches becomes a 500. -/
inductive Response where
  | ok (body : ResponseBody)
  | httpError (statusCode : Nat) (detail : String)
  | serverError (exception : PyException)
  deriving Repr

def Connection.response (connection : Connection) : ConnectionResponse :=
  ⟨connection.connectionId, connection.accountId, connection.name, connection.source,
    connection.status.value, connection.lastTestedAt⟩

def Pipeline.response (pipeline : Pipeline) : PipelineResponse :=
  ⟨pipeline.pipelineId, pipeline.accountId, pipeline.agentId, pipeline.connectionId,
    pipeline.connector, pipeline.tableName, pipeline.schedule, pipeline.params,
    pipeline.isActive⟩

/-- A connection after a test at a clock reading. -/
def Connection.retested (connection : Connection) (status : ConnectionStatus) (now : Datetime)
    : Connection :=
  { connection with status, lastTestedAt := some now }

/-- A pipeline that is no longer scheduled. -/
def Pipeline.deactivated (pipeline : Pipeline) : Pipeline := { pipeline with isActive := false }

/-- The state one orchestrator process serves requests from. -/
structure Backend where
  db : Db
  secrets : SecretStore
  scheduler : Scheduler

/-- The row a path names, when it is there and belongs to the caller. -/
def ownRow {ρ : Type} (accountId : ρ → UUID) (missing : String) (caller : UUID)
    (found : Option ρ)
    : Except Response ρ :=
  match found with
  | none => .error (.httpError 404 missing)
  | some row => if accountId row ≠ caller then .error (.httpError 403 "Forbidden") else .ok row

/-- `_run_test`: the status and error of a live test, or a 400 for an unknown source. -/
def runTest (platform : Platform) (env : RequestEnv) (source : String) (credentials : Json)
    : Except Response (ConnectionStatus × Option String) :=
  let tested := do
    let cls ← buildFromCredentials platform.repr env.configure source credentials
    env.testConnection cls credentials
  match tested with
  | .ok _ => .ok (.active, none)
  | .error exception =>
      if exception.type = .keyError then .error (.httpError 400 exception.message)
      else .ok (.failed, some exception.message)

/-- The reference of an account's secret for a source. -/
def secretRefOf (accountId : UUID) (source : String) : String :=
  "orchestrator/" ++ accountId.str ++ "/" ++ source

/-- `DataError` for a text that its column does not take. -/
def tooLong (limit : Nat) : PyException :=
  ⟨.dataError, "value too long for type character varying(" ++ toString limit ++ ")"⟩

/-- Whether the texts of a row fit their columns. -/
def checkLengths : List (String × Nat) → Except PyException Unit
  | [] => .ok ()
  | (text, limit) :: rest =>
      if limit < text.length then .error (tooLong limit) else checkLengths rest

/-- A commit: whatever the database answers besides its own checks. -/
def RequestEnv.commit (env : RequestEnv) {α : Type} (written : α) : Except PyException α :=
  match env.commitFault with
  | some exception => .error exception
  | none => .ok written

/-- Commit a new connection. -/
def insertConnection (env : RequestEnv) (db : Db) (connection : Connection)
    : Except PyException Db := do
  checkLengths [(connection.name, 255), (connection.source, 100), (connection.secretRef, 255)]
  match db.connections.insert connection with
  | none => .error ⟨.integrityError, "connections_pkey"⟩
  | some connections => env.commit { db with connections }

/-- Insert pipelines one after the other, each with its foreign keys checked. -/
def insertPipelines (db : Db) : List Pipeline → Except PyException Db
  | [] => .ok db
  | pipeline :: rest => do
      checkLengths
        [(pipeline.connector, 100), (pipeline.tableName, 255), (pipeline.schedule, 100)]
      if (db.agents.get? pipeline.agentId).isNone then
        .error ⟨.integrityError, "pipelines_agent_id_fkey"⟩
      else
        match db.pipelines.insert pipeline with
        | none => .error ⟨.integrityError, "pipelines_pkey"⟩
        | some pipelines => insertPipelines { db with pipelines } rest

/-- The loop that registers created pipelines; it stops at a schedule that is rejected. -/
def registerEach (fromCrontab : FromCrontab)
    : Scheduler → List Pipeline → Scheduler × Option PyException
  | scheduler, [] => (scheduler, none)
  | scheduler, pipeline :: rest =>
      match registerPipeline fromCrontab scheduler pipeline with
      | .error exception => (scheduler, some exception)
      | .ok scheduler => registerEach fromCrontab scheduler rest

/-- The pipelines of a bulk request, in its order. -/
def requestedPipelines (env : RequestEnv) (accountId agentId connectionId : UUID)
    (tables : List PipelineTableConfig)
    : List Pipeline :=
  tables.mapIdx (fun number table =>
    {
      pipelineId := env.uuid number
      accountId
      agentId
      connectionId
      connector := table.connector
      tableName := table.tableName
      schedule := table.schedule
      params := table.params
    })

/-- Newest first; rows of one instant stay in the order of the table. -/
def newestFirst (connections : List Connection) : List Connection :=
  connections.insertionSort
    (fun left right => right.createdAt.us ≤ left.createdAt.us)

-----------------------------------------------------------------------------------------
-- Endpoints
-----------------------------------------------------------------------------------------

section

variable (platform : Platform) (env : RequestEnv) (backend : Backend) (accountId : UUID)

def testConnection (source : String) (credentials : List (String × String))
    : Backend × Response :=
  match runTest platform env source (credentialsJson credentials) with
  | .error response => (backend, response)
  | .ok (status, error) => (backend, .ok (.test (decide (status = .active)) error))

/-- The secret is stored before the credentials are tested and the row is written. -/
def createConnection (name source : String) (credentials : List (String × String))
    : Backend × Response :=
  let secretRef := secretRefOf accountId source
  match putSecret backend.secrets env.putFault secretRef (credentialsJson credentials) with
  | .error exception => (backend, .serverError exception)
  | .ok secrets =>
      let backend := { backend with secrets }
      match runTest platform env source (credentialsJson credentials) with
      | .error response => (backend, response)
      | .ok (status, _) =>
          let connection : Connection :=
            {
              connectionId := env.uuid 0
              accountId
              name
              source
              secretRef
              status
              lastTestedAt := some env.now
              createdAt := env.createdAt
            }
          match insertConnection env backend.db connection with
          | .error exception => (backend, .serverError exception)
          | .ok db => ({ backend with db }, .ok (.connection connection.response))

def listConnections : Backend × Response :=
  let own := backend.db.connections.rows.filter
    (fun connection => decide (connection.accountId = accountId))
  (backend, .ok (.connections ((newestFirst own).map Connection.response)))

def testSavedConnection (connectionId : UUID) : Backend × Response :=
  match ownRow Connection.accountId "Connection not found" accountId
      (backend.db.connections.get? connectionId) with
  | .error response => (backend, response)
  | .ok connection =>
      match getSecret backend.secrets env.getFault connection.secretRef with
      | .error exception => (backend, .serverError exception)
      | .ok credentials =>
          match runTest platform env connection.source credentials with
          | .error response => (backend, response)
          | .ok (status, error) =>
              let connections := backend.db.connections.modify connectionId
                (fun row => row.retested status env.now) (fun _ => rfl)
              match env.commit { backend.db with connections } with
              | .error exception => (backend, .serverError exception)
              | .ok db =>
                  ({ backend with db }, .ok (.test (decide (status = .active)) error))

def listSchema (connectionId : UUID) : Backend × Response :=
  match ownRow Connection.accountId "Connection not found" accountId
      (backend.db.connections.get? connectionId) with
  | .error response => (backend, response)
  | .ok connection =>
      match getSecret backend.secrets env.getFault connection.secretRef with
      | .error exception => (backend, .serverError exception)
      | .ok credentials =>
          match getSchemasForSource platform.repr env.configure connection.source credentials with
          | .ok entries => (backend, .ok (.entries entries))
          | .error exception =>
              if exception.type = .keyError then (backend, .httpError 400 exception.message)
              else (backend, .httpError 502 ("Failed to fetch schema: " ++ exception.message))

/-- The rows are committed before the schedules are read. -/
def bulkCreatePipelines (agentId connectionId : UUID) (tables : List PipelineTableConfig)
    : Backend × Response :=
  match ownRow Connection.accountId "Connection not found" accountId
      (backend.db.connections.get? connectionId) with
  | .error response => (backend, response)
  | .ok _ =>
      let pipelines := requestedPipelines env accountId agentId connectionId tables
      match insertPipelines backend.db pipelines >>= env.commit with
      | .error exception => (backend, .serverError exception)
      | .ok db =>
          match registerEach platform.fromCrontab backend.scheduler pipelines with
          | (scheduler, some exception) =>
              ({ backend with db, scheduler }, .serverError exception)
          | (scheduler, none) =>
              ({ backend with db, scheduler },
                .ok (.pipelines (pipelines.map Pipeline.response)))

def getPipeline (pipelineId : UUID) : Backend × Response :=
  match ownRow Pipeline.accountId "Pipeline not found" accountId
      (backend.db.pipelines.get? pipelineId) with
  | .error response => (backend, response)
  | .ok pipeline => (backend, .ok (.pipeline pipeline.response))

def listPipelines : Backend × Response :=
  let own := backend.db.pipelines.rows.filter
    (fun pipeline => decide (pipeline.accountId = accountId))
  (backend, .ok (.pipelines (own.map Pipeline.response)))

def deactivatePipeline (pipelineId : UUID) : Backend × Response :=
  match ownRow Pipeline.accountId "Pipeline not found" accountId
      (backend.db.pipelines.get? pipelineId) with
  | .error response => (backend, response)
  | .ok pipeline =>
      let pipelines := backend.db.pipelines.modify pipelineId
        Pipeline.deactivated (fun _ => rfl)
      match env.commit { backend.db with pipelines } with
      | .error exception => (backend, .serverError exception)
      | .ok db =>
          ({ backend with db, scheduler := deregisterPipeline backend.scheduler pipelineId },
            .ok (.pipeline pipeline.deactivated.response))

/-- Route a request to its endpoint. -/
def handle : ApiRequest → Backend × Response
  | .testConnection source credentials =>
      testConnection platform env backend source credentials
  | .createConnection name source credentials =>
      createConnection platform env backend accountId name source credentials
  | .listConnections => listConnections backend accountId
  | .testSavedConnection connectionId =>
      testSavedConnection platform env backend accountId connectionId
  | .listSchema connectionId => listSchema platform env backend accountId connectionId
  | .bulkCreatePipelines agentId connectionId tables =>
      bulkCreatePipelines platform env backend accountId agentId connectionId tables
  | .getPipeline pipelineId => getPipeline backend accountId pipelineId
  | .listPipelines => listPipelines backend accountId
  | .deactivatePipeline pipelineId => deactivatePipeline env backend accountId pipelineId

end

/-- An authenticated request with what it meets. -/
structure Call where
  accountId : UUID
  env : RequestEnv
  request : ApiRequest

/-- Serve a request. -/
def serve (platform : Platform) (backend : Backend) (call : Call) : Backend × Response :=
  handle platform call.env backend call.accountId call.request

end Turbocat.Orchestrator
