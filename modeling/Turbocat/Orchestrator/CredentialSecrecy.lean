import Turbocat.Orchestrator.AppNoninterference

/-! What the orchestrator shows of credentials: how their tests and the listings of their
tables end, and nothing else but what it sends to agents. Two deployments that are sent
different credentials whose tests and listings end alike hold the same rows and answer
alike, up to the credentials in payloads.
-/

namespace Turbocat.Orchestrator

open Turbocat.Library Turbocat.Python Turbocat.Connectors

-----------------------------------------------------------------------------------------
-- Secrets and payloads
-----------------------------------------------------------------------------------------

/-- Two values of which a payload takes both as credentials or neither. -/
def SameUse (left right : Json) : Prop :=
  (∃ credentials, validateCredentials left = .ok credentials)
  ↔ ∃ credentials, validateCredentials right = .ok credentials

/-- Two stored secrets that differ at most in their value. -/
inductive AlikeSecrets : Option SecretString → Option SecretString → Prop
  | same (secret : Option SecretString) : AlikeSecrets secret secret
  | decoded {left right : Json} (use : SameUse left right)
    : AlikeSecrets (some (.decoded left)) (some (.decoded right))

/-- Two fetches that fail alike or return such values. -/
inductive AlikeFetches : Except PyException Json → Except PyException Json → Prop
  | raises (exception : PyException) : AlikeFetches (.error exception) (.error exception)
  | returns {left right : Json} (use : SameUse left right) : AlikeFetches (.ok left) (.ok right)

theorem getSecret_alike {left right : SecretStore}
    (same : ∀ secretRef, AlikeSecrets (left secretRef) (right secretRef)) (fault : Option String)
    (secretRef : String)
    : AlikeFetches (getSecret left fault secretRef) (getSecret right fault secretRef) := by
  unfold getSecret
  cases fault with
  | some error => exact .raises _
  | none =>
      have stored := same secretRef
      generalize left secretRef = first at stored
      generalize right secretRef = second at stored
      cases stored with
      | decoded use => exact .returns use
      | same =>
          cases first with
          | none => exact .raises _
          | some secret =>
              cases secret with
              | absent => exact .raises _
              | malformed message => exact .raises _
              | decoded value => exact .returns Iff.rfl

/-- Any credentials of a request may stand in a payload. -/
theorem credentialsJson_sameUse (first second : List (String × String))
    : SameUse (credentialsJson first) (credentialsJson second) := by
  have valid (credentials : List (String × String))
      : ∃ dict, validateCredentials (credentialsJson credentials) = .ok dict := by
    refine ⟨_, validateCredentials_ok_iff.mpr ⟨rfl, fun entry member => ?_⟩⟩
    obtain ⟨pair, _, rfl⟩ := List.mem_map.mp member
    rfl
  exact iff_of_true (valid first) (valid second)

/-- Credentials that are no object of texts are always rejected with the same error. -/
theorem validateCredentials_error {value : Json} {exception : PyException}
    (rejected : validateCredentials value = .error exception)
    : exception = ⟨.validationError, "credentials"⟩ := by
  cases value with
  | dict entries =>
      simp only [validateCredentials] at rejected
      split at rejected
      · cases rejected
      · cases rejected
        rfl
  | null | bool _ | int _ | float _ | str _ | list _ =>
      cases rejected
      rfl

/-- A payload without its credentials. -/
def JobPayload.redacted (payload : JobPayload) : JobPayload := { payload with credentials := [] }

section

variable {platform : Platform}

/-- Payloads that are built with fetches alike differ in their credentials only. -/
theorem buildPayload_alike {left right : String → Except PyException Json} (now : Datetime)
    (loaded : LoadedJob) (same : ∀ secretRef, AlikeFetches (left secretRef) (right secretRef))
    : (buildPayload platform left now loaded).map JobPayload.redacted
      = (buildPayload platform right now loaded).map JobPayload.redacted := by
  unfold buildPayload
  cases loaded.pipeline with
  | none => rfl
  | some pipeline =>
      dsimp only
      cases windowStart platform pipeline with
      | error exception => rfl
      | ok start =>
          cases loaded.connection with
          | none => rfl
          | some connection =>
              have fetched := same connection.secretRef
              simp only [bind, Except.bind]
              generalize left connection.secretRef = first at fetched
              generalize right connection.secretRef = second at fetched
              cases fetched with
              | raises exception => rfl
              | @returns first second use =>
                  dsimp only
                  cases valid : validateCredentials first with
                  | ok credentials =>
                      obtain ⟨others, validOther⟩ := use.mp ⟨credentials, valid⟩
                      rw [validOther]
                      rfl
                  | error exception =>
                      cases validOther : validateCredentials second with
                      | ok credentials =>
                          obtain ⟨others, both⟩ := use.mpr ⟨credentials, validOther⟩
                          cases valid.symm.trans both
                      | error other =>
                          rw [validateCredentials_error valid, validateCredentials_error validOther]

/-- Two results that look alike are the same error, or values that look alike. -/
theorem map_eq_map_cases {ε α β : Type} {view : α → β} {left right : Except ε α}
    (same : left.map view = right.map view)
    : (∃ error, left = .error error ∧ right = .error error)
      ∨ ∃ first second, left = .ok first ∧ right = .ok second ∧ view first = view second := by
  cases left with
  | error error =>
      cases right with
      | error other =>
          cases same
          exact Or.inl ⟨error, rfl, rfl⟩
      | ok second => cases same
  | ok first =>
      cases right with
      | error other => cases same
      | ok second => exact Or.inr ⟨first, second, rfl, rfl, Except.ok.inj same⟩

/-- So do the payloads of a whole poll, by induction over its jobs. -/
theorem buildPayloads_alike {left right : Nat → String → Except PyException Json}
    (clock : Nat → Datetime) (number : Nat) (jobs : List LoadedJob)
    (same : ∀ number secretRef, AlikeFetches (left number secretRef) (right number secretRef))
    : (buildPayloads platform left clock number jobs).map (List.map JobPayload.redacted)
      = (buildPayloads platform right clock number jobs).map (List.map JobPayload.redacted) := by
  induction jobs generalizing number with
  | nil => rfl
  | cons loaded rest ih =>
      have first := @buildPayload_alike platform _ _ (clock number) loaded (same number)
      simp only [buildPayloads, bind, Except.bind]
      rcases map_eq_map_cases first with
        ⟨error, raisedLeft, raisedRight⟩ | ⟨payload, other, builtLeft, builtRight, heads⟩
      · rw [raisedLeft, raisedRight]
      · rw [builtLeft, builtRight]
        dsimp only
        rcases map_eq_map_cases (ih (number + 1)) with
          ⟨error, raisedLeft, raisedRight⟩ | ⟨payloads, others, restLeft, restRight, tails⟩
        · rw [raisedLeft, raisedRight]
        · rw [restLeft, restRight]
          exact congrArg Except.ok (congrArg₂ List.cons heads tails)

/-- A poll whose fetches are alike claims the same rows and answers alike. -/
theorem getPendingJobs_alike {env : PollEnv}
    {fetch : Nat → String → Except PyException Json} (db : Db) (agentId : UUID)
    (same : ∀ number secretRef, AlikeFetches (env.fetch number secretRef) (fetch number secretRef))
    : let left := getPendingJobs platform env db agentId
      let right := getPendingJobs platform { env with fetch } db agentId
      left.1 = right.1
      ∧ left.2.map (List.map JobPayload.redacted) = right.2.map (List.map JobPayload.redacted) := by
  have selected : selectedJobs { env with fetch } db agentId = selectedJobs env db agentId := rfl
  simp only [getPendingJobs, selected]
  by_cases nothing : (selectedJobs env db agentId).isEmpty = true
  · simp only [nothing, if_true, and_self]
  · simp only [nothing, Bool.false_eq_true, if_false]
    cases env.commitFault with
    | some exception => exact ⟨rfl, rfl⟩
    | none =>
        cases env.reloadFault with
        | some exception => exact ⟨rfl, rfl⟩
        | none => exact ⟨rfl, buildPayloads_alike env.clock 0 _ same⟩

-----------------------------------------------------------------------------------------
-- Requests of accounts
-----------------------------------------------------------------------------------------

/-- What an answer shows of the credentials that its request deals with. -/
inductive Learned where
  | nothing
  | tested (result : Except Response (ConnectionStatus × Option String))
  | listed (result : Except PyException (List TableEntry))

/-- What the answer to a request of an account shows of credentials. -/
def learned (platform : Platform) (db : Db) (secrets : SecretStore) (env : RequestEnv)
    (accountId : UUID)
    : ApiRequest → Learned
  | .testConnection source credentials =>
      .tested (runTest platform env source (credentialsJson credentials))
  | .createConnection _ source credentials =>
      .tested (runTest platform env source (credentialsJson credentials))
  | .testSavedConnection connectionId =>
      match ownRow Connection.accountId "Connection not found" accountId
          (db.connections.get? connectionId) with
      | .error _ => .nothing
      | .ok connection =>
          match getSecret secrets env.getFault connection.secretRef with
          | .error _ => .nothing
          | .ok credentials => .tested (runTest platform env connection.source credentials)
  | .listSchema connectionId =>
      match ownRow Connection.accountId "Connection not found" accountId
          (db.connections.get? connectionId) with
      | .error _ => .nothing
      | .ok connection =>
          match getSecret secrets env.getFault connection.secretRef with
          | .error _ => .nothing
          | .ok credentials =>
              .listed
                (getSchemasForSource platform.repr env.configure connection.source credentials)
  | _ => .nothing

/-- The same request, perhaps with other credentials. -/
inductive AlikeRequests : ApiRequest → ApiRequest → Prop
  | same (request : ApiRequest) : AlikeRequests request request
  | testConnection {source : String} {first second : List (String × String)}
    : AlikeRequests (.testConnection source first) (.testConnection source second)
  | createConnection {name source : String} {first second : List (String × String)}
    : AlikeRequests (.createConnection name source first) (.createConnection name source second)

/-- Two backends that differ at most in the values of their secrets. -/
structure AlikeBackends (left right : Backend) : Prop where
  db : left.db = right.db
  scheduler : left.scheduler = right.scheduler
  secrets : ∀ secretRef, AlikeSecrets (left.secrets secretRef) (right.secrets secretRef)

/-- Two environments that differ at most in how credentials are configured and tested. -/
structure AlikeEnvs (env other : RequestEnv) : Prop where
  uuid : other.uuid = env.uuid
  now : other.now = env.now
  createdAt : other.createdAt = env.createdAt
  putFault : other.putFault = env.putFault
  getFault : other.getFault = env.getFault
  commitFault : other.commitFault = env.commitFault

theorem AlikeEnvs.commit {env other : RequestEnv} (envs : AlikeEnvs env other) {α : Type}
    (written : α)
    : other.commit written = env.commit written := by
  simp only [RequestEnv.commit, envs.commitFault]

/-- What two backends come to when they serve two requests: alike again, with one answer. -/
def ServedAlike (left right : Backend × Response) : Prop :=
  AlikeBackends left.1 right.1 ∧ left.2 = right.2

section

variable {env other : RequestEnv} {db : Db} {leftSecrets rightSecrets : SecretStore}
  {scheduler : Scheduler} {accountId : UUID} (envs : AlikeEnvs env other)
  (secrets : ∀ secretRef, AlikeSecrets (leftSecrets secretRef) (rightSecrets secretRef))

include secrets

/-- Both backends take over the same rows and schedules. -/
theorem servedAlike (response : Response)
    : ServedAlike (⟨db, leftSecrets, scheduler⟩, response)
        (⟨db, rightSecrets, scheduler⟩, response) :=
  ⟨⟨rfl, rfl, secrets⟩, rfl⟩

theorem testConnection_alike {source : String} {first second : List (String × String)}
    (shows
      : runTest platform env source (credentialsJson first)
        = runTest platform other source (credentialsJson second))
    : ServedAlike
        (testConnection platform env ⟨db, leftSecrets, scheduler⟩ source first)
        (testConnection platform other ⟨db, rightSecrets, scheduler⟩ source second) := by
  simp only [testConnection, shows]
  cases runTest platform other source (credentialsJson second) <;> exact servedAlike secrets _

include envs

theorem createConnection_alike {name source : String} {first second : List (String × String)}
    (shows
      : runTest platform env source (credentialsJson first)
        = runTest platform other source (credentialsJson second))
    : ServedAlike
        (createConnection platform env ⟨db, leftSecrets, scheduler⟩ accountId name source first)
        (createConnection platform other ⟨db, rightSecrets, scheduler⟩ accountId name source
          second) := by
  have inserts (connection : Connection)
      : insertConnection other db connection = insertConnection env db connection := by
    simp only [insertConnection, envs.commit]
  simp only [createConnection, putSecret, envs.putFault, envs.uuid, envs.now, envs.createdAt,
    inserts, shows]
  cases env.putFault with
  | some error => exact servedAlike secrets _
  | none =>
      have written (secretRef : String)
          : AlikeSecrets
              (Function.update leftSecrets (secretRefOf accountId source)
                (some (.decoded (credentialsJson first))) secretRef)
              (Function.update rightSecrets (secretRefOf accountId source)
                (some (.decoded (credentialsJson second))) secretRef) := by
        by_cases own : secretRef = secretRefOf accountId source
        · subst own
          simp only [Function.update_self]
          exact .decoded (credentialsJson_sameUse first second)
        · simp only [Function.update_of_ne own]
          exact secrets secretRef
      cases runTest platform other source (credentialsJson second) with
      | error response => exact servedAlike written _
      | ok tested =>
          dsimp only
          split <;> exact servedAlike written _

theorem testSavedConnection_alike {connectionId : UUID}
    (shows
      : learned platform db leftSecrets env accountId (.testSavedConnection connectionId)
        = learned platform db rightSecrets other accountId (.testSavedConnection connectionId))
    : ServedAlike
        (testSavedConnection platform env ⟨db, leftSecrets, scheduler⟩ accountId connectionId)
        (testSavedConnection platform other ⟨db, rightSecrets, scheduler⟩ accountId
          connectionId) := by
  simp only [learned, envs.getFault] at shows
  simp only [testSavedConnection, envs.getFault, envs.now]
  cases found : ownRow Connection.accountId "Connection not found" accountId
      (db.connections.get? connectionId) with
  | error response => exact servedAlike secrets _
  | ok connection =>
      have fetched := getSecret_alike secrets env.getFault connection.secretRef
      rw [found] at shows
      dsimp only at shows ⊢
      generalize getSecret leftSecrets env.getFault connection.secretRef = first
        at fetched shows ⊢
      generalize getSecret rightSecrets env.getFault connection.secretRef = second
        at fetched shows ⊢
      cases fetched with
      | raises exception => exact servedAlike secrets _
      | returns use =>
          dsimp only
          rw [Learned.tested.inj shows]
          cases runTest platform other connection.source _ with
          | error response => exact servedAlike secrets _
          | ok tested =>
              simp only [RequestEnv.commit, envs.commitFault]
              cases env.commitFault <;> exact servedAlike secrets _

theorem listSchema_alike {connectionId : UUID}
    (shows
      : learned platform db leftSecrets env accountId (.listSchema connectionId)
        = learned platform db rightSecrets other accountId (.listSchema connectionId))
    : ServedAlike
        (listSchema platform env ⟨db, leftSecrets, scheduler⟩ accountId connectionId)
        (listSchema platform other ⟨db, rightSecrets, scheduler⟩ accountId connectionId) := by
  simp only [learned, envs.getFault] at shows
  simp only [listSchema, envs.getFault]
  cases found : ownRow Connection.accountId "Connection not found" accountId
      (db.connections.get? connectionId) with
  | error response => exact servedAlike secrets _
  | ok connection =>
      have fetched := getSecret_alike secrets env.getFault connection.secretRef
      rw [found] at shows
      dsimp only at shows ⊢
      generalize getSecret leftSecrets env.getFault connection.secretRef = first
        at fetched shows ⊢
      generalize getSecret rightSecrets env.getFault connection.secretRef = second
        at fetched shows ⊢
      cases fetched with
      | raises exception => exact servedAlike secrets _
      | returns use =>
          dsimp only
          rw [Learned.listed.inj shows]
          split
          · exact servedAlike secrets _
          · split <;> exact servedAlike secrets _

/-- Requests alike whose credentials show the same are answered the same, and leave backends
alike, by cases of the request.
-/
theorem handle_alike {first second : ApiRequest} (requests : AlikeRequests first second)
    (shows
      : learned platform db leftSecrets env accountId first
        = learned platform db rightSecrets other accountId second)
    : ServedAlike (handle platform env ⟨db, leftSecrets, scheduler⟩ accountId first)
        (handle platform other ⟨db, rightSecrets, scheduler⟩ accountId second) := by
  cases requests with
  | testConnection => exact testConnection_alike secrets (Learned.tested.inj shows)
  | createConnection => exact createConnection_alike envs secrets (Learned.tested.inj shows)
  | same =>
      cases first with
      | testConnection source credentials =>
          exact testConnection_alike secrets (Learned.tested.inj shows)
      | createConnection name source credentials =>
          exact createConnection_alike envs secrets (Learned.tested.inj shows)
      | listConnections => exact servedAlike secrets _
      | testSavedConnection connectionId => exact testSavedConnection_alike envs secrets shows
      | listSchema connectionId => exact listSchema_alike envs secrets shows
      | bulkCreatePipelines agentId connectionId tables =>
          have commits : @RequestEnv.commit other Db = @RequestEnv.commit env Db :=
            funext fun written => envs.commit written
          simp only [handle, bulkCreatePipelines, requestedPipelines, envs.uuid, commits]
          split
          · exact servedAlike secrets _
          · split
            · exact servedAlike secrets _
            · split <;> exact servedAlike secrets _
      | getPipeline pipelineId =>
          simp only [handle, getPipeline]
          split <;> exact servedAlike secrets _
      | listPipelines => exact servedAlike secrets _
      | deactivatePipeline pipelineId =>
          simp only [handle, deactivatePipeline, envs.commit]
          split
          · exact servedAlike secrets _
          · split <;> exact servedAlike secrets _

end

end

-----------------------------------------------------------------------------------------
-- The app
-----------------------------------------------------------------------------------------

/-- A response without the credentials of its payloads. -/
def AppResponse.redacted : AppResponse → AppResponse
  | .jobs payloads => .jobs (payloads.map JobPayload.redacted)
  | response => response

/-- Two apps that differ at most in the values of their secrets. -/
structure AlikeApps (left right : App) : Prop where
  db : left.db = right.db
  scheduler : left.scheduler = right.scheduler
  lastSeenAt : left.lastSeenAt = right.lastSeenAt
  secrets : ∀ secretRef, AlikeSecrets (left.secrets secretRef) (right.secrets secretRef)

/-- Two arrivals are the same, but that an account may send other credentials and have them
configured and tested otherwise, where the answers show the same of them.
-/
inductive AlikeArrivals (service : Service) (apps : App × App) : Arrival × Arrival → Prop
  | same {arrival : Arrival}
    (noApi : ∀ request api, arrival = .http request → request.endpoint ≠ .api api)
    : AlikeArrivals service apps (arrival, arrival)
  | api {request : HttpRequest} {first second : ApiRequest} {env : RequestEnv}
    (envs : AlikeEnvs request.env env) (requests : AlikeRequests first second)
    (shows
      : ∀ token,
          request.token service = .ok token
          → learned service.platform apps.1.db apps.1.secrets request.env (getAccountId token)
              first
            = learned service.platform apps.2.db apps.2.secrets env (getAccountId token) second)
    : AlikeArrivals service apps
        (.http { request with endpoint := .api first },
          .http { request with endpoint := .api second, env })

section

variable {service : Service} {db : Db} {leftSecrets rightSecrets : SecretStore}
  {scheduler : Option Scheduler} {lastSeenAt : UUID → Option Datetime}
  (secrets : ∀ secretRef, AlikeSecrets (leftSecrets secretRef) (rightSecrets secretRef))

/-- What two apps come to at two arrivals: alike again, with answers alike. -/
def SteppedAlike (left right : App × AppResponse) : Prop :=
  AlikeApps left.1 right.1 ∧ left.2.redacted = right.2.redacted

include secrets

/-- Both apps take over the same rows and schedules. -/
theorem steppedAlike (response : AppResponse)
    : SteppedAlike (⟨db, leftSecrets, scheduler, lastSeenAt⟩, response)
        (⟨db, rightSecrets, scheduler, lastSeenAt⟩, response) :=
  ⟨⟨rfl, rfl, rfl, secrets⟩, rfl⟩

/-- Requests of agents are served alike, by cases of the request. -/
theorem handleAgent_alike (env : AgentEnv) (request : AgentRequest)
    : SteppedAlike
        (App.handleAgent service.platform env ⟨db, leftSecrets, scheduler, lastSeenAt⟩ request)
        (App.handleAgent service.platform env ⟨db, rightSecrets, scheduler, lastSeenAt⟩
          request) := by
  cases request with
  | getPendingJobs agentId =>
      have polled :=
        @getPendingJobs_alike service.platform (env.poll leftSecrets)
          (env.poll rightSecrets).fetch db agentId
          (fun number => getSecret_alike secrets (env.getFault number))
      have right
          : ({ env.poll leftSecrets with fetch := (env.poll rightSecrets).fetch } : PollEnv)
            = env.poll rightSecrets :=
        rfl
      rw [right] at polled
      simp only [App.handleAgent, App.getPendingJobs]
      generalize getPendingJobs service.platform (env.poll leftSecrets) db agentId = first
        at polled ⊢
      generalize getPendingJobs service.platform (env.poll rightSecrets) db agentId = second
        at polled ⊢
      obtain ⟨next, first⟩ := first
      obtain ⟨other, second⟩ := second
      obtain ⟨rows, answers⟩ := polled
      cases rows
      rcases map_eq_map_cases answers with
        ⟨exception, rfl, rfl⟩ | ⟨payloads, others, rfl, rfl, alike⟩
      · exact steppedAlike secrets _
      · exact ⟨⟨rfl, rfl, rfl, secrets⟩, congrArg AppResponse.jobs alike⟩
  | updateJobStatus jobId body =>
      simp only [App.handleAgent, App.updateJobStatus]
      split
      · exact steppedAlike secrets _
      · split <;> exact steppedAlike secrets _
  | heartbeat agentId =>
      simp only [App.handleAgent, App.heartbeat]
      split
      · exact steppedAlike secrets _
      · cases env.commitFault <;> exact steppedAlike secrets _

/-- An arrival without credentials is served alike, by cases of the arrival. -/
theorem step_blind {arrival : Arrival}
    (noApi : ∀ request api, arrival = .http request → request.endpoint ≠ .api api)
    : SteppedAlike (App.step service ⟨db, leftSecrets, scheduler, lastSeenAt⟩ arrival)
        (App.step service ⟨db, rightSecrets, scheduler, lastSeenAt⟩ arrival) := by
  cases arrival with
  | restart =>
      simp only [App.step, App.restart]
      split <;> exact steppedAlike secrets _
  | tick pipelineId jobId =>
      cases scheduler with
      | none => exact steppedAlike secrets _
      | some scheduler =>
          simp only [App.step, App.tick]
          split
          · exact steppedAlike secrets _
          · split <;> exact steppedAlike secrets _
  | http request =>
      cases scheduler with
      | none => exact steppedAlike secrets _
      | some scheduler =>
          simp only [App.step, App.serve]
          cases served : request.endpoint with
          | api api => exact absurd served (noApi request api rfl)
          | health => exact steppedAlike secrets _
          | agent agentRequest =>
              dsimp only
              split
              · exact steppedAlike secrets _
              · exact handleAgent_alike secrets request.agentEnv agentRequest

end

/-- Apps alike take arrivals alike to apps alike, and answer them alike. -/
theorem step_alike {service : Service} {left right : App} {arrivals : Arrival × Arrival}
    (apps : AlikeApps left right) (alike : AlikeArrivals service (left, right) arrivals)
    : SteppedAlike (App.step service left arrivals.1) (App.step service right arrivals.2) := by
  obtain ⟨db, leftSecrets, scheduler, lastSeenAt⟩ := left
  obtain ⟨rightDb, rightSecrets, rightScheduler, rightSeen⟩ := right
  obtain ⟨rows, schedules, seen, secrets⟩ := apps
  cases rows
  cases schedules
  cases seen
  cases alike with
  | same noApi => exact step_blind secrets noApi
  | @api request first second env envs requests shows =>
      cases scheduler with
      | none => exact steppedAlike secrets _
      | some scheduler =>
          have same
              : ({ request with endpoint := .api second, env } : HttpRequest).token service
                = request.token service :=
            rfl
          have own
              : ({ request with endpoint := .api first } : HttpRequest).token service
                = request.token service :=
            rfl
          simp only [App.step, App.serve, same, own]
          cases token : request.token service with
          | error response => exact steppedAlike secrets _
          | ok payload =>
              obtain ⟨backends, answer⟩ :=
                @handle_alike service.platform request.env env db leftSecrets rightSecrets
                  scheduler (getAccountId payload) envs secrets first second requests
                  (shows payload token)
              refine ⟨⟨backends.db, congrArg some backends.scheduler, rfl, backends.secrets⟩, ?_⟩
              exact congrArg (fun response => (AppResponse.answer response).redacted) answer

/-- Credentials are written and not read back: two deployments that are sent different
credentials, which are tested and listed with the same results, hold the same rows,
schedules and times and answer every request the same, up to the credentials in the
payloads of agents.
-/
theorem credentials_write_only {service : Service} {agents : Table Agent.agentId}
    {first second : SecretStore} {arrivals : List (Arrival × Arrival)}
    (secrets : ∀ secretRef, AlikeSecrets (first secretRef) (second secretRef))
    (alike
      : Admissible (sideBySide (App.step service)) (AlikeArrivals service)
          (App.deployed agents first, App.deployed agents second) arrivals)
    : AlikeApps
        (finalState (App.step service) (App.deployed agents first) (arrivals.map Prod.fst))
        (finalState (App.step service) (App.deployed agents second) (arrivals.map Prod.snd))
      ∧ observations (App.step service) (fun _ => true) AppResponse.redacted
            (App.deployed agents first) (arrivals.map Prod.fst)
        = observations (App.step service) (fun _ => true) AppResponse.redacted
            (App.deployed agents second) (arrivals.map Prod.snd) :=
  Admissible.lockstep (fun apps alike => step_alike apps alike)
    (show AlikeApps (App.deployed agents first) (App.deployed agents second) from
      ⟨rfl, rfl, rfl, secrets⟩)
    alike

namespace Sample

/-- A request with the token of account 1, with one id to give away. -/
def asked (id : Fin (2 ^ 128)) : HttpRequest :=
  {
    credentials := some (token ⟨1⟩)
    endpoint := .health
    receivedAt := epoch
    env :=
      {
        uuid := fun _ => ⟨id⟩
        now := epoch
        createdAt := epoch
        configure := fun _ _ => .ok ()
        testConnection := fun _ _ => .ok ()
      }
    agentEnv := { now := epoch, clock := fun _ => epoch }
  }

/-- The account saves a connection with some key. -/
def sends (apiKey : String) : Arrival :=
  .http { asked 11 with
    endpoint := .api (.createConnection "shop" "razorpay" [("api_key", apiKey)]) }

/-- The account creates a pipeline for the agent 1. -/
def creates : Arrival :=
  .http { asked 21 with
    endpoint :=
      .api (.bulkCreatePipelines ⟨1⟩ ⟨11⟩ [⟨"razorpay_orders", "orders", "0 * * * *", []⟩]) }

/-- The agent polls. -/
def polls : Arrival := http none (some "agents") (.agent (.getPendingJobs ⟨1⟩)) 0

end Sample

/-- Two deployments get different keys, and their agents different payloads. -/
theorem credentials_write_only_two_keys
    : let start := App.deployed ⟨[⟨⟨1⟩, ⟨1⟩⟩], List.nodup_singleton _⟩ (fun _ => none)
      let arrivals (apiKey : String) : List Arrival :=
        [Sample.sends apiKey, Sample.creates, .tick ⟨21⟩ ⟨31⟩, Sample.polls]
      observations (App.step Sample.service) (fun _ => true) AppResponse.redacted start
          (arrivals "key")
        = observations (App.step Sample.service) (fun _ => true) AppResponse.redacted start
            (arrivals "other") := by
  intro start arrivals
  have tested (apiKey : String)
      : runTest Sample.service.platform (Sample.asked 11).env "razorpay"
          (credentialsJson [("api_key", apiKey)])
        = .ok (.active, none) :=
    rfl
  have blind (db : Db) (secrets : SecretStore) (env : RequestEnv) (accountId : UUID)
      (tables : List PipelineTableConfig)
      : learned Sample.service.platform db secrets env accountId
          (.bulkCreatePipelines ⟨1⟩ ⟨11⟩ tables)
        = .nothing :=
    rfl
  exact (@credentials_write_only Sample.service ⟨[⟨⟨1⟩, ⟨1⟩⟩], List.nodup_singleton _⟩ _ _
    [(Sample.sends "key", Sample.sends "other"), (Sample.creates, Sample.creates),
      (.tick ⟨21⟩ ⟨31⟩, .tick ⟨21⟩ ⟨31⟩), (Sample.polls, Sample.polls)]
    (fun _ => .same none)
    ⟨@AlikeArrivals.api Sample.service _ (Sample.asked 11) _ _ (Sample.asked 11).env
        ⟨rfl, rfl, rfl, rfl, rfl, rfl⟩ .createConnection
        (fun _ _ => congrArg Learned.tested ((tested "key").trans (tested "other").symm)),
      @AlikeArrivals.api Sample.service _ (Sample.asked 21) _ _ (Sample.asked 21).env
        ⟨rfl, rfl, rfl, rfl, rfl, rfl⟩ (.same _)
        (fun _ _ => (blind _ _ _ _ _).trans (blind _ _ _ _ _).symm),
      .same (fun _ _ same => by cases same),
      .same (fun _ _ same endpoint => by
        cases same
        cases endpoint),
      trivial⟩).2

end Turbocat.Orchestrator
