import Turbocat.Orchestrator.ApiEffects

/-! The creation of a connection when reading the new row may fail too: what a request that
ends in an error leaves in the two stores.
-/

namespace Turbocat.Orchestrator.ConnectionCreation

open Turbocat.Library Turbocat.Python Turbocat.Connectors

section

variable (platform : Platform) (env : RequestEnv) (refreshFault : Option PyException)
  (backend : Backend) (accountId : UUID) (name source : String)
  (credentials : List (String × String))

/-- The row of a request after a test. -/
def requestedConnection (status : ConnectionStatus) : Connection :=
  {
    connectionId := env.uuid 0
    accountId
    name
    source
    secretRef := secretRefOf accountId source
    status
    lastTestedAt := some env.now
    createdAt := env.createdAt
  }

/-- `create_connection`. `refreshFault` is what `db.refresh` raises after the commit. -/
def createConnection : Backend × Response :=
  let secretRef := secretRefOf accountId source
  match putSecret backend.secrets env.putFault secretRef (credentialsJson credentials) with
  | .error exception => (backend, .serverError exception)
  | .ok secrets =>
      let backend := { backend with secrets }
      match runTest platform env source (credentialsJson credentials) with
      | .error response => (backend, response)
      | .ok (status, _) =>
          let connection := requestedConnection env accountId name source status
          match insertConnection env backend.db connection with
          | .error exception => (backend, .serverError exception)
          | .ok db =>
              match refreshFault with
              | some exception => ({ backend with db }, .serverError exception)
              | none => ({ backend with db }, .ok (.connection connection.response))

end

section

variable {platform : Platform} {env : RequestEnv} {refreshFault : Option PyException}
  {backend : Backend} {accountId : UUID} {name source : String}
  {credentials : List (String × String)}

/-- Where the row can be read, the endpoint is the one of the API. -/
theorem createConnection_without_fault
    : createConnection platform env none backend accountId name source credentials
      = Orchestrator.createConnection platform env backend accountId name source
          credentials :=
  rfl

/-- A request that no step rejects: its source is known and no `KeyError` comes out of the test,
the name fits its column, the id of the row is new, and the database commits it.
-/
structure Accepted (env : RequestEnv) (db : Db) (name source : String) (credentials : Json)
    : Prop where
  testable
    : ∃ cls, sourceRegistry.lookup source = some cls
      ∧ ∀ exception,
          (do env.configure cls credentials; env.testConnection cls credentials)
              = .error exception
          → exception.type ≠ .keyError
  name : name.length ≤ 255
  fresh : db.connections.get? (env.uuid 0) = none
  commits : env.commitFault = none

/-- A test gives a status exactly when the source is known and no `KeyError` comes out. -/
theorem runTest_ok_iff {credentials : Json}
    : (∃ outcome, runTest platform env source credentials = .ok outcome)
      ↔ ∃ cls, sourceRegistry.lookup source = some cls
        ∧ ∀ exception,
            (do env.configure cls credentials; env.testConnection cls credentials)
                = .error exception
            → exception.type ≠ .keyError := by
  unfold runTest buildFromCredentials
  cases known : sourceRegistry.lookup source with
  | none => simp [unknownName, bind, Except.bind]
  | some cls =>
      have tested
          : (do let cls ← (do env.configure cls credentials; return cls)
                env.testConnection cls credentials)
            = (do env.configure cls credentials; env.testConnection cls credentials) := by
        cases env.configure cls credentials <;> rfl
      simp only [tested, Option.some.injEq, exists_eq_left']
      cases ended : (do env.configure cls credentials; env.testConnection cls credentials) with
      | ok value => simp
      | error exception =>
          by_cases key : exception.type = .keyError
          · simp [key]
          · simp [key]

/-- The source of a tested connection fits its columns. -/
theorem known_source_length {cls : ConnectorClass}
    (known : sourceRegistry.lookup source = some cls)
    : source.length ≤ 100 := by
  have all : ∀ entry ∈ sourceRegistry, entry.1.length ≤ 100 := by decide
  obtain ⟨before, after, split, _⟩ := List.lookup_eq_some_iff.mp known
  apply all (source, cls)
  rw [split]
  exact List.mem_append_right _ List.mem_cons_self

/-- A reference is 50 characters longer than its source. -/
theorem secretRefOf_length (accountId : UUID) (source : String)
    : (secretRefOf accountId source).length = 50 + source.length := by
  have prefix_ : "orchestrator/".length = 13 := rfl
  have slash : "/".length = 1 := rfl
  have id : accountId.str.length = 36 := by
    rw [UUID.str, String.length_ofList, UUID.chars_length]
  unfold secretRefOf
  rw [String.length_append, String.length_append, String.length_append, prefix_, slash, id]

/-- Texts are taken exactly when each fits its column. -/
theorem checkLengths_ok_iff {texts : List (String × Nat)}
    : checkLengths texts = .ok () ↔ ∀ entry ∈ texts, entry.1.length ≤ entry.2 := by
  induction texts with
  | nil => simp [checkLengths]
  | cons entry rest ih =>
      obtain ⟨text, limit⟩ := entry
      rw [List.forall_mem_cons, ← ih, checkLengths]
      split
      · next long => simp [Nat.not_le.mpr long]
      · next fits => simp [Nat.not_lt.mp fits]

/-- A row for a source that fits is committed exactly when its name fits, its id is new and the
database agrees.
-/
theorem insertConnection_ok_iff {db : Db} {status : ConnectionStatus}
    (fits : source.length ≤ 100)
    : (∃ next,
        insertConnection env db (requestedConnection env accountId name source status)
          = .ok next)
      ↔ name.length ≤ 255
        ∧ db.connections.get? (env.uuid 0) = none
        ∧ env.commitFault = none := by
  have reference := secretRefOf_length accountId source
  constructor
  · intro ⟨next, done⟩
    obtain ⟨_, lengths, committed⟩ := bind_eq_ok_iff.mp done
    have name_ := checkLengths_ok_iff.mp lengths (name, 255) List.mem_cons_self
    cases inserted : db.connections.insert
        (requestedConnection env accountId name source status) with
    | none => simp [inserted] at committed
    | some connections =>
        refine ⟨name_, (Table.insert_eq_some_iff.mp inserted).1, ?_⟩
        simp only [inserted, RequestEnv.commit] at committed
        cases fault : env.commitFault with
        | none => rfl
        | some exception => simp [fault] at committed
  · intro ⟨name_, fresh, commits⟩
    obtain ⟨connections, inserted⟩ := @Table.insert_isSome _ _ _ _ db.connections
      (requestedConnection env accountId name source status) fresh
    have lengths : checkLengths [(name, 255), (source, 100),
        (secretRefOf accountId source, 255)] = .ok () := by
      rw [checkLengths_ok_iff]
      simp only [List.forall_mem_cons, List.not_mem_nil, false_implies, implies_true, and_true]
      omega
    refine ⟨{ db with connections }, ?_⟩
    unfold insertConnection
    simp only [requestedConnection] at inserted ⊢
    rw [lengths]
    simp only [bind, Except.bind, inserted, RequestEnv.commit, commits]

/-- The secrets once the credentials of a request are stored. -/
def saved (secrets : SecretStore) (accountId : UUID) (source : String)
    (credentials : List (String × String))
    : SecretStore :=
  Function.update secrets (secretRefOf accountId source)
    (some (.decoded (credentialsJson credentials)))

/-- A test that ends the request ends it in an error. -/
theorem runTest_error {credentials : Json} {response : Response}
    (ended : runTest platform env source credentials = .error response) (body : ResponseBody)
    : response ≠ .ok body := by
  simp only [runTest] at ended
  split at ended
  · cases ended
  · split at ended
    · cases ended
      simp
    · cases ended

/-- A request whose secret cannot be written ends in an error and changes nothing. -/
theorem createConnection_unsaved {text : String} (fault : env.putFault = some text)
    : ∃ exception,
        createConnection platform env refreshFault backend accountId name source credentials
          = (backend, .serverError exception) := by
  unfold createConnection putSecret
  rw [fault]
  exact ⟨_, rfl⟩

/-- A request that a later step rejects ends in an error once its credentials are stored. -/
theorem createConnection_rejected (saves : env.putFault = none)
    (rejected : ¬ Accepted env backend.db name source (credentialsJson credentials))
    : ∃ response,
        createConnection platform env refreshFault backend accountId name source credentials
          = ({ backend with secrets := saved backend.secrets accountId source credentials },
            response)
        ∧ ∀ body, response ≠ .ok body := by
  unfold createConnection putSecret
  rw [saves]
  dsimp only
  cases tested : runTest platform env source (credentialsJson credentials) with
  | error response => exact ⟨response, rfl, runTest_error tested⟩
  | ok outcome =>
      obtain ⟨status, error⟩ := outcome
      dsimp only
      obtain ⟨cls, known, other⟩ := runTest_ok_iff.mp ⟨_, tested⟩
      cases done : insertConnection env backend.db
          (requestedConnection env accountId name source status) with
      | error exception => exact ⟨.serverError exception, rfl, by simp⟩
      | ok db =>
          obtain ⟨name_, fresh, commits⟩ :=
            (insertConnection_ok_iff (known_source_length known)).mp ⟨db, done⟩
          exact absurd ⟨⟨cls, known, other⟩, name_, fresh, commits⟩ rejected

/-- A request that no step rejects leaves its row beside its credentials, whether or not the row
can be read again.
-/
theorem createConnection_accepted (saves : env.putFault = none)
    (accepted : Accepted env backend.db name source (credentialsJson credentials))
    : ∃ db status response,
        createConnection platform env refreshFault backend accountId name source credentials
          = (⟨db, saved backend.secrets accountId source credentials, backend.scheduler⟩,
            response)
        ∧ db.connections.rows
          = backend.db.connections.rows
            ++ [requestedConnection env accountId name source status]
        ∧ ((∃ body, response = .ok body) ↔ refreshFault = none) := by
  obtain ⟨⟨status, error⟩, tested⟩ := runTest_ok_iff.mpr accepted.testable
  obtain ⟨cls, known, _⟩ := accepted.testable
  have committed
      : ∃ next,
          insertConnection env backend.db
              (requestedConnection env accountId name source status)
            = .ok next :=
    (insertConnection_ok_iff (known_source_length known)).mpr
      ⟨accepted.name, accepted.fresh, accepted.commits⟩
  obtain ⟨db, done⟩ := committed
  obtain ⟨connections, inserted, rfl⟩ := insertConnection_ok done
  have rows := (Table.insert_eq_some_iff.mp inserted).2
  unfold createConnection putSecret
  rw [saves]
  dsimp only
  rw [tested]
  dsimp only
  rw [done]
  rcases refreshFault with _ | exception
  · exact ⟨_, status, _, rfl, rows, by simp⟩
  · exact ⟨_, status, _, rfl, rows, by simp⟩

/-- A request that ends in an error changes neither the connections nor a secret. -/
def RejectedUnchanged (before : Backend) (result : Backend × Response) : Prop :=
  (∀ body, result.2 ≠ .ok body)
    → result.1.db.connections = before.db.connections ∧ result.1.secrets = before.secrets

/-- Storing credentials changes nothing exactly when they are stored already. -/
theorem saved_eq_iff {secrets : SecretStore}
    : saved secrets accountId source credentials = secrets
      ↔ secrets (secretRefOf accountId source)
        = some (.decoded (credentialsJson credentials)) := by
  unfold saved
  rw [Function.update_eq_self_iff, eq_comm]

/-- A request that ends in an error changes nothing exactly when its secret is not written, or
no step after that fails, or only steps before the commit do and the reference held the
submitted credentials already.
-/
theorem createConnection_rejected_unchanged_iff
    : RejectedUnchanged backend
        (createConnection platform env refreshFault backend accountId name source credentials)
      ↔ (env.putFault = none
        → (Accepted env backend.db name source (credentialsJson credentials)
            → refreshFault = none)
          ∧ (¬ Accepted env backend.db name source (credentialsJson credentials)
            → backend.secrets (secretRefOf accountId source)
              = some (.decoded (credentialsJson credentials)))) := by
  cases saves : env.putFault with
  | some text =>
      obtain ⟨exception, result⟩ := @createConnection_unsaved platform env refreshFault backend
        accountId name source credentials text saves
      rw [result]
      exact iff_of_true (fun _ => ⟨rfl, rfl⟩) (fun stored => nomatch stored)
  | none =>
      by_cases accepted : Accepted env backend.db name source (credentialsJson credentials)
      · obtain ⟨db, status, response, result, rows, succeeds⟩ :=
          @createConnection_accepted platform env refreshFault backend accountId name source
            credentials saves accepted
        rw [result]
        constructor
        · intro unchanged _
          refine ⟨fun _ => ?_, fun rejected => absurd accepted rejected⟩
          rw [← succeeds]
          by_contra failed
          have same := (unchanged (fun body ok => failed ⟨body, ok⟩)).1
          have grown := congrArg (fun table => table.rows.length) same
          simp [rows] at grown
        · intro condition rejected
          obtain ⟨body, ok⟩ := succeeds.mpr ((condition rfl).1 accepted)
          exact absurd ok (rejected body)
      · obtain ⟨response, result, rejected⟩ :=
          @createConnection_rejected platform env refreshFault backend accountId name source
            credentials saves accepted
        rw [result]
        constructor
        · intro unchanged _
          refine ⟨fun accepts => absurd accepts accepted, fun _ => ?_⟩
          exact saved_eq_iff.mp (unchanged rejected).2
        · intro condition _
          exact ⟨rfl, saved_eq_iff.mpr ((condition rfl).2 accepted)⟩

end

namespace Sample

/-- A request whose test passes, before a database that answers in a certain way. -/
def env (commitFault : Option PyException) : RequestEnv :=
  {
    uuid := fun number => ⟨31 + Fin.ofNat _ number⟩
    now := default
    createdAt := default
    commitFault
    configure := fun _ _ => .ok ()
    testConnection := fun _ _ => .ok ()
  }

/-- A connection of account 2. -/
def connection : Connection :=
  {
    connectionId := ⟨12⟩
    accountId := ⟨2⟩
    name := "shop"
    source := "razorpay"
    secretRef := secretRefOf ⟨2⟩ "razorpay"
    status := .active
    createdAt := default
  }

/-- Account 2 with its connection and the credentials of that. -/
def backend : Backend :=
  ⟨⟨.empty, ⟨[connection], List.nodup_singleton _⟩, .empty, .empty⟩,
    saved (fun _ => none) ⟨2⟩ "razorpay" [("api_key", "old")], .empty⟩

/-- What a request for a source leaves, with its response. -/
def result (commitFault : Option PyException) (source : String) : Backend × Response :=
  createConnection Platform.written (env commitFault) none backend ⟨2⟩ "shop" source
    [("api_key", "new")]

/-- A database that does not commit. -/
def refusal : PyException := ⟨.other "OperationalError", "connection refused"⟩

end Sample

/-- A request for an unknown source is answered with a 400 and leaves its credentials in the
store; one that the database refuses replaces those of the existing connection.
-/
theorem rejected_requests_leave_secrets
    : (Sample.result none "stripe").2
        = .httpError 400
          "'Unknown source 'stripe'. Available: ['razorpay', 'kapture']'"
      ∧ (Sample.result none "stripe").1.secrets (secretRefOf ⟨2⟩ "stripe")
        = some (.decoded (credentialsJson [("api_key", "new")]))
      ∧ ¬ RejectedUnchanged Sample.backend (Sample.result none "stripe")
      ∧ (Sample.result (some Sample.refusal) "razorpay").2 = .serverError Sample.refusal
      ∧ (Sample.result (some Sample.refusal) "razorpay").1.secrets Sample.connection.secretRef
        = some (.decoded (credentialsJson [("api_key", "new")]))
      ∧ ¬ RejectedUnchanged Sample.backend (Sample.result (some Sample.refusal) "razorpay") := by
  have answered
      : (Sample.result none "stripe").2
        = .httpError 400 "'Unknown source 'stripe'. Available: ['razorpay', 'kapture']'" :=
    rfl
  have stored
      : (Sample.result none "stripe").1.secrets
        = saved Sample.backend.secrets ⟨2⟩ "stripe" [("api_key", "new")] :=
    rfl
  have failed : (Sample.result (some Sample.refusal) "razorpay").2
      = .serverError Sample.refusal :=
    rfl
  have before
      : Sample.backend.secrets
        = saved (fun _ => none) ⟨2⟩ "razorpay" [("api_key", "old")] :=
    rfl
  have replaced
      : (Sample.result (some Sample.refusal) "razorpay").1.secrets
        = saved Sample.backend.secrets ⟨2⟩ "razorpay" [("api_key", "new")] :=
    rfl
  refine ⟨answered, stored ▸ Function.update_self .., fun unchanged => ?_, failed,
    replaced ▸ Function.update_self .., fun unchanged => ?_⟩
  · have same := (unchanged (fun body ok => nomatch answered.symm.trans ok)).2
    rw [stored, saved_eq_iff] at same
    have other : secretRefOf ⟨2⟩ "stripe" ≠ secretRefOf ⟨2⟩ "razorpay" := by
      intro shared
      exact absurd (secretRefOf_inj shared).2 (by decide)
    rw [before, saved, Function.update_of_ne other] at same
    cases same
  · have same := (unchanged (fun body ok => nomatch failed.symm.trans ok)).2
    rw [replaced, saved_eq_iff] at same
    rw [before, saved, Function.update_self] at same
    simp [credentialsJson] at same

end Turbocat.Orchestrator.ConnectionCreation
