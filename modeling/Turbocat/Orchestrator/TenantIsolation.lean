import Turbocat.Library.Unwinding
import Turbocat.Orchestrator.ApiEffects

/-! What one account's requests return does not depend on the requests of others. Two
backends look the same to an account when they hold the same rows and secrets of its own.
-/

namespace Turbocat.Orchestrator

open Turbocat.Library Turbocat.Python Turbocat.Connectors

/-- The rows of one account in a table. -/
def rowsOf {ρ : Type} {key : ρ → UUID} (table : Table key) (accountOf : ρ → UUID)
    (accountId : UUID)
    : List ρ :=
  table.rows.filter (fun row => decide (accountOf row = accountId))

/-- The connections of an account. -/
def Backend.connectionsOf (backend : Backend) (accountId : UUID) : List Connection :=
  rowsOf backend.db.connections Connection.accountId accountId

/-- The pipelines of an account. -/
def Backend.pipelinesOf (backend : Backend) (accountId : UUID) : List Pipeline :=
  rowsOf backend.db.pipelines Pipeline.accountId accountId

/-- A response as its caller reads it: 403 and 404 are one refusal. -/
inductive View where
  | refused
  | answered (response : Response)

def Response.view (response : Response) : View :=
  match response with
  | .httpError statusCode detail =>
      if statusCode = 403 ∨ statusCode = 404 then .refused
      else .answered (.httpError statusCode detail)
  | response => .answered response

/-- Two backends that an account cannot tell apart. Of other accounts' rows only their ids
are compared, and only so that an id unused in the first is unused in the second.
-/
structure SameFor (accountId : UUID) (left right : Backend) : Prop where
  agents : left.db.agents = right.db.agents
  connections : left.connectionsOf accountId = right.connectionsOf accountId
  pipelines : left.pipelinesOf accountId = right.pipelinesOf accountId
  secrets
    : ∀ source,
        left.secrets (secretRefOf accountId source) = right.secrets (secretRefOf accountId source)
  secretRefs
    : ∀ connection ∈ left.connectionsOf accountId,
        connection.secretRef = secretRefOf accountId connection.source
  connectionIds
    : ∀ id, left.db.connections.get? id = none → right.db.connections.get? id = none
  pipelineIds : ∀ id, left.db.pipelines.get? id = none → right.db.pipelines.get? id = none

/-- A backend whose connections refer to the secrets of their own account looks the same to
an account as itself.
-/
theorem SameFor.refl {accountId : UUID} {backend : Backend}
    (secretRefs
      : ∀ connection ∈ backend.connectionsOf accountId,
          connection.secretRef = secretRefOf accountId connection.source)
    : SameFor accountId backend backend :=
  ⟨rfl, rfl, rfl, fun _ => rfl, secretRefs, fun _ => id, fun _ => id⟩

/-- The ids a request generates are not in use and differ from each other. -/
def FreshIds (backend : Backend) (call : Call) : Prop :=
  match call.request with
  | .createConnection _ _ _ => backend.db.connections.get? (call.env.uuid 0) = none
  | .bulkCreatePipelines _ _ tables =>
      ((List.range tables.length).map call.env.uuid).Nodup
      ∧ ∀ number < tables.length, backend.db.pipelines.get? (call.env.uuid number) = none
  | _ => True

section

variable {ρ : Type} {key accountOf : ρ → UUID} {left right : Table key} {accountId : UUID}

/-- Tables with the same rows of an account find the same row of it under each key. -/
theorem get?_own_iff (same : rowsOf left accountOf accountId = rowsOf right accountOf accountId)
    {k : UUID} {row : ρ}
    : left.get? k = some row ∧ accountOf row = accountId
      ↔ right.get? k = some row ∧ accountOf row = accountId := by
  have members : row ∈ rowsOf left accountOf accountId ↔ row ∈ rowsOf right accountOf accountId := by
    rw [same]
  simp only [rowsOf, List.mem_filter, decide_eq_true_eq] at members
  simp only [Table.get?_eq_some_iff]
  constructor
  · intro found
    obtain ⟨⟨member, rfl⟩, own⟩ := found
    exact ⟨⟨(members.mp ⟨member, own⟩).1, rfl⟩, own⟩
  · intro found
    obtain ⟨⟨member, rfl⟩, own⟩ := found
    exact ⟨⟨(members.mpr ⟨member, own⟩).1, rfl⟩, own⟩

/-- A path is answered with the same row of the caller, or refused in both tables. -/
theorem ownRow_same (same : rowsOf left accountOf accountId = rowsOf right accountOf accountId)
    (missing : String) (k : UUID)
    : (∃ row,
        ownRow accountOf missing accountId (left.get? k) = .ok row
        ∧ ownRow accountOf missing accountId (right.get? k) = .ok row)
      ∨ ∃ first second,
          ownRow accountOf missing accountId (left.get? k) = .error first
          ∧ ownRow accountOf missing accountId (right.get? k) = .error second
          ∧ first.view = second.view := by
  have refused {table : Table key} {response : Response}
      (failed : ownRow accountOf missing accountId (table.get? k) = .error response)
      : response.view = .refused := by
    unfold ownRow at failed
    split at failed
    · cases failed
      rfl
    · split at failed
      · cases failed
        rfl
      · cases failed
  cases first : ownRow accountOf missing accountId (left.get? k) with
  | ok row =>
      have other : ownRow accountOf missing accountId (right.get? k) = .ok row :=
        ownRow_ok_iff.mpr ((get?_own_iff same).mp (ownRow_ok_iff.mp first))
      exact Or.inl ⟨row, rfl, other⟩
  | error response =>
      cases second : ownRow accountOf missing accountId (right.get? k) with
      | ok row =>
          have other : ownRow accountOf missing accountId (left.get? k) = .ok row :=
            ownRow_ok_iff.mpr ((get?_own_iff same).mpr (ownRow_ok_iff.mp second))
          rw [other] at first
          cases first
      | error otherResponse =>
          exact Or.inr ⟨response, otherResponse, rfl, rfl,
            (refused first).trans (refused second).symm⟩

/-- Rewriting rows in place, each within its account, rewrites the rows of an account. -/
theorem rowsOf_modify (table : Table key) (k : UUID) (f : ρ → ρ)
    (keeps : ∀ row, key (f row) = key row) (keepsAccount : ∀ row, accountOf (f row) = accountOf row)
    : rowsOf (table.modify k f keeps) accountOf accountId
      = (rowsOf table accountOf accountId).map (fun row => if key row = k then f row else row) := by
  simp only [rowsOf, Table.modify, Table.update_rows, List.filter_map]
  refine congrArg _ (List.filter_congr fun row _ => ?_)
  by_cases same : key row = k <;> simp [same, keepsAccount]

/-- A row of another account, rewritten in place, leaves the rows of an account alone. -/
theorem rowsOf_modify_foreign (table : Table key) (k : UUID) (f : ρ → ρ)
    (keeps : ∀ row, key (f row) = key row) (keepsAccount : ∀ row, accountOf (f row) = accountOf row)
    {stored : ρ} (found : table.get? k = some stored) (foreign : accountOf stored ≠ accountId)
    : rowsOf (table.modify k f keeps) accountOf accountId = rowsOf table accountOf accountId := by
  rw [rowsOf_modify table k f keeps keepsAccount]
  refine (List.map_congr_left fun row member => ?_).trans (List.map_id _)
  obtain ⟨rowMember, own⟩ := List.mem_filter.mp member
  rw [if_neg]
  · rfl
  · intro same
    have stored_ := Table.eq_of_key rowMember (Table.mem_of_get? found)
      (same.trans (Table.key_of_get? found).symm)
    exact foreign (stored_ ▸ of_decide_eq_true own)

/-- An inserted row joins the rows of its account. -/
theorem rowsOf_insert {table next : Table key} {row : ρ} (inserted : table.insert row = some next)
    : rowsOf next accountOf accountId
      = rowsOf table accountOf accountId ++ [row].filter (fun row => decide (accountOf row = accountId)) := by
  rw [rowsOf, (Table.insert_eq_some_iff.mp inserted).2, List.filter_append]
  rfl

end

/-- A secret written by another account is none of an account's own. -/
theorem update_foreign_secret {store : SecretStore} {writer accountId : UUID}
    (foreign : writer ≠ accountId) (written source : String) (value : Option SecretString)
    : Function.update store (secretRefOf writer written) value (secretRefOf accountId source)
      = store (secretRefOf accountId source) :=
  Function.update_of_ne (fun same => foreign (secretRefOf_inj same).1.symm) _ _

/-- Rewriting a row in place frees no id. -/
theorem get?_modify_eq_none_iff {ρ : Type} {key : ρ → UUID} (table : Table key) (k : UUID)
    (f : ρ → ρ) (keeps : ∀ row, key (f row) = key row) (id : UUID)
    : (table.modify k f keeps).get? id = none ↔ table.get? id = none := by
  rw [Table.get?_modify]
  split
  · next same => simp [same]
  · rfl

/-- The ids in use after rows were appended. -/
theorem get?_append_eq_none_iff {ρ : Type} {key : ρ → UUID} {table next : Table key}
    {rows : List ρ} (appended : next.rows = table.rows ++ rows) (id : UUID)
    : next.get? id = none ↔ table.get? id = none ∧ id ∉ rows.map key := by
  simp only [Table.get?_eq_none_iff, appended, List.map_append, List.mem_append, not_or]

/-- A request of another account changes nothing an account can tell, by cases of its
effect.
-/
theorem SameFor.foreign {platform : Platform} {accountId : UUID} {left right : Backend}
    {call : Call} (same : SameFor accountId left right) (foreign : call.accountId ≠ accountId)
    : SameFor accountId (serve platform left call).1 right := by
  have effect := handle_effect platform call.env left call.accountId call.request
  unfold serve
  generalize (handle platform call.env left call.accountId call.request).1 = next
    at effect ⊢
  generalize call.request = request at effect
  cases effect with
  | unchanged => exact same
  | @stored name source credentials accepted =>
      refine { same with secrets := fun own => ?_ }
      dsimp only
      rw [update_foreign_secret foreign]
      exact same.secrets own
  | @created name source credentials connection connections accepted inserted own _ _ =>
      have rows : rowsOf connections Connection.accountId accountId = left.connectionsOf accountId := by
        rw [rowsOf_insert inserted, List.filter_cons_of_neg (by simp [own, foreign]),
          List.filter_nil, List.append_nil]
        rfl
      exact {
        agents := same.agents
        connections := rows.trans same.connections
        pipelines := same.pipelines
        secrets := fun ownSource => by
          dsimp only
          rw [update_foreign_secret foreign]
          exact same.secrets ownSource
        secretRefs := fun stored member => same.secretRefs stored (rows ▸ member)
        connectionIds := fun id free =>
          same.connectionIds id ((get?_append_eq_none_iff
            (Table.insert_eq_some_iff.mp inserted).2 id).mp free).1
        pipelineIds := same.pipelineIds
      }
  | @tested connectionId connection status found own =>
      have rows := rowsOf_modify_foreign left.db.connections connectionId
        (fun row => row.retested status call.env.now) (fun _ => rfl) (fun _ => rfl) found
        (own ▸ foreign)
      exact { same with
        connections := rows.trans same.connections
        secretRefs := fun stored member => same.secretRefs stored
          (rows ▸ member : stored ∈ rowsOf left.db.connections Connection.accountId accountId)
        connectionIds := fun id free =>
          same.connectionIds id ((get?_modify_eq_none_iff left.db.connections connectionId
            (fun row => row.retested status call.env.now) (fun _ => rfl) id).mp free) }
  | @bulk agentId connectionId tables connection db found own inserted =>
      obtain ⟨agents, connections, _, rows, _⟩ := insertPipelines_ok inserted
      have mine : rowsOf db.pipelines Pipeline.accountId accountId = left.pipelinesOf accountId := by
        have none_ : (requestedPipelines call.env call.accountId agentId connectionId tables).filter
            (fun row => decide (row.accountId = accountId)) = [] :=
          List.filter_eq_nil_iff.mpr fun row member => by
            simp [(mem_requestedPipelines member).1, foreign]
        rw [rowsOf, rows, List.filter_append, none_, List.append_nil]
        rfl
      exact {
        agents := agents.trans same.agents
        connections := by
          rw [← same.connections, Backend.connectionsOf, Backend.connectionsOf, connections]
        pipelines := mine.trans same.pipelines
        secrets := same.secrets
        secretRefs := fun stored member => same.secretRefs stored (by
          rwa [Backend.connectionsOf, connections] at member)
        connectionIds := fun id free => same.connectionIds id (by
          rwa [connections] at free)
        pipelineIds := fun id free => same.pipelineIds id
          ((get?_append_eq_none_iff rows id).mp free).1
      }
  | @deactivated pipelineId pipeline found own =>
      have rows := rowsOf_modify_foreign left.db.pipelines pipelineId Pipeline.deactivated
        (fun _ => rfl) (fun _ => rfl) found (own ▸ foreign)
      exact { same with
        pipelines := rows.trans same.pipelines
        pipelineIds := fun id free =>
          same.pipelineIds id ((get?_modify_eq_none_iff left.db.pipelines pipelineId
            Pipeline.deactivated (fun _ => rfl) id).mp free) }

end Turbocat.Orchestrator
