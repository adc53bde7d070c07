import Turbocat.Python.Values

/-! The secret store behind `put_secret` and `get_secret`. -/

namespace Turbocat.Orchestrator

open Turbocat.Python

/-- What a stored secret holds. -/
inductive SecretString where
  -- No `SecretString`, or an empty one.
  | absent
  -- A text that `json.loads` rejects, with its message.
  | malformed (message : String)
  | decoded (value : Json)
  deriving Repr

/-- Secrets by reference. -/
abbrev SecretStore := String → Option SecretString

/-- The service's answer for a reference without a secret. -/
def secretNotFound : String :=
  "An error occurred (ResourceNotFoundException) when calling the GetSecretValue operation: "
  ++ "Secrets Manager can't find the specified secret."

/-- A `dict[str, str]` as JSON. -/
def credentialsJson (credentials : List (String × String)) : Json :=
  .dict (credentials.map (fun entry => (entry.1, .str entry.2)))

/-- `put_secret`: an update, or a creation where there is nothing to update. `fault` is the
text of the service's error, when it answers with one.
-/
def putSecret (store : SecretStore) (fault : Option String) (secretRef : String)
    (credentials : Json)
    : Except PyException SecretStore :=
  match fault with
  | some error =>
      .error ⟨.runtimeError, "Failed to save secret '" ++ secretRef ++ "': " ++ error⟩
  | none => .ok (Function.update store secretRef (some (.decoded credentials)))

/-- `get_secret`. -/
def getSecret (store : SecretStore) (fault : Option String) (secretRef : String)
    : Except PyException Json :=
  match fault with
  | some error =>
      .error ⟨.runtimeError, "Failed to fetch secret '" ++ secretRef ++ "': " ++ error⟩
  | none =>
      match store secretRef with
      | none =>
          .error ⟨.runtimeError,
            "Failed to fetch secret '" ++ secretRef ++ "': " ++ secretNotFound⟩
      | some .absent =>
          .error ⟨.runtimeError, "Secret '" ++ secretRef ++ "' has no SecretString value"⟩
      | some (.malformed message) => .error ⟨.valueError, message⟩
      | some (.decoded value) => .ok value

/-- A credential that was fetched is the one stored. -/
theorem getSecret_ok_iff {store : SecretStore} {fault : Option String} {secretRef : String}
    {value : Json}
    : getSecret store fault secretRef = .ok value
      ↔ fault = none ∧ store secretRef = some (.decoded value) := by
  unfold getSecret
  split
  · simp
  · split <;> simp_all

/-- A stored credential is the one submitted; other references keep theirs. -/
theorem putSecret_ok_iff {store next : SecretStore} {fault : Option String}
    {secretRef : String} {credentials : Json}
    : putSecret store fault secretRef credentials = .ok next
      ↔ fault = none
        ∧ next = Function.update store secretRef (some (.decoded credentials)) := by
  unfold putSecret
  split
  · simp
  · simp [eq_comm]

end Turbocat.Orchestrator
