import Turbocat.Library.Unwinding
import Turbocat.Orchestrator.Secrets
import Turbocat.Python.JsonText

/-! The secret store as the texts it holds. Credentials are written as JSON text and read
back from it, so to every caller it is the store of the values they were written from.
-/

namespace Turbocat.Orchestrator

open Turbocat.Library Turbocat.Python Turbocat.Python.JsonText

/-- What the service holds under each reference: a secret, perhaps without a text. -/
abbrev SecretTexts := String → Option (Option String)

/-- A call of `put_secret` or of `get_secret`, with the service's error where it has one. -/
inductive SecretCall where
  | put (fault : Option String) (secretRef : String) (credentials : List (String × String))
  | get (fault : Option String) (secretRef : String)

inductive SecretReply where
  | saved (result : Except PyException Unit)
  | fetched (result : Except PyException Json)

section

-- The text of the exception `json.loads` raises for a text.
variable (message : String → String)

/-- What a secret holds. -/
def readSecretString (secretString : Option String) : SecretString :=
  match secretString with
  | none => .absent
  | some text =>
      if text = "" then .absent
      else
        match loads text with
        | none => .malformed (message text)
        | some value => .decoded value

/-- The store of the values that the texts stand for. -/
def SecretTexts.store (texts : SecretTexts) : SecretStore :=
  fun secretRef => (texts secretRef).map (readSecretString message)

/-- `put_secret`, over texts. -/
def putSecretText (texts : SecretTexts) (fault : Option String) (secretRef : String)
    (credentials : List (String × String))
    : Except PyException SecretTexts :=
  match fault with
  | some error =>
      .error ⟨.runtimeError, "Failed to save secret '" ++ secretRef ++ "': " ++ error⟩
  | none => .ok (Function.update texts secretRef (some (some (dumps credentials))))

/-- `get_secret`, over texts. -/
def getSecretText (texts : SecretTexts) (fault : Option String) (secretRef : String)
    : Except PyException Json :=
  match fault with
  | some error =>
      .error ⟨.runtimeError, "Failed to fetch secret '" ++ secretRef ++ "': " ++ error⟩
  | none =>
      match texts secretRef with
      | none =>
          .error ⟨.runtimeError,
            "Failed to fetch secret '" ++ secretRef ++ "': " ++ secretNotFound⟩
      | some secretString =>
          let text := secretString.getD ""
          if text = "" then
            .error ⟨.runtimeError, "Secret '" ++ secretRef ++ "' has no SecretString value"⟩
          else
            match loads text with
            | none => .error ⟨.valueError, message text⟩
            | some value => .ok value

/-- A call on the texts. -/
def textStep (texts : SecretTexts) : SecretCall → SecretTexts × SecretReply
  | .put fault secretRef credentials =>
      match putSecretText texts fault secretRef credentials with
      | .error exception => (texts, .saved (.error exception))
      | .ok texts => (texts, .saved (.ok ()))
  | .get fault secretRef => (texts, .fetched (getSecretText message texts fault secretRef))

/-- A call on the values. -/
def storeStep (store : SecretStore) : SecretCall → SecretStore × SecretReply
  | .put fault secretRef credentials =>
      match putSecret store fault secretRef (credentialsJson credentials) with
      | .error exception => (store, .saved (.error exception))
      | .ok store => (store, .saved (.ok ()))
  | .get fault secretRef => (store, .fetched (getSecret store fault secretRef))

end

/-- The credentials a call saves under a reference. -/
def SecretCall.saves (secretRef : String) : SecretCall → Option (List (String × String))
  | .put none other credentials => if other = secretRef then some credentials else none
  | _ => none

/-- The credentials that calls saved last under a reference. -/
def lastSaved (secretRef : String) : List SecretCall → Option (List (String × String))
  | [] => none
  | call :: calls => (lastSaved secretRef calls).or (call.saves secretRef)

/-- The credentials of a call are a dict: no key is there twice. -/
def SecretCall.IsDict : SecretCall → Prop
  | .put _ _ credentials => (credentials.map Prod.fst).Nodup
  | .get _ _ => True

section

variable {message : String → String} {texts : SecretTexts}

/-- Written credentials are read as the values of the dict. -/
theorem readSecretString_dumps {credentials : List (String × String)}
    (distinct : (credentials.map Prod.fst).Nodup)
    : readSecretString message (some (dumps credentials))
      = .decoded (credentialsJson credentials) := by
  have nonempty : dumps credentials ≠ "" := by
    intro same
    have characters := congrArg String.toList same
    simp [dumps] at characters
  simp only [readSecretString, if_neg nonempty, loads_dumps distinct]
  rfl

/-- Reading texts gives what reading their values gives. -/
theorem getSecretText_store (fault : Option String) (secretRef : String)
    : getSecretText message texts fault secretRef
      = getSecret (texts.store message) fault secretRef := by
  unfold getSecretText getSecret SecretTexts.store
  cases fault with
  | some error => rfl
  | none =>
      cases texts secretRef with
      | none => rfl
      | some secretString =>
          cases secretString with
          | none => rfl
          | some text =>
              simp only [Option.getD_some, Option.map_some, readSecretString]
              by_cases empty : text = ""
              · simp only [if_pos empty]
              · simp only [if_neg empty]
                cases loads text <;> rfl

/-- A call on the texts is a call on their values. -/
theorem textStep_store {call : SecretCall} (isDict : call.IsDict)
    : storeStep (texts.store message) call
      = (((textStep message texts call).1).store message, (textStep message texts call).2) := by
  cases call with
  | get fault secretRef =>
      simp only [storeStep, textStep, getSecretText_store]
  | put fault secretRef credentials =>
      cases fault with
      | some error => rfl
      | none =>
          have stored
              : Function.update (texts.store message) secretRef
                  (some (.decoded (credentialsJson credentials)))
                = SecretTexts.store message
                    (Function.update texts secretRef (some (some (dumps credentials)))) := by
            funext other
            unfold SecretTexts.store
            by_cases same : other = secretRef
            · subst same
              simp only [Function.update_self, Option.map_some, readSecretString_dumps isDict]
            · simp only [Function.update_of_ne same]
          simp only [storeStep, textStep, putSecret, putSecretText, stored]

/-- A call leaves the text of what it saves, and every other text as it was. -/
theorem textStep_text (call : SecretCall) (secretRef : String)
    : (textStep message texts call).1 secretRef
      = match call.saves secretRef with
        | none => texts secretRef
        | some credentials => some (some (dumps credentials)) := by
  cases call with
  | get fault other => rfl
  | put fault other credentials =>
      cases fault with
      | some error => rfl
      | none =>
          by_cases same : other = secretRef
          · subst same
            simp [textStep, putSecretText, SecretCall.saves]
          · simp [textStep, putSecretText, SecretCall.saves, same,
              Function.update_of_ne (Ne.symm same)]

/-- The text under a reference is that of the credentials saved last, by induction over the
calls.
-/
theorem finalText (calls : List SecretCall) (secretRef : String)
    : finalState (textStep message) texts calls secretRef
      = match lastSaved secretRef calls with
        | none => texts secretRef
        | some credentials => some (some (dumps credentials)) := by
  induction calls generalizing texts with
  | nil => rfl
  | cons call rest ih =>
      simp only [finalState, lastSaved, ih]
      cases lastSaved secretRef rest with
      | some credentials => rfl
      | none => exact textStep_text call secretRef

/-- What was saved last came with one of the calls. -/
theorem lastSaved_mem {calls : List SecretCall} {secretRef : String}
    {credentials : List (String × String)}
    (saved : lastSaved secretRef calls = some credentials)
    : .put none secretRef credentials ∈ calls := by
  induction calls with
  | nil => cases saved
  | cons call rest ih =>
      rcases Option.or_eq_some_iff.mp saved with later | ⟨_, now⟩
      · exact List.mem_cons_of_mem _ (ih later)
      · refine List.mem_cons.mpr (.inl ?_)
        cases call with
        | get fault other => cases now
        | put fault other written =>
            cases fault with
            | some error => cases now
            | none =>
                simp only [SecretCall.saves, Option.ite_none_right_eq_some,
                  Option.some.injEq] at now
                obtain ⟨rfl, rfl⟩ := now
                rfl

/-- The service holds texts, and its callers deal with values: over any calls they are
answered as by a store of the values, which is in the end the one its texts stand for.
What was saved last under a reference is there as printable ASCII that reads as the same
credentials, and a reference nothing was saved under keeps its text.
-/
theorem secret_texts_mirror (message : String → String) (texts : SecretTexts)
    {calls : List SecretCall} (dicts : ∀ call ∈ calls, call.IsDict)
    : (finalState storeStep (texts.store message) calls
          = (finalState (textStep message) texts calls).store message
        ∧ observations storeStep (fun _ => true) id (texts.store message) calls
          = observations (textStep message) (fun _ => true) id texts calls)
      ∧ ∀ secretRef,
          (∀ credentials,
            lastSaved secretRef calls = some credentials
            → ∃ text,
                finalState (textStep message) texts calls secretRef = some (some text)
                ∧ (∀ character ∈ text.toList,
                  0x20 ≤ character.toNat ∧ character.toNat ≤ 0x7e)
                ∧ loads text = some (credentialsJson credentials))
          ∧ (lastSaved secretRef calls = none
            → finalState (textStep message) texts calls secretRef = texts secretRef) := by
  refine ⟨mirrored_run textStep_store dicts, fun secretRef => ⟨?_, ?_⟩⟩
  · intro credentials saved
    have distinct : (credentials.map Prod.fst).Nodup := dicts _ (lastSaved_mem saved)
    refine ⟨dumps credentials, ?_, dumps_ascii credentials, loads_dumps distinct⟩
    rw [finalText, saved]
  · intro untouched
    rw [finalText, untouched]

/-- A key of the source, then the same reference saved again with a text that needs escapes. -/
theorem secret_texts_mirror_escapes
    : ∃ text,
        finalState (textStep id) (fun _ => none)
          [.put none "turbocat/a" [("api_key", "k1")],
            .put none "turbocat/a" [("api_key", "clé \"2\"")],
            .get none "turbocat/a"]
          "turbocat/a"
        = some (some text)
        ∧ (∀ character ∈ text.toList, 0x20 ≤ character.toNat ∧ character.toNat ≤ 0x7e)
        ∧ loads text = some (credentialsJson [("api_key", "clé \"2\"")]) :=
  ((secret_texts_mirror id (fun _ => none) (by simp [SecretCall.IsDict])).2 "turbocat/a").1 _
    rfl

end

end Turbocat.Orchestrator
