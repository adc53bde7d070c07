import Turbocat.Orchestrator.Api

/-! Who a request comes from: an API client shows a token of its account, an agent shows the
key all agents share.
-/

namespace Turbocat.Orchestrator

open Turbocat.Python

/-- The settings that authentication reads. -/
structure Settings where
  jwtSecret : String
  jwtAlgorithm : String := "HS256"
  agentApiKey : String

/-- How `jwt.decode` fails: by an `InvalidTokenError`, or by any other exception. -/
inductive DecodeError where
  | invalidToken
  | other (exception : PyException)

/-- The libraries that read a token: `jwt.decode` at a clock reading, of a text with a key
and the accepted algorithms, and the reading of a UUID's text.
-/
structure TokenReader where
  decode : Datetime → String → String → List String → Except DecodeError Json
  uuid : String → Option UUID

structure TokenPayload where
  sub : String
  accountId : UUID

/-- `TokenPayload.model_validate(raw)`, or nothing for a `ValidationError`. Other claims of
the token are ignored.
-/
def TokenPayload.modelValidate (reader : TokenReader) (raw : Json) : Option TokenPayload :=
  match raw with
  | .dict entries =>
      match entries.lookup "sub", entries.lookup "account_id" with
      | some (.str sub), some (.str accountId) =>
          (reader.uuid accountId).map (fun id => ⟨sub, id⟩)
      | _, _ => none
  | _ => none

/-- `verify_token`, of the bearer credentials a request carries. -/
def verifyToken (reader : TokenReader) (settings : Settings) (now : Datetime)
    (credentials : Option String)
    : Except Response TokenPayload :=
  match credentials with
  | none => .error (.httpError 401 "Authorization header missing")
  | some token =>
      match reader.decode now token settings.jwtSecret [settings.jwtAlgorithm] with
      | .error .invalidToken => .error (.httpError 401 "Invalid or expired token")
      | .error (.other exception) => .error (.serverError exception)
      | .ok raw =>
          match TokenPayload.modelValidate reader raw with
          | none => .error (.httpError 401 "Invalid or expired token")
          | some payload => .ok payload

/-- `get_account_id`. -/
def getAccountId (token : TokenPayload) : UUID := token.accountId

/-- `verify_agent_key`, of the header `X-Agent-Key`. -/
def verifyAgentKey (settings : Settings) (key : Option String) : Except Response Unit :=
  if key = none ∨ key ≠ some settings.agentApiKey then
    .error (.httpError 401 "Invalid or missing agent key")
  else .ok ()

end Turbocat.Orchestrator
