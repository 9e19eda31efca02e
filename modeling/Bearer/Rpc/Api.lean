import Bearer.Net.Address
import Bearer.Rpc.Metadata
import Bearer.Rpc.Status
import Bearer.Service

/-!
# The service for remote calls

Login, validation and logout as remote calls. A token that is not accepted is an answer of the
validation, not a failure of the call.
-/

namespace Bearer.Rpc

/-- Who makes a call and what it carries. -/
structure Caller where
  /-- The metadata of the call. -/
  metadata : Metadata
  /-- The host that the call comes from, if it is known. -/
  peer? : Option Net.Address

/-- The first hop that a proxy has noted, if it can be read. -/
def Metadata.firstHop? (metadata : Metadata) : Option String := do
  let value ← metadata.text? forwardedFor
  let hop := Text.trimChars (Text.before ',' value.toList)
  guard (hop ≠ [])
  return String.ofList hop

/-- The origin by which the failures of a caller are counted. -/
def Caller.origin (caller : Caller) (trustForwarded : Bool) : String :=
  let forwarded := if trustForwarded then caller.metadata.firstHop? else none
  (forwarded.or (caller.peer?.map (·.text))).getD Lockout.unknownOrigin

/-- The answer to a login. -/
structure LoginReply where
  accessToken : String
  /-- How long the token is good, in seconds. -/
  expiresIn : Int
  userId : String
  role : String
  deriving DecidableEq, Repr

/-- What a successful login is answered with. -/
def LoginReply.ofGrant (grant : Grant) : LoginReply :=
  ⟨grant.issued.token, grant.issued.lifetime, grant.userId.text, grant.role.name⟩

/-- The answer to a validation. -/
structure Verdict where
  /-- Whether the token is valid. -/
  valid : Bool
  /-- The subject of a valid token, else nothing. -/
  userId : String
  /-- The role of a valid token, else nothing. -/
  role : String
  /-- The category of the refusal of any other token. -/
  error : String
  deriving DecidableEq, Repr

namespace Verdict

def accept (claims : Claims) : Verdict := ⟨true, claims.subject, claims.role.name, ""⟩

def reject (category : Category) : Verdict := ⟨false, "", "", category.word⟩

end Verdict

namespace Api

/-- Logs a user in. -/
def login (service : Service) (caller : Caller) (email password : String) (moment : Moment) :
    ExceptT Status Program Grant :=
  ExceptT.adapt Status.ofFailure
    (service.login email password (caller.origin service.trustForwarded) moment)

/-- What the outcome of a validation is answered with. -/
def verdict : Except Refusal Claims → Except Status Verdict
  | .ok claims => .ok (.accept claims)
  | .error refusal =>
    if refusal.isUnauthenticated then .ok (.reject refusal.category)
    else .error (Status.ofRefusal refusal)

/-- Says whether a token is valid; there is nothing to validate in a blank one. -/
def validate (service : Service) (token : String) (now : Time) :
    ExceptT Status Program Verdict :=
  let token := Text.trim token
  if token = "" then pure (.reject .missingToken)
  else ExceptT.mk (verdict <$> (service.validate token now).run)

/-- The token to log out: the one of the request, or that of its metadata if it is blank. -/
def logoutToken (caller : Caller) (token : String) : Except Status String :=
  let token := Text.trim token
  if token = "" then caller.metadata.token?.mapError fun _ => Status.missingToken
  else .ok token

/-- Logs a token out. -/
def logout (service : Service) (caller : Caller) (token : String) (now : Time) :
    ExceptT Status Program Unit := do
  let token ← liftExcept (logoutToken caller token)
  ExceptT.adapt Status.ofFailure (service.logout token now)

end Api
end Bearer.Rpc
