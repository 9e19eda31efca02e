import Bearer.Claims.Json
import Bearer.Http.Response
import Bearer.Validation

/-!
# Guarding routes

A guard validates the token of a request before the request is handled, and hands the handler the
user that the token stands for. A request that is refused never reaches the handler.
-/

namespace Bearer.Http

/-- The user for whom a request was let through. -/
structure Visitor where
  /-- Whom the token stands for. -/
  userId : String
  /-- The role of the subject. -/
  role : Role
  /-- The identity of the token. -/
  tokenId : String
  /-- When the token expires. -/
  expiresAt : Time
  deriving DecidableEq

/-- The user that claims stand for. -/
def Visitor.ofClaims (claims : Claims) : Visitor :=
  ⟨claims.subject, claims.role, claims.tokenId, claims.expiresAt⟩

/-- The user as JSON. -/
def Visitor.toJson (visitor : Visitor) : Json :=
  .object [Json.member "user_id" (Json.text visitor.userId),
    Json.member "role" visitor.role.toJson,
    Json.member "token_id" (Json.text visitor.tokenId),
    Json.member "expires_at" (.object [Json.member "secs" (.int visitor.expiresAt.seconds),
      Json.member "nanos" (.int visitor.expiresAt.nanosOfSecond)])]

/-- The status for a refusal by a guard. -/
def Status.ofRefusal : Refusal → Status
  | .storeUnavailable _ => .serviceUnavailable
  | .tooManyAttempts => .tooManyRequests
  | refusal => if refusal.isUnauthenticated then .unauthorized else .internalServerError

/-- The response to a request that a guard refuses. -/
def Response.ofRefusal (refusal : Refusal) : Response :=
  error refusal.category (Status.ofRefusal refusal)

abbrev Handler := Request → Option Visitor → Program Response

/-- The user whose token a request presents. -/
def visitorOf (validation : Validation) (request : Request) (now : Time) :
    ExceptT Refusal Program Visitor := do
  let token ← liftExcept request.token?
  return Visitor.ofClaims (← validation.validate token now)

/-- Puts a guard before a handler. -/
def guarded (validation : Validation) (now : Time) (handler : Handler) : Handler :=
  fun request _ => do
    match ← (visitorOf validation request now).run with
    | .ok visitor => handler request (some visitor)
    | .error refusal => return Response.ofRefusal refusal

/-- The handler that tells a user who it is; without a guard before it there is none to tell. -/
def whoAmI : Handler := fun _ visitor? =>
  match visitor? with
  | some visitor => return Response.json .ok visitor.toJson []
  | none => return Response.ofRefusal .missingToken

/-- An application that shows a user to itself, behind a guard and without one. -/
def profile (validation : Validation) (now : Time) (request : Request) : Program Response :=
  if request.method = "GET" && request.path = Text.utf8 "/api/me" then
    guarded validation now whoAmI request none
  else if request.method = "GET" && request.path = Text.utf8 "/open/me" then whoAmI request none
  else return Response.notFound

end Bearer.Http
