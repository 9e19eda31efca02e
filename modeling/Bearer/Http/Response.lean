import Bearer.Failure
import Bearer.Http.Cookie
import Bearer.Json.Writer

/-!
# Responses

A response has a status, a body of some type, and cookies to set. A refused or failed request is
answered with its category and its status, and nothing else.
-/

namespace Bearer.Http

/-- The statuses that are used. -/
inductive Status where
  | ok
  | badRequest
  | unauthorized
  | notFound
  | tooManyRequests
  | internalServerError
  | serviceUnavailable
  deriving DecidableEq, Repr

/-- The number of a status. -/
def Status.code : Status → Nat
  | .ok => 200
  | .badRequest => 400
  | .unauthorized => 401
  | .notFound => 404
  | .tooManyRequests => 429
  | .internalServerError => 500
  | .serviceUnavailable => 503

/-- The status for a failed request. A refusal that is not about who is asking has a status of its
own, or else the fault is on this side. -/
def Status.ofFailure : Failure → Status
  | .refusal cause =>
    match cause with
    | .tooManyAttempts => .tooManyRequests
    | .storeUnavailable _ => .serviceUnavailable
    | cause => if cause.isUnauthenticated then .unauthorized else .internalServerError
  | .validation _ => .badRequest
  | .database _ | .internal _ => .internalServerError

/-- A response. -/
structure Response where
  status : Status
  /-- The type of the body, if it has one. -/
  contentType? : Option String
  body : Bytes
  /-- The cookies to set. -/
  cookies : List SetCookie

namespace Response

def jsonType : String := "application/json"

def textType : String := "text/plain; charset=utf-8"

/-- A response with a JSON body. -/
def json (status : Status) (body : Json) (cookies : List SetCookie) : Response :=
  ⟨status, some jsonType, body.write, cookies⟩

/-- A response with a text body. -/
def text (status : Status) (type body : String) : Response :=
  ⟨status, some type, Text.utf8 body, []⟩

/-- The body that tells a category and a status. -/
def errorBody (category : Category) (status : Status) : Json :=
  .object [Json.member "error" (Json.text category.word), Json.member "status" (.int status.code)]

/-- The response that tells a category. -/
def error (category : Category) (status : Status) : Response :=
  json status (errorBody category status) []

def ofFailure (failure : Failure) : Response := error failure.category (Status.ofFailure failure)

/-- The response for a path or a method that leads nowhere. -/
def notFound : Response := ⟨.notFound, none, [], []⟩

/-- The response for a body that cannot be read. -/
def malformed : Response := text .badRequest textType "Malformed request body"

end Response
end Bearer.Http
