import Bearer.Claims.Json
import Bearer.Http.MediaType
import Bearer.Http.OpenApi
import Bearer.Http.Origin
import Bearer.Http.Response
import Bearer.Service

/-!
# The REST interface

Login and logout, a probe, the counters and the description of the interface. The path and the
method have to be exactly those of a route.
-/

namespace Bearer.Http

/-- What a client asks for. -/
inductive Route where
  | health
  | metrics
  | description
  | login
  | logout
  deriving DecidableEq, Repr

/-- The method and the path of a route. -/
def Route.target : Route → String × String
  | .health => ("GET", "/health")
  | .metrics => ("GET", "/metrics")
  | .description => ("GET", "/api/v1/openapi.json")
  | .login => ("POST", "/api/v1/auth/login")
  | .logout => ("DELETE", "/api/v1/auth/logout")

def Route.all : List Route := [.health, .metrics, .description, .login, .logout]

/-- The route of a request. -/
def Request.route? (request : Request) : Option Route :=
  Route.all.find? fun route =>
    request.method = route.target.1 && request.path = Text.utf8 route.target.2

/-- The address and the password in the body of a login. -/
def Request.login? (request : Request) : Option (String × String) := do
  let type ← request.text? "content-type"
  guard (MediaType.isJson type)
  let json ← Json.parse? request.body
  let [some email, some password] ← json.fields? ["email", "password"] | none
  return (← email.text?, ← password.text?)

/-- The body of a successful login. -/
def loginBody (grant : Grant) : Json :=
  .object [Json.member "access_token" (Json.text grant.issued.token),
    Json.member "token_type" (Json.text "Bearer"),
    Json.member "expires_in" (.int grant.issued.lifetime),
    Json.member "user_id" (Json.text grant.userId.text),
    Json.member "role" grant.role.toJson]

def logoutBody : Json := .object [Json.member "message" (Json.text "logged_out")]

def settle (flow : Service.Flow Response) : Program Response := do
  match ← flow.run with
  | .ok response => return response
  | .error failure => return Response.ofFailure failure

/-- The response to a successful login. -/
def granted (service : Service) (grant : Grant) : Response :=
  Response.json .ok (loginBody grant)
    [SetCookie.token grant.issued.token grant.issued.lifetime service.secureCookies]

/-- Answers a login. -/
def login (service : Service) (request : Request) (moment : Moment) : Program Response :=
  match request.login? with
  | none => return Response.malformed
  | some (email, password) =>
    settle do
      let origin := Origin.ofRequest request service.trustForwarded
      return granted service (← service.login email password origin moment)

/-- Answers a logout. -/
def logout (service : Service) (request : Request) (now : Time) : Program Response :=
  settle do
    let token ← Service.refusable (liftExcept request.token?)
    service.logout token now
    return Response.json .ok logoutBody [SetCookie.removal now service.secureCookies]

/-- The type of the text that shows the counters. -/
def metricsType : String := "text/plain; version=0.0.4"

/-- Answers a request. -/
def respond (service : Service) (request : Request) (moment : Moment) : Program Response :=
  match request.route? with
  | none => return Response.notFound
  | some .health => return Response.text .ok Response.textType "OK"
  | some .metrics => do
    return Response.text .ok metricsType (← Program.readMetrics).exposition
  | some .description => return Response.json .ok OpenApi.document []
  | some .login => login service request moment
  | some .logout => logout service request moment.now

end Bearer.Http
