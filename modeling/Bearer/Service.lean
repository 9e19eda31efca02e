import Bearer.Email
import Bearer.Lockout
import Bearer.Validation

/-!
# The service

Logging in, logging out and validating, as every interface offers them.

A login is checked in this order: the form of the address, that there is a password, the lockout,
the user, the password. So a locked pair learns nothing about its password, and an unknown user is
told the same as a wrong password.
-/

namespace Bearer

/-- A service and its settings. -/
structure Service where
  /-- The secret that signs tokens. -/
  secret : Secret
  /-- How long an issued token is good. -/
  lifetime : Duration
  /-- How failed logins are counted. -/
  lockout : Lockout
  /-- What to do when the store does not say whether a token is revoked. -/
  onRevocationOutage : OutagePolicy
  /-- Whether cookies are for secure connections only. -/
  secureCookies : Bool
  /-- Whether the headers that proxies add are believed. -/
  trustForwarded : Bool

/-- The moment of a request and an identifier that no other request has. -/
structure Moment where
  /-- The time on the clock. -/
  now : Time
  /-- A fresh identifier. -/
  fresh : Uuid

/-- What a successful login hands out. -/
structure Grant where
  /-- The token and its claims. -/
  issued : Token.Issued
  userId : Uuid
  /-- The role of the user. -/
  role : Role

namespace Service

abbrev Flow (α : Type) : Type := ExceptT Failure Program α

/-- A computation with a narrower kind of error as a flow. -/
def widen {ε α : Type} (toFailure : ε → Failure) (x : ExceptT ε Program α) : Flow α :=
  ExceptT.adapt toFailure x

/-- A computation that can be refused, as a flow. -/
def refusable {α : Type} (x : ExceptT Refusal Program α) : Flow α := widen .refusal x

def validation (service : Service) : Validation := ⟨service.secret, service.onRevocationOutage⟩

/-- Counts a failed login for a key and refuses it. -/
def failLogin (service : Service) (key : String) : Flow Grant := do
  let count ← refusable (service.lockout.recordFailure key)
  Program.note .loginFailed
  -- the failures after that one find the pair locked already
  if count = service.lockout.policy.maxAttempts then Program.note .loginLockedOut
  throw (.refusal .invalidCredentials)

/-- Forgets the failures of a key and issues a token for its user. -/
def grant (service : Service) (key : String) (user : User) (moment : Moment) : Flow Grant := do
  refusable (service.lockout.reset key)
  let issued ← refusable (liftExcept
    (Token.issue service.secret user.id.text user.role service.lifetime moment.now
      moment.fresh.text))
  Program.note .tokenIssued
  return { issued, userId := user.id, role := user.role }

/-- Logs in the user of an address in its one form. The lockout is asked for before anything
else. -/
def attempt (service : Service) (address password origin : String) (moment : Moment) :
    Flow Grant := do
  let key := Lockout.key address origin
  refusable (service.lockout.check key)
  let user? ← Program.findUser address
  -- checked for an unknown user too, so that the time taken tells nothing
  let verified ← Program.checkPassword password (user?.map (·.passwordHash))
  match user?, verified with
  | some user, true => service.grant key user moment
  | _, _ => service.failLogin key

def login (service : Service) (email password origin : String) (moment : Moment) : Flow Grant := do
  Program.note .loginRequested
  let address ← liftExcept (Email.normalize? email)
  if password = "" then throw (.validation "password required")
  service.attempt address password origin moment

/-- The claims of a valid token. -/
def validate (service : Service) (token : String) (now : Time) : ExceptT Refusal Program Claims :=
  ExceptT.mk do
    let result ← (service.validation.validate token now).run
    if result.isOk then return result
    Program.note .validationFailed
    return result

/-- Logs a token out. It has to hold, but it may have expired, and then there is nothing to do. -/
def logout (service : Service) (token : String) (now : Time) : Flow Unit := do
  let claims ← refusable (liftExcept (Token.decode service.secret token now))
  -- one that has expired is refused anyway
  if (claims.remaining? now).isSome then
    widen (fun failure => .refusal failure.toRefusal) (Revocation.revokeClaims claims now)
    Program.note .tokenRevoked

end Service
end Bearer
