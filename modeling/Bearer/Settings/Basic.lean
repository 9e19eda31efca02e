import Bearer.Secret
import Bearer.Service
import Bearer.Settings.Environment

/-!
# Settings

Everything that a service is told from outside. Settings are loaded group by group in a fixed order,
and the first fault is the one that is reported.
-/

namespace Bearer

namespace Settings

/-- Where the interfaces listen and how they treat requests. -/
structure Server where
  /-- The host name to listen on. -/
  host : String
  /-- The port of the REST interface. -/
  httpPort : UInt16
  /-- The port of the remote calls. -/
  rpcPort : UInt16
  /-- Whether clients connect securely. -/
  secure : Bool
  /-- Whether the headers that proxies add are believed. -/
  trustForwarded : Bool
  deriving DecidableEq, Repr

/-- Where the directory of users is. -/
structure Database where
  /-- Its location. -/
  url : String
  /-- How many connections to it are kept at most. -/
  maxConnections : UInt32
  deriving DecidableEq, Repr

/-- How tokens are issued and logins are counted. -/
structure Auth where
  /-- The secret that signs tokens. -/
  secret : Secret
  /-- How long an issued token is good. -/
  lifetime : Duration
  /-- The number of failed logins that locks. -/
  maxAttempts : UInt64
  /-- How long failed logins are counted. -/
  window : Duration
  /-- What to do when the store does not say whether a token is revoked. -/
  onRevocationOutage : OutagePolicy
  /-- What to do when the store does not count. -/
  onLockoutOutage : OutagePolicy
  /-- How long an answer of the store is waited for. -/
  storeTimeout : Duration

end Settings

/-- The settings of a service. -/
structure Settings where
  /-- Where the interfaces listen. -/
  server : Settings.Server
  /-- Where the directory of users is. -/
  database : Settings.Database
  /-- Where the shared store is. -/
  storeUrl : String
  /-- How tokens are issued and logins are counted. -/
  auth : Settings.Auth

namespace Settings

/-- The greatest lifetime of a token in seconds: thirty days. -/
def maxLifetime : Nat := 30 * 24 * 60 * 60

def Server.load (env : Environment) : Except Fault Server := do
  let port := Environment.readNumber UInt16.size
  let httpPort ← env.optional "HTTP_PORT" port 8080
  let rpcPort ← env.optional "GRPC_PORT" port 50051
  let secure ← env.optional "HTTPS_ENABLED" Environment.readBool false
  let trustForwarded ← env.optional "TRUST_FORWARDED_HEADERS" Environment.readBool false
  return { host := env.textOr "SERVER_HOST" "0.0.0.0"
           httpPort := UInt16.ofNat httpPort, rpcPort := UInt16.ofNat rpcPort
           secure, trustForwarded }

def Database.load (env : Environment) : Except Fault Database := do
  let url ← env.required "DATABASE_URL"
  let count ← env.optional "DATABASE_MAX_CONNECTIONS" (Environment.readNumber UInt32.size) 10
  return { url, maxConnections := UInt32.ofNat count }

/-- Loads a number of sixty-four bits that is greater than zero. -/
def positive (env : Environment) (name : String) (default : Nat) : Except Fault Nat := do
  let n ← env.optional name (Environment.readNumber UInt64.size) default
  if n = 0 then throw (.zero name)
  return n

def loadSecret (env : Environment) : Except Fault Secret := do
  let text ← env.required "JWT_SECRET"
  (Secret.ofBytes? (Text.utf8 text)).mapError fun refusal => .rejectedSecret refusal.message

def loadLifetime (env : Environment) : Except Fault Nat := do
  let seconds ← positive env "JWT_TTL" 3600
  if maxLifetime < seconds then throw (.tooMany "JWT_TTL" maxLifetime)
  return seconds

/-- Reads what to do during an outage. -/
def readPolicy (cs : List Char) : Except String OutagePolicy :=
  (OutagePolicy.ofText? (String.ofList cs)).mapError Refusal.message

/-- Loads how tokens are issued and logins are counted. -/
def Auth.load (env : Environment) : Except Fault Auth := do
  let secret ← loadSecret env
  let lifetime ← loadLifetime env
  let maxAttempts ← positive env "LOGIN_MAX_ATTEMPTS" 5
  let window ← positive env "LOGIN_LOCKOUT_SECONDS" 600
  let onRevocationOutage ← env.optional "REVOCATION_FAILURE_MODE" readPolicy .failClosed
  let onLockoutOutage ← env.optional "THROTTLE_FAILURE_MODE" readPolicy .failOpen
  let timeout ← env.optional "STORE_TIMEOUT_MS" (Environment.readNumber UInt64.size) 250
  return { secret
           lifetime := Duration.ofSeconds lifetime
           maxAttempts := UInt64.ofNat maxAttempts
           window := Duration.ofSeconds window
           onRevocationOutage, onLockoutOutage
           storeTimeout := Duration.ofMillis timeout }

def load (env : Environment) : Except Fault Settings := do
  -- of several faults the one in this order is reported
  let server ← Server.load env
  let database ← Database.load env
  let storeUrl ← env.required "REDIS_URL"
  let auth ← Auth.load env
  return { server, database, storeUrl, auth }

def service? (settings : Settings) : Except Refusal Service := do
  let policy ← Lockout.Policy.make? settings.auth.maxAttempts settings.auth.window
  return { secret := settings.auth.secret
           lifetime := settings.auth.lifetime
           lockout := { policy, onOutage := settings.auth.onLockoutOutage }
           onRevocationOutage := settings.auth.onRevocationOutage
           secureCookies := settings.server.secure
           trustForwarded := settings.server.trustForwarded }

end Settings
end Bearer
