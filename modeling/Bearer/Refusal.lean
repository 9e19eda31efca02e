import Bearer.Category

/-!
# Refusals

Why a token, a login or a secret is refused. Some refusals carry a detail for the operator; what a
client may learn is `Refusal.category`, which does not depend on any detail.
-/

namespace Bearer

/-- The cause of a refusal. -/
inductive Refusal where
  /-- The request carries no token. -/
  | missingToken
  /-- The token is malformed, wrongly signed or lacks a claim. -/
  | invalidToken
  /-- The token was good and has run out. -/
  | expiredToken
  /-- The token was logged out. -/
  | revokedToken
  /-- Too many logins have failed in the current window. -/
  | tooManyAttempts
  /-- The identity is unknown or the password is wrong; which of the two is not told. -/
  | invalidCredentials
  /-- The signing secret is not fit for use. -/
  | weakSecret (reason : String)
  /-- A setting makes no sense. -/
  | configuration (detail : String)
  /-- The shared store gave no answer. -/
  | storeUnavailable (detail : String)
  /-- Something else went wrong inside. -/
  | internal (detail : String)
  deriving DecidableEq, Repr

namespace Refusal

/-- What a client may learn. -/
def category : Refusal → Category
  | missingToken => .missingToken
  | invalidToken => .invalidToken
  | expiredToken => .expiredToken
  | revokedToken => .revokedToken
  | tooManyAttempts => .tooManyAttempts
  | invalidCredentials => .invalidCredentials
  | storeUnavailable _ => .serviceUnavailable
  | weakSecret _ | configuration _ | internal _ => .internalError

/-- What an operator is told. -/
def message : Refusal → String
  | missingToken => "Missing token"
  | invalidToken => "Invalid token"
  | expiredToken => "Token expired"
  | revokedToken => "Token revoked"
  | tooManyAttempts => "Too many login attempts"
  | invalidCredentials => "Invalid credentials"
  | weakSecret reason => "Weak signing secret: " ++ reason
  | configuration detail => "Invalid configuration: " ++ detail
  | storeUnavailable detail => "Shared store unavailable: " ++ detail
  | internal detail => "Internal error: " ++ detail

/-- Whether the caller failed to prove who it is. -/
def isUnauthenticated : Refusal → Bool
  | missingToken | invalidToken | expiredToken | revokedToken | invalidCredentials => true
  | _ => false

end Refusal
end Bearer
