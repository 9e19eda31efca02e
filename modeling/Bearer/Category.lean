/-!
# Categories of refusal

The only thing that a client learns about a refused request is its category. Every other detail of a
refusal stays inside.
-/

namespace Bearer

/-- What a refused request is told. -/
inductive Category where
  | missingToken
  | invalidToken
  | expiredToken
  | revokedToken
  | tooManyAttempts
  | invalidCredentials
  | invalidRequest
  | serviceUnavailable
  | internalError
  deriving DecidableEq, Repr

/-- The word that stands for a category on the wire. -/
def Category.word : Category → String
  | .missingToken => "missing_token"
  | .invalidToken => "invalid_token"
  | .expiredToken => "expired_token"
  | .revokedToken => "revoked_token"
  | .tooManyAttempts => "too_many_attempts"
  | .invalidCredentials => "invalid_credentials"
  | .invalidRequest => "invalid_request"
  | .serviceUnavailable => "service_unavailable"
  | .internalError => "internal_error"

/-- Different categories have different words. -/
theorem Category.word_injective {a b : Category} (h : a.word = b.word) : a = b := by
  cases a <;> cases b <;> first | rfl | (exact absurd h (by decide))

end Bearer
