import Bearer.OutagePolicy
import Bearer.Revocation
import Bearer.Token.Basic

/-!
# Validation

A token is valid when it verifies and is not remembered as revoked. A token that does not verify is
refused without asking the store. When the store gives no answer, the policy decides: the token is
let through, or refused as invalid.
-/

namespace Bearer

/-- How tokens are validated. -/
structure Validation where
  /-- The secret that signs tokens. -/
  secret : Secret
  /-- What to do when the store does not say whether a token is revoked. -/
  onOutage : OutagePolicy

/-- What a verified token comes to, given the answer of the store. -/
def Validation.conclude (validation : Validation) (claims : Claims) :
    Except Store.Failure Bool → Except Refusal Claims
  | .ok false => .ok claims
  | .ok true => .error .revokedToken
  | .error _ =>
    match validation.onOutage with
    | .failOpen => .ok claims
    | .failClosed => .error .invalidToken

/-- The claims of a valid token. -/
def Validation.validate (validation : Validation) (token : String) (now : Time) :
    ExceptT Refusal Program Claims := do
  let claims ← liftExcept (Token.verify validation.secret token now)
  let answer ← (Revocation.isRevoked claims.tokenId).run
  liftExcept (validation.conclude claims answer)

end Bearer
