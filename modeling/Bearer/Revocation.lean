import Bearer.Claims.Basic
import Bearer.Program

/-!
# Revocation

A token that was logged out is remembered in the shared store under its identity, for as long as it
would still be good otherwise. After that its expiry refuses it anyway.
-/

namespace Bearer.Revocation

/-- The key under which a revoked token is remembered. -/
def key (tokenId : String) : String := "auth:token:blacklist:" ++ tokenId

def marker : String := "revoked"

/-- Remembers a token as revoked for a span; there is nothing to remember for an empty one. -/
def revoke (tokenId : String) (ttl : Duration) : ExceptT Store.Failure Program Unit :=
  if ttl.isZero then pure () else Program.call (.set (key tokenId) marker ttl)

/-- Remembers a token as revoked for as long as it is still good. -/
def revokeClaims (claims : Claims) (now : Time) : ExceptT Store.Failure Program Unit :=
  match claims.remaining? now with
  | some ttl => revoke claims.tokenId ttl
  | none => pure ()

/-- Whether a token is remembered as revoked. -/
def isRevoked (tokenId : String) : ExceptT Store.Failure Program Bool :=
  Program.call (.contains (key tokenId))

end Bearer.Revocation
