import Bearer.Claims.Basic
import Bearer.Json.Reader
import Bearer.Json.Record
import Bearer.Json.Writer

/-!
# Claims as JSON

The members of a token's payload and their names, written in a fixed order and read in any.
-/

namespace Bearer

def Role.ofJson? (json : Json) : Option Role := json.variant?.bind Role.ofName?

def Role.toJson (role : Role) : Json := Json.text role.name

namespace Claims

/-- The names of the members, in the order in which they are written. -/
def names : List String := ["sub", "role", "jti", "iat", "exp"]

/-- Claims as JSON. -/
def toJson (claims : Claims) : Json :=
  .object [Json.member "sub" (Json.text claims.subject),
    Json.member "role" claims.role.toJson,
    Json.member "jti" (Json.text claims.tokenId),
    Json.member "iat" (.int claims.issuedAt.toInt),
    Json.member "exp" (.int claims.expiry.toInt)]

/-- Reads claims of which none may be missing. -/
def ofJson? (json : Json) : Option Claims :=
  match json.fields? names with
  | some [some subject, some role, some tokenId, some issuedAt, some expiry] => do
    let subject ← subject.text?
    let role ← Role.ofJson? role
    let tokenId ← tokenId.text?
    let issuedAt ← issuedAt.int64?
    let expiry ← expiry.int64?
    return { subject, role, tokenId, issuedAt, expiry }
  | _ => none

def payload (claims : Claims) : Bytes := claims.toJson.write

end Claims
end Bearer
