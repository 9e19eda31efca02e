import Bearer.Refusal
import Bearer.Text.Blank
import Bearer.Text.LowerCase
import Bearer.Text.Split

/-!
# The credential of a request

A request presents its token in an authorization value of the bearer scheme, or else in a cookie. An
authorization value that cannot be used does not stand in the way of a cookie.
-/

namespace Bearer.Credential

/-- The name of the cookie that holds a token. -/
def cookieName : String := "access_token"

def scheme : List Char := "bearer".toList

/-- The token of an authorization value: the scheme in any case, at least one space, and a token. -/
def bearer? (authorization : String) : Option String := do
  let (name, rest) ← Text.cut? ' ' (Text.trimChars authorization.toList)
  guard (Text.lowerAscii name = scheme)
  let token := Text.trimChars rest
  guard (token ≠ [])
  return String.ofList token

/-- The token of a cookie's value. -/
def ofCookie? (value : String) : Option String :=
  let token := Text.trimChars value.toList
  if token = [] then none else some (String.ofList token)

/-- The token of a request, from its authorization value if possible, else from its cookie. -/
def ofRequest? (authorization? cookie? : Option String) : Except Refusal String :=
  match (authorization?.bind bearer?).or (cookie?.bind ofCookie?) with
  | some token => .ok token
  | none => .error .missingToken

end Bearer.Credential
