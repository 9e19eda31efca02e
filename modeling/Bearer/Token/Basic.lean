import Bearer.Digest.Hmac
import Bearer.Secret
import Bearer.Text.Split
import Bearer.Token.Header
import Bearer.Token.Payload

/-!
# Signed tokens

A token is three segments joined by dots: a header, a payload and a signature. The first two are
JSON and the third is the keyed digest of the text before it, all in the alphabet of base64 that is
safe in a URL. `Token.sign` writes a token, `Token.decode` accepts one whose signature and claims
hold, and `Token.verify` accepts one that moreover has not run out.

Whatever is wrong with a token, the refusal is `invalidToken`; only a token that is good in every
other way is refused as expired.
-/

namespace Bearer.Token

def segment (bytes : Bytes) : List Char := Base64.encode Base64.urlSafe bytes

def segmentBytes? (segment : List Char) : Option Bytes := Base64.decode? Base64.urlSafe segment

/-- The signature of a text. -/
def signature (secret : Secret) (signed : List Char) : List Char :=
  segment (Digest.hmac secret.bytes (Text.utf8 (String.ofList signed)))

/-- The two segments that are signed, joined. -/
def signedPart (claims : Claims) : List Char :=
  segment header.write ++ '.' :: segment claims.payload

/-- The token that says some claims. -/
def sign (secret : Secret) (claims : Claims) : String :=
  String.ofList (signedPart claims ++ '.' :: signature secret (signedPart claims))

/-- The payload of a token whose signature and header hold. -/
def payload? (secret : Secret) (token : List Char) : Option Json := do
  let (signed, signature') ← Text.cutLast? '.' token
  -- nothing is read of what is not signed
  guard (signature' = signature secret signed)
  let (head, body) ← Text.cutLast? '.' signed
  let header ← segmentBytes? head >>= Json.parse?
  guard (accepts header)
  segmentBytes? body >>= Json.parse?

/-- The claims of a token whose signature, header and payload hold. -/
def claims? (secret : Secret) (token : List Char) : Option Claims := do
  let payload ← payload? secret token
  let claims ← Claims.ofPayload? payload
  guard (hasReadableStandard payload)
  return claims

/-- How far ahead of this clock another one may have issued a token, in seconds. -/
def clockSkew : Int := 300

/-- Whether the times of a token make sense at a moment: it was issued by then, and expires after it
was issued. -/
def isTimely (claims : Claims) (now : Time) : Bool :=
  claims.issuedAt.toInt ≤ now.seconds + clockSkew && claims.issuedAt.toInt < claims.expiry.toInt

/-- The claims of a token that holds at a moment, expired or not. -/
def decode (secret : Secret) (token : String) (now : Time) : Except Refusal Claims :=
  match claims? secret (Text.trimChars token.toList) with
  | some claims => if isTimely claims now then .ok claims else .error .invalidToken
  | none => .error .invalidToken

/-- The claims of a token that holds at a moment and has not expired. -/
def verify (secret : Secret) (token : String) (now : Time) : Except Refusal Claims := do
  let claims ← decode secret token now
  if claims.isExpired now then throw .expiredToken
  return claims

/-- A token together with what it says. -/
structure Issued where
  token : String
  /-- What it says. -/
  claims : Claims

/-- The lifetime of an issued token in seconds. -/
def Issued.lifetime (issued : Issued) : Int :=
  issued.claims.expiry.toInt - issued.claims.issuedAt.toInt

/-- Issues a token for a subject in a role, good from now for a lifetime in whole seconds. The
identity of the token has to be a fresh one. -/
def issue (secret : Secret) (subject : String) (role : Role) (lifetime : Duration) (now : Time)
    (tokenId : String) : Except Refusal Issued :=
  -- times in claims have sixty-four bits with sign
  let seconds : Int := min lifetime.seconds Int64.maxValue.toInt
  if seconds ≤ 0 then .error (.configuration "token lifetime must be at least one second")
  else if Int64.maxValue.toInt < now.seconds + seconds then
    .error (.configuration "token lifetime is out of range")
  else
    let claims : Claims :=
      { subject, role, tokenId
        issuedAt := Int64.ofInt now.seconds
        expiry := Int64.ofInt (now.seconds + seconds) }
    .ok { token := sign secret claims, claims }

end Bearer.Token
