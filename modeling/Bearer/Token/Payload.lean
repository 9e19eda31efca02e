import Bearer.Claims.Json
import Bearer.Json.Plain
import Bearer.Text.Blank

/-!
# Payloads of tokens

The payload of a token is read twice: for the five claims, of which none may be missing and whose
texts may not be blank, and for the standard claims, which are not used but have to be readable. A
standard claim of a wrong kind is passed over as long as its end can be found.
-/

namespace Bearer

/-- A text that is not blank. -/
def Json.textNotBlank? (json : Json) : Option String :=
  json.text?.filter fun s => !(Text.trimChars s.toList).isEmpty

/-- Reads claims from a payload. -/
def Claims.ofPayload? (json : Json) : Option Claims :=
  match json.fields? Claims.names with
  | some [some subject, some role, some tokenId, some issuedAt, some expiry] => do
    let subject ← subject.textNotBlank?
    let tokenId ← tokenId.textNotBlank?
    let role ← role.text?.bind Role.ofName?
    let expiry ← expiry.int64?
    let issuedAt ← issuedAt.int64?
    return { subject, role, tokenId, issuedAt, expiry }
  | _ => none

namespace Token

def standardNames : List String := ["exp", "nbf", "sub", "iss", "aud"]

/-- Whether the end of a number is found. A number that can only be out of range is given up at the
digit of its exponent that shows this, and the digits after that are in the way. -/
def hasEndOfNumber (parts : Json.Parts) : Bool :=
  parts.significand = 0 || parts.isNegative ||
    Json.digitsValue parts.scale.dropLast ≤ Int32.maxValue.toInt

/-- Whether the end of a string is found. A string is given up at half of a surrogate pair: at a
second half, or at what follows a first half, which may be the closing quote. -/
def hasEndOfString : Bytes → Bool
  | 0xED :: b :: c :: rest =>
    if 0xA0 ≤ b then b < 0xB0 && rest.isEmpty else hasEndOfString (b :: c :: rest)
  | _ :: rest => hasEndOfString rest
  | [] => true

/-- Whether the end of a value without parts is found. -/
def hasEnd : Json → Bool
  | .real lexeme => hasEndOfNumber (Json.Parts.ofLexeme lexeme)
  | .string content => hasEndOfString content
  | _ => true

/-- Whether a claim for which a number is expected can be passed over; it may have no parts. -/
def isPassable : Json → Bool
  | .array items => items.isEmpty
  | .object members => members.isEmpty
  | json => hasEnd json

/-- Whether a claim that may have parts can be passed over; if it has any, it has to be plain. -/
def isPassableTree (json : Json) : Bool :=
  if json.isContainer then json.isPlain 126 else hasEnd json

/-- Whether the standard claims of a payload can be read or passed over. -/
def hasReadableStandard : Json → Bool
  | .object members =>
    match standardNames.mapM (Json.atMostOne? · members) with
    | some [_, notBefore, _, issuer, audience] =>
      notBefore.all isPassable && issuer.all isPassableTree && audience.all isPassableTree
    | _ => false
  | _ => true

end Token
end Bearer
