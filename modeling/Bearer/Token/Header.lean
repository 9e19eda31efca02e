import Bearer.Json.Plain
import Bearer.Json.Record

/-!
# Headers of tokens

A header names the algorithm of the signature and may hold further standard members, which have to
be of their kinds. Only one algorithm is ever accepted; the others are known by name, but a name
outside that list makes no difference, since both are refused.
-/

namespace Bearer.Token

/-- The name of the one accepted algorithm: a keyed digest with SHA-256. -/
def algorithm : String := "HS256"

/-- The header of every token that is issued. -/
def header : Json :=
  .object [Json.member "typ" (Json.text "JWT"), Json.member "alg" (Json.text algorithm)]

/-- The names of the members that a header may hold, in their order. -/
def headerNames : List String :=
  ["typ", "alg", "cty", "jku", "jwk", "kid", "x5u", "x5c", "x5t", "x5t#S256"]

/-- Whether a member is absent, null or a text. -/
def isOptionalText (field : Option Json) : Bool := (Json.optional? Json.text? field).isSome

/-- Whether a member is absent, null or a list of texts. -/
def isOptionalTexts (field : Option Json) : Bool :=
  (Json.optional? (Json.listOf? Json.text?) field).isSome

/-- The algorithms that a key can be meant for. -/
def keyAlgorithms : List String :=
  ["HS256", "HS384", "HS512", "ES256", "ES384", "RS256", "RS384", "RS512", "PS256", "PS384",
    "PS512", "EdDSA", "RSA1_5", "RSA-OAEP", "RSA-OAEP-256"]

def curves : List String := ["P-256", "P-384", "P-521", "Ed25519"]

/-- Whether a value is one of some variants. -/
def isVariantOf (names : List String) (json : Json) : Bool :=
  json.variant?.any names.contains

/-- The names of the members that every key may hold. -/
def keyNames : List String :=
  ["use", "key_ops", "alg", "kid", "x5u", "x5c", "x5t", "x5t#S256"]

/-- Whether the members that every key may hold are of their kinds. -/
def hasKeyFrame (members : List (Bytes × Json)) : Bool :=
  match keyNames.mapM (Json.atMostOne? · members) with
  | some [use, operations, algorithm, id, url, chain, thumb, thumb256] =>
    isOptionalText use && isOptionalTexts operations &&
      (Json.optional? (fun j => if isVariantOf keyAlgorithms j then some () else none)
        algorithm).isSome &&
      isOptionalText id && isOptionalText url && isOptionalTexts chain && isOptionalText thumb &&
      isOptionalText thumb256
  | _ => false

/-- Whether a key of a kind holds the members that the kind asks for. -/
def hasKeyOfKind (kind : String) (curved : Bool) (parts : List String)
    (members : List (Bytes × Json)) : Bool :=
  let one (name : String) (test : Json → Bool) : Bool :=
    match Json.atMostOne? name members with
    | some (some value) => test value
    | _ => false
  one "kty" (isVariantOf [kind]) && (!curved || one "crv" (isVariantOf curves)) &&
    parts.all fun part => one part fun value => value.text?.isSome

/-- Whether a member is absent, null or a key. -/
def isOptionalKey : Option Json → Bool
  | none | some .null => true
  | some (.object members) =>
    -- the object itself is the first level of its nesting
    Json.haveOnlyPlain 125 members && hasKeyFrame members &&
      (hasKeyOfKind "EC" true ["x", "y"] members || hasKeyOfKind "RSA" false ["n", "e"] members ||
        hasKeyOfKind "oct" false ["k"] members || hasKeyOfKind "OKP" true ["x"] members)
  | some _ => false

/-- Whether a header is well formed and names the accepted algorithm. -/
def accepts (header : Json) : Bool :=
  match header.fields? headerNames with
  | some [type, some algorithmField, content, keySetUrl, key, keyId, url, chain, thumb, thumb256] =>
    algorithmField.variant? = some algorithm && isOptionalText type && isOptionalText content &&
      isOptionalText keySetUrl && isOptionalKey key && isOptionalText keyId && isOptionalText url &&
      isOptionalTexts chain && isOptionalText thumb && isOptionalText thumb256
  | _ => false

end Bearer.Token
