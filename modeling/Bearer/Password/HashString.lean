import Bearer.Base64
import Bearer.Password.Argon2
import Bearer.Text.Decimal
import Bearer.Text.Split

/-!
# Stored password hashes

A stored hash is one text: the algorithm, its version, its costs, the salt and the digest, each
after a dollar sign. Version and costs may be left out; a name that is not known, a number that is
not in its shortest form, or a field that is too long makes the whole text no hash.
-/

namespace Bearer.Password

/-- What a stored hash says. -/
structure HashString where
  /-- The algorithm with its costs and the length of the digest. -/
  params : Argon2.Params
  salt : Bytes
  digest : Bytes

namespace HashString

/-- Whether a text is an identifier: at most thirty-two lower-case letters, digits and hyphens. -/
def isIdentifier (cs : List Char) : Bool :=
  !cs.isEmpty && cs.length ≤ 32 && cs.all fun c => c.isLower || c.isDigit || c = '-'

/-- Whether a text can be a value: at most sixty-four letters, digits and marks. -/
def isValue (cs : List Char) : Bool :=
  cs.length ≤ 64 && cs.all fun c => c.isAlphanum || c = '/' || c = '+' || c = '.' || c = '-'

/-- Reads a number below `2 ^ 32` in its shortest form. -/
def number? (cs : List Char) : Option Nat := do
  guard (cs ≠ [] ∧ cs.all Char.isDigit ∧ (cs.length = 1 ∨ cs.head? ≠ some '0'))
  (Text.Decimal.readDigits UInt32.size 0 cs).toOption

/-- Reads the name of a variant. -/
def variant? (cs : List Char) : Option Argon2.Variant :=
  if cs = "argon2d".toList then some .d
  else if cs = "argon2i".toList then some .i
  else if cs = "argon2id".toList then some .id
  else none

def version? (cs : List Char) : Option Argon2.Version := do
  guard (isValue cs)
  match ← number? cs with
  | 16 => some .v16
  | 19 => some .v19
  | _ => none

/-- The costs that hold where a hash does not state them. -/
def defaults (variant : Argon2.Variant) (version : Argon2.Version) (length : Nat) : Argon2.Params :=
  { variant, version, memory := 19456, passes := 2, lanes := 1, data := [], length }

def withCost? (params : Argon2.Params) (pair : List Char) : Option Argon2.Params := do
  let [name, value] := Text.pieces '=' pair | none
  guard (isIdentifier name ∧ isValue value)
  if name = ['m'] then
    let n ← number? value
    return { params with memory := n }
  else if name = ['t'] then
    let n ← number? value
    return { params with passes := n }
  else if name = ['p'] then
    let n ← number? value
    return { params with lanes := n }
  else if name = "keyid".toList then
    -- read for its form only
    let id ← Base64.decode? Base64.standard value
    guard (id.length ≤ 8)
    return params
  else if name = "data".toList then
    let data ← Base64.decode? Base64.standard value
    guard (data.length ≤ 32)
    return { params with data }
  else none

/-- Whether costs are within the bounds of the algorithm. -/
def areSound (params : Argon2.Params) : Bool :=
  8 ≤ params.memory && 8 * params.lanes ≤ params.memory && 1 ≤ params.passes &&
    1 ≤ params.lanes && params.lanes ≤ 0xFFFFFF

/-- Splits off the field of the version, if it is there. -/
def versionField : List (List Char) → Option (List Char) × List (List Char)
  | ('v' :: '=' :: version) :: rest =>
    if version.contains ',' then (none, ('v' :: '=' :: version) :: rest)
    else (some version, rest)
  | fields => (none, fields)

/-- Splits off the field of the costs, if it is there. -/
def costField : List (List Char) → List Char × List (List Char)
  | field :: rest => if field.contains '=' then (field, rest) else ([], field :: rest)
  | [] => ([], [])

def ofChars? (cs : List Char) : Option HashString := do
  let [] :: algorithm :: fields := Text.pieces '$' cs | none
  let variant ← variant? algorithm
  let (versionText, fields) := versionField fields
  let version ← match versionText with
    | some text => version? text
    | none => some .v19
  let (costs, fields) := costField fields
  -- nothing may follow the digest, and both have to be there
  let [salt, digest] := fields | none
  guard (costs.length ≤ 127)
  guard (4 ≤ salt.length ∧ salt.length ≤ 64)
  let salt ← Base64.decode? Base64.standard salt
  let digest ← Base64.decode? Base64.standard digest
  guard (8 ≤ salt.length ∧ 10 ≤ digest.length ∧ digest.length ≤ 64)
  let pairs := if costs.isEmpty then [] else Text.pieces ',' costs
  let params ← pairs.foldlM withCost? (defaults variant version digest.length)
  guard (areSound params)
  return { params, salt, digest }

/-- The text of a stored hash with the usual costs. -/
def write (salt digest : Bytes) : List Char :=
  "$argon2id$v=19$m=19456,t=2,p=1$".toList ++ Base64.encode Base64.standard salt ++
    '$' :: Base64.encode Base64.standard digest

end HashString
end Bearer.Password
