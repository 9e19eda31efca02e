import Bearer.Text.Bytes

/-!
# Universally unique identifiers

Sixteen bytes, written as thirty-two lower-case hexadecimal digits in five groups. A random
identifier is marked as such in two places.
-/

namespace Bearer

/-- An identifier of sixteen bytes. -/
structure Uuid where
  bytes : Bytes
  deriving DecidableEq, Repr

namespace Uuid

/-- The digits of an identifier in groups of eight, four, four, four and twelve. -/
def text (id : Uuid) : String :=
  let digits := Text.hex id.bytes
  String.ofList (digits.take 8 ++ '-' :: ((digits.drop 8).take 4 ++ '-' ::
    ((digits.drop 12).take 4 ++ '-' :: ((digits.drop 16).take 4 ++ '-' :: digits.drop 20))))

/-- Sixteen bytes as a random identifier: its version is four, and its variant the usual one. -/
def ofRandom (bytes : Bytes) : Uuid :=
  -- four bits for the version, two for the variant
  ⟨bytes.mapIdx fun i b =>
    if i = 6 then (b &&& 0x0F) ||| 0x40 else if i = 8 then (b &&& 0x3F) ||| 0x80 else b⟩

/-- The digits of a grouped text, if the hyphens are in their places. -/
def ungrouped? (cs : List Char) : Option (List Char) := do
  guard (cs.length = 36)
  guard ([8, 13, 18, 23].all fun i => cs.getD i ' ' = '-')
  return cs.filter (· ≠ '-')

/-- The text within braces, or after the name of the scheme; any other text is left as it is. -/
def unwrapped (cs : List Char) : List Char :=
  let scheme := "urn:uuid:".toList
  if cs.length = 38 ∧ cs.head? = some (Char.ofNat 0x7B) ∧ cs.getLast? = some (Char.ofNat 0x7D) then
    (cs.drop 1).dropLast
  else if scheme.isPrefixOf cs then cs.drop scheme.length
  else cs

/-- Reads an identifier, grouped or not, in either case. -/
def ofText? (s : String) : Option Uuid := do
  let cs := s.toList
  let digits := if cs.length = 32 then some cs else ungrouped? (unwrapped cs)
  let bytes ← digits >>= Text.ofHex?
  guard (bytes.length = 16)
  return ⟨bytes⟩

/-- Whether an identifier is marked as random. -/
def isRandom (id : Uuid) : Bool :=
  id.bytes.length = 16 && id.bytes.getD 6 0 / 16 = 4 && id.bytes.getD 8 0 / 64 = 2

end Uuid
end Bearer
