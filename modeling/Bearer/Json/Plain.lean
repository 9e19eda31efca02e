import Bearer.Json.Reader

/-!
# Plain values

A value is plain when it can be taken in whole without knowing what it is for: it nests no deeper
than a limit, its strings are legible, names included, and its numbers lie within the range of a
double.
-/

namespace Bearer.Json

/-- The least number that rounds to no double: half a unit in the last place beyond the greatest. -/
def doubleLimit : Nat := Nat.pow 2 1024 - Nat.pow 2 970

/-- Whether a number times a power of ten lies within the range of a double. The count of digits
decides alone unless it comes close to the limit. -/
def isBelowLimit (significand : Nat) (exponent : Int) : Bool :=
  let places := (Text.Decimal.digits significand).length + exponent
  if significand = 0 || places < 300 then true
  else if 310 < places then false
  else if exponent < 0 then significand < doubleLimit * Nat.pow 10 exponent.natAbs
  else significand * Nat.pow 10 exponent.natAbs < doubleLimit

/-- A number taken apart. -/
structure Parts where
  /-- All digits before the exponent. -/
  digits : Bytes
  /-- How many of them stand after the point. -/
  places : Nat
  /-- The sign of the exponent, and its digits. -/
  exponent : Bytes

namespace Parts

/-- Whether a byte is the letter of an exponent. -/
def isExponentLetter (b : UInt8) : Bool := b = 0x65 || b = 0x45

/-- Takes apart the number that is written so. -/
def ofLexeme (lexeme : Bytes) : Parts :=
  let mantissa := lexeme.takeWhile (!isExponentLetter ·)
  { digits := mantissa.filter isDigit
    places := (mantissa.dropWhile (· ≠ 0x2E)).length - 1
    exponent := (lexeme.dropWhile (!isExponentLetter ·)).drop 1 }

def significand (parts : Parts) : Nat := digitsValue parts.digits

def isNegative (parts : Parts) : Bool := parts.exponent.head? = some 0x2D

def scale (parts : Parts) : Bytes := parts.exponent.filter isDigit

/-- The power of ten by which the significand is multiplied. -/
def power (parts : Parts) : Int :=
  (if parts.isNegative then -(digitsValue parts.scale : Int) else digitsValue parts.scale) -
    parts.places

/-- Whether the number lies within the range of a double. -/
def isBounded (parts : Parts) : Bool := isBelowLimit parts.significand parts.power

end Parts

mutual

/-- Whether a value is plain, with a limit on its nesting. -/
def isPlain : Nat → Json → Bool
  | _, .string content => (Text.ofUtf8? content).isSome
  | _, .int value => isBelowLimit value.natAbs 0
  | _, .real lexeme => (Parts.ofLexeme lexeme).isBounded
  | _, .null | _, .bool _ => true
  | limit + 1, .array items => arePlain limit items
  | limit + 1, .object members => haveOnlyPlain limit members
  | 0, .array _ | 0, .object _ => false

/-- Whether all items are plain. -/
def arePlain : Nat → List Json → Bool
  | _, [] => true
  | limit, item :: items => isPlain limit item && arePlain limit items

/-- Whether all members have a legible name and a plain value. -/
def haveOnlyPlain : Nat → List (Bytes × Json) → Bool
  | _, [] => true
  | limit, (name, value) :: members =>
    (Text.ofUtf8? name).isSome && isPlain limit value && haveOnlyPlain limit members

end

end Bearer.Json
