import Bearer.Json.Basic
import Bearer.Text.Decimal

/-!
# Reading JSON

`Json.parse?` reads one value with blanks around it and nothing else. It accepts the grammar of JSON
exactly: no trailing commas, no leading zeros, no control characters in strings. Bytes above ASCII
are accepted in strings as they are; whether they are a text is for those to ask who want the text.

Nesting is bounded only by the length of the input: every bracket and every comma costs one unit of
fuel, and the input holds fewer of them than it has bytes.
-/

namespace Bearer.Json

def isSpace (b : UInt8) : Bool := b = 0x20 || b = 0x09 || b = 0x0A || b = 0x0D

def skip (bytes : Bytes) : Bytes := bytes.dropWhile isSpace

def isDigit (b : UInt8) : Bool := 0x30 ≤ b && b ≤ 0x39

/-- The value of four hexadecimal digits at the front. -/
def codeUnit? : Bytes → Option (Nat × Bytes)
  | a :: b :: c :: d :: rest => do
    let a ← Text.hexValue? (Char.ofUInt8 a)
    let b ← Text.hexValue? (Char.ofUInt8 b)
    let c ← Text.hexValue? (Char.ofUInt8 c)
    let d ← Text.hexValue? (Char.ofUInt8 d)
    return (((a * 16 + b) * 16 + c) * 16 + d, rest)
  | _ => none

/-- The bytes of a code point by the scheme of UTF-8, surrogates included. -/
def encodePoint (n : Nat) : Bytes :=
  if n < 0x80 then [UInt8.ofNat n]
  else if n < 0x800 then [UInt8.ofNat (0xC0 + n / 64), UInt8.ofNat (0x80 + n % 64)]
  else if n < 0x10000 then
    [UInt8.ofNat (0xE0 + n / 4096), UInt8.ofNat (0x80 + n / 64 % 64), UInt8.ofNat (0x80 + n % 64)]
  else
    [UInt8.ofNat (0xF0 + n / 262144), UInt8.ofNat (0x80 + n / 4096 % 64),
      UInt8.ofNat (0x80 + n / 64 % 64), UInt8.ofNat (0x80 + n % 64)]

/-- What follows a code unit that opens a surrogate pair, if the pair is completed there. -/
def lowSurrogate? : Bytes → Option (Nat × Bytes)
  | 0x5C :: 0x75 :: rest => do
    let (low, rest) ← codeUnit? rest
    guard (0xDC00 ≤ low ∧ low ≤ 0xDFFF)
    return (low, rest)
  | _ => none

/-- Reads what follows the backslash of an escape. -/
def escape? : Bytes → Option (Bytes × Bytes)
  | [] => none
  | b :: rest =>
    if b = 0x22 ∨ b = 0x5C ∨ b = 0x2F then some ([b], rest)
    else if b = 0x62 then some ([0x08], rest)
    else if b = 0x66 then some ([0x0C], rest)
    else if b = 0x6E then some ([0x0A], rest)
    else if b = 0x72 then some ([0x0D], rest)
    else if b = 0x74 then some ([0x09], rest)
    else if b = 0x75 then do
      let (unit, rest) ← codeUnit? rest
      if 0xD800 ≤ unit ∧ unit ≤ 0xDBFF then
        match lowSurrogate? rest with
        | some (low, rest) =>
          return (encodePoint (0x10000 + (unit - 0xD800) * 1024 + (low - 0xDC00)), rest)
        -- half of a pair: what follows it is read as if it stood alone
        | none => return (encodePoint unit, rest)
      else return (encodePoint unit, rest)
    else none

/-- Reads the rest of a string after its opening quote: its content, and what follows the closing
quote. The fuel is the number of bytes that may be left. -/
def readString : Nat → Bytes → Option (Bytes × Bytes)
  | 0, _ | _, [] => none
  | fuel + 1, b :: rest =>
    if b = 0x22 then some ([], rest)
    else if b < 0x20 then none
    else if b = 0x5C then do
      let (unit, rest) ← escape? rest
      let (content, rest) ← readString fuel rest
      return (unit ++ content, rest)
    else do
      let (content, rest) ← readString fuel rest
      return (b :: content, rest)

/-- The value of decimal digits. -/
def digitsValue (digits : Bytes) : Nat :=
  digits.foldl (fun n b => n * 10 + (b.toNat - 0x30)) 0

def spanDigits (bytes : Bytes) : Bytes × Bytes := (bytes.takeWhile isDigit, bytes.dropWhile isDigit)

/-- The digits of a whole number at the front: a single zero, or no zero first. -/
def whole? : Bytes → Option (Bytes × Bytes)
  | [] => none
  | b :: rest =>
    if b = 0x30 then some ([b], rest)
    else if isDigit b then some (b :: (spanDigits rest).1, (spanDigits rest).2)
    else none

/-- A fraction at the front, point included, or nothing. -/
def fraction? : Bytes → Option (Bytes × Bytes)
  | 0x2E :: rest =>
    let (digits, rest) := spanDigits rest
    if digits.isEmpty then none else some (0x2E :: digits, rest)
  | rest => some ([], rest)

/-- The sign of an exponent at the front, or nothing. -/
def exponentSign : Bytes → Bytes × Bytes
  | b :: rest => if b = 0x2B ∨ b = 0x2D then ([b], rest) else ([], b :: rest)
  | [] => ([], [])

/-- An exponent at the front, its letter included, or nothing. -/
def exponent? : Bytes → Option (Bytes × Bytes)
  | b :: rest =>
    if b = 0x65 ∨ b = 0x45 then
      let (sign, rest) := exponentSign rest
      let (digits, rest) := spanDigits rest
      if digits.isEmpty then none else some (b :: (sign ++ digits), rest)
    else some ([], b :: rest)
  | [] => some ([], [])

/-- Splits a minus sign off the front. -/
def minusSign : Bytes → Bytes × Bytes
  | 0x2D :: rest => ([0x2D], rest)
  | bytes => ([], bytes)

def readNumber (bytes : Bytes) : Option (Json × Bytes) := do
  let (sign, rest) := minusSign bytes
  let (digits, rest) ← whole? rest
  let (fraction, rest) ← fraction? rest
  let (exponent, rest) ← exponent? rest
  let magnitude := digitsValue digits
  -- minus zero is no integer
  if fraction.isEmpty && exponent.isEmpty && !(sign ≠ [] && magnitude = 0) then
    return (.int (if sign.isEmpty then (magnitude : Int) else -(magnitude : Int)), rest)
  else return (.real (sign ++ digits ++ fraction ++ exponent), rest)

/-- Reads the word `true`, `false` or `null`. -/
def readWord (bytes : Bytes) : Option (Json × Bytes) :=
  match bytes with
  | 0x74 :: 0x72 :: 0x75 :: 0x65 :: rest => some (.bool true, rest)
  | 0x66 :: 0x61 :: 0x6C :: 0x73 :: 0x65 :: rest => some (.bool false, rest)
  | 0x6E :: 0x75 :: 0x6C :: 0x6C :: rest => some (.null, rest)
  | _ => none

/-- Reads the name of a member, with blanks before it, and the colon after it. -/
def readName (bytes : Bytes) : Option (Bytes × Bytes) :=
  match skip bytes with
  | 0x22 :: rest => do
    let (name, rest) ← readString rest.length rest
    match skip rest with
    | 0x3A :: rest => return (name, rest)
    | _ => none
  | _ => none

mutual

/-- Reads a value with blanks before it. -/
def readValue : Nat → Bytes → Option (Json × Bytes)
  | 0, _ => none
  | fuel + 1, bytes =>
    match skip bytes with
    | 0x22 :: rest => do
      let (content, rest) ← readString rest.length rest
      return (.string content, rest)
    | 0x5B :: rest =>
      match skip rest with
      | 0x5D :: rest => some (.array [], rest)
      | rest => do
        let (items, rest) ← readItems fuel rest
        return (.array items, rest)
    | 0x7B :: rest =>
      match skip rest with
      | 0x7D :: rest => some (.object [], rest)
      | rest => do
        let (members, rest) ← readMembers fuel rest
        return (.object members, rest)
    | rest => (readWord rest).or (readNumber rest)

/-- Reads at least one item and all that follow, to the closing bracket. -/
def readItems : Nat → Bytes → Option (List Json × Bytes)
  | 0, _ => none
  | fuel + 1, bytes => do
    let (item, rest) ← readValue fuel bytes
    match skip rest with
    | 0x2C :: rest =>
      let (items, rest) ← readItems fuel rest
      return (item :: items, rest)
    | 0x5D :: rest => return ([item], rest)
    | _ => none

/-- Reads at least one member and all that follow, to the closing brace. -/
def readMembers : Nat → Bytes → Option (List (Bytes × Json) × Bytes)
  | 0, _ => none
  | fuel + 1, bytes => do
    let (name, rest) ← readName bytes
    let (value, rest) ← readValue fuel rest
    match skip rest with
    | 0x2C :: rest =>
      let (members, rest) ← readMembers fuel rest
      return ((name, value) :: members, rest)
    | 0x7D :: rest => return ([(name, value)], rest)
    | _ => none

end

/-- Fuel that is enough for an input: two units for each byte, and two more. -/
def enoughFuel (bytes : Bytes) : Nat := 2 * bytes.length + 2

def parse? (bytes : Bytes) : Option Json := do
  let (value, rest) ← readValue (enoughFuel bytes) bytes
  guard (skip rest).isEmpty
  return value

end Bearer.Json
