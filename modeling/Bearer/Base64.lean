import Bearer.Text.Bytes

/-!
# Base64

Three bytes are written as four symbols of an alphabet of sixty-four. A last group of one or two
bytes takes two or three symbols, whose unused low bits must be zero when they are read: so a text
that is read at all is the one text that is written for its bytes. The padded form fills the last
group up with equals signs.
-/

namespace Bearer.Base64

/-- An alphabet: letters and digits, and two further symbols. -/
structure Alphabet where
  /-- The symbol of the value 62. -/
  sixtyTwo : Char
  /-- The symbol of the value 63. -/
  sixtyThree : Char
  /-- The symbol of 62 is no letter and no digit. -/
  isAlphanum_sixtyTwo : sixtyTwo.isAlphanum = false := by decide
  /-- The symbol of 63 is no letter and no digit. -/
  isAlphanum_sixtyThree : sixtyThree.isAlphanum = false := by decide
  /-- The two symbols differ. -/
  sixtyThree_ne_sixtyTwo : sixtyThree ≠ sixtyTwo := by decide

/-- The usual alphabet. -/
def standard : Alphabet where
  sixtyTwo := '+'
  sixtyThree := '/'

/-- The alphabet whose symbols need no escaping in a URL. -/
def urlSafe : Alphabet where
  sixtyTwo := '-'
  sixtyThree := '_'

/-- The symbol of a value below sixty-four. -/
def Alphabet.symbol (alphabet : Alphabet) (n : Nat) : Char :=
  if n < 26 then Char.ofNat ('A'.toNat + n)
  else if n < 52 then Char.ofNat ('a'.toNat + (n - 26))
  else if n < 62 then Char.ofNat ('0'.toNat + (n - 52))
  else if n = 62 then alphabet.sixtyTwo
  else alphabet.sixtyThree

/-- The value of a symbol. -/
def Alphabet.value? (alphabet : Alphabet) (c : Char) : Option Nat :=
  if c.isUpper then some (c.toNat - 'A'.toNat)
  else if c.isLower then some (c.toNat - 'a'.toNat + 26)
  else if c.isDigit then some (c.toNat - '0'.toNat + 52)
  else if c = alphabet.sixtyTwo then some 62
  else if c = alphabet.sixtyThree then some 63
  else none

/-- The symbols of a sequence of bytes, without padding. -/
def encode (alphabet : Alphabet) : Bytes → List Char
  | [] => []
  | [x] =>
    [alphabet.symbol (x.toNat / 4), alphabet.symbol (x.toNat % 4 * 16)]
  | [x, y] =>
    [alphabet.symbol (x.toNat / 4), alphabet.symbol (x.toNat % 4 * 16 + y.toNat / 16),
      alphabet.symbol (y.toNat % 16 * 4)]
  | x :: y :: z :: rest =>
    alphabet.symbol (x.toNat / 4) :: alphabet.symbol (x.toNat % 4 * 16 + y.toNat / 16) ::
      alphabet.symbol (y.toNat % 16 * 4 + z.toNat / 64) :: alphabet.symbol (z.toNat % 64) ::
        encode alphabet rest

/-- Reads symbols without padding. Unused low bits of the last symbol have to be zero. -/
def decode? (alphabet : Alphabet) : List Char → Option Bytes
  | [] => some []
  | [_] => none
  | [c, d] => do
    let p ← alphabet.value? c
    let q ← alphabet.value? d
    guard (q % 16 = 0)
    return [UInt8.ofNat (p * 4 + q / 16)]
  | [c, d, e] => do
    let p ← alphabet.value? c
    let q ← alphabet.value? d
    let r ← alphabet.value? e
    guard (r % 4 = 0)
    return [UInt8.ofNat (p * 4 + q / 16), UInt8.ofNat (q % 16 * 16 + r / 4)]
  | c :: d :: e :: f :: rest => do
    let p ← alphabet.value? c
    let q ← alphabet.value? d
    let r ← alphabet.value? e
    let s ← alphabet.value? f
    let bytes ← decode? alphabet rest
    return UInt8.ofNat (p * 4 + q / 16) :: UInt8.ofNat (q % 16 * 16 + r / 4) ::
      UInt8.ofNat (r % 4 * 64 + s) :: bytes

/-- Fills a text up with equals signs to a multiple of four characters. -/
def pad (symbols : List Char) : List Char :=
  symbols ++ List.replicate ((4 - symbols.length % 4) % 4) '='

def encodePadded (alphabet : Alphabet) (bytes : Bytes) : List Char := pad (encode alphabet bytes)

/-- Reads a padded text; the padding has to be there and complete. -/
def decodePadded? (alphabet : Alphabet) (cs : List Char) : Option Bytes := do
  let symbols := cs.takeWhile (· ≠ '=')
  guard (cs = pad symbols)
  decode? alphabet symbols

end Bearer.Base64
