import Bearer.Text.Decimal
import Bearer.Text.Bytes

/-!
# Network addresses

Addresses of hosts in both families, with their usual texts, and addresses of sockets, which are
read with a port. A long zero run of the longer family is written as two colons, and one that wraps
an address of the shorter family shows that address in dots.
-/

namespace Bearer.Net

/-- The address of a host. -/
inductive Address where
  /-- Four bytes. -/
  | v4 (a b c d : UInt8)
  /-- Eight groups of sixteen bits. -/
  | v6 (groups : List UInt16)
  deriving DecidableEq, Repr

/-- Takes a character off the front. -/
def char? (c : Char) : List Char → Option (List Char)
  | x :: xs => if x = c then some xs else none
  | [] => none

/-- Takes a number below a limit off the front. Too many digits, or a zero in front of others where
that is not allowed, make it no number. -/
def number? (radix limit : Nat) (maxDigits : Option Nat) (allowZeros : Bool) (cs : List Char) :
    Option (Nat × List Char) := do
  let isDigit (c : Char) : Bool := (Text.hexValue? c).any (· < radix)
  let digits := cs.takeWhile isDigit
  guard (digits ≠ [] ∧ maxDigits.all (digits.length ≤ ·))
  guard (allowZeros ∨ digits.length = 1 ∨ digits.head? ≠ some '0')
  let value := digits.foldl (fun n c => n * radix + (Text.hexValue? c).getD 0) 0
  guard (value < limit)
  return (value, cs.dropWhile isDigit)

def dotted? (cs : List Char) : Option ((UInt8 × UInt8 × UInt8 × UInt8) × List Char) := do
  let octet := number? 10 256 (some 3) false
  let (a, cs) ← octet cs
  let (b, cs) ← char? '.' cs >>= octet
  let (c, cs) ← char? '.' cs >>= octet
  let (d, cs) ← char? '.' cs >>= octet
  return ((UInt8.ofNat a, UInt8.ofNat b, UInt8.ofNat c, UInt8.ofNat d), cs)

/-- Takes groups off the front, at most a number of them and each after the first with a colon. Four
bytes in dots stand for the last two groups; whether they do is told too. -/
def groups (isFirst : Bool) : Nat → List Char → List UInt16 × Bool × List Char
  | 0, cs => ([], false, cs)
  | limit + 1, cs =>
    let start? := if isFirst then some cs else char? ':' cs
    -- four bytes take the room of two groups
    match (if limit = 0 then none else start? >>= dotted?) with
    | some ((a, b, c, d), rest) =>
      ([a.toUInt16 * 256 + b.toUInt16, c.toUInt16 * 256 + d.toUInt16], true, rest)
    | none =>
      match start? >>= number? 16 65536 (some 4) true with
      | some (group, rest) =>
        let (more, hasDots, rest) := groups false limit rest
        (UInt16.ofNat group :: more, hasDots, rest)
      | none => ([], false, cs)

/-- Takes the eight groups of an address off the front; two colons stand for a run of zeros. -/
def eightGroups? (cs : List Char) : Option (List UInt16 × List Char) := do
  let (head, hasDots, rest) := groups true 8 cs
  if head.length = 8 then return (head, rest)
  guard (!hasDots)
  let rest ← char? ':' rest >>= char? ':'
  -- the colons stand for one group at least
  let (tail, _, rest) := groups true (7 - head.length) rest
  return (head ++ List.replicate (8 - head.length - tail.length) 0 ++ tail, rest)

/-- Takes a colon and a port off the front, and expects nothing after it. -/
def isPort (cs : List Char) : Bool :=
  match char? ':' cs >>= number? 10 65536 none true with
  | some (_, []) => true
  | _ => false

/-- Takes the scope of an address off the front, if there is one. -/
def skipScope? (cs : List Char) : Option (List Char) :=
  match char? '%' cs with
  | some rest => (number? 10 UInt32.size none true rest).map (·.2)
  | none => some cs

namespace Address

def ofDottedSocket? (cs : List Char) : Option Address := do
  let ((a, b, c, d), rest) ← dotted? cs
  guard (isPort rest)
  return .v4 a b c d

def ofBracketSocket? (cs : List Char) : Option Address := do
  let (groups, rest) ← char? '[' cs >>= eightGroups?
  let rest ← skipScope? rest >>= char? ']'
  guard (isPort rest)
  return .v6 groups

def ofSocket? (cs : List Char) : Option Address := (ofDottedSocket? cs).or (ofBracketSocket? cs)

/-- Four bytes in dots. -/
def dots (a b c d : UInt8) : List Char :=
  ['.'].intercalate ([a, b, c, d].map fun x => Text.Decimal.digits x.toNat)

/-- Groups with colons between them. -/
def colons (groups : List UInt16) : List Char :=
  [':'].intercalate (groups.map fun g => Nat.toDigits 16 g.toNat)

/-- The length of the run of zeros at the front. -/
def zerosAtFront (groups : List UInt16) : Nat := (groups.takeWhile (· = 0)).length

/-- The place and length of the longest run of zeros, the first of several. -/
def longestZeros (groups : List UInt16) : Nat × Nat :=
  (List.range groups.length).foldl (fun best i =>
    let n := zerosAtFront (groups.drop i)
    if best.2 < n then (i, n) else best) (0, 0)

/-- The text of an address. -/
def text : Address → String
  | .v4 a b c d => String.ofList (dots a b c d)
  | .v6 [0, 0, 0, 0, 0, 0xFFFF, x, y] =>
    "::ffff:" ++ String.ofList
      (dots (x >>> 8).toUInt8 x.toUInt8 (y >>> 8).toUInt8 y.toUInt8)
  | .v6 groups =>
    let (start, length) := longestZeros groups
    String.ofList <|
      if 1 < length then
        colons (groups.take start) ++ [':', ':'] ++ colons (groups.drop (start + length))
      else colons groups

end Address
end Bearer.Net
