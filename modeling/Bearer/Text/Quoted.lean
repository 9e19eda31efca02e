import Bearer.Text.Bytes
import Bearer.Text.Quoted.Table

/-!
# Quoting bytes for a reader

How bytes that should have been text are shown in a message: between quotes, text as it is where it
has a visible form, escapes for quotes, backslashes and controls, other characters without a visible
form by number, and every byte that belongs to no character as two hexadecimal digits.
-/

namespace Bearer.Text.Quoted

/-- How one character is shown. -/
def showChar (c : Char) : List Char :=
  if c = Char.ofNat 0 then ['\\', '0']
  else if c = '\t' then ['\\', 't']
  else if c = '\r' then ['\\', 'r']
  else if c = '\n' then ['\\', 'n']
  else if c = Char.ofNat 0x27 ∨ c = '"' ∨ c = '\\' then ['\\', c]
  else if isUnmarked c then
    ['\\', 'u', Char.ofNat 0x7B] ++ Nat.toDigits 16 c.toNat ++ [Char.ofNat 0x7D]
  else [c]

/-- How a byte that belongs to no character is shown. -/
def showByte (b : UInt8) : List Char :=
  ['\\', 'x', hexDigitUpper (b.toNat / 16), hexDigitUpper (b.toNat % 16)]

/-- The character that the first bytes spell, with its number of bytes. -/
def firstChar? (bytes : Bytes) : Option (Char × Nat) :=
  [1, 2, 3, 4].findSome? fun n =>
    match (ofUtf8? (bytes.take n)).map String.toList with
    | some [c] => some (c, n)
    | _ => none

/-- How the bytes between the quotes are shown. -/
def content (bytes : Bytes) : List Char :=
  match bytes with
  | [] => []
  | b :: rest =>
    match firstChar? (b :: rest) with
    -- the first byte of the character is gone already
    | some (c, n) => showChar c ++ content (rest.drop (n - 1))
    | none => showByte b ++ content rest
  termination_by bytes.length

def quote (bytes : Bytes) : String := String.ofList ('"' :: (content bytes ++ ['"']))

end Bearer.Text.Quoted
