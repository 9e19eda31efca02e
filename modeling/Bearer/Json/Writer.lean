import Bearer.Json.Basic
import Bearer.Text.Decimal

/-!
# Writing JSON

The compact form: no blanks, members in order. In strings a quote, a backslash and the control
characters are escaped, five of them by a letter and the others by four hexadecimal digits; every
other byte stands for itself.
-/

namespace Bearer.Json

/-- How one byte of a string is written. -/
def escapeByte (b : UInt8) : Bytes :=
  if b = 0x22 then Text.utf8 "\\\""
  else if b = 0x5C then Text.utf8 "\\\\"
  else if b = 0x08 then Text.utf8 "\\b"
  else if b = 0x0C then Text.utf8 "\\f"
  else if b = 0x0A then Text.utf8 "\\n"
  else if b = 0x0D then Text.utf8 "\\r"
  else if b = 0x09 then Text.utf8 "\\t"
  else if b < 0x20 then Text.utf8 "\\u00" ++ (Text.hex [b]).map Char.toUInt8
  else [b]

/-- A string with its quotes. -/
def writeString (content : Bytes) : Bytes :=
  0x22 :: (content.flatMap escapeByte ++ [0x22])

mutual

/-- The compact form of a value. -/
def write : Json → Bytes
  | .null => Text.utf8 "null"
  | .bool true => Text.utf8 "true"
  | .bool false => Text.utf8 "false"
  | .int n => (Text.Decimal.ofInt n).map Char.toUInt8
  | .real lexeme => lexeme
  | .string content => writeString content
  | .array [] => Text.utf8 "[]"
  | .array (item :: items) => 0x5B :: (write item ++ writeItems items)
  | .object [] => Text.utf8 "\x7b\x7d"
  | .object ((name, value) :: members) =>
    0x7B :: (writeString name ++ 0x3A :: (write value ++ writeMembers members))

/-- The items after the first, each after a comma, and the closing bracket. -/
def writeItems : List Json → Bytes
  | [] => [0x5D]
  | item :: items => 0x2C :: (write item ++ writeItems items)

/-- The members after the first, each after a comma, and the closing brace. -/
def writeMembers : List (Bytes × Json) → Bytes
  | [] => [0x7D]
  | (name, value) :: members =>
    0x2C :: (writeString name ++ 0x3A :: (write value ++ writeMembers members))

end

end Bearer.Json
