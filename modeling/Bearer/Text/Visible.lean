import Bearer.Text.Bytes

/-!
# Visible text in headers

The value of a header or of a metadata entry can be read as text only if every byte of it is a
visible ASCII character, a space or a tab.
-/

namespace Bearer.Text

/-- Whether a byte is a visible ASCII character, a space or a tab. -/
def isVisible (b : UInt8) : Bool := (0x20 ≤ b && b < 0x7F) || b = 0x09

/-- The text of a value that is visible throughout. -/
def visible? (bytes : Bytes) : Option String :=
  if bytes.all isVisible then some (String.ofList (bytes.map Char.ofUInt8)) else none

end Bearer.Text
