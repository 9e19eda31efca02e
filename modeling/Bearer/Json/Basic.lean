import Bearer.Text.Bytes

/-!
# JSON values

A value as it was read or is to be written. The members of an object keep their order and may
repeat. Numbers are kept apart by their form: a number without fraction and exponent is an integer
of any size, every other number keeps its text. The content of a string is a sequence of bytes,
which is legible when those bytes are a text; an escape for half of a surrogate pair stands there as
three bytes that are none.
-/

namespace Bearer

/-- A JSON value. -/
inductive Json where
  /-- The value `null`. -/
  | null
  /-- A truth value. -/
  | bool (value : Bool)
  /-- A number without fraction and exponent; minus zero is not among them. -/
  | int (value : Int)
  /-- Any other number, as it was written. -/
  | real (lexeme : Bytes)
  /-- A string with its content. -/
  | string (content : Bytes)
  /-- An array with its items. -/
  | array (items : List Json)
  /-- An object with its members in order. -/
  | object (members : List (Bytes × Json))
  deriving Repr

namespace Json

def text (s : String) : Json := .string (Text.utf8 s)

def member (name : String) (value : Json) : Bytes × Json := (Text.utf8 name, value)

/-- The text of a legible string. -/
def text? : Json → Option String
  | .string content => Text.ofUtf8? content
  | _ => none

/-- Whether the value is a container. -/
def isContainer : Json → Bool
  | .array _ | .object _ => true
  | _ => false

@[simp]
theorem text?_text (s : String) : (text s).text? = some s := by
  simp [text, text?]

end Json
end Bearer
