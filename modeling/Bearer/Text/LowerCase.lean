import Bearer.Text.LowerCase.Table
import Bearer.Text.LowerCase.Context

/-!
# Lower case

The lower case of a text by Unicode's rules. Most letters map to one letter each. A capital sigma
becomes the final sigma at the end of a word, that is after a cased letter and not before one,
characters that are passed over not counted, and the common small sigma elsewhere.
-/

namespace Bearer.Text.LowerCase

/-- The lower case of one character by itself. -/
def ofChar (c : Char) : List Char :=
  -- the capital i with a dot is the one letter that becomes two characters
  if c.toNat = 0x130 then ['i', Char.ofNat 0x307]
  else match runs.findSome? (·.lower? c.toNat) with
    | some n => [Char.ofNat n]
    | none => [c]

/-- Whether the first character that is not passed over is cased. -/
def meetsCased (cs : List Char) : Bool :=
  match cs.dropWhile isIgnored with
  | [] => false
  | c :: _ => isCased c

/-- The lower case of a capital sigma between two parts of a text; the part before it stands in
reverse. -/
def sigma (reversedBefore after : List Char) : Char :=
  if meetsCased reversedBefore && !meetsCased after then 'ς' else 'σ'

/-- The lower case of the rest of a text, after a part that stands in reverse. -/
def ofRest (reversedBefore : List Char) : List Char → List Char
  | [] => []
  | c :: cs =>
    (if c = 'Σ' then [sigma reversedBefore cs] else ofChar c) ++ ofRest (c :: reversedBefore) cs

end LowerCase

def lowerChars (cs : List Char) : List Char := LowerCase.ofRest [] cs

def lower (s : String) : String := String.ofList (lowerChars s.toList)

/-- The lower case of the ASCII letters; every other character stays. -/
def lowerAscii (cs : List Char) : List Char := cs.map Char.toLower

/-- The characters of a lower-case text are lowered characters. -/
@[simp]
theorem toList_lower (s : String) : (lower s).toList = lowerChars s.toList := by
  simp [lower]

end Bearer.Text
