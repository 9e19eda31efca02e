import Bearer.Failure
import Bearer.Text.Blank
import Bearer.Text.LowerCase
import Bearer.Text.Split

/-!
# Email addresses

Users are found and attempts are counted by an address in one form: trimmed and in lower case. A
text is an address when it then has exactly one at sign, something on both sides of it, and no
blanks.
-/

namespace Bearer.Email

def fold (cs : List Char) : List Char := Text.lowerChars (Text.trimChars cs)

/-- Whether a folded text is an address. -/
def isAddress (cs : List Char) : Bool :=
  match Text.cut? '@' cs with
  | some (name, domain) =>
    !name.isEmpty && !domain.isEmpty && !domain.contains '@' && !cs.any Text.isBlank
  | none => false

/-- The one form of an address. -/
def normalize? (text : String) : Except Failure String :=
  let address := fold text.toList
  if isAddress address then .ok (String.ofList address)
  else .error (.validation "malformed email")

end Bearer.Email
