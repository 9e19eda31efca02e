import Bearer.Refusal
import Bearer.Text.Blank
import Bearer.Text.LowerCase

/-!
# What to do during an outage

When the shared store gives no answer, a check either lets the request through or refuses it.
-/

namespace Bearer

/-- What a check does when the store gives no answer. -/
inductive OutagePolicy where
  /-- Let the request through. -/
  | failOpen
  /-- Refuse the request. -/
  | failClosed
  deriving DecidableEq, Repr

namespace OutagePolicy

/-- The name of a policy. -/
def name : OutagePolicy → String
  | failOpen => "fail_open"
  | failClosed => "fail_closed"

/-- Reads a policy's name; blanks around it and the case of ASCII letters do not count. -/
def ofText? (text : String) : Except Refusal OutagePolicy :=
  let word := String.ofList (Text.lowerAscii (Text.trimChars text.toList))
  if word = "fail_open" ∨ word = "open" then .ok failOpen
  else if word = "fail_closed" ∨ word = "closed" then .ok failClosed
  else .error (.configuration
    ("unknown failure mode '" ++ word ++ "', expected fail_open or fail_closed"))

end OutagePolicy
end Bearer
