import Bearer.Text.Blank
import Bearer.Text.Decimal
import Bearer.Text.Quoted

/-!
# Reading variables

Settings come from named variables whose values are bytes. A value that is needed has to be there
and to be text. A value that is not needed is read without the blanks around it, and has to be well
formed if it is there as text; otherwise its default holds.
-/

namespace Bearer

abbrev Environment := List (String × Bytes)

namespace Settings

/-- Why a variable has no text. -/
inductive Unreadable where
  /-- It is not set. -/
  | unset
  /-- Its bytes are no text. -/
  | noText (bytes : Bytes)
  deriving DecidableEq, Repr

/-- How it is worded. -/
def Unreadable.message : Unreadable → String
  | .unset => "environment variable not found"
  | .noText bytes => "environment variable was not valid unicode: " ++ Text.Quoted.quote bytes

/-- What is wrong with settings. -/
inductive Fault where
  /-- A variable that is needed has no text. -/
  | missing (name : String) (cause : Unreadable)
  /-- The value of a variable is malformed. -/
  | malformed (name cause : String)
  /-- The signing secret is refused. -/
  | rejectedSecret (cause : String)
  /-- A number has to be greater than zero. -/
  | zero (name : String)
  /-- A number of seconds is above its limit. -/
  | tooMany (name : String) (limit : Nat)
  deriving DecidableEq, Repr

/-- How a fault is worded, with its cause last. -/
def Fault.chain : Fault → List String
  | .missing name cause => [name ++ " must be set", cause.message]
  | .malformed name cause => ["Invalid " ++ name, cause]
  | .rejectedSecret cause => ["JWT_SECRET rejected", cause]
  | .zero name => [name ++ " must be greater than zero"]
  | .tooMany name limit =>
    [name ++ " must be at most " ++ String.ofList (Text.Decimal.digits limit) ++ " seconds"]

end Settings

namespace Environment

open Settings

/-- The text of a variable. -/
def text? (env : Environment) (name : String) : Except Unreadable String :=
  match env.lookup name with
  | none => .error .unset
  | some bytes =>
    match Text.ofUtf8? bytes with
    | some text => .ok text
    | none => .error (.noText bytes)

/-- The text of a variable that is needed. -/
def required (env : Environment) (name : String) : Except Fault String :=
  (env.text? name).mapError (.missing name)

/-- The value of a variable that is not needed, or its default. -/
def optional (env : Environment) (name : String) (read : List Char → Except String α)
    (default : α) : Except Fault α :=
  match env.text? name with
  | .ok text => (read (Text.trimChars text.toList)).mapError (.malformed name)
  | .error _ => .ok default

/-- The text of a variable that is not needed, as it is, or its default. -/
def textOr (env : Environment) (name default : String) : String :=
  match env.text? name with
  | .ok text => text
  | .error _ => default

/-- Reads a number below a limit. -/
def readNumber (limit : Nat) (cs : List Char) : Except String Nat :=
  (Text.Decimal.unsigned? limit cs).mapError (·.message)

/-- Reads a truth value. -/
def readBool (cs : List Char) : Except String Bool :=
  if cs = "true".toList then .ok true
  else if cs = "false".toList then .ok false
  else .error "provided string was not `true` or `false`"

end Environment
end Bearer
