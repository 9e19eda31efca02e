import Bearer.Text.LowerCase

/-!
# Media types

A media type is a type and a subtype with parameters after semicolons. The subtype may end in a
suffix after a plus sign. Bodies are read as JSON only if the subtype or its suffix says so.
-/

namespace Bearer.Http.MediaType

def isToken (c : Char) : Bool :=
  c.isAlphanum || "!#$%&*+-.^_|~".toList.contains c || c.toNat = 0x27 || c.toNat = 0x60

def isQuotable (c : Char) : Bool := 31 < c.toNat && c.toNat ≠ 127

/-- What follows a quoted value: blanks, then the end or the next parameter. -/
def afterQuoted? (cs : List Char) : Option (List Char) :=
  match cs.dropWhile (· = ' ') with
  | [] => some []
  | ';' :: rest => some rest
  | _ => none

/-- Skips a value up to the next parameter; a quoted value has at least one character. -/
def skipValue? : List Char → Option (List Char)
  | '"' :: c :: rest =>
    let inner := rest.takeWhile (· ≠ '"')
    if isQuotable c ∧ inner.all isQuotable then
      match rest.dropWhile (· ≠ '"') with
      | _ :: rest => afterQuoted? rest
      | [] => none
    else none
  | ['"'] => none
  | cs =>
    match cs.dropWhile isToken with
    | [] => some []
    | ';' :: rest => if (cs.takeWhile isToken).isEmpty then none else some rest
    | _ => none

/-- Whether what follows the semicolon of a media type is a list of parameters. The fuel is the
number of characters that may be left. -/
def areParameters : Nat → List Char → Bool
  | _, [] => true
  | 0, _ => false
  | fuel + 1, ' ' :: rest => areParameters fuel rest
  | fuel + 1, cs =>
    match cs.dropWhile isToken with
    | '=' :: rest =>
      if (cs.takeWhile isToken).isEmpty then false
      else match skipValue? rest with
        | some rest => areParameters fuel rest
        | none => false
    | _ => false

/-- The subtype of a media type, in lower case. -/
def subtype? (text : String) : Option (List Char) := do
  let cs := text.toList
  let type := cs.takeWhile isToken
  guard (type ≠ [])
  match cs.dropWhile isToken with
  | '/' :: rest =>
    let subtype := rest.takeWhile isToken
    match rest.dropWhile isToken with
    | [] => return Text.lowerAscii subtype
    -- a semicolon may end the type, but then the subtype has to be there
    | ';' :: parameters =>
      guard (subtype ≠ [] ∧ areParameters parameters.length parameters)
      return Text.lowerAscii subtype
    | _ => none
  | _ => none

def json : List Char := "json".toList

/-- Splits a suffix off a subtype, at the last plus sign that is not its first character. -/
def splitSuffix (subtype : List Char) : List Char × Option (List Char) :=
  match subtype with
  | [] => ([], none)
  | c :: rest =>
    if rest.contains '+' then
      let suffix := (rest.reverse.takeWhile (· ≠ '+')).reverse
      (c :: (rest.reverse.dropWhile (· ≠ '+')).drop 1 |>.reverse, some suffix)
    else (subtype, none)

/-- Whether a media type says that the body is JSON. -/
def isJson (text : String) : Bool :=
  match subtype? text with
  | some subtype =>
    let (name, suffix?) := splitSuffix subtype
    name = json || suffix? = some json
  | none => false

end Bearer.Http.MediaType
