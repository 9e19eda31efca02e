import Bearer.Json.Basic

/-!
# Records and variants in JSON

A record is read from an object, whose members may come in any order and among others, but each
known name at most once; or from an array of exactly its fields in their order. A variant is read
from its name, or from an object whose only member has that name and is null.
-/

namespace Bearer.Json

/-- The values of the members with a name. -/
def valuesOf (name : Bytes) (members : List (Bytes × Json)) : List Json :=
  (members.filter (·.1 = name)).map (·.2)

/-- The value of a member that may be absent; refuses a name that occurs twice. -/
def atMostOne? (name : String) (members : List (Bytes × Json)) : Option (Option Json) :=
  match valuesOf (Text.utf8 name) members with
  | [] => some none
  | [value] => some (some value)
  | _ => none

/-- The fields of a record, each absent or given, in the order of their names. -/
def fields? (names : List String) : Json → Option (List (Option Json))
  | .object members =>
    if members.all fun m => (Text.ofUtf8? m.1).isSome then names.mapM (atMostOne? · members)
    else none
  | .array items => if items.length = names.length then some (items.map some) else none
  | _ => none

/-- The name of a variant without content. -/
def variant? : Json → Option String
  | .string name => Text.ofUtf8? name
  | .object [(name, .null)] => Text.ofUtf8? name
  | _ => none

/-- Reads a field that may be absent or null. -/
def optional? (read : Json → Option α) : Option Json → Option (Option α)
  | none | some .null => some none
  | some value => (read value).map some

/-- Reads an integer of sixty-four bits with sign. -/
def int64? : Json → Option Int64
  | .int n =>
    if Int64.minValue.toInt ≤ n ∧ n ≤ Int64.maxValue.toInt then some (Int64.ofInt n) else none
  | _ => none

/-- Reads an array whose items are all of one kind. -/
def listOf? (read : Json → Option α) : Json → Option (List α)
  | .array items => items.mapM read
  | _ => none

end Bearer.Json
