import Bearer.Password.HashString

/-!
# Checking passwords

A password is checked against the stored text of a hash; a text that is no hash matches no password.
An unknown identity is checked against nothing, which never matches either.
-/

namespace Bearer.Password

/-- Whether a password matches a stored hash. -/
def verify (password stored : String) : Bool :=
  match HashString.ofChars? stored.toList with
  | some hash => hash.params.digest (Text.utf8 password) hash.salt = hash.digest
  | none => false

/-- Whether a password matches what is stored for an identity, if anything is. -/
def verifyStored (password : String) : Option String → Bool
  | some stored => verify password stored
  | none => false

/-- The length of the digest in a new hash, in bytes. -/
def digestLength : Nat := 32

/-- The text to store for a password; the salt has to be random. -/
def hash (salt : Bytes) (password : String) : String :=
  let params := HashString.defaults .id .v19 digestLength
  String.ofList (HashString.write salt (params.digest (Text.utf8 password) salt))

end Bearer.Password
