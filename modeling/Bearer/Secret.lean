import Bearer.Base64
import Bearer.Refusal
import Bearer.Secret.Entropy

/-!
# Signing secrets

A secret signs every token, so a weak one is refused before anything is signed with it. It needs at
least thirty-two bytes, an entropy that is not computed to less than four bits a byte, and no four
bytes in a row that are equal or that count upwards. A `Secret` carries the proof that its bytes
passed.
-/

namespace Bearer

/-- What is wrong with a weak secret. -/
inductive Weakness where
  | short
  | lowEntropy
  | runs
  deriving DecidableEq, Repr

/-- How a weakness is worded. -/
def Weakness.message : Weakness → String
  | .short => "secret must be at least 32 bytes"
  | .lowEntropy => "secret entropy is too low"
  | .runs => "secret contains repeated or sequential runs"

/-- How good a candidate for a secret is. -/
inductive Strength where
  | weak (weakness : Weakness)
  | acceptable
  | strong
  deriving DecidableEq, Repr

namespace Secret

def minLength : Nat := 32

/-- The length from which a secret can count as strong, in bytes. -/
def strongLength : Nat := 64

/-- How many bytes in a row are a run. -/
def runLength : Nat := 4

/-- Whether a run is complete somewhere in bytes that follow `last`, when so many bytes up to `last`
are equal and so many count upwards. -/
def completesRun (last : UInt8) (equal ascending : Nat) : Bytes → Bool
  | [] => false
  | byte :: rest =>
    let equal := if last = byte then equal + 1 else 1
    let ascending := if last.toNat + 1 = byte.toNat then ascending + 1 else 1
    runLength ≤ equal || runLength ≤ ascending || completesRun byte equal ascending rest

/-- Whether four bytes in a row are equal, or each is one more than the one before. -/
def hasRun : Bytes → Bool
  | [] => false
  | first :: rest => completesRun first 1 1 rest

/-- What makes bytes unfit for a secret; the length is looked at first, then the entropy. -/
def weakness? (bytes : Bytes) : Option Weakness :=
  if bytes.length < minLength then some .short
  else if entropyBelow 4 bytes then some .lowEntropy
  else if hasRun bytes then some .runs
  else none

/-- How good bytes are as a secret. -/
def strength (bytes : Bytes) : Strength :=
  match weakness? bytes with
  | some weakness => .weak weakness
  | none => if strongLength ≤ bytes.length && !entropyBelow 5 bytes then .strong else .acceptable

end Secret

/-- Bytes that are fit to sign with. -/
structure Secret where
  bytes : Bytes
  /-- Nothing is wrong with them. -/
  fit : Secret.weakness? bytes = none

namespace Secret

/-- The secret of some bytes, unless they are weak. -/
def ofBytes? (bytes : Bytes) : Except Refusal Secret :=
  match h : weakness? bytes with
  | some weakness => .error (.weakSecret weakness.message)
  | none => .ok ⟨bytes, h⟩

def redacted : String := "SigningSecret(<redacted>)"

/-- A text that is meant to serve as a secret, made of random bytes; too few are refused, and so is
a source that gives none. -/
def provision? (length : Nat) (random? : Option (Vector UInt8 length)) : Except Refusal String :=
  if length < minLength then
    .error (.configuration "secret length must be at least 32 bytes")
  else match random? with
    | none => .error (.internal "failed to generate random bytes")
    | some random => .ok (String.ofList (Base64.encodePadded Base64.standard random.toList))

/-- The secret that is made of bytes is the one that has just these bytes. -/
theorem ofBytes?_eq_ok_iff {bytes : Bytes} {secret : Secret} :
    ofBytes? bytes = .ok secret ↔ secret.bytes = bytes := by
  constructor
  · intro h
    unfold ofBytes? at h
    split at h
    · cases h
    · cases h
      rfl
  · rintro rfl
    unfold ofBytes?
    split
    · next w h => simp [secret.fit] at h
    · rfl

end Secret
end Bearer
