import Bearer.Digest.Sha256

/-!
# Keyed digests

HMAC over SHA-256: the key is brought to the length of one block and mixed into an inner and an
outer digest.
-/

namespace Bearer.Digest

/-- The length of a block of the digest, in bytes. -/
def blockLength : Nat := 64

/-- The key brought to the length of one block; a longer key is digested first. -/
def blockKey (key : Bytes) : Bytes :=
  let key := if key.length > blockLength then Sha256.digest key else key
  key ++ List.replicate (blockLength - key.length) 0

/-- The keyed digest of a message. -/
def hmac (key message : Bytes) : Bytes :=
  let block := blockKey key
  Sha256.digest (block.map (· ^^^ 0x5c) ++ Sha256.digest (block.map (· ^^^ 0x36) ++ message))

end Bearer.Digest
