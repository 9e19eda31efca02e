import Bearer.Digest.Words

/-!
# SHA-1

Used only as a name for a script that a remote store keeps, never for security. Words, padding and
byte order are those of SHA-256.
-/

namespace Bearer.Digest.Sha1

/-- The five working words. -/
structure State where
  a : UInt32
  b : UInt32
  c : UInt32
  d : UInt32
  e : UInt32

def State.start : State := ⟨0x67452301, 0xefcdab89, 0x98badcfe, 0x10325476, 0xc3d2e1f0⟩

/-- A word rotated left by a number of bits between 1 and 31. -/
def rotateLeft (x : UInt32) (bits : UInt32) : UInt32 := (x <<< bits) ||| (x >>> (32 - bits))

/-- The word that follows sixteen words of the expanded message. -/
def nextWord (window : List UInt32) : UInt32 :=
  rotateLeft (window.getD 13 0 ^^^ window.getD 8 0 ^^^ window.getD 2 0 ^^^ window.getD 0 0) 1

/-- The mixing function and the constant of a round. -/
def State.mix (s : State) (round : Nat) : UInt32 :=
  if round < 20 then ((s.b &&& s.c) ||| (~~~ s.b &&& s.d)) + 0x5a827999
  else if round < 40 then (s.b ^^^ s.c ^^^ s.d) + 0x6ed9eba1
  else if round < 60 then ((s.b &&& s.c) ||| (s.b &&& s.d) ||| (s.c &&& s.d)) + 0x8f1bbcdc
  else (s.b ^^^ s.c ^^^ s.d) + 0xca62c1d6

/-- The rounds that are left of eighty. -/
def State.rounds (s : State) : Nat → List UInt32 → State
  | 0, _ => s
  | left + 1, window =>
    let t := rotateLeft s.a 5 + s.mix (79 - left) + s.e + window.headD 0
    State.rounds ⟨t, s.a, rotateLeft s.b 30, s.c, s.d⟩ left (window.tail ++ [nextWord window])

/-- The state after one block of sixteen words. -/
def State.absorb (s : State) (block : List UInt32) : State :=
  let t := s.rounds 80 block
  ⟨s.a + t.a, s.b + t.b, s.c + t.c, s.d + t.d, s.e + t.e⟩

/-- Absorbs words block by block. -/
def State.absorbAll (s : State) (words : List UInt32) : State :=
  match words with
  | [] => s
  | w :: ws => (s.absorb ((w :: ws).take 16)).absorbAll (ws.drop 15)
  termination_by words.length
  decreasing_by simp only [List.length_drop, List.length_cons]; omega

/-- The digest of a message, twenty bytes. -/
def digest (message : Bytes) : Bytes :=
  let s := State.start.absorbAll (toWords (padded message))
  [s.a, s.b, s.c, s.d, s.e].flatMap ofWord

end Bearer.Digest.Sha1
