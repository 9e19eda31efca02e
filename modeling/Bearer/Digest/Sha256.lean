import Bearer.Digest.Words

/-!
# SHA-256

The message is padded to blocks of sixty-four bytes. Each block is expanded to sixty-four words,
which sixty-four rounds mix into a state of eight words.
-/

namespace Bearer.Digest.Sha256

/-- The eight working words. -/
structure State where
  a : UInt32
  b : UInt32
  c : UInt32
  d : UInt32
  e : UInt32
  f : UInt32
  g : UInt32
  h : UInt32

/-- The state before the first block. -/
def State.start : State :=
  ⟨0x6a09e667, 0xbb67ae85, 0x3c6ef372, 0xa54ff53a, 0x510e527f, 0x9b05688c, 0x1f83d9ab, 0x5be0cd19⟩

/-- The constant added in each round. -/
def roundConstants : List UInt32 :=
  [0x428a2f98, 0x71374491, 0xb5c0fbcf, 0xe9b5dba5, 0x3956c25b, 0x59f111f1, 0x923f82a4, 0xab1c5ed5,
   0xd807aa98, 0x12835b01, 0x243185be, 0x550c7dc3, 0x72be5d74, 0x80deb1fe, 0x9bdc06a7, 0xc19bf174,
   0xe49b69c1, 0xefbe4786, 0x0fc19dc6, 0x240ca1cc, 0x2de92c6f, 0x4a7484aa, 0x5cb0a9dc, 0x76f988da,
   0x983e5152, 0xa831c66d, 0xb00327c8, 0xbf597fc7, 0xc6e00bf3, 0xd5a79147, 0x06ca6351, 0x14292967,
   0x27b70a85, 0x2e1b2138, 0x4d2c6dfc, 0x53380d13, 0x650a7354, 0x766a0abb, 0x81c2c92e, 0x92722c85,
   0xa2bfe8a1, 0xa81a664b, 0xc24b8b70, 0xc76c51a3, 0xd192e819, 0xd6990624, 0xf40e3585, 0x106aa070,
   0x19a4c116, 0x1e376c08, 0x2748774c, 0x34b0bcb5, 0x391c0cb3, 0x4ed8aa4a, 0x5b9cca4f, 0x682e6ff3,
   0x748f82ee, 0x78a5636f, 0x84c87814, 0x8cc70208, 0x90befffa, 0xa4506ceb, 0xbef9a3f7, 0xc67178f2]

/-- A word rotated right by a number of bits between 1 and 31. -/
def rotateRight (x : UInt32) (bits : UInt32) : UInt32 := (x >>> bits) ||| (x <<< (32 - bits))

/-- The word that follows sixteen words of the expanded message. -/
def nextWord (window : List UInt32) : UInt32 :=
  let first := window.getD 1 0
  let last := window.getD 14 0
  let low := rotateRight first 7 ^^^ rotateRight first 18 ^^^ (first >>> 3)
  let high := rotateRight last 17 ^^^ rotateRight last 19 ^^^ (last >>> 10)
  window.getD 0 0 + low + window.getD 9 0 + high

/-- One round, with its constant and its word of the expanded message. -/
def State.round (s : State) (constant word : UInt32) : State :=
  let upper := rotateRight s.e 6 ^^^ rotateRight s.e 11 ^^^ rotateRight s.e 25
  let choice := (s.e &&& s.f) ^^^ (~~~ s.e &&& s.g)
  let t := s.h + upper + choice + constant + word
  let lower := rotateRight s.a 2 ^^^ rotateRight s.a 13 ^^^ rotateRight s.a 22
  let majority := (s.a &&& s.b) ^^^ (s.a &&& s.c) ^^^ (s.b &&& s.c)
  ⟨t + lower + majority, s.a, s.b, s.c, s.d + t, s.e, s.f, s.g⟩

/-- All rounds; the sixteen words of the window move along the expanded message. -/
def State.rounds (s : State) : List UInt32 → List UInt32 → State
  | [], _ => s
  | constant :: constants, window =>
    (s.round constant (window.headD 0)).rounds constants (window.tail ++ [nextWord window])

/-- The state after one block of sixteen words. -/
def State.absorb (s : State) (block : List UInt32) : State :=
  let t := s.rounds roundConstants block
  ⟨s.a + t.a, s.b + t.b, s.c + t.c, s.d + t.d, s.e + t.e, s.f + t.f, s.g + t.g, s.h + t.h⟩

/-- Absorbs words block by block. -/
def State.absorbAll (s : State) (words : List UInt32) : State :=
  match words with
  | [] => s
  | w :: ws => (s.absorb ((w :: ws).take 16)).absorbAll (ws.drop 15)
  termination_by words.length
  decreasing_by simp only [List.length_drop, List.length_cons]; omega

/-- The digest of a message, thirty-two bytes. -/
def digest (message : Bytes) : Bytes :=
  let s := State.start.absorbAll (toWords (padded message))
  [s.a, s.b, s.c, s.d, s.e, s.f, s.g, s.h].flatMap ofWord

end Bearer.Digest.Sha256
