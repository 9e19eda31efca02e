import Bearer.Text.Bytes

/-!
# BLAKE2b

A digest of one to sixty-four bytes. Blocks of 128 bytes are mixed into eight words; words are
little-endian, and the last block is marked. The input is counted up to `2 ^ 64` bytes.
-/

namespace Bearer.Digest.Blake2b

/-- The words that the state starts from. -/
def initial : Array UInt64 :=
  #[0x6a09e667f3bcc908, 0xbb67ae8584caa73b, 0x3c6ef372fe94f82b, 0xa54ff53a5f1d36f1,
    0x510e527fade682d1, 0x9b05688c2b3e6c1f, 0x1f83d9abfb41bd6b, 0x5be0cd19137e2179]

/-- The order in which each round takes up the words of a block. -/
def schedule : List (List Nat) :=
  [[0, 1, 2, 3, 4, 5, 6, 7, 8, 9, 10, 11, 12, 13, 14, 15],
   [14, 10, 4, 8, 9, 15, 13, 6, 1, 12, 0, 2, 11, 7, 5, 3],
   [11, 8, 12, 0, 5, 2, 15, 13, 10, 14, 3, 6, 7, 1, 9, 4],
   [7, 9, 3, 1, 13, 12, 11, 14, 2, 6, 5, 10, 4, 0, 15, 8],
   [9, 0, 5, 7, 2, 4, 10, 15, 14, 1, 11, 12, 6, 8, 3, 13],
   [2, 12, 6, 10, 0, 11, 8, 3, 4, 13, 7, 5, 15, 14, 1, 9],
   [12, 5, 1, 15, 14, 13, 4, 10, 0, 7, 6, 3, 9, 2, 8, 11],
   [13, 11, 7, 14, 12, 1, 3, 9, 5, 0, 15, 4, 8, 6, 2, 10],
   [6, 15, 14, 9, 11, 3, 0, 8, 12, 2, 13, 7, 1, 4, 10, 5],
   [10, 2, 8, 4, 7, 6, 1, 5, 15, 11, 9, 14, 3, 12, 13, 0],
   [0, 1, 2, 3, 4, 5, 6, 7, 8, 9, 10, 11, 12, 13, 14, 15],
   [14, 10, 4, 8, 9, 15, 13, 6, 1, 12, 0, 2, 11, 7, 5, 3]]

/-- The places of the working vector that one round mixes, four columns and then four diagonals. -/
def places : List (Nat × Nat × Nat × Nat) :=
  [(0, 4, 8, 12), (1, 5, 9, 13), (2, 6, 10, 14), (3, 7, 11, 15),
   (0, 5, 10, 15), (1, 6, 11, 12), (2, 7, 8, 13), (3, 4, 9, 14)]

/-- A word rotated right by a number of bits between 1 and 63. -/
@[inline]
def rotateRight (x bits : UInt64) : UInt64 := (x >>> bits) ||| (x <<< (64 - bits))

/-- Mixes two words of the block into four words of the working vector. -/
def mix (v : Array UInt64) (place : Nat × Nat × Nat × Nat) (x y : UInt64) : Array UInt64 :=
  let (i, j, k, l) := place
  let a := v.getD i 0 + v.getD j 0 + x
  let d := rotateRight (v.getD l 0 ^^^ a) 32
  let c := v.getD k 0 + d
  let b := rotateRight (v.getD j 0 ^^^ c) 24
  let a := a + b + y
  let d := rotateRight (d ^^^ a) 16
  let c := c + d
  let b := rotateRight (b ^^^ c) 63
  (((v.setIfInBounds i a).setIfInBounds j b).setIfInBounds k c).setIfInBounds l d

/-- One round: takes up the words of the block in pairs. -/
def round (block v : Array UInt64) : List (Nat × Nat × Nat × Nat) → List Nat → Array UInt64
  | place :: places, x :: y :: order =>
    round block (mix v place (block.getD x 0) (block.getD y 0)) places order
  | _, _ => v

/-- The state after a block, with the number of bytes up to its end. -/
def absorb (state block : Array UInt64) (count : Nat) (isLast : Bool) : Array UInt64 :=
  let v := state ++ initial
  -- the count of bytes has two words, of which the upper one stays zero
  let v := v.setIfInBounds 12 (v.getD 12 0 ^^^ UInt64.ofNat count)
  let v := if isLast then v.setIfInBounds 14 (~~~ v.getD 14 0) else v
  let v := schedule.foldl (fun v order => round block v places order) v
  (Array.range 8).map fun i => state.getD i 0 ^^^ v.getD i 0 ^^^ v.getD (i + 8) 0

/-- Groups bytes into words, the least significant byte first; the last is filled with zeros. -/
def toWords : Bytes → List UInt64
  | a :: b :: c :: d :: e :: f :: g :: h :: rest =>
    word [a, b, c, d, e, f, g, h] :: toWords rest
  | [] => []
  | rest => [word rest]
where
  /-- The word of at most eight bytes. -/
  word (bytes : Bytes) : UInt64 := bytes.foldr (fun b w => (w <<< 8) ||| b.toUInt64) 0

/-- The eight bytes of a word, the least significant first. -/
def ofWord (w : UInt64) : Bytes :=
  (List.range 8).map fun i => (w >>> UInt64.ofNat (8 * i)).toUInt8

/-- The four bytes of a number below `2 ^ 32`, the least significant first. -/
def ofNat32 (n : Nat) : Bytes := (ofWord (UInt64.ofNat n)).take 4

/-- Absorbs a message of which `count` bytes have been absorbed already. -/
def absorbAll (state : Array UInt64) (count : Nat) (message : Bytes) : Array UInt64 :=
  if message.length ≤ 128 then absorb state (toWords message).toArray (count + message.length) true
  else absorbAll (absorb state (toWords (message.take 128)).toArray (count + 128) false)
    (count + 128) (message.drop 128)
  termination_by message.length
  decreasing_by simp only [List.length_drop]; omega

/-- The digest of a message, of a length between one and sixty-four bytes. -/
def digest (length : Nat) (message : Bytes) : Bytes :=
  -- the first word also tells the length of the digest, and that there is no key
  let start := initial.setIfInBounds 0 (initial.getD 0 0 ^^^ 0x01010000 ^^^ UInt64.ofNat length)
  ((absorbAll start 0 message).toList.flatMap ofWord).take length

end Bearer.Digest.Blake2b
