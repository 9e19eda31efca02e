import Bearer.Digest.Blake2b

/-!
# Argon2

The password is digested into the first blocks of several lanes of memory, and every further block
is mixed from the one before it and from one that is chosen along the way. The memory is filled in
passes, each pass in four slices; within a slice no lane looks at the part of another lane that is
being filled, so the lanes may be filled one after the other.

The three variants differ in how a block is chosen: from the block before (`d`), from a counter
(`i`), or from a counter in the first half of the first pass and from the block before after that
(`id`).
-/

namespace Bearer.Password.Argon2

/-- How the blocks to mix are chosen. -/
inductive Variant where
  | d
  | i
  | id
  deriving DecidableEq, Repr

/-- The number that stands for a variant. -/
def Variant.number : Variant → Nat
  | .d => 0
  | .i => 1
  | .id => 2

/-- The versions of the algorithm. -/
inductive Version where
  /-- Later passes replace blocks. -/
  | v16
  /-- Later passes mix into blocks. -/
  | v19
  deriving DecidableEq, Repr

/-- The number that stands for a version. -/
def Version.number : Version → Nat
  | .v16 => 16
  | .v19 => 19

/-- What a digest costs and how long it is. -/
structure Params where
  variant : Variant
  version : Version
  /-- The memory in blocks of 1024 bytes. -/
  memory : Nat
  /-- The number of passes. -/
  passes : Nat
  /-- The number of lanes. -/
  lanes : Nat
  /-- Data that the digest is bound to besides password and salt. -/
  data : Bytes
  /-- The length of the digest in bytes. -/
  length : Nat

abbrev Block := Array UInt64

def zeroBlock : Block := Array.replicate 128 0

/-- The sum of two words and of twice the product of their lower halves. -/
@[inline]
def addProduct (x y : UInt64) : UInt64 := x + y + 2 * (x &&& 0xFFFFFFFF) * (y &&& 0xFFFFFFFF)

/-- Four words that are mixed together. -/
structure Quad where
  a : UInt64
  b : UInt64
  c : UInt64
  d : UInt64

/-- Mixes four words. -/
@[inline]
def Quad.mix (q : Quad) : Quad :=
  let a := addProduct q.a q.b
  let d := Digest.Blake2b.rotateRight (q.d ^^^ a) 32
  let c := addProduct q.c d
  let b := Digest.Blake2b.rotateRight (q.b ^^^ c) 24
  let a := addProduct a b
  let d := Digest.Blake2b.rotateRight (d ^^^ a) 16
  let c := addProduct c d
  let b := Digest.Blake2b.rotateRight (b ^^^ c) 63
  ⟨a, b, c, d⟩

/-- Mixes sixteen words of a block, which stand in pairs at equal distances. -/
def permute (block : Block) (start stride : Nat) : Block :=
  let at' (k : Nat) : UInt64 := block.getD (start + k / 2 * stride + k % 2) 0
  let c0 := Quad.mix ⟨at' 0, at' 4, at' 8, at' 12⟩
  let c1 := Quad.mix ⟨at' 1, at' 5, at' 9, at' 13⟩
  let c2 := Quad.mix ⟨at' 2, at' 6, at' 10, at' 14⟩
  let c3 := Quad.mix ⟨at' 3, at' 7, at' 11, at' 15⟩
  let d0 := Quad.mix ⟨c0.a, c1.b, c2.c, c3.d⟩
  let d1 := Quad.mix ⟨c1.a, c2.b, c3.c, c0.d⟩
  let d2 := Quad.mix ⟨c2.a, c3.b, c0.c, c1.d⟩
  let d3 := Quad.mix ⟨c3.a, c0.b, c1.c, c2.d⟩
  let put (b : Block) (k : Nat) (x : UInt64) : Block :=
    b.setIfInBounds (start + k / 2 * stride + k % 2) x
  let block := put (put (put (put block 0 d0.a) 1 d1.a) 2 d2.a) 3 d3.a
  let block := put (put (put (put block 4 d3.b) 5 d0.b) 6 d1.b) 7 d2.b
  let block := put (put (put (put block 8 d2.c) 9 d3.c) 10 d0.c) 11 d1.c
  put (put (put (put block 12 d1.d) 13 d2.d) 14 d3.d) 15 d0.d

def Block.xor (x y : Block) : Block := Array.zipWith (· ^^^ ·) x y

/-- Mixes two blocks: their combination is permuted by rows and then by columns. -/
def Block.mix (x y : Block) : Block :=
  let combined := x.xor y
  let rows := (List.range 8).foldl (fun b i => permute b (16 * i) 2) combined
  let columns := (List.range 8).foldl (fun b i => permute b (2 * i) 16) rows
  combined.xor columns

/-- Half a digest after the other, to the wanted length. -/
def lengthen (digest : Bytes) : Nat → Bytes
  | length =>
    if length ≤ 64 then Digest.Blake2b.digest length digest
    else
      let next := Digest.Blake2b.digest 64 digest
      next.take 32 ++ lengthen next (length - 32)

/-- A digest of any length. -/
def longDigest (length : Nat) (message : Bytes) : Bytes :=
  lengthen (Digest.Blake2b.ofNat32 length ++ message) length

namespace Params

/-- The number of blocks in a quarter of a lane. -/
def segment (p : Params) : Nat := p.memory / (4 * p.lanes)

def lane (p : Params) : Nat := 4 * p.segment

/-- The digest of password, salt and all parameters that everything starts from. -/
def seed (p : Params) (password salt : Bytes) : Bytes :=
  let number := Digest.Blake2b.ofNat32
  let counted (bytes : Bytes) : Bytes := number bytes.length ++ bytes
  Digest.Blake2b.digest 64
    (number p.lanes ++ number p.length ++ number p.memory ++ number p.passes ++
      number p.version.number ++ number p.variant.number ++ counted password ++ counted salt ++
      number 0 ++ counted p.data)

/-- The memory before the first pass: each lane has its first two blocks. -/
def start (p : Params) (seed : Bytes) : Array Block :=
  (List.range p.lanes).foldl (fun memory lane =>
    (List.range 2).foldl (fun memory column =>
      let digest := longDigest 1024
        (seed ++ Digest.Blake2b.ofNat32 column ++ Digest.Blake2b.ofNat32 lane)
      memory.setIfInBounds (lane * p.lane + column) (Digest.Blake2b.toWords digest).toArray) memory)
    (Array.replicate (p.lanes * p.lane) zeroBlock)

/-- Whether the blocks of a slice are chosen by a counter. -/
def isCounted (p : Params) (pass slice : Nat) : Bool :=
  match p.variant with
  | .d => false
  | .i => true
  | .id => pass = 0 && slice < 2

/-- The words that choose the blocks of a segment, made from a counter. -/
def choices (p : Params) (pass slice lane : Nat) : Array UInt64 :=
  (List.range ((p.segment + 127) / 128)).foldl (fun words i =>
    let inputs := [pass, lane, slice, p.lanes * p.lane, p.passes, p.variant.number, i + 1]
    let block := (inputs.map UInt64.ofNat).toArray ++ Array.replicate 121 0
    words ++ zeroBlock.mix (zeroBlock.mix block)) #[]

/-- The place of the block that a word chooses for the block at a place of a segment. -/
def chosen (p : Params) (pass slice lane index : Nat) (word : UInt64) : Nat :=
  let otherLane := if pass = 0 && slice = 0 then lane else (word >>> 32).toNat % p.lanes
  -- the blocks of another lane that are there for good
  let finished := if pass = 0 then slice * p.segment else p.lane - p.segment
  let area :=
    if otherLane = lane then finished + index - 1
    else if index = 0 then finished - 1
    else finished
  -- the lower half of the word, squared: blocks that were filled lately are chosen more often
  let low := word &&& 0xFFFFFFFF
  let skewed := (UInt64.ofNat area * ((low * low) >>> 32)) >>> 32
  -- in later passes the oldest block is the first one of the next slice
  let start := if pass = 0 || slice = 3 then 0 else (slice + 1) * p.segment
  otherLane * p.lane + (start + (area - 1 - skewed.toNat)) % p.lane

/-- Fills the block at a place of a segment. -/
def fillBlock (p : Params) (pass slice lane : Nat) (words : Array UInt64) (memory : Array Block)
    (index : Nat) : Array Block :=
  let column := slice * p.segment + index
  let place := lane * p.lane + column
  -- before the first block of a lane stands its last
  let previous :=
    memory.getD (lane * p.lane + (if column = 0 then p.lane - 1 else column - 1)) zeroBlock
  let word := if p.isCounted pass slice then words.getD index 0 else previous.getD 0 0
  let mixed := previous.mix (memory.getD (p.chosen pass slice lane index word) zeroBlock)
  let mixed :=
    if pass = 0 || p.version = .v16 then mixed else mixed.xor (memory.getD place zeroBlock)
  memory.setIfInBounds place mixed

/-- Fills a segment; in the first one of a lane two blocks are there already. -/
def fillSegment (p : Params) (pass slice : Nat) (memory : Array Block) (lane : Nat) : Array Block :=
  let words := if p.isCounted pass slice then p.choices pass slice lane else #[]
  let first := if pass = 0 && slice = 0 then 2 else 0
  (List.range' first (p.segment - first)).foldl (p.fillBlock pass slice lane words) memory

/-- The memory after all passes. -/
def fill (p : Params) (memory : Array Block) : Array Block :=
  (List.range p.passes).foldl (fun memory pass =>
    (List.range 4).foldl (fun memory slice =>
      (List.range p.lanes).foldl (p.fillSegment pass slice) memory) memory) memory

/-- The digest of a password with a salt. -/
def digest (p : Params) (password salt : Bytes) : Bytes :=
  let memory := p.fill (p.start (p.seed password salt))
  let last := (List.range p.lanes).foldl
    (fun block lane => block.xor (memory.getD (lane * p.lane + p.lane - 1) zeroBlock)) zeroBlock
  longDigest p.length (last.toList.flatMap Digest.Blake2b.ofWord)

end Params
end Bearer.Password.Argon2
