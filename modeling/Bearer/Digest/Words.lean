import Bearer.Text.Bytes

/-!
# Words of a message

How a message becomes whole blocks of sixteen words, the most significant byte of each first: the
common frame of the SHA digests.
-/

namespace Bearer.Digest

/-- Groups bytes into words, the most significant byte first. -/
def toWords : Bytes → List UInt32
  | a :: b :: c :: d :: rest =>
    ((a.toUInt32 <<< 24) ||| (b.toUInt32 <<< 16) ||| (c.toUInt32 <<< 8) ||| d.toUInt32) ::
      toWords rest
  | _ => []

/-- The four bytes of a word, the most significant first. -/
def ofWord (w : UInt32) : Bytes :=
  [(w >>> 24).toUInt8, (w >>> 16).toUInt8, (w >>> 8).toUInt8, w.toUInt8]

/-- The message followed by a one bit, zeros and its length in bits, in whole blocks. -/
def padded (message : Bytes) : Bytes :=
  let n := message.length
  let bits := UInt64.ofNat (n * 8)
  -- with the eight bytes of the length the last block is full
  let filler : Bytes := 0x80 :: List.replicate ((119 - n % 64) % 64) 0
  message ++ filler ++ ofWord (bits >>> 32).toUInt32 ++ ofWord bits.toUInt32

end Bearer.Digest
