import Bearer.Text.Bytes

/-!
# Percent-encoding

A percent sign followed by two hexadecimal digits stands for one byte. A percent sign that is not so
followed stands for itself, so decoding never fails on bytes.
-/

namespace Bearer.Text.Percent

/-- The byte that two hexadecimal digits at the front spell. -/
def byte? : Bytes → Option UInt8
  | x :: y :: _ => do
    let high ← hexValue? (Char.ofUInt8 x)
    let low ← hexValue? (Char.ofUInt8 y)
    return UInt8.ofNat (high * 16 + low)
  | _ => none

/-- Decodes every escaped byte except those of the kind `keep`, which stay written as they are. -/
def decode (keep : UInt8 → Bool) : Bytes → Bytes
  | [] => []
  | b :: rest =>
    if b = 0x25 then
      match byte? rest with
      -- the digits of a byte that stays written pass through one by one
      | some byte => if keep byte then b :: decode keep rest else byte :: decode keep (rest.drop 2)
      | none => b :: decode keep rest
    else b :: decode keep rest
  termination_by bytes => bytes.length

end Bearer.Text.Percent
