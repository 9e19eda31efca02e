import Bearer.Text.Bytes

/-!
# Entropy

How evenly the values of bytes are spread: the Shannon entropy, in bits a byte. It is a sum of
logarithms, so it is computed in floating point, and the rounded sum is what a bound is compared
with. An entropy that is exactly at a bound can therefore come out below it.

Every step rounds to the nearest double. A logarithm has no exact value to start from: its binary
places are worked out one after the other, more of them than a double has, and are rounded once.

## Main definitions

* `lessLog2`: how far the logarithm of a share lies below zero;
* `entropy`: the rounded sum, over the values in their order;
* `entropyBelow`: the comparison that decides about a secret.
-/

namespace Bearer.Secret

/-- How often each value occurs. -/
def occurrences (bytes : Bytes) : List Nat :=
  ((List.range 256).map fun n => bytes.count (UInt8.ofNat n)).filter (· ≠ 0)

/-- How many binary places of a logarithm are worked out. -/
def logPlaces : Nat := 128

/-- How many binary places are kept of the powers that they are read off: each squaring doubles the
error that cutting them leaves. -/
def powerPlaces : Nat := 256

/-- So many binary places of the logarithm of a power from one to two. Squaring doubles the
logarithm, so the first place is one iff the square is two or more, and the places after it are
those of the square, halved in that case. -/
def log2Places : Nat → Nat → Nat
  | 0, _ => 0
  | places + 1, power =>
    let square := (power * power) >>> powerPlaces
    if square < 2 <<< powerPlaces then log2Places places square
    else 1 <<< places + log2Places places (square >>> 1)

/-- The places of the part of a double that is not a power of two, behind the point. -/
def significandPlaces : Nat := 52

/-- How far the logarithm to the base two of a positive number up to one lies below zero,
rounded. -/
def lessLog2 (x : Float) : Float :=
  let bits := x.toBits.toNat
  -- the number is its significand, from one to two, halved so many times
  let halvings := 1023 - bits >>> significandPlaces
  let significand := 1 <<< significandPlaces + bits % (1 <<< significandPlaces)
  let places := log2Places logPlaces (significand <<< (powerPlaces - significandPlaces))
  Float.ofNat (halvings <<< logPlaces - places) / Float.ofNat (1 <<< logPlaces)

/-- The entropy in bits a byte, as it is computed: value by value, each share of the bytes with its
logarithm. -/
def entropy (bytes : Bytes) : Float :=
  (occurrences bytes).foldl (fun sum count =>
    let share := Float.ofNat count / Float.ofNat bytes.length
    sum + share * lessLog2 share) 0

/-- Whether the entropy, as it is computed, is below a number of bits a byte. -/
def entropyBelow (bits : Nat) (bytes : Bytes) : Bool :=
  entropy bytes < Float.ofNat bits

-- twenty-four values, of an entropy of exactly four bits a byte, whose rounded sum is just below
example :
    entropyBelow 4 (Text.utf8 "CaUjFgj43ajXsjj8j3lEPttD3tGjsbpPaiJssPsssjssN0jZ") = true := by
  decide +kernel

end Bearer.Secret
