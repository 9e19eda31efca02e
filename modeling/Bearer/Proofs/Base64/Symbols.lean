import Bearer.Proofs.Base64
import Mathlib.Data.List.Infix

/-!
# The order of symbols

A text in base 64 writes one symbol for each group of six bits. Equal groups have equal symbols, and
groups that count upwards have symbols that do so in ASCII as well, except from one part of the
alphabet to the next: the capitals, the small letters, the digits, the plus sign and the slash lie
apart, but the slash stands right before the digits.

Main statements: `encode_eq_map_symbol`, `standard_symbol_inj` and `standard_symbol_succ_iff`.
-/

namespace Bearer.Base64

/-- The groups of six bits, the last of which is filled up with zeros. -/
def sextets : Bytes → List Nat
  | [] => []
  | [x] => [x.toNat / 4, x.toNat % 4 * 16]
  | [x, y] => [x.toNat / 4, x.toNat % 4 * 16 + y.toNat / 16, y.toNat % 16 * 4]
  | x :: y :: z :: rest =>
    x.toNat / 4 :: (x.toNat % 4 * 16 + y.toNat / 16) :: (y.toNat % 16 * 4 + z.toNat / 64) ::
      z.toNat % 64 :: sextets rest

/-- Each group is written as one symbol. -/
theorem encode_eq_map_symbol (alphabet : Alphabet) (bytes : Bytes) :
    encode alphabet bytes = (sextets bytes).map alphabet.symbol := by
  fun_induction sextets bytes with
  | case1 => rfl
  | case2 x => rfl
  | case3 x y => rfl
  | case4 x y z rest ih => rw [encode, ih]; rfl

/-- A group of six bits is below sixty-four. -/
theorem lt_of_mem_sextets {bytes : Bytes} {n : Nat} (h : n ∈ sextets bytes) : n < 64 := by
  fun_induction sextets bytes with
  | case1 => cases h
  | case2 x =>
    have hx := x.toNat_lt
    simp only [List.mem_cons, List.not_mem_nil, or_false] at h
    omega
  | case3 x y =>
    have hx := x.toNat_lt
    have hy := y.toNat_lt
    simp only [List.mem_cons, List.not_mem_nil, or_false] at h
    omega
  | case4 x y z rest ih =>
    have hx := x.toNat_lt
    have hy := y.toNat_lt
    have hz := z.toNat_lt
    simp only [List.mem_cons] at h
    rcases h with h | h | h | h | hrest
    · omega
    · omega
    · omega
    · omega
    · exact ih hrest

/-- The symbol of one value stands right before that of another: the values follow each other within
one part of the alphabet, or they are those of the slash and of the first digit. -/
def Adjoins (m n : Nat) : Prop := (n = m + 1 ∧ n ∉ [26, 52, 62, 63]) ∨ (m = 63 ∧ n = 52)

instance : DecidableRel Adjoins := fun _ _ => inferInstanceAs (Decidable (_ ∨ _))

/-- Different values have different symbols. -/
theorem standard_symbol_inj {m n : Nat} (hm : m < 64) (hn : n < 64) :
    standard.symbol m = standard.symbol n ↔ m = n := by
  constructor
  · intro h
    have hvalue := value?_symbol standard hm
    rw [h, value?_symbol standard hn] at hvalue
    exact (Option.some.inj hvalue).symm
  · rintro rfl
    rfl

/-- The symbols that follow each other are those of values that adjoin. -/
theorem standard_symbol_succ_iff {m n : Nat} (hm : m < 64) (hn : n < 64) :
    (standard.symbol m).toNat + 1 = (standard.symbol n).toNat ↔ Adjoins m n :=
  have hall : ∀ m < 64, ∀ n < 64,
      ((standard.symbol m).toNat + 1 = (standard.symbol n).toNat ↔ Adjoins m n) := by
    decide +kernel
  hall m hm n hn

/-- Symbols are ASCII, and lie apart from the equals sign. -/
theorem standard_symbol_range {n : Nat} (h : n < 64) :
    (standard.symbol n).toNat < 128 ∧ (standard.symbol n).toNat + 1 ≠ '='.toNat ∧
      (standard.symbol n).toNat ≠ '='.toNat ∧ (standard.symbol n).toNat ≠ '='.toNat + 1 :=
  have hall : ∀ n < 64,
      (standard.symbol n).toNat < 128 ∧ (standard.symbol n).toNat + 1 ≠ '='.toNat ∧
        (standard.symbol n).toNat ≠ '='.toNat ∧ (standard.symbol n).toNat ≠ '='.toNat + 1 := by
    decide +kernel
  hall n h

end Bearer.Base64
