import Bearer.Base64
import Mathlib.Data.Option.Basic

/-!
# Reading what is written in base 64

Main statement: `decode?_eq_some_iff`, reading accepts exactly what is written.
-/

namespace Bearer.Base64

/-- The value of a symbol is read back from it. -/
theorem value?_symbol (alphabet : Alphabet) {n : Nat} (h : n < 64) :
    alphabet.value? (alphabet.symbol n) = some n := by
  have upper : ∀ n < 26, (Char.ofNat ('A'.toNat + n)).isUpper ∧
      (Char.ofNat ('A'.toNat + n)).toNat - 'A'.toNat = n := by decide
  have lower : ∀ n < 26, (Char.ofNat ('a'.toNat + n)).isUpper = false ∧
      (Char.ofNat ('a'.toNat + n)).isLower ∧
      (Char.ofNat ('a'.toNat + n)).toNat - 'a'.toNat = n := by decide
  have digit : ∀ n < 10, (Char.ofNat ('0'.toNat + n)).isUpper = false ∧
      (Char.ofNat ('0'.toNat + n)).isLower = false ∧ (Char.ofNat ('0'.toNat + n)).isDigit ∧
      (Char.ofNat ('0'.toNat + n)).toNat - '0'.toNat = n := by decide
  -- neither of the last two symbols is a letter or a digit
  have two : (alphabet.sixtyTwo.isUpper || alphabet.sixtyTwo.isLower ||
      alphabet.sixtyTwo.isDigit) = false := alphabet.isAlphanum_sixtyTwo
  have three : (alphabet.sixtyThree.isUpper || alphabet.sixtyThree.isLower ||
      alphabet.sixtyThree.isDigit) = false := alphabet.isAlphanum_sixtyThree
  simp only [Bool.or_eq_false_iff] at two three
  unfold Alphabet.symbol
  split
  · next hn =>
    obtain ⟨h1, h2⟩ := upper n hn
    rw [Alphabet.value?, if_pos h1, h2]
  split
  · obtain ⟨h1, h2, h3⟩ := lower (n - 26) (by omega)
    rw [Alphabet.value?, if_neg (ne_true_of_eq_false h1), if_pos h2, h3,
      show n - 26 + 26 = n by omega]
  split
  · obtain ⟨h1, h2, h3, h4⟩ := digit (n - 52) (by omega)
    rw [Alphabet.value?, if_neg (ne_true_of_eq_false h1), if_neg (ne_true_of_eq_false h2),
      if_pos h3, h4, show n - 52 + 52 = n by omega]
  split
  · simp_all [Alphabet.value?]
  · have : n = 63 := by omega
    simp_all [Alphabet.value?, alphabet.sixtyThree_ne_sixtyTwo]

/-- What has a value is the symbol of it. -/
theorem lt_and_symbol_of_value? {alphabet : Alphabet} {c : Char} {n : Nat}
    (h : alphabet.value? c = some n) : n < 64 ∧ alphabet.symbol n = c := by
  unfold Alphabet.value? at h
  -- an upper-case letter
  split at h
  · next hc =>
    change decide ('A'.val ≤ c.val ∧ c.val ≤ 'Z'.val) = true at hc
    simp only [decide_eq_true_eq, UInt32.le_iff_toNat_le] at hc
    cases h
    have h1 : c.toNat = c.val.toNat := rfl
    have h2 : 'A'.val.toNat = 65 := rfl
    have h3 : 'Z'.val.toNat = 90 := rfl
    have h4 : 'A'.toNat = 65 := rfl
    refine ⟨by omega, ?_⟩
    rw [Alphabet.symbol, if_pos (by omega),
      show 'A'.toNat + (c.toNat - 'A'.toNat) = c.toNat by omega, Char.ofNat_toNat]
  -- a lower-case letter
  split at h
  · next hc =>
    change (decide ('a'.val ≤ c.val) && decide (c.val ≤ 'z'.val)) = true at hc
    simp only [Bool.and_eq_true, decide_eq_true_eq, UInt32.le_iff_toNat_le] at hc
    cases h
    have h1 : c.toNat = c.val.toNat := rfl
    have h2 : 'a'.val.toNat = 97 := rfl
    have h3 : 'z'.val.toNat = 122 := rfl
    have h4 : 'a'.toNat = 97 := rfl
    refine ⟨by omega, ?_⟩
    rw [Alphabet.symbol, if_neg (by omega), if_pos (by omega),
      show 'a'.toNat + (c.toNat - 'a'.toNat + 26 - 26) = c.toNat by omega, Char.ofNat_toNat]
  -- a digit
  split at h
  · next hc =>
    simp only [Char.isDigit, Bool.and_eq_true, decide_eq_true_eq, UInt32.le_iff_toNat_le,
      ge_iff_le] at hc
    cases h
    have h1 : c.toNat = c.val.toNat := rfl
    have h2 : '0'.val.toNat = 48 := rfl
    have h3 : '9'.val.toNat = 57 := rfl
    have h4 : '0'.toNat = 48 := rfl
    refine ⟨by omega, ?_⟩
    rw [Alphabet.symbol, if_neg (by omega), if_neg (by omega), if_pos (by omega),
      show '0'.toNat + (c.toNat - '0'.toNat + 52 - 52) = c.toNat by omega, Char.ofNat_toNat]
  -- one of the two further symbols
  split at h
  · next hc => cases h; exact ⟨by decide, hc.symm⟩
  split at h
  · next hc => cases h; exact ⟨by decide, hc.symm⟩
  · cases h

/-- A byte is made again from its number. -/
theorem ofNat_eq {n : Nat} {b : UInt8} (h : n = b.toNat) : UInt8.ofNat n = b := by
  simp [h]

/-- A guard whose condition holds changes nothing. -/
theorem bind_guard {p : Prop} [Decidable p] (h : p) {α : Type} (f : Unit → Option α) :
    (guard p >>= f) = f () :=
  congrArg (· >>= f) (if_pos h : (guard p : Option Unit) = some ())

/-- What a guard lets through holds. -/
theorem of_guard {p : Prop} [Decidable p] {u : Unit} (h : guard p = some u) : p := by
  by_cases hp : p
  · exact hp
  · have hnone : (guard p : Option Unit) = none := if_neg hp
    rw [hnone] at h
    cases h

/-- Reading the symbols of a sequence of bytes gives those bytes. -/
theorem decode?_encode (alphabet : Alphabet) (bytes : Bytes) :
    decode? alphabet (encode alphabet bytes) = some bytes := by
  have value {n : Nat} (h : n < 64) := value?_symbol alphabet h
  fun_induction encode alphabet bytes with
  | case1 => rfl
  -- one byte is left: two symbols, and the four bits that fill up the second are zero
  | case2 x =>
    have hx := x.toNat_lt
    have hp := value (show x.toNat / 4 < 64 by omega)
    have hq := value (show x.toNat % 4 * 16 < 64 by omega)
    have hlow : x.toNat % 4 * 16 % 16 = 0 := by omega
    rw [decode?, hp, hq]
    refine (bind_guard hlow _).trans ?_
    exact congrArg (fun b => some [b]) (ofNat_eq (by omega))
  -- two bytes are left: three symbols, and two bits that fill up the third
  | case3 x y =>
    have hx := x.toNat_lt
    have hy := y.toNat_lt
    have hp := value (show x.toNat / 4 < 64 by omega)
    have hq := value (show x.toNat % 4 * 16 + y.toNat / 16 < 64 by omega)
    have hr := value (show y.toNat % 16 * 4 < 64 by omega)
    have hlow : y.toNat % 16 * 4 % 4 = 0 := by omega
    rw [decode?, hp, hq, hr]
    refine (bind_guard hlow _).trans ?_
    have hb : UInt8.ofNat (x.toNat / 4 * 4 + (x.toNat % 4 * 16 + y.toNat / 16) / 16) = x :=
      ofNat_eq (by omega)
    have hc : UInt8.ofNat ((x.toNat % 4 * 16 + y.toNat / 16) % 16 * 16 + y.toNat % 16 * 4 / 4) =
        y := ofNat_eq (by omega)
    rw [hb, hc]
    rfl
  -- three bytes are four symbols, each of whose values is read off by division
  | case4 x y z rest ih =>
    have hx := x.toNat_lt
    have hy := y.toNat_lt
    have hz := z.toNat_lt
    have hp := value (show x.toNat / 4 < 64 by omega)
    have hq := value (show x.toNat % 4 * 16 + y.toNat / 16 < 64 by omega)
    have hr := value (show y.toNat % 16 * 4 + z.toNat / 64 < 64 by omega)
    have hs := value (show z.toNat % 64 < 64 by omega)
    have hb : UInt8.ofNat (x.toNat / 4 * 4 + (x.toNat % 4 * 16 + y.toNat / 16) / 16) = x :=
      ofNat_eq (by omega)
    have hc : UInt8.ofNat ((x.toNat % 4 * 16 + y.toNat / 16) % 16 * 16 +
        (y.toNat % 16 * 4 + z.toNat / 64) / 4) = y := ofNat_eq (by omega)
    have hd : UInt8.ofNat ((y.toNat % 16 * 4 + z.toNat / 64) % 4 * 64 + z.toNat % 64) = z :=
      ofNat_eq (by omega)
    rw [decode?, hp, hq, hr, hs, ih]
    simp only [Option.bind_eq_bind, Option.bind_some, hb, hc, hd]
    rfl

/-- A number below 256 is the number of its byte. -/
theorem toNat_ofNat_of_lt {n : Nat} (h : n < 256) : (UInt8.ofNat n).toNat = n := by
  simp only [UInt8.toNat_ofNat']
  omega

/-- What decodes to bytes is what they are encoded to. -/
theorem eq_encode_of_decode? {alphabet : Alphabet} {cs : List Char} {bytes : Bytes}
    (h : decode? alphabet cs = some bytes) : cs = encode alphabet bytes := by
  fun_induction decode? alphabet cs generalizing bytes with
  | case1 => cases h; rfl
  | case2 => cases h
  -- two symbols at the end; the guard says that the bits left over are zero
  | case3 c d =>
    obtain ⟨p, hp, h⟩ := Option.bind_eq_some_iff.mp h
    obtain ⟨q, hq, h⟩ := Option.bind_eq_some_iff.mp h
    obtain ⟨_, hz, h⟩ := Option.bind_eq_some_iff.mp h
    cases h
    obtain ⟨hp, rfl⟩ := lt_and_symbol_of_value? hp
    obtain ⟨hq, rfl⟩ := lt_and_symbol_of_value? hq
    have hz := of_guard hz
    rw [encode, toNat_ofNat_of_lt (by omega), show (p * 4 + q / 16) / 4 = p by omega,
      show (p * 4 + q / 16) % 4 * 16 = q by omega]
  | case4 c d e =>
    obtain ⟨p, hp, h⟩ := Option.bind_eq_some_iff.mp h
    obtain ⟨q, hq, h⟩ := Option.bind_eq_some_iff.mp h
    obtain ⟨r, hr, h⟩ := Option.bind_eq_some_iff.mp h
    obtain ⟨_, hz, h⟩ := Option.bind_eq_some_iff.mp h
    cases h
    obtain ⟨hp, rfl⟩ := lt_and_symbol_of_value? hp
    obtain ⟨hq, rfl⟩ := lt_and_symbol_of_value? hq
    obtain ⟨hr, rfl⟩ := lt_and_symbol_of_value? hr
    have hz := of_guard hz
    rw [encode, toNat_ofNat_of_lt (by omega), toNat_ofNat_of_lt (by omega),
      show (p * 4 + q / 16) / 4 = p by omega,
      show (p * 4 + q / 16) % 4 * 16 + (q % 16 * 16 + r / 4) / 16 = q by omega,
      show (q % 16 * 16 + r / 4) % 16 * 4 = r by omega]
  -- four symbols, and the rest by induction
  | case5 c d e f rest ih =>
    simp only [Option.bind_eq_bind, Option.bind_eq_some_iff, Option.pure_def,
      Option.some.injEq] at h
    obtain ⟨p, hp, q, hq, r, hr, s, hs, more, hmore, rfl⟩ := h
    obtain ⟨hp, rfl⟩ := lt_and_symbol_of_value? hp
    obtain ⟨hq, rfl⟩ := lt_and_symbol_of_value? hq
    obtain ⟨hr, rfl⟩ := lt_and_symbol_of_value? hr
    obtain ⟨hs, rfl⟩ := lt_and_symbol_of_value? hs
    rw [encode, toNat_ofNat_of_lt (by omega), toNat_ofNat_of_lt (by omega),
      toNat_ofNat_of_lt (by omega), ih hmore, show (p * 4 + q / 16) / 4 = p by omega,
      show (p * 4 + q / 16) % 4 * 16 + (q % 16 * 16 + r / 4) / 16 = q by omega,
      show (q % 16 * 16 + r / 4) % 16 * 4 + (r % 4 * 64 + s) / 64 = r by omega,
      show (r % 4 * 64 + s) % 64 = s by omega]

/-- Bytes are decoded from one text only, the one that they are encoded to. -/
theorem decode?_eq_some_iff {alphabet : Alphabet} {cs : List Char}
    {bytes : Bytes} : decode? alphabet cs = some bytes ↔ cs = encode alphabet bytes :=
  ⟨eq_encode_of_decode?, fun hcs => hcs ▸ decode?_encode alphabet bytes⟩

/-! ## What is written -/

/-- Every character that is written is a symbol of the alphabet. -/
theorem exists_symbol_of_mem_encode {alphabet : Alphabet} {bytes : Bytes} {c : Char}
    (h : c ∈ encode alphabet bytes) : ∃ n < 64, c = alphabet.symbol n := by
  fun_induction encode alphabet bytes with
  | case1 => cases h
  | case2 x =>
    have hx := x.toNat_lt
    simp only [List.mem_cons, List.not_mem_nil, or_false] at h
    rcases h with rfl | rfl <;> exact ⟨_, by omega, rfl⟩
  | case3 x y =>
    have hx := x.toNat_lt
    have hy := y.toNat_lt
    simp only [List.mem_cons, List.not_mem_nil, or_false] at h
    rcases h with rfl | rfl | rfl <;> exact ⟨_, by omega, rfl⟩
  | case4 x y z rest ih =>
    have hx := x.toNat_lt
    have hy := y.toNat_lt
    have hz := z.toNat_lt
    simp only [List.mem_cons] at h
    rcases h with rfl | rfl | rfl | rfl | hrest
    all_goals first
      | exact ih hrest
      | exact ⟨_, by omega, rfl⟩

/-- Three bytes make four symbols, and a last group of one or two bytes makes one symbol more than
it has bytes. -/
theorem length_encode (alphabet : Alphabet) (bytes : Bytes) :
    (encode alphabet bytes).length = (4 * bytes.length + 2) / 3 := by
  fun_induction encode alphabet bytes with
  | case1 => rfl
  | case2 x => simp
  | case3 x y => simp
  | case4 x y z rest ih =>
    simp only [List.length_cons, ih]
    omega

end Bearer.Base64
