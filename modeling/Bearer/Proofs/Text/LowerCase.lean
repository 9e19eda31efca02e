import Bearer.Text.Blank
import Bearer.Text.LowerCase
import Mathlib.Data.List.Basic

/-!
# Lower case settles

A text in lower case is its own lower case, and a text that neither starts nor ends with a blank
still does not when it has been brought to lower case. So whatever is trimmed and then brought to
lower case has reached its form after one time.

Both facts rest on the table of letters: no letter that a run leads to is moved by any run, and none
is a blank. The letters are compared as the bits of two numbers, since there are too many to be
compared in pairs.

Main statements: `lowerChars_lowerChars` and `trimChars_lowerChars`.
-/

namespace Bearer.Text

namespace LowerCase

/-! ## The table -/

/-- The letters of a run. -/
def Run.letters (run : Run) : List Nat :=
  (List.range ((run.last - run.first) / run.stride + 1)).map fun i => run.first + run.stride * i

/-- The lower case of the letters of a run. -/
def Run.lowered (run : Run) : List Nat :=
  run.letters.map fun n : Nat => ((n : Int) + run.shift).toNat

/-- The letters that have a lower case of their own. -/
def moved : List Nat := runs.flatMap Run.letters

/-- The lower case of all these letters. -/
def reached : List Nat := runs.flatMap Run.lowered

/-- The blank characters by their numbers. -/
def blanks : List Nat :=
  [0x09, 0x0A, 0x0B, 0x0C, 0x0D, 0x20, 0x85, 0xA0, 0x1680, 0x2000, 0x2001, 0x2002, 0x2003, 0x2004,
    0x2005, 0x2006, 0x2007, 0x2008, 0x2009, 0x200A, 0x2028, 0x2029, 0x202F, 0x205F, 0x3000]

/-- A list of numbers as the bits of one. -/
def bits (ns : List Nat) : Nat := ns.foldr (fun n rest => 1 <<< n ||| rest) 0

/-- A bit is set exactly if its number is in the list. -/
theorem testBit_bits (ns : List Nat) (m : Nat) : (bits ns).testBit m = decide (m ∈ ns) := by
  induction ns with
  | nil => simp [bits]
  | cons n ns ih =>
    rw [bits, List.foldr_cons, ← bits, Nat.testBit_or, ih, Nat.one_shiftLeft, Nat.testBit_two_pow]
    simp [eq_comm]

/-- Lists whose bits do not overlap have no number in common. -/
theorem disjoint_of_bits {ms ns : List Nat} (h : bits ms &&& bits ns = 0) : ms.Disjoint ns := by
  intro m hm hn
  have hbit : (bits ms &&& bits ns).testBit m = true := by
    rw [Nat.testBit_and, testBit_bits, testBit_bits, decide_eq_true hm, decide_eq_true hn]
    rfl
  rw [h, Nat.zero_testBit] at hbit
  cases hbit

/-- No lower case is moved again, and none is a blank. -/
theorem reached_disjoint : reached.Disjoint (0x130 :: blanks ++ moved) :=
  disjoint_of_bits (by decide +kernel)

/-- The numbers that are reached are those of characters. -/
theorem isValidChar_of_mem_reached : ∀ n ∈ reached, n.isValidChar := by decide +kernel

/-- The capital that has two small letters is one that moves. -/
theorem sigma_mem_moved : 'Σ'.toNat ∈ moved := by decide +kernel

/-- A number in a run, at a whole number of its strides, is one of its letters. -/
theorem Run.mem_letters {run : Run} {n : Nat} (hfirst : run.first ≤ n) (hlast : n ≤ run.last)
    (hstride : (n - run.first) % run.stride = 0) : n ∈ run.letters := by
  rw [letters, List.mem_map]
  refine ⟨(n - run.first) / run.stride, ?_, ?_⟩
  · have hle : n - run.first ≤ run.last - run.first := Nat.sub_le_sub_right hlast _
    exact List.mem_range.mpr (Nat.lt_succ_of_le (Nat.div_le_div_right hle))
  · have hdiv := Nat.div_add_mod (n - run.first) run.stride
    omega

/-- What a run moves is one of its letters, and is moved to one of its small letters. -/
theorem Run.mem_of_lower? {run : Run} {n m : Nat} (h : run.lower? n = some m) :
    n ∈ run.letters ∧ m ∈ run.lowered := by
  rw [lower?] at h
  split at h
  · next hin =>
    cases h
    have hmem := mem_letters hin.1 hin.2.1 hin.2.2
    exact ⟨hmem, List.mem_map_of_mem hmem⟩
  · cases h

/-- What some run moves is moved to what is reached. -/
theorem mem_of_findSome? {n m : Nat} (h : runs.findSome? (·.lower? n) = some m) :
    n ∈ moved ∧ m ∈ reached := by
  obtain ⟨run, hrun, hlower⟩ := List.exists_of_findSome?_eq_some h
  have hmem := Run.mem_of_lower? hlower
  exact ⟨List.mem_flatMap.mpr ⟨run, hrun, hmem.1⟩, List.mem_flatMap.mpr ⟨run, hrun, hmem.2⟩⟩

/-- A letter that is not in the table is in no run. -/
theorem findSome?_eq_none {n : Nat} (h : n ∉ moved) : runs.findSome? (·.lower? n) = none := by
  cases hfind : runs.findSome? (·.lower? n) with
  | none => rfl
  | some m => exact absurd (mem_of_findSome? hfind).1 h

/-- The blanks by their numbers. -/
theorem mem_blanks {c : Char} (h : isBlank c) : c.toNat ∈ blanks := by
  simp only [isBlank, Bool.or_eq_true, Bool.and_eq_true, decide_eq_true_eq, beq_iff_eq] at h
  simp only [blanks, List.mem_cons, List.not_mem_nil, or_false]
  omega

/-! ## Characters -/

/-- A character is its own lower case, wherever it stands. -/
def IsSettled (c : Char) : Prop := c ≠ 'Σ' ∧ ofChar c = [c]

instance (c : Char) : Decidable (IsSettled c) := inferInstanceAs (Decidable (_ ∧ _))

/-- What does not move is settled. -/
theorem isSettled_of_notMem {c : Char} (hdotted : c.toNat ≠ 0x130) (h : c.toNat ∉ moved) :
    IsSettled c := by
  constructor
  · rintro rfl
    exact h sigma_mem_moved
  · rw [ofChar, if_neg hdotted, findSome?_eq_none h]

/-- The lower case of a character is made of characters that are settled, and that are no blanks
unless it is one itself. -/
theorem ofChar_settles {c d : Char} (h : d ∈ ofChar c) :
    IsSettled d ∧ (isBlank c = false → isBlank d = false) := by
  rw [ofChar] at h
  split at h
  · -- the dotted capital
    rw [List.mem_pair] at h
    rcases h with rfl | rfl
    · exact ⟨by decide +kernel, fun _ => by decide⟩
    · exact ⟨by decide +kernel, fun _ => by decide⟩
  · next hdotted =>
    split at h
    · next n hfind =>
      -- a letter of some run
      obtain rfl := List.mem_singleton.mp h
      have hreached := (mem_of_findSome? hfind).2
      have hn : (Char.ofNat n).toNat = n := by
        rw [Char.ofNat, dif_pos (isValidChar_of_mem_reached n hreached)]
        rfl
      have hapart : n ∉ 0x130 :: blanks ++ moved := fun hmem => reached_disjoint hreached hmem
      rw [List.cons_append, List.mem_cons, List.mem_append, not_or, not_or, ← hn] at hapart
      refine ⟨isSettled_of_notMem hapart.1 hapart.2.2, fun _ => ?_⟩
      exact Bool.eq_false_iff.mpr fun hblank => hapart.2.1 (mem_blanks hblank)
    · next hnone =>
      -- any other character stays
      obtain rfl := List.mem_singleton.mp h
      refine ⟨⟨?_, ?_⟩, id⟩
      · rintro rfl
        exact absurd hnone (by decide)
      · rw [ofChar, if_neg hdotted, hnone]

/-! ## Texts -/

/-- The lower case of a character in its place. -/
def ofPlace (reversedBefore : List Char) (c : Char) (after : List Char) : List Char :=
  if c = 'Σ' then [sigma reversedBefore after] else ofChar c

/-- The lower case of a text goes character by character. -/
theorem ofRest_cons (reversedBefore : List Char) (c : Char) (cs : List Char) :
    ofRest reversedBefore (c :: cs) =
      ofPlace reversedBefore c cs ++ ofRest (c :: reversedBefore) cs := rfl

/-- No character is lowered to nothing. -/
theorem ofPlace_ne_nil (reversedBefore : List Char) (c : Char) (after : List Char) :
    ofPlace reversedBefore c after ≠ [] := by
  rw [ofPlace, ofChar]
  split
  · exact List.cons_ne_nil _ _
  · split
    · exact List.cons_ne_nil _ _
    · split <;> exact List.cons_ne_nil _ _

/-- What a character is lowered to is settled, and is blank for blanks only. -/
theorem ofPlace_settles {reversedBefore after : List Char} {c d : Char}
    (h : d ∈ ofPlace reversedBefore c after) :
    IsSettled d ∧ (isBlank c = false → isBlank d = false) := by
  rw [ofPlace] at h
  split at h
  · rw [List.mem_singleton, sigma] at h
    -- either small sigma is settled
    split at h
    · subst h
      exact ⟨by decide +kernel, fun _ => by decide⟩
    · subst h
      exact ⟨by decide +kernel, fun _ => by decide⟩
  · exact ofChar_settles h

/-- The lower case of a text is made of settled characters. -/
theorem isSettled_of_mem_ofRest {reversedBefore cs : List Char} {d : Char}
    (h : d ∈ ofRest reversedBefore cs) : IsSettled d := by
  induction cs generalizing reversedBefore with
  | nil => cases h
  | cons c cs ih =>
    rw [ofRest_cons, List.mem_append] at h
    rcases h with hplace | hrest
    · exact (ofPlace_settles hplace).1
    · exact ih hrest

/-- A text of settled characters is its own lower case. -/
theorem ofRest_of_isSettled {reversedBefore cs : List Char} (h : ∀ c ∈ cs, IsSettled c) :
    ofRest reversedBefore cs = cs := by
  induction cs generalizing reversedBefore with
  | nil => rfl
  | cons c cs ih =>
    rw [List.forall_mem_cons] at h
    rw [ofRest_cons, ofPlace, if_neg h.1.1, h.1.2, ih h.2, List.singleton_append]

/-- The last character of a lower case comes from the last one of the text. -/
theorem getLast?_ofRest {reversedBefore cs : List Char} {d : Char}
    (h : (ofRest reversedBefore cs).getLast? = some d) :
    ∃ c, cs.getLast? = some c ∧ (isBlank c = false → isBlank d = false) := by
  induction cs generalizing reversedBefore with
  | nil => cases h
  | cons c cs ih =>
    rw [ofRest_cons, List.getLast?_append] at h
    cases hrest : (ofRest (c :: reversedBefore) cs).getLast? with
    | some e =>
      rw [hrest, Option.some_or] at h
      cases h
      obtain ⟨last, hlast, hblank⟩ := ih hrest
      refine ⟨last, ?_, hblank⟩
      rw [List.getLast?_cons, hlast]
      rfl
    | none =>
      rw [hrest, Option.none_or] at h
      -- nothing is left of the text behind this character
      have hnil : cs = [] := by
        cases cs with
        | nil => rfl
        | cons c' cs =>
          rw [ofRest_cons, List.getLast?_eq_none_iff] at hrest
          exact absurd (List.append_eq_nil_iff.mp hrest).1 (ofPlace_ne_nil _ _ _)
      subst hnil
      exact ⟨c, rfl, (ofPlace_settles (List.mem_of_mem_getLast? h)).2⟩

end LowerCase

open LowerCase

/-- A text in lower case is its own lower case. -/
@[simp]
theorem lowerChars_lowerChars (cs : List Char) : lowerChars (lowerChars cs) = lowerChars cs :=
  ofRest_of_isSettled fun _ => isSettled_of_mem_ofRest

/-- The lower case of a trimmed text is trimmed. -/
theorem trimChars_lowerChars (cs : List Char) :
    trimChars (lowerChars (trimChars cs)) = lowerChars (trimChars cs) := by
  refine strip_eq_self (fun d hfirst => ?_) fun d hlast => ?_
  · cases htrim : trimChars cs with
    | nil =>
      rw [htrim] at hfirst
      cases hfirst
    | cons c rest =>
      -- the first character is not blank, so neither is what it is lowered to
      have hc : isBlank c = false := by
        have hhead : (trimChars cs).head? = some c := by
          rw [htrim, List.head?_cons]
        exact head?_strip hhead
      rw [htrim, lowerChars, ofRest_cons,
        List.head?_append_of_ne_nil _ (ofPlace_ne_nil _ _ _)] at hfirst
      exact (ofPlace_settles (List.mem_of_mem_head? hfirst)).2 hc
  · obtain ⟨c, hc, hblank⟩ := getLast?_ofRest hlast
    exact hblank (getLast?_strip hc)

end Bearer.Text
