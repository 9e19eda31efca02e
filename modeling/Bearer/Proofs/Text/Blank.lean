import Bearer.Text.Blank
import Mathlib.Data.List.TakeWhile

/-!
# What is left of a trimmed text

Characters of a kind are dropped from the ends of a text up to the first one that is not of the
kind. So nothing is left exactly if all are of the kind, and what stands before something that is
left is not touched.
-/

namespace Bearer.Text

variable {p : Char → Bool} {a b cs : List Char}

/-- Everything is dropped from the end exactly if all characters are of the kind. -/
theorem dropEnd_eq_nil_iff : dropEnd p cs = [] ↔ ∀ c ∈ cs, p c := by
  rw [dropEnd, List.reverse_eq_nil_iff, List.dropWhile_eq_nil_iff]
  simp only [List.mem_reverse]

/-- Everything is stripped exactly if all characters are of the kind. -/
theorem strip_eq_nil_iff : strip p cs = [] ↔ ∀ c ∈ cs, p c := by
  rw [strip, dropEnd_eq_nil_iff]
  constructor
  · intro h
    apply List.dropWhile_eq_nil_iff.mp
    by_contra hrest
    -- the first character that is left is not of the kind, and yet it has to be
    obtain ⟨c, rest, hcons⟩ := List.exists_cons_of_ne_nil hrest
    have hfirst : p c = false := head?_dropWhile_false (by rw [hcons]; rfl)
    rw [h c (by simp [hcons])] at hfirst
    cases hfirst
  · intro h c hc
    exact h c ((List.dropWhile_suffix p).subset hc)

/-- Nothing is left of a trimmed text only if it is all blank. -/
theorem isBlank_of_trimChars_eq_nil (h : trimChars cs = []) : ∀ c ∈ cs, isBlank c :=
  strip_eq_nil_iff.mp h

/-- What stands before something that is not dropped is kept. -/
theorem dropEnd_append (h : dropEnd p b ≠ []) (a : List Char) :
    dropEnd p (a ++ b) = a ++ dropEnd p b := by
  have hrest : (b.reverse.dropWhile p).isEmpty ≠ true := by
    simpa [dropEnd] using h
  rw [dropEnd, dropEnd, List.reverse_append, List.dropWhile_append, if_neg hrest,
    List.reverse_append, List.reverse_reverse]

/-- Characters of the kind before a text do not matter when it is stripped. -/
theorem strip_append_left (h : ∀ c ∈ a, p c) (b : List Char) : strip p (a ++ b) = strip p b := by
  rw [strip, List.dropWhile_append_of_pos h, strip]

/-- What is stripped anyway may be dropped from the end first. -/
theorem strip_dropEnd (p : Char → Bool) (cs : List Char) : strip p (dropEnd p cs) = strip p cs := by
  by_cases hnil : strip p cs = []
  · -- then nothing is left of either
    have hall := strip_eq_nil_iff.mp hnil
    rw [dropEnd_eq_nil_iff.mpr hall, hnil]
    rfl
  · have hkept : dropEnd p cs = cs.takeWhile p ++ strip p cs :=
      calc dropEnd p cs = dropEnd p (cs.takeWhile p ++ cs.dropWhile p) := by
            rw [List.takeWhile_append_dropWhile]
        _ = cs.takeWhile p ++ strip p cs := dropEnd_append hnil _
    rw [hkept, strip_append_left (fun c hc => List.mem_takeWhile_imp hc), strip_strip]

/-- Characters of the kind after a text do not matter when it is stripped. -/
theorem strip_append_right (h : ∀ c ∈ b, p c) (a : List Char) : strip p (a ++ b) = strip p a := by
  have hreverse : ∀ c ∈ b.reverse, p c := fun c hc => h c (List.mem_reverse.mp hc)
  have hend : dropEnd p (a ++ b) = dropEnd p a := by
    rw [dropEnd, List.reverse_append, List.dropWhile_append_of_pos hreverse, dropEnd]
  rw [← strip_dropEnd, hend, strip_dropEnd]

/-- A text is what is left of it with characters of the kind on either side. -/
theorem exists_strip (p : Char → Bool) (cs : List Char) :
    ∃ before after, cs = before ++ strip p cs ++ after ∧ (∀ c ∈ before, p c) ∧
      ∀ c ∈ after, p c := by
  refine ⟨cs.takeWhile p, ((cs.dropWhile p).reverse.takeWhile p).reverse, ?_,
    fun c hc => List.mem_takeWhile_imp hc,
    fun c hc => List.mem_takeWhile_imp (List.mem_reverse.mp hc)⟩
  rw [List.append_assoc, strip, dropEnd, ← List.reverse_append, List.takeWhile_append_dropWhile,
    List.reverse_reverse, List.takeWhile_append_dropWhile]

end Bearer.Text
