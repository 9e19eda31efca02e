import Bearer.Text.Blank

/-!
# Splitting at a character

`cut?` splits at the first occurrence of a character, `cutLast?` at the last, and `pieces` at every
one. Main statements: what is split and joined again with the character is the same, and the part on
the near side does not hold the character; the pieces of a text are those between which the
character was put.
-/

namespace Bearer.Text

/-- The parts before and after the first occurrence of a character. -/
def cut? (c : Char) : List Char → Option (List Char × List Char)
  | [] => none
  | x :: xs => if x = c then some ([], xs) else (cut? c xs).map fun (a, b) => (x :: a, b)

/-- The parts before and after the last occurrence of a character. -/
def cutLast? (c : Char) (cs : List Char) : Option (List Char × List Char) :=
  (cut? c cs.reverse).map fun (after, before) => (before.reverse, after.reverse)

/-- The parts between the occurrences of a character, at least one. -/
def pieces (c : Char) (cs : List Char) : List (List Char) := cs.splitOn c

/-- The part before the first occurrence of a character; everything if there is none. -/
def before (c : Char) (cs : List Char) : List Char := cs.takeWhile (· ≠ c)

/-- A text that is cut is its two parts with the sign between them, which is not in the first one.
-/
theorem eq_of_cut?_eq_some {c : Char} {cs a b : List Char} (h : cut? c cs = some (a, b)) :
    cs = a ++ c :: b ∧ c ∉ a := by
  induction cs generalizing a with
  | nil => cases h
  | cons x xs ih =>
    simp only [cut?] at h
    split at h
    · next hx =>
      cases h
      simp [hx]
    · next hx =>
      obtain ⟨⟨a', b'⟩, h', heq⟩ := Option.map_eq_some_iff.1 h
      cases heq
      have := ih h'
      simp_all [eq_comm]

/-- A text is cut at the sign that follows its first part. -/
theorem cut?_append {c : Char} {a b : List Char} (h : c ∉ a) :
    cut? c (a ++ c :: b) = some (a, b) := by
  induction a with
  | nil => simp [cut?]
  | cons x xs ih =>
    simp only [List.mem_cons, not_or] at h
    simp [cut?, Ne.symm h.1, ih h.2]

/-- A text that is cut at the last sign is its two parts with the sign between them, which is not in
the second one. -/
theorem eq_of_cutLast?_eq_some {c : Char} {cs a b : List Char} (h : cutLast? c cs = some (a, b)) :
    cs = a ++ c :: b ∧ c ∉ b := by
  obtain ⟨⟨p, q⟩, hcut, heq⟩ := Option.map_eq_some_iff.1 h
  cases heq
  obtain ⟨hcs, hc⟩ := eq_of_cut?_eq_some hcut
  have := congrArg List.reverse hcs
  simp_all

/-- A text is cut at the last sign before its second part. -/
theorem cutLast?_append {c : Char} {a b : List Char} (h : c ∉ b) :
    cutLast? c (a ++ c :: b) = some (a, b) := by
  have : cut? c (b.reverse ++ c :: a.reverse) = some (b.reverse, a.reverse) :=
    cut?_append (by simpa using h)
  simp [cutLast?, this]

theorem beq_eq_false_of_notMem {c : Char} {cs : List Char} (h : c ∉ cs) :
    ∀ x ∈ cs, (x == c) = false := by
  intro x hx
  rw [beq_eq_false_iff_ne]
  rintro rfl
  exact h hx

/-- A text without the character at which it is split is one piece. -/
theorem pieces_eq_singleton {c : Char} {cs : List Char} (h : c ∉ cs) : pieces c cs = [cs] :=
  List.splitOnP_eq_singleton (beq_eq_false_of_notMem h)

/-- The first piece ends at the first occurrence of the character. -/
theorem pieces_append {c : Char} {a b : List Char} (h : c ∉ a) :
    pieces c (a ++ c :: b) = a :: pieces c b :=
  List.splitOnP_append_cons_of_forall_mem (beq_eq_false_of_notMem h) c (beq_self_eq_true c) b

end Bearer.Text
