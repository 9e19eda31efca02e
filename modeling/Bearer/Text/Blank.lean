/-!
# Blank characters

The characters that count as blank when a text is trimmed: Unicode's `White_Space` property. The
zero-width characters are not among them.

Main statements: what is stripped neither starts nor ends with a character of the kind
(`head?_strip`, `getLast?_strip`), and a text that does neither stays as it is (`strip_eq_self`). So
trimming a second time changes nothing.
-/

namespace Bearer.Text

/-- Whether a character has Unicode's `White_Space` property. -/
def isBlank (c : Char) : Bool :=
  let n := c.toNat
  (0x09 ≤ n && n ≤ 0x0D) || n == 0x20 || n == 0x85 || n == 0xA0 || n == 0x1680 ||
    (0x2000 ≤ n && n ≤ 0x200A) || n == 0x2028 || n == 0x2029 || n == 0x202F || n == 0x205F ||
    n == 0x3000

/-- Drops the characters of a kind from the end. -/
def dropEnd (p : Char → Bool) (cs : List Char) : List Char :=
  (cs.reverse.dropWhile p).reverse

/-- Drops the characters of a kind from both ends. -/
def strip (p : Char → Bool) (cs : List Char) : List Char :=
  dropEnd p (cs.dropWhile p)

/-- What is left starts with a character of another kind. -/
theorem head?_dropWhile_false {p : Char → Bool} {cs : List Char} {c : Char}
    (h : (cs.dropWhile p).head? = some c) : p c = false := by
  have := List.head?_dropWhile_not p cs
  rw [h] at this
  simpa using this

/-- What is dropped from the end leaves nothing of the kind there. -/
theorem getLast?_dropEnd {p : Char → Bool} {cs : List Char} {c : Char}
    (h : (dropEnd p cs).getLast? = some c) : p c = false := by
  rw [dropEnd, List.getLast?_reverse] at h
  exact head?_dropWhile_false h

/-- What is left when the end is dropped is the beginning. -/
theorem dropEnd_isPrefix (p : Char → Bool) (cs : List Char) : dropEnd p cs <+: cs := by
  rw [dropEnd, ← List.reverse_suffix, List.reverse_reverse]
  exact List.dropWhile_suffix p

/-- A stripped text does not start with a character of the kind. -/
theorem head?_strip {p : Char → Bool} {cs : List Char} {c : Char}
    (h : (strip p cs).head? = some c) : p c = false := by
  obtain ⟨t, ht⟩ := dropEnd_isPrefix p (cs.dropWhile p)
  have hc : (cs.dropWhile p).head? = some c := by
    rw [← ht, List.head?_append, ← strip, h]
    rfl
  exact head?_dropWhile_false hc

/-- A stripped text does not end with a character of the kind. -/
theorem getLast?_strip {p : Char → Bool} {cs : List Char} {c : Char}
    (h : (strip p cs).getLast? = some c) : p c = false :=
  getLast?_dropEnd h

/-- Nothing is dropped from a text that starts with a character of another kind. -/
theorem dropWhile_eq_self {p : Char → Bool} {cs : List Char}
    (h : ∀ c, cs.head? = some c → p c = false) : cs.dropWhile p = cs := by
  cases cs with
  | nil => rfl
  | cons c cs => simp [h c rfl]

/-- Nothing is stripped from a text that neither starts nor ends with a character of the kind. -/
theorem strip_eq_self {p : Char → Bool} {cs : List Char}
    (hfirst : ∀ c, cs.head? = some c → p c = false)
    (hlast : ∀ c, cs.getLast? = some c → p c = false) : strip p cs = cs := by
  rw [strip, dropWhile_eq_self hfirst, dropEnd, dropWhile_eq_self (by simpa using hlast),
    List.reverse_reverse]

/-- Stripping a second time changes nothing. -/
@[simp]
theorem strip_strip (p : Char → Bool) (cs : List Char) : strip p (strip p cs) = strip p cs :=
  strip_eq_self (fun _ => head?_strip) fun _ => getLast?_strip

def trimChars (cs : List Char) : List Char := strip isBlank cs

/-- A text without the blanks at its two ends. -/
def trim (s : String) : String := String.ofList (trimChars s.toList)

@[simp]
theorem toList_trim (s : String) : (trim s).toList = trimChars s.toList := by
  simp [trim]

@[simp]
theorem trimChars_trimChars (cs : List Char) : trimChars (trimChars cs) = trimChars cs :=
  strip_strip isBlank cs

@[simp]
theorem trim_trim (s : String) : trim (trim s) = trim s := by
  simp [trim]

end Bearer.Text
