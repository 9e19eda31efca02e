/-!
# Decimal numbers as text

Printing is the shortest decimal form. Reading follows the rule of configuration values and stored
counters: an optional leading `+`, then digits, with leading zeros allowed and a limit on the value.
The leftmost fault decides: a character that is no digit, or the first digit that brings the value
to the limit. Main statement: `unsigned?_digits`, reading the digits of a number below the limit
gives that number.
-/

namespace Bearer.Text.Decimal

/-- Why a text is no number. -/
inductive Fault
  /-- There is no character at all. -/
  | empty
  /-- A character is no digit, or only a sign stands there. -/
  | badDigit
  /-- The value reaches the limit. -/
  | tooLarge
  deriving DecidableEq, Repr

/-- How a fault is worded. -/
def Fault.message : Fault → String
  | .empty => "cannot parse integer from empty string"
  | .badDigit => "invalid digit found in string"
  | .tooLarge => "number too large to fit in target type"

def digits (n : Nat) : List Char := Nat.toDigits 10 n

/-- The decimal form of an integer, with a minus sign when it is negative. -/
def ofInt : Int → List Char
  | .ofNat n => digits n
  | .negSucc n => '-' :: digits (n + 1)

/-- Reads the digits that follow a value already read. -/
def readDigits (limit : Nat) : Nat → List Char → Except Fault Nat
  | value, [] => .ok value
  | value, c :: cs =>
    if c.isDigit then
      let next := value * 10 + (c.toNat - '0'.toNat)
      if next < limit then readDigits limit next cs else .error .tooLarge
    else .error .badDigit

/-- Reads a number below `limit`. -/
def unsigned? (limit : Nat) : List Char → Except Fault Nat
  | [] => .error .empty
  | ['+'] => .error .badDigit
  | '+' :: cs => readDigits limit 0 cs
  | cs => readDigits limit 0 cs

/-- Digits are read one part after the other. -/
theorem readDigits_append (limit value : Nat) (a b : List Char) :
    readDigits limit value (a ++ b) =
      (readDigits limit value a).bind fun value => readDigits limit value b := by
  induction a generalizing value with
  | nil => rfl
  | cons c cs ih =>
    simp only [List.cons_append, readDigits]
    split
    · split
      · exact ih _
      · rfl
    · rfl

/-- The digit of a number below ten is a digit, and its value is that number. -/
theorem digitChar_isDigit {d : Nat} (h : d < 10) :
    d.digitChar.isDigit ∧ d.digitChar.toNat - '0'.toNat = d := by
  match d with
  | 0 | 1 | 2 | 3 | 4 | 5 | 6 | 7 | 8 | 9 => decide
  | n + 10 => omega

/-- One digit more is read as long as the number stays below the limit. -/
theorem readDigits_digitChar {limit value d : Nat} (hd : d < 10) (h : value * 10 + d < limit) :
    readDigits limit value [d.digitChar] = .ok (value * 10 + d) := by
  obtain ⟨hdigit, hvalue⟩ := digitChar_isDigit hd
  simp only [readDigits, hdigit, hvalue, if_pos h, if_true]

/-- A number below the limit is read back from its digits. -/
theorem readDigits_digits {limit n : Nat} (h : n < limit) :
    readDigits limit 0 (digits n) = .ok n := by
  induction n using Nat.strongRecOn with
  | ind n ih =>
    rw [digits, Nat.toDigits_eq_if (by decide)]
    split
    · next hn => simpa using @readDigits_digitChar limit 0 n hn (by omega)
    · next hn =>
      -- the last digit comes off the end
      rw [readDigits_append]
      have := ih (n / 10) (by omega) (by omega)
      rw [digits] at this
      rw [this]
      show readDigits limit (n / 10) [(n % 10).digitChar] = _
      rw [readDigits_digitChar (Nat.mod_lt _ (by decide)) (by omega)]
      congr 1; omega

/-- Every number has a digit. -/
theorem digits_ne_nil (n : Nat) : digits n ≠ [] := by
  simp [digits]

/-- What a number is written with is digits. -/
theorem isDigit_of_mem_digits {n : Nat} {c : Char} (h : c ∈ digits n) : c.isDigit :=
  Nat.isDigit_of_mem_toDigits (by decide) (by decide) h

/-- A number below the limit is read back from its text. -/
theorem unsigned?_digits {limit n : Nat} (h : n < limit) : unsigned? limit (digits n) = .ok n := by
  have hne := digits_ne_nil n
  have hd : ∀ c ∈ digits n, c.isDigit := fun _ => isDigit_of_mem_digits
  have hread := readDigits_digits h
  revert hne hd hread
  generalize digits n = cs
  intro hne hd hread
  unfold unsigned?
  split
  · exact absurd rfl hne
  · exact absurd (hd '+' (by simp)) (by decide)
  · exact absurd (hd '+' (by simp)) (by decide)
  · exact hread

end Bearer.Text.Decimal
