import Bearer.Net.Address
import Bearer.Text.Blank
import Mathlib.Data.List.TakeWhile
import Mathlib.Data.Option.Basic

/-!
# Addresses of hosts and of sockets

The text of a host's address is made of digits, points and colons, and cannot be taken for the
address of a socket: four bytes in points have no colon for a port, and groups with colons would
have to stand in brackets.

Main statements: `Address.ofSocket?_text`, `Address.trimChars_text`, and
`Address.wellFormed_of_ofSocket?`, by which the host of a socket's address is an address.
-/

namespace Bearer.Net

/-! ## Characters -/

/-- A character is a digit in the lower case, of a radix up to sixteen. -/
def IsDigit (c : Char) : Prop := ∃ d < 16, c = Nat.digitChar d

/-- What a number is written with in a radix up to sixteen is digits. -/
theorem IsDigit.of_mem_toDigits {radix n : Nat} {c : Char} (hradix : 1 < radix)
    (hle : radix ≤ 16) (h : c ∈ Nat.toDigits radix n) : IsDigit c := by
  induction n using Nat.strongRecOn with
  | ind n ih =>
    rw [Nat.toDigits_eq_if hradix] at h
    split at h
    · next hlt => exact ⟨n, Nat.lt_of_lt_of_le hlt hle, List.mem_singleton.mp h⟩
    · next hge =>
      -- the last digit, or one of those before it
      rcases List.mem_append.mp h with hmem | hmem
      · exact ih (n / radix) (Nat.div_lt_self (by omega) hradix) hmem
      · have hlt : n % radix < radix := Nat.mod_lt _ (by omega)
        exact ⟨n % radix, Nat.lt_of_lt_of_le hlt hle, List.mem_singleton.mp hmem⟩

/-- No digit is blank, or a sign of punctuation. -/
theorem IsDigit.plain {c : Char} (h : IsDigit c) :
    Text.isBlank c = false ∧ c ≠ '.' ∧ c ≠ ':' ∧ c ≠ '[' ∧ c ≠ 'u' := by
  obtain ⟨d, hd, rfl⟩ := h
  revert d
  decide

/-- What stands in joined texts stands in one of them, or joins them. -/
theorem eq_or_mem_of_mem_intercalate {c x : Char} {parts : List (List Char)}
    (h : c ∈ [x].intercalate parts) : c = x ∨ ∃ part ∈ parts, c ∈ part := by
  induction parts with
  | nil => cases h
  | cons part rest ih =>
    cases rest with
    | nil => exact .inr ⟨part, List.mem_singleton_self part, by simpa using h⟩
    | cons next rest =>
      rw [List.intercalate_cons_cons, List.append_assoc] at h
      rcases List.mem_append.mp h with hmem | hmem
      · exact .inr ⟨part, List.mem_cons_self, hmem⟩
      · rcases List.mem_cons.mp hmem with rfl | hmem
        · exact .inl rfl
        · obtain heq | ⟨other, hother, hc⟩ := ih hmem
          · exact .inl heq
          · exact .inr ⟨other, List.mem_cons_of_mem _ hother, hc⟩

/-- What joins more than one text stands between them. -/
theorem mem_intercalate_of_lt {x : Char} {parts : List (List Char)} (h : 1 < parts.length) :
    x ∈ [x].intercalate parts := by
  match parts, h with
  | part :: next :: rest, _ =>
    rw [List.intercalate_cons_cons]
    simp

namespace Address

variable {address : Address} {cs : List Char} {c : Char}

/-- An address of the longer family has eight groups. -/
def WellFormed : Address → Prop
  | .v4 .. => True
  | .v6 groups => groups.length = 8

/-- Four bytes are written with digits and points. -/
theorem mem_dots {a b c d : UInt8} {x : Char} (h : x ∈ dots a b c d) : x = '.' ∨ IsDigit x := by
  refine (eq_or_mem_of_mem_intercalate h).imp_right ?_
  rintro ⟨part, hpart, hx⟩
  obtain ⟨byte, -, rfl⟩ := List.mem_map.mp hpart
  exact .of_mem_toDigits (by decide) (by decide) hx

/-- Four bytes are written with a point. -/
theorem point_mem_dots (a b c d : UInt8) : '.' ∈ dots a b c d :=
  mem_intercalate_of_lt (by simp)

/-- Groups are written with digits and colons. -/
theorem mem_colons {groups : List UInt16} (h : c ∈ colons groups) : c = ':' ∨ IsDigit c := by
  refine (eq_or_mem_of_mem_intercalate h).imp_right ?_
  rintro ⟨part, hpart, hc⟩
  obtain ⟨group, -, rfl⟩ := List.mem_map.mp hpart
  exact .of_mem_toDigits (by decide) (by decide) hc

/-- How the text of an address looks: bytes in points without a colon, bytes in points after a
colon, or groups with colons and no points. -/
theorem text_cases (h : address.WellFormed) :
    (∃ a b c d, address.text.toList = dots a b c d) ∨
      (∃ a b c d, address.text.toList = "::ffff:".toList ++ dots a b c d) ∨
      ':' ∈ address.text.toList ∧ ∀ c ∈ address.text.toList, c = ':' ∨ IsDigit c := by
  unfold text
  split
  · exact .inl ⟨_, _, _, _, String.toList_ofList⟩
  · refine .inr (.inl ?_)
    rw [String.toList_append]
    exact ⟨_, _, _, _, congrArg (_ ++ ·) String.toList_ofList⟩
  · next groups _ =>
    refine .inr (.inr ?_)
    rw [String.toList_ofList]
    split
    · -- a run of zeros is left out between two colons
      refine ⟨by simp, fun c hc => ?_⟩
      simp only [List.mem_append, List.mem_cons, List.not_mem_nil, or_false, or_self] at hc
      rcases hc with (hc | hc) | hc
      · exact mem_colons hc
      · exact .inl hc
      · exact mem_colons hc
    · refine ⟨mem_intercalate_of_lt ?_, fun c => mem_colons⟩
      have hlength : groups.length = 8 := h
      rw [List.length_map, hlength]
      decide

/-- An address is written with digits, points and colons. -/
theorem mem_text (h : address.WellFormed) (hc : c ∈ address.text.toList) :
    c = '.' ∨ c = ':' ∨ IsDigit c := by
  obtain ⟨_, _, _, _, heq⟩ | ⟨_, _, _, _, heq⟩ | ⟨-, hchars⟩ := text_cases h
  · rw [heq] at hc
    exact (mem_dots hc).imp_right .inr
  · rw [heq] at hc
    rcases List.mem_append.mp hc with hc | hc
    · -- the letters are those of the digit fifteen
      have hcolon : c = ':' ∨ c = 'f' := by
        simpa [or_comm, or_left_comm] using hc
      exact .inr (hcolon.imp_right fun hf => ⟨15, by decide, hf⟩)
    · exact (mem_dots hc).imp_right .inr
  · exact .inr (hchars c hc)

/-- No blank stands in an address. -/
theorem isBlank_of_mem_text (h : address.WellFormed) (hc : c ∈ address.text.toList) :
    Text.isBlank c = false := by
  rcases mem_text h hc with rfl | rfl | hdigit
  · rfl
  · rfl
  · exact hdigit.plain.1

/-- No address is written as an empty text. -/
theorem text_ne_nil (h : address.WellFormed) : address.text.toList ≠ [] := by
  obtain ⟨a, b, c, d, heq⟩ | ⟨_, _, _, _, heq⟩ | ⟨hmem, -⟩ := text_cases h
  · rw [heq]
    exact List.ne_nil_of_mem (point_mem_dots a b c d)
  · rw [heq]
    exact List.append_ne_nil_of_left_ne_nil (by decide) _
  · exact List.ne_nil_of_mem hmem

/-- There is nothing to trim about the text of an address. -/
theorem trimChars_text (h : address.WellFormed) :
    Text.trimChars address.text.toList = address.text.toList :=
  Text.strip_eq_self (fun _ hc => isBlank_of_mem_text h (List.mem_of_head? hc))
    fun _ hc => isBlank_of_mem_text h (List.mem_of_getLast? hc)

end Address

/-! ## Reading -/

/-- A character is read off a text exactly if the text starts with it. -/
theorem char?_eq_some_iff {c : Char} {cs rest : List Char} :
    char? c cs = some rest ↔ cs = c :: rest := by
  cases cs with
  | nil => simp [char?]
  | cons x xs => simp [char?]

/-- A number that is read is made of digits. -/
theorem number?_eq_some {radix limit : Nat} {maxDigits : Option Nat} {allowZeros : Bool}
    {cs rest : List Char} {value : Nat}
    (h : number? radix limit maxDigits allowZeros cs = some (value, rest)) :
    ∃ digits ≠ [], (∀ c ∈ digits, (Text.hexValue? c).any (· < radix)) ∧ cs = digits ++ rest := by
  simp only [number?, Option.bind_eq_bind, Option.bind_eq_some_iff, Option.guard_eq_some'] at h
  obtain ⟨-, ⟨hne, -⟩, -, -, -, -, hrest⟩ := h
  cases hrest
  refine ⟨_, hne, fun c hc => ?_, List.takeWhile_append_dropWhile.symm⟩
  exact List.mem_takeWhile_imp (p := fun c => (Text.hexValue? c).any (· < radix)) hc

/-- Four bytes in points start with a digit and hold a point. -/
theorem dotted?_eq_some {cs rest : List Char} {bytes : UInt8 × UInt8 × UInt8 × UInt8}
    (h : dotted? cs = some (bytes, rest)) :
    (∃ c ∈ cs.head?, (Text.hexValue? c).any (· < 10)) ∧
      ∃ front, cs = front ++ rest ∧ '.' ∈ front := by
  simp only [dotted?, Option.bind_eq_bind, Option.bind_eq_some_iff, char?_eq_some_iff] at h
  obtain ⟨⟨a, _⟩, ha, ⟨b, _⟩, ⟨_, rfl, hb⟩, ⟨c, _⟩, ⟨_, rfl, hc⟩, ⟨d, _⟩, ⟨_, rfl, hd⟩, hrest⟩ := h
  cases hrest
  obtain ⟨first, hne, hdigits, rfl⟩ := number?_eq_some ha
  obtain ⟨second, -, -, rfl⟩ := number?_eq_some hb
  obtain ⟨third, -, -, rfl⟩ := number?_eq_some hc
  obtain ⟨fourth, -, -, rfl⟩ := number?_eq_some hd
  constructor
  · obtain ⟨c, tail, rfl⟩ := List.exists_cons_of_ne_nil hne
    exact ⟨c, rfl, hdigits c List.mem_cons_self⟩
  · refine ⟨first ++ '.' :: second ++ '.' :: third ++ '.' :: fourth, ?_, by simp⟩
    simp only [List.append_assoc, List.cons_append]

/-- A colon stands before a port. -/
theorem colon_mem_of_isPort {cs : List Char} (h : isPort cs) : ':' ∈ cs := by
  rw [isPort] at h
  split at h
  · next hport =>
    obtain ⟨rest, hcolon, -⟩ := Option.bind_eq_some_iff.mp hport
    rw [char?_eq_some_iff.mp hcolon]
    exact List.mem_cons_self
  · cases h

/-- The first groups are at most as many as there is room for. -/
theorem length_groups_le (isFirst : Bool) (limit : Nat) (cs : List Char) :
    (groups isFirst limit cs).1.length ≤ limit := by
  induction limit generalizing isFirst cs with
  | zero => exact Nat.le_refl 0
  | succ limit ih =>
    unfold groups
    simp only
    split
    · next hdotted =>
      -- four bytes are only read where there is room for two groups
      have hroom : limit ≠ 0 := by
        rintro rfl
        cases hdotted
      have hlength : 2 ≤ limit + 1 := Nat.succ_le_succ (Nat.pos_of_ne_zero hroom)
      exact hlength
    · split
      · next group rest _ =>
        have := ih false rest
        rw [List.length_cons]
        omega
      · exact Nat.zero_le _

/-- Eight groups are read as eight. -/
theorem length_eightGroups? {cs rest : List Char} {groups : List UInt16}
    (h : eightGroups? cs = some (groups, rest)) : groups.length = 8 := by
  have hhead := length_groups_le true 8 cs
  simp only [eightGroups?] at h
  split at h
  · next heq =>
    cases h
    exact heq
  · simp only [Option.bind_eq_bind, Option.bind_eq_some_iff] at h
    obtain ⟨-, -, rest', -, hgroups⟩ := h
    have htail := length_groups_le true (7 - (Net.groups true 8 cs).1.length) rest'
    cases hgroups
    rw [List.length_append, List.length_append, List.length_replicate]
    omega

namespace Address

/-- What is read as a socket of the shorter family starts with a decimal digit, has points and a
colon in it, and its host is well formed. -/
theorem ofDottedSocket?_eq_some {cs : List Char} {host : Address}
    (h : ofDottedSocket? cs = some host) :
    (∃ c ∈ cs.head?, (Text.hexValue? c).any (· < 10)) ∧ '.' ∈ cs ∧ ':' ∈ cs ∧
      host.WellFormed := by
  simp only [ofDottedSocket?, Option.bind_eq_bind, Option.bind_eq_some_iff,
    Option.guard_eq_some'] at h
  obtain ⟨⟨⟨a, b, c, d⟩, rest⟩, hdotted, -, hport, hhost⟩ := h
  cases hhost
  obtain ⟨hfirst, front, rfl, hpoint⟩ := dotted?_eq_some hdotted
  exact ⟨hfirst, List.mem_append_left _ hpoint, List.mem_append_right _ (colon_mem_of_isPort hport),
    trivial⟩

/-- What is read as a socket of the longer family starts with a bracket, and its host is well
formed. -/
theorem ofBracketSocket?_eq_some {cs : List Char} {host : Address}
    (h : ofBracketSocket? cs = some host) : cs.head? = some '[' ∧ host.WellFormed := by
  simp only [ofBracketSocket?, Option.bind_eq_bind, Option.bind_eq_some_iff, char?_eq_some_iff,
    Option.guard_eq_some'] at h
  obtain ⟨⟨groups, rest⟩, ⟨_, rfl, hgroups⟩, _, -, -, -, hhost⟩ := h
  cases hhost
  exact ⟨rfl, length_eightGroups? hgroups⟩

/-- The host of a socket's address is an address. -/
theorem wellFormed_of_ofSocket? {cs : List Char} {host : Address} (h : ofSocket? cs = some host) :
    host.WellFormed := by
  rcases Option.or_eq_some_iff.mp h with h | ⟨-, h⟩
  · exact (ofDottedSocket?_eq_some h).2.2.2
  · exact (ofBracketSocket?_eq_some h).2

/-- The text of an address is not that of a socket. -/
theorem ofSocket?_text {address : Address} (h : address.WellFormed) :
    ofSocket? address.text.toList = none := by
  rw [Option.eq_none_iff_forall_ne_some]
  intro host hhost
  rcases Option.or_eq_some_iff.mp hhost with hdotted | ⟨-, hbracket⟩
  · obtain ⟨⟨c, hc, hdigit⟩, hpoint, hcolon, -⟩ := ofDottedSocket?_eq_some hdotted
    obtain ⟨_, _, _, _, heq⟩ | ⟨_, _, _, _, heq⟩ | ⟨-, hchars⟩ := text_cases h
    · -- no colon for a port
      rw [heq] at hcolon
      rcases mem_dots hcolon with h | h
      · exact absurd h (by decide)
      · exact h.plain.2.2.1 rfl
    · -- a colon at the front
      rw [heq] at hc
      cases hc
      exact absurd hdigit (by decide)
    · -- no point
      rcases hchars '.' hpoint with h | h
      · exact absurd h (by decide)
      · exact h.plain.2.1 rfl
  · have hmem := List.mem_of_head? (ofBracketSocket?_eq_some hbracket).1
    rcases mem_text h hmem with h | h | h
    · exact absurd h (by decide)
    · exact absurd h (by decide)
    · exact h.plain.2.2.2.1 rfl

end Address
end Bearer.Net
