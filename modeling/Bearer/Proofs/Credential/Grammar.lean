import Bearer.Credential
import Bearer.Proofs.Base64
import Bearer.Proofs.Text.Blank
import Mathlib.Data.Bool.AllAny
import Mathlib.Data.List.Forall2

/-!
# What presents a token

An authorization value presents a token if it consists of blanks, the name of the scheme with each
letter in either case, a space, and a text of which the token is what is left when it is trimmed.
Blanks are those of Unicode throughout, but the character right after the name is a space and
nothing else.

A token that has been read is trimmed, and so it is read again unchanged wherever it is presented.

Main statements: `bearer?_eq_some_iff`, `ofRequest?_eq_ok_iff` and `ofRequest?_settles`.
-/

namespace Bearer

namespace Text

/-! ## Case -/

/-- A character is a small letter or its capital. -/
def IsCaseOf (c small : Char) : Prop := c = small ∨ c = small.toUpper

/-- A capital becomes the letter thirty-two places after it, and nothing else changes. -/
theorem toNat_toLower (c : Char) :
    c.toLower.toNat = if 65 ≤ c.toNat ∧ c.toNat ≤ 90 then c.toNat + 32 else c.toNat := by
  have hiff : c.val ≥ 'A'.val ∧ c.val ≤ 'Z'.val ↔ 65 ≤ c.toNat ∧ c.toNat ≤ 90 := by
    simp only [ge_iff_le, UInt32.le_iff_toNat_le]
    rfl
  by_cases h : c.val ≥ 'A'.val ∧ c.val ≤ 'Z'.val
  · have hcapital := hiff.mp h
    have hlower : c.toLower.toNat = (c.toNat + 32) % 2 ^ 32 := congrArg Char.toNat (dif_pos h)
    rw [if_pos hcapital, hlower]
    omega
  · have hlower : c.toLower = c := dif_neg h
    rw [if_neg (mt hiff.mpr h), hlower]

/-- The small letters by their numbers. -/
theorem isLower_iff {c : Char} : c.isLower ↔ 97 ≤ c.toNat ∧ c.toNat ≤ 122 := by
  change (decide ('a'.val ≤ c.val) && decide (c.val ≤ 'z'.val)) = true ↔ _
  simp only [Bool.and_eq_true, decide_eq_true_eq, UInt32.le_iff_toNat_le]
  rfl

/-- A small letter stands thirty-two places after its capital. -/
theorem toNat_toUpper {small : Char} (h : small.isLower) :
    small.toUpper.toNat + 32 = small.toNat := by
  have hletters : ∀ n < 26, (Char.ofNat (97 + n)).toUpper.toNat + 32 = 97 + n := by decide
  have hrange := isLower_iff.mp h
  have hletter := hletters (small.toNat - 97) (by omega)
  rwa [Nat.add_sub_cancel' hrange.1, Char.ofNat_toNat] at hletter

/-- What becomes a small letter is that letter or its capital. -/
theorem toLower_eq_iff {c small : Char} (h : small.isLower) :
    c.toLower = small ↔ IsCaseOf c small := by
  have hrange := isLower_iff.mp h
  have hcapital := toNat_toUpper h
  rw [IsCaseOf, ← Char.toNat_inj, ← Char.toNat_inj, ← Char.toNat_inj, toNat_toLower]
  split <;> omega

/-- A text is spelled like a word of small letters. -/
theorem lowerAscii_eq_iff {name word : List Char} (h : ∀ c ∈ word, c.isLower) :
    lowerAscii name = word ↔ List.Forall₂ IsCaseOf name word := by
  induction word generalizing name with
  | nil => simp [lowerAscii]
  | cons small word ih =>
    rw [List.forall_mem_cons] at h
    cases name with
    | nil => simp [lowerAscii]
    | cons c name =>
      rw [List.forall₂_cons, ← ih h.2, ← toLower_eq_iff h.1, lowerAscii, List.map_cons,
        List.cons.injEq, lowerAscii]

/-- What holds of the letters of a word and of their capitals holds of its spelling. -/
theorem forall_mem_of_forall₂ {P : Char → Prop} {name word : List Char}
    (h : List.Forall₂ IsCaseOf name word) (hword : ∀ small ∈ word, P small ∧ P small.toUpper) :
    ∀ c ∈ name, P c := by
  induction h with
  | nil => exact List.forall_mem_nil P
  | cons hcase _ ih =>
    rw [List.forall_mem_cons] at hword ⊢
    refine ⟨?_, ih hword.2⟩
    rcases hcase with rfl | rfl
    · exact hword.1.1
    · exact hword.1.2

end Text

namespace Credential

/-- An authorization value presents a token: blanks, the name of the scheme in any case, a space,
and a text that is the token with blanks around it. -/
def Presents (authorization token : String) : Prop :=
  ∃ blanks name rest : List Char, authorization.toList = blanks ++ name ++ ' ' :: rest ∧
    (∀ c ∈ blanks, Text.isBlank c) ∧ List.Forall₂ Text.IsCaseOf name "bearer".toList ∧
    Text.trimChars rest = token.toList ∧ token ≠ ""

/-- The name of the scheme is made of letters, in whatever case. -/
theorem isScheme_iff {name : List Char} :
    Text.lowerAscii name = scheme ↔ List.Forall₂ Text.IsCaseOf name "bearer".toList :=
  Text.lowerAscii_eq_iff (List.all_iff_forall_prop.mp (by decide))

/-- No letter of the scheme is a blank. -/
theorem not_isBlank_of_isScheme {name : List Char}
    (h : List.Forall₂ Text.IsCaseOf name "bearer".toList) : ∀ c ∈ name, Text.isBlank c = false :=
  Text.forall_mem_of_forall₂ h (List.all_iff_forall_prop.mp (by decide))

/-- A trimmed authorization value that presents a token. -/
theorem trimChars_of_presents {blanks name rest : List Char}
    (hblanks : ∀ c ∈ blanks, Text.isBlank c)
    (hname : List.Forall₂ Text.IsCaseOf name "bearer".toList) (hrest : Text.trimChars rest ≠ []) :
    Text.trimChars (blanks ++ name ++ ' ' :: rest) =
      name ++ ' ' :: Text.dropEnd Text.isBlank rest := by
  have hend : Text.dropEnd Text.isBlank (' ' :: rest) = ' ' :: Text.dropEnd Text.isBlank rest := by
    refine Text.dropEnd_append (a := [' ']) fun hempty => hrest ?_
    exact Text.strip_eq_nil_iff.mpr (Text.dropEnd_eq_nil_iff.mp hempty)
  have hne : Text.dropEnd Text.isBlank (' ' :: rest) ≠ [] := by
    rw [hend]
    exact List.cons_ne_nil _ _
  obtain ⟨c, more, rfl⟩ : ∃ c more, name = c :: more := by
    cases hname with
    | cons => exact ⟨_, _, rfl⟩
  -- the name is the first that is not blank
  rw [List.append_assoc, Text.trimChars, Text.strip_append_left hblanks, Text.strip,
    Text.dropWhile_eq_self, Text.dropEnd_append hne, hend]
  rintro _ ⟨⟩
  exact not_isBlank_of_isScheme hname c List.mem_cons_self

/-- An authorization value is read exactly if it presents a token, and then as that token. -/
theorem bearer?_eq_some_iff {authorization token : String} :
    bearer? authorization = some token ↔ Presents authorization token := by
  constructor
  · intro h
    rw [bearer?] at h
    obtain ⟨⟨name, rest⟩, hcut, h⟩ := Option.bind_eq_some_iff.mp h
    obtain ⟨_, hname, h⟩ := Option.bind_eq_some_iff.mp h
    obtain ⟨_, hne, h⟩ := Option.bind_eq_some_iff.mp h
    replace hname := Base64.of_guard hname
    replace hne := Base64.of_guard hne
    cases h
    -- what has been trimmed away stands before the name and after the rest
    obtain ⟨before, after, hsplit, hbefore, hafter⟩ :=
      Text.exists_strip Text.isBlank authorization.toList
    rw [← Text.trimChars, (Text.eq_of_cut?_eq_some hcut).1] at hsplit
    refine ⟨before, name, rest ++ after, ?_, hbefore, isScheme_iff.mp hname, ?_, ?_⟩
    · rw [hsplit]
      simp
    · rw [String.toList_ofList, Text.trimChars, Text.strip_append_right hafter, Text.trimChars]
    · simpa using hne
  · rintro ⟨blanks, name, rest, htext, hblanks, hname, htoken, hne⟩
    have hnil : Text.trimChars rest ≠ [] := by
      rw [htoken]
      simpa using hne
    have hspace : ' ' ∉ name := fun hmem =>
      absurd (not_isBlank_of_isScheme hname ' ' hmem) (by decide)
    rw [bearer?, htext, trimChars_of_presents hblanks hname hnil, Text.cut?_append hspace]
    change (guard (Text.lowerAscii name = scheme) >>= fun _ =>
      guard (Text.trimChars (Text.dropEnd Text.isBlank rest) ≠ []) >>= fun _ =>
        some (String.ofList (Text.trimChars (Text.dropEnd Text.isBlank rest)))) = _
    have hdrop : Text.trimChars (Text.dropEnd Text.isBlank rest) = token.toList := by
      rw [Text.trimChars, Text.strip_dropEnd, ← Text.trimChars, htoken]
    rw [Base64.bind_guard (isScheme_iff.mpr hname), hdrop, Base64.bind_guard (htoken ▸ hnil),
      String.ofList_toList]

/-- A cookie's value is read as what is left of it when it is trimmed, unless that is nothing. -/
theorem ofCookie?_eq_some_iff {value token : String} :
    ofCookie? value = some token ↔ Text.trim value = token ∧ token ≠ "" := by
  rw [ofCookie?, Text.trim]
  split
  · next hnil =>
    rw [hnil]
    constructor
    · intro h
      cases h
    · rintro ⟨hempty, hne⟩
      exact absurd hempty.symm hne
  · next hsome =>
    rw [Option.some.injEq]
    refine ⟨fun h => ⟨h, ?_⟩, And.left⟩
    rintro rfl
    exact hsome (by simpa using h)

/-- A token that has been presented is its own trimmed form. -/
theorem Presents.trim_eq {authorization token : String} (h : Presents authorization token) :
    Text.trim token = token := by
  obtain ⟨-, -, rest, -, -, -, htoken, -⟩ := h
  rw [Text.trim, ← htoken, Text.trimChars_trimChars, htoken, String.ofList_toList]

/-- The name of the scheme and a space present what is left of a text when it is trimmed. -/
theorem presents_bearer {token : String} (h : Text.trim token ≠ "") :
    Presents ("Bearer " ++ token) (Text.trim token) :=
  ⟨[], "Bearer".toList, token.toList, String.toList_append, List.forall_mem_nil _,
    isScheme_iff.mp (by decide), (Text.toList_trim token).symm, h⟩

variable {authorization? cookie? : Option String} {token : String}

/-- A token is taken from a header exactly if there is one that presents it. -/
theorem bind_bearer?_eq_some_iff :
    authorization?.bind bearer? = some token ↔
      ∃ authorization ∈ authorization?, Presents authorization token := by
  simp only [Option.bind_eq_some_iff, bearer?_eq_some_iff, Option.mem_def]

/-- No token is taken exactly if no header presents one. -/
theorem bind_bearer?_eq_none_iff :
    authorization?.bind bearer? = none ↔
      ¬∃ authorization ∈ authorization?, ∃ token, Presents authorization token := by
  simp only [Option.eq_none_iff_forall_ne_some, ne_eq, bind_bearer?_eq_some_iff]
  exact ⟨fun h ⟨authorization, hmem, token, htoken⟩ => h token ⟨authorization, hmem, htoken⟩,
    fun h token ⟨authorization, hmem, htoken⟩ => h ⟨authorization, hmem, token, htoken⟩⟩

/-- A token is taken from a cookie exactly if it is its trimmed value and not empty. -/
theorem bind_ofCookie?_eq_some_iff :
    cookie?.bind ofCookie? = some token ↔
      ∃ value ∈ cookie?, Text.trim value = token ∧ token ≠ "" := by
  simp only [Option.bind_eq_some_iff, ofCookie?_eq_some_iff, Option.mem_def]

/-- The token of a request is the one that its authorization value presents. If that presents none,
it is what is left of its cookie. -/
theorem ofRequest?_eq_ok_iff :
    ofRequest? authorization? cookie? = .ok token ↔
      (∃ authorization ∈ authorization?, Presents authorization token) ∨
        ((¬∃ authorization ∈ authorization?, ∃ other, Presents authorization other) ∧
          ∃ value ∈ cookie?, Text.trim value = token ∧ token ≠ "") := by
  rw [← bind_bearer?_eq_some_iff, ← bind_bearer?_eq_none_iff, ← bind_ofCookie?_eq_some_iff,
    ← Option.or_eq_some_iff, ofRequest?]
  split
  · next other h => rw [h, Except.ok.injEq, Option.some.injEq]
  · next h =>
    rw [h]
    exact ⟨nofun, nofun⟩

/-- A request is refused only for having no token. -/
theorem ofRequest?_eq_error_iff {refusal : Refusal} :
    ofRequest? authorization? cookie? = .error refusal ↔
      refusal = .missingToken ∧
        (¬∃ authorization ∈ authorization?, ∃ other, Presents authorization other) ∧
          ∀ value ∈ cookie?, Text.trim value = "" := by
  have hcookie : cookie?.bind ofCookie? = none ↔ ∀ value ∈ cookie?, Text.trim value = "" := by
    simp only [Option.eq_none_iff_forall_ne_some, ne_eq, bind_ofCookie?_eq_some_iff]
    constructor
    · intro h value hvalue
      by_contra hne
      exact h _ ⟨value, hvalue, rfl, hne⟩
    · rintro h _ ⟨value, hvalue, rfl, hne⟩
      exact hne (h value hvalue)
  -- there is no token in the request exactly if neither place holds one
  rw [← bind_bearer?_eq_none_iff, ← hcookie, ← Option.or_eq_none_iff, ofRequest?]
  split
  · next other h =>
    rw [h]
    exact ⟨nofun, fun hnone => absurd hnone.2 (Option.some_ne_none other)⟩
  · next h =>
    exact ⟨fun hmissing => ⟨(Except.error.inj hmissing).symm, h⟩, fun hnone => hnone.1 ▸ rfl⟩

/-- A token that a request presents is a trimmed text that is not empty. -/
theorem trim_eq_of_ofRequest? (h : ofRequest? authorization? cookie? = .ok token) :
    token ≠ "" ∧ Text.trim token = token := by
  rcases ofRequest?_eq_ok_iff.mp h with ⟨authorization, -, hpresents⟩ | ⟨-, value, -, rfl, hne⟩
  · have htrim := hpresents.trim_eq
    obtain ⟨-, -, -, -, -, -, -, hne⟩ := hpresents
    exact ⟨hne, htrim⟩
  · exact ⟨hne, Text.trim_trim value⟩

/-- An authorization value is read exactly if it presents a token. The token of a request is the one
that its authorization value presents, whatever its cookie is; if that presents none, it is what is
left of the trimmed cookie; and a request is refused, for a missing token, exactly if there is
neither. A token that is read is trimmed and not empty, and it is read again unchanged, both from an
authorization value beside any cookie and from a cookie alone. -/
theorem ofRequest?_settles (authorization? cookie? : Option String) :
    (∀ authorization token, bearer? authorization = some token ↔ Presents authorization token) ∧
    (∀ token, ofRequest? authorization? cookie? = .ok token ↔
      (∃ authorization ∈ authorization?, Presents authorization token) ∨
        ((¬∃ authorization ∈ authorization?, ∃ other, Presents authorization other) ∧
          ∃ value ∈ cookie?, Text.trim value = token ∧ token ≠ "")) ∧
    (∀ refusal, ofRequest? authorization? cookie? = .error refusal ↔
      refusal = .missingToken ∧
        (¬∃ authorization ∈ authorization?, ∃ other, Presents authorization other) ∧
          ∀ value ∈ cookie?, Text.trim value = "") ∧
    ∀ token, ofRequest? authorization? cookie? = .ok token →
      token ≠ "" ∧ Text.trim token = token ∧
        (∀ other?, ofRequest? (some ("Bearer " ++ token)) other? = .ok token) ∧
        ofRequest? none (some token) = .ok token := by
  refine ⟨fun _ _ => bearer?_eq_some_iff, fun _ => ofRequest?_eq_ok_iff,
    fun _ => ofRequest?_eq_error_iff, fun token h => ?_⟩
  obtain ⟨hne, htrim⟩ := trim_eq_of_ofRequest? h
  refine ⟨hne, htrim, fun other? => ?_, ?_⟩
  · have hpresents := presents_bearer (htrim.symm ▸ hne)
    rw [htrim] at hpresents
    exact ofRequest?_eq_ok_iff.mpr (.inl ⟨_, rfl, hpresents⟩)
  · refine ofRequest?_eq_ok_iff.mpr (.inr ⟨?_, token, rfl, htrim, hne⟩)
    rintro ⟨authorization, hnone, -⟩
    cases hnone

/-- A scheme with nothing behind it does not stand in the way of a cookie with blanks around it, and
what is read from that cookie is read again from an authorization value. -/
theorem ofRequest?_settles_sample :
    ofRequest? (some "\tBEARER \u00A0 ") (some " a.b.c\n") = .ok "a.b.c" ∧
      ofRequest? (some "Bearer a.b.c") (some "d.e.f") = .ok "a.b.c" := by
  have hread : ofRequest? (some "\tBEARER \u00A0 ") (some " a.b.c\n") = .ok "a.b.c" := by
    decide +kernel
  obtain ⟨-, -, -, hagain⟩ := ofRequest?_settles (some "\tBEARER \u00A0 ") (some " a.b.c\n")
  obtain ⟨-, -, hheader, -⟩ := hagain "a.b.c" hread
  exact ⟨hread, hheader (some "d.e.f")⟩

end Credential
end Bearer
