import Bearer.Email
import Bearer.Proofs.Text.LowerCase

/-!
# The one form of an address

An address that has been brought to its one form is in that form for good: it is accepted as it is,
and nothing of it is changed any more.

Main statements: `normalize?_eq_ok_iff`, `lower_trim_of_normalize?` and `isWellFormed_iff`.
-/

namespace Bearer.Email

/-- Folding a second time changes nothing. -/
@[simp]
theorem fold_fold (cs : List Char) : fold (fold cs) = fold cs := by
  rw [fold, fold, Text.trimChars_lowerChars, Text.lowerChars_lowerChars]

/-- An address is normalized exactly if its folded text is well formed, and to that text. -/
theorem normalize?_eq_ok_iff {text address : String} :
    normalize? text = .ok address ↔
      isAddress (fold text.toList) ∧ address = String.ofList (fold text.toList) := by
  rw [normalize?]
  split
  · next h =>
    rw [Except.ok.injEq, eq_comm]
    exact ⟨fun heq => ⟨h, heq⟩, And.right⟩
  · next h => exact ⟨nofun, fun hforms => absurd hforms.1 h⟩

/-- What is counted for an address is its one form, whether it has been brought to it before or
not. -/
theorem lower_trim_of_normalize? {text address : String} (h : normalize? text = .ok address) :
    Text.lower (Text.trim text) = address ∧ Text.lower (Text.trim address) = address := by
  have hform : address.toList = fold text.toList := by
    rw [(normalize?_eq_ok_iff.mp h).2, String.toList_ofList]
  constructor
  · rw [Text.lower, Text.toList_trim, ← fold, ← hform, String.ofList_toList]
  · rw [Text.lower, Text.toList_trim, ← fold, hform, fold_fold, ← hform, String.ofList_toList]

/-- Once it has been brought to its one form, an address is left alone by every step of that. -/
theorem settled_of_normalize? {text address : String} (h : normalize? text = .ok address) :
    normalize? address = .ok address ∧ Text.trim address = address ∧
      Text.lower address = address := by
  obtain ⟨haddress, rfl⟩ := normalize?_eq_ok_iff.mp h
  have hfold : fold (String.ofList (fold text.toList)).toList = fold text.toList := by
    rw [String.toList_ofList, fold_fold]
  refine ⟨normalize?_eq_ok_iff.mpr ⟨hfold.symm ▸ haddress, by rw [hfold]⟩, ?_, ?_⟩
  · rw [Text.trim, String.toList_ofList, fold, Text.trimChars_lowerChars]
  · rw [Text.lower, String.toList_ofList, fold, Text.lowerChars_lowerChars]

/-- Only the trimmed text in lower case matters. -/
theorem normalize?_congr {text other : String}
    (h : Text.lower (Text.trim text) = Text.lower (Text.trim other)) :
    normalize? text = normalize? other := by
  have hfold : fold text.toList = fold other.toList := by
    have hchars := congrArg String.toList h
    rwa [Text.toList_lower, Text.toList_lower, Text.toList_trim, Text.toList_trim] at hchars
  rw [normalize?, normalize?, hfold]

/-- A text has one at sign, with something on both sides of it, and no blanks. -/
structure IsWellFormed (text : String) : Prop where
  /-- There is exactly one at sign. -/
  one : text.toList.count '@' = 1
  /-- It has something on both sides. -/
  sides : ∃ name domain : String, name ≠ "" ∧ domain ≠ "" ∧ text = name ++ "@" ++ domain
  /-- No character is blank. -/
  notBlank : ∀ c ∈ text.toList, Text.isBlank c = false

/-- The check of an address, character by character, is the grammar. -/
theorem isWellFormed_iff {cs : List Char} : isAddress cs ↔ IsWellFormed (String.ofList cs) := by
  rw [isAddress]
  constructor
  · intro h
    split at h
    · next name domain hcut =>
      simp only [Bool.and_eq_true, Bool.not_eq_true', List.isEmpty_eq_false_iff,
        List.contains_eq_mem, decide_eq_false_iff_not] at h
      obtain ⟨⟨⟨hname, hdomain⟩, hone⟩, hblank⟩ := h
      obtain ⟨rfl, hfirst⟩ := Text.eq_of_cut?_eq_some hcut
      refine ⟨?_, ⟨String.ofList name, String.ofList domain, by simpa using hname,
        by simpa using hdomain, ?_⟩, ?_⟩
      · rw [String.toList_ofList, List.count_append, List.count_cons_self,
          List.count_eq_zero.mpr hfirst, List.count_eq_zero.mpr hone]
      · rw [← String.toList_inj]
        simp
      · rw [String.toList_ofList]
        exact fun c hc => Bool.eq_false_iff.mpr (List.any_eq_false.mp hblank c hc)
    · cases h
  · rintro ⟨hone, ⟨name, domain, hname, hdomain, htext⟩, hblank⟩
    have hcs : cs = name.toList ++ '@' :: domain.toList := by
      rw [← String.toList_ofList (l := cs), htext]
      simp
    -- one at sign is between the two, so there is none in either
    rw [String.toList_ofList, hcs, List.count_append, List.count_cons_self] at hone
    have hfirst : '@' ∉ name.toList := List.count_eq_zero.mp (by omega)
    have hlast : '@' ∉ domain.toList := List.count_eq_zero.mp (by omega)
    rw [String.toList_ofList] at hblank
    rw [hcs, Text.cut?_append hfirst, ← hcs]
    simp only [Bool.and_eq_true, Bool.not_eq_true', List.isEmpty_eq_false_iff,
      List.contains_eq_mem, decide_eq_false_iff_not]
    refine ⟨⟨⟨?_, ?_⟩, hlast⟩, ?_⟩
    · simpa using hname
    · simpa using hdomain
    · simpa using hblank

/-- A text can be brought to the one form of an address exactly if it is well formed when it has
been trimmed and brought to lower case. -/
theorem exists_normalize?_iff {text : String} :
    (∃ address, normalize? text = .ok address) ↔ IsWellFormed (Text.lower (Text.trim text)) := by
  rw [Text.lower, Text.toList_trim, ← fold, ← isWellFormed_iff]
  simp only [normalize?_eq_ok_iff]
  constructor
  · rintro ⟨_, h, -⟩
    exact h
  · intro h
    exact ⟨_, h, rfl⟩

end Bearer.Email
