import Bearer.Http.Cookie
import Bearer.Proofs.Credential.Grammar
import Bearer.Rpc.Metadata
import Mathlib.Data.Bool.AllAny

/-!
# Presenting a token

A token consists of letters, digits, dashes, low lines and dots. None of these characters means
anything to a header, a cookie or the metadata of a call: each of them hands over the very token
that was put in.

Main statements: `Http.Request.token?_of_header`, `Http.Request.token?_of_cookie` and
`Rpc.Metadata.token?_of_first?`.
-/

namespace Bearer

namespace Text

/-- The bytes of a text are those of its characters. -/
theorem utf8_eq_flatMap (s : String) : utf8 s = s.toList.flatMap String.utf8EncodeChar := by
  have hbytes : s.toByteArray = s.toList.utf8Encode := by
    rw [← String.toByteArray_ofList, String.ofList_toList]
  rw [utf8, hbytes, List.utf8Encode, List.data_toByteArray]

/-- Each ASCII character is one byte. -/
theorem utf8_of_ascii {s : String} (h : ∀ c ∈ s.toList, c.toNat < 128) :
    utf8 s = s.toList.map fun c => UInt8.ofNat c.toNat := by
  rw [utf8_eq_flatMap]
  generalize s.toList = cs at h
  induction cs with
  | nil => rfl
  | cons c cs ih =>
    rw [List.forall_mem_cons] at h
    have hbyte : String.utf8EncodeChar c = [UInt8.ofNat c.toNat] :=
      if_pos (Nat.le_of_lt_succ h.1)
    rw [List.flatMap_cons, hbyte, ih h.2, List.map_cons, List.singleton_append]

/-- An ASCII character is read back from its byte. -/
theorem ofUInt8_ofNat_toNat {c : Char} (h : c.toNat < 128) :
    Char.ofUInt8 (UInt8.ofNat c.toNat) = c := by
  apply Char.ext
  apply UInt32.toNat.inj
  change (UInt8.ofNat c.toNat).toUInt32.toNat = c.toNat
  rw [UInt8.toNat_toUInt32, UInt8.toNat_ofNat']
  omega

/-- Whether a character is visible ASCII or a space. -/
def IsPrintable (c : Char) : Prop := 0x20 ≤ c.toNat ∧ c.toNat < 0x7F

instance (c : Char) : Decidable (IsPrintable c) := inferInstanceAs (Decidable (_ ∧ _))

/-- An ASCII text of visible bytes is read back from them. -/
theorem visible?_utf8_of_all {s : String} (hascii : ∀ c ∈ s.toList, c.toNat < 128)
    (hvisible : ∀ c ∈ s.toList, isVisible (UInt8.ofNat c.toNat)) : visible? (utf8 s) = some s := by
  have hall : ((s.toList.map fun c => UInt8.ofNat c.toNat).all isVisible) = true := by
    rw [List.all_map, List.all_eq_true]
    exact hvisible
  rw [visible?, utf8_of_ascii hascii, if_pos hall, List.map_map]
  have hback : s.toList.map (Char.ofUInt8 ∘ fun c => UInt8.ofNat c.toNat) = s.toList := by
    refine (List.map_congr_left fun c hc => ?_).trans (List.map_id _)
    exact ofUInt8_ofNat_toNat (hascii c hc)
  rw [hback, String.ofList_toList]

/-- The byte of an ASCII character has its number. -/
theorem toNat_ofNat_of_ascii {c : Char} (h : c.toNat < 128) :
    (UInt8.ofNat c.toNat).toNat = c.toNat := by
  rw [UInt8.toNat_ofNat']
  exact Nat.mod_eq_of_lt (Nat.lt_trans h (by decide))

/-- The byte of a printable character may stand in the value of a header. -/
theorem IsPrintable.isVisible {c : Char} (h : IsPrintable c) :
    isVisible (UInt8.ofNat c.toNat) := by
  simp only [Text.isVisible, Bool.or_eq_true, Bool.and_eq_true, decide_eq_true_eq,
    UInt8.le_iff_toNat_le, UInt8.lt_iff_toNat_lt, toNat_ofNat_of_ascii (Nat.lt_succ_of_lt h.2)]
  exact .inl h

/-- A printable text is read back from its bytes. -/
theorem visible?_utf8 {s : String} (h : ∀ c ∈ s.toList, IsPrintable c) :
    visible? (utf8 s) = some s :=
  visible?_utf8_of_all (fun c hc => Nat.lt_succ_of_lt (h c hc).2) fun c hc => (h c hc).isVisible

/-- Nothing is trimmed off a text without blanks. -/
theorem trimChars_eq_self {cs : List Char} (h : ∀ c ∈ cs, isBlank c = false) :
    trimChars cs = cs :=
  strip_eq_self (fun c hfirst => h c (List.mem_of_mem_head? hfirst)) fun c hlast =>
    h c (List.mem_of_mem_getLast? hlast)

/-- Bytes without a percent sign stand for themselves. -/
theorem Percent.decode_eq_self {keep : UInt8 → Bool} {bytes : Bytes} (h : 0x25 ∉ bytes) :
    decode keep bytes = bytes := by
  induction bytes with
  | nil => rw [decode]
  | cons b rest ih =>
    rw [List.mem_cons, not_or] at h
    rw [decode, if_neg (Ne.symm h.1), ih h.2]

end Text

namespace Credential

/-- A text is made of the characters of which tokens are. -/
def IsCompact (token : String) : Prop :=
  ∀ c ∈ token.toList, c.isAlphanum ∨ c = '-' ∨ c = '_' ∨ c = '.'

instance (token : String) : Decidable (IsCompact token) :=
  inferInstanceAs (Decidable (∀ c ∈ token.toList, _))

section IsCompact

variable {token : String} (h : IsCompact token) {c : Char}
include h

/-- The characters of tokens lie within visible ASCII, beyond the space, the quotation mark and the
percent sign; the semicolon and the equals sign are not among them. -/
theorem IsCompact.range (hc : c ∈ token.toList) :
    0x2D ≤ c.toNat ∧ c.toNat < 0x7F ∧ c ≠ ';' ∧ c ≠ '=' := by
  rcases h c hc with halnum | rfl | rfl | rfl
  · have hne (other : Char) (hother : other.isAlphanum = false) : c ≠ other := by
      rintro rfl
      exact Bool.false_ne_true (hother.symm.trans halnum)
    refine and_assoc.mp ⟨?_, hne ';' rfl, hne '=' rfl⟩
    -- letters and digits by their numbers
    change ((decide ('A'.val ≤ c.val ∧ c.val ≤ 'Z'.val) ||
      (decide ('a'.val ≤ c.val) && decide (c.val ≤ 'z'.val))) ||
      (decide ('0'.val ≤ c.val) && decide (c.val ≤ '9'.val))) = true at halnum
    simp only [Bool.or_eq_true, Bool.and_eq_true, decide_eq_true_eq,
      UInt32.le_iff_toNat_le] at halnum
    change ((65 ≤ c.toNat ∧ c.toNat ≤ 90) ∨ (97 ≤ c.toNat ∧ c.toNat ≤ 122)) ∨
      (48 ≤ c.toNat ∧ c.toNat ≤ 57) at halnum
    omega
  · decide
  · decide
  · decide

/-- The characters of a compact token are printable. -/
theorem IsCompact.isPrintable (hc : c ∈ token.toList) : Text.IsPrintable c := by
  have hrange := h.range hc
  exact ⟨Nat.le_trans (by decide) hrange.1, hrange.2.1⟩

/-- No character of a compact token is a blank. -/
theorem IsCompact.isBlank (hc : c ∈ token.toList) : Text.isBlank c = false := by
  have hrange := h.range hc
  simp only [Text.isBlank, Bool.or_eq_false_iff, Bool.and_eq_false_iff, decide_eq_false_iff_not,
    beq_eq_false_iff_ne]
  omega

/-- Nothing is trimmed off the characters of a compact token. -/
theorem IsCompact.trimChars : Text.trimChars token.toList = token.toList :=
  Text.trimChars_eq_self fun _ => h.isBlank

/-- A compact token is its own trimmed text. -/
theorem IsCompact.trim : Text.trim token = token := by
  rw [Text.trim, h.trimChars, String.ofList_toList]

end IsCompact

/-- An authorization value of the bearer scheme hands over what follows the scheme, without the
blanks around it. -/
theorem bearer?_bearer {token : String} (h : Text.trim token ≠ "") :
    bearer? ("Bearer " ++ token) = some (Text.trim token) :=
  bearer?_eq_some_iff.mpr (presents_bearer h)

variable {token : String} (h : IsCompact token) (hne : token ≠ "")
include h hne

/-- An authorization value of the bearer scheme hands over its token. -/
theorem bearer?_of_isCompact : bearer? ("Bearer " ++ token) = some token := by
  rw [bearer?_bearer (h.trim.symm ▸ hne), h.trim]

/-- A token is presented by its authorization value, whether or not there is a cookie as well. -/
theorem ofRequest?_of_bearer (cookie? : Option String) :
    ofRequest? (Text.visible? (Text.utf8 ("Bearer " ++ token))) cookie? = .ok token := by
  have hprintable : ∀ c ∈ ("Bearer " ++ token).toList, Text.IsPrintable c := by
    rw [String.toList_append, List.forall_mem_append]
    exact ⟨List.all_iff_forall_prop.mp (by decide), fun c => h.isPrintable⟩
  rw [Text.visible?_utf8 hprintable, ofRequest?, Option.bind_some, bearer?_of_isCompact h hne,
    Option.some_or]

/-- A cookie's value hands over its token. -/
theorem ofCookie?_of_isCompact : ofCookie? token = some token := by
  have hnil : token.toList ≠ [] := by simpa using hne
  rw [ofCookie?, h.trimChars]
  simp only [if_neg hnil, String.ofList_toList]

end Credential

namespace Http

variable {token : String}

/-- A value without quotes is taken as it stands. -/
theorem Cookie.unquoted_eq_self {cs : List Char} (h : '"' ∉ cs) : unquoted cs = cs := by
  rw [unquoted]
  rintro rest rfl
  exact h List.mem_cons_self

/-- A value of ASCII characters above the percent sign is taken as it stands. -/
theorem Cookie.decoded?_eq_some {s : String} (h : ∀ c ∈ s.toList, 0x25 < c.toNat ∧ c.toNat < 128) :
    decoded? s.toList = some s := by
  have hpercent : 0x25 ∉ Text.utf8 s := by
    rw [Text.utf8_of_ascii fun c hc => (h c hc).2, List.mem_map]
    rintro ⟨c, hc, heq⟩
    have hbyte := congrArg UInt8.toNat heq
    rw [UInt8.toNat_ofNat', Nat.mod_eq_of_lt (Nat.lt_trans (h c hc).2 (by decide))] at hbyte
    exact absurd hbyte (Nat.ne_of_gt (h c hc).1)
  rw [decoded?, String.ofList_toList, Text.Percent.decode_eq_self hpercent, Text.ofUtf8?_utf8]

/-- A cookie with a token, as it stands in a header. -/
theorem Cookie.pair?_of_isCompact (h : Credential.IsCompact token) :
    pair? ("access_token=" ++ token).toList = some (Credential.cookieName, token) := by
  have htext : ("access_token=" ++ token).toList =
      "access_token".toList ++ '=' :: token.toList := by
    rw [String.toList_append]
    rfl
  have hcut : Text.cut? '=' ("access_token".toList ++ '=' :: token.toList) =
      some ("access_token".toList, token.toList) :=
    Text.cut?_append (by decide)
  have hname : Text.trimChars "access_token".toList = "access_token".toList := by decide
  -- a token has no quotes and no percent sign, so it is read as it stands
  have hquotes : unquoted token.toList = token.toList :=
    unquoted_eq_self fun hmem => absurd (h.range hmem).1 (by decide)
  have hvalue : decoded? token.toList = some token := by
    refine decoded?_eq_some fun c hc => ?_
    have hrange := h.range hc
    omega
  rw [pair?, htext, hcut]
  change (guard (Text.trimChars "access_token".toList ≠ []) >>= fun _ =>
    decoded? (Text.trimChars "access_token".toList) >>= fun name =>
      decoded? (Text.trimChars (unquoted (Text.trimChars token.toList))) >>= fun value =>
        some (name, value)) = _
  rw [hname, h.trimChars, hquotes, h.trimChars, Base64.bind_guard (by decide),
    decoded?_eq_some (List.all_iff_forall_prop.mp (by decide)), hvalue]
  rfl

/-- A header with a single cookie. -/
theorem Cookie.ofHeader?_of_isCompact (h : Credential.IsCompact token) :
    ofHeader? (Text.utf8 ("access_token=" ++ token)) = some [(Credential.cookieName, token)] := by
  have htext : ("access_token=" ++ token).toList = "access_token=".toList ++ token.toList :=
    String.toList_append ..
  -- a token has no semicolon, so the header is one piece
  have hpieces : Text.pieces ';' ("access_token=" ++ token).toList =
      [("access_token=" ++ token).toList] := by
    refine Text.pieces_eq_singleton ?_
    rw [htext, List.mem_append, not_or]
    exact ⟨by decide, fun hmem => (h.range hmem).2.2.1 rfl⟩
  have htrim : Text.trimChars ("access_token=" ++ token).toList =
      ("access_token=" ++ token).toList := by
    refine Text.trimChars_eq_self ?_
    rw [htext, List.forall_mem_append]
    exact ⟨List.all_iff_forall_prop.mp (by decide), fun c => h.isBlank⟩
  rw [ofHeader?, Text.ofUtf8?_utf8]
  change ((Text.pieces ';' ("access_token=" ++ token).toList).map Text.trimChars |>.filter
    (· ≠ [])).mapM pair? = _
  rw [hpieces, List.map_singleton, htrim, List.filter_cons_of_pos (by simp),
    List.filter_nil, List.mapM_cons, pair?_of_isCompact h]
  rfl

namespace Request

variable {request : Request}

/-- The first authorization header of a request presents a token. -/
def BearsInHeader (request : Request) (token : String) : Prop :=
  (request.all "authorization").head? = some (Text.utf8 ("Bearer " ++ token))

/-- A request has no authorization header, and its only cookie presents a token. -/
def BearsInCookie (request : Request) (token : String) : Prop :=
  request.all "authorization" = [] ∧ request.all "cookie" = [Text.utf8 ("access_token=" ++ token)]

/-- A request that bears a compact token in its header is taken to bear it. -/
theorem token?_of_header (h : Credential.IsCompact token) (hne : token ≠ "")
    (hbears : request.BearsInHeader token) : request.token? = .ok token := by
  rw [token?, text?, hbears, Option.bind_some]
  exact Credential.ofRequest?_of_bearer h hne _

/-- A request that bears a compact token in its cookie, and no header, is taken to bear it. -/
theorem token?_of_cookie (h : Credential.IsCompact token) (hne : token ≠ "")
    (hbears : request.BearsInCookie token) : request.token? = .ok token := by
  have hnone : request.text? "authorization" = none := by
    rw [text?, hbears.1]
    rfl
  have hcookie : request.cookie? Credential.cookieName = some token := by
    rw [cookie?, cookies?, hbears.2, List.mapM_cons, Cookie.ofHeader?_of_isCompact h]
    rfl
  rw [token?, hnone, hcookie, Credential.ofRequest?]
  simp only [Option.bind_none, Option.bind_some, Option.none_or,
    Credential.ofCookie?_of_isCompact h hne]

end Request
end Http

namespace Rpc.Metadata

/-- The metadata of a call hand over the token of their first authorization value. -/
theorem token?_of_first? {metadata : Metadata} {token : String} (h : Credential.IsCompact token)
    (hne : token ≠ "")
    (hfirst : metadata.first? authorization = some (Text.utf8 ("Bearer " ++ token))) :
    metadata.token? = .ok token := by
  rw [token?, text?, hfirst, Option.bind_some]
  exact Credential.ofRequest?_of_bearer h hne none

end Rpc.Metadata

end Bearer
