import Bearer.Proofs.Base64
import Bearer.Proofs.Calendar
import Bearer.Proofs.Credential
import Bearer.Proofs.Json.RoundTrip
import Bearer.Proofs.Token.Decode

/-!
# Verifying what was signed

A token that was signed says exactly the claims it was signed for, whatever texts and numbers they
hold, unless one of the texts is blank. When such a token verifies is then a matter of four times.

Main statements: `says?_sign`, and `verify_sign`.
-/

namespace Bearer.Token

variable {secret : Secret} {claims : Claims}

/-! ## Segments -/

/-- The symbols of a segment are those of which tokens are made, other than the dot. -/
theorem symbol_of_mem_segment {bytes : Bytes} {c : Char} (h : c ∈ segment bytes) :
    c ≠ '.' ∧ (c.isAlphanum ∨ c = '-' ∨ c = '_') := by
  -- the alphabet is small enough to look through
  have hsymbol : ∀ n < 64, Base64.urlSafe.symbol n ≠ '.' ∧
      ((Base64.urlSafe.symbol n).isAlphanum ∨ Base64.urlSafe.symbol n = '-' ∨
        Base64.urlSafe.symbol n = '_') := by
    decide
  obtain ⟨n, hn, rfl⟩ := Base64.exists_symbol_of_mem_encode h
  exact hsymbol n hn

/-- No dot stands in a segment. -/
theorem dot_notMem_segment (bytes : Bytes) : '.' ∉ segment bytes :=
  fun h => (symbol_of_mem_segment h).1 rfl

/-- The bytes of a segment are read back from it. -/
theorem segmentBytes?_segment (bytes : Bytes) : segmentBytes? (segment bytes) = some bytes :=
  Base64.decode?_encode Base64.urlSafe bytes

/-! ## Header and payload -/

/-- The header that tokens are signed with is accepted. -/
theorem accepts_header : accepts header := by
  decide

/-- A payload that is written says nothing in the standard fields that cannot be read. -/
theorem hasReadableStandard_toJson (claims : Claims) : hasReadableStandard claims.toJson := by
  rfl

/-- A text is blank exactly if trimming leaves no character. -/
theorem trim_eq_empty_iff {s : String} : Text.trim s = "" ↔ Text.trimChars s.toList = [] := by
  rw [← String.toList_inj, Text.toList_trim]
  rfl

/-- A text is read back unless it is blank. -/
theorem textNotBlank?_text (s : String) :
    (Json.text s).textNotBlank? = if Text.trim s = "" then none else some s := by
  rw [Json.textNotBlank?, Json.text?_text]
  by_cases h : Text.trim s = ""
  · rw [if_pos h]
    simp [trim_eq_empty_iff.mp h]
  · have hchars : Text.trimChars s.toList ≠ [] := fun hnil => h (trim_eq_empty_iff.mpr hnil)
    rw [if_neg h]
    simp [hchars]

/-- The five claims are found in a payload that is written. -/
theorem fields?_toJson (claims : Claims) :
    claims.toJson.fields? Claims.names =
      some [some (Json.text claims.subject), some claims.role.toJson,
        some (Json.text claims.tokenId), some (.int claims.issuedAt.toInt),
        some (.int claims.expiry.toInt)] := by
  rw [Claims.toJson, Json.fields?, if_pos (by simp [Json.member])]
  rfl

/-- A signed word is read back from the number that is written for it. -/
theorem int64?_toInt (n : Int64) : (Json.int n.toInt).int64? = some n := by
  rw [Json.int64?, if_pos ⟨n.minValue_le_toInt, n.toInt_le⟩, Int64.ofInt_toInt]

/-- A payload that is written says its claims, unless one of their texts is blank. -/
theorem ofPayload?_toJson (claims : Claims) :
    Claims.ofPayload? claims.toJson =
      if Text.trim claims.subject ≠ "" ∧ Text.trim claims.tokenId ≠ "" then some claims
      else none := by
  rw [Claims.ofPayload?, fields?_toJson]
  simp only [textNotBlank?_text, int64?_toInt, Role.toJson, Json.text?_text, Option.bind_some,
    Role.ofName?_name, Option.bind_eq_bind]
  by_cases hsubject : Text.trim claims.subject = ""
  · simp [hsubject]
  · by_cases htokenId : Text.trim claims.tokenId = ""
    · simp [hsubject, htokenId]
    · simp [hsubject, htokenId]

/-! ## Tokens -/

/-- A token is its signed part, a dot and the signature of that part. -/
theorem toList_sign (secret : Secret) (claims : Claims) :
    (sign secret claims).toList =
      signedPart claims ++ '.' :: signature secret (signedPart claims) := by
  rw [sign, String.toList_ofList]

/-- A signed token is made of the characters of which tokens are. -/
theorem isCompact_sign (secret : Secret) (claims : Claims) :
    Credential.IsCompact (sign secret claims) := by
  have hsegment {bytes : Bytes} {c : Char} (h : c ∈ segment bytes) :
      c.isAlphanum ∨ c = '-' ∨ c = '_' ∨ c = '.' := by
    rcases (symbol_of_mem_segment h).2 with halnum | hdash | hline
    · exact .inl halnum
    · exact .inr (.inl hdash)
    · exact .inr (.inr (.inl hline))
  intro c hc
  rw [toList_sign, signedPart, signature] at hc
  -- a token is segments with dots between them
  simp only [List.mem_append, List.mem_cons] at hc
  rcases hc with (hheader | rfl | hpayload) | rfl | hsignature
  · exact hsegment hheader
  · exact .inr (.inr (.inr rfl))
  · exact hsegment hpayload
  · exact .inr (.inr (.inr rfl))
  · exact hsegment hsignature

/-- Nothing is trimmed off the characters of a signed token. -/
theorem trimChars_sign (secret : Secret) (claims : Claims) :
    Text.trimChars (sign secret claims).toList = (sign secret claims).toList :=
  (isCompact_sign secret claims).trimChars

/-- A signed token is its own trimmed text. -/
theorem trim_sign (secret : Secret) (claims : Claims) :
    Text.trim (sign secret claims) = sign secret claims :=
  (isCompact_sign secret claims).trim

/-- No signed token is empty. -/
theorem sign_ne_empty (secret : Secret) (claims : Claims) : sign secret claims ≠ "" := by
  intro h
  have hchars := congrArg String.toList h
  rw [toList_sign] at hchars
  exact List.append_ne_nil_of_right_ne_nil _ (List.cons_ne_nil _ _) hchars

/-- The payload of a signed token is that of its claims. -/
theorem payload?_sign (secret : Secret) (claims : Claims) :
    payload? secret (sign secret claims).toList = some claims.toJson := by
  have hheader : segmentBytes? (segment header.write) >>= Json.parse? = some header := by
    rw [segmentBytes?_segment]
    exact Json.parse?_write header rfl
  have hbody : segmentBytes? (segment claims.payload) >>= Json.parse? = some claims.toJson := by
    rw [segmentBytes?_segment]
    exact Json.parse?_write claims.toJson rfl
  -- neither the signature nor the payload holds a dot, so the cuts fall where they were joined
  have hcut : Text.cutLast? '.' (sign secret claims).toList =
      some (signedPart claims, signature secret (signedPart claims)) := by
    rw [toList_sign, signature]
    exact Text.cutLast?_append (dot_notMem_segment _)
  have hcutSigned : Text.cutLast? '.' (signedPart claims) =
      some (segment header.write, segment claims.payload) :=
    Text.cutLast?_append (dot_notMem_segment _)
  rw [payload?, hcut]
  refine (Base64.bind_guard rfl _).trans ?_
  rw [hcutSigned]
  change (segmentBytes? (segment header.write) >>= Json.parse? >>= fun head =>
    guard (accepts head = true) >>= fun _ =>
      segmentBytes? (segment claims.payload) >>= Json.parse?) = _
  rw [hheader]
  change (guard (accepts header = true) >>= fun _ =>
    segmentBytes? (segment claims.payload) >>= Json.parse?) = _
  rw [Base64.bind_guard accepts_header, hbody]

/-- A signed token says its claims, unless one of their texts is blank. -/
theorem says?_sign (secret : Secret) (claims : Claims) :
    says? secret (sign secret claims) =
      if Text.trim claims.subject ≠ "" ∧ Text.trim claims.tokenId ≠ "" then some claims
      else none := by
  rw [says?, trimChars_sign, claims?, payload?_sign]
  simp only [Option.bind_eq_bind, Option.bind_some, ofPayload?_toJson, hasReadableStandard_toJson]
  split <;> rfl

/-- When a signed token is decoded. -/
theorem decode_sign (secret : Secret) (claims : Claims) (now : Time) :
    decode secret (sign secret claims) now =
      if (Text.trim claims.subject ≠ "" ∧ Text.trim claims.tokenId ≠ "") ∧ isTimely claims now then
        .ok claims
      else .error .invalidToken := by
  rw [decode_eq, says?_sign]
  by_cases hblank : Text.trim claims.subject ≠ "" ∧ Text.trim claims.tokenId ≠ ""
  · rw [if_pos hblank]
    by_cases htimely : isTimely claims now
    · rw [if_pos ⟨hblank, htimely⟩]
      exact if_pos htimely
    · rw [if_neg fun h => htimely h.2]
      exact if_neg htimely
  · rw [if_neg hblank, if_neg fun h => hblank h.1]

/-- A signed token verifies to its claims, whatever texts and numbers they hold, exactly if neither
text is blank, it expires after it was issued, it was issued no more than the allowed skew ahead of
the clock, and it has not run out. If only the last fails it is refused as expired, and in every
other case as invalid. The one sum that is computed stays within sixty-four bits. -/
theorem verify_sign (secret : Secret) (claims : Claims) (now : Time) (hnow : now.InCalendar) :
    verify secret (sign secret claims) now =
      (if Text.trim claims.subject ≠ "" ∧ Text.trim claims.tokenId ≠ "" ∧
          claims.issuedAt.toInt < claims.expiry.toInt ∧
          claims.issuedAt.toInt ≤ now.seconds + 300 then
        if now.seconds ≤ claims.expiry.toInt then .ok claims else .error .expiredToken
      else .error .invalidToken) ∧
    Int64.minValue.toInt ≤ now.seconds + clockSkew ∧
      now.seconds + clockSkew ≤ Int64.maxValue.toInt := by
  refine ⟨?_, ?_⟩
  · have htimely : isTimely claims now ↔ claims.issuedAt.toInt < claims.expiry.toInt ∧
        claims.issuedAt.toInt ≤ now.seconds + 300 := by
      rw [isTimely, clockSkew, Bool.and_eq_true, decide_eq_true_eq, decide_eq_true_eq, and_comm]
    have hdecode := decode_sign secret claims now
    simp only [htimely, and_assoc] at hdecode
    -- decoding checks all but the expiry, which verifying checks last
    split
    · next hproper =>
      rw [if_pos hproper] at hdecode
      rw [verify_of_decode hdecode]
      by_cases hexpired : now.seconds ≤ claims.expiry.toInt
      · rw [if_pos hexpired, if_neg (by simpa [Claims.isExpired] using hexpired)]
      · rw [if_neg hexpired, if_pos (by simpa [Claims.isExpired] using hexpired)]
    · next himproper =>
      rw [if_neg himproper] at hdecode
      exact verify_of_decode_error hdecode
  · -- the calendar ends long before sixty-four bits do
    rw [Int64.toInt_minValue, Int64.toInt_maxValue]
    simp only [Time.InCalendar, Claims.firstSecond, Claims.lastSecond, clockSkew] at *
    omega

def sampleSecret : Secret := ⟨Text.utf8 "J8Kq2mPvRx4TnZs9YwLcGf7DhBe3Xa6W", by decide +kernel⟩

/-- Claims with a quote, a backslash, a line break and a letter above ASCII in their texts. -/
def sampleClaims : Claims := ⟨"user \"\\\n", .admin, "τ-1", 1000, 2000⟩

/-- A token that is good through the second 2000. -/
def sample : String := sign sampleSecret sampleClaims

/-- The sample is decoded at every moment at which its times make sense. -/
theorem decode_sample {now : Time} (h : isTimely sampleClaims now) :
    decode sampleSecret sample now = .ok sampleClaims := by
  rw [sample, decode_sign, if_pos ⟨by decide, h⟩]

/-- A token with unusual texts is good through its last second, and expired in the next. -/
theorem verify_sign_sample :
    verify sampleSecret sample ⟨2000999999999⟩ = .ok sampleClaims ∧
      verify sampleSecret sample ⟨2001000000000⟩ = .error .expiredToken := by
  constructor
  · rw [sample, (verify_sign sampleSecret sampleClaims ⟨2000999999999⟩ (by decide)).1]
    exact (if_pos (by decide)).trans (if_pos (by decide))
  · rw [sample, (verify_sign sampleSecret sampleClaims ⟨2001000000000⟩ (by decide)).1]
    exact (if_pos (by decide)).trans (if_neg (by decide))

end Bearer.Token
