import Bearer.Token.Basic

/-!
# What decoding and verifying come to

What a token says is fixed by its text and the secret. Decoding adds that its times make sense at a
moment, and verifying that it has not run out. Each of the two has one refusal of its own.
-/

namespace Bearer.Token

variable {secret : Secret} {token : String} {now : Time} {claims : Claims} {refusal : Refusal}

/-- What a token says, if its signature, header and payload hold; blanks around it do not matter. -/
def says? (secret : Secret) (token : String) : Option Claims :=
  claims? secret (Text.trimChars token.toList)

/-- A text is decoded to what it says, if that is timely. -/
theorem decode_eq (secret : Secret) (token : String) (now : Time) :
    decode secret token now =
      match says? secret token with
      | some claims => if isTimely claims now then .ok claims else .error .invalidToken
      | none => .error .invalidToken := rfl

/-- A decoded token says its claims, and their times make sense. -/
theorem decode_eq_ok_iff :
    decode secret token now = .ok claims ↔
      says? secret token = some claims ∧ isTimely claims now := by
  rw [decode, says?]
  cases claims? secret (Text.trimChars token.toList) with
  | none => simp
  | some found =>
    by_cases h : isTimely found now
    · simp only [if_pos h, Except.ok.injEq, Option.some.injEq]
      refine ⟨fun heq => ⟨heq, heq ▸ h⟩, And.left⟩
    · simp only [if_neg h, reduceCtorEq, Option.some.injEq, false_iff, not_and]
      rintro rfl
      exact h

/-- The one refusal of decoding. -/
theorem eq_invalidToken_of_decode (h : decode secret token now = .error refusal) :
    refusal = .invalidToken := by
  rw [decode] at h
  split at h
  · split at h
    · cases h
    · exact (Except.error.inj h).symm
  · exact (Except.error.inj h).symm

/-- What is decoded is verified unless it has run out. -/
theorem verify_of_decode (h : decode secret token now = .ok claims) :
    verify secret token now =
      if claims.isExpired now then .error .expiredToken else .ok claims := by
  rw [verify, h]
  simp only [bind, Except.bind]
  cases claims.isExpired now <;> rfl

/-- What is not decoded is not verified either, for the same reason. -/
theorem verify_of_decode_error (h : decode secret token now = .error refusal) :
    verify secret token now = .error refusal := by
  rw [verify, h]
  rfl

/-- A token verifies exactly if it is decoded and has not run out. -/
theorem verify_eq_ok_iff :
    verify secret token now = .ok claims ↔
      decode secret token now = .ok claims ∧ claims.isExpired now = false := by
  cases hdecode : decode secret token now with
  | error refusal => simp [verify_of_decode_error hdecode]
  | ok found =>
    rw [verify_of_decode hdecode]
    by_cases h : found.isExpired now
    · simp only [if_pos h, reduceCtorEq, Except.ok.injEq, false_iff, not_and]
      rintro rfl
      simp [h]
    · simp only [if_neg h, Except.ok.injEq, iff_self_and]
      rintro rfl
      simpa using h

/-- Tokens of a list that have the same identity expire in the same second. -/
def ExpiriesAgree (secret : Secret) (tokens : List String) : Prop :=
  ∀ one ∈ tokens, ∀ other ∈ tokens, ∀ a b, says? secret one = some a →
    says? secret other = some b → a.tokenId = b.tokenId → a.expiry = b.expiry

end Bearer.Token
