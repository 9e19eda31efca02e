import Bearer.Proofs.Calendar

/-!
# How long a token is remembered

The span for which a revoked token is remembered runs from the moment of its revocation to the end
of the last second in which it is good. Arithmetic that stays within sixty-four bits does not cut it
short: within the calendar, the span ends after every moment at which the token is good.

Main statements: `remaining?_isNone_iff`, there is nothing left of exactly the tokens that have run
out, and `lt_deadline_of_remaining?`, the deadline is later than every moment at which the token is
good.
-/

namespace Bearer.Claims

variable {claims : Claims} {now later : Time}

/-- To saturate is to cut at both ends of the range of signed words. -/
theorem saturate_eq (n : Int) :
    saturate n = max (-9223372036854775808) (min n 9223372036854775807) := by
  have hmin : Int64.minValue.toInt = -9223372036854775808 := by decide
  have hmax : Int64.maxValue.toInt = 9223372036854775807 := by decide
  rw [saturate, hmin, hmax]

/-- An expiry is a signed word. -/
theorem expiry_mem_range (claims : Claims) :
    -9223372036854775808 ≤ claims.expiry.toInt ∧ claims.expiry.toInt < 9223372036854775808 :=
  ⟨claims.expiry.le_toInt, claims.expiry.toInt_lt⟩

/-- A token has not run out exactly through the second of its expiry. -/
theorem isExpired_eq_false_iff :
    claims.isExpired now = false ↔ now.seconds ≤ claims.expiry.toInt := by
  simp [isExpired]

/-- What has not run out later has not run out now. -/
theorem isExpired_of_le (h : now ≤ later) (hlater : claims.isExpired later = false) :
    claims.isExpired now = false := by
  rw [isExpired_eq_false_iff] at *
  simp only [Time.seconds, Time.le_def] at *
  omega

/-- The end of a token, in milliseconds, comes after every moment of the calendar at which the token
is good. -/
theorem millis_lt_endMillis (hcal : now.InCalendar) (hgood : claims.isExpired now = false) :
    now.millis < claims.endMillis := by
  obtain ⟨hlow, hhigh⟩ := claims.expiry_mem_range
  rw [isExpired_eq_false_iff] at hgood
  simp only [Time.InCalendar, Time.seconds, firstSecond, lastSecond] at *
  simp only [Time.millis, endMillis, saturate_eq]
  omega

/-- There is nothing left of a token exactly when it has run out. -/
theorem remaining?_isNone_iff (hcal : now.InCalendar) :
    claims.remaining? now = none ↔ claims.isExpired now := by
  rw [remaining?]
  by_cases hexp : claims.isExpired now
  · simp [hexp]
  · -- the end is a later millisecond than now, so at least one is left
    have hend := millis_lt_endMillis hcal (by simpa using hexp)
    have hleft : saturate (claims.endMillis - now.millis) > 0 := by
      rw [saturate_eq]
      omega
    simp [hexp, hleft]

/-- What is left of a token is never more than sixty-three bits of milliseconds. -/
theorem nanos_of_remaining? {ttl : Duration} (h : claims.remaining? now = some ttl) :
    (ttl.nanos : Int) = saturate (claims.endMillis - now.millis) * 1000000 ∧
      0 < ttl.nanos ∧ ttl.nanos < 9223372036854775808 * 1000000 := by
  simp only [remaining?] at h
  split at h
  · cases h
  · split at h
    · next hleft =>
      cases h
      -- milliseconds are cut off at the largest number of sixty-four bits
      have hbound : saturate (claims.endMillis - now.millis) < 9223372036854775808 := by
        rw [saturate_eq]
        omega
      simp only [Duration.ofMillis]
      omega
    · cases h

/-- The clock of deadlines reaches the end of every token. -/
theorem after?_of_remaining? (hcal : now.InCalendar) {ttl : Duration}
    (h : claims.remaining? now = some ttl) : now.after? ttl = some (now.add ttl) := by
  obtain ⟨-, -, hbound⟩ := nanos_of_remaining? h
  refine Time.after?_eq_some.mpr ⟨?_, rfl⟩
  simp only [Time.InCalendar, Time.seconds, lastSecond, Time.add, Time.nanos_horizon] at *
  omega

/-- The deadline of a revoked token is later than every moment at which the token is good. -/
theorem lt_deadline_of_remaining? (hnow : now.InCalendar) (hlater : later.InCalendar)
    {ttl : Duration} (h : claims.remaining? now = some ttl)
    (hgood : claims.isExpired later = false) : later < now.add ttl := by
  -- the end is rounded to milliseconds, and so is the moment of revocation, downwards
  have hend := millis_lt_endMillis hlater hgood
  obtain ⟨hnanos, -, -⟩ := nanos_of_remaining? h
  have hrange : claims.endMillis < 9223372036854775808 := by
    rw [endMillis, saturate_eq]
    omega
  simp only [Time.lt_def, Time.add, hnanos]
  simp only [Time.InCalendar, Time.seconds, Time.millis, firstSecond, lastSecond, saturate_eq] at *
  omega

end Bearer.Claims
