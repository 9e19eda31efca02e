import Bearer.Proofs.Claims.Lifetime

/-!
# The end of a token

What is left of a token is computed in whole milliseconds and within sixty-four bits. Here it is
compared with the moment at which the token runs out, which is the end of the second of its expiry
and is not bounded by anything.

Within the calendar the two agree: counted from the whole millisecond at which it is computed, what
is left ends where the token runs out. A value that does not fit into sixty-four bits is replaced by
one that lies beyond the calendar too, so no moment of the calendar falls between the two ends.

Main statement: `remaining?_exact`.
-/

namespace Bearer

/-- The beginning of the millisecond of a moment. -/
def Time.wholeMillis (t : Time) : Time := Time.ofMillis t.millis

namespace Claims

variable {claims : Claims} {now later : Time} {left : Duration}

/-- Claims have run out when the second of their expiry is over. -/
theorem isExpired_iff : claims.isExpired now ↔ claims.expiry.toInt < now.seconds := by
  simp [isExpired]

/-- The end in milliseconds tells the moments of the calendar apart as the true end does. -/
theorem endMillis_le_iff (hcal : now.InCalendar) :
    claims.endMillis ≤ now.millis ↔ claims.isExpired now := by
  cases hgood : claims.isExpired now with
  | false =>
    have hlt := millis_lt_endMillis hcal hgood
    exact iff_of_false (Int.not_le.mpr hlt) Bool.false_ne_true
  | true =>
    refine iff_of_true ?_ rfl
    rw [isExpired_iff] at hgood
    simp only [Time.InCalendar, Time.seconds, firstSecond, lastSecond] at *
    simp only [Time.millis, endMillis, saturate_eq]
    omega

/-- Something is left in milliseconds as long as a token is good. -/
theorem saturate_left_pos (hcal : now.InCalendar) (hgood : claims.isExpired now = false) :
    0 < saturate (claims.endMillis - now.millis) := by
  have hend := millis_lt_endMillis hcal hgood
  rw [saturate_eq]
  omega

/-- There is something left of a good token, and what it is. -/
theorem remaining?_of_good (hcal : now.InCalendar) (hgood : claims.isExpired now = false) :
    claims.remaining? now =
      some (Duration.ofMillis (saturate (claims.endMillis - now.millis)).toNat) := by
  rw [remaining?, hgood, if_neg Bool.false_ne_true]
  exact if_pos (saturate_left_pos hcal hgood)

/-- What is left is a whole number of milliseconds, and ends that many milliseconds from now. -/
theorem wholeMillis_add_of_remaining? (h : claims.remaining? now = some left) :
    now.wholeMillis.add left =
      Time.ofMillis (now.millis + saturate (claims.endMillis - now.millis)) := by
  obtain ⟨hnanos, -, -⟩ := nanos_of_remaining? h
  simp only [Time.wholeMillis, Time.add, hnanos, Time.ofMillis, Int.add_mul]

/-- A whole millisecond is reached exactly if the milliseconds of the time are as many. -/
theorem ofMillis_le_iff (n : Int) (t : Time) : Time.ofMillis n ≤ t ↔ n ≤ t.millis := by
  simp only [Time.le_def, Time.ofMillis, Time.millis]
  omega

/-- What is left ends where the token runs out, as far as the calendar reaches. -/
theorem isExpired_iff_of_remaining? (hnow : now.InCalendar) (hlater : later.InCalendar)
    (h : claims.remaining? now = some left) :
    claims.isExpired later ↔ now.wholeMillis.add left ≤ later := by
  rw [wholeMillis_add_of_remaining? h, ofMillis_le_iff, ← endMillis_le_iff hlater]
  -- the end is reached in both spellings, or it lies beyond the calendar in both
  have hrange : claims.endMillis ≤ 9223372036854775807 := by
    rw [endMillis, saturate_eq]
    omega
  simp only [Time.InCalendar, Time.seconds, Time.millis, firstSecond, lastSecond, saturate_eq] at *
  omega

/-- From the epoch on, what is left of a good token fits into sixty-four bits as it is. -/
theorem saturate_left_eq (hcal : now.InCalendar) (hgood : claims.isExpired now = false)
    (hepoch : 0 ≤ now.nanos) :
    saturate (claims.endMillis - now.millis) = claims.endMillis - now.millis := by
  have hend := millis_lt_endMillis hcal hgood
  have hrange : claims.endMillis ≤ 9223372036854775807 := by
    rw [endMillis, saturate_eq]
    omega
  simp only [Time.millis, saturate_eq] at *
  omega

/-- Claims that have time left have not run out. -/
theorem isExpired_of_remaining? (h : claims.remaining? now = some left) :
    claims.isExpired now = false := by
  cases hexpired : claims.isExpired now with
  | false => rfl
  | true =>
    rw [remaining?, if_pos hexpired] at h
    cases h

/-! ## Main statement -/

/-- At a moment of the calendar nothing is left of a token exactly if it has run out, which is if
its end in true numbers has come; no bound on the numbers has a say in that. What is left otherwise
is no empty span. Counted from the whole millisecond of the moment, it ends where the token runs
out. From the epoch on it always ends at the same moment, and when it is computed again later, as
long as the token is good, it has become shorter by the milliseconds in between. -/
theorem remaining?_exact (claims : Claims) {now : Time} (hnow : now.InCalendar) :
    (claims.remaining? now = none ↔ claims.isExpired now) ∧
    (claims.isExpired now ↔ (claims.expiry.toInt + 1) * 1000 ≤ now.millis) ∧
    (claims.isExpired now = false → 0 < saturate (claims.endMillis - now.millis)) ∧
    ∀ left, claims.remaining? now = some left →
      0 < left.nanos ∧
      (∀ later, later.InCalendar → now ≤ later →
        (claims.isExpired later ↔ now.wholeMillis.add left ≤ later)) ∧
      (0 ≤ now.nanos →
        now.wholeMillis.add left = Time.ofMillis claims.endMillis ∧
        ∀ later, later.InCalendar → now ≤ later → claims.isExpired later = false →
          ∃ rest, claims.remaining? later = some rest ∧
            (rest.nanos : Int) + (later.millis - now.millis) * 1000000 = left.nanos) := by
  refine ⟨remaining?_isNone_iff hnow, ?_, saturate_left_pos hnow, fun left hleft => ?_⟩
  · rw [isExpired_iff, Time.seconds, Time.millis]
    omega
  · have hgood := isExpired_of_remaining? hleft
    obtain ⟨hnanos, hpos, -⟩ := nanos_of_remaining? hleft
    refine ⟨hpos, fun later hlater _ => isExpired_iff_of_remaining? hnow hlater hleft, ?_⟩
    intro hepoch
    have hexact := saturate_left_eq hnow hgood hepoch
    refine ⟨?_, fun later hlater hle hstill => ?_⟩
    · rw [wholeMillis_add_of_remaining? hleft, hexact, Int.add_comm, Int.sub_add_cancel]
    · -- both spans fit as they are, so they differ by the time between the two moments
      have hrest := remaining?_of_good hlater hstill
      obtain ⟨hrestNanos, -, -⟩ := nanos_of_remaining? hrest
      refine ⟨_, hrest, ?_⟩
      rw [hrestNanos, hnanos, hexact,
        saturate_left_eq hlater hstill (Int.le_trans hepoch hle)]
      omega

/-- What a token says that is good up to the end of a second. -/
def sampleUntil (expiry : Int64) : Claims := ⟨"u1", .employee, "t1", 0, expiry⟩

/-- Within the last second of a token, three quarters of it are left, up to its end. Of a token for
as long as sixty-four bits of seconds go, a nanosecond before the epoch, no more is left than fits,
and yet it does not run out at any moment of the calendar. -/
theorem remaining?_exact_sample :
    ((sampleUntil 3600).remaining? ⟨3600250700000⟩ = some (Duration.ofMillis 750) ∧
      ∀ later, later.InCalendar → ⟨3600250700000⟩ ≤ later →
        ((sampleUntil 3600).isExpired later ↔ Time.ofSeconds 3601 ≤ later)) ∧
    ((sampleUntil Int64.maxValue).remaining? ⟨-1⟩ =
        some (Duration.ofMillis 9223372036854775807) ∧
      (sampleUntil Int64.maxValue).isExpired lastMoment = false) := by
  constructor
  · have hleft : (sampleUntil 3600).remaining? ⟨3600250700000⟩ = some (Duration.ofMillis 750) := by
      decide
    have hcal : Time.InCalendar ⟨3600250700000⟩ := by decide
    obtain ⟨-, -, -, hspan⟩ := remaining?_exact (sampleUntil 3600) hcal
    exact ⟨hleft, (hspan _ hleft).2.1⟩
  · have hleft : (sampleUntil Int64.maxValue).remaining? ⟨-1⟩ =
        some (Duration.ofMillis 9223372036854775807) := by
      decide
    have hcal : Time.InCalendar ⟨-1⟩ := by decide
    obtain ⟨-, -, -, hspan⟩ := remaining?_exact (sampleUntil Int64.maxValue) hcal
    have hend := (hspan _ hleft).2.1 lastMoment (by decide) (by decide)
    exact ⟨hleft, Bool.eq_false_iff.mpr fun hexpired => absurd (hend.mp hexpired) (by decide)⟩

end Claims
end Bearer
