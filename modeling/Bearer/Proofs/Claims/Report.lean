import Bearer.Proofs.Claims.End
import Bearer.Proofs.Service.Entrances

/-!
# The reported expiry

A token can name any second of sixty-four bits as that of its expiry. The clock is compared with
that second, but what is reported is a moment of the calendar, which is far narrower: every second
that the calendar does not reach is reported as its last moment.

For a second after the calendar that is as near as a report can come, and the token does not run out
at any moment of the calendar. A second before the calendar is reported as the last moment too,
although the token has run out when the calendar begins. No guard lets such a token through, so no
user is ever handed on with a report of that kind.

Main statement: `expiresAt_consistent_iff`.
-/

namespace Bearer

namespace Claims

variable {claims one other : Claims} {now : Time}

/-- The second of expiry comes before the calendar. -/
def ExpiresBeforeCalendar (claims : Claims) : Prop := claims.expiry.toInt < firstSecond

/-- The calendar reaches the second of expiry. -/
def ExpiresWithinCalendar (claims : Claims) : Prop :=
  firstSecond ≤ claims.expiry.toInt ∧ claims.expiry.toInt ≤ lastSecond

instance (claims : Claims) : Decidable claims.ExpiresBeforeCalendar :=
  inferInstanceAs (Decidable (_ < _))

instance (claims : Claims) : Decidable claims.ExpiresWithinCalendar :=
  inferInstanceAs (Decidable (_ ∧ _))

/-! ## What is reported -/

/-- An expiry within the calendar is reported as it is. -/
theorem expiresAt_of_within (h : claims.ExpiresWithinCalendar) :
    claims.expiresAt = Time.ofSeconds claims.expiry.toInt := if_pos h

/-- An expiry outside the calendar is reported as the last moment of it. -/
theorem expiresAt_of_not_within (h : ¬claims.ExpiresWithinCalendar) :
    claims.expiresAt = lastMoment := if_neg h

/-- An expiry before the calendar is not within it. -/
theorem ExpiresBeforeCalendar.not_within (h : claims.ExpiresBeforeCalendar) :
    ¬claims.ExpiresWithinCalendar := fun hwithin => Int.not_le.mpr h hwithin.1

/-- A second within the calendar begins before its last moment. -/
theorem ExpiresWithinCalendar.lt_lastMoment (h : claims.ExpiresWithinCalendar) :
    claims.expiresAt < lastMoment := by
  rw [expiresAt_of_within h]
  obtain ⟨-, hlast⟩ := h
  simp only [Time.lt_def, Time.ofSeconds, lastMoment]
  omega

/-- No reported expiry is after the last moment of the calendar. -/
theorem expiresAt_le_lastMoment (claims : Claims) : claims.expiresAt ≤ lastMoment := by
  by_cases h : claims.ExpiresWithinCalendar
  · exact Int.le_of_lt h.lt_lastMoment
  · rw [expiresAt_of_not_within h]
    exact Time.le_refl _

/-- Of two expiries the earlier is reported as no later a moment than the other, unless it comes
before the calendar and the other one within. -/
theorem expiresAt_le_expiresAt_iff (hle : one.expiry ≤ other.expiry) :
    one.expiresAt ≤ other.expiresAt ↔
      ¬(one.ExpiresBeforeCalendar ∧ other.ExpiresWithinCalendar) := by
  rw [Int64.le_iff_toInt_le] at hle
  by_cases hother : other.ExpiresWithinCalendar
  · by_cases hone : one.ExpiresBeforeCalendar
    · -- the earlier one is reported as the last moment, before which the later one ends
      refine iff_of_false (Int.not_le.mpr ?_) fun h => h ⟨hone, hother⟩
      rw [expiresAt_of_not_within hone.not_within]
      exact hother.lt_lastMoment
    · have hwithin : one.ExpiresWithinCalendar :=
        ⟨Int.not_lt.mp hone, Int.le_trans hle hother.2⟩
      refine iff_of_true ?_ fun h => hone h.1
      rw [expiresAt_of_within hwithin, expiresAt_of_within hother]
      exact Int.mul_le_mul_of_nonneg_right hle (by decide)
  · -- nothing is reported after the last moment
    rw [expiresAt_of_not_within hother]
    exact iff_of_true (expiresAt_le_lastMoment one) fun h => hother h.2

/-! ## The report and the check -/

/-- A token has run out at every moment of the calendar if it expires before. -/
theorem ExpiresBeforeCalendar.isExpired (h : claims.ExpiresBeforeCalendar)
    (hcal : now.InCalendar) : claims.isExpired now :=
  isExpired_iff.mpr (Int.lt_of_lt_of_le h hcal.1)

/-- A token that runs out in the course of the calendar expires within it. -/
theorem within_of_isExpired (hcal : now.InCalendar) (hexpired : claims.isExpired now)
    (h : ¬claims.ExpiresBeforeCalendar) : claims.ExpiresWithinCalendar :=
  ⟨Int.not_lt.mp h, Int.le_of_lt (Int.lt_of_lt_of_le (isExpired_iff.mp hexpired) hcal.2)⟩

/-- When a token has run out the reported moment has come, unless the expiry comes before the
calendar; then it has not come before the very last moment. -/
theorem expiresAt_le_iff_of_isExpired (hcal : now.InCalendar) (hexpired : claims.isExpired now) :
    claims.expiresAt ≤ now ↔ ¬claims.ExpiresBeforeCalendar ∨ now = lastMoment := by
  by_cases hbefore : claims.ExpiresBeforeCalendar
  · -- the report is the last moment, which comes only when it is there
    rw [expiresAt_of_not_within hbefore.not_within]
    constructor
    · intro hle
      exact .inr (Time.le_antisymm hcal.le_lastMoment hle)
    · rintro (h | rfl)
      · exact absurd hbefore h
      · exact Time.le_refl _
  · refine iff_of_true ?_ (.inl hbefore)
    rw [expiresAt_of_within (within_of_isExpired hcal hexpired hbefore), Time.ofSeconds_le_iff]
    exact Int.le_of_lt (isExpired_iff.mp hexpired)

/-- A second after the reported moment a token has run out. -/
theorem isExpired_of_expiresAt_add_le (hcal : now.InCalendar)
    (h : claims.expiresAt.add (Duration.ofSeconds 1) ≤ now) : claims.isExpired now := by
  by_cases hwithin : claims.ExpiresWithinCalendar
  · have hnext : claims.expiresAt.add (Duration.ofSeconds 1) =
        Time.ofSeconds (claims.expiry.toInt + 1) := by
      rw [expiresAt_of_within hwithin]
      exact congrArg Time.mk (Int.add_mul _ 1 _).symm
    rw [hnext, Time.ofSeconds_le_iff] at h
    exact isExpired_iff.mpr h
  · -- the calendar has no moment a second after its last one
    rw [expiresAt_of_not_within hwithin] at h
    have hlast := Time.le_trans h hcal.le_lastMoment
    exact absurd hlast (by decide)

/-- What is reported of a token that is good at some moment has come whenever it has run out. -/
theorem expiresAt_le_of_good {later : Time} (hnow : now.InCalendar)
    (hgood : claims.isExpired now = false) (hlater : later.InCalendar)
    (hexpired : claims.isExpired later) : claims.expiresAt ≤ later := by
  refine (expiresAt_le_iff_of_isExpired hlater hexpired).mpr (.inl fun hbefore => ?_)
  rw [hbefore.isExpired hnow] at hgood
  cases hgood

end Claims

/-! ## Who is let through -/

/-- The user whom a guard lets through is the one that the token of the request stands for. -/
theorem Http.verify_of_visitorOf {σ : Type} {around : Surroundings σ} {standing : Standing σ}
    {validation : Validation} {request : Http.Request} {now : Time} {visitor : Http.Visitor}
    (h : (around.run standing (Http.visitorOf validation request now).run).answer? =
      some (.ok visitor)) :
    ∃ token claims, request.token? = .ok token ∧
      Token.verify validation.secret token now = .ok claims ∧ visitor = .ofClaims claims := by
  rw [visitorOf] at h
  cases htoken : request.token? with
  | error refusal =>
    rw [htoken] at h
    cases h
  | ok token =>
    rw [htoken, Program.liftExcept_ok_bind] at h
    obtain ⟨claims, hclaims, hvisitor⟩ := Program.run_flow_bind_eq_ok.mp h
    cases hvisitor
    exact ⟨token, claims, rfl, Validation.verify_of_run hclaims, rfl⟩

/-! ## Main statement -/

/-- The expiry of a token is reported as no later a moment than a later one, unless it comes before
the calendar and the other one within. When the token has run out its reported moment has come,
unless the expiry comes before the calendar; then it has not come before the last moment there is.
A second after its reported moment the token has run out, whatever its expiry. Of a user whom a
guard lets through, at whatever moment and in whatever surroundings, no moment is reported that lies
after one at which the token has run out. -/
theorem Claims.expiresAt_consistent_iff (claims : Claims) :
    (∀ other : Claims, claims.expiry ≤ other.expiry →
      (claims.expiresAt ≤ other.expiresAt ↔
        ¬(claims.ExpiresBeforeCalendar ∧ other.ExpiresWithinCalendar))) ∧
    (∀ now : Time, now.InCalendar →
      (claims.isExpired now →
        (claims.expiresAt ≤ now ↔ ¬claims.ExpiresBeforeCalendar ∨ now = lastMoment)) ∧
      (claims.expiresAt.add (Duration.ofSeconds 1) ≤ now → claims.isExpired now)) ∧
    ∀ {σ : Type} (around : Surroundings σ) (standing : Standing σ) (validation : Validation)
      (request : Http.Request) (now : Time) (visitor : Http.Visitor), now.InCalendar →
      (around.run standing (Http.visitorOf validation request now).run).answer? =
        some (.ok visitor) →
      ∃ token said, request.token? = .ok token ∧
        Token.verify validation.secret token now = .ok said ∧ visitor = .ofClaims said ∧
        ∀ later, later.InCalendar → said.isExpired later → visitor.expiresAt ≤ later := by
  refine ⟨fun other hle => expiresAt_le_expiresAt_iff hle, fun now hcal =>
    ⟨expiresAt_le_iff_of_isExpired hcal, isExpired_of_expiresAt_add_le hcal⟩, ?_⟩
  intro σ around standing validation request now visitor hnow hvisitor
  obtain ⟨token, said, htoken, hverify, rfl⟩ := Http.verify_of_visitorOf hvisitor
  have hgood := (Token.verify_eq_ok_iff.mp hverify).2
  exact ⟨token, said, htoken, hverify, rfl, fun later hlater =>
    expiresAt_le_of_good hnow hgood hlater⟩

/-- A token that is good for an hour is reported before one that is good for two; a second after the
hour it has run out, and its reported moment has come. A user whose token is good through the second
2000 is let through, with a report that has come in the next. -/
theorem Claims.expiresAt_consistent_iff_sample :
    let around := Surroundings.ofSite Site.sample
    let standing : Standing Store.Memory := ⟨Site.sample.store, Site.sample.metrics⟩
    (sampleUntil 3600).expiresAt ≤ (sampleUntil 7200).expiresAt ∧
    (sampleUntil 3600).isExpired (.ofSeconds 3601) ∧
    (sampleUntil 3600).expiresAt ≤ .ofSeconds 3601 ∧
    ∃ visitor, (around.run standing (Http.visitorOf Service.sample.validation
        (.withCookie Token.sample) Site.sample.now).run).answer? = some (.ok visitor) ∧
      visitor.expiresAt ≤ .ofSeconds 2001 := by
  intro around standing
  obtain ⟨horder, hcheck, hguard⟩ := expiresAt_consistent_iff (sampleUntil 3600)
  obtain ⟨hcome, hgone⟩ := hcheck (.ofSeconds 3601) (by decide)
  have hexpired : (sampleUntil 3600).isExpired (.ofSeconds 3601) := hgone (by decide)
  have hverify : Token.verify Service.sample.validation.secret Token.sample Site.sample.now =
      .ok Token.sampleClaims :=
    Token.verify_eq_ok_iff.mpr ⟨Token.decode_sample (by decide), by decide⟩
  -- the cookie bears the token, and nobody has logged it out
  have htoken : (Http.Request.withCookie Token.sample).token? = .ok Token.sample :=
    Http.Request.token?_of_cookie (Token.isCompact_sign _ _) (Token.sign_ne_empty _ _) ⟨rfl, rfl⟩
  have hvisitor : (around.run standing (Http.visitorOf Service.sample.validation
      (.withCookie Token.sample) Site.sample.now).run).answer? =
        some (.ok (.ofClaims Token.sampleClaims)) := by
    rw [Http.visitorOf, htoken, Program.liftExcept_ok_bind, bind_pure_comp, ExceptT.run_map,
      Validation.validate_of_ok hverify]
    rfl
  obtain ⟨token, said, hsame, hsays, -, hlater⟩ :=
    hguard around standing _ _ _ _ (by decide) hvisitor
  rw [htoken] at hsame
  cases hsame
  rw [hverify] at hsays
  cases hsays
  exact ⟨(horder _ (by decide)).mpr (by decide), hexpired,
    (hcome hexpired).mpr (.inl (by decide)), _, hvisitor,
    hlater (.ofSeconds 2001) (by decide) (by decide)⟩

/-- What a token says that expires in the last second before the calendar. -/
def Claims.sampleBeforeCalendar : Claims :=
  ⟨"user-1", .employee, "jti-1", -8334601228802, -8334601228801⟩

/-- A token that ran out before the calendar began is decoded like any other. It is reported as
later than one that ran out at the epoch, and as later than a moment at which it has run out, also
to whom its user is handed on. -/
theorem Claims.reported_good_after_end :
    Token.decode Token.sampleSecret (Token.sign Token.sampleSecret sampleBeforeCalendar)
        (.ofSeconds 1700000000) = .ok sampleBeforeCalendar ∧
      sampleBeforeCalendar.expiry ≤ (sampleUntil 0).expiry ∧
      ¬sampleBeforeCalendar.expiresAt ≤ (sampleUntil 0).expiresAt ∧
      Time.InCalendar (.ofSeconds 1700000000) ∧
      sampleBeforeCalendar.isExpired (.ofSeconds 1700000000) ∧
      ¬sampleBeforeCalendar.expiresAt ≤ .ofSeconds 1700000000 ∧
      ¬(Http.Visitor.ofClaims sampleBeforeCalendar).expiresAt ≤ .ofSeconds 1700000000 := by
  refine ⟨?_, by decide, by decide, by decide, by decide, by decide, by decide⟩
  rw [Token.decode_sign, if_pos ⟨by decide, by decide⟩]

end Bearer
