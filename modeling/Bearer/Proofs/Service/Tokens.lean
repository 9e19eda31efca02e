import Bearer.Proofs.Claims.Lifetime
import Bearer.Proofs.Site.Run
import Bearer.Proofs.Token.Decode

/-!
# Runs of validation and logout

What the validation of a token and its logout come to against a site: one lemma for each way in
which they can end. Validation asks the store whether the token is remembered and changes nothing
that the store shows; logout writes one entry, and only for a token that is good in the store's view
of time.
-/

namespace Bearer

open Program (Run)

/-- What the store says when it is asked whether a token is remembered. -/
def Site.recalls (site : Site) (tokenId : String) : Except Store.Failure Bool :=
  if site.store.available then
    .ok (site.store.live? (Revocation.key tokenId) site.now).isSome
  else .error Store.Memory.outage

namespace Validation

variable {validation : Validation} {token : String} {now : Time} {site : Site}

/-- A token that does not verify is refused, and the store is not asked. -/
theorem validate_of_error {refusal : Refusal}
    (h : Token.verify validation.secret token now = .error refusal) :
    (validation.validate token now).run = pure (.error refusal) := by
  rw [validate, h]
  rfl

/-- For a token that verifies the store is asked once, and its answer decides. -/
theorem validate_of_ok {claims : Claims}
    (h : Token.verify validation.secret token now = .ok claims) :
    (validation.validate token now).run = validation.conclude claims <$>
      (Program.call (.contains (Revocation.key claims.tokenId))).run := by
  rw [validate, h]
  exact Program.lift_bind_liftExcept _ _

/-- The answer of the store makes a token revoked, or invalid if there is none. -/
theorem conclude_eq_error {claims : Claims}
    {answer : Except Store.Failure Bool} {refusal : Refusal}
    (h : validation.conclude claims answer = .error refusal) :
    refusal = .invalidToken ∨ refusal = .revokedToken := by
  rcases answer with failure | _ | _
  · rw [conclude] at h
    split at h
    · cases h
    · exact .inl (Except.error.inj h).symm
  · cases h
  · exact .inr (Except.error.inj h).symm

/-- The answer of the store changes nothing about what a token says. -/
theorem conclude_eq_ok {found claims : Claims} {answer : Except Store.Failure Bool}
    (h : validation.conclude found answer = .ok claims) : found = claims := by
  rcases answer with failure | _ | _
  · rw [conclude] at h
    split at h
    · exact Except.ok.inj h
    · cases h
  · exact Except.ok.inj h
  · cases h

/-- All that a validation calls the store for is the entry of its token. -/
theorem validate_within {P : Effect → Prop} (validation : Validation) (now : Time)
    (hcall : ∀ claims, Token.says? validation.secret token = some claims →
      P (.store (.contains (Revocation.key claims.tokenId)))) :
    (validation.validate token now).run.Within P := by
  cases hverify : Token.verify validation.secret token now with
  | error refusal =>
    rw [validate_of_error hverify]
    exact .done _
  | ok claims =>
    rw [validate_of_ok hverify]
    have hsaid := (Token.decode_eq_ok_iff.mp (Token.verify_eq_ok_iff.mp hverify).1).1
    exact Program.Within.map _ (Program.Within.perform (hcall claims hsaid))

/-- A token that does not verify is refused for that, and the store is not asked. -/
theorem run_validate_of_error {refusal : Refusal}
    (h : Token.verify validation.secret token now = .error refusal) :
    site.run (validation.validate token now).run = ⟨some (.error refusal), site, []⟩ := by
  rw [validate_of_error h]
  rfl

/-- Of a token that verifies the store is asked, and its reply decides. -/
theorem run_validate_of_ok (site : Site) {claims : Claims}
    (h : Token.verify validation.secret token now = .ok claims) :
    ∃ store, site.run (validation.validate token now).run =
      ⟨some (validation.conclude claims (site.recalls claims.tokenId)), site.withStore store,
        [.store (.contains (Revocation.key claims.tokenId))]⟩ := by
  refine ⟨(site.store.perform site.now (.contains (Revocation.key claims.tokenId))).2, ?_⟩
  -- asking may drop an expired entry from the table, which nobody sees
  have hask : (site.store.perform site.now (.contains (Revocation.key claims.tokenId))).1 =
      some (site.recalls claims.tokenId) := by
    by_cases hup : site.store.available
    · rw [Store.Memory.perform_contains _ _ hup, Site.recalls, if_pos hup]
    · rw [Store.Memory.perform_of_outage _ (by simpa using hup), Site.recalls, if_neg hup]
  rw [validate_of_ok h, Site.run_map, Site.run_call, hask]
  rfl

end Validation

namespace Service

variable {service : Service} {token : String} {site : Site}

section Within

variable {P : Effect → Prop} (hplain : ∀ effect : Effect, effect.IsPlain → P effect)
include hplain

/-- A validation asks the store for nothing but the entry of what the token says. -/
theorem validate_within (now : Time)
    (hcall : ∀ claims, Token.says? service.secret token = some claims →
      P (.store (.contains (Revocation.key claims.tokenId)))) :
    (service.validate token now).run.Within P := by
  rw [validate, ExceptT.run_mk]
  refine (service.validation.validate_within now hcall).bind fun result => ?_
  split
  · exact .done _
  · exact (Program.Within.perform (hplain (.note _) trivial)).bind fun _ => .done _

/-- All that a logout calls the store for is to set the entry of its token. -/
theorem logout_within {now : Time}
    (hwrites : ∀ claims ttl, Token.decode service.secret token now = .ok claims →
      P (.store (.set (Revocation.key claims.tokenId) Revocation.marker ttl))) :
    (service.logout token now).run.Within P := by
  rw [logout]
  cases hdecode : Token.decode service.secret token now with
  | error refusal => exact .done _
  | ok claims =>
    change (ite _ _ _ : Flow Unit).run.Within _
    -- nothing is written unless there is something left of the token, and then under its key
    split
    · refine Program.Within.flow_bind (Program.Within.adapt _ ?_) fun _ =>
        Program.Within.lift (Program.Within.perform (hplain _ trivial))
      rw [Revocation.revokeClaims]
      split
      · rw [Revocation.revoke]
        split
        · exact .done _
        · exact Program.Within.perform (hwrites claims _ hdecode)
      · exact .done _
    · exact .done _

end Within

/-- A logout of what is not decoded is refused, and changes nothing. -/
theorem run_logout_of_refused {refusal : Refusal}
    (h : Token.decode service.secret token site.now = .error refusal) :
    site.run (service.logout token site.now).run =
      ⟨some (.error (.refusal refusal)), site, []⟩ := by
  rw [logout, Site.run_flow_bind, refusable, widen, Site.run_adapt, Site.run_liftExcept, h]
  rfl

variable {claims : Claims}

/-- A logout revokes the claims that are decoded if they have time left, and notes it. -/
theorem run_logout_of_decode (h : Token.decode service.secret token site.now = .ok claims) :
    site.run (service.logout token site.now).run =
      site.run (if (claims.remaining? site.now).isSome then do
          widen (fun failure => .refusal failure.toRefusal)
            (Revocation.revokeClaims claims site.now)
          Program.note .tokenRevoked
        else pure () : Flow Unit).run := by
  rw [logout, Site.run_flow_bind, refusable, widen, Site.run_adapt, Site.run_liftExcept, h]
  rfl

/-- Logging out a token that has run out succeeds and does nothing. -/
theorem run_logout_of_expired (h : Token.decode service.secret token site.now = .ok claims)
    (hleft : claims.remaining? site.now = none) :
    site.run (service.logout token site.now).run = ⟨some (.ok ()), site, []⟩ := by
  rw [run_logout_of_decode h, hleft]
  rfl

/-- Claims are revoked by an entry for the time that they have left. -/
theorem revokeClaims_of_remaining? {now : Time} {ttl : Duration}
    (hleft : claims.remaining? now = some ttl) :
    Revocation.revokeClaims claims now =
      Program.call (.set (Revocation.key claims.tokenId) Revocation.marker ttl) := by
  -- an empty span would not be written at all
  have hzero : ttl.isZero = false := by
    have := (Claims.nanos_of_remaining? hleft).2.1
    simp only [Duration.isZero, decide_eq_false_iff_not]
    omega
  simp [Revocation.revokeClaims, hleft, Revocation.revoke, hzero]

/-- Logging out a good token fails during an outage. -/
theorem run_logout_of_outage (h : Token.decode service.secret token site.now = .ok claims)
    {ttl : Duration} (hleft : claims.remaining? site.now = some ttl)
    (hdown : site.store.available = false) :
    site.run (service.logout token site.now).run =
      ⟨some (.error (.refusal Store.Memory.outage.toRefusal)), site,
        [.store (.set (Revocation.key claims.tokenId) Revocation.marker ttl)]⟩ := by
  rw [run_logout_of_decode h, hleft, revokeClaims_of_remaining? hleft, Option.isSome_some,
    if_pos rfl, Site.run_flow_bind, widen, Site.run_adapt, Site.run_call,
    Store.Memory.perform_of_outage _ hdown]
  rfl

/-- Logging out a good token remembers it to its end. -/
theorem run_logout_of_good (h : Token.decode service.secret token site.now = .ok claims)
    {ttl : Duration} (hleft : claims.remaining? site.now = some ttl) (hup : site.store.available)
    (hcal : site.now.InCalendar) :
    site.run (service.logout token site.now).run =
      ⟨some (.ok ()),
        (site.withStore (site.store.insert (Revocation.key claims.tokenId)
          ⟨Revocation.marker, some (site.now.add ttl)⟩)).noted .tokenRevoked,
        [.store (.set (Revocation.key claims.tokenId) Revocation.marker ttl),
          .note .tokenRevoked]⟩ := by
  rw [run_logout_of_decode h, hleft, revokeClaims_of_remaining? hleft, Option.isSome_some,
    if_pos rfl, Site.run_flow_bind, widen, Site.run_adapt, Site.run_call,
    Store.Memory.perform_set _ _ hup (Claims.after?_of_remaining? hcal hleft)]
  rfl

end Service
end Bearer
