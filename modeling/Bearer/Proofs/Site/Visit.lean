import Bearer.Proofs.Service.Entrances
import Bearer.Proofs.Service.Failures
import Bearer.Proofs.Service.Notes

/-!
# Visits of a site

A visit is a request together with the site that it comes to. How it ends can be read from the
answer, and tells which events have been noted on the way, except for locks: whether a failure has
locked its pair is not told to the one who failed.

Main statements: `course_of_login?` and `count_eventsOf_run`.
-/

namespace Bearer

open Program (Run Ensures counting)

/-- Whether an answer accepts a token. -/
def Answer.accepts : Answer → Bool
  | .rpcValidate (.ok verdict) => verdict.valid
  | _ => false

namespace Request

variable {service : Service} {request : Request} {now : Time} {counts : String → UInt64}

/-- What asks the service for nothing notes and counts nothing. -/
theorem program_ensures_of_none (window : Duration) (hlogin : request.login? service = none)
    (hlogout : request.logout? = none) (hvalidation : request.validation? = none) :
    (request.program service now).Ensures (counting window) counts fun effects _ counts' =>
      counts' = counts ∧ eventsOf effects = [] := by
  rcases program_of_none hlogin hlogout hvalidation with ⟨answer, h⟩ | ⟨report, h⟩ |
    ⟨token, report, h⟩
  · rw [h]
    exact ⟨rfl, rfl⟩
  · rw [h]
    exact Ensures.map _ (Ensures.perform fun _ _ hread => ⟨hread.2, rfl⟩)
  · rw [h]
    refine Ensures.map _ ((service.validation.validate_ensures token now window).mono ?_)
    exact fun _ _ _ hnothing => ⟨hnothing.1, hnothing.2.1⟩

/-- A validation by the service notes that its token was not accepted, if it was not. -/
theorem program_ensures_of_validation? (window : Duration) {token : String}
    (h : request.validation? = some token) :
    (request.program service now).Ensures (counting window) counts fun effects answer? counts' =>
      counts' = counts ∧
        eventsOf effects = if answer?.any (·.accepts) then [] else [.validationFailed] := by
  rw [program_of_validation? h]
  refine Ensures.map _ ((service.validate_ensures token now window).mono ?_)
  rintro effects _ _ ⟨rfl, result, rfl, hnoted⟩
  refine ⟨rfl, hnoted.trans ?_⟩
  cases result with
  | ok claims => rfl
  | error refusal =>
    have hverdict : (Answer.rpcValidate (Rpc.Api.verdict (.error refusal))).accepts = false := by
      rw [Rpc.Api.verdict]
      split <;> rfl
    rw [Option.map_some, Option.any_some, hverdict]
    rfl

/-- A login asks for nothing else. -/
theorem none_of_login? {attempt : Attempt} (h : request.login? service = some attempt) :
    request.logout? = none ∧ request.validation? = none := by
  cases request with
  | http request fresh =>
    rw [login?] at h
    split at h
    · next hroute =>
      rw [logout?, hroute]
      exact ⟨if_neg (by decide), rfl⟩
    · cases h
  | rpcLogin caller email password fresh => exact ⟨rfl, rfl⟩
  | _ => cases h

/-- A logout asks for no validation. -/
theorem validation?_of_logout? {token : String} (h : request.logout? = some token) :
    request.validation? = none := by
  cases request with
  | rpcValidate text => cases h
  | _ => rfl

end Request

/-! ## How logins end -/

namespace Service

variable {service : Service} {counts counts' : String → UInt64} {events : List Event}
  {result : Except Failure Grant}

/-- A login has failed because the user is unknown or the password wrong. -/
def isWrong : Except Failure Grant → Bool
  | .error failure => failure = .refusal .invalidCredentials
  | .ok _ => false

/-- A login has been refused for another reason: it was malformed, its pair is locked, the store or
the directory did not answer, or there was no token to be issued. -/
def isRefused : Except Failure Grant → Bool
  | .error (.validation _) | .error (.database _) | .error (.internal _) => true
  | .error (.refusal .tooManyAttempts) | .error (.refusal (.storeUnavailable _))
  | .error (.refusal (.configuration _)) | .error (.refusal (.internal _)) => true
  | _ => false

/-- Of success, failure and refusal, a login comes to exactly one. -/
theorem LoginFails.isRefused_or {moment : Moment} {failure : Failure}
    (h : LoginFails service moment failure) :
    isRefused (.error failure) = !isWrong (.error failure) := by
  cases h with
  | malformed => rfl
  | locked => rfl
  | wrong => rfl
  | store failure => cases failure <;> rfl
  | directory => rfl
  | unissued hissue =>
    obtain ⟨detail, rfl⟩ := Token.eq_configuration_of_issue hissue
    rfl

/-- The events of a course are told by its end, locks apart. -/
theorem Course.count_eq (h : service.Course counts events result counts') {event : Event}
    (hne : event ≠ .loginLockedOut) :
    events.count event =
      ((event = .tokenIssued && result.isOk) ||
        (event = .loginFailed && isWrong result)).toNat := by
  cases h with
  | @refused failure _ h =>
    have hwrong : isWrong (.error failure) = false := decide_eq_false h
    rw [hwrong]
    cases event <;> rfl
  | issued => cases event <;> rfl
  | uncounted => cases event <;> rfl
  | counted key =>
    split
    · cases event with
      | loginLockedOut => exact absurd rfl hne
      | _ => rfl
    · cases event <;> rfl

end Service

/-! ## Visits -/

/-- The window of failed logins can be kept by the clock of deadlines. -/
def Site.Fits (service : Service) (site : Site) : Prop :=
  (site.now.after? service.lockout.policy.window).isSome

/-- A window that fits later fits now. -/
theorem Site.Fits.of_le {service : Service} {site later : Site} (h : later.Fits service)
    (hle : site.now ≤ later.now) : site.Fits service := by
  rw [Fits, Time.after?_of_le hle h]
  rfl

/-- A request and the site that it comes to. -/
structure Visit where
  site : Site
  request : Request

namespace Visit

variable (service : Service) (visit : Visit)

def run : Run Site Answer := visit.site.handle service visit.request

/-- How the login ends that a visit asks for, if it does. -/
def login? : Option (Except Failure Grant) :=
  (visit.request.login? service).bind fun attempt =>
    (visit.site.run (service.login attempt.email attempt.password attempt.origin
      ⟨visit.site.now, attempt.fresh⟩).run).answer?

/-- How the logout ends that a visit asks for, if it does. -/
def logout? : Option (Except Failure Unit) :=
  visit.request.logout?.bind fun token =>
    (visit.site.run (service.logout token visit.site.now).run).answer?

/-- A login is asked for. -/
def logsIn : Bool := (visit.request.login? service).isSome

/-- A login succeeds. -/
def issues : Bool := (visit.login? service).any (·.isOk)

/-- A login fails, because the user is unknown or the password wrong. -/
def fails : Bool := (visit.login? service).any Service.isWrong

/-- A login is refused for another reason. -/
def isRefused : Bool := (visit.login? service).any Service.isRefused

/-- A logout succeeds, of a token that was still good. -/
def revokes : Bool :=
  (visit.logout? service).any (·.isOk) &&
    visit.request.logout?.any fun token => service.revokes token visit.site.now

/-- The service is asked remotely to validate a token, and does not accept it. -/
def rejects : Bool :=
  visit.request.validation?.isSome && !(visit.run service).answer?.any (·.accepts)

/-- Whether a visit is one that an event is noted for. Whether a pair is locked is not to be seen
from how a visit ends. -/
def shows : Event → Bool
  | .loginRequested => visit.logsIn service
  | .tokenIssued => visit.issues service
  | .loginFailed => visit.fails service
  | .tokenRevoked => visit.revokes service
  | .validationFailed => visit.rejects service
  | .loginLockedOut => false

variable {service : Service} {visit : Visit}

/-- Of a visit that is no login, the end shows whether a token was revoked or rejected. -/
theorem shows_of_none (h : visit.request.login? service = none) (event : Event) :
    visit.shows service event =
      ((event = .tokenRevoked && visit.revokes service) ||
        (event = .validationFailed && visit.rejects service)) := by
  -- what is no login shows none of the events of one
  have hnone : visit.login? service = none := by
    rw [login?, h]
    rfl
  cases event with
  | loginRequested =>
    rw [shows, logsIn, h]
    rfl
  | tokenIssued =>
    rw [shows, issues, hnone]
    rfl
  | loginFailed =>
    rw [shows, fails, hnone]
    rfl
  | tokenRevoked => exact (Bool.or_false _).symm
  | validationFailed => rfl
  | loginLockedOut => rfl

/-- Of a login, the end shows that it was requested, and whether a token was issued or the
credentials were wrong. -/
theorem shows_of_login? {attempt : Attempt} (h : visit.request.login? service = some attempt)
    {result : Except Failure Grant} (hresult : visit.login? service = some result)
    (event : Event) :
    visit.shows service event =
      (event = .loginRequested || (event = .tokenIssued && result.isOk) ||
        (event = .loginFailed && Service.isWrong result)) := by
  obtain ⟨hlogout, hvalidation⟩ := Request.none_of_login? h
  cases event with
  | loginRequested =>
    rw [shows, logsIn, h]
    rfl
  | tokenIssued =>
    rw [shows, issues, hresult]
    exact (Bool.or_false _).symm
  | loginFailed =>
    rw [shows, fails, hresult]
    rfl
  | tokenRevoked =>
    rw [shows, revokes, logout?, hlogout]
    rfl
  | validationFailed =>
    rw [shows, rejects, hvalidation]
    rfl
  | loginLockedOut => rfl

/-- What a login comes to is what the visit is answered with. -/
theorem answer?_of_login? {result : Except Failure Grant}
    (h : visit.login? service = some result) :
    (visit.run service).answer? = some (visit.request.reportLogin service result) := by
  obtain ⟨attempt, hlogin, hresult⟩ := Option.bind_eq_some_iff.mp h
  rw [run, Request.handle_of_login? hlogin, Run.answer?_map, hresult]
  rfl

/-- What a logout comes to is what the visit is answered with. -/
theorem answer?_of_logout? {result : Except Failure Unit}
    (h : visit.logout? service = some result) :
    (visit.run service).answer? =
      some (visit.request.reportLogout service visit.site.now result) := by
  obtain ⟨token, hlogout, hresult⟩ := Option.bind_eq_some_iff.mp h
  rw [run, Request.handle_of_logout? hlogout, Run.answer?_map, hresult]
  rfl

/-- What is neither a success nor a failure is a refusal. -/
theorem isRefused_of_login? {result : Except Failure Grant}
    (h : visit.login? service = some result) :
    Service.isRefused result = !(result.isOk || Service.isWrong result) := by
  obtain ⟨attempt, -, hresult⟩ := Option.bind_eq_some_iff.mp h
  cases result with
  | ok grant => rfl
  | error failure => exact (failsWith_site Service.login_failsWith _ hresult).isRefused_or

section

variable (visit) (hfits : visit.site.Fits service)
include hfits

/-- A login comes to an end, and takes one of its courses. -/
theorem course_of_login? {attempt : Attempt}
    (h : visit.request.login? service = some attempt) :
    ∃ events result, eventsOf (visit.run service).effects = .loginRequested :: events ∧
      visit.login? service = some result ∧
      service.Course visit.site.counts events result (visit.run service).state.counts := by
  obtain ⟨events, result, hnoted, hresult, hcourse⟩ :=
    visit.site.run_of_ensures service.lockout.policy.window_ne_zero hfits
      (service.login_ensures attempt.email attempt.password attempt.origin
        ⟨visit.site.now, attempt.fresh⟩)
  rw [run, Request.handle_of_login? h, Run.effects_map, Run.state_map, login?, h, Option.bind_some]
  exact ⟨events, result, hnoted, hresult, hcourse⟩

/-- Anything else ends with no more counted than before, and notes what a logout or a validation has
come to. -/
theorem drops_of_none (h : visit.request.login? service = none) :
    Drops visit.site.counts (visit.run service).state.counts ∧
      eventsOf (visit.run service).effects =
        (if visit.revokes service then [.tokenRevoked] else []) ++
          if visit.rejects service then [.validationFailed] else [] := by
  have hopen := service.lockout.policy.window_ne_zero
  cases hlogout : visit.request.logout? with
  | some token =>
    obtain ⟨hdrops, hnoted⟩ := visit.site.run_of_ensures hopen hfits
      (service.logout_ensures token visit.site.now service.lockout.policy.window)
    rw [revokes, rejects, logout?, run, Request.handle_of_logout? hlogout, hlogout,
      Request.validation?_of_logout? hlogout, Option.bind_some, Run.effects_map, Run.state_map]
    refine ⟨hdrops, hnoted.trans ?_⟩
    exact (List.append_nil _).symm
  | none =>
    -- what is no logout revokes nothing
    have hrevokes : visit.revokes service = false := by
      rw [revokes, logout?, hlogout]
      rfl
    cases hvalidation : visit.request.validation? with
    | some token =>
      obtain ⟨hcounts, hnoted⟩ := visit.site.run_of_ensures hopen hfits
        (Request.program_ensures_of_validation? service.lockout.policy.window hvalidation)
      rw [hrevokes, rejects, hvalidation]
      refine ⟨hcounts ▸ Drops.refl _, hnoted.trans ?_⟩
      -- the answer tells whether the validation has accepted
      change (if (visit.run service).answer?.any (·.accepts) then _ else _) = _
      cases (visit.run service).answer?.any (·.accepts) <;> rfl
    | none =>
      obtain ⟨hcounts, hnoted⟩ := visit.site.run_of_ensures hopen hfits
        (Request.program_ensures_of_none service.lockout.policy.window h hlogout hvalidation)
      rw [hrevokes, rejects, hvalidation]
      exact ⟨hcounts ▸ Drops.refl _, hnoted⟩

/-- How often a visit notes an event is seen from how it ends, locks apart. -/
theorem count_eventsOf_run {event : Event} (hne : event ≠ .loginLockedOut) :
    (eventsOf (visit.run service).effects).count event = (visit.shows service event).toNat := by
  cases hlogin : visit.request.login? service with
  | none =>
    rw [(visit.drops_of_none hfits hlogin).2, shows_of_none hlogin]
    cases visit.revokes service <;> cases visit.rejects service <;> cases event <;> rfl
  | some attempt =>
    obtain ⟨events, result, hnoted, hresult, hcourse⟩ := visit.course_of_login? hfits hlogin
    rw [hnoted, List.count_cons, hcourse.count_eq hne, shows_of_login? hlogin hresult]
    cases result.isOk <;> cases Service.isWrong result <;> cases event <;> rfl

/-- A login is a success, a failure or a refusal. -/
theorem toNat_logsIn : (visit.logsIn service).toNat =
    (visit.issues service).toNat + (visit.fails service).toNat +
      (visit.isRefused service).toNat := by
  cases hlogin : visit.request.login? service with
  | none =>
    rw [logsIn, issues, fails, isRefused, login?, hlogin]
    rfl
  | some attempt =>
    obtain ⟨-, result, -, hresult, -⟩ := visit.course_of_login? hfits hlogin
    have hrefused := isRefused_of_login? hresult
    rw [logsIn, issues, fails, isRefused, hlogin, hresult, Option.any_some, Option.any_some,
      Option.any_some, hrefused]
    cases result with
    | ok grant => rfl
    | error failure => cases Service.isWrong (.error failure) <;> rfl

end

end Visit
end Bearer
