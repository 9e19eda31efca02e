import Bearer.Proofs.Lockout.Key
import Bearer.Proofs.Lockout.Overlap
import Bearer.Proofs.Revocation
import Bearer.Proofs.Settings.Window
import Bearer.Proofs.Text.Blank

/-!
# What a successful login hands out

A login succeeds with the right password of a user whom the lockout lets pass, and hands out a token
for the user. The token says what the answer says beside it, over either interface. It is let
through from then on to the end of its last second, as long as it is not logged out and the store
answers, and refused as expired ever after.

Main statement: `login_hands_out`.
-/

namespace Bearer

open Program (Run)

/-- No identifier is blank, for it has hyphens. -/
theorem Uuid.trim_text_ne_empty (id : Uuid) : Text.trim id.text ≠ "" := by
  intro h
  have hblank := Text.isBlank_of_trimChars_eq_nil (Token.trim_eq_empty_iff.mp h) '-'
    (by simp [text])
  exact absurd hblank (by decide)

namespace Token

variable {secret : Secret} {user : User} {fresh : Uuid} {lifetime : Duration} {seconds : Nat}
  {now later : Time} {issued : Issued}

/-- An issued token is signed and says that it is for a user, and good from a moment for some
seconds. -/
structure Issued.IsFor (issued : Issued) (secret : Secret) (user : User) (fresh : Uuid)
    (now : Time) (seconds : Nat) : Prop where
  signed : issued.token = sign secret issued.claims
  subject : issued.claims.subject = user.id.text
  role : issued.claims.role = user.role
  tokenId : issued.claims.tokenId = fresh.text
  issuedAt : issued.claims.issuedAt.toInt = now.seconds
  expiry : issued.claims.expiry.toInt = now.seconds + seconds

/-- The lifetime that is told is that of the token. -/
theorem Issued.IsFor.lifetime_eq (h : issued.IsFor secret user fresh now seconds) :
    issued.lifetime = seconds := by
  rw [lifetime, h.expiry, h.issuedAt]
  omega

/-- What is issued within the calendar is for its user, and good for the whole lifetime. -/
theorem isFor_of_issue (hnow : now.InCalendar) (hbounded : lifetime.seconds ≤ Settings.maxLifetime)
    (h : issue secret user.id.text user.role lifetime now fresh.text = .ok issued) :
    issued.IsFor secret user fresh now lifetime.seconds := by
  have hmin : Int64.minValue.toInt = -9223372036854775808 := by decide
  have hmax : Int64.maxValue.toInt = 9223372036854775807 := by decide
  simp only [Time.InCalendar, Claims.firstSecond, Claims.lastSecond] at hnow
  rw [Settings.maxLifetime] at hbounded
  have hseconds : min (lifetime.seconds : Int) Int64.maxValue.toInt = lifetime.seconds := by
    omega
  rw [issue, hseconds] at h
  split at h
  · cases h
  · split at h
    · cases h
    · obtain rfl := Except.ok.inj h
      -- neither time is out of what sixty-four bits hold, so nothing is cut off
      exact
        { signed := rfl
          subject := rfl
          role := rfl
          tokenId := rfl
          issuedAt := Int64.toInt_ofInt_of_le (by omega) (by omega)
          expiry := Int64.toInt_ofInt_of_le (by omega) (by omega) }

/-- From the moment on for which it was issued, a token verifies to the end of its last second. -/
theorem Issued.IsFor.verify (h : issued.IsFor secret user fresh now seconds)
    (hpositive : 0 < seconds) (hle : now ≤ later) :
    Token.verify secret issued.token later =
      if later.seconds ≤ now.seconds + seconds then .ok issued.claims
      else .error .expiredToken := by
  -- the clock has not gone back, so the token is not from the future
  have hseconds : now.seconds ≤ later.seconds := Int.ediv_le_ediv (by decide) hle
  have htimely : isTimely issued.claims later := by
    rw [isTimely, clockSkew, Bool.and_eq_true, decide_eq_true_eq, decide_eq_true_eq, h.issuedAt,
      h.expiry]
    omega
  have hdecode : decode secret issued.token later = .ok issued.claims := by
    rw [h.signed, decode_sign, if_pos]
    rw [h.subject, h.tokenId]
    exact ⟨⟨user.id.trim_text_ne_empty, fresh.trim_text_ne_empty⟩, htimely⟩
  rw [verify_of_decode hdecode, Claims.isExpired, h.expiry]
  simp only [decide_eq_true_eq, ← Int.not_le, ite_not]

end Token

/-! ## When a login succeeds -/

namespace Lockout

variable {lockout : Lockout} {key : String} {site : Site}

/-- What the lockout has let pass it forgets without fail: either the store answers, or it is made
up for. -/
theorem reset_of_check (h : (site.run (lockout.check key).run).answer? = some (.ok ())) :
    ((site.run (lockout.check key).run).state.run (lockout.reset key).run).answer? =
      some (.ok ()) := by
  by_cases hup : site.store.available
  · rw [run_reset ((Site.available_run site _).trans hup)]
  · have hdown : site.store.available = false := by simpa using hup
    rw [reset, run_ask,
      Store.Memory.perform_of_outage _ ((Site.available_run site _).trans hdown)]
    rw [check_eq, Site.run_map, Site.run_call, Store.Memory.perform_of_outage _ hdown] at h
    -- the check was let through without the store, and so is what is asked now
    cases hpolicy : lockout.onOutage with
    | failOpen =>
      rw [Option.map_some, settle, hpolicy]
    | failClosed =>
      rw [Run.answer?_map, Option.map_some, pass, settle, hpolicy] at h
      cases h

end Lockout

/-- A login is let in for a user: it is well formed, the lockout lets its pair pass, and the
directory answers with the user, whose password it has. -/
def Site.Admits (service : Service) (site : Site) (attempt : Attempt) (user : User) : Prop :=
  ∃ address, attempt.address? = .ok address ∧
    (site.run (service.lockout.check (Lockout.key address attempt.origin)).run).answer? =
      some (.ok ()) ∧
    site.directory.available ∧
    site.directory.authenticate? address attempt.password = some user

namespace Service

variable {service : Service} {site : Site} {key address password : String} {moment : Moment}
  {user : User} {grant : Grant}

section Refusable

variable {α : Type} {x : ExceptT Refusal Program α} {a : α}

/-- What can be refused leaves the state of the computation that it is made of. -/
theorem state_refusable : (site.run (refusable x).run).state = (site.run x.run).state := by
  rw [refusable, widen, Site.run_adapt, Run.state_map]

/-- What can be refused succeeds exactly if the computation that it is made of does. -/
theorem refusable_eq_ok_iff :
    (site.run (refusable x).run).answer? = some (.ok a) ↔
      (site.run x.run).answer? = some (.ok a) := by
  rw [refusable, widen, Site.run_adapt, Run.answer?_map]
  rcases (site.run x.run).answer? with _ | _ | _ <;> simp [Except.mapError]

end Refusable

/-- A token is granted if the failures are forgotten and the token is issued. -/
theorem grant_eq_ok_iff :
    (site.run (service.grant key user moment).run).answer? = some (.ok grant) ↔
      (site.run (service.lockout.reset key).run).answer? = some (.ok ()) ∧
        ∃ issued, Token.issue service.secret user.id.text user.role service.lifetime moment.now
          moment.fresh.text = .ok issued ∧ grant = ⟨issued, user.id, user.role⟩ := by
  rw [Service.grant, Site.run_flow_bind_eq_ok]
  constructor
  · rintro ⟨_, hreset, hrest⟩
    obtain ⟨issued, hissue, hrest⟩ := Site.run_flow_bind_eq_ok.mp hrest
    rw [refusable_eq_ok_iff, Site.run_liftExcept] at hissue
    refine ⟨refusable_eq_ok_iff.mp hreset, issued, Option.some.inj hissue, ?_⟩
    exact (Except.ok.inj (Option.some.inj hrest)).symm
  · rintro ⟨hreset, issued, hissue, rfl⟩
    refine ⟨(), refusable_eq_ok_iff.mpr hreset, Site.run_flow_bind_eq_ok.mpr ⟨issued, ?_, rfl⟩⟩
    rw [refusable_eq_ok_iff, Site.run_liftExcept, hissue]

/-- A login that is counted as failed does not succeed. -/
theorem failLogin_ne_ok :
    (site.run (service.failLogin key).run).answer? ≠ some (.ok grant) := by
  intro h
  rw [failLogin] at h
  obtain ⟨count, -, h⟩ := Site.run_flow_bind_eq_ok.mp h
  obtain ⟨-, -, h⟩ := Site.run_flow_bind_eq_ok.mp h
  split at h
  · obtain ⟨-, -, h⟩ := Site.run_flow_bind_eq_ok.mp h
    cases h
  · cases h

/-- Past the lockout a token is granted only to the user whose password it is. -/
theorem lookUp_eq_ok_iff :
    (site.run (service.lookUp address password key moment).run).answer? = some (.ok grant) ↔
      site.directory.available ∧ ∃ user, site.directory.authenticate? address password = some user ∧
        (site.run (service.grant key user moment).run).answer? = some (.ok grant) := by
  by_cases hdirectory : site.directory.available
  · rw [run_lookUp hdirectory]
    cases hfound : site.directory.authenticate? address password with
    | none =>
      -- an unknown user or a wrong password is counted, whichever it is
      simpa [settleAttempt] using failLogin_ne_ok
    | some user => simp [settleAttempt, hdirectory]
  · rw [run_lookUp_of_noDirectory (by simpa using hdirectory)]
    simp [hdirectory]

/-- A login succeeds exactly if it is let in for a user and a token can be issued for the user. -/
theorem login_eq_ok_iff {attempt : Attempt} :
    (site.run (service.login attempt.email attempt.password attempt.origin moment).run).answer? =
        some (.ok grant) ↔
      ∃ user, site.Admits service attempt user ∧ ∃ issued,
        Token.issue service.secret user.id.text user.role service.lifetime moment.now
          moment.fresh.text = .ok issued ∧ grant = ⟨issued, user.id, user.role⟩ := by
  cases haddress : attempt.address? with
  | error failure =>
    rw [run_login_of_error haddress]
    simp [Site.Admits, haddress]
  | ok address =>
    obtain ⟨hemail, hsome⟩ := Attempt.address?_eq_ok haddress
    -- the lockout does not see what has been noted before it is asked
    have hcheck : ((site.noted .loginRequested).run
        (service.lockout.check (Lockout.key address attempt.origin)).run).answer? =
          (site.run (service.lockout.check (Lockout.key address attempt.origin)).run).answer? := by
      rw [Lockout.check_eq, Site.run_map, Site.run_map, Site.run_call, Site.run_call]
      rfl
    rw [run_login_of_wellFormed hemail hsome, attempt_eq, Site.run_flow_bind_eq_ok]
    simp only [refusable_eq_ok_iff, state_refusable, lookUp_eq_ok_iff, grant_eq_ok_iff,
      Site.directory_run, Site.directory_noted]
    constructor
    · rintro ⟨_, hpass, hdirectory, user, huser, -, issued, hissue, hgrant⟩
      exact ⟨user, ⟨address, haddress, hcheck ▸ hpass, hdirectory, huser⟩, issued, hissue, hgrant⟩
    · rintro ⟨user, ⟨_, haddress', hpass, hdirectory, huser⟩, issued, hissue, hgrant⟩
      cases haddress.symm.trans haddress'
      rw [← hcheck] at hpass
      exact ⟨(), hpass, hdirectory, user, huser, Lockout.reset_of_check hpass, issued, hissue,
        hgrant⟩

end Service

/-! ## What a success is worded as -/

/-- An answer hands out a token to a user for some seconds. Over HTTP the body has the token and
what it says, and a cookie holds the token as long as it is good. -/
def Answer.HandsOut (service : Service) (token : String) (user : User) (seconds : Int) :
    Answer → Prop
  | .http response =>
    response.status = .ok ∧ response.contentType? = some Http.Response.jsonType ∧
      Json.parse? response.body = some (.object [
        Json.member "access_token" (Json.text token),
        Json.member "token_type" (Json.text "Bearer"),
        Json.member "expires_in" (.int seconds),
        Json.member "user_id" (Json.text user.id.text),
        Json.member "role" user.role.toJson]) ∧
      response.cookies =
        [⟨Credential.cookieName, token, service.secureCookies, seconds, none⟩]
  | .rpcLogin result =>
    result.map Rpc.LoginReply.ofGrant = .ok ⟨token, seconds, user.id.text, user.role.name⟩
  | _ => False

/-- A granted token is handed out to its user for its lifetime, over either interface. -/
theorem Request.handsOut_reportLogin (service : Service) (request : Request)
    (issued : Token.Issued) (user : User) :
    (request.reportLogin service (.ok ⟨issued, user.id, user.role⟩)).HandsOut service issued.token
      user issued.lifetime := by
  cases request with
  | http request fresh =>
    refine ⟨rfl, rfl, Json.parse?_write _ ?_, rfl⟩
    cases user.role <;> rfl
  | _ => rfl

/-! ## Until a token is logged out -/

namespace Site

variable {service : Service} {site : Site} {tokenId : String}

/-- What the store shows of a token is changed by no occurrence but a logout of a token of its
identity that is answered with success. -/
theorem live?_step_of_ne (occurrence : Occurrence) (hcal : site.now.InCalendar)
    (hne : ∀ claims ∈ site.loggedOutBy service occurrence, claims.tokenId ≠ tokenId)
    {later : Time} (hle : (site.step service occurrence).now ≤ later) :
    (site.step service occurrence).store.live? (Revocation.key tokenId) later =
      site.store.live? (Revocation.key tokenId) later := by
  by_cases hup : site.store.available
  · -- a logout that would mark the token is answered with success while the store answers
    refine live?_step ?_ hle
    cases occurrence with
    | request request =>
      refine Request.program_leaves (fun _ _ _ _ => Revocation.key_ne_lockoutKey _ _ _) ?_
      intro token claims hlogout hdecode heq
      exact hne claims (loggedOutBy_of_decode hlogout hup hcal hdecode)
        (Revocation.key_inj.mp heq).symm
    | _ => trivial
  · -- without the store a logout that is refused has not left anything either
    cases occurrence with
    | request request =>
      rw [step, handle, store_run_of_outage (by simpa using hup)]
    | _ => rfl

/-- What the store shows of a token stays as it is over a history in which the token is not logged
out. -/
theorem live?_after_of_ne {occurrences : List Occurrence} (hstart : site.now.InCalendar)
    (hend : (site.after service occurrences).now.InCalendar)
    (hne : ∀ claims ∈ site.loggedOut service occurrences, claims.tokenId ≠ tokenId)
    {later : Time} (hle : (site.after service occurrences).now ≤ later) :
    (site.after service occurrences).store.live? (Revocation.key tokenId) later =
      site.store.live? (Revocation.key tokenId) later := by
  induction occurrences generalizing site with
  | nil => rfl
  | cons occurrence rest ih =>
    rw [loggedOut] at hne
    have hnext : (site.step service occurrence).now ≤ (site.after service
      (occurrence :: rest)).now := now_le_after rest
    have hcal : (site.step service occurrence).now.InCalendar :=
      hstart.of_le hend (now_le_step _) hnext
    -- what the rest leaves alone is what the first occurrence has left alone
    rw [after_cons, ih hcal hend (fun claims hmem => hne claims (List.mem_append_right _ hmem)) hle]
    refine live?_step_of_ne occurrence hstart (fun claims hmem => ?_) (Time.le_trans hnext hle)
    exact hne claims (List.mem_append_left _ (Option.mem_toList.mpr hmem))

/-- A login leaves what the store shows of tokens as it is. -/
theorem live?_handle_of_login? {request : Request} {attempt : Attempt}
    (hlogin : request.login? service = some attempt) (tokenId : String) {later : Time}
    (hle : site.now ≤ later) :
    (site.handle service request).state.store.live? (Revocation.key tokenId) later =
      site.store.live? (Revocation.key tokenId) later := by
  rw [Request.handle_of_login? hlogin, Run.state_map]
  exact Lockout.live?_login service site (Revocation.key_ne_lockoutKey _ _ _) _ _ hle

/-- A token that does not verify is answered with its refusal. -/
theorem answer?_validate_of_error {validation : Validation} {token : String} {refusal : Refusal}
    (h : Token.verify validation.secret token site.now = .error refusal) :
    (site.run (validation.validate token site.now).run).answer? = some (.error refusal) := by
  rw [Validation.run_validate_of_error h]

/-- While the store answers and shows no entry for a token, the token is let through for what it
says, unless it does not verify. -/
theorem answer?_validate_of_notShown {validation : Validation} {token : String} {claims : Claims}
    (h : Token.verify validation.secret token site.now = .ok claims) (hup : site.store.available)
    (hnone : site.store.live? (Revocation.key claims.tokenId) site.now = none) :
    (site.run (validation.validate token site.now).run).answer? = some (.ok claims) := by
  obtain ⟨store, hrun⟩ := validation.run_validate_of_ok site h
  rw [hrun, recalls, if_pos hup, hnone]
  rfl

/-- What a token is answered with after a history from the moment on for which it was issued. -/
theorem validate_after_of_isFor {issued : Token.Issued} {user : User} {fresh : Uuid} {seconds : Nat}
    (h : issued.IsFor service.secret user fresh site.now seconds) (hpositive : 0 < seconds)
    (hcal : site.now.InCalendar) (occurrences : List Occurrence) :
    let later := site.after service occurrences
    let answer? := (later.run (service.validation.validate issued.token later.now).run).answer?
    (later.now.InCalendar → later.store.available →
      site.store.live? (Revocation.key fresh.text) site.now = none →
      (∀ claims ∈ site.loggedOut service occurrences, claims.tokenId ≠ fresh.text) →
      later.now.seconds ≤ site.now.seconds + seconds → answer? = some (.ok issued.claims)) ∧
    (site.now.seconds + seconds < later.now.seconds → answer? = some (.error .expiredToken)) := by
  intro later answer?
  have hle : site.now ≤ later.now := now_le_after occurrences
  have hverify := h.verify hpositive hle
  constructor
  · intro hend hup hnone hne hgood
    rw [if_pos hgood] at hverify
    refine answer?_validate_of_notShown hverify hup ?_
    rw [h.tokenId, live?_after_of_ne hcal hend hne (Time.le_refl _),
      Store.Memory.live?_of_le _ _ hle, hnone, Option.filter_none]
  · intro hlate
    rw [if_neg (Int.not_le.mpr hlate)] at hverify
    exact answer?_validate_of_error hverify

end Site

/-- With a lifetime that the settings accept, a login succeeds exactly if it is let in for a user,
and then it hands out a token that is issued for the user at that moment. Whatever happens
afterwards, to the end of its last second the token is let through for what it says while the store
answers, unless a token of its identity was logged out before or its logout has been answered with
success since; and ever after it is refused as expired. -/
theorem Service.login_hands_out (service : Service) (site : Site) (request : Request)
    {env : Environment} {seconds : Nat} {attempt : Attempt}
    (hload : Settings.loadLifetime env = .ok seconds)
    (hlifetime : service.lifetime = Duration.ofSeconds seconds) (hcal : site.now.InCalendar)
    (hlogin : request.login? service = some attempt) :
    let run := site.handle service request
    ((∃ answer, run.answer? = some answer ∧ answer.succeeds) ↔
      ∃ user, site.Admits service attempt user) ∧
    ∀ user, site.Admits service attempt user → ∃ (answer : Answer) (issued : Token.Issued),
      run.answer? = some answer ∧ answer.HandsOut service issued.token user seconds ∧
      issued.IsFor service.secret user attempt.fresh site.now seconds ∧
      ∀ occurrences,
        let later := run.state.after service occurrences
        let answer? := (later.run (service.validation.validate issued.token later.now).run).answer?
        (later.now.InCalendar → later.store.available →
          site.store.live? (Revocation.key attempt.fresh.text) site.now = none →
          (∀ claims ∈ run.state.loggedOut service occurrences,
            claims.tokenId ≠ attempt.fresh.text) →
          later.now.seconds ≤ site.now.seconds + seconds →
          answer? = some (.ok issued.claims)) ∧
        (site.now.seconds + seconds < later.now.seconds →
          answer? = some (.error .expiredToken)) := by
  intro run
  obtain ⟨-, hpositive, hbounded⟩ := Settings.loadLifetime_eq_ok_iff.mp hload
  have hseconds : service.lifetime.seconds = seconds := by
    rw [hlifetime, Duration.ofSeconds, Duration.seconds, Nat.mul_div_cancel _ (by decide)]
  have hanswer : run.answer? = (site.run (service.login attempt.email attempt.password
      attempt.origin ⟨site.now, attempt.fresh⟩).run).answer?.map (request.reportLogin service) :=
    congrArg Run.answer? (Request.handle_of_login? hlogin)
  -- a token can be issued for whoever is let in
  have hissues (user : User) : ∃ issued, Token.issue service.secret user.id.text user.role
      service.lifetime site.now attempt.fresh.text = .ok issued :=
    Token.issue_eq_ok _ _ _ _ hcal (hseconds.symm ▸ hpositive) (hseconds.symm ▸ hbounded)
  have hgrants {user : User} (hadmits : site.Admits service attempt user) {issued : Token.Issued}
      (hissue : Token.issue service.secret user.id.text user.role service.lifetime site.now
        attempt.fresh.text = .ok issued) :
      run.answer? = some (request.reportLogin service (.ok ⟨issued, user.id, user.role⟩)) := by
    rw [hanswer, login_eq_ok_iff.mpr ⟨user, hadmits, issued, hissue, rfl⟩, Option.map_some]
  refine ⟨⟨?_, ?_⟩, ?_⟩
  · rintro ⟨answer, hfound, hsucceeds⟩
    rw [hanswer] at hfound
    obtain ⟨result, hresult, rfl⟩ := Option.map_eq_some_iff.mp hfound
    rw [Request.succeeds_reportLogin] at hsucceeds
    cases result with
    | error failure => cases hsucceeds
    | ok grant =>
      obtain ⟨user, hadmits, -⟩ := login_eq_ok_iff.mp hresult
      exact ⟨user, hadmits⟩
  · rintro ⟨user, hadmits⟩
    obtain ⟨issued, hissue⟩ := hissues user
    exact ⟨_, hgrants hadmits hissue, Request.succeeds_reportLogin _ _ _⟩
  · intro user hadmits
    obtain ⟨issued, hissue⟩ := hissues user
    have hfor := hseconds ▸ Token.isFor_of_issue hcal (hseconds.symm ▸ hbounded) hissue
    have hnow : run.state.now = site.now := Site.now_run site _
    refine ⟨_, issued, hgrants hadmits hissue, ?_, hfor, ?_⟩
    · have hout := request.handsOut_reportLogin service issued user
      rw [hfor.lifetime_eq] at hout
      exact hout
    · -- the history starts from what the login has left, and a login touches no token
      rw [← Site.live?_handle_of_login? hlogin _ (Time.le_refl _), ← hnow]
      exact Site.validate_after_of_isFor (hnow.symm ▸ hfor) hpositive (hnow.symm ▸ hcal)

/-- The sample site with a user who has signed up. -/
def Site.sampleJoined : Site := { Site.sample with directory := ⟨[Service.newcomer], true⟩ }

/-- The sample with a newcomer admits the newcomer. -/
theorem Site.admits_newcomer :
    Site.sampleJoined.Admits Service.sample ⟨"a@b", "right", "unknown", ⟨List.replicate 16 7⟩⟩
      Service.newcomer := by
  refine ⟨"a@b", rfl, ?_, rfl, Service.authenticate_newcomer⟩
  rw [Lockout.run_check rfl]
  rfl

/-- The login hands out a token for an hour, which is good when the hour is over, and a second
later is not. -/
theorem Service.login_hands_out_sample :
    let run := Site.sampleJoined.handle Service.sample .sampleLogin
    ∃ (answer : Answer) (issued : Token.Issued), run.answer? = some answer ∧
      answer.HandsOut Service.sample issued.token newcomer 3600 ∧
      ((run.state.after Service.sample [.wait (Duration.ofSeconds 3600)]).run
        (Service.sample.validation.validate issued.token (Time.ofSeconds 5100)).run).answer? =
          some (.ok issued.claims) ∧
      ((run.state.after Service.sample [.wait (Duration.ofSeconds 3601)]).run
        (Service.sample.validation.validate issued.token (Time.ofSeconds 5101)).run).answer? =
          some (.error .expiredToken) := by
  intro run
  have hload : Settings.loadLifetime (Settings.sampleEnvironment "600") = .ok 3600 := rfl
  obtain ⟨-, hgrants⟩ := login_hands_out Service.sample Site.sampleJoined .sampleLogin hload rfl
    (by decide) rfl
  obtain ⟨answer, issued, hanswer, hout, -, hlater⟩ := hgrants newcomer Site.admits_newcomer
  have hnow (span : Duration) : (run.state.after Service.sample [.wait span]).now =
      Site.sample.now.add span := by
    have hstill : run.state.now = Site.sample.now := Site.now_run _ _
    rw [Site.after_cons, Site.after_nil, Site.now_step_wait, hstill]
  have hup (span : Duration) :
      (run.state.after Service.sample [.wait span]).store.available := by
    have hstill : run.state.store.available = true := Site.available_run _ _
    rw [Site.after_cons, Site.after_nil, Site.available_step_wait, hstill]
  obtain ⟨hgood, -⟩ := hlater [.wait (Duration.ofSeconds 3600)]
  obtain ⟨-, hexpired⟩ := hlater [.wait (Duration.ofSeconds 3601)]
  rw [hnow] at hgood hexpired
  refine ⟨answer, issued, hanswer, hout, hgood (by decide) (hup _) rfl ?_ (by decide),
    hexpired (by decide)⟩
  -- nobody logs out
  intro claims hmem
  cases hmem

end Bearer
