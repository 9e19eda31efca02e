import Bearer.Http.Guard
import Bearer.Proofs.Credential
import Bearer.Proofs.Program.Surroundings
import Bearer.Proofs.Service.Tokens
import Bearer.Proofs.Site.History
import Bearer.Proofs.Token.Soundness
import Bearer.Rpc.Api
import Bearer.Rpc.Guard

/-!
# Entrances

A token can be presented in four ways: to the guard of a route in a header or in a cookie, to the
guard of a remote call in its metadata, and to the service in the body of a call. Each of the four
does what validation does, and words the outcome.

Each entrance is first reduced to the validation of the very token that was put in; what its run
comes to in any surroundings is then said once for each, by the answer of the validation.

Main statement: `entrances_agree`.
-/

namespace Bearer

open Program (Run)

variable {validation : Validation} {token : String} {now : Time}

variable {σ : Type}

/-! ## What validation refuses and accepts -/

/-- Validation refuses a token as invalid, expired or revoked, and for no other reason. -/
theorem Validation.refusal_of_run {around : Surroundings σ} {standing : Standing σ}
    {refusal : Refusal}
    (h : (around.run standing (validation.validate token now).run).answer? =
      some (.error refusal)) :
    refusal = .invalidToken ∨ refusal = .expiredToken ∨ refusal = .revokedToken := by
  rcases hverify : Token.verify validation.secret token now with cause | claims
  · rw [validate_of_error hverify] at h
    cases h
    exact (Token.eq_of_verify_eq_error hverify).imp_right .inl
  · -- the store has been asked, and its answer has been judged
    rw [validate_of_ok hverify, Surroundings.run_map] at h
    obtain ⟨answer, -, hjudged⟩ := Option.map_eq_some_iff.mp h
    exact (conclude_eq_error hjudged).imp_right .inr

/-- A token is validated for what it says, and only if it verifies. -/
theorem Validation.verify_of_run {around : Surroundings σ} {standing : Standing σ}
    {claims : Claims}
    (h : (around.run standing (validation.validate token now).run).answer? = some (.ok claims)) :
    Token.verify validation.secret token now = .ok claims := by
  rcases hverify : Token.verify validation.secret token now with refusal | found
  · rw [validate_of_error hverify] at h
    cases h
  · rw [validate_of_ok hverify, Surroundings.run_map] at h
    obtain ⟨answer, -, hjudged⟩ := Option.map_eq_some_iff.mp h
    rw [conclude_eq_ok hjudged]

/-! ## The entrances as validations -/

/-- A request with a token is let through to its handler by the validation of that token. -/
theorem Http.guarded_of_token? {request : Http.Request} (h : request.token? = .ok token)
    (handler : Http.Handler) (visitor? : Option Http.Visitor) :
    Http.guarded validation now handler request visitor? =
      (validation.validate token now).run >>= fun
        | .ok claims => handler request (some (.ofClaims claims))
        | .error refusal => pure (Http.Response.ofRefusal refusal) := by
  rw [guarded, visitorOf, h, Program.liftExcept_ok_bind, bind_pure_comp, ExceptT.run_map,
    bind_map_left]
  congr 1
  funext result
  cases result <;> rfl

/-- What a guarded call comes to, given the outcome of the validation. -/
def Rpc.Call.settle (call : Rpc.Call) : Except Refusal Claims → Except Rpc.Status Claims × Rpc.Call
  | .ok claims => (.ok claims, { call with claims? := some claims })
  | .error refusal => (.error (.ofRefusal refusal), call)

/-- A call with a token is settled by the validation of that token. -/
theorem Rpc.authenticate_of_token? {call : Rpc.Call} (h : call.metadata.token? = .ok token) :
    Rpc.authenticate validation call now =
      call.settle <$> (validation.validate token now).run := by
  rw [authenticate, validateMetadata, h, Program.liftExcept_ok_bind, ExceptT.run_adapt,
    bind_map_left, map_eq_pure_bind]
  congr 1
  funext result
  cases result <;> rfl

/-- A token that is asked about without blanks gets the verdict of its validation, and a bad one is
noted. -/
theorem Rpc.Api.validate_of_trim (service : Service) (now : Time) (htrim : Text.trim token = token)
    (hne : token ≠ "") :
    (Rpc.Api.validate service token now).run =
      (service.validation.validate token now).run >>= fun result =>
        if result.isOk then pure (verdict result)
        else Program.note .validationFailed >>= fun _ => pure (verdict result) := by
  rw [validate]
  simp only [htrim, if_neg hne]
  rw [ExceptT.run_mk, Service.validate, ExceptT.run_mk, map_eq_pure_bind, bind_assoc]
  congr 1
  funext result
  split <;> simp

namespace Request

variable {service : Service} {request : Request}

/-- The token that a request asks the service itself to validate, if it does. -/
def validation? : Request → Option String
  | .rpcValidate token => if Text.trim token = "" then none else some (Text.trim token)
  | _ => none

/-- A validation as a remote call is one of the service, worded as a verdict. -/
theorem program_of_validation? (h : request.validation? = some token) :
    request.program service now = (fun result => .rpcValidate (Rpc.Api.verdict result)) <$>
      (service.validate token now).run := by
  cases request with
  | rpcValidate text =>
    rw [validation?] at h
    split at h
    · cases h
    · next hsome =>
      cases h
      rw [program, Rpc.Api.validate, if_neg hsome, ExceptT.run_mk, Functor.map_map]
  | _ => cases h

/-- What asks the service for nothing is answered at once, or with the counters, or by the outcome
of a validation that is not counted. -/
theorem program_of_none (hlogin : request.login? service = none) (hlogout : request.logout? = none)
    (hvalidation : request.validation? = none) :
    (∃ answer, request.program service now = .done answer) ∨
    (∃ report, request.program service now = report <$> Program.readMetrics) ∨
    ∃ token report, request.program service now =
      report <$> (service.validation.validate token now).run := by
  cases request with
  | http request fresh =>
    rw [program, Http.respond]
    rw [login?] at hlogin
    rw [logout?] at hlogout
    cases hroute : request.route? with
    | none => exact .inl ⟨_, rfl⟩
    | some route =>
      cases route with
      | health => exact .inl ⟨_, rfl⟩
      | metrics => exact .inr (.inl ⟨_, rfl⟩)
      | description => exact .inl ⟨_, rfl⟩
      | login =>
        rw [if_pos hroute, Option.map_eq_none_iff] at hlogin
        -- a login whose body cannot be read is answered without a step
        simp only [Http.login, hlogin]
        exact .inl ⟨_, rfl⟩
      | logout =>
        rw [if_pos hroute] at hlogout
        -- a logout would have a token, so this one is refused for having none
        simp only [Http.logout]
        cases htoken : request.token? with
        | ok token =>
          rw [htoken] at hlogout
          cases hlogout
        | error refusal => exact .inl ⟨_, rfl⟩
  | guarded request =>
    rw [program, Http.profile]
    split
    · cases htoken : request.token? with
      | error refusal =>
        rw [Http.guarded, Http.visitorOf, htoken]
        exact .inl ⟨_, rfl⟩
      | ok token =>
        -- only here is a token judged that the request does not ask about
        rw [Http.guarded_of_token? htoken]
        refine .inr (.inr ⟨token, fun
          | .ok claims => .http (.json .ok (Http.Visitor.ofClaims claims).toJson [])
          | .error refusal => .http (.ofRefusal refusal), ?_⟩)
        rw [map_bind, map_eq_pure_bind]
        congr 1
        funext result
        cases result <;> rfl
    · split
      · exact .inl ⟨_, rfl⟩
      · exact .inl ⟨_, rfl⟩
  | rpcLogin caller email password fresh => cases hlogin
  | rpcValidate token =>
    rw [validation?] at hvalidation
    rw [program, Rpc.Api.validate]
    -- the service is asked about a blank text, since any other is a token
    split at hvalidation
    · next hblank =>
      rw [if_pos hblank]
      exact .inl ⟨_, rfl⟩
    · cases hvalidation
  | rpcLogout caller text =>
    rw [program, Rpc.Api.logout]
    cases htoken : Rpc.Api.logoutToken caller text with
    | ok token =>
      rw [logout?, htoken] at hlogout
      cases hlogout
    | error status => exact .inl ⟨_, rfl⟩
  | rpcGuarded call =>
    rw [program]
    cases htoken : call.metadata.token? with
    | error refusal =>
      rw [Rpc.authenticate, Rpc.validateMetadata, htoken]
      exact .inl ⟨_, rfl⟩
    | ok token =>
      rw [Rpc.authenticate_of_token? htoken, Functor.map_map]
      exact .inr (.inr ⟨token, _, rfl⟩)
  | validate token => exact .inr (.inr ⟨token, _, rfl⟩)

end Request

/-! ## The entrances in surroundings -/

/-- A run with some effects before its own. -/
def Program.Run.precededBy {α : Type} (r : Run σ α) (effects : List Effect) : Run σ α :=
  { r with effects := effects ++ r.effects }

/-- The response to a request whose token is refused. -/
theorem Http.Response.ofRefusal_eq {refusal : Refusal}
    (h : refusal = .invalidToken ∨ refusal = .expiredToken ∨ refusal = .revokedToken) :
    Http.Response.ofRefusal refusal =
      .json .unauthorized (.object [Json.member "error" (Json.text refusal.category.word),
        Json.member "status" (.int 401)]) [] := by
  rcases h with rfl | rfl | rfl <;> rfl

section

variable (validation : Validation) (now : Time) (around : Surroundings σ)
  (standing : Standing σ)

/-- The handler of a guarded route runs after a validation that accepts, and only then. -/
theorem Http.run_guarded {request : Http.Request} (htoken : request.token? = .ok token)
    (handler : Http.Handler) :
    let r := around.run standing (validation.validate token now).run
    let guarded := around.run standing (Http.guarded validation now handler request none)
    (∀ claims, r.answer? = some (.ok claims) → guarded =
      (around.run r.state (handler request (some (.ofClaims claims)))).precededBy r.effects) ∧
    (∀ refusal, r.answer? = some (.error refusal) → guarded =
      ⟨some (.json .unauthorized (.object [
        Json.member "error" (Json.text refusal.category.word),
        Json.member "status" (.int 401)]) []), r.state, r.effects⟩) ∧
    (r.answer? = none → guarded = ⟨none, r.state, r.effects⟩) ∧ r.calls <+: guarded.calls := by
  intro r guarded
  have hguarded : guarded = r.andThen fun result s => around.run s (match result with
      | .ok claims => handler request (some (.ofClaims claims))
      | .error refusal => pure (Http.Response.ofRefusal refusal)) := by
    rw [← Surroundings.run_bind, ← guarded_of_token? htoken handler none]
  rw [hguarded]
  refine ⟨fun claims hclaims => ?_, fun refusal hrefusal => ?_,
    fun hnone => Run.andThen_of_none hnone _, r.calls_prefix_andThen _⟩
  · rw [Run.andThen_of_some hclaims]
    rfl
  · rw [Run.andThen_of_some hrefusal,
      ← Http.Response.ofRefusal_eq (Validation.refusal_of_run hrefusal)]
    dsimp only
    rw [Surroundings.run_pure, List.append_nil]

/-- A guarded call is settled by the validation of its token. -/
theorem Rpc.run_authenticate {call : Rpc.Call} (htoken : call.metadata.token? = .ok token) :
    let r := around.run standing (validation.validate token now).run
    let authenticated := around.run standing (Rpc.authenticate validation call now)
    (∀ claims, r.answer? = some (.ok claims) → authenticated =
      ⟨some (.ok claims, { call with claims? := some claims }), r.state, r.effects⟩) ∧
    (∀ refusal, r.answer? = some (.error refusal) → authenticated =
      ⟨some (.error ⟨.unauthenticated, refusal.category.word⟩, call), r.state, r.effects⟩) ∧
    (r.answer? = none → authenticated = ⟨none, r.state, r.effects⟩) ∧
    authenticated.calls = r.calls := by
  intro r authenticated
  have hauthenticated : authenticated = r.map call.settle := by
    rw [← Surroundings.run_map, ← authenticate_of_token? htoken]
  rw [hauthenticated]
  refine ⟨fun claims hclaims => ?_, fun refusal hrefusal => ?_, fun hnone => ?_, ?_⟩
  · rw [Run.map, hclaims]
    rfl
  · rw [Run.map, hrefusal]
    rcases Validation.refusal_of_run hrefusal with rfl | rfl | rfl <;> rfl
  · rw [Run.map, hnone]
    rfl
  · rw [Run.calls, Run.effects_map, Run.calls]

/-- A token in the body of a call is answered with the verdict of its validation; that it is refused
is noted. -/
theorem Rpc.Api.run_validate (service : Service) (htrim : Text.trim token = token)
    (hne : token ≠ "") :
    let r := around.run standing (service.validation.validate token now).run
    let validated := around.run standing (Rpc.Api.validate service token now).run
    (∀ claims, r.answer? = some (.ok claims) → validated =
      ⟨some (.ok ⟨true, claims.subject, claims.role.name, ""⟩), r.state, r.effects⟩) ∧
    (∀ refusal, r.answer? = some (.error refusal) → validated =
      ⟨some (.ok ⟨false, "", "", refusal.category.word⟩),
        { r.state with metrics := r.state.metrics.add .validationFailed },
        r.effects ++ [.note .validationFailed]⟩) ∧
    (r.answer? = none → validated = ⟨none, r.state, r.effects⟩) ∧ validated.calls = r.calls := by
  intro r validated
  have hvalidated : validated = r.andThen fun result s => around.run s (
      if result.isOk then pure (verdict result)
      else Program.note .validationFailed >>= fun _ => pure (verdict result)) := by
    rw [← Surroundings.run_bind, ← validate_of_trim service now htrim hne]
  have haccepted : ∀ claims, r.answer? = some (.ok claims) → validated =
      ⟨some (.ok ⟨true, claims.subject, claims.role.name, ""⟩), r.state, r.effects⟩ := by
    intro claims hclaims
    rw [hvalidated, Run.andThen_of_some hclaims]
    simp only [Except.isOk, Except.toBool, if_true]
    rw [Surroundings.run_pure, List.append_nil]
    rfl
  have hrejected : ∀ refusal, r.answer? = some (.error refusal) → validated =
      ⟨some (.ok ⟨false, "", "", refusal.category.word⟩),
        { r.state with metrics := r.state.metrics.add .validationFailed },
        r.effects ++ [.note .validationFailed]⟩ := by
    intro refusal hrefusal
    rw [hvalidated, Run.andThen_of_some hrefusal]
    rcases Validation.refusal_of_run hrefusal with rfl | rfl | rfl <;> rfl
  have haborted : r.answer? = none → validated = ⟨none, r.state, r.effects⟩ := by
    intro hnone
    rw [hvalidated, Run.andThen_of_none hnone]
  refine ⟨haccepted, hrejected, haborted, ?_⟩
  -- the note of a refusal is no call
  rcases hanswer : r.answer? with _ | refusal | claims
  · rw [haborted hanswer]
    rfl
  · rw [hrejected refusal hanswer, Run.calls, Run.calls, List.filterMap_append]
    exact List.append_nil _
  · rw [haccepted claims hanswer]
    rfl

end

/-! ## Main statement -/

/-- However a token is presented, what comes of it is what validation says of the token, and the
store is called as validation calls it: in any surroundings, at any moment, under either policy, and
for every text that is made of the characters of tokens. -/
theorem entrances_agree (service : Service) (now : Time) (around : Surroundings σ)
    (standing : Standing σ) (hcompact : Credential.IsCompact token) (hne : token ≠ "")
    {request : Http.Request} (hrequest : request.BearsInHeader token ∨ request.BearsInCookie token)
    {call : Rpc.Call} (hcall : call.metadata.first? "authorization" =
      some (Text.utf8 ("Bearer " ++ token))) (handler : Http.Handler) :
    let r := around.run standing (service.validation.validate token now).run
    let guarded := around.run standing (Http.guarded service.validation now handler request none)
    let authenticated := around.run standing (Rpc.authenticate service.validation call now)
    let validated := around.run standing (Rpc.Api.validate service token now).run
    (∀ claims, r.answer? = some (.ok claims) →
      guarded = (around.run r.state (handler request
        (some ⟨claims.subject, claims.role, claims.tokenId, claims.expiresAt⟩))).precededBy
          r.effects ∧
      authenticated = ⟨some (.ok claims, { call with claims? := some claims }), r.state,
        r.effects⟩ ∧
      validated = ⟨some (.ok ⟨true, claims.subject, claims.role.name, ""⟩), r.state,
        r.effects⟩) ∧
    (∀ refusal, r.answer? = some (.error refusal) →
      guarded = ⟨some (.json .unauthorized (.object [
          Json.member "error" (Json.text refusal.category.word),
          Json.member "status" (.int 401)]) []), r.state, r.effects⟩ ∧
      authenticated = ⟨some (.error ⟨.unauthenticated, refusal.category.word⟩, call), r.state,
        r.effects⟩ ∧
      validated = ⟨some (.ok ⟨false, "", "", refusal.category.word⟩),
        { r.state with metrics := r.state.metrics.add .validationFailed },
        r.effects ++ [.note .validationFailed]⟩) ∧
    (r.answer? = none → guarded = ⟨none, r.state, r.effects⟩ ∧
      authenticated = ⟨none, r.state, r.effects⟩ ∧ validated = ⟨none, r.state, r.effects⟩) ∧
    r.calls <+: guarded.calls ∧ authenticated.calls = r.calls ∧ validated.calls = r.calls := by
  intro r guarded authenticated validated
  have htoken : request.token? = .ok token :=
    hrequest.elim (Http.Request.token?_of_header hcompact hne)
      (Http.Request.token?_of_cookie hcompact hne)
  have hguarded := Http.run_guarded service.validation now around standing htoken handler
  have hauthenticated := Rpc.run_authenticate service.validation now around standing
    (Rpc.Metadata.token?_of_first? hcompact hne hcall)
  have hvalidated := Rpc.Api.run_validate now around standing service hcompact.trim hne
  refine ⟨fun claims hclaims => ?_, fun refusal hrefusal => ?_, fun hnone => ?_,
    hguarded.2.2.2, hauthenticated.2.2.2, hvalidated.2.2.2⟩
  · exact ⟨hguarded.1 claims hclaims, hauthenticated.1 claims hclaims, hvalidated.1 claims hclaims⟩
  · exact ⟨hguarded.2.1 refusal hrefusal, hauthenticated.2.1 refusal hrefusal,
      hvalidated.2.1 refusal hrefusal⟩
  · exact ⟨hguarded.2.2.1 hnone, hauthenticated.2.2.1 hnone, hvalidated.2.2.1 hnone⟩

/-- A request whose only cookie holds a token. -/
def Http.Request.withCookie (token : String) : Http.Request where
  method := "GET"
  target := "/api/me"
  headers := [("Cookie", Text.utf8 ("access_token=" ++ token))]
  body := []
  peer? := none

/-- A token from a cookie, from metadata and from a body is accepted for the same subject. -/
theorem entrances_agree_sample :
    let around := Surroundings.ofSite Site.sample
    let standing : Standing Store.Memory := ⟨Site.sample.store, Site.sample.metrics⟩
    let call : Rpc.Call :=
      ⟨[("authorization", Text.utf8 ("Bearer " ++ Token.sample))], none⟩
    (around.run standing (Http.guarded Service.sample.validation Site.sample.now Http.whoAmI
        (.withCookie Token.sample) none)).answer? =
      some (.json .ok (Http.Visitor.ofClaims Token.sampleClaims).toJson []) ∧
    (around.run standing (Rpc.authenticate Service.sample.validation call
        Site.sample.now)).answer? =
      some (.ok Token.sampleClaims, { call with claims? := some Token.sampleClaims }) ∧
    (around.run standing
        (Rpc.Api.validate Service.sample Token.sample Site.sample.now).run).answer? =
      some (.ok ⟨true, "user \"\\\n", "admin", ""⟩) := by
  intro around standing call
  have hverify : Token.verify Service.sample.validation.secret Token.sample Site.sample.now =
      .ok Token.sampleClaims :=
    Token.verify_eq_ok_iff.mpr ⟨Token.decode_sample (by decide), by decide⟩
  have hvalid : (around.run standing (Service.sample.validation.validate Token.sample
      Site.sample.now).run).answer? = some (.ok Token.sampleClaims) := by
    rw [Validation.validate_of_ok hverify]
    rfl
  -- the three entries are given the one token, in a cookie, in metadata and as it is
  have hcompact : Credential.IsCompact Token.sample := Token.isCompact_sign _ _
  have hcookie : (Http.Request.withCookie Token.sample).BearsInCookie Token.sample := ⟨rfl, rfl⟩
  have hmetadata : call.metadata.first? "authorization" =
      some (Text.utf8 ("Bearer " ++ Token.sample)) := rfl
  obtain ⟨haccepted, -⟩ := entrances_agree Service.sample Site.sample.now around standing hcompact
    (Token.sign_ne_empty _ _) (.inr hcookie) hmetadata Http.whoAmI
  obtain ⟨hguarded, hauthenticated, hvalidated⟩ := haccepted _ hvalid
  refine ⟨?_, ?_, ?_⟩
  · rw [hguarded]
    rfl
  · rw [hauthenticated]
  · rw [hvalidated]
    rfl

end Bearer
