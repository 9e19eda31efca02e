import Bearer.Http.Api
import Bearer.Http.Guard
import Bearer.Proofs.Service.Login
import Bearer.Proofs.Service.Tokens
import Bearer.Rpc.Api
import Bearer.Rpc.Guard

/-!
# Requests over every interface

All that a site can be asked: the routes over HTTP, the remote calls, the guards of other
applications, and the validation itself. Over either interface a login comes to a login of the
service, and a logout to a logout of the service; the interface only words the outcome. Everything
else writes nothing.

Main statements: `handle_of_login?` and `handle_of_logout?` reduce the handling of a request to the
service, and `program_within` bounds what a request can write.
-/

namespace Bearer

open Program (Run)

namespace Revocation

/-- Different tokens have different keys. -/
theorem key_inj {tokenId other : String} : key tokenId = key other ↔ tokenId = other := by
  unfold key
  rw [← String.toList_inj, String.toList_append, String.toList_append,
    List.append_cancel_left_eq, String.toList_inj]

/-- No key of a revoked token is a key of failed logins. -/
theorem key_ne_lockoutKey (tokenId identity origin : String) :
    key tokenId ≠ Lockout.key identity origin := by
  intro h
  unfold key Lockout.key at h
  rw [← String.toList_inj] at h
  simp only [String.toList_append, List.append_assoc] at h
  -- the two kinds of keys differ within their first six characters
  have hfirst := congrArg (List.take 6) h
  rw [List.take_append_of_le_length (by decide),
    List.take_append_of_le_length (by decide)] at hfirst
  exact absurd hfirst (by decide)

end Revocation

/-- What a site can be asked. -/
inductive Request where
  /-- A request over HTTP, with an identifier that no other request has. -/
  | http (request : Http.Request) (fresh : Uuid)
  /-- A request over HTTP to an application behind a guard. -/
  | guarded (request : Http.Request)
  /-- A login as a remote call, with an identifier that no other request has. -/
  | rpcLogin (caller : Rpc.Caller) (email password : String) (fresh : Uuid)
  /-- A validation as a remote call. -/
  | rpcValidate (token : String)
  /-- A logout as a remote call. -/
  | rpcLogout (caller : Rpc.Caller) (token : String)
  /-- A remote call to an application behind a guard. -/
  | rpcGuarded (call : Rpc.Call)
  /-- A validation within the service itself. -/
  | validate (token : String)

/-- What a request is answered with. -/
inductive Answer where
  /-- A response over HTTP. -/
  | http (response : Http.Response)
  /-- The outcome of a login as a remote call. -/
  | rpcLogin (result : Except Rpc.Status Grant)
  /-- The outcome of a validation as a remote call. -/
  | rpcValidate (result : Except Rpc.Status Rpc.Verdict)
  /-- The outcome of a logout as a remote call. -/
  | rpcLogout (result : Except Rpc.Status Unit)
  /-- The outcome of a guard, and the call with what is then known about it. -/
  | rpcGuarded (result : Except Rpc.Status Claims × Rpc.Call)
  /-- The outcome of a validation. -/
  | validate (result : Except Refusal Claims)

/-- Whether an answer reports success. -/
def Answer.succeeds : Answer → Bool
  | .http response => response.status = .ok
  | .rpcLogin result => result.isOk
  | .rpcValidate result => result.isOk
  | .rpcLogout result => result.isOk
  | .rpcGuarded result => result.1.isOk
  | .validate result => result.isOk

/-- What a login presents, and the identifier that came with it. -/
structure Attempt where
  /-- The address as it was typed. -/
  email : String
  password : String
  /-- Where the request comes from. -/
  origin : String
  /-- A fresh identifier. -/
  fresh : Uuid

namespace Request

variable {service : Service} {request : Request} {site : Site} {now : Time}

/-- The program that answers a request. -/
def program (service : Service) (now : Time) : Request → Program Answer
  | .http request fresh => Answer.http <$> Http.respond service request ⟨now, fresh⟩
  | .guarded request => Answer.http <$> Http.profile service.validation now request
  | .rpcLogin caller email password fresh =>
    Answer.rpcLogin <$> (Rpc.Api.login service caller email password ⟨now, fresh⟩).run
  | .rpcValidate token => Answer.rpcValidate <$> (Rpc.Api.validate service token now).run
  | .rpcLogout caller token => Answer.rpcLogout <$> (Rpc.Api.logout service caller token now).run
  | .rpcGuarded call => Answer.rpcGuarded <$> Rpc.authenticate service.validation call now
  | .validate token => Answer.validate <$> (service.validation.validate token now).run

/-- The login that a request asks for, if it does. -/
def login? (service : Service) : Request → Option Attempt
  | .http request fresh =>
    if request.route? = some .login then
      request.login?.map fun (email, password) =>
        ⟨email, password, Http.Origin.ofRequest request service.trustForwarded, fresh⟩
    else none
  | .rpcLogin caller email password fresh =>
    some ⟨email, password, caller.origin service.trustForwarded, fresh⟩
  | _ => none

/-- The token that a request asks to log out, if it does. -/
def logout? : Request → Option String
  | .http request _ =>
    if request.route? = some .logout then request.token?.toOption else none
  | .rpcLogout caller token => (Rpc.Api.logoutToken caller token).toOption
  | _ => none

/-- The token that a request presents to be validated, if it does. -/
def validates? : Request → Option String
  | .guarded request => request.token?.toOption
  | .rpcValidate token => if Text.trim token = "" then none else some (Text.trim token)
  | .rpcGuarded call => call.metadata.token?.toOption
  | .validate token => some token
  | _ => none

/-- How the outcome of a flow is worded over HTTP. -/
def wordedOverHttp : Except Failure Http.Response → Http.Response
  | .ok response => response
  | .error failure => Http.Response.ofFailure failure

/-- The response to a successful logout. -/
def loggedOut (service : Service) (now : Time) : Http.Response :=
  Http.Response.json .ok Http.logoutBody [Http.SetCookie.removal now service.secureCookies]

/-- How the outcome of a login is worded over the interface of a request. -/
def reportLogin (service : Service) : Request → Except Failure Grant → Answer
  | .http .. => fun result => .http (wordedOverHttp (result.map (Http.granted service)))
  | _ => fun result => .rpcLogin (result.mapError Rpc.Status.ofFailure)

/-- How the outcome of a logout is worded over the interface of a request. -/
def reportLogout (service : Service) (now : Time) : Request → Except Failure Unit → Answer
  | .http .. => fun result => .http (wordedOverHttp (result.map fun _ => loggedOut service now))
  | _ => fun result => .rpcLogout (result.mapError Rpc.Status.ofFailure)

end Request

/-- Answers a request. -/
def Site.handle (service : Service) (site : Site) (request : Request) : Run Site Answer :=
  site.run (request.program service site.now)

namespace Request

variable {service : Service} {request : Request} {site : Site} {now : Time}

/-! ## Wording -/

/-- No failure is worded as a success. -/
theorem status_ofFailure_ne_ok (failure : Failure) :
    (Http.Response.ofFailure failure).status ≠ .ok := by
  rw [Http.Response.ofFailure, Http.Response.error, Http.Response.json]
  cases failure with
  | refusal cause => cases cause <;> nofun
  | _ => nofun

/-- The wording of a login's outcome keeps whether it is a success. -/
theorem succeeds_reportLogin (service : Service) (request : Request)
    (result : Except Failure Grant) :
    (request.reportLogin service result).succeeds = result.isOk := by
  cases request with
  | http request fresh =>
    cases result with
    | ok grant => rfl
    | error failure => exact decide_eq_false (status_ofFailure_ne_ok failure)
  | _ => cases result <;> rfl

/-- The wording of a logout's outcome keeps whether it is a success. -/
theorem succeeds_reportLogout (service : Service) (now : Time) (request : Request)
    (result : Except Failure Unit) :
    (request.reportLogout service now result).succeeds = result.isOk := by
  cases request with
  | http request fresh =>
    cases result with
    | ok grant => rfl
    | error failure => exact decide_eq_false (status_ofFailure_ne_ok failure)
  | _ => cases result <;> rfl

/-- Over HTTP, a computation is settled by wording its result. -/
theorem settle_eq (flow : Service.Flow Http.Response) :
    Http.settle flow = wordedOverHttp <$> flow.run := by
  rw [Http.settle, map_eq_pure_bind]
  congr 1
  funext result
  cases result <;> rfl

/-! ## Logins and logouts -/

/-- A login is a login of the service, worded over the interface. -/
theorem program_of_login? {attempt : Attempt} (h : request.login? service = some attempt)
    (now : Time) :
    request.program service now = request.reportLogin service <$>
      (service.login attempt.email attempt.password attempt.origin ⟨now, attempt.fresh⟩).run := by
  cases request with
  | http request fresh =>
    rw [login?] at h
    split at h
    · next hroute =>
      obtain ⟨⟨email, password⟩, hlogin, rfl⟩ := Option.map_eq_some_iff.mp h
      rw [program, Http.respond, hroute]
      -- the body has been read, and what is left is the login and its wording
      simp only [Http.login, hlogin]
      rw [settle_eq, bind_pure_comp, ExceptT.run_map, Functor.map_map, Functor.map_map]
      rfl
    · cases h
  | rpcLogin caller email password fresh =>
    cases h
    rw [program, Rpc.Api.login, ExceptT.run_adapt, Functor.map_map]
    rfl
  | _ => cases h

/-- The handling of a login is a login of the service, worded over the interface. -/
theorem handle_of_login? {attempt : Attempt} (h : request.login? service = some attempt) :
    site.handle service request =
      (site.run (service.login attempt.email attempt.password attempt.origin
        ⟨site.now, attempt.fresh⟩).run).map (request.reportLogin service) := by
  rw [Site.handle, program_of_login? h, Site.run_map]

/-- A logout over HTTP is the logout of its token, and a success forgets the cookie. -/
theorem httpLogout_of_token {request : Http.Request} {token : String}
    (h : request.token? = .ok token) :
    Http.logout service request now =
      Http.settle ((fun _ => loggedOut service now) <$> service.logout token now) := by
  have hpresent : Service.refusable (liftExcept (.ok token : Except Refusal String)) =
      pure token := rfl
  rw [Http.logout, h, hpresent, pure_bind, bind_pure_comp]
  rfl

/-- A result that gives a value is a success. -/
theorem eq_ok_of_toOption {ε α : Type} {result : Except ε α} {a : α}
    (h : result.toOption = some a) : result = .ok a := by
  cases result with
  | error e => cases h
  | ok b => exact congrArg Except.ok (Option.some.inj h)

/-- A logout is a logout of the service, worded over the interface. -/
theorem program_of_logout? {token : String} (h : request.logout? = some token) (now : Time) :
    request.program service now =
      request.reportLogout service now <$> (service.logout token now).run := by
  cases request with
  | http request fresh =>
    rw [logout?] at h
    split at h
    · next hroute =>
      -- that there is a token is what makes it a logout
      have htoken := eq_ok_of_toOption h
      rw [program, Http.respond, hroute]
      simp only [httpLogout_of_token htoken]
      rw [settle_eq, ExceptT.run_map, Functor.map_map, Functor.map_map]
      rfl
    · cases h
  | rpcLogout caller text =>
    have htoken : Rpc.Api.logoutToken caller text = .ok token := eq_ok_of_toOption h
    rw [program, Rpc.Api.logout, htoken, Program.liftExcept_ok_bind, ExceptT.run_adapt,
      Functor.map_map]
    rfl
  | _ => cases h

/-- The handling of a logout is a logout of the service, worded over the interface. -/
theorem handle_of_logout? {token : String} (h : request.logout? = some token) :
    site.handle service request =
      (site.run (service.logout token site.now).run).map
        (request.reportLogout service site.now) := by
  rw [Site.handle, program_of_logout? h, Site.run_map]

/-! ## What requests do -/

/-- Settling over HTTP adds no effects. -/
theorem settle_within {P : Effect → Prop} {flow : Service.Flow Http.Response}
    (h : flow.run.Within P) : (Http.settle flow).Within P :=
  h.bind fun result => by cases result <;> exact .done _

section Within

variable {P : Effect → Prop} (hplain : ∀ effect : Effect, effect.IsPlain → P effect)

/-- All that a guard calls the store for is the entry of the token that is presented. -/
theorem visitorOf_within (validation : Validation) (request : Http.Request) (now : Time)
    (hvalidate : ∀ token claims, request.token? = .ok token →
      Token.says? validation.secret token = some claims →
      P (.store (.contains (Revocation.key claims.tokenId)))) :
    (Http.visitorOf validation request now).run.Within P := by
  rw [Http.visitorOf]
  cases htoken : request.token? with
  | error refusal => exact .done _
  | ok token =>
    rw [Program.liftExcept_ok_bind]
    exact Program.Within.flow_bind
      (validation.validate_within now fun claims => hvalidate token claims htoken) fun _ => .done _

/-- A profile makes no effects but those of the validation of its token. -/
theorem profile_within (validation : Validation) (request : Http.Request) (now : Time)
    (hvalidate : ∀ token claims, request.token? = .ok token →
      Token.says? validation.secret token = some claims →
      P (.store (.contains (Revocation.key claims.tokenId)))) :
    (Http.profile validation now request).Within P := by
  rw [Http.profile]
  split
  · refine (visitorOf_within validation request now hvalidate).bind fun result => ?_
    cases result <;> exact .done _
  · split <;> exact .done _

/-- An authentication makes no effects but those of the validation of its token. -/
theorem authenticate_within (validation : Validation) (call : Rpc.Call) (now : Time)
    (hvalidate : ∀ token claims, call.metadata.token? = .ok token →
      Token.says? validation.secret token = some claims →
      P (.store (.contains (Revocation.key claims.tokenId)))) :
    (Rpc.authenticate validation call now).Within P := by
  refine Program.Within.bind (Program.Within.adapt _ ?_) fun result => ?_
  · cases htoken : call.metadata.token? with
    | error refusal => exact .done _
    | ok token =>
      rw [Program.liftExcept_ok_bind]
      exact validation.validate_within now fun claims => hvalidate token claims htoken
  · cases result <;> exact .done _

include hplain

/-- All that a logout over HTTP calls the store for is to set the entry of its token. -/
theorem httpLogout_within {request : Http.Request}
    (hwrites : ∀ token claims ttl, request.token? = .ok token →
      Token.decode service.secret token now = .ok claims →
      P (.store (.set (Revocation.key claims.tokenId) Revocation.marker ttl))) :
    (Http.logout service request now).Within P := by
  cases htoken : request.token? with
  | error refusal =>
    rw [Http.logout, htoken]
    exact settle_within (.done _)
  | ok token =>
    rw [httpLogout_of_token htoken]
    refine settle_within ?_
    rw [ExceptT.run_map]
    exact (Service.logout_within hplain fun claims ttl => hwrites token claims ttl htoken).map _

/-- All that a request calls the store for is the count of its pair, if it is a login, to set the
entry of its token, if it is a logout, and the entry of the token that it presents to be
validated. The counters are asked for on one route only. -/
theorem program_calls
    (hmetrics : ∀ asked fresh, request = .http asked fresh → asked.route? = some .metrics →
      P .readMetrics)
    (hlogin : ∀ attempt address, request.login? service = some attempt →
      Email.normalize? attempt.email = .ok address →
      ∀ call ∈ service.lockout.calls (Lockout.key address attempt.origin), P (.store call))
    (hlogout : ∀ token claims ttl, request.logout? = some token →
      Token.decode service.secret token now = .ok claims →
      P (.store (.set (Revocation.key claims.tokenId) Revocation.marker ttl)))
    (hvalidate : ∀ token claims, request.validates? = some token →
      Token.says? service.secret token = some claims →
      P (.store (.contains (Revocation.key claims.tokenId)))) :
    (request.program service now).Within P := by
  have hpresents {ε : Type} {result : Except ε String} {token : String} (h : result = .ok token) :
      result.toOption = some token := by
    rw [h]
    rfl
  cases request with
  | http request fresh =>
    refine Program.Within.map _ ?_
    rw [Http.respond]
    cases hroute : request.route? with
    | none => exact .done _
    | some route =>
      cases route with
      | login =>
        rw [login?, if_pos hroute] at hlogin
        simp only [Http.login]
        split
        · -- a body that is no login is answered at once
          exact .done _
        · next email password hbody =>
          rw [hbody] at hlogin
          refine settle_within (Program.Within.flow_bind ?_ fun _ => .done _)
          refine Service.login_within hplain fun address =>
            hlogin ⟨email, password, _, fresh⟩ address ?_
          rfl
      | logout =>
        rw [logout?, if_pos hroute] at hlogout
        exact httpLogout_within hplain fun token claims ttl htoken =>
          hlogout token claims ttl (hpresents htoken)
      | metrics =>
        exact (Program.Within.perform (hmetrics request fresh rfl hroute)).bind fun _ => .done _
      | health => exact .done _
      | description => exact .done _
  | guarded request =>
    refine Program.Within.map _ (profile_within service.validation request now ?_)
    exact fun token claims htoken => hvalidate token claims (hpresents htoken)
  | rpcLogin caller email password fresh =>
    refine Program.Within.map _ (Program.Within.adapt _ ?_)
    refine Service.login_within hplain fun address => ?_
    exact hlogin ⟨email, password, caller.origin service.trustForwarded, fresh⟩ address rfl
  | rpcValidate token =>
    refine Program.Within.map _ ?_
    rw [validates?] at hvalidate
    rw [Rpc.Api.validate]
    split
    · exact .done _
    · next hsome =>
      rw [if_neg hsome] at hvalidate
      rw [ExceptT.run_mk]
      exact Program.Within.map _
        (Service.validate_within hplain now fun claims => hvalidate _ claims rfl)
  | rpcLogout caller text =>
    -- without a token the call is refused before it reaches the service
    refine Program.Within.map _ ?_
    rw [logout?] at hlogout
    rw [Rpc.Api.logout]
    cases htoken : Rpc.Api.logoutToken caller text with
    | error status => exact .done _
    | ok token =>
      rw [htoken] at hlogout
      rw [Program.liftExcept_ok_bind]
      refine Program.Within.adapt _ (Service.logout_within hplain fun claims ttl => ?_)
      exact hlogout token claims ttl rfl
  | rpcGuarded call =>
    refine Program.Within.map _ (authenticate_within service.validation call now ?_)
    exact fun token claims htoken => hvalidate token claims (hpresents htoken)
  | validate token =>
    exact (service.validation.validate_within now fun claims => hvalidate token claims rfl).map _

end Within

/-- All that a request writes is the count of its pair, if it is a login, and the entry of its
token, if it is a logout. -/
theorem program_within {P : Effect → Prop} (hquiet : ∀ effect : Effect, effect.IsQuiet → P effect)
    (hlogin : ∀ attempt address, request.login? service = some attempt →
      Email.normalize? attempt.email = .ok address →
      ∀ call ∈ service.lockout.writes (Lockout.key address attempt.origin), P (.store call))
    (hlogout : ∀ token claims ttl, request.logout? = some token →
      Token.decode service.secret token now = .ok claims →
      P (.store (.set (Revocation.key claims.tokenId) Revocation.marker ttl))) :
    (request.program service now).Within P := by
  refine program_calls (fun effect h => hquiet effect h.isQuiet) (fun _ _ _ _ => hquiet _ trivial)
    (fun attempt address hattempt haddress call hcall => ?_) hlogout
    (fun _ _ _ _ => hquiet _ rfl)
  rcases List.mem_cons.mp hcall with rfl | hwrites
  · exact hquiet _ rfl
  · exact hlogin attempt address hattempt haddress call hwrites

/-- A request writes under no key but that of its pair, if it is a login, and that of its token, if
it is a logout. -/
theorem program_leaves {key : String}
    (hlogin : ∀ attempt address, request.login? service = some attempt →
      Email.normalize? attempt.email = .ok address → key ≠ Lockout.key address attempt.origin)
    (hlogout : ∀ token claims, request.logout? = some token →
      Token.decode service.secret token now = .ok claims → key ≠ Revocation.key claims.tokenId) :
    (request.program service now).Within (Effect.Leaves key) := by
  refine program_within (fun effect h => h.leaves key) ?_ ?_
  · intro attempt address hattempt haddress call hcall
    refine .inr ?_
    rw [Lockout.key_of_mem_writes hcall]
    exact (hlogin attempt address hattempt haddress).symm
  · intro token claims ttl htoken hdecode
    exact .inr (hlogout token claims htoken hdecode).symm

end Request
end Bearer
