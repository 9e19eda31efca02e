import Bearer.Proofs.Json.RoundTrip
import Bearer.Proofs.Program.Alike
import Bearer.Proofs.Service.Entrances
import Mathlib.Data.List.Forall2

/-!
# What a client learns of a failure

A failure carries a text for the operator, and every interface words it for the client without that
text. Three tables do this, one for the service over HTTP, one for a guard of routes and one for
remote calls. Here they are compared with one another, and the whole service is shown to give
nothing away: where only texts differ, every request is answered with the same.

The second part goes along the programs: none of them looks into a text, so each is alike to
itself.

Main statement: `details_withheld`.
-/

namespace Bearer

open Program (Run)

/-! ## The tables -/

/-- What a category stands for: a number over HTTP, and a code of remote calls. -/
def Category.standing : Category → Nat × Rpc.Code
  | .invalidRequest => (400, .invalidArgument)
  | .missingToken | .invalidToken | .expiredToken | .revokedToken | .invalidCredentials =>
    (401, .unauthenticated)
  | .tooManyAttempts => (429, .resourceExhausted)
  | .serviceUnavailable => (503, .unavailable)
  | .internalError => (500, .internal)

namespace Failure

/-- A failure is told to a client as its category and nothing else: over HTTP in a body that repeats
the status of the response, in a remote call as the message. Its category decides the status and the
code. -/
structure IsToldAs (failure : Failure) (response : Http.Response) (status : Rpc.Status) :
    Prop where
  body : Json.parse? response.body = some (.object [
    Json.member "error" (Json.text failure.category.word),
    Json.member "status" (.int response.status.code)])
  contentType : response.contentType? = some "application/json"
  cookies : response.cookies = []
  message : status.message = failure.category.word
  standing : (response.status.code, status.code) = failure.category.standing

/-- The tables of the service agree on every failure. -/
theorem isToldAs (failure : Failure) :
    failure.IsToldAs (Http.Response.ofFailure failure) (Rpc.Status.ofFailure failure) where
  body := Json.parse?_write _ rfl
  contentType := rfl
  cookies := rfl
  message := by cases failure <;> rfl
  standing := by
    cases failure with
    | refusal cause => cases cause <;> rfl
    | _ => rfl

end Failure

/-- The table of a guard is that of the service, as far as it goes. -/
theorem Http.Response.ofRefusal_eq_ofFailure (refusal : Refusal) :
    ofRefusal refusal = ofFailure (.refusal refusal) := by
  have hstatus : Status.ofRefusal refusal = Status.ofFailure (.refusal refusal) := by
    cases refusal <;> rfl
  rw [ofRefusal, ofFailure, hstatus]
  rfl

/-! ## Tables and texts -/

/-- The response to a failure does not tell its detail. -/
theorem Http.Response.ofFailure_withDetail (detail : String) (failure : Failure) :
    ofFailure (failure.withDetail detail) = ofFailure failure := by
  cases failure with
  | refusal cause => cases cause <;> rfl
  | _ => rfl

/-- The status of a failure does not tell its detail. -/
theorem Rpc.Status.ofFailure_withDetail (detail : String) (failure : Failure) :
    ofFailure (failure.withDetail detail) = ofFailure failure := by
  cases failure with
  | refusal cause => cases cause <;> rfl
  | _ => rfl

/-- The answer to a remote validation does not depend on the text of a refusal. -/
theorem Rpc.Api.verdict_withDetail (detail : String) (refusal : Refusal) :
    verdict (.error (refusal.withDetail detail)) = verdict (.error refusal) := by
  cases refusal <;> rfl

namespace Request

/-- What a client is told of a login that failed does not depend on the detail. -/
theorem reportLogin_withDetail (service : Service) (request : Request) (detail : String)
    (failure : Failure) :
    request.reportLogin service (.error (failure.withDetail detail)) =
      request.reportLogin service (.error failure) := by
  cases request with
  | http request fresh => exact congrArg Answer.http (Http.Response.ofFailure_withDetail _ _)
  | _ =>
    exact congrArg (fun status => Answer.rpcLogin (.error status))
      (Rpc.Status.ofFailure_withDetail _ _)

/-- What a client is told of a logout that failed does not depend on the detail. -/
theorem reportLogout_withDetail (service : Service) (now : Time) (request : Request)
    (detail : String) (failure : Failure) :
    request.reportLogout service now (.error (failure.withDetail detail)) =
      request.reportLogout service now (.error failure) := by
  cases request with
  | http request fresh => exact congrArg Answer.http (Http.Response.ofFailure_withDetail _ _)
  | _ =>
    exact congrArg (fun status => Answer.rpcLogout (.error status))
      (Rpc.Status.ofFailure_withDetail _ _)

end Request

/-- A flow whose failures all get other texts. -/
def Service.Flow.reworded {α : Type} (flow : Service.Flow α) (reword : Failure → String) :
    Service.Flow α :=
  ExceptT.adapt (fun failure => failure.withDetail (reword failure)) flow

/-- What a user's record holds in place of a role matters to the text of a failure only. -/
theorem User.alike_ofRow? {row : User.Row} {role : String} (hunknown : Role.ofName? row.role = none)
    (hother : Role.ofName? role = none) :
    ResultAlike Failure.Alike (User.ofRow? row) (User.ofRow? { row with role }) := by
  simp only [User.ofRow?, hunknown, hother]
  exact .error ⟨_, rfl⟩

/-! ## Programs that do not look into texts -/

open Program (Alike)

namespace Lockout

variable {lockout : Lockout} {key : String}

/-- Replies that differ in the texts of failures are settled alike. -/
theorem alike_settle {α : Type} (fallback : α) {reply other : Except Store.Failure α}
    (h : ResultAlike (fun _ _ => True) reply other) :
    ResultAlike Refusal.Alike (lockout.settle fallback reply)
      (lockout.settle fallback other) := by
  cases h with
  | ok a => exact .ok a
  | error _ =>
    rw [settle, settle]
    cases lockout.onOutage with
    | failOpen => exact .ok _
    | failClosed => exact .error (Store.Failure.alike_toRefusal _ _)

/-- To ask the store comes to the same but for texts, where the replies do. -/
theorem alike_ask (call : Store.Call) (fallback : call.Reply) :
    Alike (ResultAlike Refusal.Alike) (lockout.ask call fallback).run
      (lockout.ask call fallback).run := by
  rw [ask_eq]
  exact (Alike.perform (.store call)).map fun _ _ h => alike_settle fallback h

/-- A check comes to the same but for texts, where the replies do. -/
theorem alike_check :
    Alike (ResultAlike Refusal.Alike) (lockout.check key).run (lockout.check key).run := by
  rw [check, isLocked]
  refine Alike.flow_bind (Alike.flow_bind (alike_ask _ _) fun _ => .done (.ok _)) fun locked => ?_
  cases locked with
  | true => exact .done (.error (Refusal.Alike.refl _))
  | false => exact .done (.ok ())

end Lockout

namespace Service

variable {α : Type} {service : Service} {email password origin key token : String}
  {moment : Moment} {now : Time}

/-- Whether a flow comes to the same but for the texts of its failures, where replies do. -/
def Flow.IsBlind (flow : Flow α) : Prop := Alike (ResultAlike Failure.Alike) flow.run flow.run

/-- What goes on blindly after a blind flow is blind. -/
theorem Flow.IsBlind.bind {flow : Flow α} {β : Type} {next : α → Flow β} (h : flow.IsBlind)
    (hnext : ∀ a, (next a).IsBlind) : (flow >>= next).IsBlind :=
  Alike.flow_bind h hnext

/-- What can be refused is as blind as the computation that it is made of. -/
theorem isBlind_refusable {x : ExceptT Refusal Program α}
    (h : Alike (ResultAlike Refusal.Alike) x.run x.run) : (refusable x).IsBlind :=
  h.adapt _ fun _ _ => Refusal.Alike.toFailure

/-- A result that is known already does not look at any reply. -/
theorem isBlind_liftExcept (result : Except Failure α) : Flow.IsBlind (liftExcept result) :=
  Alike.liftExcept Failure.Alike.refl result

/-- To note an event does not look at any reply. -/
theorem isBlind_note (event : Event) : Flow.IsBlind (liftM (Program.note event)) :=
  Alike.lift (Alike.perform (.note event))

/-- To fail does not look at any reply. -/
theorem isBlind_throw (failure : Failure) : Flow.IsBlind (throw failure : Flow α) :=
  .done (.error (Failure.Alike.refl failure))

/-- What is done about a wrong password looks at replies only, and not at the texts of failures. -/
theorem isBlind_failLogin : (service.failLogin key).IsBlind := by
  rw [failLogin]
  refine (isBlind_refusable (Lockout.alike_ask _ _)).bind fun count => ?_
  refine (isBlind_note _).bind fun _ => ?_
  split
  · exact (isBlind_note _).bind fun _ => isBlind_throw _
  · exact isBlind_throw _

/-- What is done for a right password looks at replies only, and not at the texts of failures. -/
theorem isBlind_grant (user : User) : (service.grant key user moment).IsBlind := by
  rw [grant]
  refine (isBlind_refusable (Lockout.alike_ask _ _)).bind fun _ => ?_
  refine (isBlind_refusable (Alike.liftExcept Refusal.Alike.refl _)).bind fun issued => ?_
  exact (isBlind_note _).bind fun _ => .done (.ok _)

/-- A login does not look into texts. -/
theorem isBlind_login : (service.login email password origin moment).IsBlind := by
  rw [login]
  refine (isBlind_note _).bind fun _ => ?_
  refine (isBlind_liftExcept _).bind fun address => ?_
  split
  · exact isBlind_throw _
  rw [attempt]
  refine (isBlind_refusable Lockout.alike_check).bind fun _ => ?_
  refine Flow.IsBlind.bind (Alike.perform (.findUser address)) fun user? => ?_
  refine Flow.IsBlind.bind (Alike.lift (Alike.perform (.checkPassword _ _))) fun verified => ?_
  split
  · exact isBlind_grant _
  · exact isBlind_failLogin

/-- Nor does a logout. -/
theorem isBlind_logout : (service.logout token now).IsBlind := by
  rw [logout]
  refine (isBlind_refusable (Alike.liftExcept Refusal.Alike.refl _)).bind fun claims => ?_
  split
  · -- the outcome of the call is all that a revocation passes on
    have hrevoke : Alike (ResultAlike fun _ _ => True) (Revocation.revokeClaims claims now).run
        (Revocation.revokeClaims claims now).run := by
      rw [Revocation.revokeClaims]
      split
      · rw [Revocation.revoke]
        split
        · exact .done (.ok ())
        · exact Alike.perform (.store (.set _ _ _))
      · exact .done (.ok ())
    refine Flow.IsBlind.bind (hrevoke.adapt _ fun _ _ _ => ?_) fun _ => isBlind_note _
    exact (Store.Failure.alike_toRefusal _ _).toFailure
  · exact .done (.ok ())

end Service

/-- A validation comes to the very same, whatever the texts. -/
theorem Validation.alike_validate (validation : Validation) (token : String) (now : Time) :
    Alike Eq (validation.validate token now).run (validation.validate token now).run := by
  cases hverify : Token.verify validation.secret token now with
  | error refusal =>
    rw [validate_of_error hverify]
    exact .done rfl
  | ok claims =>
    rw [validate_of_ok hverify]
    refine (Alike.perform (.store _)).map fun reply other h => ?_
    exact ResultAlike.eq (validation.conclude claims) (fun _ _ _ => rfl) h

/-- Nor does it where the failure is counted. -/
theorem Service.alike_validate (service : Service) (token : String) (now : Time) :
    Alike Eq (service.validate token now).run (service.validate token now).run := by
  rw [validate]
  refine (service.validation.alike_validate token now).bind fun result _ h => ?_
  subst h
  split
  · exact .done rfl
  · exact (Alike.perform (.note _)).bind fun _ _ _ => .done rfl

namespace Request

variable {service : Service} {request : Request} {now : Time}

/-- No request is answered by looking into texts. -/
theorem alike_program (service : Service) (request : Request) (now : Time) :
    Alike Eq (request.program service now) (request.program service now) := by
  cases hlogin : request.login? service with
  | some attempt =>
    rw [program_of_login? hlogin]
    refine Service.isBlind_login.map fun result other h => ?_
    -- results that differ in a text are reported in the same words
    refine ResultAlike.eq _ (fun failure _ halike => ?_) h
    obtain ⟨detail, rfl⟩ := halike
    exact (reportLogin_withDetail _ _ _ _).symm
  | none =>
    cases hlogout : request.logout? with
    | some token =>
      rw [program_of_logout? hlogout]
      refine Service.isBlind_logout.map fun result other h => ?_
      refine ResultAlike.eq _ (fun failure _ halike => ?_) h
      obtain ⟨detail, rfl⟩ := halike
      exact (reportLogout_withDetail _ _ _ _ _).symm
    | none =>
      cases hvalidation : request.validation? with
      | some token =>
        rw [program_of_validation? hvalidation]
        exact (service.alike_validate token now).map fun _ _ h => congrArg _ (congrArg _ h)
      | none =>
        -- what is left answers at once, shows the counters or judges a token
        rcases program_of_none hlogin hlogout hvalidation with ⟨answer, h⟩ | ⟨report, h⟩ |
          ⟨token, report, h⟩
        · rw [h]
          exact .done rfl
        · rw [h]
          exact (Alike.perform .readMetrics).map fun _ _ h => congrArg report h
        · rw [h]
          exact (service.validation.alike_validate token now).map fun _ _ h => congrArg report h

/-- What a client is told of a login stays the same when its failures are worded in another way. -/
theorem report_login_reworded {attempt : Attempt} (h : request.login? service = some attempt)
    (now : Time) (reword : Failure → String) :
    request.reportLogin service <$> ((service.login attempt.email attempt.password attempt.origin
      ⟨now, attempt.fresh⟩).reworded reword).run = request.program service now := by
  rw [program_of_login? h, Service.Flow.reworded, ExceptT.run_adapt, Functor.map_map]
  congr 1
  funext result
  cases result with
  | ok grant => rfl
  | error failure => exact reportLogin_withDetail service request (reword failure) failure

/-- What a client is told of a logout stays the same when its failures are worded in another way. -/
theorem report_logout_reworded {token : String} (h : request.logout? = some token) (now : Time)
    (reword : Failure → String) :
    request.reportLogout service now <$> ((service.logout token now).reworded reword).run =
      request.program service now := by
  rw [program_of_logout? h, Service.Flow.reworded, ExceptT.run_adapt, Functor.map_map]
  congr 1
  funext result
  cases result with
  | ok _ => rfl
  | error failure => exact reportLogout_withDetail service now request (reword failure) failure

end Request

/-! ## Two runs -/

namespace Surroundings

variable {σ τ : Type} {I : σ → τ → Prop}

/-- The same request at the same time, in surroundings that answer alike. -/
structure Occasion.Alike (I : σ → τ → Prop) (occasion : Occasion σ Request)
    (other : Occasion τ Request) : Prop where
  now : occasion.now = other.now
  around : occasion.around.Alike I other.around
  request : occasion.request = other.request

/-- One request is answered alike, and leaves states that are related. -/
theorem Occasion.Alike.run {occasion : Occasion σ Request} {other : Occasion τ Request}
    (h : occasion.Alike I other) (service : Service) {standing : Standing σ}
    {standing' : Standing τ} (hstanding : standing.Alike I standing') :
    let r := occasion.around.run standing (occasion.request.program service occasion.now)
    let r' := other.around.run standing' (other.request.program service other.now)
    r.answer? = r'.answer? ∧ r.state.Alike I r'.state := by
  obtain ⟨hanswer, -, hstate⟩ :=
    (Request.alike_program service occasion.request occasion.now).run h.around.respond hstanding
  have heq {answer other : Option Answer} (h : Option.Rel Eq answer other) : answer = other := by
    cases h with
    | none => rfl
    | some h => exact congrArg some h
  rw [← h.now, ← h.request]
  exact ⟨heq hanswer, hstate⟩

/-- Where occasions are alike and so is what is at hand at first, the same answers are given. -/
theorem serve_alike (service : Service) {occasions : List (Occasion σ Request)}
    {others : List (Occasion τ Request)} (h : List.Forall₂ (Occasion.Alike I) occasions others)
    {standing : Standing σ} {standing' : Standing τ} (hstanding : standing.Alike I standing') :
    serve (fun now request => request.program service now) occasions standing =
      serve (fun now request => request.program service now) others standing' := by
  induction h generalizing standing standing' with
  | nil => rfl
  | cons h _ ih =>
    obtain ⟨hanswer, hstate⟩ := h.run service hstanding
    rw [serve, serve, hanswer, ih hstate]

end Surroundings

/-- What a failure carries for the operator reaches no client. Requests in surroundings that differ
in such texts are answered with the same, and so they are if the service words its own failures
otherwise; an unknown role in a record makes for nothing but such a text. A client is told the
category and what it stands for, the same by the service and by a guard. -/
theorem details_withheld (service : Service) :
    (∀ {σ τ : Type} {I : σ → τ → Prop} {occasions : List (Surroundings.Occasion σ Request)}
        {others : List (Surroundings.Occasion τ Request)} {standing : Standing σ}
        {other : Standing τ},
      List.Forall₂ (Surroundings.Occasion.Alike I) occasions others → standing.Alike I other →
      Surroundings.serve (fun now request => request.program service now) occasions standing =
        Surroundings.serve (fun now request => request.program service now) others other) ∧
    (∀ (request : Request) (now : Time) (reword : Failure → String),
      (∀ attempt, request.login? service = some attempt →
        request.reportLogin service <$> ((service.login attempt.email attempt.password
          attempt.origin ⟨now, attempt.fresh⟩).reworded reword).run =
            request.program service now) ∧
      ∀ token, request.logout? = some token →
        request.reportLogout service now <$>
          ((service.logout token now).reworded reword).run = request.program service now) ∧
    (∀ (row : User.Row) (role : String),
      Role.ofName? row.role = none → Role.ofName? role = none →
        ResultAlike Failure.Alike (User.ofRow? row) (User.ofRow? { row with role })) ∧
    (∀ refusal detail,
      Http.Response.ofRefusal refusal = Http.Response.ofFailure (.refusal refusal) ∧
      Rpc.Status.ofRefusal refusal = Rpc.Status.ofFailure (.refusal refusal) ∧
      Rpc.Api.verdict (.error (refusal.withDetail detail)) =
        Rpc.Api.verdict (.error refusal)) ∧
    ∀ failure : Failure,
      failure.IsToldAs (Http.Response.ofFailure failure) (Rpc.Status.ofFailure failure) ∧
      ∀ detail, Http.Response.ofFailure (failure.withDetail detail) =
          Http.Response.ofFailure failure ∧
        Rpc.Status.ofFailure (failure.withDetail detail) = Rpc.Status.ofFailure failure := by
  refine ⟨fun h hstanding => Surroundings.serve_alike service h hstanding, ?_, ?_, ?_, ?_⟩
  · intro request now reword
    constructor
    · intro attempt hlogin
      exact Request.report_login_reworded hlogin now reword
    · intro token hlogout
      exact Request.report_logout_reworded hlogout now reword
  · intro row role hunknown hother
    exact User.alike_ofRow? hunknown hother
  · intro refusal detail
    exact ⟨Http.Response.ofRefusal_eq_ofFailure refusal, rfl,
      Rpc.Api.verdict_withDetail detail refusal⟩
  · intro failure
    exact ⟨failure.isToldAs, fun detail => ⟨Http.Response.ofFailure_withDetail detail failure,
      Rpc.Status.ofFailure_withDetail detail failure⟩⟩

/-- A record of a user with some text in place of a role. -/
def User.Row.sample (role : String) : User.Row := ⟨⟨List.replicate 16 7⟩, "a@b", role, ""⟩

/-- A store that fails at every call for one reason, and a directory with that record only. -/
def Surroundings.sampleBroken (failure : Store.Failure) (role : String) : Surroundings Unit where
  answer _ standing := (some (.error failure), standing)
  find _ := (User.ofRow? (User.Row.sample role)).map some

/-- The sample service, if it lets logins pass while its store is out of reach. -/
def Service.sampleOpen : Service :=
  { Service.sample with lockout := ⟨Lockout.Policy.standard, .failOpen⟩ }

/-- A login as a remote call, then a logout. -/
def Surroundings.sampleOccasions (around : Surroundings Unit) : List (Occasion Unit Request) :=
  [⟨Time.ofSeconds 1500, around, .sampleLogin⟩, ⟨Time.ofSeconds 1500, around, .sampleLogout⟩]

/-- Neither what the store is missing nor what stands for a role in the record is told. -/
theorem details_withheld_sample :
    let around := Surroundings.sampleBroken (.unavailable "refused") "wizard"
    let other := Surroundings.sampleBroken (.timeout (Duration.ofSeconds 2)) "king"
    let answers (occasions : List (Surroundings.Occasion Unit Request)) :=
      Surroundings.serve (fun now request => request.program .sampleOpen now) occasions
        ⟨(), Metrics.zero⟩
    answers around.sampleOccasions = answers other.sampleOccasions ∧
    ResultAlike Failure.Alike (User.ofRow? (.sample "wizard")) (User.ofRow? (.sample "king")) ∧
    Request.sampleLogin.reportLogin .sampleOpen <$>
      ((Service.sampleOpen.login "a@b" "right" "unknown" ⟨Time.ofSeconds 1500,
        ⟨List.replicate 16 7⟩⟩).reworded Failure.message).run =
          Request.sampleLogin.program .sampleOpen (Time.ofSeconds 1500) ∧
    Request.sampleLogout.reportLogout .sampleOpen (Time.ofSeconds 1500) <$>
      ((Service.sampleOpen.logout Token.sample (Time.ofSeconds 1500)).reworded
        Failure.message).run =
          Request.sampleLogout.program .sampleOpen (Time.ofSeconds 1500) := by
  intro around other answers
  obtain ⟨hruns, hreworded, hroles, -⟩ := details_withheld .sampleOpen
  have hrole := hroles (.sample "wizard") "king" (by decide) (by decide)
  have halike : around.Alike (fun _ _ => True) other :=
    ⟨fun _ _ _ _ => .some (.error trivial), fun _ _ _ _ => trivial, fun _ => ?_⟩
  · refine ⟨hruns (I := fun _ _ => True) ?_ ⟨trivial, rfl⟩, hrole, ?_, ?_⟩
    · exact .cons ⟨rfl, halike, rfl⟩ (.cons ⟨rfl, halike, rfl⟩ .nil)
    · exact (hreworded .sampleLogin _ _).1
        ⟨"a@b", "right", "unknown", ⟨List.replicate 16 7⟩⟩ rfl
    · exact (hreworded .sampleLogout _ _).2 _ Request.logout?_sampleLogout
  · cases hrole with
    | error h => exact .error h

end Bearer
