import Bearer.Proofs.Program.Ensures
import Bearer.Proofs.Program.Surroundings
import Bearer.Proofs.Service.Login
import Bearer.Proofs.Service.Tokens
import Bearer.Proofs.Token.Soundness

/-!
# Why requests fail

The failures with which a login, a validation and a logout can end, whatever the store answers. Of
the directory it is only known that it fails with faults of its own. A token that cannot be issued
is the only failure that the service itself has to do with.

Main statements: `login_failsWith`, `validate_failsWith` and `logout_failsWith`; by `failsWith_run`
they hold of every run.
-/

namespace Bearer

/-- The directory fails with nothing but faults of its own. -/
def Surroundings.IsOrderly {σ : Type} (around : Surroundings σ) : Prop :=
  ∀ email failure, around.find email = .error failure → ∃ detail, failure = .database detail

/-- A site is orderly surroundings: it aborts nothing and its directory fails with a database error.
-/
theorem Surroundings.isOrderly_ofSite (site : Site) : (ofSite site).IsOrderly :=
  fun _ _ => Directory.database_of_find

/-- All that is known is that the directory fails with faults of its own. -/
def Program.orderly : Program.Conduct Unit
  | .findUser _, _, reply?, _ =>
    ∀ failure, reply? = some (.error failure) → ∃ detail, failure = .database detail
  | _, _, _, _ => True

/-- A computation that can fail does so with nothing but errors of a kind, whatever the store
answers. -/
def FailsWith {ε α : Type} (P : ε → Prop) (x : ExceptT ε Program α) : Prop :=
  x.run.Ensures Program.orderly () fun _ result? _ => ∀ e, result? = some (.error e) → P e

section FailsWith

open Program (Ensures)

variable {ε ε' α β : Type} {P Q : ε → Prop}

/-- What fails with errors of a kind fails with those of every wider kind. -/
theorem FailsWith.mono {x : ExceptT ε Program α} (h : FailsWith P x) (hle : ∀ e, P e → Q e) :
    FailsWith Q x :=
  Ensures.mono h fun _ _ _ hfails e he => hle e (hfails e he)

/-- What goes on with a computation of its kind fails as the two do. -/
theorem FailsWith.bind {x : ExceptT ε Program α} {f : α → ExceptT ε Program β}
    (hx : FailsWith P x) (hf : ∀ a, FailsWith P (f a)) : FailsWith P (x >>= f) := by
  refine Ensures.flow_bind (Ensures.mono hx fun effects result? _ hfails => ?_)
  match result? with
  | none => exact fun e he => nomatch he
  | some (.ok a) => exact hf a
  | some (.error e) =>
    intro e' he
    cases he
    exact hfails e rfl

/-- When errors are made into others, a computation fails with what is made of its own. -/
theorem FailsWith.adapt {x : ExceptT ε Program α} {f : ε → ε'} {P : ε' → Prop}
    (h : FailsWith (fun e => P (f e)) x) : FailsWith P (ExceptT.adapt f x) := by
  refine Ensures.adapt f (Ensures.mono h fun effects result? _ hfails e he => ?_)
  match result? with
  | some (.error cause) =>
    cases he
    exact hfails cause rfl

/-- A result that is known already fails with its own error. -/
theorem failsWith_liftExcept {result : Except ε α} (h : ∀ e, result = .error e → P e) :
    FailsWith P (liftExcept result : ExceptT ε Program α) :=
  Ensures.liftExcept fun e he => h e (Option.some.inj he)

/-- To fail is to fail with that error. -/
theorem failsWith_throw {e : ε} (h : P e) : FailsWith P (throw e : ExceptT ε Program α) := by
  intro e' he
  cases he
  exact h

/-- What succeeds does not fail. -/
theorem failsWith_pure (a : α) : FailsWith P (pure a : ExceptT ε Program α) := nofun

/-- A program that cannot fail does not. -/
theorem failsWith_lift (p : Program α) : FailsWith P (liftM p : ExceptT ε Program α) := by
  refine Ensures.lift (Ensures.of_forall (fun _ a? _ e he => ?_) p)
  cases a? <;> cases he

/-- The directory fails with an error of the database. -/
theorem failsWith_findUser (email : String) :
    FailsWith (fun failure => ∃ detail, failure = .database detail) (Program.findUser email) :=
  Ensures.perform fun _ _ h => h

/-- In surroundings with an orderly directory no run fails with anything else. -/
theorem failsWith_run {σ : Type} {around : Surroundings σ} (horderly : around.IsOrderly)
    {x : ExceptT ε Program α} (h : FailsWith P x) (standing : Standing σ) {e : ε}
    (he : (around.run standing x.run).answer? = some (.error e)) : P e := by
  refine Ensures.run (fun _ => ()) (I := fun _ => True) ?_ (fun _ _ _ => trivial) h trivial e he
  rintro (call | email | ⟨password, stored⟩ | event | _) standing -
  · trivial
  · intro failure hfailure
    exact horderly email failure (Option.some.inj hfailure)
  · trivial
  · trivial
  · trivial

/-- Nor does a run against a site. -/
theorem failsWith_site {x : ExceptT ε Program α} (h : FailsWith P x) (site : Site) {e : ε}
    (he : (site.run x.run).answer? = some (.error e)) : P e := by
  refine failsWith_run (Surroundings.isOrderly_ofSite site) h ⟨site.store, site.metrics⟩ ?_
  rw [Surroundings.run_ofSite]
  exact he

end FailsWith

-- from here on the rules above are all that is used of it
attribute [irreducible] FailsWith

namespace Lockout

variable {lockout : Lockout} {key : String}

/-- To ask the store fails with what its failure is to a caller. -/
theorem ask_failsWith (call : Store.Call) (fallback : call.Reply) :
    FailsWith (fun refusal => ∃ failure : Store.Failure, refusal = failure.toRefusal)
      (lockout.ask call fallback) := by
  rw [FailsWith, ask_eq]
  refine Program.Ensures.map _ (Program.Ensures.of_forall (fun _ reply? _ refusal h => ?_) _)
  obtain ⟨reply, -, hsettle⟩ := Option.map_eq_some_iff.mp h
  obtain ⟨failure, -, hrefusal⟩ := settle_eq_error hsettle
  exact ⟨failure, hrefusal⟩

/-- A check fails because a key is locked, or because the store does. -/
theorem check_failsWith :
    FailsWith (fun refusal => refusal = .tooManyAttempts ∨
      ∃ failure : Store.Failure, refusal = failure.toRefusal) (lockout.check key) := by
  rw [FailsWith, check_eq]
  refine Program.Ensures.map _ (Program.Ensures.of_forall (fun _ reply? _ refusal h => ?_) _)
  obtain ⟨reply, -, hpass⟩ := Option.map_eq_some_iff.mp h
  exact pass_eq_error hpass

end Lockout

namespace Service

variable {service : Service} {email password origin address key token : String} {moment : Moment}
  {now : Time}

/-- A failure with which a login can end. -/
inductive LoginFails (service : Service) (moment : Moment) : Failure → Prop where
  /-- The address or the password is none. -/
  | malformed (detail : String) : LoginFails service moment (.validation detail)
  /-- The pair is locked. -/
  | locked : LoginFails service moment (.refusal .tooManyAttempts)
  /-- The user is unknown, or the password is wrong. -/
  | wrong : LoginFails service moment (.refusal .invalidCredentials)
  /-- The store did not answer. -/
  | store (failure : Store.Failure) : LoginFails service moment (.refusal failure.toRefusal)
  /-- The directory did not answer. -/
  | directory (detail : String) : LoginFails service moment (.database detail)
  /-- There is no token to be issued. -/
  | unissued {user : User} {refusal : Refusal}
    (h : Token.issue service.secret user.id.text user.role service.lifetime moment.now
      moment.fresh.text = .error refusal) : LoginFails service moment (.refusal refusal)

/-- A wrong password is told as a failure that logins may have. -/
theorem failLogin_failsWith : FailsWith (LoginFails service moment) (service.failLogin key) := by
  rw [failLogin]
  refine FailsWith.bind (FailsWith.adapt ?_) fun count => ?_
  · refine (Lockout.ask_failsWith _ _).mono fun refusal h => ?_
    obtain ⟨failure, rfl⟩ := h
    exact .store failure
  refine FailsWith.bind (failsWith_lift _) fun _ => ?_
  split
  · exact FailsWith.bind (failsWith_lift _) fun _ => failsWith_throw .wrong
  · exact failsWith_throw .wrong

/-- To hand out a token fails in the ways that logins may. -/
theorem grant_failsWith (user : User) :
    FailsWith (LoginFails service moment) (service.grant key user moment) := by
  rw [grant]
  refine FailsWith.bind (FailsWith.adapt ?_) fun _ => ?_
  · refine (Lockout.ask_failsWith _ _).mono fun refusal h => ?_
    obtain ⟨failure, rfl⟩ := h
    exact .store failure
  refine FailsWith.bind (FailsWith.adapt (failsWith_liftExcept fun _ => .unissued)) fun _ => ?_
  exact FailsWith.bind (failsWith_lift _) fun _ => failsWith_pure _

/-- An attempt fails in the ways that logins may. -/
theorem attempt_failsWith :
    FailsWith (LoginFails service moment) (service.attempt address password origin moment) := by
  rw [attempt]
  refine FailsWith.bind (FailsWith.adapt ?_) fun _ => ?_
  · refine Lockout.check_failsWith.mono fun refusal h => ?_
    rcases h with rfl | ⟨failure, rfl⟩
    · exact .locked
    · exact .store failure
  refine FailsWith.bind ?_ fun user? => ?_
  · refine (failsWith_findUser address).mono fun failure h => ?_
    obtain ⟨detail, rfl⟩ := h
    exact .directory detail
  refine FailsWith.bind (failsWith_lift _) fun verified => ?_
  split
  · exact grant_failsWith _
  · exact failLogin_failsWith

/-- All with which a login can fail. -/
theorem login_failsWith :
    FailsWith (LoginFails service moment) (service.login email password origin moment) := by
  rw [login]
  refine FailsWith.bind (failsWith_lift _) fun _ => ?_
  refine FailsWith.bind (failsWith_liftExcept fun failure h => ?_) fun address => ?_
  · obtain ⟨detail, rfl⟩ := Email.validation_of_normalize? h
    exact .malformed detail
  split
  · exact failsWith_throw (.malformed _)
  · exact attempt_failsWith

/-- A validation refuses a token for what it is. -/
theorem validate_failsWith :
    FailsWith (fun refusal => refusal.isUnauthenticated = true) (service.validate token now) := by
  have hvalidate : FailsWith (fun refusal => refusal.isUnauthenticated = true)
      (service.validation.validate token now) := by
    rw [Validation.validate]
    refine FailsWith.bind (failsWith_liftExcept fun refusal h => ?_) fun claims => ?_
    · rcases Token.eq_of_verify_eq_error h with rfl | rfl <;> rfl
    refine FailsWith.bind (failsWith_lift _) fun answer => failsWith_liftExcept fun refusal h => ?_
    rcases Validation.conclude_eq_error h with rfl | rfl <;> rfl
  rw [FailsWith] at hvalidate
  rw [FailsWith, validate, ExceptT.run_mk]
  -- the failure is counted, and then handed on as it is
  refine Program.Ensures.bind (Program.Ensures.mono hvalidate fun effects result? _ hfails => ?_)
  cases result? with
  | none =>
    intro refusal h
    cases h
  | some result =>
    dsimp only
    split
    · exact hfails
    · refine Program.Ensures.bind (Program.Ensures.perform fun reply? _ _ => ?_)
      cases reply? with
      | none =>
        intro refusal h
        cases h
      | some _ => exact hfails

/-- A logout fails because of its token, or because the store does not answer. -/
theorem logout_failsWith :
    FailsWith (fun failure => failure = .refusal .invalidToken ∨
      ∃ cause : Store.Failure, failure = .refusal cause.toRefusal) (service.logout token now) := by
  rw [logout]
  refine FailsWith.bind (FailsWith.adapt (failsWith_liftExcept fun refusal h => ?_))
    fun claims => ?_
  · exact .inl (congrArg _ (Token.eq_invalidToken_of_decode h))
  split
  · refine FailsWith.bind (FailsWith.adapt ?_) fun _ => failsWith_lift _
    rw [FailsWith]
    exact Program.Ensures.of_forall (fun _ _ _ failure _ => .inr ⟨failure, rfl⟩) _
  · exact failsWith_pure ()

end Service
end Bearer
