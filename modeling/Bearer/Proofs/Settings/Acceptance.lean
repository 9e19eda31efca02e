import Bearer.Proofs.Service.Failures
import Bearer.Proofs.Settings.Window
import Bearer.Proofs.Site.History

/-!
# Accepted settings

Settings are accepted only within bounds: for the lifetime of a token, for the number of failures
that locks, for the window and for the secret. These are all that the service relies on later, so it
is never the settings that a request fails for.

Main statement: `never_blamed`.
-/

namespace Bearer

/-- The settings, the secret or the service itself is to blame for a failure. -/
def Failure.BlamesService : Failure → Prop
  | .refusal (.weakSecret _) | .refusal (.configuration _) | .refusal (.internal _)
  | .internal _ => True
  | _ => False

/-- What is asked of the service itself. -/
inductive Service.Demand where
  | login (email password origin : String) (fresh : Uuid)
  | validate (token : String)
  | logout (token : String)

/-- Does what is asked, and keeps of the outcome only how it fails, if it does. -/
def Service.Demand.flow (service : Service) (now : Time) : Service.Demand → Service.Flow Unit
  | .login email password origin fresh => do
    let _ ← service.login email password origin ⟨now, fresh⟩
  | .validate token => do
    let _ ← Service.refusable (service.validate token now)
  | .logout token => service.logout token now

namespace Settings

variable {env : Environment} {settings : Settings} {service : Service}

/-- The number of failures that the variable gives, or five. -/
def attempts (env : Environment) : Except Fault Nat :=
  env.optional "LOGIN_MAX_ATTEMPTS" (Environment.readNumber UInt64.size) 5

/-- Settings say what the variables give, and it is within bounds. -/
structure Auth.IsGivenBy (auth : Auth) (env : Environment) : Prop where
  secret : ∃ text, env.text? "JWT_SECRET" = .ok text ∧ auth.secret.bytes = Text.utf8 text
  strength : ∀ weakness, Secret.strength auth.secret.bytes ≠ .weak weakness
  lifetime : ∃ n, lifetimeSeconds env = .ok n ∧ 1 ≤ n ∧ n ≤ maxLifetime ∧
    auth.lifetime = Duration.ofSeconds n
  maxAttempts : ∃ n, attempts env = .ok n ∧ 1 ≤ n ∧ auth.maxAttempts.toNat = n
  window : ∃ n, windowSeconds env = .ok n ∧ 1 ≤ n ∧ auth.window = Duration.ofSeconds n

/-- What a variable gives is out of bounds. -/
inductive Exceeds (env : Environment) : Prop where
  | emptyLifetime (h : lifetimeSeconds env = .ok 0)
  | longLifetime {n : Nat} (h : lifetimeSeconds env = .ok n) (hlong : maxLifetime < n)
  | noAttempts (h : attempts env = .ok 0)
  | emptyWindow (h : windowSeconds env = .ok 0)
  | weakSecret {text : String} {weakness : Weakness} (h : env.text? "JWT_SECRET" = .ok text)
    (hweak : Secret.strength (Text.utf8 text) = .weak weakness)

/-! ## Loading -/

/-- A secret is not weak. -/
theorem strength_ne_weak (secret : Secret) (weakness : Weakness) :
    Secret.strength secret.bytes ≠ .weak weakness := by
  rw [Secret.strength, secret.fit]
  dsimp only
  split <;> nofun

/-- A secret that is loaded is the bytes of the text in its variable. -/
theorem loadSecret_eq_ok {secret : Secret} (h : loadSecret env = .ok secret) :
    ∃ text, env.text? "JWT_SECRET" = .ok text ∧ secret.bytes = Text.utf8 text := by
  obtain ⟨text, htext, hsecret⟩ := Except.bind_eq_ok_iff.mp h
  rw [Environment.required] at htext
  cases hread : env.text? "JWT_SECRET" with
  | error cause =>
    rw [hread] at htext
    cases htext
  | ok found =>
    rw [hread] at htext
    cases htext
    -- a weak text would have been a fault, so its bytes make the secret
    refine ⟨text, rfl, Secret.ofBytes?_eq_ok_iff.mp ?_⟩
    cases hbytes : Secret.ofBytes? (Text.utf8 text) with
    | error refusal =>
      rw [hbytes] at hsecret
      cases hsecret
    | ok other =>
      rw [hbytes] at hsecret
      exact congrArg Except.ok (Except.ok.inj hsecret)

/-- What settings have of authentication is what the environment gives. -/
theorem isGivenBy_of_load (h : load env = .ok settings) : settings.auth.IsGivenBy env := by
  obtain ⟨window, hwindow, hpositive, -, hseconds⟩ := window_of_load h
  have hauth := auth_of_load h
  -- only the part on authentication matters from here on
  generalize settings.auth = auth at hauth hseconds ⊢
  simp only [Auth.load, Except.bind_eq_ok_iff] at hauth
  obtain ⟨secret, hsecret, lifetime, hlifetime, attempts, hattempts, _, -, _, -, _, -, _, -,
    hauth⟩ := hauth
  cases hauth
  obtain ⟨hread, hbounds⟩ := loadLifetime_eq_ok_iff.mp hlifetime
  obtain ⟨hcount, hsome⟩ := positive_eq_ok_iff.mp hattempts
  exact
    { secret := loadSecret_eq_ok hsecret
      strength := strength_ne_weak secret
      lifetime := ⟨lifetime, hread, hbounds.1, hbounds.2, rfl⟩
      maxAttempts :=
        ⟨attempts, hcount, hsome, UInt64.toNat_ofNat_of_lt' (optional_lt (by decide) hcount)⟩
      window := ⟨window, hwindow, hpositive, hseconds⟩ }

/-- What is out of bounds is not accepted. -/
theorem not_exceeds_of_isGivenBy {auth : Auth} (h : auth.IsGivenBy env) : ¬Exceeds env := by
  obtain ⟨⟨text, htext, hbytes⟩, hstrength, ⟨lifetime, hlifetime, hpositive, hbounded, -⟩,
    ⟨attempts, hattempts, hsome, -⟩, ⟨window, hwindow, hopen, -⟩⟩ := h
  rintro (hempty | ⟨hlong, hbeyond⟩ | hnone | hclosed | ⟨hread, hweak⟩)
  · cases hempty.symm.trans hlifetime
    exact absurd hpositive (by decide)
  · cases hlong.symm.trans hlifetime
    exact Nat.not_lt.mpr hbounded hbeyond
  · cases hnone.symm.trans hattempts
    exact absurd hsome (by decide)
  · cases hclosed.symm.trans hwindow
    exact absurd hopen (by decide)
  · cases hread.symm.trans htext
    rw [← hbytes] at hweak
    exact hstrength _ hweak

/-! ## The service -/

/-- What is given makes a policy for lockouts. -/
theorem policy_of_isGivenBy {auth : Auth} (h : auth.IsGivenBy env) :
    ∃ policy, Lockout.Policy.make? auth.maxAttempts auth.window = .ok policy := by
  obtain ⟨attempts, -, hsome, hattempts⟩ := h.maxAttempts
  obtain ⟨window, -, hopen, hwindow⟩ := h.window
  have hmax : auth.maxAttempts ≠ 0 := by
    intro hzero
    rw [hzero] at hattempts
    exact absurd (hattempts ▸ hsome) (by decide)
  have hnanos : auth.window.nanos ≠ 0 := by
    rw [hwindow]
    change window * 1000000000 ≠ 0
    omega
  refine ⟨⟨auth.maxAttempts, auth.window, hmax, hnanos⟩, ?_⟩
  rw [Lockout.Policy.make?, dif_neg hmax, dif_neg hnanos]

/-- The parts of a service that requests can fail for are those of its settings. -/
theorem eq_of_service? (h : settings.service? = .ok service) :
    service.secret = settings.auth.secret ∧ service.lifetime = settings.auth.lifetime := by
  obtain ⟨policy, -, hservice⟩ := Except.bind_eq_ok_iff.mp h
  cases hservice
  exact ⟨rfl, rfl⟩

end Settings

namespace Service

variable {service : Service} {now : Time}

/-- A login is never to blame on a service that issues tokens at that moment. -/
theorem LoginFails.not_blamesService {failure : Failure} {moment : Moment}
    (h : LoginFails service moment failure)
    (hissue : ∀ subject role tokenId, ∃ issued, Token.issue service.secret subject role
      service.lifetime moment.now tokenId = .ok issued) : ¬failure.BlamesService := by
  cases h with
  | unissued h =>
    obtain ⟨issued, hissued⟩ := hissue _ _ _
    cases h.symm.trans hissued
  | _ => exact id

/-- Where every token can be issued, no demand fails in a way that blames the service. -/
theorem demand_failsWith (demand : Demand)
    (hissue : ∀ subject role tokenId, ∃ issued, Token.issue service.secret subject role
      service.lifetime now tokenId = .ok issued) :
    FailsWith (fun failure : Failure => ¬failure.BlamesService) (demand.flow service now) := by
  cases demand with
  | login email password origin fresh =>
    refine FailsWith.bind ?_ fun _ => failsWith_pure ()
    exact login_failsWith.mono fun failure h => h.not_blamesService hissue
  | validate token =>
    refine FailsWith.bind (FailsWith.adapt ?_) fun _ => failsWith_pure ()
    refine validate_failsWith.mono fun refusal h => ?_
    cases refusal <;> first | exact id | cases h
  | logout token =>
    refine logout_failsWith.mono fun failure h => ?_
    rcases h with rfl | ⟨cause, rfl⟩ <;> exact id

end Service

namespace Settings

/-- Accepted settings are those that the variables give, and within bounds. The service that is made
of them never fails because of the settings, nor of itself: no login, validation or logout does, in
whatever order they come, whatever the store answers and whenever it is. What is out of bounds is
not accepted. -/
theorem never_blamed (env : Environment) :
    (∀ settings, load env = .ok settings →
      settings.auth.IsGivenBy env ∧
      (∃ policy, Lockout.Policy.make? settings.auth.maxAttempts settings.auth.window =
        .ok policy) ∧
      ∃ service, settings.service? = .ok service ∧
        ∀ {σ : Type} (occasions : List (Surroundings.Occasion σ Service.Demand))
            (standing : Standing σ),
          (∀ occasion ∈ occasions, occasion.now.InCalendar ∧ occasion.around.IsOrderly) →
          ∀ result ∈ Surroundings.serve
              (fun now (demand : Service.Demand) => (demand.flow service now).run)
              occasions standing,
            ∀ failure, result = some (.error failure) → ¬failure.BlamesService) ∧
    (Exceeds env → ∃ fault, load env = .error fault) := by
  constructor
  · intro settings hload
    have hgiven := isGivenBy_of_load hload
    obtain ⟨policy, hpolicy⟩ := policy_of_isGivenBy hgiven
    obtain ⟨service, hservice⟩ : ∃ service, settings.service? = .ok service := by
      rw [service?, hpolicy]
      exact ⟨_, rfl⟩
    refine ⟨hgiven, ⟨policy, hpolicy⟩, service, hservice, ?_⟩
    obtain ⟨seconds, -, hpositive, hbounded, hlifetime⟩ := hgiven.lifetime
    have hseconds : service.lifetime.seconds = seconds := by
      rw [(eq_of_service? hservice).2, hlifetime]
      exact Nat.mul_div_cancel _ (by decide)
    intro σ occasions standing hsound result hmem failure hresult
    -- no single occasion can be to blame, whatever has come before it
    refine Surroundings.of_mem_serve (P := fun result => result = some (.error failure) →
      ¬failure.BlamesService) (fun occasion hoccasion before hanswer => ?_) hmem hresult
    obtain ⟨hcal, horderly⟩ := hsound occasion hoccasion
    have hissue (subject : String) (role : Role) (tokenId : String) :=
      Token.issue_eq_ok service.secret subject role tokenId hcal
        (hseconds.symm ▸ hpositive) (hseconds.symm ▸ hbounded)
    exact failsWith_run horderly (Service.demand_failsWith occasion.request hissue) before hanswer
  · intro hexceeds
    cases hload : load env with
    | error fault => exact ⟨fault, rfl⟩
    | ok settings => exact absurd hexceeds (not_exceeds_of_isGivenBy (isGivenBy_of_load hload))

/-- The sample settings accept a window of ten minutes, and their service is not to blame if a login
fails. An empty window is not accepted. -/
theorem never_blamed_sample :
    load (sampleEnvironment "600") = .ok (sampleSettings 600) ∧
      (∃ service, (sampleSettings 600).service? = .ok service ∧
        ∀ result ∈ Surroundings.serve
            (fun now (demand : Service.Demand) => (demand.flow service now).run)
            [⟨Site.sample.now, .ofSite Site.sample, .login "a@b" "guess" "unknown" ⟨[]⟩⟩]
            ⟨Site.sample.store, Site.sample.metrics⟩,
          ∀ failure, result = some (.error failure) → ¬failure.BlamesService) ∧
      ∃ fault, load (sampleEnvironment "0") = .error fault := by
  have hload : load (sampleEnvironment "600") = .ok (sampleSettings 600) :=
    load_sampleEnvironment (by decide) (by decide)
  obtain ⟨haccepted, -⟩ := never_blamed (sampleEnvironment "600")
  obtain ⟨-, -, service, hservice, hserved⟩ := haccepted _ hload
  refine ⟨hload, ⟨service, hservice, hserved _ _ ?_⟩, ?_⟩
  · intro occasion hmem
    rw [List.mem_singleton.mp hmem]
    exact ⟨by decide, Surroundings.isOrderly_ofSite _⟩
  · obtain ⟨-, hexceeds⟩ := never_blamed (sampleEnvironment "0")
    exact hexceeds (.emptyWindow (windowSeconds_sampleEnvironment (by decide)))

end Settings
end Bearer
