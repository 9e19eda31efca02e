import Bearer.Proofs.Site.Run
import Bearer.Settings.Basic

/-!
# Runs of login

What a login comes to against a site whose store and directory answer: one lemma for each way in
which it can end. A login first passes a gate, which looks at nothing but its own text; then the
lockout of its pair is asked for; only then the directory and the password.

Main statements: `run_login_of_wellFormed`, `run_attempt_of_locked` and `run_attempt_of_free`.
-/

namespace Bearer

open Program (Run)

/-- The user whom an address and a password stand for. -/
def Directory.authenticate? (directory : Directory) (address password : String) : Option User :=
  (directory.users.find? (·.email = address)).filter fun user =>
    Password.verifyStored password (some user.passwordHash)

/-- Whether an effect notes an event. -/
def Effect.IsNote : Effect → Prop
  | .note _ => True
  | _ => False

/-- A note is plain. -/
theorem Effect.IsNote.isPlain {effect : Effect} (h : effect.IsNote) : effect.IsPlain := by
  cases effect with
  | note event => exact trivial
  | _ => exact h.elim

/-- What is no address is malformed. -/
theorem Email.validation_of_normalize? {text : String} {failure : Failure}
    (h : normalize? text = .error failure) : ∃ detail, failure = .validation detail := by
  rw [normalize?] at h
  split at h
  · cases h
  · cases h
    exact ⟨_, rfl⟩

namespace Lockout

variable {lockout : Lockout} {key : String} {site : Site}

/-- The lockout calls the store once, and settles what it is told. -/
theorem ask_eq (lockout : Lockout) (call : Store.Call) (fallback : call.Reply) :
    (lockout.ask call fallback).run = lockout.settle fallback <$> (Program.call call).run :=
  Program.lift_bind_liftExcept _ _

/-- What is settled is refused only if the store has failed, and then for that. -/
theorem settle_eq_error {α : Type} {fallback : α} {reply : Except Store.Failure α}
    {refusal : Refusal} (h : lockout.settle fallback reply = .error refusal) :
    ∃ failure, reply = .error failure ∧ refusal = failure.toRefusal := by
  cases reply with
  | ok a => cases h
  | error failure =>
    rw [settle] at h
    split at h
    · cases h
    · cases h
      exact ⟨failure, rfl, rfl⟩

/-- A number that fits into a counter locks if it reaches the limit. -/
theorem Policy.locks_ofNat (policy : Policy) {n : Nat} (h : n < UInt64.size) :
    policy.locks (.ofNat n) = decide (policy.maxAttempts.toNat ≤ n) := by
  refine decide_eq_decide.mpr ?_
  rw [UInt64.le_iff_toNat_le, UInt64.toNat_ofNat_of_lt' h]

/-- Whether a key is let through, given how the store answers when it is asked for the count. -/
def pass (lockout : Lockout) (reply : Except Store.Failure UInt64) : Except Refusal Unit := do
  if lockout.policy.locks (← lockout.settle 0 reply) then throw .tooManyAttempts

/-- A count lets a key through exactly if it does not lock it. -/
theorem pass_ok (lockout : Lockout) (count : UInt64) :
    lockout.pass (.ok count) =
      if lockout.policy.locks count then .error .tooManyAttempts else .ok () := by
  rw [pass, settle]
  rfl

/-- A key is not let through because it is locked, or because the store has failed. -/
theorem pass_eq_error {reply : Except Store.Failure UInt64} {refusal : Refusal}
    (h : lockout.pass reply = .error refusal) :
    refusal = .tooManyAttempts ∨ ∃ failure : Store.Failure, refusal = failure.toRefusal := by
  rw [pass] at h
  cases hsettle : lockout.settle (0 : UInt64) reply with
  | error cause =>
    obtain ⟨failure, -, hcause⟩ := settle_eq_error hsettle
    rw [hsettle] at h
    cases h
    exact .inr ⟨failure, hcause⟩
  | ok count =>
    rw [hsettle] at h
    change (if lockout.policy.locks count then .error .tooManyAttempts else .ok ()) =
      Except.error refusal at h
    split at h
    · cases h
      exact .inl rfl
    · cases h

/-- The check of a key is one call to the store, whose answer decides. -/
theorem check_eq (lockout : Lockout) (key : String) :
    (lockout.check key).run = lockout.pass <$> (Program.call (.count key)).run := by
  rw [check, isLocked, bind_pure_comp, ExceptT.run_bind, ExceptT.run_map, ask_eq,
    Functor.map_map, map_eq_pure_bind, bind_assoc, map_eq_pure_bind]
  congr 1
  funext reply
  rw [pure_bind, pass]
  cases h : lockout.settle (0 : UInt64) reply with
  | error refusal => rfl
  | ok count =>
    change (if lockout.policy.locks count then throw Refusal.tooManyAttempts
      else pure () : ExceptT Refusal Program Unit).run =
        pure (if lockout.policy.locks count then throw Refusal.tooManyAttempts else pure ())
    split <;> rfl

/-- The calls by which the failures of a key are counted and forgotten. -/
def writes (lockout : Lockout) (key : String) : List Store.Call :=
  [.increment key lockout.policy.window, .delete key]

/-- The calls that write are about the key. -/
theorem key_of_mem_writes {call : Store.Call} (h : call ∈ lockout.writes key) : call.key = key := by
  rw [writes, List.mem_cons, List.mem_singleton] at h
  rcases h with rfl | rfl <;> rfl

/-- The calls that a login makes for a key: it asks for the count, and then counts or forgets. -/
def calls (lockout : Lockout) (key : String) : List Store.Call := .count key :: lockout.writes key

/-- The calls of a login for a key are about it. -/
theorem key_of_mem_calls {call : Store.Call} (h : call ∈ lockout.calls key) : call.key = key := by
  rcases List.mem_cons.mp h with rfl | hwrites
  · rfl
  · exact key_of_mem_writes hwrites

/-- To ask the store begins with the call, and makes no other. -/
theorem ask_begins (P : Effect → Prop) (call : Store.Call) (fallback : call.Reply) :
    (lockout.ask call fallback).run.Begins (.store call) P := by
  rw [ask_eq]
  exact Program.Begins.map _ (Program.Begins.perform _)

/-- A check makes no effect but the call that asks for the count. -/
theorem check_within {P : Effect → Prop} (h : P (.store (.count key))) :
    (lockout.check key).run.Within P := by
  rw [check_eq]
  exact Program.Within.map _ (Program.Within.perform h)

/-- To ask the store on a site performs the call and settles its reply. -/
theorem run_ask (lockout : Lockout) (site : Site) (call : Store.Call) (fallback : call.Reply) :
    site.run (lockout.ask call fallback).run =
      ⟨(site.store.perform site.now call).1.map (lockout.settle fallback),
        site.withStore (site.store.perform site.now call).2, [.store call]⟩ := by
  rw [ask_eq, Site.run_map, Site.run_call]
  rfl

/-- While the store answers, a key is refused exactly if its count locks. -/
theorem run_check (hup : site.store.available) :
    site.run (lockout.check key).run =
      ⟨some (if lockout.policy.locks (site.store.countAt key site.now) then
          .error .tooManyAttempts else .ok ()),
        site.withStore (site.store.evict key site.now), [.store (.count key)]⟩ := by
  rw [check_eq, Site.run_map, Site.run_call, Store.Memory.perform_count _ _ hup]
  rfl

/-- While the store answers, a reset erases the key. -/
theorem run_reset (hup : site.store.available) :
    site.run (lockout.reset key).run =
      ⟨some (.ok ()), site.withStore (site.store.erase key), [.store (.delete key)]⟩ := by
  rw [reset, run_ask, Store.Memory.perform_delete _ _ hup]
  rfl

/-- While the store answers, a failure is counted and its number told. -/
theorem run_recordFailure (hup : site.store.available) {count : UInt64} {store : Store.Memory}
    (hcount : site.store.increment key lockout.policy.window site.now =
      (some (.ok count), store)) :
    site.run (lockout.recordFailure key).run =
      ⟨some (.ok count), site.withStore store,
        [.store (.increment key lockout.policy.window)]⟩ := by
  rw [recordFailure, run_ask, Store.Memory.perform_increment _ _ hup, hcount]
  rfl

end Lockout

namespace Service

variable {service : Service} {email password origin address : String} {moment : Moment}
  {site : Site}

/-- To note an event makes no effect but a note. -/
theorem note_within (event : Event) :
    (liftM (Program.note event) : Flow Unit).run.Within Effect.IsNote :=
  Program.Within.lift (Program.Within.perform trivial)

/-- A granted login begins with forgetting the failures of its key, and then only notes events. -/
theorem grant_begins (service : Service) (key : String) (user : User) (moment : Moment) :
    (service.grant key user moment).run.Begins (.store (.delete key)) Effect.IsNote := by
  rw [grant]
  refine Program.Begins.flow_bind (Program.Begins.adapt _ (Lockout.ask_begins _ _ _)) fun _ => ?_
  refine Program.Within.flow_bind (Program.Within.adapt _ (Program.Within.liftExcept _)) ?_
  intro issued
  exact Program.Within.flow_bind (note_within _) fun _ => .done _

/-- A failed login begins with adding to the counter of its key, and then only notes events. -/
theorem failLogin_begins (service : Service) (key : String) :
    (service.failLogin key).run.Begins
      (.store (.increment key service.lockout.policy.window)) Effect.IsNote := by
  rw [failLogin]
  refine Program.Begins.flow_bind (Program.Begins.adapt _ (Lockout.ask_begins _ _ _))
    fun count => ?_
  refine Program.Within.flow_bind (note_within _) fun _ => ?_
  split
  · exact Program.Within.flow_bind (note_within _) fun _ => .done _
  · exact .done _

section Within

variable {P : Effect → Prop}

/-- All that an attempt does: it asks for the count of its pair, looks its address up, checks the
password, and then counts or forgets. -/
theorem attempt_within_each (hnote : ∀ effect : Effect, effect.IsNote → P effect)
    (hfind : P (.findUser address)) (hcheck : ∀ stored, P (.checkPassword password stored))
    (hcalls : ∀ call ∈ service.lockout.calls (Lockout.key address origin), P (.store call)) :
    (service.attempt address password origin moment).run.Within P := by
  rw [attempt]
  refine Program.Within.flow_bind (Program.Within.adapt _ ?_) fun _ => ?_
  · exact Lockout.check_within (hcalls _ (by simp [Lockout.calls]))
  refine Program.Within.flow_bind (Program.Within.perform hfind) fun user? => ?_
  refine Program.Within.flow_bind (Program.Within.lift ?_) fun verified => ?_
  · exact Program.Within.perform (hcheck _)
  split
  · exact (service.grant_begins _ _ moment).within
      (hcalls _ (by simp [Lockout.calls, Lockout.writes])) hnote
  · exact (service.failLogin_begins _).within
      (hcalls _ (by simp [Lockout.calls, Lockout.writes])) hnote

/-- All that a login does besides its attempt is to note an event. -/
theorem login_within_each (hnote : ∀ effect : Effect, effect.IsNote → P effect)
    (hattempt : ∀ address, Email.normalize? email = .ok address →
      (service.attempt address password origin moment).run.Within P) :
    (service.login email password origin moment).run.Within P := by
  rw [login]
  refine Program.Within.flow_bind ((note_within _).mono hnote) fun _ => ?_
  cases hemail : Email.normalize? email with
  | error failure =>
    rw [Program.liftExcept_error_bind]
    exact .done _
  | ok address =>
    rw [Program.liftExcept_ok_bind]
    split
    · exact .done _
    · exact hattempt address hemail

variable (hplain : ∀ effect : Effect, effect.IsPlain → P effect)
include hplain

/-- All that an attempt calls the store for is the count of its pair. -/
theorem attempt_within
    (hcalls : ∀ call ∈ service.lockout.calls (Lockout.key address origin), P (.store call)) :
    (service.attempt address password origin moment).run.Within P :=
  attempt_within_each (fun effect h => hplain effect h.isPlain) (hplain _ trivial)
    (fun _ => hplain _ trivial) hcalls

/-- All that a login calls the store for is the count of its pair. -/
theorem login_within
    (hcalls : ∀ address, Email.normalize? email = .ok address →
      ∀ call ∈ service.lockout.calls (Lockout.key address origin), P (.store call)) :
    (service.login email password origin moment).run.Within P :=
  login_within_each (fun effect h => hplain effect h.isPlain) fun address hemail =>
    attempt_within hplain (hcalls address hemail)

end Within

/-! ## The gate -/

/-- A login with a text that is no address is noted, and fails for that text. -/
theorem run_login_of_malformed {failure : Failure} (h : Email.normalize? email = .error failure) :
    site.run (service.login email password origin moment).run =
      ⟨some (.error failure), site.noted .loginRequested, [.note .loginRequested]⟩ := by
  rw [login, Site.run_flow_bind, Site.run_lift, Site.run_note, h]
  rfl

/-- A login without a password is noted, and fails for that. -/
theorem run_login_of_noPassword (h : Email.normalize? email = .ok address) (hnone : password = "") :
    site.run (service.login email password origin moment).run =
      ⟨some (.error (.validation "password required")), site.noted .loginRequested,
        [.note .loginRequested]⟩ := by
  rw [login, Site.run_flow_bind, Site.run_lift, Site.run_note, h]
  simp only [if_pos hnone]
  rfl

/-- Any other login is an attempt for the one form of its address. -/
theorem login_of_wellFormed (h : Email.normalize? email = .ok address) (hsome : password ≠ "") :
    service.login email password origin moment =
      (do Program.note .loginRequested
          service.attempt address password origin moment) := by
  rw [login, h]
  simp only [if_neg hsome]
  rfl

/-- A login that is well formed is noted, and then attempted. -/
theorem run_login_of_wellFormed (h : Email.normalize? email = .ok address) (hsome : password ≠ "") :
    site.run (service.login email password origin moment).run =
      let run := (site.noted .loginRequested).run
        (service.attempt address password origin moment).run
      ⟨run.answer?, run.state, .note .loginRequested :: run.effects⟩ := by
  rw [login_of_wellFormed h hsome, Site.run_flow_bind, Site.run_lift, Site.run_note]
  rfl

/-! ## Attempts -/

/-- A pair whose count locks is refused before anything is looked up. -/
theorem run_attempt_of_locked (hup : site.store.available)
    (hlocked : service.lockout.policy.locks
      (site.store.countAt (Lockout.key address origin) site.now)) :
    site.run (service.attempt address password origin moment).run =
      ⟨some (.error (.refusal .tooManyAttempts)),
        site.withStore (site.store.evict (Lockout.key address origin) site.now),
        [.store (.count (Lockout.key address origin))]⟩ := by
  rw [attempt, Site.run_flow_bind, refusable, widen, Site.run_adapt, Lockout.run_check hup,
    if_pos hlocked]
  rfl

/-- What an attempt comes to once it is known whom it stands for. -/
def settleAttempt (service : Service) (key : String) (moment : Moment) : Option User → Flow Grant
  | some user => service.grant key user moment
  | none => service.failLogin key

/-- What is left of an attempt when the user has been looked up. -/
def verify (service : Service) (password key : String) (moment : Moment) (user? : Option User) :
    Flow Grant := do
  let verified ← Program.checkPassword password (user?.map (·.passwordHash))
  service.settleAttempt key moment (user?.filter fun _ => verified)

/-- What is left of an attempt that the lockout has let pass. -/
def lookUp (service : Service) (address password key : String) (moment : Moment) : Flow Grant := do
  let user? ← Program.findUser address
  service.verify password key moment user?

/-- An attempt checks its key and then looks the user up. -/
theorem attempt_eq (service : Service) (address password origin : String) (moment : Moment) :
    service.attempt address password origin moment = (do
      refusable (service.lockout.check (Lockout.key address origin))
      service.lookUp address password (Lockout.key address origin) moment) := by
  rw [attempt]
  congr 1
  funext _
  rw [lookUp]
  congr 1
  funext user?
  rw [verify]
  congr 1
  funext verified
  -- an unknown user has a password checked too, and fails however that ends
  cases user? <;> cases verified <;> rfl

/-- Past the lockout the user is looked up and the password checked, and nothing else decides. -/
theorem run_lookUp (hdirectory : site.directory.available) (key : String) :
    site.run (service.lookUp address password key moment).run =
      let rest := site.run
        (service.settleAttempt key moment (site.directory.authenticate? address password)).run
      ⟨rest.answer?, rest.state, .findUser address ::
        .checkPassword password
          ((site.directory.users.find? (·.email = address)).map (·.passwordHash)) ::
        rest.effects⟩ := by
  have hfind : site.directory.find address =
      .ok (site.directory.users.find? (·.email = address)) := by
    rw [Directory.find, if_pos hdirectory]
  rw [lookUp, Site.run_flow_bind, Site.run_findUser, hfind]
  simp only [Run.andThen_some, Run.whenOk_ok]
  rw [verify, Site.run_flow_bind, Site.run_lift, Site.run_checkPassword]
  simp only [Run.map_mk, Option.map_some, Run.andThen_some, Run.whenOk_ok, Directory.authenticate?]
  cases site.directory.users.find? (·.email = address) with
  | none => rfl
  | some user => rfl

/-- Any attempt that is not locked is looked up. -/
theorem run_attempt_of_free (hup : site.store.available) (hdirectory : site.directory.available)
    (hfree : ¬service.lockout.policy.locks
      (site.store.countAt (Lockout.key address origin) site.now)) :
    site.run (service.attempt address password origin moment).run =
      let rest := (site.withStore (site.store.evict (Lockout.key address origin) site.now)).run
        (service.settleAttempt (Lockout.key address origin) moment
          (site.directory.authenticate? address password)).run
      ⟨rest.answer?, rest.state, .store (.count (Lockout.key address origin)) ::
        .findUser address ::
        .checkPassword password
          ((site.directory.users.find? (·.email = address)).map (·.passwordHash)) ::
        rest.effects⟩ := by
  rw [attempt_eq, Site.run_flow_bind, refusable, widen, Site.run_adapt, Lockout.run_check hup,
    if_neg hfree]
  have hdirectory' : (site.withStore
      (site.store.evict (Lockout.key address origin) site.now)).directory.available := hdirectory
  simp only [Run.map_mapError_ok, Run.andThen_some, Run.whenOk_ok]
  rw [run_lookUp hdirectory']
  rfl

/-- What is looked up fails when the directory does not answer, and nothing else is done. -/
theorem run_lookUp_of_noDirectory (hdirectory : site.directory.available = false) (key : String) :
    site.run (service.lookUp address password key moment).run =
      ⟨some (.error (DirectoryFault.reported "users unavailable").toFailure), site,
        [.findUser address]⟩ := by
  have hfind : site.directory.find address =
      .error (DirectoryFault.reported "users unavailable").toFailure := by
    rw [Directory.find, if_neg (by simp [hdirectory])]
  rw [lookUp, Site.run_flow_bind, Site.run_findUser, hfind]
  rfl

/-- An attempt that is not locked fails when the directory does not answer, and leaves the rest
undone. -/
theorem run_attempt_of_noDirectory (hup : site.store.available)
    (hdirectory : site.directory.available = false)
    (hfree : ¬service.lockout.policy.locks
      (site.store.countAt (Lockout.key address origin) site.now)) :
    site.run (service.attempt address password origin moment).run =
      ⟨some (.error (DirectoryFault.reported "users unavailable").toFailure),
        site.withStore (site.store.evict (Lockout.key address origin) site.now),
        [.store (.count (Lockout.key address origin)), .findUser address]⟩ := by
  rw [attempt_eq, Site.run_flow_bind, refusable, widen, Site.run_adapt, Lockout.run_check hup,
    if_neg hfree]
  simp only [Run.map_mapError_ok, Run.andThen_some, Run.whenOk_ok]
  rw [run_lookUp_of_noDirectory]
  · rfl
  · exact hdirectory

/-- While the store answers, a token that is issued is handed out, the key forgotten and the event
noted. -/
theorem run_grant {key : String} {user : User} (hup : site.store.available)
    {issued : Token.Issued}
    (hissue : Token.issue service.secret user.id.text user.role service.lifetime moment.now
      moment.fresh.text = .ok issued) :
    site.run (service.grant key user moment).run =
      ⟨some (.ok ⟨issued, user.id, user.role⟩),
        (site.withStore (site.store.erase key)).noted .tokenIssued,
        [.store (.delete key), .note .tokenIssued]⟩ := by
  rw [grant, Site.run_flow_bind, refusable, widen, Site.run_adapt, Lockout.run_reset hup, hissue]
  rfl

/-- While the store answers, a wrong password is counted and told as wrong credentials. -/
theorem run_failLogin {key : String} (hup : site.store.available) {count : UInt64}
    {store : Store.Memory}
    (hcount : site.store.increment key service.lockout.policy.window site.now =
      (some (.ok count), store)) :
    ∃ metrics effects, site.run (service.failLogin key).run =
      ⟨some (.error (.refusal .invalidCredentials)), { site with store, metrics }, effects⟩ := by
  rw [failLogin, Site.run_flow_bind, refusable, widen, Site.run_adapt,
    Lockout.run_recordFailure hup hcount]
  simp only [Run.map_mapError_ok, Run.andThen_some, Run.whenOk_ok]
  rw [Site.run_flow_bind, Site.run_lift, Site.run_note]
  simp only [Run.map_mk, Option.map_some, Run.andThen_some, Run.whenOk_ok]
  -- the failure that reaches the limit is noted twice, which is why the counters are left open
  by_cases hlock : count = service.lockout.policy.maxAttempts
  · simp only [if_pos hlock]
    exact ⟨_, _, rfl⟩
  · simp only [if_neg hlock]
    exact ⟨_, _, rfl⟩

end Service

/-- All that can keep a token from being issued is its lifetime. -/
theorem Token.eq_configuration_of_issue {secret : Secret} {subject : String} {role : Role}
    {lifetime : Duration} {now : Time} {tokenId : String} {refusal : Refusal}
    (h : Token.issue secret subject role lifetime now tokenId = .error refusal) :
    ∃ detail, refusal = .configuration detail := by
  simp only [issue] at h
  split at h
  · exact ⟨_, (Except.error.inj h).symm⟩
  · split at h
    · exact ⟨_, (Except.error.inj h).symm⟩
    · cases h

/-- At every moment of the calendar a token is issued for every lifetime that the settings
allow. -/
theorem Token.issue_eq_ok (secret : Secret) (subject : String) (role : Role) (tokenId : String)
    {lifetime : Duration} {now : Time} (hnow : now.InCalendar) (hpositive : 1 ≤ lifetime.seconds)
    (hbounded : lifetime.seconds ≤ Settings.maxLifetime) :
    ∃ issued, Token.issue secret subject role lifetime now tokenId = .ok issued := by
  simp only [Time.InCalendar, Claims.firstSecond, Claims.lastSecond] at hnow
  rw [Settings.maxLifetime] at hbounded
  -- the lifetime is a second at least, and the second of expiry has sixty-four bits
  have hmax : Int64.maxValue.toInt = 9223372036854775807 := by decide
  rw [issue, hmax, if_neg (by omega), if_neg (by omega)]
  exact ⟨_, rfl⟩

end Bearer
