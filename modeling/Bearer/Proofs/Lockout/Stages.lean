import Bearer.Proofs.Lockout.Machine
import Bearer.Proofs.Program.Crowd
import Bearer.Proofs.Store.Count

/-!
# The stages of a login

A login that takes turns with others is no single step: it asks for the lockout, looks the user up,
has the password checked, and then counts a failure or forgets the count, and others act in between.
At any time it is at one of a few stages, which are told apart by what it has done so far.

Main statements: `Stage.perform` says that every effect leads from a stage to a stage,
`Stage.refused` that an answer of the store which locks lets only a refusal follow,
and `Stage.settles` that a password that was checked is followed by a count or a reset.
-/

namespace Bearer

/-- Whether only logins that the lockout has let pass perform an effect. -/
def Effect.IsGated : Effect → Prop
  | .findUser _ | .checkPassword _ _ | .store (.increment _ _) | .store (.delete _) => True
  | _ => False

/-- How many failures count under a key after an effect. -/
def Effect.tally (key : String) (n : Nat) : Effect → Nat
  | .store call => call.tally key n
  | _ => n

/-- Whether an effect sets no key but others, and advances it with its window. -/
def Effect.Counts (key : String) (window : Duration) : Effect → Prop
  | .store call => call.Counts key window
  | _ => True

/-- Whether an effect checks a password. -/
def Effect.ChecksPassword : Effect → Prop
  | .checkPassword _ _ => True
  | _ => False

namespace Program

variable {α β ε : Type}

/-- What follows a result that can be an error: nothing, if it is one. -/
def whenOk (f : α → ExceptT ε Program β) : Except ε α → Program (Except ε β)
  | .ok a => (f a).run
  | .error e => .done (.error e)

/-- What follows a computation is run with what it gives, unless it fails. -/
theorem run_bind_eq (x : ExceptT ε Program α) (f : α → ExceptT ε Program β) :
    (x >>= f).run = x.run >>= whenOk f := by
  rw [ExceptT.run_bind]
  congr 1
  funext result
  cases result <;> rfl

/-- A single effect whose reply is judged, and what follows if it is judged well. -/
theorem run_bind_of_perform {effect : Effect} {judge : effect.Reply → Except ε α}
    {x : ExceptT ε Program α} (hx : x.run = judge <$> perform effect)
    (f : α → ExceptT ε Program β) :
    (x >>= f).run = .step effect fun reply => whenOk f (judge reply) := by
  rw [run_bind_eq, hx, bind_map_left]
  rfl

/-- What follows an effect goes on with its reply. -/
theorem run_lift_bind (effect : Effect) (f : effect.Reply → ExceptT ε Program β) :
    ((liftM (perform effect) : ExceptT ε Program effect.Reply) >>= f).run =
      .step effect fun reply => (f reply).run :=
  run_bind_of_perform (ExceptT.run_liftM _) f

end Program

namespace Service

variable {service : Service} {key : String}

/-- An attempt asks the store for the count, and is refused or goes on. -/
theorem run_attempt_eq (service : Service) (address password origin : String) (moment : Moment) :
    (service.attempt address password origin moment).run =
      .step (.store (.count (Lockout.key address origin))) fun reply =>
        Program.whenOk
          (fun _ => service.lookUp address password (Lockout.key address origin) moment)
          ((service.lockout.pass reply).mapError .refusal) := by
  rw [attempt_eq]
  refine Program.run_bind_of_perform ?_ _
  rw [refusable, widen, ExceptT.run_adapt, Lockout.check_eq, Functor.map_map]
  rfl

/-- A login notes that it was asked for, and is turned away or attempts. -/
theorem run_login_eq (service : Service) (attempt : Attempt) (now : Time) :
    (service.login attempt.email attempt.password attempt.origin ⟨now, attempt.fresh⟩).run =
      .step (.note .loginRequested) fun _ =>
        Program.whenOk (fun address =>
          service.attempt address attempt.password attempt.origin ⟨now, attempt.fresh⟩)
          attempt.address? := by
  rw [login, Program.note, Program.run_lift_bind]
  congr 1
  funext _
  rcases attempt.address?_cases with
    ⟨failure, hemail, hfound⟩ | ⟨address, hemail, hnone, hfound⟩ | ⟨address, hemail, hsome, hfound⟩
  · rw [hemail, hfound]
    rfl
  · rw [hemail, hfound]
    simp only [if_pos hnone]
    rfl
  · rw [hemail, hfound]
    simp only [if_neg hsome]
    rfl

/-- A lookup is one question to the directory, and then the check of the password. -/
theorem run_lookUp_eq (service : Service) (address password key : String) (moment : Moment) :
    (service.lookUp address password key moment).run =
      .step (.findUser address) (Program.whenOk (service.verify password key moment)) := by
  rw [lookUp]
  exact Program.run_bind_of_perform (id_map _).symm _

/-- The password is checked in one effect, whether or not there is a user, and then the attempt is
settled. -/
theorem run_verify_eq (service : Service) (password key : String) (moment : Moment)
    (user? : Option User) :
    (service.verify password key moment user?).run =
      .step (.checkPassword password (user?.map (·.passwordHash))) fun verified =>
        (service.settleAttempt key moment (user?.filter fun _ => verified)).run := by
  rw [verify, Program.checkPassword, Program.run_lift_bind]

/-- How far a login has come whose failures are counted under a key: what it has done, and what is
left of it. -/
inductive Stage (service : Service) (key : String) :
    List Effect → Option (Program (Except Failure Grant)) → Prop where
  /-- It has just been asked for. -/
  | asked {attempt : Attempt} {now : Time} {p : Program (Except Failure Grant)}
      (hkey : ∀ address, attempt.address? = .ok address →
        Lockout.key address attempt.origin = key)
      (hp : p = (service.login attempt.email attempt.password attempt.origin
        ⟨now, attempt.fresh⟩).run) :
    Stage service key [] (some p)
  /-- It was not well formed. -/
  | turnedAway (failure : Failure) :
    Stage service key [.note .loginRequested] (some (.done (.error failure)))
  /-- Its lockout is asked for next. -/
  | waiting {address password origin : String} {moment : Moment}
      {p : Program (Except Failure Grant)} (hkey : Lockout.key address origin = key)
      (hp : p = (service.attempt address password origin moment).run) :
    Stage service key [.note .loginRequested] (some p)
  /-- It found its pair locked. -/
  | locked :
    Stage service key [.note .loginRequested, .store (.count key)]
      (some (.done (.error (.refusal .tooManyAttempts))))
  /-- The lockout has let it pass. -/
  | passed {address password : String} {moment : Moment} {p : Program (Except Failure Grant)}
      (hp : p = (service.lookUp address password key moment).run) :
    Stage service key [.note .loginRequested, .store (.count key)] (some p)
  /-- The directory did not answer. -/
  | lost (address : String) (failure : Failure) :
    Stage service key [.note .loginRequested, .store (.count key), .findUser address]
      (some (.done (.error failure)))
  /-- Its user has been looked up. -/
  | found {address password : String} {moment : Moment} {user? : Option User}
      {p : Program (Except Failure Grant)}
      (hp : p = (service.verify password key moment user?).run) :
    Stage service key [.note .loginRequested, .store (.count key), .findUser address] (some p)
  /-- Its password has been checked. -/
  | verified {address password : String} {stored : Option String} {moment : Moment}
      {user? : Option User} {p : Program (Except Failure Grant)}
      (hp : p = (service.settleAttempt key moment user?).run) :
    Stage service key
      [.note .loginRequested, .store (.count key), .findUser address,
        .checkPassword password stored] (some p)
  /-- Its failure has been counted, or the count has been reset for it. -/
  | settled {effects : List Effect} {rest? : Option (Program (Except Failure Grant))}
      (hsettled : .store (.increment key service.lockout.policy.window) ∈ effects ∨
        .store (.delete key) ∈ effects)
      (hrest : ∀ p ∈ rest?, p.Within Effect.IsNote) :
    Stage service key effects rest?

/-- What a login does next that is not at its end: what it has done so far, the effect, and how it
goes on with the reply. -/
inductive Move (service : Service) (key : String) :
    List Effect → (effect : Effect) → (effect.Reply → Program (Except Failure Grant)) → Prop where
  /-- It notes that it was asked for. -/
  | ask {attempt : Attempt} {now : Time}
      (hkey : ∀ address, attempt.address? = .ok address →
        Lockout.key address attempt.origin = key) :
    Move service key [] (.note .loginRequested) fun _ =>
      Program.whenOk (fun address =>
        service.attempt address attempt.password attempt.origin ⟨now, attempt.fresh⟩)
        attempt.address?
  /-- It asks for the lockout. -/
  | count (address password : String) (moment : Moment) :
    Move service key [.note .loginRequested] (.store (.count key)) fun reply =>
      Program.whenOk (fun _ => service.lookUp address password key moment)
        ((service.lockout.pass reply).mapError .refusal)
  /-- It looks its user up. -/
  | find (address password : String) (moment : Moment) :
    Move service key [.note .loginRequested, .store (.count key)] (.findUser address)
      (Program.whenOk (service.verify password key moment))
  /-- It has the password checked. -/
  | check (address password : String) (moment : Moment) (user? : Option User) :
    Move service key [.note .loginRequested, .store (.count key), .findUser address]
      (.checkPassword password (user?.map (·.passwordHash))) fun verified =>
        (service.settleAttempt key moment (user?.filter fun _ => verified)).run
  /-- It counts its failure. -/
  | fail {address password : String} {stored : Option String}
      {next : Except Store.Failure UInt64 → Program (Except Failure Grant)}
      (hrest : ∀ reply, (next reply).Within Effect.IsNote) :
    Move service key [.note .loginRequested, .store (.count key), .findUser address,
      .checkPassword password stored]
      (.store (.increment key service.lockout.policy.window)) next
  /-- It has succeeded and resets the count. -/
  | reset {address password : String} {stored : Option String}
      {next : Except Store.Failure Unit → Program (Except Failure Grant)}
      (hrest : ∀ reply, (next reply).Within Effect.IsNote) :
    Move service key [.note .loginRequested, .store (.count key), .findUser address,
      .checkPassword password stored] (.store (.delete key)) next
  /-- It notes an event at its end. -/
  | note {effects : List Effect} {event : Event} {next : Unit → Program (Except Failure Grant)}
      (hsettled : .store (.increment key service.lockout.policy.window) ∈ effects ∨
        .store (.delete key) ∈ effects)
      (hrest : ∀ reply, (next reply).Within Effect.IsNote) :
    Move service key effects (.note event) next

namespace Stage

variable {effects : List Effect} {effect : Effect}
  {next : effect.Reply → Program (Except Failure Grant)} {site : Site}

/-- Every stage but the last ones has one way to go on. -/
theorem move (h : Stage service key effects (some (.step effect next))) :
    Move service key effects effect next := by
  -- the program of each stage is opened by its equation, which shows the effect it begins with
  cases h with
  | @asked attempt now _ hkey hp =>
    cases hp.trans (service.run_login_eq attempt now)
    exact .ask hkey
  | @waiting address password _ moment _ hkey hp =>
    cases hp.trans (service.run_attempt_eq _ _ _ _)
    subst hkey
    exact .count address password moment
  | @passed address password moment _ hp =>
    cases hp.trans (service.run_lookUp_eq _ _ _ _)
    exact .find address password moment
  | @found address password moment user? _ hp =>
    cases hp.trans (service.run_verify_eq _ _ _ _)
    exact .check address password moment user?
  | @verified _ _ _ moment user? _ hp =>
    cases user? with
    | none =>
      cases hp ▸ service.failLogin_begins key with
      | step hrest => exact .fail hrest
    | some user =>
      cases hp ▸ service.grant_begins key user moment with
      | step hrest => exact .reset hrest
  | settled hsettled hrest =>
    -- only notes are left, so no call to the store can be next
    cases hrest _ rfl with
    | step first rest =>
      cases effect with
      | note event => exact .note hsettled rest
      | _ => exact first.elim

/-- Whatever an effect is replied with, only effects of a kind are left if each way to go on has no
others. -/
theorem rest_within (effect : Effect) {next : effect.Reply → Program (Except Failure Grant)}
    {P : Effect → Prop} (hrest : ∀ reply, (next reply).Within P) (reply? : Option effect.Reply) :
    ∀ p ∈ reply?.map next, p.Within P := by
  intro p hp
  obtain ⟨reply, -, rfl⟩ := Option.map_eq_some_iff.mp hp
  exact hrest reply

/-- How a login goes on that has asked for the count. -/
theorem answered (hup : site.store.available) (address password : String) (moment : Moment) :
    (Site.respond (.store (.count key)) site).1.map (fun reply =>
        Program.whenOk (fun _ => service.lookUp address password key moment)
          ((service.lockout.pass reply).mapError .refusal)) =
      some (if service.lockout.policy.locks (site.store.countAt key site.now) then
        .done (.error (.refusal .tooManyAttempts))
      else (service.lookUp address password key moment).run) := by
  have hreply : (Site.respond (.store (.count key)) site).1 =
      some (.ok (site.store.countAt key site.now)) := by
    rw [Site.respond, Store.Memory.perform_count _ _ hup]
  rw [hreply, Option.map_some, Lockout.pass_ok]
  split <;> rfl

/-- After any effect a login is at a stage again. -/
theorem perform (h : Stage service key effects (some (.step effect next)))
    (hup : site.store.available) :
    Stage service key (effects ++ [effect]) ((Site.respond effect site).1.map next) := by
  cases h.move with
  | @ask attempt now hkey =>
    cases haddress : attempt.address? with
    | error failure => exact .turnedAway failure
    | ok address => exact .waiting (hkey address haddress) rfl
  | count =>
    -- the one place where a login that is well formed can be turned away
    rw [answered hup]
    split
    · exact .locked
    · exact .passed rfl
  | find address =>
    cases hfound : site.directory.find address with
    | error failure =>
      rw [Site.respond, hfound]
      exact .lost address failure
    | ok user? =>
      rw [Site.respond, hfound]
      exact .found rfl
  | check => exact .verified rfl
  | fail hrest => exact .settled (.inl (by simp)) (rest_within _ hrest _)
  | reset hrest => exact .settled (.inr (by simp)) (rest_within _ hrest _)
  | @note _ event _ hsettled hrest =>
    refine .settled ?_ (rest_within (.note event) hrest _)
    exact hsettled.imp (List.mem_append_left _) (List.mem_append_left _)

/-- A login never sets the key, and advances it with its window only. -/
theorem counts (h : Stage service key effects (some (.step effect next))) :
    effect.Counts key service.lockout.policy.window := by
  cases h.move with
  | fail => exact fun _ => rfl
  | _ => trivial

/-- A login that asks for the count has done nothing so far but to note that it was asked for. It is
refused if the count locks. -/
theorem refused {next : Effect.Reply (.store (.count key)) → Program (Except Failure Grant)}
    (h : Stage service key effects (some (.step (.store (.count key)) next)))
    (hup : site.store.available)
    (hlocks : service.lockout.policy.locks (site.store.countAt key site.now)) :
    effects = [.note .loginRequested] ∧ (Site.respond (.store (.count key)) site).1.map next =
      some (.done (.error (.refusal .tooManyAttempts))) := by
  cases h.move with
  | count =>
    refine ⟨rfl, ?_⟩
    rw [answered hup, if_pos hlocks]

/-- A login that is about to do what only a login does that the lockout has let pass has done such a
thing before, or else it has just asked for the count. -/
theorem last_of_gated (h : Stage service key effects (some (.step effect next)))
    (hgated : effect.IsGated) :
    ∃ last ∈ effects.getLast?, last = .store (.count key) ∨ last.IsGated := by
  cases h.move with
  | ask => exact hgated.elim
  | count => exact hgated.elim
  | find => exact ⟨_, rfl, .inl rfl⟩
  | check => exact ⟨_, rfl, .inr trivial⟩
  | fail => exact ⟨_, rfl, .inr trivial⟩
  | reset => exact ⟨_, rfl, .inr trivial⟩
  | note => exact hgated.elim

/-- A login that had its password checked is about to count a failure or to reset the count, or has
done so. -/
theorem settles {rest? : Option (Program (Except Failure Grant))}
    (h : Stage service key effects rest?) (hchecked : ∃ effect ∈ effects, effect.ChecksPassword) :
    (∃ gated ∈ rest?.bind Program.next?, gated.IsGated) ∨
      .store (.increment key service.lockout.policy.window) ∈ effects ∨
        .store (.delete key) ∈ effects := by
  cases h with
  | settled hsettled => exact .inr hsettled
  | @verified _ _ _ moment user? _ hp =>
    left
    -- without a user a failure is counted, and with one the count is reset
    cases user? with
    | none =>
      cases hp ▸ service.failLogin_begins key with
      | step => exact ⟨_, rfl, trivial⟩
    | some user =>
      cases hp ▸ service.grant_begins key user moment with
      | step => exact ⟨_, rfl, trivial⟩
  | _ => simp [Effect.ChecksPassword] at hchecked

end Stage
end Service
end Bearer
