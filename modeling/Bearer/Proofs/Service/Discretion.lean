import Bearer.Proofs.Lockout.Machine
import Bearer.Proofs.Program.Surroundings

/-!
# What a login gives away

A login compares two runs in the same surroundings but for the directory. If one directory does not
know the address and the other knows it with another password, then nobody can tell the two runs
apart, whatever the store answers and wherever it fails. If the pair is locked, neither the
directory nor the password matters at all.

The two runs are the same up to the check of the password, and again after it, since neither check
succeeds. They differ only in what the password is checked against, which no one outside the run
sees: `Run.veiled` leaves it out.

Main statement: `login_discreet`.
-/

namespace Bearer

open Program (Run)

/-- An effect without what a password is checked against. -/
def Effect.veiled : Effect → Effect
  | .checkPassword password _ => .checkPassword password none
  | effect => effect

/-- Whether an effect asks the directory. -/
def Effect.asksDirectory : Effect → Bool
  | .findUser _ => true
  | _ => false

namespace Program.Run

variable {σ α β ε : Type}

/-- Two runs that cannot be told apart: answer and state are the same, and so are the effects in
their order but for what a password is checked against; among them the calls to the store. -/
structure LooksLike (r other : Run σ α) : Prop where
  answer : r.answer? = other.answer?
  state : r.state = other.state
  calls : r.calls = other.calls
  effects : r.effects.map Effect.veiled = other.effects.map Effect.veiled

/-- A run of which it is not told what passwords are checked against. -/
def veiled (r : Run σ α) : Run σ α := { r with effects := r.effects.map Effect.veiled }

/-- A run that goes on is veiled part by part. -/
theorem veiled_andThen (r : Run σ α) (next : α → σ → Run σ β) :
    (r.andThen next).veiled = r.veiled.andThen fun a s => (next a s).veiled := by
  obtain ⟨_ | a, s, effects⟩ := r
  · rfl
  · simp only [veiled, andThen_some, List.map_append]

/-- What goes on after a result is veiled as what it goes on with. -/
theorem veiled_whenOk (next : α → σ → Run σ (Except ε β)) (result : Except ε α) (s : σ) :
    (whenOk next result s).veiled = whenOk (fun a s => (next a s).veiled) result s := by
  cases result <;> rfl

/-- The calls to the store stand in a veiled run as they are. -/
theorem calls_veiled (r : Run σ α) : r.veiled.calls = r.calls := by
  have hcall (effect : Effect) : effect.veiled.call? = effect.call? := by cases effect <;> rfl
  rw [calls, calls, veiled, List.filterMap_map]
  congr 1
  exact funext hcall

/-- Runs that are the same when veiled cannot be told apart. -/
theorem LooksLike.of_veiled {r other : Run σ α} (h : r.veiled = other.veiled) :
    r.LooksLike other := by
  have hcalls : r.veiled.calls = other.veiled.calls := congrArg Run.calls h
  rw [calls_veiled, calls_veiled] at hcalls
  rw [veiled, veiled, Run.mk.injEq] at h
  exact ⟨h.1, h.2.1, hcalls, h.2.2⟩

end Program.Run

namespace Surroundings

variable {σ α : Type} {around : Surroundings σ} {find : String → Except Failure (Option User)}

/-- The directory does not matter to a program that does not ask it. -/
theorem run_withFind (around : Surroundings σ) (find : String → Except Failure (Option User))
    {p : Program α} (hp : p.Within (¬·.asksDirectory)) (standing : Standing σ) :
    { around with find }.run standing p = around.run standing p := by
  refine Program.run_congr (fun effect s hblind => ?_) hp standing
  rcases effect with call | email | _ | _ | _
  · rfl
  · exact absurd rfl hblind
  · rfl
  · rfl
  · rfl

end Surroundings

namespace Service

variable {service : Service} {address password origin : String} {moment : Moment} {σ : Type}
  {around : Surroundings σ}

/-- The login of a well-formed request notes that it is asked for, and then attempts. -/
theorem run_login_in (service : Service) (origin : String) (moment : Moment) {email : String}
    (h : Email.normalize? email = .ok address) (hsome : password ≠ "") (around : Surroundings σ)
    (standing : Standing σ) :
    around.run standing (service.login email password origin moment).run =
      let r := around.run { standing with metrics := standing.metrics.add .loginRequested }
        (service.attempt address password origin moment).run
      ⟨r.answer?, r.state, .note .loginRequested :: r.effects⟩ := by
  rw [login_of_wellFormed h hsome, Surroundings.run_flow_bind, Surroundings.run_lift,
    Surroundings.run_note]
  rfl

/-- An attempt whose password is that of no user the directory knows fails, once the lockout has let
it pass. -/
theorem run_attempt_of_wrong (service : Service) (origin : String) (moment : Moment)
    {user? : Option User} (hfind : around.find address = .ok user?)
    (hwrong : ∀ user ∈ user?, Password.verifyStored password (some user.passwordHash) = false)
    (standing : Standing σ) :
    around.run standing (service.attempt address password origin moment).run =
      (around.run standing
        (refusable (service.lockout.check (Lockout.key address origin))).run).andThen
        (Run.whenOk fun _ s =>
          let r := around.run s (service.failLogin (Lockout.key address origin)).run
          ⟨r.answer?, r.state, .findUser address ::
            .checkPassword password (user?.map (·.passwordHash)) :: r.effects⟩) := by
  rw [attempt, Surroundings.run_flow_bind]
  congr 2
  funext _ s
  rw [Surroundings.run_flow_bind, Surroundings.run_findUser, hfind, Run.andThen_some,
    Run.whenOk_ok, Surroundings.run_flow_bind, Surroundings.run_lift,
    Surroundings.run_checkPassword]
  -- an unknown user and a wrong password lead to the same failure
  cases user? with
  | none => rfl
  | some user =>
    have hverified := hwrong user rfl
    simp only [Option.map_some, hverified]
    rfl

/-- The lockout asks for the count of a key, and lets it pass or not on that. -/
theorem run_check_in (lockout : Lockout) (key : String) (around : Surroundings σ)
    (standing : Standing σ) :
    around.run standing (refusable (lockout.check key)).run =
      ⟨((around.answer (.count key) standing.store).1.map lockout.pass).map
          (Except.mapError .refusal),
        { standing with store := (around.answer (.count key) standing.store).2 },
        [.store (.count key)]⟩ := by
  rw [refusable, widen, Surroundings.run_adapt, Lockout.check_eq, Surroundings.run_map,
    Surroundings.run_call]
  rfl

/-- An attempt that the lockout does not let pass ends there. -/
theorem run_attempt_of_refused (service : Service) (around : Surroundings σ) (password : String)
    (moment : Moment) (standing : Standing σ) {reply : Except Store.Failure UInt64} {store : σ}
    {refusal : Refusal}
    (hcount : around.answer (.count (Lockout.key address origin)) standing.store =
      (some reply, store)) (hpass : service.lockout.pass reply = .error refusal) :
    around.run standing (service.attempt address password origin moment).run =
      ⟨some (.error (.refusal refusal)), { standing with store },
        [.store (.count (Lockout.key address origin))]⟩ := by
  rw [attempt, Surroundings.run_flow_bind, run_check_in, hcount, Option.map_some, hpass]
  rfl

/-- A pair that is locked is refused on the strength of its count alone. -/
theorem run_attempt_of_locks (service : Service) (around : Surroundings σ) (password : String)
    (moment : Moment) (standing : Standing σ) {count : UInt64} {store : σ}
    (hcount : around.answer (.count (Lockout.key address origin)) standing.store =
      (some (.ok count), store)) (hlocks : service.lockout.policy.locks count) :
    around.run standing (service.attempt address password origin moment).run =
      ⟨some (.error (.refusal .tooManyAttempts)), { standing with store },
        [.store (.count (Lockout.key address origin))]⟩ := by
  refine service.run_attempt_of_refused around password moment standing hcount ?_
  rw [Lockout.pass_ok, if_pos hlocks]

/-- With two directories of which neither knows a user with the password, the runs of an attempt
differ at the most in what the password is checked against. -/
theorem veiled_run_attempt (service : Service) (origin : String) (moment : Moment)
    (answer : (call : Store.Call) → σ → Option (Except Store.Failure call.Reply) × σ)
    {find other : String → Except Failure (Option User)} {user? other? : Option User}
    (hfind : find address = .ok user?) (hother : other address = .ok other?)
    (hwrong : ∀ user ∈ user?, Password.verifyStored password (some user.passwordHash) = false)
    (hwrong' : ∀ user ∈ other?, Password.verifyStored password (some user.passwordHash) = false)
    (standing : Standing σ) :
    ((Surroundings.mk answer find).run standing
        (service.attempt address password origin moment).run).veiled =
      ((Surroundings.mk answer other).run standing
        (service.attempt address password origin moment).run).veiled := by
  -- neither the lockout nor what follows a failure asks the directory
  have hblind {α : Type} {p : Program α} (hp : p.Within (¬·.asksDirectory)) (s : Standing σ) :
      (Surroundings.mk answer other).run s p = (Surroundings.mk answer find).run s p :=
    Surroundings.run_withFind ⟨answer, find⟩ other hp s
  have hcheck : (refusable (service.lockout.check (Lockout.key address origin))).run.Within
      (¬·.asksDirectory) :=
    Program.Within.adapt _ (Lockout.check_within nofun)
  have hfail : (service.failLogin (Lockout.key address origin)).run.Within (¬·.asksDirectory) := by
    refine (service.failLogin_begins _).within nofun fun effect hnote => ?_
    cases effect with
    | note event => nofun
    | _ => exact hnote.elim
  rw [run_attempt_of_wrong service origin moment hfind hwrong,
    run_attempt_of_wrong service origin moment hother hwrong', Run.veiled_andThen,
    Run.veiled_andThen, hblind hcheck]
  congr 1
  funext result s
  rw [Run.veiled_whenOk, Run.veiled_whenOk]
  congr 1
  funext _ s
  simp only [hblind hfail]
  rfl

end Service

namespace Request

variable {service : Service} {σ : Type}

/-- What a well-formed login comes to is worded from what its attempt comes to. -/
theorem run_program_of_login? {request : Request} {attempt : Attempt} {address : String}
    (hlogin : request.login? service = some attempt) (haddress : attempt.address? = .ok address)
    (around : Surroundings σ) (now : Time) (standing : Standing σ) :
    around.run standing (request.program service now) =
      let r := (around.run { standing with metrics := standing.metrics.add .loginRequested }
        (service.attempt address attempt.password attempt.origin ⟨now, attempt.fresh⟩).run).map
          (request.reportLogin service)
      ⟨r.answer?, r.state, .note .loginRequested :: r.effects⟩ := by
  obtain ⟨hemail, hsome⟩ := Attempt.address?_eq_ok haddress
  rw [program_of_login? hlogin, Surroundings.run_map,
    service.run_login_in attempt.origin ⟨now, attempt.fresh⟩ hemail hsome]
  rfl

/-- A login does not give away whether there is a user with its address: where one directory knows
none and another knows one with some other password, over every interface the answers, the calls to
the store, its state and the counters are the same, whatever the store answers and wherever it
fails. While the pair is locked it gives nothing away at all: then they are the same for all
passwords and all directories. -/
theorem login_discreet (service : Service) (now : Time) {request : Request} {attempt : Attempt}
    {address : String} (hlogin : request.login? service = some attempt)
    (haddress : attempt.address? = .ok address)
    (answer : (call : Store.Call) → σ → Option (Except Store.Failure call.Reply) × σ)
    (standing : Standing σ) :
    (∀ unknown known : String → Except Failure (Option User), ∀ user,
      unknown address = .ok none → known address = .ok (some user) →
      Password.verifyStored attempt.password (some user.passwordHash) = false →
      ((Surroundings.mk answer unknown).run standing (request.program service now)).LooksLike
        ((Surroundings.mk answer known).run standing (request.program service now))) ∧
    ∀ count store,
      answer (.count (Lockout.key address attempt.origin)) standing.store =
        (some (.ok count), store) →
      service.lockout.policy.locks count →
      ∀ (find find' : String → Except Failure (Option User)) (other : Request) (guess : Attempt),
        other.login? service = some guess → guess.address? = .ok address →
        guess.origin = attempt.origin → other.reportLogin service = request.reportLogin service →
        (Surroundings.mk answer find').run standing (other.program service now) =
          (Surroundings.mk answer find).run standing (request.program service now) := by
  constructor
  · intro unknown known user hunknown hknown hwrong
    have hall : ∀ found ∈ some user,
        Password.verifyStored attempt.password (some found.passwordHash) = false := by
      intro found hfound
      rw [← Option.mem_some.mp hfound]
      exact hwrong
    have hveiled := service.veiled_run_attempt attempt.origin ⟨now, attempt.fresh⟩ answer hunknown
      hknown nofun hall { standing with metrics := standing.metrics.add .loginRequested }
    apply Run.LooksLike.of_veiled
    rw [run_program_of_login? hlogin haddress, run_program_of_login? hlogin haddress]
    rw [Run.veiled, Run.veiled, Run.mk.injEq] at hveiled
    simp only [Run.veiled, Run.map, List.map_cons, hveiled]
  · intro count store hcount hlocks find find' other guess hother hguess horigin hword
    -- the refusal of a locked pair mentions neither a password nor a directory
    have hrefused (find : String → Except Failure (Option User)) (password : String)
        (fresh : Uuid) :=
      service.run_attempt_of_locks ⟨answer, find⟩ password ⟨now, fresh⟩
        { standing with metrics := standing.metrics.add .loginRequested } hcount hlocks
    rw [run_program_of_login? hlogin haddress, run_program_of_login? hother hguess, hword, horigin,
      hrefused, hrefused]

/-- A store in which a counter can be read and nothing can be written. -/
def readOnlyStore : (call : Store.Call) → UInt64 → Option (Except Store.Failure call.Reply) × UInt64
  | .count _, n => (some (.ok n), n)
  | .contains _, n => (some (.ok false), n)
  | .set .., n | .increment .., n | .delete _, n => (some (.error (.unavailable "read only")), n)

/-- A user whose stored hash is no hash. -/
def unverifiableUser : User := ⟨⟨[]⟩, "a@b", .admin, "not a hash"⟩

/-- A guess is refused alike whether or not its user is known, also when the failure cannot be
counted; and once the pair is locked, whatever the password and the directory. -/
theorem login_discreet_sample :
    ((Surroundings.mk readOnlyStore fun _ => .ok none).run ⟨0, Metrics.zero⟩
        (Lockout.Machine.sampleGuess.program Service.sample (.ofSeconds 0))).LooksLike
      ((Surroundings.mk readOnlyStore fun _ => .ok (some unverifiableUser)).run ⟨0, Metrics.zero⟩
        (Lockout.Machine.sampleGuess.program Service.sample (.ofSeconds 0))) ∧
    (Surroundings.mk readOnlyStore fun _ => .ok (some unverifiableUser)).run ⟨5, Metrics.zero⟩
        ((Request.rpcLogin ⟨[], none⟩ "a@b" "other guess" ⟨[1]⟩).program Service.sample
          (.ofSeconds 0)) =
      (Surroundings.mk readOnlyStore fun _ => .ok none).run ⟨5, Metrics.zero⟩
        (Lockout.Machine.sampleGuess.program Service.sample (.ofSeconds 0)) := by
  have hlogin : Lockout.Machine.sampleGuess.login? Service.sample =
      some ⟨"a@b", "guess", "unknown", ⟨[]⟩⟩ := rfl
  constructor
  · obtain ⟨hunknown, -⟩ := login_discreet Service.sample (.ofSeconds 0) hlogin rfl readOnlyStore
      ⟨0, Metrics.zero⟩
    exact hunknown _ _ unverifiableUser rfl rfl (by decide)
  · obtain ⟨-, hlocked⟩ := login_discreet Service.sample (.ofSeconds 0) hlogin rfl readOnlyStore
      ⟨5, Metrics.zero⟩
    exact hlocked 5 5 rfl (by decide) _ _ _ ⟨"a@b", "other guess", "unknown", ⟨[1]⟩⟩ rfl rfl rfl rfl

end Request
end Bearer
