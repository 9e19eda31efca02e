import Bearer.Proofs.Lockout.Overlap
import Bearer.Proofs.Service.Discretion

/-!
# Logins during an outage

While the store does not answer, the policy for outages decides. Either every login is refused
before anything is looked up; or every login is let pass, and then it ends as it would for a pair
without failures, whether or not the pair was locked before.

How a login ends that is let pass does not depend on why it is. So a store that fails and one that
shows nothing under the key are two cases of one condition, `LetsPass`, under which an attempt ends
as `judge` says.

An outage leaves the store as it was. A pair that is locked stays so until its deadline, through
any number of outages and whatever else happens: `live?_step_of_locked` says so of one occurrence,
and `IsLockedBy.after` of a history.

Main statements: `answer?_attempt_of_letsPass`, `IsLockedBy.after` and `login_during_outage`.
-/

namespace Bearer

open Program (Run)

/-- A run ends with a refusal and has looked nothing up. -/
structure Program.Run.Refuses {σ α : Type} (r : Run σ (Except Failure α)) (refusal : Refusal) :
    Prop where
  answer : r.answer? = some (.error (.refusal refusal))
  quiet : ∀ effect ∈ r.effects, ¬effect.LooksUp

namespace Surroundings

variable {σ : Type}

/-- The state of the store after a call. -/
def stateAfter (around : Surroundings σ) (call : Store.Call) (state : σ) : σ :=
  (around.answer call state).2

/-- In a state of the store the lockout lets a key pass, and no failure of the store stands in the
way of what the attempt comes to then. The store may abort the counting of a failure. -/
structure LetsPass (around : Surroundings σ) (lockout : Lockout) (key : String) (state : σ) :
    Prop where
  count : (around.answer (.count key) state).1.map lockout.pass = some (.ok ())
  forget : (around.answer (.delete key) (around.stateAfter (.count key) state)).1.map
    (lockout.settle ()) = some (.ok ())
  add : ∀ refusal, (around.answer (.increment key lockout.policy.window)
    (around.stateAfter (.count key) state)).1.map (lockout.settle (0 : UInt64)) ≠
      some (.error refusal)

end Surroundings

namespace Service

variable {service : Service} {address password origin key : String} {moment : Moment} {σ : Type}
  {around : Surroundings σ} {standing : Standing σ}

/-! ## How a login ends that is let pass -/

/-- What an attempt comes to for the user whom it stands for: a token is issued, if the lifetime of
tokens allows it. An attempt that stands for nobody is refused. -/
def award (service : Service) (moment : Moment) : Option User → Except Failure Grant
  | some user =>
    ((Token.issue service.secret user.id.text user.role service.lifetime moment.now
      moment.fresh.text).mapError .refusal).map fun issued => ⟨issued, user.id, user.role⟩
  | none => .error (.refusal .invalidCredentials)

/-- How an attempt ends on the strength of its password alone, given how the directory answers: it
fails if the directory does; otherwise it stands for the user who is found, if the password is that
user's. -/
def judge (service : Service) (found : Except Failure (Option User)) (password : String)
    (moment : Moment) : Except Failure Grant := do
  let user? ← found
  service.award moment (user?.filter fun user =>
    Password.verifyStored password (some user.passwordHash))

/-- The right password is rewarded with a token, as long as the calendar and the settings allow
one. -/
theorem judge_of_right (service : Service) (moment : Moment) {user : User}
    (hverified : Password.verifyStored password (some user.passwordHash))
    (hcal : moment.now.InCalendar) (hpositive : 1 ≤ service.lifetime.seconds)
    (hbounded : service.lifetime.seconds ≤ Settings.maxLifetime) :
    ∃ issued, service.judge (.ok (some user)) password moment =
      .ok ⟨issued, user.id, user.role⟩ := by
  obtain ⟨issued, hissue⟩ := Token.issue_eq_ok service.secret user.id.text user.role
    moment.fresh.text hcal hpositive hbounded
  refine ⟨issued, ?_⟩
  change service.award moment (Option.filter _ (some user)) = _
  rw [Option.filter_some, if_pos hverified, award, hissue]
  rfl

/-- To ask the store settles the answer of the surroundings, and leaves the store that they leave.
-/
theorem run_ask_in (lockout : Lockout) (call : Store.Call) (fallback : call.Reply) :
    around.run standing (refusable (lockout.ask call fallback)).run =
      ⟨((around.answer call standing.store).1.map (lockout.settle fallback)).map
          (Except.mapError .refusal),
        { standing with store := around.stateAfter call standing.store }, [.store call]⟩ := by
  rw [refusable, widen, Surroundings.run_adapt, Lockout.ask_eq, Surroundings.run_map,
    Surroundings.run_call]
  rfl

/-- What is granted if the failures can be forgotten. -/
theorem answer?_grant (user : User)
    (hforget : (around.answer (.delete key) standing.store).1.map (service.lockout.settle ()) =
      some (.ok ())) :
    (around.run standing (service.grant key user moment).run).answer? =
      some (service.award moment (some user)) := by
  rw [grant, Surroundings.run_flow_bind, Lockout.reset, run_ask_in, hforget, award]
  cases Token.issue service.secret user.id.text user.role service.lifetime moment.now
    moment.fresh.text <;> rfl

/-- A failed login is refused, unless the store aborts the counting. -/
theorem answer?_failLogin
    (hadd : ∀ refusal, (around.answer (.increment key service.lockout.policy.window)
      standing.store).1.map (service.lockout.settle (0 : UInt64)) ≠ some (.error refusal)) :
    (around.run standing (service.failLogin key).run).answer? =
      (around.answer (.increment key service.lockout.policy.window) standing.store).1.map
        fun _ => .error (.refusal .invalidCredentials) := by
  rw [failLogin, Surroundings.run_flow_bind, Lockout.recordFailure, run_ask_in]
  cases hreply : (around.answer (.increment key service.lockout.policy.window)
    standing.store).1 with
  | none => rfl
  | some reply =>
    rw [hreply] at hadd
    cases hsettle : service.lockout.settle (0 : UInt64) reply with
    | error refusal => exact absurd (congrArg some hsettle) (hadd refusal)
    | ok count =>
      -- the failure that reaches the limit is noted twice
      simp only [Option.map_some, hsettle, Except.mapError, Run.andThen_some, Run.whenOk_ok]
      by_cases hlock : count = service.lockout.policy.maxAttempts
      · simp only [if_pos hlock]
        rfl
      · simp only [if_neg hlock]
        rfl

/-- What an attempt comes to for the user whom it stands for, unless the store aborts the counting
of a failure. -/
theorem answer?_settleAttempt (service : Service) (moment : Moment) (user? : Option User)
    (around : Surroundings σ) (standing : Standing σ)
    (hforget : (around.answer (.delete key) standing.store).1.map (service.lockout.settle ()) =
      some (.ok ()))
    (hadd : ∀ refusal, (around.answer (.increment key service.lockout.policy.window)
      standing.store).1.map (service.lockout.settle (0 : UInt64)) ≠ some (.error refusal)) :
    let answer? := (around.run standing (service.settleAttempt key moment user?).run).answer?
    answer? = some (service.award moment user?) ∨
      user? = none ∧ answer? = none ∧
        (around.answer (.increment key service.lockout.policy.window) standing.store).1 = none := by
  intro answer?
  cases user? with
  | some user => exact .inl (answer?_grant user hforget)
  | none =>
    have hanswer : answer? = _ := answer?_failLogin hadd
    cases hreply : (around.answer (.increment key service.lockout.policy.window)
      standing.store).1 with
    | none =>
      rw [hreply] at hanswer
      exact .inr ⟨rfl, hanswer, rfl⟩
    | some reply =>
      rw [hreply] at hanswer
      exact .inl hanswer

/-- A directory that fails is all that an attempt comes to. -/
theorem answer?_lookUp_of_error {failure : Failure} (hfind : around.find address = .error failure) :
    (around.run standing (service.lookUp address password key moment).run).answer? =
      some (.error failure) := by
  rw [lookUp, Surroundings.run_flow_bind, Surroundings.run_findUser, hfind]
  rfl

/-- An attempt stands for the user who is found, if the password is that user's. -/
theorem answer?_lookUp_of_ok {user? : Option User} (hfind : around.find address = .ok user?) :
    (around.run standing (service.lookUp address password key moment).run).answer? =
      (around.run standing (service.settleAttempt key moment (user?.filter fun user =>
        Password.verifyStored password (some user.passwordHash))).run).answer? := by
  rw [lookUp, Surroundings.run_flow_bind, Surroundings.run_findUser, hfind, Run.andThen_some,
    Run.whenOk_ok, verify, Surroundings.run_flow_bind, Surroundings.run_lift,
    Surroundings.run_checkPassword]
  -- a password is checked for an unknown user too, and does not decide
  cases user? <;> rfl

/-- An attempt whose key is let pass ends as the directory and the password have it. Only the store
can keep it from that, by aborting the counting of a failure. -/
theorem answer?_attempt_of_letsPass (password : String) (moment : Moment)
    (h : around.LetsPass service.lockout (Lockout.key address origin) standing.store) :
    let answer? :=
      (around.run standing (service.attempt address password origin moment).run).answer?
    answer? = some (service.judge (around.find address) password moment) ∨
      service.judge (around.find address) password moment =
          .error (.refusal .invalidCredentials) ∧
        answer? = none ∧
        (around.answer (.increment (Lockout.key address origin) service.lockout.policy.window)
          (around.stateAfter (.count (Lockout.key address origin)) standing.store)).1 = none := by
  intro answer?
  let asked : Standing σ := { standing with
    store := around.stateAfter (.count (Lockout.key address origin)) standing.store }
  have hpassed : answer? = (around.run asked
      (service.lookUp address password (Lockout.key address origin) moment).run).answer? := by
    change (around.run standing (service.attempt address password origin moment).run).answer? = _
    rw [attempt_eq, Surroundings.run_flow_bind, run_check_in, h.count]
    rfl
  cases hfind : around.find address with
  | error failure => exact .inl (hpassed.trans (answer?_lookUp_of_error hfind))
  | ok user? =>
    rw [hpassed, answer?_lookUp_of_ok hfind]
    rcases service.answer?_settleAttempt moment (user?.filter fun user =>
        Password.verifyStored password (some user.passwordHash)) around asked h.forget h.add with
      hanswer | ⟨hnobody, hnone, haborted⟩
    · exact .inl hanswer
    · refine .inr ⟨?_, hnone, haborted⟩
      change service.award moment _ = _
      rw [hnobody]
      rfl

end Service

/-! ## A store in memory -/

namespace Surroundings

/-- A store in memory at a moment, and any directory of users. -/
def ofMemory (now : Time) (find : String → Except Failure (Option User)) :
    Surroundings Store.Memory where
  answer call store := store.perform now call
  find

variable {now : Time} {find : String → Except Failure (Option User)} {lockout : Lockout}
  {key : String} {store : Store.Memory}

/-- Surroundings with a table answer as the table does. -/
theorem answer_ofMemory (now : Time) (find : String → Except Failure (Option User))
    (call : Store.Call) (store : Store.Memory) :
    (ofMemory now find).answer call store = store.perform now call := rfl

/-- A table that does not answer gives its outage for an answer. -/
theorem answer_of_outage (hdown : store.available = false) (call : Store.Call) :
    (ofMemory now find).answer call store = (some (.error Store.Memory.outage), store) :=
  Store.Memory.perform_of_outage now hdown call

/-- A table that does not answer stays as it is. -/
theorem stateAfter_of_outage (hdown : store.available = false) (call : Store.Call) :
    (ofMemory now find).stateAfter call store = store :=
  congrArg Prod.snd (answer_of_outage hdown call)

/-- While the store does not answer, no program changes it. -/
theorem store_run_of_outage {α : Type} {standing : Standing Store.Memory}
    (hdown : standing.store.available = false) (p : Program α) :
    ((ofMemory now find).run standing p).state.store = standing.store := by
  refine Program.run_invariant (P := fun _ => True)
    (I := fun s : Standing Store.Memory => s.store = standing.store) (fun effect s _ hs => ?_)
    (Program.Within.of_forall (fun _ => trivial) p) rfl
  cases effect with
  | store call =>
    have hkept : (ofMemory now find).stateAfter call s.store = s.store :=
      stateAfter_of_outage (hs ▸ hdown) call
    exact hkept.trans hs
  | _ => exact hs

/-- During an outage every key is let pass, if that is the policy. -/
theorem letsPass_of_outage (hpolicy : lockout.onOutage = .failOpen)
    (hdown : store.available = false) : (ofMemory now find).LetsPass lockout key store := by
  have hsettle {α : Type} (fallback : α) :
      lockout.settle fallback (.error Store.Memory.outage) = .ok fallback := by
    rw [Lockout.settle, hpolicy]
  refine ⟨?_, ?_, fun refusal hrefused => ?_⟩
  · rw [answer_of_outage hdown, Option.map_some, Lockout.pass, hsettle]
    exact congrArg some (if_neg lockout.policy.not_locks_zero)
  · rw [stateAfter_of_outage hdown, answer_of_outage hdown, Option.map_some, hsettle]
  · rw [stateAfter_of_outage hdown, answer_of_outage hdown, Option.map_some, hsettle] at hrefused
    cases hrefused

/-- To ask for a count evicts the key and changes nothing else. -/
theorem stateAfter_count (hup : store.available) :
    (ofMemory now find).stateAfter (.count key) store = store.evict key now :=
  congrArg Prod.snd (Store.Memory.perform_count key now hup)

/-- The first failure is counted, unless its window runs past the clock of deadlines. -/
theorem answer_increment_of_clean (hup : store.available) (hclean : store.live? key now = none)
    (window : Duration) :
    ((ofMemory now find).answer (.increment key window)
      ((ofMemory now find).stateAfter (.count key) store)).1 =
        (now.after? window).map fun _ => .ok 1 := by
  have hup' : (store.evict key now).available := by
    rw [Store.Memory.available_evict]
    exact hup
  have hclean' : (store.evict key now).live? key now = none := by
    rw [Store.Memory.live?_evict store key key (Time.le_refl now), hclean]
  rw [stateAfter_count hup, answer_ofMemory, Store.Memory.perform_increment key now hup',
    Store.Memory.increment_absent key now hclean']

/-- A key under which nothing is shown is let pass, whatever the policy. -/
theorem letsPass_of_clean (lockout : Lockout) (hup : store.available)
    (hclean : store.live? key now = none) : (ofMemory now find).LetsPass lockout key store := by
  refine ⟨?_, ?_, fun refusal hrefused => ?_⟩
  · have hzero : store.countAt key now = 0 := by
      rw [Store.Memory.countAt, hclean]
      rfl
    rw [answer_ofMemory, Store.Memory.perform_count key now hup, hzero, Option.map_some,
      Lockout.pass_ok, if_neg lockout.policy.not_locks_zero]
  · have hup' : (store.evict key now).available := by
      rw [Store.Memory.available_evict]
      exact hup
    rw [stateAfter_count hup, answer_ofMemory, Store.Memory.perform_delete key now hup']
    rfl
  · -- the failure is counted as the first one, and so is not refused
    rw [answer_increment_of_clean hup hclean, Option.map_map] at hrefused
    obtain ⟨_, -, hcounted⟩ := Option.map_eq_some_iff.mp hrefused
    cases hcounted

end Surroundings

namespace Service

variable {service : Service} {attempt : Attempt} {address : String} {now : Time}
  {find : String → Except Failure (Option User)} {standing : Standing Store.Memory}

/-- The run of a login at a moment, against a store in memory and any directory of users. -/
def loginIn (service : Service) (find : String → Except Failure (Option User)) (now : Time)
    (standing : Standing Store.Memory) (attempt : Attempt) :
    Run (Standing Store.Memory) (Except Failure Grant) :=
  (Surroundings.ofMemory now find).run standing
    (service.login attempt.email attempt.password attempt.origin ⟨now, attempt.fresh⟩).run

/-- A login that the lockout does not let pass is refused, and looks nothing up. -/
theorem loginIn_refuses {reply : Except Store.Failure UInt64} {store : Store.Memory}
    {refusal : Refusal} (haddress : attempt.address? = .ok address)
    (hcount : standing.store.perform now (.count (Lockout.key address attempt.origin)) =
      (some reply, store)) (hpass : service.lockout.pass reply = .error refusal) :
    (service.loginIn find now standing attempt).Refuses refusal := by
  obtain ⟨hemail, hsome⟩ := Attempt.address?_eq_ok haddress
  have hattempt := service.run_attempt_of_refused (Surroundings.ofMemory now find) attempt.password
    ⟨now, attempt.fresh⟩ { standing with metrics := standing.metrics.add .loginRequested } hcount
    hpass
  rw [loginIn, run_login_in service attempt.origin ⟨now, attempt.fresh⟩ hemail hsome]
  simp only [hattempt]
  refine ⟨rfl, fun effect heffect => ?_⟩
  rw [List.mem_cons, List.mem_singleton] at heffect
  rcases heffect with rfl | rfl <;> exact id

/-- A login that is let pass ends as the directory and the password have it. -/
theorem answer?_loginIn_of_letsPass (haddress : attempt.address? = .ok address)
    (h : (Surroundings.ofMemory now find).LetsPass service.lockout
      (Lockout.key address attempt.origin) standing.store) :
    let answer? := (service.loginIn find now standing attempt).answer?
    answer? = some (service.judge (find address) attempt.password ⟨now, attempt.fresh⟩) ∨
      service.judge (find address) attempt.password ⟨now, attempt.fresh⟩ =
          .error (.refusal .invalidCredentials) ∧
        answer? = none ∧
        ((Surroundings.ofMemory now find).answer
          (.increment (Lockout.key address attempt.origin) service.lockout.policy.window)
          ((Surroundings.ofMemory now find).stateAfter
            (.count (Lockout.key address attempt.origin)) standing.store)).1 = none := by
  obtain ⟨hemail, hsome⟩ := Attempt.address?_eq_ok haddress
  rw [loginIn, run_login_in service attempt.origin ⟨now, attempt.fresh⟩ hemail hsome]
  exact answer?_attempt_of_letsPass attempt.password ⟨now, attempt.fresh⟩ h

/-- During an outage that refuses requests a login is refused because of the store. -/
theorem loginIn_refuses_of_outage (haddress : attempt.address? = .ok address)
    (hpolicy : service.lockout.onOutage = .failClosed) (hdown : standing.store.available = false) :
    (service.loginIn find now standing attempt).Refuses
      (.storeUnavailable Store.Memory.outage.message) := by
  refine loginIn_refuses haddress (Store.Memory.perform_of_outage now hdown _) ?_
  rw [Lockout.pass, Lockout.settle, hpolicy]
  rfl

/-- During an outage that lets requests through a login ends as the directory and the password have
it, whatever was counted before. -/
theorem answer?_loginIn_of_outage (haddress : attempt.address? = .ok address)
    (hpolicy : service.lockout.onOutage = .failOpen) (hdown : standing.store.available = false) :
    (service.loginIn find now standing attempt).answer? =
      some (service.judge (find address) attempt.password ⟨now, attempt.fresh⟩) := by
  rcases answer?_loginIn_of_letsPass haddress (Surroundings.letsPass_of_outage hpolicy hdown) with
    hanswer | ⟨-, -, haborted⟩
  · exact hanswer
  · -- a store that fails does not abort
    rw [Surroundings.stateAfter_of_outage hdown, Surroundings.answer_of_outage hdown] at haborted
    cases haborted

/-- While the store answers, a login of a pair without failures ends in the same way, unless it is
aborted since the window of the failure would run past the clock of deadlines. -/
theorem answer?_loginIn_of_clean (haddress : attempt.address? = .ok address)
    (hup : standing.store.available)
    (hclean : standing.store.live? (Lockout.key address attempt.origin) now = none) :
    let answer? := (service.loginIn find now standing attempt).answer?
    answer? = some (service.judge (find address) attempt.password ⟨now, attempt.fresh⟩) ∨
      answer? = none ∧ now.after? service.lockout.policy.window = none ∧
        service.judge (find address) attempt.password ⟨now, attempt.fresh⟩ =
          .error (.refusal .invalidCredentials) := by
  rcases answer?_loginIn_of_letsPass haddress
      (Surroundings.letsPass_of_clean service.lockout hup hclean) with
    hanswer | ⟨hwrong, hnone, haborted⟩
  · exact .inl hanswer
  · rw [Surroundings.answer_increment_of_clean hup hclean, Option.map_eq_none_iff] at haborted
    exact .inr ⟨hnone, haborted, hwrong⟩

end Service

/-! ## Histories with outages -/

namespace Site

variable {service : Service} {site : Site} {identity origin : String} {entry : Store.Entry}

/-- Until the store is switched on, nothing changes it. -/
theorem store_step_of_outage (hdown : site.store.available = false) {occurrence : Occurrence}
    (hoff : occurrence ≠ .switch true) : (site.step service occurrence).store = site.store := by
  cases occurrence with
  | request request => exact store_run_of_outage hdown _
  | switch available =>
    cases available with
    | true => exact absurd rfl hoff
    | false => rw [step, ← hdown]
  | _ => rfl

/-- Until it is switched on again, a store that does not answer stays as it is. -/
theorem store_after_of_outage {occurrences : List Occurrence}
    (hdown : site.store.available = false)
    (hoff : ∀ occurrence ∈ occurrences, occurrence ≠ .switch true) :
    (site.after service occurrences).store = site.store := by
  induction occurrences generalizing site with
  | nil => rfl
  | cons occurrence rest ih =>
    have hstep : (site.step service occurrence).store = site.store :=
      store_step_of_outage hdown (hoff occurrence List.mem_cons_self)
    rw [after_cons, ih (hstep ▸ hdown) fun other h => hoff other (List.mem_cons_of_mem _ h), hstep]

/-- When an outage is over, the store is the one that it was before. -/
theorem store_after_outage {occurrences : List Occurrence} (hup : site.store.available)
    (hoff : ∀ occurrence ∈ occurrences, occurrence ≠ .switch true) :
    (site.after service (.switch false :: occurrences ++ [.switch true])).store = site.store := by
  -- all that differs meanwhile is that the store does not answer
  have hduring : ((site.step service (.switch false)).after service occurrences).store =
      { site.store with available := false } :=
    store_after_of_outage rfl hoff
  rw [List.cons_append, after_cons, after, List.foldl_append]
  change { (((site.step service (.switch false)).after service occurrences).store) with
    available := true } = site.store
  rw [hduring, ← hup]

/-- An entry locks a key at the time of a site. -/
structure IsLockedBy (service : Service) (site : Site) (key : String) (entry : Store.Entry) :
    Prop where
  shown : site.store.live? key site.now = some entry
  /-- The number that it keeps reaches the limit. -/
  locks : ∃ count, Store.Memory.counter? entry.value = some count ∧
    service.lockout.policy.locks count

/-- The count that an entry shows is one that locks its key. -/
theorem IsLockedBy.countAt {key : String} (h : site.IsLockedBy service key entry) :
    service.lockout.policy.locks (site.store.countAt key site.now) := by
  obtain ⟨count, hcount, hlocks⟩ := h.locks
  rw [Store.Memory.countAt, h.shown, Option.bind_some, hcount]
  exact hlocks

/-- A login of a pair that is locked changes nothing that is shown. -/
theorem live?_login_of_locked {attempt : Attempt} {address : String}
    (hemail : Email.normalize? attempt.email = .ok address)
    (hlocks : service.lockout.policy.locks
      (site.store.countAt (Lockout.key address attempt.origin) site.now)) (key : String)
    {later : Time} (hle : site.now ≤ later) :
    (site.run (service.login attempt.email attempt.password attempt.origin
      ⟨site.now, attempt.fresh⟩).run).state.store.live? key later =
        site.store.live? key later := by
  by_cases hup : site.store.available
  · by_cases hnone : attempt.password = ""
    · rw [Service.run_login_of_noPassword hemail hnone]
      rfl
    · have hattempt : (site.noted .loginRequested).run
          (service.attempt address attempt.password attempt.origin
            ⟨site.now, attempt.fresh⟩).run = _ :=
        Service.run_attempt_of_locked hup hlocks
      rw [Service.run_login_of_wellFormed hemail hnone, hattempt]
      exact Store.Memory.live?_evict _ _ _ hle
  · -- during an outage it is not asked whether the pair is locked, but nothing is written either
    rw [store_run_of_outage (by simpa using hup)]

/-- Nothing that happens changes what is shown under the key of a pair that is locked. -/
theorem live?_step_of_locked (occurrence : Occurrence)
    (hlocks : service.lockout.policy.locks
      (site.store.countAt (Lockout.key identity origin) site.now))
    {later : Time} (hle : (site.step service occurrence).now ≤ later) :
    (site.step service occurrence).store.live? (Lockout.key identity origin) later =
      site.store.live? (Lockout.key identity origin) later := by
  cases occurrence with
  | request request =>
    have hnow : site.now ≤ later := by rwa [now_step_request] at hle
    -- only a login of the very pair could touch its key, and it is refused
    by_cases hown : ∃ attempt address, request.login? service = some attempt ∧
        Email.normalize? attempt.email = .ok address ∧
          Lockout.key identity origin = Lockout.key address attempt.origin
    · obtain ⟨attempt, address, hlogin, hemail, hkey⟩ := hown
      rw [hkey] at hlocks
      rw [step, Request.handle_of_login? hlogin]
      exact live?_login_of_locked hemail hlocks _ hnow
    · refine live?_step (leaves_of_other ?_) hle
      rintro attempt address hlogin hemail hkey
      exact hown ⟨attempt, address, hlogin, hemail, hkey⟩
  | _ => rfl

/-- A pair that is locked stays locked by its entry for as long as that lives, whatever happens. -/
theorem IsLockedBy.after (h : site.IsLockedBy service (Lockout.key identity origin) entry)
    (occurrences : List Occurrence) (hlive : entry.isLive (site.after service occurrences).now) :
    (site.after service occurrences).IsLockedBy service (Lockout.key identity origin) entry := by
  induction occurrences generalizing site with
  | nil => exact h
  | cons occurrence rest ih =>
    refine ih ⟨?_, h.locks⟩ hlive
    -- what lives at the end has lived at each moment before it
    have hnow : entry.isLive (site.step service occurrence).now :=
      Store.Entry.isLive_of_le (now_le_after rest) hlive
    rw [live?_step_of_locked occurrence h.countAt (Time.le_refl _),
      Store.Memory.live?_of_le _ _ (now_le_step occurrence), h.shown, Option.filter_some,
      if_pos hnow]

end Site

/-- A login during an outage is decided by the policy. If requests are refused then, it is refused
because of the store, whatever the password, and nothing is looked up. If they are let through, it
ends as the directory and the password have it, with a token for the right password as far as the
settings allow one. That is how it ends for a pair without failures while the store answers, unless
the store then aborts because the window of a failure runs past its clock. The login leaves the
store as it is.

Whatever happens before the store is switched on again, the store is then the one that it was, and
shows under each key what it showed before the outage and has not expired. A pair that is locked
stays locked by the same entry for as long as that lives, through all outages, and is refused
whenever the store answers. -/
theorem login_during_outage (service : Service) (find : String → Except Failure (Option User)) :
    (∀ (attempt : Attempt) (address : String) (now : Time) (down : Standing Store.Memory),
      attempt.address? = .ok address → down.store.available = false →
      let during := service.loginIn find now down attempt
      during.state.store = down.store ∧
      (service.lockout.onOutage = .failClosed →
        during.Refuses (.storeUnavailable Store.Memory.outage.message)) ∧
      (service.lockout.onOutage = .failOpen →
        during.answer? =
          some (service.judge (find address) attempt.password ⟨now, attempt.fresh⟩) ∧
        (∀ user, find address = .ok (some user) →
          Password.verifyStored attempt.password (some user.passwordHash) → now.InCalendar →
          1 ≤ service.lifetime.seconds → service.lifetime.seconds ≤ Settings.maxLifetime →
          ∃ issued, during.answer? = some (.ok ⟨issued, user.id, user.role⟩)) ∧
        ∀ up : Standing Store.Memory, up.store.available →
          up.store.live? (Lockout.key address attempt.origin) now = none →
          let clean := service.loginIn find now up attempt
          clean.answer? = during.answer? ∨
            clean.answer? = none ∧ now.after? service.lockout.policy.window = none ∧
              during.answer? = some (.error (.refusal .invalidCredentials)))) ∧
    (∀ (site : Site) (occurrences : List Occurrence), site.store.available →
      (∀ occurrence ∈ occurrences, occurrence ≠ .switch true) →
      let back := site.after service (.switch false :: occurrences ++ [.switch true])
      back.store = site.store ∧
      ∀ key later, back.now ≤ later →
        back.store.live? key later = (site.store.live? key site.now).filter (·.isLive later)) ∧
    ∀ (attempt : Attempt) (address : String) (site : Site) (entry : Store.Entry)
      (occurrences : List Occurrence), attempt.address? = .ok address →
      site.IsLockedBy service (Lockout.key address attempt.origin) entry →
      let last := site.after service occurrences
      entry.isLive last.now →
      last.IsLockedBy service (Lockout.key address attempt.origin) entry ∧
      (last.store.available →
        (service.loginIn find last.now ⟨last.store, last.metrics⟩ attempt).Refuses
          .tooManyAttempts) := by
  refine ⟨fun attempt address now down haddress hdown => ?_, fun site occurrences hup hoff => ?_,
    fun attempt address site entry occurrences haddress hlocked hlive => ?_⟩
  · refine ⟨Surroundings.store_run_of_outage hdown _,
      fun hpolicy => Service.loginIn_refuses_of_outage haddress hpolicy hdown, fun hpolicy => ?_⟩
    -- let through, the login ends as the directory and the password have it
    have hduring : (service.loginIn find now down attempt).answer? = _ :=
      Service.answer?_loginIn_of_outage haddress hpolicy hdown
    refine ⟨hduring, fun user hfind hverified hcal hpositive hbounded => ?_,
      fun up hup hclean => ?_⟩
    · obtain ⟨issued, hissued⟩ :=
        service.judge_of_right ⟨now, attempt.fresh⟩ hverified hcal hpositive hbounded
      exact ⟨issued, by rw [hduring, hfind, hissued]⟩
    · rw [hduring, Option.some.injEq]
      exact Service.answer?_loginIn_of_clean haddress hup hclean
  · have hback : (site.after service (.switch false :: occurrences ++ [.switch true])).store =
        site.store :=
      Site.store_after_outage hup hoff
    refine ⟨hback, fun key later hle => ?_⟩
    rw [hback]
    exact Store.Memory.live?_of_le _ _ (Time.le_trans (Site.now_le_after _) hle)
  · have hlast := hlocked.after occurrences hlive
    refine ⟨hlast, fun hup => ?_⟩
    refine Service.loginIn_refuses haddress (Store.Memory.perform_count _ _ hup) ?_
    rw [Lockout.pass_ok, if_pos hlast.countAt]

/-! ## A pair to try things with -/

/-- A service that lets requests through during an outage. -/
def Service.lenient : Service :=
  { Service.sample with lockout := ⟨Lockout.Policy.standard, .failOpen⟩ }

/-- Five failures, which are forgotten ten minutes after the time of the sample site. -/
def Store.Entry.sampleLock : Entry := ⟨"5", some (Time.ofSeconds 2100)⟩

/-- The sample site with a pair that is locked. -/
def Site.sampleLocked : Site :=
  { Site.sample with
    store := Store.Memory.empty.insert (Lockout.key "a@b" "unknown") .sampleLock }

/-- The sample is locked by its entry. -/
theorem Site.isLockedBy_sampleLock :
    Site.sampleLocked.IsLockedBy Service.lenient (Lockout.key "a@b" "unknown") .sampleLock := by
  refine ⟨?_, 5, by decide, by decide⟩
  rw [sampleLocked, Store.Memory.live?_insert, if_pos rfl]
  rfl

/-- An attempt of that pair. -/
def Attempt.sample (password : String) : Attempt := ⟨"a@b", password, "unknown", ⟨[]⟩⟩

/-- The store of that site fails. One service refuses the right password then, the other lets it
pass, and treats a guess as it would without failures. After five minutes the store answers again,
has kept the failures, and the right password is refused. -/
theorem login_during_outage_sample :
    let find : String → Except Failure (Option User) := fun _ => .ok (some Service.newcomer)
    let now := Site.sampleLocked.now
    let down : Standing Store.Memory :=
      ⟨{ Site.sampleLocked.store with available := false }, Metrics.zero⟩
    let last := Site.sampleLocked.after Service.lenient
      [.switch false, .wait (Duration.ofSeconds 300), .switch true]
    (Service.sample.loginIn find now down (.sample "right")).Refuses
        (.storeUnavailable Store.Memory.outage.message) ∧
      (∃ issued, (Service.lenient.loginIn find now down (.sample "right")).answer? =
        some (.ok ⟨issued, Service.newcomer.id, .employee⟩)) ∧
      (Service.lenient.loginIn find now ⟨.empty, Metrics.zero⟩ (.sample "guess")).answer? =
        (Service.lenient.loginIn find now down (.sample "guess")).answer? ∧
      last.store = Site.sampleLocked.store ∧
      (Service.lenient.loginIn find last.now ⟨last.store, last.metrics⟩
        (.sample "right")).Refuses .tooManyAttempts := by
  intro find now down last
  have hright : (Attempt.sample "right").address? = .ok "a@b" := rfl
  have hguess : (Attempt.sample "guess").address? = .ok "a@b" := rfl
  obtain ⟨hstrict, -, -⟩ := login_during_outage Service.sample find
  obtain ⟨hlenient, houtage, hlocked⟩ := login_during_outage Service.lenient find
  obtain ⟨-, hrefused, -⟩ := hstrict _ _ now down hright rfl
  obtain ⟨-, -, hpassed⟩ := hlenient _ _ now down hright rfl
  obtain ⟨-, -, hguessed⟩ := hlenient _ _ now down hguess rfl
  obtain ⟨-, hgranted, -⟩ := hpassed rfl
  obtain ⟨-, -, hsame⟩ := hguessed rfl
  -- the record of the newcomer is the hash of this password
  have hverified : Password.verifyStored "right" (some Service.newcomer.passwordHash) = true :=
    Password.verify_hash (by decide) "right"
  refine ⟨hrefused rfl, hgranted _ rfl hverified (by decide) (by decide) (by decide), ?_, ?_, ?_⟩
  · rcases hsame ⟨.empty, Metrics.zero⟩ rfl rfl with hanswer | ⟨-, habort, -⟩
    · exact hanswer
    · cases habort
  · exact (houtage Site.sampleLocked [.wait (Duration.ofSeconds 300)] rfl (by simp)).1
  · obtain ⟨-, hback⟩ := hlocked _ _ Site.sampleLocked .sampleLock
      [.switch false, .wait (Duration.ofSeconds 300), .switch true] hright
      Site.isLockedBy_sampleLock (by decide)
    exact hback rfl

end Bearer
