import Bearer.Proofs.Lockout.Key
import Bearer.Proofs.Lockout.Machine
import Bearer.Proofs.Store.Shown

/-!
# What requests leave behind

What the store shows after a request is settled by how the request ended. One that failed leaves it
as it was; the one exception is a login with wrong credentials, which is what is to be counted. A
login that succeeds clears the count of its own pair, and a logout that succeeds marks its own
token. Nothing else is touched, and nothing at all while the store does not answer.

The two ways in which a login can write are told apart by the tally of its pair, which after any
history is a count within the limit; `isTallied_after` keeps that, outages included.

Main statement: `shown_after_request`.
-/

namespace Bearer

open Program (Run)

/-- The tally of a number of failures, which are forgotten at a moment. -/
def Tally.ofCount : Nat → Time → Tally
  | 0, _ => clean
  | n + 1, deadline => failed (n + 1) deadline

/-- What the store of a site shows at its time. -/
def Site.shown (site : Site) : String → Option Store.Entry := site.store.shown site.now

/-- What a login leaves shown, given how it ended: nothing has changed, but that a success clears
the key of its pair, and wrong credentials add one to it. The first failure fixes the deadline. -/
def Service.LoginLeaves (service : Service) (site : Site) (key : String)
    (left : String → Option Store.Entry) : Except Failure Grant → Prop
  | .ok _ =>
    left = if site.store.available then Function.update site.shown key none else site.shown
  | .error (.refusal .invalidCredentials) =>
    if site.store.available then
      ∃ n deadline, n < service.lockout.policy.maxAttempts.toNat ∧
        (n = 0 → deadline = site.now.add service.lockout.policy.window) ∧
        site.shown key = (Tally.ofCount n deadline).toEntry ∧
        left = Function.update site.shown key (Tally.ofCount (n + 1) deadline).toEntry
    else left = site.shown
  | .error _ => left = site.shown

/-- What a logout leaves shown, given how it ended: nothing has changed, but that a success marks
the key of a token that is good for as long as it is good. -/
def Service.LogoutLeaves (service : Service) (site : Site) (token : String)
    (left : String → Option Store.Entry) : Except Failure Unit → Prop
  | .ok () => ∃ claims, Token.decode service.secret token site.now = .ok claims ∧
    if claims.isExpired site.now then left = site.shown
    else ∃ ttl, claims.remaining? site.now = some ttl ∧
      left = Function.update site.shown (Revocation.key claims.tokenId)
        (some ⟨Revocation.marker, some (site.now.add ttl)⟩)
  | .error _ => left = site.shown

/-- Under the key of every pair a site shows a tally within the limit. -/
def Site.IsTallied (site : Site) (policy : Lockout.Policy) : Prop :=
  ∀ identity origin, ∃ tally : Tally, tally.IsBounded policy ∧
    site.shown (Lockout.key identity origin) = tally.toEntry

/-- What is shown after a run is shown at the moment of the run. -/
theorem Site.shown_run {α : Type} (site : Site) (p : Program α) :
    (site.run p).state.shown = (site.run p).state.store.shown site.now := by
  rw [shown, now_run]

/-! ## One failure more -/

namespace Tally

variable {policy : Lockout.Policy} {tally : Tally}

/-- A tally within the limit that does not lock is a number of failures below it. -/
theorem exists_ofCount (h : tally.IsBounded policy)
    (hfree : ∀ count deadline, tally = failed count deadline →
      ¬policy.maxAttempts.toNat ≤ count) (first : Time) :
    ∃ n deadline, n < policy.maxAttempts.toNat ∧ (n = 0 → deadline = first) ∧
      tally = ofCount n deadline := by
  cases tally with
  | clean => exact ⟨0, first, maxAttempts_pos policy, fun _ => rfl, rfl⟩
  | failed count deadline =>
    obtain ⟨n, rfl⟩ : ∃ n, count = n + 1 := Nat.exists_eq_add_of_le' h.1
    refine ⟨n + 1, deadline, ?_, nofun, rfl⟩
    exact Nat.lt_of_not_le (hfree _ _ rfl)

/-- A tally of no more failures than the limit allows is bounded. -/
theorem isBounded_ofCount {n : Nat} (h : n ≤ policy.maxAttempts.toNat) (deadline : Time) :
    (ofCount n deadline).IsBounded policy := by
  cases n with
  | zero => exact trivial
  | succ n => exact ⟨Nat.le_add_left 1 n, h⟩

end Tally

namespace Store.Memory

variable {memory : Memory} {key : String} {now deadline : Time} {policy : Lockout.Policy} {n : Nat}

/-- A failure that is counted adds one to what is shown, and changes nothing else. -/
theorem shown_increment (hlive : memory.live? key now = (Tally.ofCount n deadline).toEntry)
    (hlt : n < policy.maxAttempts.toNat)
    (hfirst : n = 0 → deadline = now.add policy.window)
    (hwindow : now.after? policy.window = some (now.add policy.window)) :
    ∃ count store, memory.increment key policy.window now = (some (.ok count), store) ∧
      store.shown now =
        Function.update (memory.shown now) key (Tally.ofCount (n + 1) deadline).toEntry := by
  have hnext : (Tally.ofCount (n + 1) deadline).toEntry =
      some ⟨counterText (.ofNat (n + 1)), some deadline⟩ :=
    toEntry_eq_counterText ⟨Nat.le_add_left 1 n, hlt⟩
  cases n with
  | zero =>
    obtain rfl := hfirst rfl
    -- the window is not empty, so the first failure is shown
    have hopen : now < now.add policy.window := Time.lt_add now policy.window_ne_zero
    refine ⟨_, _, increment_starts key now hlive hwindow, ?_⟩
    rw [shown_insert (by simp [Entry.isLive, hopen]), shown_evict, hnext]
    rfl
  | succ n =>
    have hlimit : n + 1 < UInt64.size := Nat.lt_trans hlt policy.maxAttempts.toNat_lt
    have hentry : (Tally.ofCount (n + 1) deadline).toEntry =
        some ⟨counterText (.ofNat (n + 1)), some deadline⟩ :=
      toEntry_eq_counterText ⟨Nat.le_add_left 1 n, Nat.le_of_lt hlt⟩
    rw [hentry] at hlive
    -- what is shown has not reached its deadline, which is that of the new count too
    have hopen : now < deadline := by
      simpa [Entry.isLive] using (Option.filter_eq_some_iff.mp hlive).2
    refine ⟨_, _, increment_live key now hlive (Nat.succ_pos n) hlimit policy.window, ?_⟩
    rw [shown_insert (by simp [Entry.isLive, hopen]), shown_evict, hnext]

/-- A tally that is shown locks if it has reached the limit. -/
theorem locks_of_shown {tally : Tally} (hbounded : tally.IsBounded policy)
    (hshown : memory.shown now key = tally.toEntry) {count : Nat}
    (htally : tally = .failed count deadline) (hle : policy.maxAttempts.toNat ≤ count) :
    policy.locks (memory.countAt key now) := by
  subst htally
  have hcount : memory.countAt key now = .ofNat count := by
    rw [countAt, ← shown, hshown, toEntry_eq_counterText hbounded]
    simp
  have hsize : count < UInt64.size := Nat.lt_of_le_of_lt hbounded.2 policy.maxAttempts.toNat_lt
  rw [hcount, policy.locks_ofNat hsize, decide_eq_true_eq]
  exact hle

end Store.Memory

/-! ## Logins -/

/-- A login that is not well formed fails as invalid. -/
theorem Attempt.eq_validation_of_address? {attempt : Attempt} {failure : Failure}
    (h : attempt.address? = .error failure) : ∃ detail, failure = .validation detail := by
  rcases attempt.address?_cases with
    ⟨_, hemail, hfound⟩ | ⟨_, -, -, hfound⟩ | ⟨_, -, -, hfound⟩
  · cases hfound.symm.trans h
    exact Email.validation_of_normalize? hemail
  · cases hfound.symm.trans h
    exact ⟨_, rfl⟩
  · cases hfound.symm.trans h

namespace Service

variable {service : Service} {site : Site} {key address origin : String}
  {left : String → Option Store.Entry} {tally : Tally}

/-- Without an answer of the store, a login leaves all as it is. -/
theorem loginLeaves_of_outage (hdown : site.store.available = false)
    (result : Except Failure Grant) : service.LoginLeaves site key site.shown result := by
  unfold LoginLeaves
  split <;> simp [hdown]

/-- What a login leaves is judged by what was shown before it and by whether the store answers. -/
theorem LoginLeaves.of_shown {other : Site} {result : Except Failure Grant}
    (h : service.LoginLeaves other key left result) (hnow : other.now = site.now)
    (hup : other.store.available = site.store.available) (hshown : other.shown = site.shown) :
    service.LoginLeaves site key left result := by
  unfold LoginLeaves at *
  rw [hnow, hup, hshown] at h
  exact h

/-- An attempt that is settled leaves under its key what its result says. -/
theorem settleAttempt_leaves (user? : Option User) (fresh : Uuid) {n : Nat} {deadline : Time}
    (hup : site.store.available) (hready : service.IsReady site.now)
    (hlt : n < service.lockout.policy.maxAttempts.toNat)
    (hfirst : n = 0 → deadline = site.now.add service.lockout.policy.window)
    (hshown : site.shown key = (Tally.ofCount n deadline).toEntry) :
    ∃ result, (site.run (service.settleAttempt key ⟨site.now, fresh⟩ user?).run).answer? =
        some result ∧
      service.LoginLeaves site key
        (site.run (service.settleAttempt key ⟨site.now, fresh⟩ user?).run).state.shown result := by
  cases user? with
  | some user =>
    -- the count is cleared before the token is issued, so issuing must not fail
    obtain ⟨issued, hissue⟩ := Token.issue_eq_ok service.secret user.id.text user.role
      fresh.text hready.calendar hready.positive hready.bounded
    refine ⟨_, by rw [settleAttempt, run_grant hup hissue], ?_⟩
    rw [settleAttempt, Site.shown_run, run_grant hup hissue]
    show Store.Memory.shown (site.store.erase key) site.now = _
    rw [if_pos hup, Store.Memory.shown_erase]
    rfl
  | none =>
    have hwindow := Time.after?_of_le (Time.le_refl site.now) hready.window
    obtain ⟨count, store, hincrement, hstore⟩ :=
      Store.Memory.shown_increment hshown hlt hfirst hwindow
    obtain ⟨metrics, effects, hrun⟩ := run_failLogin hup hincrement
    refine ⟨_, by rw [settleAttempt, hrun], ?_⟩
    rw [settleAttempt, Site.shown_run, hrun, LoginLeaves, if_pos hup]
    exact ⟨n, deadline, hlt, hfirst, hshown, hstore⟩

/-- How a login of a pair ends, and what it leaves, if its store answers and shows a tally of the
pair. -/
theorem attempt_leaves (password : String) (fresh : Uuid) (hup : site.store.available)
    (hready : service.IsReady site.now) (hbounded : tally.IsBounded service.lockout.policy)
    (hshown : site.shown (Lockout.key address origin) = tally.toEntry) :
    ∃ result, (site.run (service.attempt address password origin ⟨site.now, fresh⟩).run).answer? =
        some result ∧
      service.LoginLeaves site (Lockout.key address origin)
        (site.run (service.attempt address password origin ⟨site.now, fresh⟩).run).state.shown
        result := by
  by_cases hlocked : service.lockout.policy.locks
      (site.store.countAt (Lockout.key address origin) site.now)
  · rw [run_attempt_of_locked hup hlocked]
    exact ⟨_, rfl, Store.Memory.shown_evict _ _ _⟩
  -- a tally that does not lock is below the limit, so there is room for one failure more
  by_cases hdirectory : site.directory.available
  · -- asking for the count may have dropped an expired entry, which changes nothing that is shown
    let evicted := site.withStore (site.store.evict (Lockout.key address origin) site.now)
    have hsame : evicted.shown = site.shown := Store.Memory.shown_evict _ _ _
    have havailable : evicted.store.available = site.store.available :=
      Store.Memory.available_evict _ _ _
    obtain ⟨n, deadline, hlt, hfirst, rfl⟩ := Tally.exists_ofCount hbounded
      (fun count deadline heq hle => hlocked (Store.Memory.locks_of_shown hbounded hshown heq hle))
      (site.now.add service.lockout.policy.window)
    obtain ⟨result, hanswer, hleaves⟩ := settleAttempt_leaves
      (site.directory.authenticate? address password) fresh (havailable.trans hup) hready hlt hfirst
      ((congrFun hsame _).trans hshown)
    rw [run_attempt_of_free hup hdirectory hlocked]
    exact ⟨result, hanswer, hleaves.of_shown rfl havailable hsame⟩
  · rw [run_attempt_of_noDirectory hup (by simpa using hdirectory) hlocked]
    exact ⟨_, rfl, Store.Memory.shown_evict _ _ _⟩

/-- How a login ends and what it leaves, the store up or down. -/
theorem login_leaves (attempt : Attempt) (hready : service.IsReady site.now)
    (htallied : site.IsTallied service.lockout.policy) :
    ∃ result, (site.run (service.login attempt.email attempt.password attempt.origin
        ⟨site.now, attempt.fresh⟩).run).answer? = some result ∧
      service.LoginLeaves site (Lockout.key attempt.email attempt.origin)
        (site.run (service.login attempt.email attempt.password attempt.origin
          ⟨site.now, attempt.fresh⟩).run).state.shown result := by
  by_cases hup : site.store.available
  · cases haddress : attempt.address? with
    | error failure =>
      obtain ⟨detail, rfl⟩ := Attempt.eq_validation_of_address? haddress
      rw [run_login_of_error haddress]
      exact ⟨_, rfl, rfl⟩
    | ok address =>
      obtain ⟨hemail, hsome⟩ := Attempt.address?_eq_ok haddress
      obtain ⟨tally, hbounded, hshown⟩ := htallied address attempt.origin
      rw [← Lockout.key_of_normalize? hemail, run_login_of_wellFormed hemail hsome]
      -- the event that is noted first is no part of what the store shows
      obtain ⟨result, hanswer, hleaves⟩ := attempt_leaves attempt.password attempt.fresh
        (show (site.noted .loginRequested).store.available from hup) hready hbounded hshown
      exact ⟨result, hanswer, hleaves.of_shown rfl rfl rfl⟩
  · have hdown : site.store.available = false := by simpa using hup
    obtain ⟨result, hanswer⟩ := Option.isSome_iff_exists.mp
      (Site.isSome_answer?_of_outage hdown (service.login attempt.email attempt.password
        attempt.origin ⟨site.now, attempt.fresh⟩).run)
    refine ⟨result, hanswer, ?_⟩
    rw [Site.shown_run, Site.store_run_of_outage hdown]
    exact loginLeaves_of_outage hdown result

/-! ## Logouts -/

/-- How a logout ends and what it leaves, the store up or down. -/
theorem logout_leaves (service : Service) (token : String) (hcal : site.now.InCalendar) :
    ∃ result, (site.run (service.logout token site.now).run).answer? = some result ∧
      service.LogoutLeaves site token
        (site.run (service.logout token site.now).run).state.shown result := by
  cases hdecode : Token.decode service.secret token site.now with
  | error refusal =>
    rw [run_logout_of_refused hdecode]
    exact ⟨_, rfl, rfl⟩
  | ok claims =>
    cases hleft : claims.remaining? site.now with
    | none =>
      rw [run_logout_of_expired hdecode hleft]
      refine ⟨_, rfl, claims, hdecode, ?_⟩
      rw [if_pos ((Claims.remaining?_isNone_iff hcal).mp hleft)]
    | some ttl =>
      by_cases hup : site.store.available
      · rw [run_logout_of_good hdecode hleft hup hcal]
        refine ⟨_, rfl, claims, hdecode, ?_⟩
        have hgood : ¬claims.isExpired site.now := by
          rw [← Claims.remaining?_isNone_iff hcal, hleft]
          nofun
        -- what is left of the token is not nothing, so its entry is shown
        have hopen : site.now < site.now.add ttl :=
          Time.lt_add _ (Nat.ne_of_gt (Claims.nanos_of_remaining? hleft).2.1)
        rw [if_neg hgood]
        refine ⟨ttl, hleft, ?_⟩
        exact Store.Memory.shown_insert (by simp [Store.Entry.isLive, hopen]) _ _
      · rw [run_logout_of_outage hdecode hleft (by simpa using hup)]
        exact ⟨_, rfl, rfl⟩

end Service

/-! ## Requests and histories -/

/-- What a request leaves shown, given how it is answered: a login what `LoginLeaves` says, a logout
what `LogoutLeaves` says, and any other request everything as it was. -/
structure Request.Footprint (service : Service) (site : Site) (request : Request) : Prop where
  login : ∀ attempt, request.login? service = some attempt → ∃ result,
    (site.handle service request).answer? = some (request.reportLogin service result) ∧
      service.LoginLeaves site (Lockout.key attempt.email attempt.origin)
        (site.handle service request).state.shown result
  logout : ∀ token, request.logout? = some token → ∃ result,
    (site.handle service request).answer? = some (request.reportLogout service site.now result) ∧
      service.LogoutLeaves site token (site.handle service request).state.shown result
  other : request.login? service = none → request.logout? = none →
    (site.handle service request).state.shown = site.shown

namespace Site

variable {service : Service} {site : Site} {policy : Lockout.Policy}

/-- Where the keys of lockouts show tallies, each request leaves its footprint. -/
theorem footprint_of_isTallied (hready : service.IsReady site.now)
    (htallied : site.IsTallied service.lockout.policy) (request : Request) :
    request.Footprint service site where
  login attempt hlogin := by
    obtain ⟨result, hanswer, hleaves⟩ := Service.login_leaves attempt hready htallied
    refine ⟨result, ?_, ?_⟩
    · rw [Request.handle_of_login? hlogin, Run.answer?_map, hanswer, Option.map_some]
    · rw [Request.handle_of_login? hlogin, Run.state_map]
      exact hleaves
  logout token hlogout := by
    obtain ⟨result, hanswer, hleaves⟩ := service.logout_leaves token hready.calendar
    refine ⟨result, ?_, ?_⟩
    · rw [Request.handle_of_logout? hlogout, Run.answer?_map, hanswer, Option.map_some]
    · rw [Request.handle_of_logout? hlogout, Run.state_map]
      exact hleaves
  other hlogin hlogout := by
    funext key
    rw [handle, shown_run]
    -- a request of no other kind writes, under whatever key
    refine live?_run (Request.program_leaves ?_ ?_) site (Time.le_refl _)
    · intro attempt address hattempt
      rw [hlogin] at hattempt
      cases hattempt
    · intro token claims htoken
      rw [hlogout] at htoken
      cases htoken

/-- Only what is shown under the keys of pairs matters for the tallies. -/
theorem IsTallied.of_shown {other : Site} (h : site.IsTallied policy)
    (hshown : ∀ identity origin, other.shown (Lockout.key identity origin) =
      site.shown (Lockout.key identity origin)) : other.IsTallied policy := by
  intro identity origin
  rw [hshown]
  exact h identity origin

/-- Tallies are shown after one of them has changed. -/
theorem IsTallied.update {other : Site} (h : site.IsTallied policy) {tally : Tally}
    (hbounded : tally.IsBounded policy) (key : String)
    (hshown : other.shown = Function.update site.shown key tally.toEntry) :
    other.IsTallied policy := by
  intro identity origin
  rw [hshown, Function.update_apply]
  split
  · exact ⟨tally, hbounded, rfl⟩
  · exact h identity origin

/-- What a login leaves are tallies. -/
theorem IsTallied.of_loginLeaves {other : Site} {key : String} {result : Except Failure Grant}
    (h : site.IsTallied service.lockout.policy)
    (hleaves : service.LoginLeaves site key other.shown result) :
    other.IsTallied service.lockout.policy := by
  unfold Service.LoginLeaves at hleaves
  split at hleaves
  · -- a success either clears a count or changes nothing
    split at hleaves
    · exact h.update (show Tally.clean.IsBounded _ from trivial) key hleaves
    · exact h.of_shown fun _ _ => congrFun hleaves _
  · split at hleaves
    · obtain ⟨n, deadline, hlt, -, -, hshown⟩ := hleaves
      exact h.update (Tally.isBounded_ofCount hlt deadline) key hshown
    · exact h.of_shown fun _ _ => congrFun hleaves _
  · exact h.of_shown fun _ _ => congrFun hleaves _

/-- What a logout leaves are tallies. -/
theorem IsTallied.of_logoutLeaves {other : Site} {token : String} {result : Except Failure Unit}
    (h : site.IsTallied policy) (hleaves : service.LogoutLeaves site token other.shown result) :
    other.IsTallied policy := by
  refine h.of_shown fun identity origin => ?_
  unfold Service.LogoutLeaves at hleaves
  split at hleaves
  · obtain ⟨claims, -, hleft⟩ := hleaves
    split at hleft
    · rw [hleft]
    · -- what is marked is the key of a token, which is that of no pair
      obtain ⟨ttl, -, hshown⟩ := hleft
      rw [hshown, Function.update_of_ne (Revocation.key_ne_lockoutKey _ _ _).symm]
  · rw [hleaves]

/-- What is shown under the key of a pair is a tally within the limit after every occurrence. -/
theorem isTallied_step (hready : service.IsReady site.now)
    (h : site.IsTallied service.lockout.policy) (occurrence : Occurrence) :
    (site.step service occurrence).IsTallied service.lockout.policy := by
  cases occurrence with
  | request request =>
    have hfootprint := footprint_of_isTallied hready h request
    cases hlogin : request.login? service with
    | some attempt =>
      obtain ⟨result, -, hleaves⟩ := hfootprint.login attempt hlogin
      exact h.of_loginLeaves hleaves
    | none =>
      cases hlogout : request.logout? with
      | some token =>
        obtain ⟨result, -, hleaves⟩ := hfootprint.logout token hlogout
        exact h.of_logoutLeaves hleaves
      | none => exact h.of_shown fun _ _ => congrFun (hfootprint.other hlogin hlogout) _
  | switch available => exact h
  | change directory => exact h
  | wait span =>
    -- a tally whose deadline has come is not shown any more
    intro identity origin
    obtain ⟨tally, hbounded, hshown⟩ := h identity origin
    refine ⟨tally.current (site.now.add span), hbounded.current _, ?_⟩
    rw [Tally.toEntry_current, ← hshown]
    exact site.store.live?_of_le _ (Time.le_add _ _)

/-- Tallies are shown after any history. -/
theorem isTallied_after {occurrences : List Occurrence} (hstart : site.now.InCalendar)
    (hready : service.IsReady (site.after service occurrences).now)
    (h : site.IsTallied service.lockout.policy) :
    (site.after service occurrences).IsTallied service.lockout.policy := by
  induction occurrences generalizing site with
  | nil => exact h
  | cons occurrence rest ih =>
    have hready' : service.IsReady site.now :=
      hready.of_le hstart (Time.le_refl _) (now_le_after (occurrence :: rest))
    have hnext : (site.step service occurrence).now.InCalendar :=
      hstart.of_le hready.calendar (now_le_step occurrence) (now_le_after rest)
    exact ih hnext hready (isTallied_step hready' h occurrence)

/-- An empty store shows tallies. -/
theorem isTallied_of_empty (hempty : site.store.entries = []) : site.IsTallied policy := by
  intro identity origin
  refine ⟨.clean, trivial, ?_⟩
  rw [shown, Store.Memory.shown, Store.Memory.live?, Store.Memory.find?, hempty]
  rfl

/-- After every history of a site that starts without entries in its store, with the store and the
directory up or down at any time, a request leaves shown what its footprint says. -/
theorem shown_after_request (service : Service) (start : Site) (occurrences : List Occurrence)
    (request : Request) (hempty : start.store.entries = []) (hstart : start.now.InCalendar)
    (hready : service.IsReady (start.after service occurrences).now) :
    request.Footprint service (start.after service occurrences) :=
  footprint_of_isTallied hready (isTallied_after hstart hready (isTallied_of_empty hempty)) request

/-- After a guess at some password, the logout of a token marks the key of the token to the end of
its last second, and changes nothing else. -/
theorem shown_after_request_sample :
    let site := Site.sample.after Service.sample [.request Lockout.Machine.sampleGuess]
    let run := site.handle Service.sample .sampleLogout
    run.answer? = some (.rpcLogout (.ok ())) ∧
      run.state.shown = Function.update site.shown (Revocation.key "τ-1")
        (some ⟨Revocation.marker, some (Time.ofSeconds 2001)⟩) := by
  have hnow : (Site.sample.after Service.sample
      [.request Lockout.Machine.sampleGuess]).now = Site.sample.now := now_step_request _
  have hup : (Site.sample.after Service.sample
      [.request Lockout.Machine.sampleGuess]).store.available := available_step_request _
  have hready : Service.sample.IsReady Site.sample.now :=
    ⟨by decide, by decide, by decide, by decide⟩
  have hfootprint := shown_after_request Service.sample Site.sample
    [.request Lockout.Machine.sampleGuess] .sampleLogout rfl (by decide) (hnow ▸ hready)
  -- of the guess it is only used that it takes no time and does not switch the store off
  generalize Site.sample.after Service.sample [.request Lockout.Machine.sampleGuess] = site at *
  have hdecode : Token.decode Service.sample.secret Token.sample site.now =
      .ok Token.sampleClaims := Token.decode_sample (by rw [hnow]; decide)
  have hleft : Token.sampleClaims.remaining? site.now = some (Duration.ofSeconds 501) := by
    rw [hnow]
    decide
  obtain ⟨result, hanswer, hleaves⟩ := hfootprint.logout _ Request.logout?_sampleLogout
  have hdone : (site.handle Service.sample .sampleLogout).answer? =
      some (.rpcLogout (.ok ())) := by
    rw [Request.handle_of_logout? Request.logout?_sampleLogout,
      Service.run_logout_of_good hdecode hleft hup (hnow ▸ hready.calendar)]
    rfl
  refine ⟨hdone, ?_⟩
  cases result with
  | error failure => cases hanswer.symm.trans hdone
  | ok _ =>
    obtain ⟨claims, hclaims, hshown⟩ := hleaves
    cases hdecode.symm.trans hclaims
    have hgood : ¬Token.sampleClaims.isExpired site.now := by
      rw [hnow]
      decide
    rw [if_neg hgood] at hshown
    obtain ⟨ttl, hspan, hleft'⟩ := hshown
    cases hleft.symm.trans hspan
    rw [hnow] at hleft'
    exact hleft'

end Site
end Bearer
