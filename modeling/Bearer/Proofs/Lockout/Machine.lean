import Bearer.Proofs.Lockout.Login
import Bearer.Proofs.Site.History

/-!
# The lockout over histories

A machine that holds a tally for each pair stands for the lockout. It reads the clock and the
directory, and knows nothing of the store. Over any history in which store and directory answer, the
site answers logins as the machine says, and its store keeps what the machine counts.

The proof is a simulation: `simulates_step` says that an occurrence keeps the two in agreement, and
`simulates_after` follows by induction on the history.

Main statement: `login_after`.
-/

namespace Bearer

open Program (Run)

/-- The one form of the address of an attempt, if the attempt is well formed. -/
def Attempt.address? (attempt : Attempt) : Except Failure String := do
  let address ← Email.normalize? attempt.email
  if attempt.password = "" then throw (.validation "password required")
  return address

/-- Whether an occurrence neither switches the store off nor makes the directory fail. -/
def Occurrence.IsCalm : Occurrence → Prop
  | .switch available => available
  | .change directory => directory.available
  | _ => True

namespace Lockout

/-- A tally for each pair, under its key, beside the clock and the directory. -/
structure Machine where
  /-- The time on the clock. -/
  now : Time
  /-- The directory of users. -/
  directory : Directory
  /-- What is counted under each key. -/
  tally : String → Tally

namespace Machine

def start (now : Time) (directory : Directory) : Machine := ⟨now, directory, fun _ => .clean⟩

/-- The machine with another tally under a key. -/
def record (machine : Machine) (key : String) (tally : Tally) : Machine :=
  { machine with tally := fun other => if other = key then tally else machine.tally other }

/-- What the attempt of a pair comes to. -/
def attempt (service : Service) (machine : Machine) (address password origin : String) :
    Verdict × Tally :=
  (machine.tally (key address origin)).attempt service.lockout.policy machine.now
    (machine.directory.authenticate? address password)

/-- The machine after a login. One that is not well formed is not counted. -/
def login (service : Service) (machine : Machine) (attempt : Attempt) : Machine :=
  match attempt.address? with
  | .ok address => machine.record (key address attempt.origin)
    (machine.attempt service address attempt.password attempt.origin).2
  | .error _ => machine

/-- The machine after an occurrence. -/
def step (service : Service) (machine : Machine) : Occurrence → Machine
  | .request request =>
    match request.login? service with
    | some attempt => machine.login service attempt
    | none => machine
  | .switch _ => machine
  | .change directory => { machine with directory }
  | .wait span => { machine with now := machine.now.add span }

/-- The machine after a list of occurrences. -/
def after (service : Service) (machine : Machine) (occurrences : List Occurrence) : Machine :=
  occurrences.foldl (step service) machine

/-- A machine and a site, whose store and directory answer, agree. -/
structure Simulates (service : Service) (machine : Machine) (site : Site) : Prop where
  /-- They show the same time. -/
  now : machine.now = site.now
  /-- They know the same users. -/
  directory : machine.directory = site.directory
  store_up : site.store.available
  directory_up : site.directory.available
  /-- No tally is beyond the limit. -/
  bounded : ∀ key, (machine.tally key).IsBounded service.lockout.policy
  /-- The store keeps the tally of every pair. -/
  kept : ∀ identity origin, site.store.Keeps (key identity origin) site.now
    (machine.tally (key identity origin))

end Machine
end Lockout

/-! ## Well-formed logins and others -/

/-- An attempt has a malformed address, or no password, or it is well formed. -/
theorem Attempt.address?_cases (attempt : Attempt) :
    (∃ failure, Email.normalize? attempt.email = .error failure ∧
      attempt.address? = .error failure) ∨
    (∃ address, Email.normalize? attempt.email = .ok address ∧ attempt.password = "" ∧
      attempt.address? = .error (.validation "password required")) ∨
    ∃ address, Email.normalize? attempt.email = .ok address ∧ attempt.password ≠ "" ∧
      attempt.address? = .ok address := by
  rw [address?]
  cases Email.normalize? attempt.email with
  | error failure => exact .inl ⟨failure, rfl, rfl⟩
  | ok address =>
    by_cases hnone : attempt.password = ""
    · refine .inr (.inl ⟨address, rfl, hnone, ?_⟩)
      simp only [if_pos hnone]
      rfl
    · refine .inr (.inr ⟨address, rfl, hnone, ?_⟩)
      simp only [if_neg hnone]
      rfl

/-- An attempt with an address has a well-formed text and a password. -/
theorem Attempt.address?_eq_ok {attempt : Attempt} {address : String}
    (h : attempt.address? = .ok address) :
    Email.normalize? attempt.email = .ok address ∧ attempt.password ≠ "" := by
  rcases attempt.address?_cases with
    ⟨_, -, hfound⟩ | ⟨_, -, -, hfound⟩ | ⟨_, hemail, hsome, hfound⟩
  · cases hfound.symm.trans h
  · cases hfound.symm.trans h
  · cases hfound.symm.trans h
    exact ⟨hemail, hsome⟩

namespace Service

variable {service : Service} {site : Site} {attempt : Attempt} {address : String} {tally : Tally}

/-- A login that is not well formed is told so, and leaves the store as it is. -/
theorem run_login_of_error {failure : Failure} (h : attempt.address? = .error failure)
    (moment : Moment) :
    site.run (service.login attempt.email attempt.password attempt.origin moment).run =
      ⟨some (.error failure), site.noted .loginRequested, [.note .loginRequested]⟩ := by
  rcases attempt.address?_cases with
    ⟨_, hemail, hfound⟩ | ⟨_, hemail, hnone, hfound⟩ | ⟨_, -, -, hfound⟩
  · cases hfound.symm.trans h
    exact run_login_of_malformed hemail
  · cases hfound.symm.trans h
    exact run_login_of_noPassword hemail hnone
  · cases hfound.symm.trans h

/-- A well-formed login follows the machine. -/
theorem login_follows (h : attempt.address? = .ok address) (hup : site.store.available)
    (hdirectory : site.directory.available) (hready : service.IsReady site.now)
    (hbounded : tally.IsBounded service.lockout.policy)
    (hkept : site.store.Keeps (Lockout.key address attempt.origin) site.now tally) :
    Follows (site.run (service.login attempt.email attempt.password attempt.origin
        ⟨site.now, attempt.fresh⟩).run)
      (Lockout.key address attempt.origin) site.now
      (tally.attempt service.lockout.policy site.now
        (site.directory.authenticate? address attempt.password)) := by
  obtain ⟨hemail, hsome⟩ := Attempt.address?_eq_ok h
  have hattempt : Follows ((site.noted .loginRequested).run
        (service.attempt address attempt.password attempt.origin ⟨site.now, attempt.fresh⟩).run)
      _ site.now _ :=
    attempt_follows hup hdirectory hready hbounded hkept
  rw [run_login_of_wellFormed hemail hsome]
  -- all that the login adds to the attempt is an event that is noted
  refine ⟨hattempt.answer, hattempt.kept, fun hlocked effect heffect => ?_⟩
  rcases List.mem_cons.mp heffect with rfl | hrest
  · exact id
  · exact hattempt.quiet hlocked effect hrest

/-- A service that is ready later is ready now. -/
theorem IsReady.of_le {now later start : Time} (h : service.IsReady later)
    (hstart : start.InCalendar) (hle : start ≤ now) (hnow : now ≤ later) :
    service.IsReady now where
  calendar := hstart.of_le h.calendar hle hnow
  window := Option.isSome_iff_exists.mpr ⟨_, Time.after?_of_le hnow h.window⟩
  positive := h.positive
  bounded := h.bounded

end Service

/-- A request that is no login of a pair writes nothing under the key of the pair. -/
theorem Site.leaves_of_other {service : Service} {site : Site} {request : Request}
    {identity origin : String}
    (hother : ∀ attempt address, request.login? service = some attempt →
      Email.normalize? attempt.email = .ok address →
        Lockout.key identity origin ≠ Lockout.key address attempt.origin) :
    Site.Leaves service site (Lockout.key identity origin) (.request request) := by
  apply Request.program_leaves hother
  -- a logout writes under the key of a token
  intro token claims _ _
  exact (Revocation.key_ne_lockoutKey _ _ _).symm

namespace Lockout.Machine

variable {service : Service} {machine : Machine} {site : Site} {request : Request}
  {attempt : Attempt} {address : String}

/-- A tally that is recorded under a key is found there. -/
@[simp]
theorem tally_record_self (machine : Machine) (key : String) (tally : Tally) :
    (machine.record key tally).tally key = tally :=
  if_pos rfl

/-- A tally that is recorded under a key is found under no other one. -/
theorem tally_record_of_ne {key other : String} (h : other ≠ key) (machine : Machine)
    (tally : Tally) : (machine.record key tally).tally other = machine.tally other :=
  if_neg h

/-- A login that is well formed records what its attempt makes of the tally. -/
theorem login_of_ok (h : attempt.address? = .ok address) :
    machine.login service attempt = machine.record (key address attempt.origin)
      (machine.attempt service address attempt.password attempt.origin).2 := by
  rw [login, h]

/-- A login that is not well formed leaves the machine as it is. -/
theorem login_of_error {failure : Failure} (h : attempt.address? = .error failure) :
    machine.login service attempt = machine := by
  rw [login, h]

/-! ## One occurrence -/

/-- A request changes nothing of the machine but its tallies. -/
theorem step_request_eq (service : Service) (machine : Machine) (request : Request) :
    ∃ tally, machine.step service (.request request) = { machine with tally } := by
  rw [step]
  split
  · next attempt _ =>
    rw [login]
    split <;> exact ⟨_, rfl⟩
  · exact ⟨_, rfl⟩

/-- An occurrence changes a tally, if at all, as an attempt does. -/
theorem tally_step (service : Service) (machine : Machine) (occurrence : Occurrence)
    (key : String) :
    (machine.step service occurrence).tally key = machine.tally key ∨
      ∃ user?, (machine.step service occurrence).tally key =
        ((machine.tally key).attempt service.lockout.policy machine.now user?).2 := by
  cases occurrence with
  | request request =>
    rw [step]
    split
    · next attempt _ =>
      cases haddress : attempt.address? with
      | error failure => exact .inl (by rw [login_of_error haddress])
      | ok address =>
        rw [login_of_ok haddress]
        -- a login that comes to a pair concerns the tally of that pair only
        by_cases hkey : key = Lockout.key address attempt.origin
        · subst hkey
          exact .inr ⟨_, tally_record_self _ _ _⟩
        · exact .inl (tally_record_of_ne hkey _ _)
    · exact .inl rfl
  | _ => exact .inl rfl

/-- The machine tells how a well-formed login ends. -/
theorem Simulates.follows (h : Simulates service machine site) (hready : service.IsReady site.now)
    (haddress : attempt.address? = .ok address) :
    Service.Follows (site.run (service.login attempt.email attempt.password attempt.origin
        ⟨site.now, attempt.fresh⟩).run)
      (key address attempt.origin) site.now
      (machine.attempt service address attempt.password attempt.origin) := by
  rw [Machine.attempt, h.now, h.directory]
  exact Service.login_follows haddress h.store_up h.directory_up hready (h.bounded _) (h.kept _ _)

/-- A request that is no login of a pair leaves its tally alone. -/
theorem Simulates.kept_of_other (h : Simulates service machine site) {identity origin : String}
    (hother : ∀ attempt address, request.login? service = some attempt →
      Email.normalize? attempt.email = .ok address →
        key identity origin ≠ key address attempt.origin) :
    (site.step service (.request request)).store.Keeps (key identity origin) site.now
      (machine.tally (key identity origin)) := by
  intro later hle
  rw [← h.kept identity origin later hle]
  exact Site.live?_step (Site.leaves_of_other hother) (by rwa [Site.now_step_request])

/-- After a login, the store keeps what the machine has counted then. -/
theorem Simulates.kept_login (h : Simulates service machine site)
    (hready : service.IsReady site.now) (hlogin : request.login? service = some attempt)
    (identity origin : String) :
    (site.step service (.request request)).store.Keeps (key identity origin) site.now
      ((machine.login service attempt).tally (key identity origin)) := by
  have hstate : site.step service (.request request) =
      (site.run (service.login attempt.email attempt.password attempt.origin
        ⟨site.now, attempt.fresh⟩).run).state := by
    rw [Site.step, Request.handle_of_login? hlogin]
    rfl
  cases haddress : attempt.address? with
  | error failure =>
    rw [login_of_error haddress, hstate, Service.run_login_of_error haddress]
    exact h.kept identity origin
  | ok address =>
    rw [login_of_ok haddress]
    by_cases hkey : key identity origin = key address attempt.origin
    · rw [hkey, tally_record_self, hstate]
      exact (h.follows hready haddress).kept
    · rw [tally_record_of_ne hkey]
      apply h.kept_of_other
      intro other found hother hfound
      cases hlogin.symm.trans hother
      cases (Attempt.address?_eq_ok haddress).1.symm.trans hfound
      exact hkey

/-- A calm occurrence keeps the machine and the site in agreement. -/
theorem simulates_step (h : Simulates service machine site) (hready : service.IsReady site.now)
    {occurrence : Occurrence} (hcalm : occurrence.IsCalm) :
    Simulates service (machine.step service occurrence) (site.step service occurrence) := by
  have hbounded (key : String) :
      ((machine.step service occurrence).tally key).IsBounded service.lockout.policy := by
    rcases tally_step service machine occurrence key with heq | ⟨user?, heq⟩
    · rw [heq]
      exact h.bounded key
    · rw [heq]
      exact Tally.isBounded_attempt (h.bounded key)
  cases occurrence with
  | request request =>
    obtain ⟨tally, heq⟩ := step_request_eq service machine request
    have hnow : (site.step service (.request request)).now = site.now := Site.now_run site _
    have hdirectory : (site.step service (.request request)).directory = site.directory :=
      Site.directory_run site _
    refine ⟨?_, ?_, ?_, ?_, hbounded, fun identity origin => ?_⟩
    · rw [heq, hnow]
      exact h.now
    · rw [heq, hdirectory]
      exact h.directory
    · rw [Site.available_step_request]
      exact h.store_up
    · rw [hdirectory]
      exact h.directory_up
    · rw [hnow, step]
      split
      · next attempt hlogin => exact h.kept_login hready hlogin identity origin
      · next hnone =>
        apply h.kept_of_other
        intro attempt address hlogin _
        cases hnone.symm.trans hlogin
  | switch available => exact ⟨h.now, h.directory, hcalm, h.directory_up, hbounded, h.kept⟩
  | change directory => exact ⟨h.now, rfl, h.store_up, hcalm, hbounded, h.kept⟩
  | wait span =>
    -- what the store shows from now on it shows from later on too
    refine ⟨?_, h.directory, h.store_up, h.directory_up, hbounded, ?_⟩
    · rw [step, h.now]
      rfl
    · intro identity origin later hle
      exact h.kept identity origin later (Time.le_trans (Time.le_add _ _) hle)

/-! ## Histories -/

/-- The machine begins as a site with an empty store does. -/
theorem simulates_start (hempty : site.store.entries = []) (hstore : site.store.available)
    (hdirectory : site.directory.available) :
    Simulates service (start site.now site.directory) site where
  now := rfl
  directory := rfl
  store_up := hstore
  directory_up := hdirectory
  bounded _ := trivial
  kept identity origin later _ := by
    rw [Store.Memory.live?, Store.Memory.find?, hempty]
    rfl

/-- The machine and the site agree after every calm history. -/
theorem simulates_after {occurrences : List Occurrence} (h : Simulates service machine site)
    (hcalm : ∀ occurrence ∈ occurrences, occurrence.IsCalm) (hstart : site.now.InCalendar)
    (hready : service.IsReady (site.after service occurrences).now) :
    Simulates service (machine.after service occurrences) (site.after service occurrences) := by
  induction occurrences generalizing machine site with
  | nil => exact h
  | cons occurrence rest ih =>
    -- the settings only have to hold at the end, since the clock never goes back
    have hready' : service.IsReady site.now :=
      hready.of_le hstart (Time.le_refl _) (Site.now_le_after (occurrence :: rest))
    have hnext : (site.step service occurrence).now.InCalendar :=
      hstart.of_le hready.calendar (Site.now_le_step occurrence) (Site.now_le_after rest)
    exact ih (simulates_step h hready' (hcalm occurrence List.mem_cons_self))
      (fun other hother => hcalm other (List.mem_cons_of_mem _ hother)) hnext hready

/-- Over any history of a site that starts without entries in its store, and whose store and
directory answer throughout, the lockout is the machine. The store keeps the tally of every pair. No
tally goes beyond the limit, and failures that count keep their deadline whatever occurs. A login
that is not well formed is told so and is not counted. Any other ends as the attempt of its pair
does, which is locked exactly while as many failures count as the limit allows; nothing is looked up
then. The store keeps afterwards what the machine has counted with the login. -/
theorem login_after (service : Service) (start : Site) (occurrences : List Occurrence)
    (hempty : start.store.entries = []) (hstore : start.store.available)
    (hdirectory : start.directory.available)
    (hcalm : ∀ occurrence ∈ occurrences, occurrence.IsCalm) (hstart : start.now.InCalendar)
    (hready : service.IsReady (start.after service occurrences).now) :
    let site := start.after service occurrences
    let machine := (Machine.start start.now start.directory).after service occurrences
    let policy := service.lockout.policy
    (∀ identity origin, site.store.Keeps (key identity origin) site.now
      (machine.tally (key identity origin))) ∧
    (∀ key, (machine.tally key).IsBounded policy) ∧
    (∀ occurrence key count deadline after moved,
      (machine.tally key).current site.now = .failed count deadline →
      (machine.step service occurrence).tally key = .failed after moved →
        moved = deadline ∧ count ≤ after) ∧
    ∀ request attempt, request.login? service = some attempt →
      let run := site.handle service request
      (∀ failure, attempt.address? = .error failure →
        run.answer? = some (request.reportLogin service (.error failure)) ∧
        run.state.store = site.store) ∧
      (∀ address, attempt.address? = .ok address →
        let outcome := machine.attempt service address attempt.password attempt.origin
        (∃ result, run.answer? = some (request.reportLogin service result) ∧
          outcome.1.Fits result) ∧
        (outcome.1 = .locked ↔ ∃ count deadline,
          machine.tally (key address attempt.origin) = .failed count deadline ∧
            site.now < deadline ∧ policy.maxAttempts.toNat ≤ count) ∧
        (outcome.1 = .locked → ∀ effect ∈ run.effects, ¬effect.LooksUp)) ∧
      ∀ identity origin, run.state.store.Keeps (key identity origin) site.now
        ((machine.login service attempt).tally (key identity origin)) := by
  intro site machine policy
  have hsim : Simulates service machine site :=
    simulates_after (simulates_start hempty hstore hdirectory) hcalm hstart hready
  refine ⟨hsim.kept, hsim.bounded, ?_, fun request attempt hlogin => ?_⟩
  · intro occurrence key count deadline after moved hcurrent hafter
    rcases tally_step service machine occurrence key with heq | ⟨user?, heq⟩
    · -- the tally is the one it was, so the failures that count are all there are
      rw [heq, (Tally.current_eq_failed_iff.mp hcurrent).1] at hafter
      cases hafter
      exact ⟨rfl, Nat.le_refl _⟩
    · rw [heq, hsim.now] at hafter
      exact Tally.deadline_of_attempt hcurrent hafter
  · have hhandle : site.handle service request =
        (site.run (service.login attempt.email attempt.password attempt.origin
          ⟨site.now, attempt.fresh⟩).run).map (request.reportLogin service) :=
      Request.handle_of_login? hlogin
    refine ⟨fun failure haddress => ?_, fun address haddress => ?_, hsim.kept_login hready hlogin⟩
    · rw [hhandle, Service.run_login_of_error haddress]
      exact ⟨rfl, rfl⟩
    · obtain ⟨⟨result, hresult, hfits⟩, -, hquiet⟩ := hsim.follows hready haddress
      refine ⟨⟨result, ?_, hfits⟩, ?_, ?_⟩
      · rw [hhandle, Run.map, hresult]
        rfl
      · rw [Machine.attempt, hsim.now]
        exact Tally.attempt_eq_locked_iff
      · rw [hhandle]
        exact hquiet

/-- A guess at the password of an address, from a caller whose origin is not known. -/
def sampleGuess : Request := .rpcLogin ⟨[], none⟩ "a@b" "guess" ⟨[]⟩

def sampleGuesses : List Occurrence := List.replicate 5 (.request sampleGuess)

/-- After five guesses the sixth is told that there were too many, and nothing is looked up. -/
theorem login_after_sample :
    let run := (Site.sample.after Service.sample sampleGuesses).handle Service.sample sampleGuess
    run.answer? = some (.rpcLogin (.error (Rpc.Status.ofFailure (.refusal .tooManyAttempts)))) ∧
      ∀ effect ∈ run.effects, ¬effect.LooksUp := by
  have hcalm : ∀ occurrence ∈ sampleGuesses, occurrence.IsCalm := by
    intro occurrence hmem
    rw [List.eq_of_mem_replicate hmem]
    exact trivial
  have hnow : (Site.sample.after Service.sample sampleGuesses).now = Site.sample.now := by
    simp [sampleGuesses, List.replicate]
  have hready : Service.sample.IsReady
      (Site.sample.after Service.sample sampleGuesses).now := by
    rw [hnow]
    exact ⟨by decide, by decide, by decide, by decide⟩
  obtain ⟨-, -, -, hlogin⟩ := login_after Service.sample Site.sample sampleGuesses rfl rfl rfl hcalm
    (by decide) hready
  obtain ⟨-, hwellFormed, -⟩ := hlogin sampleGuess ⟨"a@b", "guess", "unknown", ⟨[]⟩⟩ rfl
  obtain ⟨⟨result, hanswer, hfits⟩, -, hquiet⟩ := hwellFormed "a@b" rfl
  -- five guesses have locked the machine, and the site does as the machine
  have hlocked : (((Machine.start Site.sample.now Site.sample.directory).after Service.sample
      sampleGuesses).attempt Service.sample "a@b" "guess" "unknown").1 = .locked := by
    rfl
  rw [hlocked] at hfits
  have hresult : result = .error (.refusal .tooManyAttempts) := hfits
  rw [hresult] at hanswer
  exact ⟨hanswer, hquiet hlocked⟩

end Lockout.Machine
end Bearer
