import Bearer.Proofs.Program.Run
import Bearer.Proofs.Store.Live
import Bearer.Site

/-!
# Runs against a site

What the single steps of a program come to when the program is run against a site: the answer, the
site that is left behind, and the effects in order. With these the run of a whole program is
computed from its text.

A run never moves the clock, changes the directory or switches the store on or off.
-/

namespace Bearer

/-- A directory fails with nothing but faults of its own. -/
theorem Directory.database_of_find {directory : Directory} {email : String} {failure : Failure}
    (h : directory.find email = .error failure) : ∃ detail, failure = .database detail := by
  rw [find] at h
  split at h
  · cases h
  · cases h
    exact ⟨_, rfl⟩

/-- An effect is no call to the store that writes under a key. -/
def Effect.Leaves (key : String) : Effect → Prop
  | .store call => call.asks ∨ call.key ≠ key
  | _ => True

/-- An effect writes nothing to the store. -/
def Effect.IsQuiet : Effect → Prop
  | .store call => call.asks
  | _ => True

/-- An effect is no call to the store, and does not ask for the counters. -/
def Effect.IsPlain : Effect → Prop
  | .store _ | .readMetrics => False
  | _ => True

/-- What is plain is quiet. -/
theorem Effect.IsPlain.isQuiet {effect : Effect} (h : effect.IsPlain) : effect.IsQuiet := by
  cases effect with
  | store call => exact h.elim
  | _ => exact trivial

/-- What is quiet leaves every key. -/
theorem Effect.IsQuiet.leaves {effect : Effect} (h : effect.IsQuiet) (key : String) :
    effect.Leaves key := by
  cases effect with
  | store call => exact .inl h
  | _ => exact trivial

namespace Site

open Program (Run)

variable {α β ε ε' : Type} {site : Site}

def noted (site : Site) (event : Event) : Site := { site with metrics := site.metrics.add event }

@[simp]
theorem now_noted (site : Site) (event : Event) : (site.noted event).now = site.now := rfl

@[simp]
theorem store_noted (site : Site) (event : Event) : (site.noted event).store = site.store := rfl

@[simp]
theorem directory_noted (site : Site) (event : Event) :
    (site.noted event).directory = site.directory := rfl

def withStore (site : Site) (store : Store.Memory) : Site := { site with store }

@[simp]
theorem now_withStore (site : Site) (store : Store.Memory) :
    (site.withStore store).now = site.now := rfl

@[simp]
theorem store_withStore (site : Site) (store : Store.Memory) :
    (site.withStore store).store = store := rfl

@[simp]
theorem directory_withStore (site : Site) (store : Store.Memory) :
    (site.withStore store).directory = site.directory := rfl

/-! ## Single steps -/

theorem run_done (site : Site) (a : α) : site.run (.done a) = ⟨some a, site, []⟩ := rfl

theorem run_note (site : Site) (event : Event) :
    site.run (Program.note event) = ⟨some (), site.noted event, [.note event]⟩ := rfl

theorem run_checkPassword (site : Site) (password : String) (stored : Option String) :
    site.run (Program.checkPassword password stored) =
      ⟨some (Password.verifyStored password stored), site, [.checkPassword password stored]⟩ := rfl

theorem run_findUser (site : Site) (email : String) :
    site.run (Program.findUser email).run =
      ⟨some (site.directory.find email), site, [.findUser email]⟩ := rfl

theorem run_call (site : Site) (call : Store.Call) :
    site.run (Program.call call).run =
      ⟨(site.store.perform site.now call).1, site.withStore (site.store.perform site.now call).2,
        [.store call]⟩ :=
  Program.run_perform (.store call) site

theorem run_bind (site : Site) (p : Program α) (f : α → Program β) :
    site.run (p >>= f) = (site.run p).andThen fun a site => site.run (f a) :=
  Program.run_bind p f site

theorem run_map (site : Site) (f : α → β) (p : Program α) :
    site.run (f <$> p) = (site.run p).map f :=
  Program.run_map f p site

/-! ## Computations that can fail -/

theorem run_flow_bind (site : Site) (x : ExceptT ε Program α) (f : α → ExceptT ε Program β) :
    site.run (x >>= f).run =
      (site.run x.run).andThen (Run.whenOk fun a site => site.run (f a).run) :=
  Program.run_flow_bind x f site

/-- A computation succeeds exactly if its first part does and then the rest. -/
theorem run_flow_bind_eq_ok {x : ExceptT ε Program α} {f : α → ExceptT ε Program β} {b : β} :
    (site.run (x >>= f).run).answer? = some (.ok b) ↔
      ∃ a, (site.run x.run).answer? = some (.ok a) ∧
        ((site.run x.run).state.run (f a).run).answer? = some (.ok b) :=
  Program.run_flow_bind_eq_ok

theorem run_liftExcept (site : Site) (result : Except ε α) :
    site.run (liftExcept result : ExceptT ε Program α).run = ⟨some result, site, []⟩ :=
  Program.run_flow_liftExcept result site

theorem run_lift (site : Site) (p : Program α) :
    site.run (liftM p : ExceptT ε Program α).run = (site.run p).map .ok :=
  Program.run_flow_lift p site

theorem run_adapt (site : Site) (f : ε → ε') (x : ExceptT ε Program α) :
    site.run (ExceptT.adapt f x).run = (site.run x.run).map (Except.mapError f) :=
  Program.run_flow_adapt f x site

/-! ## What no run changes -/

/-- A run keeps what every effect keeps. -/
theorem run_keeps {γ : Type} (read : Site → γ)
    (hread : ∀ effect site, read (respond effect site).2 = read site) (site : Site)
    (p : Program α) : read (site.run p).state = read site :=
  Program.run_invariant (I := fun s => read s = read site) (P := fun _ => True)
    (fun effect s _ hs => (hread effect s).trans hs) (Program.Within.of_forall (fun _ => trivial) p)
    rfl

/-- No effect moves the clock. -/
@[simp]
theorem now_respond (effect : Effect) (site : Site) :
    (respond effect site).2.now = site.now := by
  cases effect <;> rfl

/-- The clock stands still during a run. -/
@[simp]
theorem now_run (site : Site) (p : Program α) : (site.run p).state.now = site.now :=
  run_keeps Site.now now_respond site p

/-- A run leaves the directory as it is. -/
@[simp]
theorem directory_run (site : Site) (p : Program α) :
    (site.run p).state.directory = site.directory :=
  run_keeps Site.directory (fun effect _ => by cases effect <;> rfl) site p

/-- No effect switches the store on or off. -/
@[simp]
theorem available_respond (effect : Effect) (site : Site) :
    (respond effect site).2.store.available = site.store.available := by
  cases effect with
  | store call => exact site.store.available_perform site.now call
  | _ => rfl

/-- A run does not switch the store on or off. -/
@[simp]
theorem available_run (site : Site) (p : Program α) :
    (site.run p).state.store.available = site.store.available :=
  run_keeps (fun site => site.store.available) available_respond site p

/-- A run keeps what every call of a kind keeps about the store, at the time of the clock. -/
theorem store_run_keeps {P : Effect → Prop} {I : Store.Memory → Prop} {p : Program α}
    (hp : p.Within P) (site : Site)
    (hcall : ∀ call memory, P (.store call) → I memory → I (memory.perform site.now call).2)
    (h : I site.store) : I (site.run p).state.store := by
  -- the clock is part of the invariant, since every call is answered at its time
  suffices hboth : (site.run p).state.now = site.now ∧ I (site.run p).state.store from hboth.2
  refine Program.run_invariant (I := fun s : Site => s.now = site.now ∧ I s.store)
    (fun effect s heffect hs => ?_) hp ⟨rfl, h⟩
  obtain ⟨hnow, hstore⟩ := hs
  refine ⟨(now_respond effect s).trans hnow, ?_⟩
  cases effect with
  | store call =>
    have hkept := hcall call s.store heffect hstore
    rw [← hnow] at hkept
    exact hkept
  | _ => exact hstore

/-- What the store shows under a key, now and later, is left alone by a program whose effects leave
the key alone. -/
theorem live?_run {p : Program α} {key : String} (hp : p.Within (Effect.Leaves key))
    (site : Site) {later : Time} (hle : site.now ≤ later) :
    (site.run p).state.store.live? key later = site.store.live? key later := by
  refine store_run_keeps (I := fun memory => memory.live? key later = site.store.live? key later)
    hp site ?_ rfl
  intro call memory hleaves hlive
  rw [memory.live?_perform key site.now hleaves hle, hlive]

/-! ## Runs during an outage -/

/-- While the store does not answer, no program changes it. -/
theorem store_run_of_outage (hdown : site.store.available = false) (p : Program α) :
    (site.run p).state.store = site.store := by
  refine store_run_keeps (I := fun memory => memory = site.store) (P := fun _ => True)
    (Program.Within.of_forall (fun _ => trivial) p) site (fun call memory _ h => ?_) rfl
  subst h
  rw [Store.Memory.perform_of_outage _ hdown]

/-- While the store does not answer, it aborts no program either. -/
theorem isSome_answer?_of_outage (hdown : site.store.available = false) (p : Program α) :
    (site.run p).answer?.isSome := by
  refine Program.isSome_answer?_run (I := fun s : Site => s.store.available = false)
    (P := fun _ => True) (fun effect s _ hs => ?_) (Program.Within.of_forall (fun _ => trivial) p)
    hdown
  refine ⟨?_, (available_respond effect s).trans hs⟩
  cases effect with
  | store call =>
    rw [respond, Store.Memory.perform_of_outage _ hs]
    rfl
  | _ => rfl

/-! ## Counters -/

/-- An event is counted exactly when it is noted. -/
theorem count_respond (effect : Effect) (site : Site) (event : Event) :
    (respond effect site).2.metrics.count event =
      site.metrics.count event + [effect].count (.note event) := by
  cases effect with
  | note other =>
    simp only [respond, Metrics.add, List.count_singleton, beq_iff_eq, Effect.note.injEq]
    split
    · next h => rw [if_pos h.symm]
    · next h => rw [if_neg (Ne.symm h), Nat.add_zero]
  | _ => rfl

/-- A run adds to the counters what it has noted. -/
theorem count_run (site : Site) (p : Program α) (event : Event) :
    (site.run p).state.metrics.count event =
      site.metrics.count event + (site.run p).effects.count (.note event) := by
  induction p generalizing site with
  | done a => rfl
  | step effect next ih =>
    have hfirst := count_respond effect site event
    rw [run, Program.run]
    -- what the first effect notes is counted before what the rest notes
    split
    · next reply site' h =>
      rw [h, List.count_singleton] at hfirst
      have hrest : (Program.run respond (next reply) site').state.metrics.count event =
          site'.metrics.count event +
            (Program.run respond (next reply) site').effects.count (.note event) := ih reply site'
      simp only [List.count_cons] at *
      omega
    · next site' h =>
      rw [h] at hfirst
      exact hfirst

end Site
end Bearer
