import Bearer.Proofs.Site.Run

/-!
# Runs in any surroundings

A site has a store in memory. Here a program is run against a store and a directory of which nothing
is known: the store answers each call from a state of its own, as it pleases, may fail at any of
them and may abort any; the directory is a function. So a statement about all surroundings covers
every pattern of failures within one run.

Main statements: `run_ofSite`, a site is such surroundings, and `of_mem_serve`, what every run keeps
to holds of a list of requests that are answered one after another.
-/

namespace Bearer

/-- The call to the store that an effect is, if it is one. -/
def Effect.call? : Effect → Option Store.Call
  | .store call => some call
  | _ => none

/-- The calls to the store that a run has made, in order. -/
def Program.Run.calls {σ α : Type} (r : Program.Run σ α) : List Store.Call :=
  r.effects.filterMap Effect.call?

/-- What follows a run makes its calls after those of the run. -/
theorem Program.Run.calls_prefix_andThen {σ α β : Type} (r : Program.Run σ α)
    (next : α → σ → Program.Run σ β) : r.calls <+: (r.andThen next).calls := by
  rcases h : r.answer? with _ | a
  · rw [andThen_of_none h]
    exact List.prefix_rfl
  · rw [andThen_of_some h, calls, calls, List.filterMap_append]
    exact List.prefix_append _ _

/-- A store and a directory of users that answer as they please. -/
structure Surroundings (σ : Type) where
  /-- How the store answers a call in a state, unless it aborts it, and its state afterwards. -/
  answer : (call : Store.Call) → σ → Option (Except Store.Failure call.Reply) × σ
  /-- How the directory answers when it is asked for an address. -/
  find : String → Except Failure (Option User)

/-- What changes in surroundings: the state of the store, and the counters. -/
structure Standing (σ : Type) where
  /-- The state of the store. -/
  store : σ
  metrics : Metrics

namespace Surroundings

open Program (Run)

variable {σ α β : Type}

/-- Performs an effect. There is no reply when the effect aborts the program. -/
def respond (around : Surroundings σ) :
    (effect : Effect) → Standing σ → Option effect.Reply × Standing σ
  | .store call, standing =>
    let (reply, store) := around.answer call standing.store
    (reply, { standing with store })
  | .findUser email, standing => (some (around.find email), standing)
  | .checkPassword password stored, standing =>
    (some (Password.verifyStored password stored), standing)
  | .note event, standing => (some (), { standing with metrics := standing.metrics.add event })
  | .readMetrics, standing => (some standing.metrics, standing)

/-- Runs a program. -/
def run (around : Surroundings σ) (standing : Standing σ) (program : Program α) :
    Run (Standing σ) α :=
  program.run around.respond standing

theorem run_pure (around : Surroundings σ) (standing : Standing σ) (a : α) :
    around.run standing (pure a) = ⟨some a, standing, []⟩ := rfl

theorem run_bind (around : Surroundings σ) (standing : Standing σ) (p : Program α)
    (f : α → Program β) :
    around.run standing (p >>= f) =
      (around.run standing p).andThen fun a standing => around.run standing (f a) :=
  Program.run_bind p f standing

theorem run_map (around : Surroundings σ) (standing : Standing σ) (f : α → β) (p : Program α) :
    around.run standing (f <$> p) = (around.run standing p).map f :=
  Program.run_map f p standing

theorem run_flow_bind {ε : Type} (around : Surroundings σ) (standing : Standing σ)
    (x : ExceptT ε Program α) (f : α → ExceptT ε Program β) :
    around.run standing (x >>= f).run =
      (around.run standing x.run).andThen
        (Run.whenOk fun a standing => around.run standing (f a).run) :=
  Program.run_flow_bind x f standing

theorem run_lift {ε : Type} (around : Surroundings σ) (standing : Standing σ) (p : Program α) :
    around.run standing (liftM p : ExceptT ε Program α).run = (around.run standing p).map .ok :=
  Program.run_flow_lift p standing

theorem run_adapt {ε ε' : Type} (around : Surroundings σ) (standing : Standing σ) (f : ε → ε')
    (x : ExceptT ε Program α) :
    around.run standing (ExceptT.adapt f x).run =
      (around.run standing x.run).map (Except.mapError f) :=
  Program.run_flow_adapt f x standing

/-! ## Single steps -/

theorem run_findUser (around : Surroundings σ) (standing : Standing σ) (email : String) :
    around.run standing (Program.findUser email).run =
      ⟨some (around.find email), standing, [.findUser email]⟩ := rfl

theorem run_checkPassword (around : Surroundings σ) (standing : Standing σ) (password : String)
    (stored : Option String) :
    around.run standing (Program.checkPassword password stored) =
      ⟨some (Password.verifyStored password stored), standing,
        [.checkPassword password stored]⟩ := rfl

theorem run_note (around : Surroundings σ) (standing : Standing σ) (event : Event) :
    around.run standing (Program.note event) =
      ⟨some (), { standing with metrics := standing.metrics.add event }, [.note event]⟩ := rfl

/-- The store answers a call. -/
theorem run_call (around : Surroundings σ) (standing : Standing σ) (call : Store.Call) :
    around.run standing (Program.call call).run =
      ⟨(around.answer call standing.store).1,
        { standing with store := (around.answer call standing.store).2 }, [.store call]⟩ :=
  Program.run_perform (.store call) standing

/-! ## Sites -/

/-- The surroundings that a site is at its time. -/
def ofSite (site : Site) : Surroundings Store.Memory where
  answer call store := store.perform site.now call
  find := site.directory.find

/-- A run against a site is one in such surroundings, of which the clock and the directory are no
part that changes. -/
theorem run_ofSite (site : Site) (program : Program α) :
    (ofSite site).run ⟨site.store, site.metrics⟩ program =
      ⟨(site.run program).answer?, ⟨(site.run program).state.store,
        (site.run program).state.metrics⟩, (site.run program).effects⟩ := by
  refine Program.run_read (fun site : Site => Standing.mk site.store site.metrics)
    (I := fun s => s.now = site.now ∧ s.directory = site.directory) ?_ ?_ program ⟨rfl, rfl⟩
  · rintro (call | email | _ | _ | _) s ⟨hnow, hdirectory⟩
    · simp only [respond, Site.respond, ofSite, hnow]
    · simp only [respond, Site.respond, ofSite, hdirectory]
    · rfl
    · rfl
    · rfl
  · rintro (_ | _ | _ | _ | _) s hsame <;> exact hsame

/-! ## One request after another -/

/-- Something that is asked for, when it is, and the surroundings at that time. -/
structure Occasion (σ ρ : Type) where
  now : Time
  around : Surroundings σ
  request : ρ

/-- The answers to what is asked for, one after another. Whoever is aborted gets none, and the next
goes on from where it stopped. -/
def serve {ρ : Type} (program : Time → ρ → Program α) :
    List (Occasion σ ρ) → Standing σ → List (Option α)
  | [], _ => []
  | occasion :: rest, standing =>
    let r := occasion.around.run standing (program occasion.now occasion.request)
    r.answer? :: serve program rest r.state

/-- What holds of the answer on each occasion holds of all that are served. -/
theorem of_mem_serve {ρ : Type} {program : Time → ρ → Program α} {P : Option α → Prop}
    {occasions : List (Occasion σ ρ)}
    (h : ∀ occasion ∈ occasions, ∀ standing,
      P (occasion.around.run standing (program occasion.now occasion.request)).answer?)
    {standing : Standing σ} {answer? : Option α}
    (hmem : answer? ∈ serve program occasions standing) : P answer? := by
  induction occasions generalizing standing with
  | nil => cases hmem
  | cons occasion rest ih =>
    rw [serve, List.mem_cons] at hmem
    rcases hmem with rfl | hmem
    · exact h occasion List.mem_cons_self standing
    · exact ih (fun other hother => h other (List.mem_cons_of_mem _ hother)) hmem

end Surroundings
end Bearer
