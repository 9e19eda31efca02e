import Bearer.Program

/-!
# How runs compose

A run of one program and then another is the run of the first followed by the run of the second. Two
ways to speak about all runs of a program follow from that: an exact one, where the run is computed
from the runs of its parts, and a coarse one, where all that is known is the kind of effects that
the program performs.

Main statements: `run_bind` composes runs, `run_flow_bind` does so for computations that can fail,
and `run_invariant` says that what every effect of a kind keeps, a program of such effects keeps.
-/

namespace Bearer.Program

variable {α β σ ε : Type} {respond : (effect : Effect) → σ → Option effect.Reply × σ}

namespace Run

/-- A run followed by one that depends on its answer and starts from what it left behind. -/
def andThen (r : Run σ α) (next : α → σ → Run σ β) : Run σ β :=
  match r.answer? with
  | some a =>
    ⟨(next a r.state).answer?, (next a r.state).state, r.effects ++ (next a r.state).effects⟩
  | none => ⟨none, r.state, r.effects⟩

/-- What follows a computation that can fail: nothing, if it did. -/
def whenOk (next : α → σ → Run σ (Except ε β)) : Except ε α → σ → Run σ (Except ε β)
  | .ok a, s => next a s
  | .error e, s => ⟨some (.error e), s, []⟩

def map (f : α → β) (r : Run σ α) : Run σ β := ⟨r.answer?.map f, r.state, r.effects⟩

@[simp]
theorem andThen_some (a : α) (s : σ) (effects : List Effect) (next : α → σ → Run σ β) :
    (Run.mk (some a) s effects).andThen next =
      ⟨(next a s).answer?, (next a s).state, effects ++ (next a s).effects⟩ := rfl

@[simp]
theorem andThen_none (s : σ) (effects : List Effect) (next : α → σ → Run σ β) :
    (Run.mk none s effects).andThen next = ⟨none, s, effects⟩ := rfl

/-- A run that has an answer goes on with it. -/
theorem andThen_of_some {r : Run σ α} {a : α} (h : r.answer? = some a) (next : α → σ → Run σ β) :
    r.andThen next = ⟨(next a r.state).answer?, (next a r.state).state,
      r.effects ++ (next a r.state).effects⟩ := by
  rw [andThen, h]

/-- A run that was aborted does not go on. -/
theorem andThen_of_none {r : Run σ α} (h : r.answer? = none) (next : α → σ → Run σ β) :
    r.andThen next = ⟨none, r.state, r.effects⟩ := by
  rw [andThen, h]

/-- One run and then another come to an answer exactly if both do. -/
theorem answer?_andThen_eq_some {r : Run σ α} {next : α → σ → Run σ β} {b : β} :
    (r.andThen next).answer? = some b ↔
      ∃ a, r.answer? = some a ∧ (next a r.state).answer? = some b := by
  rw [andThen]
  cases r.answer? <;> simp

@[simp]
theorem whenOk_ok (next : α → σ → Run σ (Except ε β)) (a : α) (s : σ) :
    whenOk next (.ok a) s = next a s := rfl

@[simp]
theorem whenOk_error (next : α → σ → Run σ (Except ε β)) (e : ε) (s : σ) :
    whenOk next (.error e) s = ⟨some (.error e), s, []⟩ := rfl

@[simp]
theorem map_mk (f : α → β) (answer? : Option α) (s : σ) (effects : List Effect) :
    (Run.mk answer? s effects).map f = ⟨answer?.map f, s, effects⟩ := rfl

@[simp]
theorem map_mapError_ok {ε' : Type} (f : ε → ε') (a : α) (s : σ) (effects : List Effect) :
    (Run.mk (some (.ok a)) s effects).map (Except.mapError f) = ⟨some (.ok a), s, effects⟩ := rfl

@[simp]
theorem answer?_map (f : α → β) (r : Run σ α) : (r.map f).answer? = r.answer?.map f := rfl

@[simp]
theorem state_map (f : α → β) (r : Run σ α) : (r.map f).state = r.state := rfl

@[simp]
theorem effects_map (f : α → β) (r : Run σ α) : (r.map f).effects = r.effects := rfl

/-- What is made of an answer in two steps is made of it in one. -/
theorem map_map {γ : Type} (g : β → γ) (f : α → β) (r : Run σ α) :
    (r.map f).map g = r.map fun a => g (f a) := by
  rw [map, map, map, Option.map_map]
  rfl

end Run

@[simp]
theorem run_done (a : α) (s : σ) : (Program.done a).run respond s = ⟨some a, s, []⟩ := rfl

/-- A single effect is run to the reply to it. -/
theorem run_perform (effect : Effect) (s : σ) :
    (perform effect).run respond s =
      ⟨(respond effect s).1, (respond effect s).2, [effect]⟩ := by
  rw [perform, run]
  split <;> simp_all

/-- The run of a program and then another is the run of the one followed by that of the other. -/
theorem run_bind (p : Program α) (f : α → Program β) (s : σ) :
    (p >>= f).run respond s = (p.run respond s).andThen fun a s => (f a).run respond s := by
  induction p generalizing s with
  | done a => simp
  | step effect next ih =>
    rw [step_bind, run, run]
    -- an effect without a reply ends both sides
    split
    · next reply s' _ =>
      rw [ih reply s']
      cases h : ((next reply).run respond s').answer? <;> simp [Run.andThen, h]
    · rfl

/-- What is made of the answer of a program is made of that of its run. -/
theorem run_map (f : α → β) (p : Program α) (s : σ) :
    (f <$> p).run respond s = (p.run respond s).map f := by
  rw [map_eq_pure_bind, run_bind]
  cases h : (p.run respond s).answer? <;> simp [Run.andThen, Run.map, h]

/-- The run of a computation that can fail and then another: a failure ends it. -/
theorem run_flow_bind (x : ExceptT ε Program α) (f : α → ExceptT ε Program β) (s : σ) :
    (x >>= f).run.run respond s =
      (x.run.run respond s).andThen (Run.whenOk fun a s => (f a).run.run respond s) := by
  rw [ExceptT.run_bind, run_bind]
  congr 1
  funext result s
  -- after an error nothing is run
  cases result <;> rfl

/-- Of two computations that can fail, one and then the other succeed exactly if both do. -/
theorem run_flow_bind_eq_ok {x : ExceptT ε Program α} {f : α → ExceptT ε Program β} {s : σ}
    {b : β} :
    ((x >>= f).run.run respond s).answer? = some (.ok b) ↔
      ∃ a, (x.run.run respond s).answer? = some (.ok a) ∧
        ((f a).run.run respond (x.run.run respond s).state).answer? = some (.ok b) := by
  rw [run_flow_bind, Run.answer?_andThen_eq_some]
  constructor
  · rintro ⟨result, hfirst, hrest⟩
    cases result with
    | error e => cases hrest
    | ok a => exact ⟨a, hfirst, hrest⟩
  · rintro ⟨a, hfirst, hrest⟩
    exact ⟨.ok a, hfirst, hrest⟩

/-- A result that is known already is run without an effect. -/
theorem run_flow_liftExcept (result : Except ε α) (s : σ) :
    (liftExcept result : ExceptT ε Program α).run.run respond s = ⟨some result, s, []⟩ := by
  cases result <;> rfl

/-- A program that cannot fail is run as one that succeeds. -/
theorem run_flow_lift (p : Program α) (s : σ) :
    (liftM p : ExceptT ε Program α).run.run respond s = (p.run respond s).map .ok := by
  rw [ExceptT.run_liftM, run_map]

/-- What is made of the errors of a computation is made of those of its run. -/
theorem run_flow_adapt {ε' : Type} (f : ε → ε') (x : ExceptT ε Program α) (s : σ) :
    (ExceptT.adapt f x).run.run respond s = (x.run.run respond s).map (Except.mapError f) := by
  rw [ExceptT.run_adapt, run_map]

/-! ## Programs whose effects are of a kind -/

/-- Every effect that a program can perform, whatever the replies, is of a kind. -/
inductive Within (P : Effect → Prop) : Program α → Prop where
  /-- There is no effect. -/
  | done (a : α) : Within P (.done a)
  /-- The first effect is of the kind, and so are all that follow each of its replies. -/
  | step {effect : Effect} {next : effect.Reply → Program α} (first : P effect)
      (rest : ∀ reply, Within P (next reply)) : Within P (.step effect next)

variable {P Q : Effect → Prop}

/-- A single effect is within what holds of it. -/
theorem Within.perform {effect : Effect} (h : P effect) : (perform effect).Within P :=
  .step h .done

/-- Programs within a kind are so one after the other. -/
theorem Within.bind {p : Program α} {f : α → Program β} (hp : p.Within P)
    (hf : ∀ a, (f a).Within P) : (p >>= f).Within P := by
  induction hp with
  | done a => exact hf a
  | step first rest ih => exact .step first ih

/-- What is made of the answer of a program stays within its kind. -/
theorem Within.map {p : Program α} (f : α → β) (hp : p.Within P) : (f <$> p).Within P := by
  rw [map_eq_pure_bind]
  exact hp.bind fun _ => .done _

/-- Computations within a kind are so one after the other. -/
theorem Within.flow_bind {x : ExceptT ε Program α} {f : α → ExceptT ε Program β}
    (hx : x.run.Within P) (hf : ∀ a, (f a).run.Within P) : (x >>= f).run.Within P := by
  rw [ExceptT.run_bind]
  refine hx.bind fun result => ?_
  cases result with
  | ok a => exact hf a
  | error e => exact .done _

/-- A computation stays within its kind when its errors are worded in another way. -/
theorem Within.adapt {ε' : Type} {x : ExceptT ε Program α} (f : ε → ε') (hx : x.run.Within P) :
    (ExceptT.adapt f x).run.Within P :=
  hx.map (Except.mapError f)

/-- A program that cannot fail stays within its kind. -/
theorem Within.lift {p : Program α} (hp : p.Within P) :
    (liftM p : ExceptT ε Program α).run.Within P := by
  rw [ExceptT.run_liftM]
  exact hp.map Except.ok

theorem liftExcept_ok_bind (a : α) (f : α → ExceptT ε Program β) :
    ((liftExcept (.ok a : Except ε α) : ExceptT ε Program α) >>= f) = f a := rfl

theorem liftExcept_error_bind (e : ε) (f : α → ExceptT ε Program β) :
    ((liftExcept (.error e) : ExceptT ε Program α) >>= f) = throw e := rfl

/-- A program whose answer is then judged. -/
theorem lift_bind_liftExcept (p : Program α) (f : α → Except ε β) :
    ((liftM p : ExceptT ε Program α) >>= fun a => liftExcept (f a)).run = f <$> p := by
  rw [ExceptT.run_bind, ExceptT.run_liftM, map_eq_pure_bind, bind_assoc, map_eq_pure_bind]
  congr 1
  funext a
  change (liftExcept (f a) : ExceptT ε Program β).run = pure (f a)
  cases f a <;> rfl

/-- A result that is known already has no effects. -/
theorem Within.liftExcept (result : Except ε α) :
    (liftExcept result : ExceptT ε Program α).run.Within P := by
  cases result <;> exact .done _

/-- Every program is within a kind that holds of all effects. -/
theorem Within.of_forall (h : ∀ effect, P effect) (p : Program α) : p.Within P := by
  induction p with
  | done a => exact .done a
  | step effect next ih => exact .step (h effect) ih

/-- A program begins with an effect, and all that follow are of a kind. -/
inductive Begins (effect : Effect) (P : Effect → Prop) : Program α → Prop where
  | step {next : effect.Reply → Program α} (rest : ∀ reply, (next reply).Within P) :
    Begins effect P (.step effect next)

/-- A single effect begins with itself. -/
theorem Begins.perform (effect : Effect) : (perform effect).Begins effect P :=
  .step .done

/-- What follows a program begins as the program does, if it stays within the kind of the rest. -/
theorem Begins.bind {effect : Effect} {p : Program α} {f : α → Program β}
    (hp : p.Begins effect P) (hf : ∀ a, (f a).Within P) : (p >>= f).Begins effect P := by
  cases hp with
  | step rest => exact .step fun reply => (rest reply).bind hf

/-- What is made of the answer of a program begins as the program does. -/
theorem Begins.map {effect : Effect} {p : Program α} (f : α → β) (hp : p.Begins effect P) :
    (f <$> p).Begins effect P := by
  rw [map_eq_pure_bind]
  exact hp.bind fun _ => .done _

/-- What follows a computation begins as the computation does, if it stays within the kind of the
rest. -/
theorem Begins.flow_bind {effect : Effect} {x : ExceptT ε Program α}
    {f : α → ExceptT ε Program β} (hx : x.run.Begins effect P)
    (hf : ∀ a, (f a).run.Within P) : (x >>= f).run.Begins effect P := by
  rw [ExceptT.run_bind]
  refine hx.bind fun result => ?_
  cases result with
  | ok a => exact hf a
  | error e => exact .done _

/-- A computation begins in the same way when its errors are worded in another way. -/
theorem Begins.adapt {ε' : Type} {effect : Effect} {x : ExceptT ε Program α} (f : ε → ε')
    (hx : x.run.Begins effect P) : (ExceptT.adapt f x).run.Begins effect P :=
  hx.map (Except.mapError f)

/-- What is within a kind is within every wider one. -/
theorem Within.mono {p : Program α} (hp : p.Within P) (h : ∀ effect, P effect → Q effect) :
    p.Within Q := by
  induction hp with
  | done a => exact .done a
  | step first rest ih => exact .step (h _ first) ih

/-- What begins with an effect of a kind and goes on within it is within it. -/
theorem Begins.within {effect : Effect} {p : Program α} (hp : p.Begins effect P)
    (hfirst : Q effect) (h : ∀ effect, P effect → Q effect) : p.Within Q := by
  cases hp with
  | step rest => exact .step hfirst fun reply => (rest reply).mono h

/-- What every effect of a kind keeps, a run of a program of such effects keeps. -/
theorem run_invariant {I : σ → Prop}
    (hstep : ∀ effect s, P effect → I s → I (respond effect s).2) {p : Program α}
    (hp : p.Within P) {s : σ} (hs : I s) : I (p.run respond s).state := by
  induction hp generalizing s with
  | done a => exact hs
  | @step effect next first rest ih =>
    -- what the first effect leaves behind is where its reply goes on, if it has one
    have hs' := hstep effect s first hs
    rw [run]
    split
    · next reply s' h =>
      rw [h] at hs'
      exact ih reply hs'
    · next s' h =>
      rw [h] at hs'
      exact hs'

/-- A program comes to an answer where every effect of its kind is replied to. -/
theorem isSome_answer?_run {I : σ → Prop}
    (hstep : ∀ effect s, P effect → I s → (respond effect s).1.isSome ∧ I (respond effect s).2)
    {p : Program α} (hp : p.Within P) {s : σ} (hs : I s) : (p.run respond s).answer?.isSome := by
  -- over the effects of the program, as the run meets them
  induction hp generalizing s with
  | done a => rfl
  | @step effect next first rest ih =>
    obtain ⟨hreply, hs'⟩ := hstep effect s first hs
    rw [run]
    split
    · next reply s' h =>
      rw [h] at hs'
      exact ih reply hs'
    · next s' h =>
      rw [h] at hreply
      cases hreply

/-- All that a run has performed is of the kind of the effects of its program. -/
theorem Within.of_mem_effects {p : Program α} (hp : p.Within P) {s : σ} {effect : Effect}
    (h : effect ∈ (p.run respond s).effects) : P effect := by
  induction hp generalizing s with
  | done a => cases h
  | step first rest ih =>
    rw [run] at h
    split at h
    · rcases List.mem_cons.mp h with rfl | hrest
      · exact first
      · exact ih _ hrest
    · rw [List.mem_singleton.mp h]
      exact first

/-- Two ways to perform effects that agree on a kind of effects run the programs of that kind
alike. -/
theorem run_congr {respond' : (effect : Effect) → σ → Option effect.Reply × σ}
    (h : ∀ effect s, P effect → respond effect s = respond' effect s) {p : Program α}
    (hp : p.Within P) (s : σ) : p.run respond s = p.run respond' s := by
  induction hp generalizing s with
  | done a => rfl
  | @step effect next first rest ih =>
    rw [run, run, h effect s first]
    split
    · next reply s' _ => rw [ih reply s']
    · rfl

/-- States from which every effect of a kind is replied with the same, and which stay related by it,
run the programs of that kind alike. -/
theorem run_alike {τ : Type} {respond' : (effect : Effect) → τ → Option effect.Reply × τ}
    {R : σ → τ → Prop}
    (hstep : ∀ effect s t, P effect → R s t →
      (respond effect s).1 = (respond' effect t).1 ∧ R (respond effect s).2 (respond' effect t).2)
    {p : Program α} (hp : p.Within P) {s : σ} {t : τ} (h : R s t) :
    (p.run respond s).answer? = (p.run respond' t).answer? ∧
      (p.run respond s).effects = (p.run respond' t).effects ∧
        R (p.run respond s).state (p.run respond' t).state := by
  induction hp generalizing s t with
  | done a => exact ⟨rfl, rfl, h⟩
  | @step effect next first rest ih =>
    obtain ⟨hreply, hstate⟩ := hstep effect s t first h
    rw [run, run]
    -- both sides go on with the same reply, or with none
    generalize respond effect s = one at hreply hstate
    generalize respond' effect t = other at hreply hstate
    obtain ⟨reply?, s'⟩ := one
    obtain ⟨_, t'⟩ := other
    cases hreply
    cases reply? with
    | none => exact ⟨rfl, rfl, hstate⟩
    | some reply =>
      obtain ⟨hanswer, heffects, hrest⟩ := ih reply hstate
      exact ⟨hanswer, congrArg _ heffects, hrest⟩

/-- Where the replies depend on a part of the state only, a run can be read off that part. -/
theorem run_read {τ : Type} {respond' : (effect : Effect) → τ → Option effect.Reply × τ}
    (read : σ → τ) {I : σ → Prop}
    (hread : ∀ effect s, I s →
      respond' effect (read s) = ((respond effect s).1, read (respond effect s).2))
    (hkeep : ∀ effect s, I s → I (respond effect s).2) (p : Program α) {s : σ} (hs : I s) :
    p.run respond' (read s) =
      ⟨(p.run respond s).answer?, read (p.run respond s).state, (p.run respond s).effects⟩ := by
  induction p generalizing s with
  | done a => rfl
  | step effect next ih =>
    have hs' := hkeep effect s hs
    rw [run, run, hread effect s hs]
    -- both sides go on with the same reply, or with none
    generalize respond effect s = result at hs'
    obtain ⟨reply?, s'⟩ := result
    cases reply? with
    | none => rfl
    | some reply => simp only [ih reply hs']

end Bearer.Program
