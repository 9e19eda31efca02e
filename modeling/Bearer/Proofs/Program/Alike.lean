import Bearer.Proofs.Program.Surroundings

/-!
# Programs that differ in texts only

A failure carries a text for the operator. Two replies are alike if they are the same but for the
texts of a failure, and two programs are alike if they perform the same effects and alike replies
lead to alike programs. A program need not be alike to itself, since it may look into a text; one
that is cannot tell two surroundings apart that differ in texts.

Main statement: `Alike.run`, alike programs in alike surroundings have alike runs.
-/

namespace Bearer

/-- The same refusal with another text, if it has one. -/
def Refusal.withDetail (detail : String) : Refusal → Refusal
  | .weakSecret _ => .weakSecret detail
  | .configuration _ => .configuration detail
  | .storeUnavailable _ => .storeUnavailable detail
  | .internal _ => .internal detail
  | refusal => refusal

/-- The same failure with another text, if it has one. -/
def Failure.withDetail (detail : String) : Failure → Failure
  | .refusal cause => .refusal (cause.withDetail detail)
  | .database _ => .database detail
  | .validation _ => .validation detail
  | .internal _ => .internal detail

/-- Two refusals differ in their texts at the most. -/
def Refusal.Alike (refusal other : Refusal) : Prop := ∃ detail, other = refusal.withDetail detail

/-- Two failures differ in their texts at the most. -/
def Failure.Alike (failure other : Failure) : Prop := ∃ detail, other = failure.withDetail detail

/-- A refusal is alike itself. -/
theorem Refusal.Alike.refl (refusal : Refusal) : refusal.Alike refusal := by
  cases refusal with
  | weakSecret detail => exact ⟨detail, rfl⟩
  | configuration detail => exact ⟨detail, rfl⟩
  | storeUnavailable detail => exact ⟨detail, rfl⟩
  | internal detail => exact ⟨detail, rfl⟩
  | _ => exact ⟨"", rfl⟩

/-- Refusals that are alike make failures that are. -/
theorem Refusal.Alike.toFailure {refusal other : Refusal} (h : refusal.Alike other) :
    (Failure.refusal refusal).Alike (.refusal other) := by
  obtain ⟨detail, rfl⟩ := h
  exact ⟨detail, rfl⟩

/-- A failure is alike itself. -/
theorem Failure.Alike.refl (failure : Failure) : failure.Alike failure := by
  cases failure with
  | refusal cause => exact (Refusal.Alike.refl cause).toFailure
  | database detail => exact ⟨detail, rfl⟩
  | validation detail => exact ⟨detail, rfl⟩
  | internal detail => exact ⟨detail, rfl⟩

/-- Whatever made a store fail, the refusals that come of it are alike. -/
theorem Store.Failure.alike_toRefusal (failure other : Store.Failure) :
    failure.toRefusal.Alike other.toRefusal :=
  ⟨other.message, rfl⟩

/-- Two results are the same, or both are failures, which are related. -/
inductive ResultAlike {ε α : Type} (R : ε → ε → Prop) : Except ε α → Except ε α → Prop where
  | ok (a : α) : ResultAlike R (.ok a) (.ok a)
  | error {e e' : ε} (h : R e e') : ResultAlike R (.error e) (.error e')

section ResultAlike

variable {ε ε' α β : Type} {R : ε → ε → Prop} {R' : ε' → ε' → Prop} {result other : Except ε α}

/-- A result is alike itself if its errors are. -/
theorem ResultAlike.refl (h : ∀ e, R e e) (result : Except ε α) : ResultAlike R result result := by
  cases result with
  | ok a => exact .ok a
  | error e => exact .error (h e)

/-- Results that are alike stay so when their errors are worded alike. -/
theorem ResultAlike.mapError (f : ε → ε') (hf : ∀ e e', R e e' → R' (f e) (f e'))
    (h : ResultAlike R result other) : ResultAlike R' (result.mapError f) (other.mapError f) := by
  cases h with
  | ok a => exact .ok a
  | error herror => exact .error (hf _ _ herror)

/-- What is made of results that are alike is the same, if it is for failures that are related. -/
theorem ResultAlike.eq (f : Except ε α → β) (hf : ∀ e e', R e e' → f (.error e) = f (.error e'))
    (h : ResultAlike R result other) : f result = f other := by
  cases h with
  | ok a => rfl
  | error herror => exact hf _ _ herror

end ResultAlike

/-- Two replies to an effect differ in the texts of failures at the most; of a store that gave no
answer the cause may differ as well. -/
def Effect.Alike : (effect : Effect) → effect.Reply → effect.Reply → Prop
  | .store _ => ResultAlike fun _ _ => True
  | .findUser _ => ResultAlike Failure.Alike
  | _ => Eq

namespace Program

variable {α β γ δ ε ε' σ τ : Type}

/-- Two programs perform the same effects, alike replies lead to alike programs, and their answers
are related. -/
inductive Alike (R : α → β → Prop) : Program α → Program β → Prop where
  /-- The answers are there. -/
  | done {a : α} {b : β} (h : R a b) : Alike R (.done a) (.done b)
  /-- The first effect is the same, and what follows is alike. -/
  | step {effect : Effect} {next : effect.Reply → Program α} {next' : effect.Reply → Program β}
    (h : ∀ reply other, effect.Alike reply other → Alike R (next reply) (next' other)) :
    Alike R (.step effect next) (.step effect next')

variable {R : α → β → Prop} {S : γ → δ → Prop}

/-- One effect twice comes to the same where its replies are alike. -/
theorem Alike.perform (effect : Effect) : Alike effect.Alike (perform effect) (perform effect) :=
  .step fun _ _ h => .done h

/-- What follows programs that come to the same comes to the same. -/
theorem Alike.bind {p : Program α} {q : Program β} {f : α → Program γ} {g : β → Program δ}
    (hp : Alike R p q) (hf : ∀ a b, R a b → Alike S (f a) (g b)) :
    Alike S (p >>= f) (q >>= g) := by
  induction hp with
  | done h => exact hf _ _ h
  | step _ ih => exact .step ih

/-- What is made of programs that come to the same comes to the same. -/
theorem Alike.map {p : Program α} {q : Program β} {f : α → γ} {g : β → δ}
    (hp : Alike R p q) (hf : ∀ a b, R a b → S (f a) (g b)) : Alike S (f <$> p) (g <$> q) := by
  rw [map_eq_pure_bind, map_eq_pure_bind]
  exact hp.bind fun a b h => .done (hf a b h)

/-- Computations that can fail are alike if what they go on with is. -/
theorem Alike.flow_bind {E : ε → ε → Prop} {x y : ExceptT ε Program α}
    {f g : α → ExceptT ε Program γ} (hx : Alike (ResultAlike E) x.run y.run)
    (hf : ∀ a, Alike (ResultAlike E) (f a).run (g a).run) :
    Alike (ResultAlike E) (x >>= f).run (y >>= g).run := by
  rw [ExceptT.run_bind, ExceptT.run_bind]
  refine hx.bind fun result other h => ?_
  cases h with
  | ok a => exact hf a
  | error herror => exact .done (.error herror)

/-- Computations that come to the same do so when their errors are worded alike. -/
theorem Alike.adapt {E : ε → ε → Prop} {E' : ε' → ε' → Prop} {x y : ExceptT ε Program α}
    (f : ε → ε') (hf : ∀ e e', E e e' → E' (f e) (f e'))
    (hx : Alike (ResultAlike E) x.run y.run) :
    Alike (ResultAlike E') (ExceptT.adapt f x).run (ExceptT.adapt f y).run :=
  hx.map fun _ _ h => h.mapError f hf

/-- What cannot fail comes to the same as a computation that can. -/
theorem Alike.lift {E : ε → ε → Prop} {p q : Program α} (hp : Alike Eq p q) :
    Alike (ResultAlike E) (liftM p : ExceptT ε Program α).run
      (liftM q : ExceptT ε Program α).run := by
  rw [ExceptT.run_liftM, ExceptT.run_liftM]
  refine hp.map fun a b h => ?_
  rw [h]
  exact .ok b

/-- A result that is known already comes to the same as itself. -/
theorem Alike.liftExcept {E : ε → ε → Prop} (hrefl : ∀ e, E e e) (result : Except ε α) :
    Alike (ResultAlike E) (liftExcept result : ExceptT ε Program α).run
      (liftExcept result : ExceptT ε Program α).run := by
  cases result with
  | ok a => exact .done (.ok a)
  | error e => exact .done (.error (hrefl e))

/-- Alike programs in alike surroundings have alike runs: their answers are related, they perform
the same effects, and they leave related states. -/
theorem Alike.run {respond : (effect : Effect) → σ → Option effect.Reply × σ}
    {respond' : (effect : Effect) → τ → Option effect.Reply × τ} {I : σ → τ → Prop}
    (hstep : ∀ effect s t, I s t →
      Option.Rel effect.Alike (respond effect s).1 (respond' effect t).1 ∧
        I (respond effect s).2 (respond' effect t).2)
    {p : Program α} {q : Program β} (h : Alike R p q) {s : σ} {t : τ} (hs : I s t) :
    Option.Rel R (p.run respond s).answer? (q.run respond' t).answer? ∧
      (p.run respond s).effects = (q.run respond' t).effects ∧
        I (p.run respond s).state (q.run respond' t).state := by
  induction h generalizing s t with
  | done h => exact ⟨.some h, rfl, hs⟩
  | @step effect next next' h ih =>
    obtain ⟨hreply, hstate⟩ := hstep effect s t hs
    rw [Program.run, Program.run]
    -- both sides go on with alike replies, or with none
    generalize respond effect s = one at hreply hstate
    generalize respond' effect t = other at hreply hstate
    obtain ⟨reply?, s'⟩ := one
    obtain ⟨other?, t'⟩ := other
    cases hreply with
    | none => exact ⟨.none, rfl, hstate⟩
    | some halike =>
      obtain ⟨hanswer, heffects, hrest⟩ := ih _ _ halike hstate
      exact ⟨hanswer, congrArg _ heffects, hrest⟩

end Program

/-- Two surroundings answer alike, from related states of their stores. -/
structure Surroundings.Alike {σ τ : Type} (I : σ → τ → Prop) (around : Surroundings σ)
    (other : Surroundings τ) : Prop where
  /-- The stores abort the same calls, and answer the others alike. -/
  answer : ∀ call s t, I s t →
    Option.Rel (ResultAlike fun _ _ => True) (around.answer call s).1 (other.answer call t).1
  /-- The states stay related. -/
  state : ∀ call s t, I s t → I (around.answer call s).2 (other.answer call t).2
  /-- The directories answer alike. -/
  find : ∀ email, ResultAlike Failure.Alike (around.find email) (other.find email)

/-- What is known in two surroundings that answer alike: related states of the stores, and the same
counters. -/
structure Standing.Alike {σ τ : Type} (I : σ → τ → Prop) (standing : Standing σ)
    (other : Standing τ) : Prop where
  store : I standing.store other.store
  metrics : standing.metrics = other.metrics

/-- Surroundings that are alike reply alike to each effect, and stay so. -/
theorem Surroundings.Alike.respond {σ τ : Type} {I : σ → τ → Prop} {around : Surroundings σ}
    {other : Surroundings τ} (h : around.Alike I other) (effect : Effect) (s : Standing σ)
    (t : Standing τ) (hs : s.Alike I t) :
    Option.Rel effect.Alike (around.respond effect s).1 (other.respond effect t).1 ∧
      (around.respond effect s).2.Alike I (other.respond effect t).2 := by
  obtain ⟨hstore, hmetrics⟩ := hs
  cases effect with
  | store call => exact ⟨h.answer call _ _ hstore, h.state call _ _ hstore, hmetrics⟩
  | findUser email => exact ⟨.some (h.find email), hstore, hmetrics⟩
  | checkPassword password stored => exact ⟨.some rfl, hstore, hmetrics⟩
  | note event => exact ⟨.some rfl, hstore, congrArg (·.add event) hmetrics⟩
  | readMetrics => exact ⟨.some hmetrics, hstore, hmetrics⟩

end Bearer
