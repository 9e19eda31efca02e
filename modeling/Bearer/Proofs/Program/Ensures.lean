import Bearer.Proofs.Program.Run

/-!
# What a program ensures

How effects are replied to is known in part only: a conduct relates an effect and the state before
it to the replies that it can have and to the states after them. A program ensures a condition under
a conduct if it holds of every end that the program can come to: of the effects that were performed,
the answer, unless an effect aborted the program, and the state.

Main statements: `Ensures.bind` and `Ensures.flow_bind` take a program apart, and `Ensures.run` says
that what a program ensures holds of its runs.
-/

namespace Bearer.Program

variable {α β σ ε ε' : Type}

/-- How effects are replied to: an effect, the state before it, the reply, unless the effect aborts
the program, and the state after it. -/
abbrev Conduct (σ : Type) : Type := (effect : Effect) → σ → Option effect.Reply → σ → Prop

/-- A program comes to no end but such that meet a condition. -/
def Ensures (conduct : Conduct σ) :
    Program α → σ → (List Effect → Option α → σ → Prop) → Prop
  | .done a, s, Q => Q [] (some a) s
  | .step effect next, s, Q => ∀ reply? s', conduct effect s reply? s' →
    match reply? with
    | some reply => (next reply).Ensures conduct s' fun effects => Q (effect :: effects)
    | none => Q [effect] none s'

section Rules

variable {conduct : Conduct σ} {s : σ}

/-- What is ensured is ensured with every weaker condition. -/
theorem Ensures.mono {p : Program α} {Q R : List Effect → Option α → σ → Prop}
    (h : p.Ensures conduct s Q) (hle : ∀ effects a? s, Q effects a? s → R effects a? s) :
    p.Ensures conduct s R := by
  induction p generalizing s Q R with
  | done a => exact hle _ _ _ h
  | step effect next ih =>
    intro reply? s' hreply
    have hrest := h reply? s' hreply
    cases reply? with
    | none => exact hle _ _ _ hrest
    | some reply => exact ih reply hrest fun effects => hle (effect :: effects)

/-- A program at its end ensures what holds there. -/
theorem Ensures.done {a : α} {Q : List Effect → Option α → σ → Prop} (h : Q [] (some a) s) :
    (Program.done a).Ensures conduct s Q := h

/-- What holds of every end is ensured by every program. -/
theorem Ensures.of_forall {Q : List Effect → Option α → σ → Prop}
    (h : ∀ effects a? s, Q effects a? s) (p : Program α) : p.Ensures conduct s Q := by
  induction p generalizing s Q with
  | done a => exact h _ _ _
  | step effect next ih =>
    intro reply? s' _
    cases reply? with
    | none => exact h _ _ _
    | some reply => exact ih reply fun effects => h (effect :: effects)

/-- A single effect ensures what holds after each reply to it. -/
theorem Ensures.perform {effect : Effect} {Q : List Effect → Option effect.Reply → σ → Prop}
    (h : ∀ reply? s', conduct effect s reply? s' → Q [effect] reply? s') :
    (perform effect).Ensures conduct s Q := by
  intro reply? s' hreply
  have hend := h reply? s' hreply
  cases reply? with
  | none => exact hend
  | some reply => exact hend

/-- After the first program comes the second, unless the first one was aborted. -/
theorem Ensures.bind {p : Program α} {f : α → Program β}
    {Q : List Effect → Option β → σ → Prop}
    (h : p.Ensures conduct s fun effects a? s' => match a? with
      | some a => (f a).Ensures conduct s' fun rest => Q (effects ++ rest)
      | none => Q effects none s') :
    (p >>= f).Ensures conduct s Q := by
  induction p generalizing s Q with
  | done a => exact h
  | step effect next ih =>
    intro reply? s' hreply
    have hrest := h reply? s' hreply
    cases reply? with
    | none => exact hrest
    | some reply => exact ih reply hrest

/-- What is made of an answer is ensured of the answer. -/
theorem Ensures.map {p : Program α} (f : α → β) {Q : List Effect → Option β → σ → Prop}
    (h : p.Ensures conduct s fun effects a? => Q effects (a?.map f)) :
    (f <$> p).Ensures conduct s Q := by
  rw [map_eq_pure_bind]
  refine Ensures.bind (h.mono fun effects a? s' hend => ?_)
  cases a? with
  | none => exact hend
  | some a =>
    change Q (effects ++ []) (some (f a)) s'
    rw [List.append_nil]
    exact hend

/-- A failure ends a computation that can fail, and so does an effect that aborts it. -/
theorem Ensures.flow_bind {x : ExceptT ε Program α} {f : α → ExceptT ε Program β}
    {Q : List Effect → Option (Except ε β) → σ → Prop}
    (h : x.run.Ensures conduct s fun effects result? s' => match result? with
      | some (.ok a) => (f a).run.Ensures conduct s' fun rest => Q (effects ++ rest)
      | some (.error e) => Q effects (some (.error e)) s'
      | none => Q effects none s') :
    (x >>= f).run.Ensures conduct s Q := by
  rw [ExceptT.run_bind]
  refine Ensures.bind (h.mono fun effects result? s' hend => ?_)
  match result? with
  | none => exact hend
  | some (.ok a) => exact hend
  | some (.error e) =>
    change Q (effects ++ []) (some (.error e)) s'
    rw [List.append_nil]
    exact hend

/-- What is made of an error is ensured of the error. -/
theorem Ensures.adapt {x : ExceptT ε Program α} (f : ε → ε')
    {Q : List Effect → Option (Except ε' α) → σ → Prop}
    (h : x.run.Ensures conduct s fun effects result? => Q effects (result?.map (·.mapError f))) :
    (ExceptT.adapt f x).run.Ensures conduct s Q :=
  Ensures.map (Except.mapError f) h

/-- What cannot fail ensures that it succeeds with its answers. -/
theorem Ensures.lift {p : Program α} {Q : List Effect → Option (Except ε α) → σ → Prop}
    (h : p.Ensures conduct s fun effects a? => Q effects (a?.map .ok)) :
    (liftM p : ExceptT ε Program α).run.Ensures conduct s Q := by
  rw [ExceptT.run_liftM]
  exact Ensures.map Except.ok h

/-- A result that is known already ensures what holds of it. -/
theorem Ensures.liftExcept {result : Except ε α} {Q : List Effect → Option (Except ε α) → σ → Prop}
    (h : Q [] (some result) s) :
    (liftExcept result : ExceptT ε Program α).run.Ensures conduct s Q := by
  cases result with
  | ok a => exact h
  | error e => exact h

end Rules

/-- What a program ensures under a conduct holds of each run in which the effects are replied to
within that conduct. A part of the state can be enough to tell. -/
theorem Ensures.run {τ : Type} {conduct : Conduct τ}
    {respond : (effect : Effect) → σ → Option effect.Reply × σ} (read : σ → τ) {I : σ → Prop}
    (hconduct : ∀ effect s, I s →
      conduct effect (read s) (respond effect s).1 (read (respond effect s).2))
    (hkeep : ∀ effect s, I s → I (respond effect s).2)
    {p : Program α} {s : σ} {Q : List Effect → Option α → τ → Prop}
    (h : p.Ensures conduct (read s) Q) (hs : I s) :
    Q (p.run respond s).effects (p.run respond s).answer? (read (p.run respond s).state) := by
  induction p generalizing s Q with
  | done a => exact h
  | step effect next ih =>
    have hrest := h _ _ (hconduct effect s hs)
    have hs' := hkeep effect s hs
    rw [Program.run]
    -- the run goes on with the reply, if there is one
    generalize respond effect s = result at hrest hs'
    obtain ⟨reply?, s'⟩ := result
    cases reply? with
    | none => exact hrest
    | some reply => exact ih reply hrest hs'

end Bearer.Program
