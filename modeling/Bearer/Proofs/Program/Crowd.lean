import Bearer.Proofs.Site.Run
import Mathlib.Logic.Function.Basic

/-!
# Programs that take turns

A site handles requests at the same time, and nothing is held locked from one effect of a request to
the next. So requests that overlap are programs of which now one and now another performs its next
effect. Meanwhile time passes and others change the directory of users. Every order in which all
this can happen is a list of turns, and what holds after every list of turns holds in every order.

Main statements: `after_invariant` is the induction over turns, and `after_alone` says that a
program that is not interrupted does what its run does.
-/

namespace Bearer

/-- The effect that a program performs next, if it is not done. -/
def Program.next? {α : Type} : Program α → Option Effect
  | .done _ => none
  | .step effect _ => some effect

/-- What can happen next to programs that share a site. -/
inductive Turn where
  /-- A program performs its next effect. -/
  | act (who : Nat)
  /-- Time passes. -/
  | wait (span : Duration)
  /-- Others change the directory of users. -/
  | change (directory : Directory)

/-- An effect that was performed. -/
structure Deed where
  /-- The program that performed it. -/
  who : Nat
  moment : Time
  effect : Effect

/-- Programs that share a site, in the middle of their work. -/
structure Crowd (α : Type) where
  site : Site
  /-- What is left of each program; nothing, if it was aborted. -/
  rest : Nat → Option (Program α)
  /-- What they have done so far, in order. -/
  deeds : List Deed

namespace Crowd

variable {α : Type} {crowd : Crowd α} {who : Nat} {effect : Effect}
  {next : effect.Reply → Program α}

def start (site : Site) (programs : Nat → Program α) : Crowd α :=
  ⟨site, fun who => some (programs who), []⟩

/-- The crowd after one of its programs has performed an effect. -/
def perform (crowd : Crowd α) (who : Nat) (effect : Effect) (next : effect.Reply → Program α) :
    Crowd α where
  site := (Site.respond effect crowd.site).2
  rest := Function.update crowd.rest who ((Site.respond effect crowd.site).1.map next)
  deeds := crowd.deeds ++ [⟨who, crowd.site.now, effect⟩]

/-- The crowd after a turn. A program that is done or was aborted has nothing to do. -/
def take (crowd : Crowd α) : Turn → Crowd α
  | .act who =>
    match crowd.rest who with
    | some (.step effect next) => crowd.perform who effect next
    | _ => crowd
  | .wait span => { crowd with site := crowd.site.advance span }
  | .change directory => { crowd with site := { crowd.site with directory } }

/-- The crowd after a list of turns. -/
def after (crowd : Crowd α) (turns : List Turn) : Crowd α := turns.foldl take crowd

/-- What one of the programs does next, if there is anything left of it. -/
def next? (crowd : Crowd α) (who : Nat) : Option Effect := (crowd.rest who).bind Program.next?

/-- What one of the programs has done so far, in order. -/
def doneBy (crowd : Crowd α) (who : Nat) : List Effect :=
  (crowd.deeds.filter (·.who = who)).map (·.effect)

@[simp]
theorem after_nil (crowd : Crowd α) : crowd.after [] = crowd := rfl

@[simp]
theorem after_cons (crowd : Crowd α) (turn : Turn) (turns : List Turn) :
    crowd.after (turn :: turns) = (crowd.take turn).after turns := rfl

/-- Turns after others are taken by the crowd that these have left. -/
theorem after_append (crowd : Crowd α) (turns more : List Turn) :
    crowd.after (turns ++ more) = (crowd.after turns).after more :=
  List.foldl_append

/-- A client that is at an effect performs it in its turn. -/
theorem take_act (h : crowd.rest who = some (.step effect next)) :
    crowd.take (.act who) = crowd.perform who effect next := by
  rw [take, h]

/-- The next effect of a client is the one that it is at. -/
theorem next?_eq_some : crowd.next? who = some effect ↔
    ∃ next, crowd.rest who = some (.step effect next) := by
  constructor
  · intro h
    obtain ⟨p, hp, heffect⟩ := Option.bind_eq_some_iff.mp h
    cases p with
    | done a => cases heffect
    | step effect next =>
      cases heffect
      exact ⟨next, hp⟩
  · rintro ⟨next, hrest⟩
    rw [next?, hrest]
    rfl

/-- A turn of a program is either no turn at all or its next effect. -/
theorem take_act_cases (crowd : Crowd α) (who : Nat) :
    crowd.take (.act who) = crowd ∨ ∃ effect next,
      crowd.rest who = some (.step effect next) ∧
        crowd.take (.act who) = crowd.perform who effect next := by
  rcases h : crowd.rest who with _ | _ | ⟨effect, next⟩
  · left
    rw [take, h]
  · left
    rw [take, h]
  · exact .inr ⟨effect, next, rfl, take_act h⟩

/-! ## What one effect changes -/

/-- Who performs an effect goes on with the reply to it. -/
@[simp]
theorem rest_perform_self (crowd : Crowd α) (who : Nat) (effect : Effect)
    (next : effect.Reply → Program α) :
    (crowd.perform who effect next).rest who = (Site.respond effect crowd.site).1.map next :=
  Function.update_self _ _ _

/-- All the others stay where they are. -/
theorem rest_perform_of_ne {other : Nat} (hne : other ≠ who) :
    (crowd.perform who effect next).rest other = crowd.rest other :=
  Function.update_of_ne hne _ _

/-- All the others have the same effect before them. -/
theorem next?_perform_of_ne {other : Nat} (hne : other ≠ who) :
    (crowd.perform who effect next).next? other = crowd.next? other := by
  rw [Crowd.next?, rest_perform_of_ne hne, Crowd.next?]

@[simp]
theorem deeds_perform (crowd : Crowd α) (who : Nat) (effect : Effect)
    (next : effect.Reply → Program α) :
    (crowd.perform who effect next).deeds = crowd.deeds ++ [⟨who, crowd.site.now, effect⟩] := rfl

/-- What was done before stays done. -/
theorem deeds_grow_perform (crowd : Crowd α) (who : Nat) (effect : Effect)
    (next : effect.Reply → Program α) :
    crowd.deeds <+: (crowd.perform who effect next).deeds :=
  List.prefix_append _ _

/-- Who performs an effect has done it last. -/
@[simp]
theorem doneBy_perform_self (crowd : Crowd α) (who : Nat) (effect : Effect)
    (next : effect.Reply → Program α) :
    (crowd.perform who effect next).doneBy who = crowd.doneBy who ++ [effect] := by
  simp [doneBy]

/-- All the others have done what they had done. -/
theorem doneBy_perform_of_ne {other : Nat} (hne : other ≠ who) :
    (crowd.perform who effect next).doneBy other = crowd.doneBy other := by
  simp [doneBy, hne.symm]

/-- What someone has done is one of the deeds. -/
theorem mem_doneBy : effect ∈ crowd.doneBy who ↔
    ∃ deed ∈ crowd.deeds, deed.who = who ∧ deed.effect = effect := by
  simp [doneBy, and_assoc]

/-! ## What turns keep -/

/-- What every effect, the clock and changes of the directory keep, every list of turns keeps. -/
theorem after_invariant {I : Crowd α → Prop}
    (hperform : ∀ crowd who effect next, crowd.rest who = some (.step effect next) → I crowd →
      I (crowd.perform who effect next))
    (hwait : ∀ (crowd : Crowd α) (span : Duration), I crowd →
      I { crowd with site := crowd.site.advance span })
    (hchange : ∀ (crowd : Crowd α) (directory : Directory), I crowd →
      I { crowd with site := { crowd.site with directory } })
    (turns : List Turn) (h : I crowd) : I (crowd.after turns) := by
  -- by induction on the turns: the first one keeps it, whoever acts, and then the others do
  induction turns generalizing crowd with
  | nil => exact h
  | cons turn turns ih =>
    apply ih
    cases turn with
    | act who =>
      rcases crowd.take_act_cases who with heq | ⟨effect, next, hrest, heq⟩
      · rw [heq]
        exact h
      · rw [heq]
        exact hperform crowd who effect next hrest h
    | wait span => exact hwait crowd span h
    | change directory => exact hchange crowd directory h

/-- What is done stays done. -/
theorem deeds_grow (crowd : Crowd α) (turns : List Turn) :
    crowd.deeds <+: (crowd.after turns).deeds :=
  after_invariant (I := fun other => crowd.deeds <+: other.deeds)
    (fun _ _ _ _ _ h => h.trans (deeds_grow_perform _ _ _ _)) (fun _ _ h => h) (fun _ _ h => h)
    turns List.prefix_rfl

/-- The clock never goes back. -/
theorem now_le_after (crowd : Crowd α) (turns : List Turn) :
    crowd.site.now ≤ (crowd.after turns).site.now := by
  refine after_invariant (I := fun other => crowd.site.now ≤ other.site.now) ?_ ?_ (fun _ _ h => h)
    turns (Time.le_refl _)
  · intro other who effect next _ h
    rw [perform, Site.now_respond]
    exact h
  · intro other span h
    exact Time.le_trans h (Time.le_add _ _)

/-- Programs whose effects are of a kind have no others left after some turns. -/
theorem within_after {P : Effect → Prop} (h : ∀ who, ∀ p ∈ crowd.rest who, p.Within P)
    (turns : List Turn) : ∀ who, ∀ p ∈ (crowd.after turns).rest who, p.Within P := by
  refine after_invariant (I := fun other : Crowd α => ∀ who, ∀ p ∈ other.rest who, p.Within P) ?_
    (fun _ _ h => h) (fun _ _ h => h) turns h
  intro other actor effect next hrest hothers who p hp
  by_cases hwho : who = actor
  · subst hwho
    rw [rest_perform_self] at hp
    obtain ⟨reply, -, rfl⟩ := Option.map_eq_some_iff.mp hp
    -- what is left of the program is what follows its first effect
    cases hothers who _ hrest with
    | step first rest => exact rest reply
  · rw [rest_perform_of_ne hwho] at hp
    exact hothers who p hp

/-- No turn switches the store on or off. -/
@[simp]
theorem available_after (crowd : Crowd α) (turns : List Turn) :
    (crowd.after turns).site.store.available = crowd.site.store.available := by
  refine after_invariant (I := fun other =>
    other.site.store.available = crowd.site.store.available) ?_ (fun _ _ h => h) (fun _ _ h => h)
    turns rfl
  intro other who effect next _ h
  exact (Site.available_respond effect other.site).trans h

/-- A program that has its answer keeps it, and does nothing more. -/
theorem after_of_done {a : α} (h : crowd.rest who = some (.done a)) (turns : List Turn) :
    (crowd.after turns).rest who = some (.done a) ∧
      (crowd.after turns).doneBy who = crowd.doneBy who := by
  refine after_invariant (I := fun other : Crowd α => other.rest who = some (.done a) ∧
    other.doneBy who = crowd.doneBy who) ?_ (fun _ _ h => h) (fun _ _ h => h) turns ⟨h, rfl⟩
  rintro other actor effect next hrest ⟨hdone, hdeeds⟩
  have hne : who ≠ actor := by
    rintro rfl
    cases hrest.symm.trans hdone
  exact ⟨(rest_perform_of_ne hne).trans hdone, (doneBy_perform_of_ne hne).trans hdeeds⟩

/-- A program that has no turn is left where it was. -/
theorem rest_after_of_notMem {turns : List Turn} (h : .act who ∉ turns) :
    (crowd.after turns).rest who = crowd.rest who := by
  induction turns generalizing crowd with
  | nil => rfl
  | cons turn turns ih =>
    rw [List.mem_cons, not_or] at h
    rw [after_cons, ih h.2]
    cases turn with
    | act other =>
      -- whoever acts, it is another
      have hne : who ≠ other := fun heq => h.1 (congrArg Turn.act heq)
      rcases crowd.take_act_cases other with heq | ⟨effect, next, -, heq⟩
      · rw [heq]
      · rw [heq, rest_perform_of_ne hne]
    | wait span => rfl
    | change directory => rfl

/-- Effects take no time: while nobody waits, all is done at one moment. -/
theorem moment_of_still (crowd : Crowd α) {turns : List Turn} (hstill : ∀ span, .wait span ∉ turns)
    (h : ∀ deed ∈ crowd.deeds, deed.moment = crowd.site.now) :
    ∀ deed ∈ (crowd.after turns).deeds, deed.moment = crowd.site.now := by
  induction turns generalizing crowd with
  | nil => exact h
  | cons turn turns ih =>
    have hrest (span : Duration) : .wait span ∉ turns :=
      fun hmem => hstill span (List.mem_cons_of_mem _ hmem)
    cases turn with
    | act who =>
      rcases crowd.take_act_cases who with heq | ⟨effect, next, -, heq⟩
      · rw [after_cons, heq]
        exact ih _ hrest h
      · -- the one deed that is new is done now
        have hnow : (crowd.perform who effect next).site.now = crowd.site.now :=
          Site.now_respond effect crowd.site
        rw [after_cons, heq, ← hnow]
        refine ih _ hrest fun deed hdeed => ?_
        rw [deeds_perform, List.mem_append, List.mem_singleton] at hdeed
        rcases hdeed with hdeed | rfl
        · exact (h deed hdeed).trans hnow.symm
        · exact hnow.symm
    | wait span => exact absurd List.mem_cons_self (hstill span)
    | change directory => exact ih _ hrest h

/-- A program that has as many turns as it needs, and nobody else any, does what its run does. -/
theorem after_alone {p : Program α} (h : crowd.rest who = some p) :
    crowd.after (List.replicate (crowd.site.run p).effects.length (.act who)) =
      ⟨(crowd.site.run p).state,
        Function.update crowd.rest who ((crowd.site.run p).answer?.map .done),
        crowd.deeds ++ (crowd.site.run p).effects.map (Deed.mk who crowd.site.now)⟩ := by
  -- by induction on the program: an effect takes one turn, and the next turn is its own again
  induction p generalizing crowd with
  | done a =>
    obtain ⟨site, rest, deeds⟩ := crowd
    simp only [Site.run, Program.run, List.length_nil, List.replicate_zero, after_nil,
      Option.map_some, List.map_nil, List.append_nil, ← h, Function.update_eq_self]
  | step effect next ih =>
    rcases hrespond : Site.respond effect crowd.site with ⟨_ | reply, site⟩
    · -- the effect has aborted the program
      have hrun : crowd.site.run (.step effect next) = ⟨none, site, [effect]⟩ := by
        rw [Site.run, Program.run, hrespond]
      simp only [hrun, List.length_singleton, List.replicate_one, after_cons, take_act h, perform,
        hrespond, Option.map_none, after_nil, List.map_cons, List.map_nil]
    · have hrun : crowd.site.run (.step effect next) =
          ⟨(site.run (next reply)).answer?, (site.run (next reply)).state,
            effect :: (site.run (next reply)).effects⟩ := by
        rw [Site.run, Program.run, hrespond]
        rfl
      have hperform : crowd.perform who effect next =
          ⟨site, Function.update crowd.rest who (some (next reply)),
            crowd.deeds ++ [⟨who, crowd.site.now, effect⟩]⟩ := by
        rw [perform, hrespond]
        rfl
      -- the clock stands still, so the moment of the first effect is that of the others, too
      have hnow : site.now = crowd.site.now := by
        rw [← Site.now_respond effect crowd.site, hrespond]
      have hleft : (crowd.perform who effect next).rest who = some (next reply) := by
        rw [rest_perform_self, hrespond]
        rfl
      have hrest := ih reply hleft
      rw [hperform] at hrest
      simp only [hnow] at hrest
      simp only [hrun, List.length_cons, List.replicate_succ, after_cons, take_act h, hperform,
        hrest, Function.update_idem, List.append_assoc, List.singleton_append, List.map_cons]

/-- It then has the answer of its run. -/
theorem rest_after_alone {p : Program α} (h : crowd.rest who = some p) {turns : Nat}
    (hturns : (crowd.site.run p).effects.length = turns) :
    (crowd.after (List.replicate turns (.act who))).rest who =
      (crowd.site.run p).answer?.map .done := by
  rw [← hturns, after_alone h]
  exact Function.update_self _ _ _

end Crowd
end Bearer
