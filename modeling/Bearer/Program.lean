import Bearer.Metrics
import Bearer.Store.Call
import Bearer.User

/-!
# Programs

A request is handled by a program: a tree that either has its answer or performs one effect and goes
on with the reply. What the effects do is decided by who runs the program, so the same program can
be run against a store in memory, one that fails at will, or step by step among other programs.
-/

namespace Bearer

/-- One effect of a program. -/
inductive Effect where
  /-- Call the shared store. -/
  | store (call : Store.Call)
  /-- Look a user up by the one form of an address. -/
  | findUser (email : String)
  /-- Check a password against what is stored for an identity, if anything is. -/
  | checkPassword (password : String) (stored : Option String)
  /-- Count an event. -/
  | note (event : Event)
  /-- Ask how often each kind of event has happened. -/
  | readMetrics
  deriving DecidableEq

/-- What an effect is replied with. -/
@[reducible]
def Effect.Reply : Effect → Type
  | .store call => Except Store.Failure call.Reply
  | .findUser _ => Except Failure (Option User)
  | .checkPassword .. => Bool
  | .note _ => Unit
  | .readMetrics => Metrics

/-- A program with an answer of type `α`. -/
inductive Program (α : Type) where
  /-- The answer is there. -/
  | done (answer : α)
  /-- Perform an effect and go on with its reply. -/
  | step (effect : Effect) (next : effect.Reply → Program α)

namespace Program

variable {α β σ : Type}

/-- Goes on with a second program after the first. -/
def bind : Program α → (α → Program β) → Program β
  | .done a, f => f a
  | .step effect next, f => .step effect fun reply => (next reply).bind f

instance : Monad Program where
  pure := .done
  bind := bind

@[simp]
theorem done_bind (a : α) (f : α → Program β) : (Program.done a >>= f) = f a := rfl

@[simp]
theorem step_bind (effect : Effect) (next : effect.Reply → Program α) (f : α → Program β) :
    (Program.step effect next >>= f) = .step effect fun reply => next reply >>= f := rfl

@[simp]
theorem pure_eq_done (a : α) : (pure a : Program α) = .done a := rfl

/-- To go on with nothing changes nothing. -/
theorem bind_done (p : Program α) : p.bind .done = p := by
  induction p with
  | done a => rfl
  | step effect next ih => simp [bind, ih]

/-- What follows a program may be joined from either side. -/
theorem bind_bind {γ : Type} (p : Program α) (f : α → Program β) (g : β → Program γ) :
    (p.bind f).bind g = p.bind fun a => (f a).bind g := by
  induction p with
  | done a => rfl
  | step effect next ih => simp [bind, ih]

instance : LawfulMonad Program :=
  LawfulMonad.mk' Program bind_done (fun _ _ => rfl) bind_bind

def perform (effect : Effect) : Program effect.Reply := .step effect .done

def note (event : Event) : Program Unit := perform (.note event)

def readMetrics : Program Metrics := perform .readMetrics

/-- Checks a password. -/
def checkPassword (password : String) (stored : Option String) : Program Bool :=
  perform (.checkPassword password stored)

def findUser (email : String) : ExceptT Failure Program (Option User) := perform (.findUser email)

def call (call : Store.Call) : ExceptT Store.Failure Program call.Reply := perform (.store call)

/-- How a program ended: its answer, unless it was aborted, what it left behind, and the effects it
performed in order. -/
structure Run (σ α : Type) where
  /-- The answer; none if an effect aborted the program. -/
  answer? : Option α
  /-- What is left behind. -/
  state : σ
  /-- The effects in order, the aborting one last. -/
  effects : List Effect

/-- Runs a program, given how each effect is performed. -/
def run (respond : (effect : Effect) → σ → Option effect.Reply × σ) : Program α → σ → Run σ α
  | .done answer, state => ⟨some answer, state, []⟩
  | .step effect next, state =>
    match respond effect state with
    | (some reply, state) =>
      let rest := (next reply).run respond state
      { rest with effects := effect :: rest.effects }
    | (none, state) => ⟨none, state, [effect]⟩

end Program
end Bearer
