import Bearer.Text.Decimal

/-!
# Metrics

The service counts what happens in it. Each kind of event has a counter with a name and a line that
says what it counts; the counters are shown in the order of their names, each with its two comment
lines.
-/

namespace Bearer

/-- What is counted. -/
inductive Event where
  /-- A login was asked for. -/
  | loginRequested
  /-- A login failed for an unknown identity or a wrong password. -/
  | loginFailed
  /-- Failed logins reached the number that locks. -/
  | loginLockedOut
  /-- A token was issued. -/
  | tokenIssued
  /-- A token was logged out while it was good. -/
  | tokenRevoked
  /-- A token that was to be validated was not accepted. -/
  | validationFailed
  deriving DecidableEq, Repr

namespace Event

/-- All kinds of events, in the order of their names. -/
def all : List Event :=
  [loginFailed, loginLockedOut, loginRequested, validationFailed, tokenIssued, tokenRevoked]

/-- The name of the counter. -/
def name : Event → String
  | loginRequested => "login_requests_total"
  | loginFailed => "login_failures_total"
  | loginLockedOut => "login_lockouts_total"
  | tokenIssued => "tokens_issued_total"
  | tokenRevoked => "tokens_revoked_total"
  | validationFailed => "token_validation_failures_total"

/-- What the counter counts. -/
def help : Event → String
  | loginRequested => "Total number of login requests"
  | loginFailed => "Total number of failed login attempts (wrong password or unknown identity)"
  | loginLockedOut => "Total number of login lockouts triggered"
  | tokenIssued => "Total number of access tokens issued"
  | tokenRevoked => "Total number of access tokens revoked by logout"
  | validationFailed => "Total number of tokens rejected by ValidateToken"

end Event

def Metrics.kind : String := "counter"

/-- How often each kind of event has happened. -/
structure Metrics where
  /-- The count of a kind of event. -/
  count : Event → Nat

namespace Metrics

def zero : Metrics := ⟨fun _ => 0⟩

/-- One more event. -/
def add (metrics : Metrics) (event : Event) : Metrics :=
  ⟨fun e => if e = event then metrics.count e + 1 else metrics.count e⟩

/-- The lines that show one counter. -/
def lines (metrics : Metrics) (event : Event) : String :=
  "# HELP " ++ event.name ++ " " ++ event.help ++ "\n# TYPE " ++ event.name ++ " " ++ kind ++
    "\n" ++ event.name ++ " " ++ String.ofList (Text.Decimal.digits (metrics.count event)) ++ "\n"

/-- The text that shows all counters. -/
def exposition (metrics : Metrics) : String :=
  Event.all.foldl (fun text event => text ++ metrics.lines event) ""

end Metrics
end Bearer
