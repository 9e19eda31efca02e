import Bearer.OutagePolicy
import Bearer.Program
import Bearer.Text.Blank
import Bearer.Text.LowerCase

/-!
# Lockout

Failed logins are counted for each pair of an identity and an origin. The window starts with the
first failure and is not extended by later ones. When the count reaches the policy's number, the
pair is locked until the window ends; a successful login forgets the count.
-/

namespace Bearer

namespace Lockout

/-- The origin of a request whose origin is not known. -/
def unknownOrigin : String := "unknown"

/-- An origin as it is counted: trimmed, and a blank one unknown. -/
def effectiveOrigin (origin : String) : String :=
  let trimmed := Text.trim origin
  if trimmed = "" then unknownOrigin else trimmed

/-- The key under which the failures of a pair are counted. Identities that differ only in case and
surrounding blanks share it. -/
def key (identity origin : String) : String :=
  "auth:login:attempts:" ++ Text.lower (Text.trim identity) ++ ":" ++ effectiveOrigin origin

/-- When a pair is locked and for how long. -/
structure Policy where
  /-- The number of failures that locks. -/
  maxAttempts : UInt64
  /-- How long failures are counted from the first one. -/
  window : Duration
  /-- One failure at least is allowed to happen. -/
  maxAttempts_ne_zero : maxAttempts ≠ 0
  /-- The window is not empty. -/
  window_ne_zero : window.nanos ≠ 0

/-- The policy with a number of failures and a window, neither of which may be zero. -/
def Policy.make? (maxAttempts : UInt64) (window : Duration) : Except Refusal Policy :=
  if ha : maxAttempts = 0 then .error (.configuration "login attempt threshold must be at least 1")
  else if hw : window.nanos = 0 then .error (.configuration "login lockout window must be non-zero")
  else .ok ⟨maxAttempts, window, ha, hw⟩

def Policy.standard : Policy := ⟨5, Duration.ofSeconds 600, by decide, by decide⟩

end Lockout

/-- How failed logins are counted. -/
structure Lockout where
  /-- When a pair is locked. -/
  policy : Lockout.Policy
  /-- What to do when the store does not answer. -/
  onOutage : OutagePolicy

namespace Lockout

/-- The reply of the store, or what stands for it during an outage. -/
def settle (lockout : Lockout) (fallback : α) : Except Store.Failure α → Except Refusal α
  | .ok reply => .ok reply
  | .error failure =>
    match lockout.onOutage with
    | .failOpen => .ok fallback
    | .failClosed => .error failure.toRefusal

/-- Calls the store; what stands for its reply during an outage is given. -/
def ask (lockout : Lockout) (call : Store.Call) (fallback : call.Reply) :
    ExceptT Refusal Program call.Reply := do
  let reply ← (Program.call call).run
  liftExcept (lockout.settle fallback reply)

def Policy.locks (policy : Policy) (count : UInt64) : Bool := policy.maxAttempts ≤ count

def isLocked (lockout : Lockout) (key : String) : ExceptT Refusal Program Bool := do
  let count ← lockout.ask (.count key) (0 : UInt64)
  return lockout.policy.locks count

def check (lockout : Lockout) (key : String) : ExceptT Refusal Program Unit := do
  if ← lockout.isLocked key then throw .tooManyAttempts

/-- Counts a failure; the answer is the new count, or zero if the store did not answer and that is
let through. -/
def recordFailure (lockout : Lockout) (key : String) : ExceptT Refusal Program UInt64 :=
  lockout.ask (.increment key lockout.policy.window) (0 : UInt64)

/-- Forgets the failures of a key. -/
def reset (lockout : Lockout) (key : String) : ExceptT Refusal Program Unit :=
  lockout.ask (.delete key) ()

end Lockout
end Bearer
