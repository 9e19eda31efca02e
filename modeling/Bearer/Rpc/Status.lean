import Bearer.Failure

/-!
# Statuses of remote calls

A remote call that fails ends with a code and a message. For a refused or failed request the message
is the category and nothing else.
-/

namespace Bearer.Rpc

/-- The codes that are used. -/
inductive Code where
  | invalidArgument
  | permissionDenied
  | unauthenticated
  | resourceExhausted
  | unavailable
  | internal
  deriving DecidableEq, Repr

/-- The end of a failed call. -/
structure Status where
  code : Code
  message : String
  deriving DecidableEq, Repr

/-- The code for a refusal. -/
def Code.ofRefusal : Refusal → Code
  | .tooManyAttempts => .resourceExhausted
  | .storeUnavailable _ => .unavailable
  | refusal => if refusal.isUnauthenticated then .unauthenticated else .internal

namespace Status

def ofRefusal (refusal : Refusal) : Status := ⟨Code.ofRefusal refusal, refusal.category.word⟩

/-- The status for a failed request. -/
def ofFailure : Failure → Status
  | .refusal cause => ofRefusal cause
  | .validation _ => ⟨.invalidArgument, "invalid_request"⟩
  | .database _ | .internal _ => ⟨.internal, "internal_error"⟩

def missingToken : Status := ofRefusal .missingToken

end Status
end Bearer.Rpc
