import Bearer.Refusal

/-!
# Failures of a request

Why a request to the service has no good answer: it is refused, or it is malformed, or the service
itself fails.
-/

namespace Bearer

/-- The cause of a failed request. -/
inductive Failure where
  /-- The request is refused. -/
  | refusal (cause : Refusal)
  /-- The directory of users gave no usable answer. -/
  | database (detail : String)
  /-- The request makes no sense. -/
  | validation (detail : String)
  | internal (detail : String)
  deriving DecidableEq, Repr

namespace Failure

instance : Coe Refusal Failure := ⟨refusal⟩

/-- What a client may learn. -/
def category : Failure → Category
  | refusal cause => cause.category
  | validation _ => .invalidRequest
  | database _ | internal _ => .internalError

/-- What an operator is told. -/
def message : Failure → String
  | refusal cause => cause.message
  | database detail => "Database error: " ++ detail
  | validation detail => "Validation error: " ++ detail
  | internal detail => "Internal server error: " ++ detail

end Failure
end Bearer
