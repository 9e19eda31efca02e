import Bearer.Refusal
import Bearer.Time

/-!
# Calls to the shared store

The store keeps texts under keys for a limited time. All instances of a service share it, and it can
fail to answer.
-/

namespace Bearer.Store

/-- One call to the store. -/
inductive Call where
  /-- Keep a value under a key for a span, in place of any other value and span. -/
  | set (key value : String) (ttl : Duration)
  /-- Ask whether there is a value under a key. -/
  | contains (key : String)
  /-- Add one to the counter under a key; a counter that is made by this lives for a span, which
  later calls do not extend. -/
  | increment (key : String) (window : Duration)
  /-- Ask for the counter under a key, zero if there is none. -/
  | count (key : String)
  /-- Forget what is under a key. -/
  | delete (key : String)
  deriving DecidableEq, Repr

/-- What a call is answered with. -/
@[reducible]
def Call.Reply : Call → Type
  | .set .. => Unit
  | .contains _ => Bool
  | .increment .. => UInt64
  | .count _ => UInt64
  | .delete _ => Unit

/-- The key that a call is about. -/
def Call.key : Call → String
  | .set key .. => key
  | .contains key => key
  | .increment key _ => key
  | .count key => key
  | .delete key => key

/-- Why the store gave no answer. -/
inductive Failure where
  /-- It is out of reach, or its answer makes no sense. -/
  | unavailable (detail : String)
  /-- It did not answer within a span. -/
  | timeout (limit : Duration)
  deriving DecidableEq, Repr

/-- What an operator is told. -/
def Failure.message : Failure → String
  | .unavailable detail => "store unavailable: " ++ detail
  | .timeout limit => "store operation timed out after " ++ limit.text

def Failure.toRefusal (failure : Failure) : Refusal := .storeUnavailable failure.message

end Bearer.Store
