import Bearer.Rpc.Metadata
import Bearer.Rpc.Status
import Bearer.Validation

/-!
# Guarding remote calls

A guarded call is validated before it is handled, and its claims are kept with it. Handlers ask the
call for its claims, and for the subject or the role that they require.
-/

namespace Bearer.Rpc

/-- A call with what is known about it. -/
structure Call where
  /-- The metadata of the call. -/
  metadata : Metadata
  /-- The claims of its token, once it has been validated. -/
  claims? : Option Claims

namespace Call

/-- The claims of a call that has been validated. -/
def claims (call : Call) : Except Status Claims :=
  match call.claims? with
  | some claims => .ok claims
  | none => .error Status.missingToken

/-- The claims of a call whose subject is the one required. -/
def requireSubject (call : Call) (subject : String) : Except Status Claims := do
  let claims ← call.claims
  if claims.subject ≠ subject then
    throw ⟨.permissionDenied, "You do not have permission to access this resource"⟩
  return claims

/-- The claims of a call whose role is the one required. -/
def requireRole (call : Call) (role : Role) : Except Status Claims := do
  let claims ← call.claims
  if claims.role ≠ role then throw ⟨.permissionDenied, role.name ++ " role required"⟩
  return claims

end Call

/-- The claims of the valid token of a call. -/
def validateMetadata (validation : Validation) (metadata : Metadata) (now : Time) :
    ExceptT Status Program Claims :=
  ExceptT.adapt Status.ofRefusal do
    let token ← liftExcept metadata.token?
    validation.validate token now

/-- Validates a call: the claims or a status, and the call with its claims if there are any. -/
def authenticate (validation : Validation) (call : Call) (now : Time) :
    Program (Except Status Claims × Call) := do
  match ← (validateMetadata validation call.metadata now).run with
  | .ok claims => return (.ok claims, { call with claims? := some claims })
  | .error status => return (.error status, call)

end Bearer.Rpc
