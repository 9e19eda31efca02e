import Bearer.Rpc.Metadata
import Bearer.Rpc.Status

/-!
# Sending a token along

A client prepares the authorization value once and puts it on every call, in place of any that is
there.
-/

namespace Bearer.Rpc

/-- A prepared authorization value. -/
structure Client where
  authorization : Bytes
  /-- It may stand in metadata. -/
  legal : isLegalValue authorization = true

namespace Client

/-- The client that forwards an authorization value. -/
def forward? (value : Bytes) : Option Client :=
  if h : isLegalValue value = true then some ⟨value, h⟩ else none

/-- The client that sends a token. -/
def ofToken? (token : String) : Except Status Client :=
  match forward? (Text.utf8 ("Bearer " ++ token)) with
  | some client => .ok client
  | none => .error ⟨.invalidArgument, "token contains invalid characters"⟩

/-- The authorization value of a call, to be forwarded. -/
def extract? (metadata : Metadata) : Except Status Bytes :=
  match metadata.first? Metadata.authorization with
  | some value => .ok value
  | none => .error Status.missingToken

/-- Puts the authorization value on a call. -/
def send (client : Client) (metadata : Metadata) : Metadata :=
  metadata.replace Metadata.authorization client.authorization

end Client
end Bearer.Rpc
