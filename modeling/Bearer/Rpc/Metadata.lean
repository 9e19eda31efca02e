import Bearer.Credential
import Bearer.Text.Visible

/-!
# Metadata of remote calls

A call carries named values. A value may hold any byte but most controls; only one that is visible
throughout can be read as text. Of several values under a name the first is read.
-/

namespace Bearer.Rpc

def isLegalByte (b : UInt8) : Bool := (0x20 ≤ b && b ≠ 0x7F) || b = 0x09

def isLegalValue (bytes : Bytes) : Bool := bytes.all isLegalByte

abbrev Metadata := List (String × Bytes)

namespace Metadata

/-- The name of the entry that carries the token. -/
def authorization : String := "authorization"

def forwardedFor : String := "x-forwarded-for"

def first? (metadata : Metadata) (name : String) : Option Bytes := metadata.lookup name

/-- The values under a name. -/
def all (metadata : Metadata) (name : String) : List Bytes :=
  (metadata.filter (·.1 = name)).map (·.2)

/-- The metadata with one value under a name, in place of all that were there. -/
def replace (metadata : Metadata) (name : String) (value : Bytes) : Metadata :=
  metadata.filter (·.1 ≠ name) ++ [(name, value)]

/-- The first value under a name as text. -/
def text? (metadata : Metadata) (name : String) : Option String :=
  (metadata.first? name).bind Text.visible?

/-- The token of a call. -/
def token? (metadata : Metadata) : Except Refusal String :=
  Credential.ofRequest? (metadata.text? authorization) none

end Metadata
end Bearer.Rpc
