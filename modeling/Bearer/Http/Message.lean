import Bearer.Net.Address
import Bearer.Text.LowerCase
import Bearer.Text.Percent
import Bearer.Text.Split
import Bearer.Text.Visible

/-!
# Requests

A request has a method, a target, headers in order, a body, and perhaps a known peer. The names of
headers are compared without regard to case; the value of a header is read as text only if it is
visible throughout.
-/

namespace Bearer.Http

/-- A request. -/
structure Request where
  method : String
  /-- The path with its query. -/
  target : String
  /-- The headers in order. -/
  headers : List (String × Bytes)
  body : Bytes
  /-- The host that the request comes from, if it is known. -/
  peer? : Option Net.Address

namespace Request

/-- The values of the headers with a name, which is given in lower case. -/
def all (request : Request) (name : String) : List Bytes :=
  (request.headers.filter fun h => Text.lowerAscii h.1.toList = name.toList).map (·.2)

/-- The first value of a header as text. -/
def text? (request : Request) (name : String) : Option String :=
  (request.all name).head?.bind Text.visible?

/-- The bytes that stay encoded in a path: the percent sign, the slash and the plus sign. -/
def staysEncoded (b : UInt8) : Bool := b = 0x25 || b = 0x2F || b = 0x2B

/-- The path without the query, decoded. -/
def path (request : Request) : Bytes :=
  Text.Percent.decode staysEncoded
    (Text.utf8 (String.ofList (Text.before '?' request.target.toList)))

end Request
end Bearer.Http
