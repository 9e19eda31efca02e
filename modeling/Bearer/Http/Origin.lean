import Bearer.Http.Message
import Bearer.Lockout

/-!
# The origin of a request

By whom a request was sent, for counting failed logins. Without trust in proxies it is the peer.
With trust it is the first sender that a forwarding header names, else the first hop of the older
header, else the peer. The port of a sender is left out.
-/

namespace Bearer.Http.Origin

/-- A value without the blanks and then the quotes at its ends. -/
def unquoted (cs : List Char) : List Char := Text.strip (· = '"') (Text.trimChars cs)

/-- The host of a sender: what stands in brackets, or else what stands before the first colon. -/
def bareHost (cs : List Char) : List Char :=
  if cs.head? = some '[' then
    let host := beforePort cs
    Text.dropEnd (· = ']') (host.dropWhile (· = '['))
  else Text.before ':' cs
where
  /-- What stands before the first closing bracket that a colon follows. -/
  beforePort : List Char → List Char
    | ']' :: ':' :: _ => []
    | c :: cs => c :: beforePort cs
    | [] => []

/-- The pairs of a forwarding header. -/
def forwardedPairs (value : List Char) : List (List Char × List Char) :=
  ((Text.pieces ';' value).flatMap (Text.pieces ',')).filterMap fun pair =>
    (Text.cut? '=' (Text.trimChars pair)).map fun (name, value) =>
      (Text.lowerAscii (Text.trimChars name), value)

/-- The first sender that the forwarding headers name. -/
def forwardedFor? (request : Request) : Option (List Char) :=
  let values := (request.all "forwarded").filterMap Text.visible?
  -- a pair of any header counts, the first one first
  let pairs := values.flatMap fun value => forwardedPairs value.toList
  (pairs.find? (·.1 = "for".toList)).map fun pair => bareHost (unquoted pair.2)

/-- The first hop of the older header. -/
def firstHop? (request : Request) : Option (List Char) :=
  (request.text? "x-forwarded-for").map fun value => Text.trimChars (Text.before ',' value.toList)

/-- The text of the host, if a text is the address of a socket; else the text itself. -/
def withoutPort (cs : List Char) : String :=
  match Net.Address.ofSocket? cs with
  | some host => host.text
  | none => String.ofList cs

/-- The origin by which the failures of a request are counted. -/
def ofRequest (request : Request) (trustForwarded : Bool) : String :=
  let peer? := request.peer?.map (·.text)
  if trustForwarded then
    match ((forwardedFor? request).or (firstHop? request)).or (peer?.map String.toList) with
    | some sender => withoutPort sender
    | none => Lockout.unknownOrigin
  else peer?.getD Lockout.unknownOrigin

end Bearer.Http.Origin
