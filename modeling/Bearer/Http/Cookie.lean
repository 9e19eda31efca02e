import Bearer.Claims.Basic
import Bearer.Credential
import Bearer.Http.Message

/-!
# Cookies

The cookies of a request stand in headers, several in each. One that is malformed loses all of them.
A response can set a cookie, or remove one by setting it empty and expired.
-/

namespace Bearer.Http

namespace Cookie

/-- A text with one pair of quotes around it removed. -/
def unquoted (cs : List Char) : List Char :=
  match cs with
  | '"' :: rest =>
    match rest.reverse with
    | '"' :: inner => inner.reverse
    | _ => cs
  | _ => cs

/-- The text that a percent-encoded text stands for. -/
def decoded? (cs : List Char) : Option String :=
  Text.ofUtf8? (Text.Percent.decode (fun _ => false) (Text.utf8 (String.ofList cs)))

/-- Reads one cookie as its name and its value. -/
def pair? (cs : List Char) : Option (String × String) := do
  let (name, value) ← Text.cut? '=' cs
  let name := Text.trimChars name
  guard (name ≠ [])
  let name ← decoded? name
  -- the blanks within the quotes do not count either
  let value ← decoded? (Text.trimChars (unquoted (Text.trimChars value)))
  return (name, value)

def ofHeader? (value : Bytes) : Option (List (String × String)) := do
  let text ← Text.ofUtf8? value
  let parts := (Text.pieces ';' text.toList).map Text.trimChars
  (parts.filter (· ≠ [])).mapM pair?

end Cookie

/-- The cookies of a request in order, unless one of them is malformed. -/
def Request.cookies? (request : Request) : Option (List (String × String)) :=
  ((request.all "cookie").mapM Cookie.ofHeader?).map List.flatten

/-- The value of the first cookie with a name. -/
def Request.cookie? (request : Request) (name : String) : Option String :=
  request.cookies?.bind fun cookies => cookies.lookup name

/-- The token of a request. -/
def Request.token? (request : Request) : Except Refusal String :=
  Credential.ofRequest? (request.text? "authorization") (request.cookie? Credential.cookieName)

/-- A cookie that a response sets. It is not shown to scripts, holds for all paths, and is sent
along from other sites only when a link is followed. -/
structure SetCookie where
  name : String
  value : String
  /-- Whether it is for secure connections only. -/
  secure : Bool
  /-- How long it is kept, in seconds. -/
  maxAge : Int
  /-- When it expires, if that is stated. -/
  expires? : Option Time
  deriving DecidableEq

namespace SetCookie

def path : String := "/"

/-- When a cookie is sent along from other sites. -/
def sameSite : String := "Lax"

/-- The cookie that holds a token. -/
def token (token : String) (maxAge : Int) (secure : Bool) : SetCookie :=
  { name := Credential.cookieName, value := token, secure, maxAge, expires? := none }

/-- How far in the past the expiry of a removed cookie lies, in seconds: one year. -/
def removalAge : Int := 365 * 24 * 60 * 60

/-- The cookie that removes the token. -/
def removal (now : Time) (secure : Bool) : SetCookie :=
  { token "" 0 secure with expires? := some (Time.ofSeconds (now.seconds - removalAge)) }

end SetCookie
end Bearer.Http
