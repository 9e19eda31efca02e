import Bearer.Store.Call
import Bearer.Text.Decimal
import Bearer.Text.Bytes
import Bearer.Text.Split

/-!
# Reaching the store over the network

Every command is given a limited time, and so is the first connection. A command whose reply comes
in just that time has come in time.

How the first connection is made is not described here. Whatever makes it may try again after waits
that chance shortens, so for one and the same host that does not answer it may or may not give up
within the limit: `connect` is given when the attempt ends, and how.
-/

namespace Bearer.Store

/-- Why a command has no reply. -/
inductive CommandFault where
  /-- There was none within the limit. -/
  | timeout (limit : Duration)
  | failed (detail : String)
  deriving DecidableEq, Repr

namespace CommandFault

/-- How a fault is worded. -/
def message : CommandFault → String
  | timeout limit => "redis command timed out after " ++ limit.text
  | failed detail => "redis command failed: " ++ detail

/-- What the fault is to the caller of the store. -/
def toFailure : CommandFault → Failure
  | timeout limit => .timeout limit
  | failed detail => .unavailable detail

/-- The failure of a command for a reason of input and output. -/
def brokenConnection (detail : String) : CommandFault := failed ("io - IoError: " ++ detail)

end CommandFault

/-- The span that timers run for: one beyond the clock is cut to thirty years. -/
def timerSpan (d : Duration) : Duration :=
  if d.seconds ≤ Int64.maxValue.toInt then d else Duration.ofSeconds (30 * 365 * 24 * 60 * 60)

/-- The outcome of a command that takes some time, when the time is limited. -/
def within (limit delay : Duration) (outcome : Except CommandFault α) : Except CommandFault α :=
  if (timerSpan delay).nanos ≤ (timerSpan limit).nanos then outcome else .error (.timeout limit)

/-- Why the store cannot be reached at the start. -/
inductive ConnectFault where
  /-- Its location makes no sense. -/
  | badLocation
  /-- No connection was made in time. -/
  | timeout
  /-- A connection was made and failed. -/
  | failed
  deriving DecidableEq, Repr

/-- How a fault is worded. -/
def ConnectFault.message : ConnectFault → String
  | .badLocation => "failed to parse REDIS_URL connection string"
  | .timeout => "timed out connecting to Redis"
  | .failed => "failed to initialize Redis connection manager"

/-- Where a store is. -/
inductive Location where
  /-- On a host, at a port if one is stated, with a number of its parts. -/
  | host (name : String) (port? : Option Nat) (part : Int)
  /-- At a socket of this machine. -/
  | path (path : String)
  deriving DecidableEq, Repr

namespace Location

def hostSchemes : List String := ["redis", "rediss", "valkey", "valkeys"]

def pathSchemes : List String := ["redis+unix", "valkey+unix", "unix"]

/-- Whether a character may stand in the name of a host. -/
def isHostChar (c : Char) : Bool :=
  32 < c.toNat && c.toNat ≠ 127 && !"#%/:<>?@[\\]^|".toList.contains c

/-- Reads the name of a host; an address of the longer family stands in brackets. -/
def isHostName (cs : List Char) : Bool :=
  match cs with
  | '[' :: rest =>
    rest.getLast? = some ']' &&
      rest.dropLast.all fun c => (Text.hexValue? c).isSome || c = ':' || c = '.'
  | _ => !cs.isEmpty && cs.all isHostChar

/-- Splits a port off the end of a host. -/
def hostAndPort (cs : List Char) : List Char × List Char :=
  match Text.cutLast? ':' cs with
  | some (name, port) => if port.contains ']' then (cs, []) else (name, port)
  | none => (cs, [])

/-- Reads the number of a part, with a sign if need be. -/
def part? (cs : List Char) : Option Int :=
  match cs with
  | [] => some 0
  | '-' :: digits =>
    -- there is one negative number more than there are positive ones
    (Text.Decimal.readDigits (UInt64.size / 2 + 1) 0 digits).toOption.bind fun n =>
      if digits.isEmpty then none else some (-(n : Int))
  | _ => (Text.Decimal.unsigned? (UInt64.size / 2) cs).toOption.map Int.ofNat

/-- Reads what follows the scheme of a location on a host. -/
def onHost? (cs : List Char) : Option Location := do
  let authority := cs.takeWhile fun c => c ≠ '/' && c ≠ '?' && c ≠ '#'
  let path := (cs.drop authority.length).takeWhile fun c => c ≠ '?' && c ≠ '#'
  -- a name and a password may stand before the host
  let address := ((Text.cutLast? '@' authority).map (·.2)).getD authority
  let (name, portText) := hostAndPort address
  guard (isHostName name)
  let port? ← if portText.isEmpty then some none
    else (Text.Decimal.readDigits UInt16.size 0 portText).toOption.map some
  let part ← part? (Text.strip (· = '/') path)
  return .host (String.ofList name) port? part

def ofText? (text : String) : Option Location := do
  let (scheme, rest) ← Text.cut? ':' (Text.strip (fun c => c.toNat ≤ 32) text.toList)
  let scheme := String.ofList (scheme.map Char.toLower)
  if hostSchemes.contains scheme then
    let '/' :: '/' :: rest := rest | none
    onHost? rest
  else if pathSchemes.contains scheme then return .path (String.ofList rest)
  else none

end Location

/-- How long the service waits for its first connection. -/
def connectLimit : Duration := Duration.ofSeconds 5

/-- The making of a first connection. -/
structure ConnectAttempt where
  /-- How long it takes, all that it tries again included. -/
  delay : Duration
  /-- Whether there is a connection in the end. -/
  succeeds : Bool
  deriving DecidableEq, Repr

/-- What comes of connecting to a store, when an attempt is made at its location. -/
def connect (url : String) (limit : Duration) (attempt : Location → ConnectAttempt) :
    Except ConnectFault Unit := do
  let some location := Location.ofText? url | throw .badLocation
  let attempt := attempt location
  if (timerSpan limit).nanos < attempt.delay.nanos then throw .timeout
  if !attempt.succeeds then throw .failed

end Bearer.Store
