import Bearer.Digest.Sha1
import Bearer.Store.Call
import Bearer.Text.Decimal

/-!
# A store over the network

Each call to the store is a short dialogue: a command is sent, and its reply is read as what the
call is answered with. Counting is one command that runs a script, so that a counter and its
deadline are made together; a peer that does not know the script yet is sent its text and asked
again.

Whole seconds are all that a deadline of a kept value can be stated in, so its span is rounded up.
The span of a counter is stated in milliseconds, in sixty-four bits.
-/

namespace Bearer.Store.Remote

/-- What the peer can reply. -/
inductive Reply where
  /-- A word that reports the outcome. -/
  | status (word : String)
  /-- A number. -/
  | int (value : Int64)
  /-- A text. -/
  | bulk (text : String)
  /-- Nothing. -/
  | nil
  /-- An error, its code first. -/
  | error (text : String)
  deriving DecidableEq, Repr

abbrev Command := List String

/-- What is sent and what is made of the replies. -/
inductive Dialogue (α : Type) where
  /-- The outcome is there. -/
  | done (outcome : Except Failure α)
  /-- Send a command and go on with its reply. -/
  | send (command : Command) (next : Reply → Dialogue α)

/-- The failure when a reply is an error or cannot be read. -/
def unreadable (detail : String) : Except Failure α := .error (.unavailable detail)

/-- Any reply but an error. -/
def readDone : Reply → Except Failure Unit
  | .error text => unreadable text
  | _ => .ok ()

/-- Reads a number of sixty-four bits. -/
def readNumber (text : String) : Except Failure UInt64 :=
  match Text.Decimal.unsigned? UInt64.size text.toList with
  | .ok n => .ok (UInt64.ofNat n)
  | .error fault => unreadable fault.message

/-- A number. -/
def readCount : Reply → Except Failure UInt64
  | .int value => .ok value.toUInt64
  | .bulk text | .status text => readNumber text
  | .nil => unreadable "no number"
  | .error text => unreadable text

/-- A number, or nothing for zero. -/
def readCountOrZero : Reply → Except Failure UInt64
  | .nil => .ok 0
  | reply => readCount reply

/-- A truth value. -/
def readTruth : Reply → Except Failure Bool
  | .int value => .ok (value ≠ 0)
  | .nil => .ok false
  | .bulk "1" | .status "1" => .ok true
  | .bulk "0" | .status "0" => .ok false
  | .error text => unreadable text
  | _ => unreadable "no truth value"

/-- A span in whole seconds, rounded up and at least one, in sixty-four bits. -/
def wholeSeconds (ttl : Duration) : UInt64 :=
  let seconds := UInt64.ofNat ttl.seconds
  if ttl.nanos % 1000000000 ≠ 0 || seconds = 0 then seconds + 1 else seconds

/-- A span in milliseconds, at least one, in sixty-four bits. -/
def wholeMillis (window : Duration) : UInt64 := UInt64.ofNat (max 1 window.millis)

/-- The script that counts. -/
def countScript : String :=
  "\nlocal count = redis.call('INCR', KEYS[1])\nif count == 1 then\n" ++
    "    redis.call('PEXPIRE', KEYS[1], ARGV[1])\nend\nreturn count\n"

/-- The name under which the peer knows the script. -/
def countScriptName : String :=
  String.ofList (Text.hex (Digest.Sha1.digest (Text.utf8 countScript)))

def numberText (n : UInt64) : String := String.ofList (Text.Decimal.digits n.toNat)

/-- The command that runs the script for a key. -/
def runScript (key : String) (window : Duration) : Command :=
  ["EVALSHA", countScriptName, "1", key, numberText (wholeMillis window)]

/-- Whether an error says that the script is not known. -/
def isUnknownScript (text : String) : Bool := "NOSCRIPT".toList.isPrefixOf text.toList

/-- Sends a command and reads its reply. -/
def sendAndRead (command : Command) (read : Reply → Except Failure α) : Dialogue α :=
  .send command fun reply => .done (read reply)

/-- Counts with the script, which is sent along if it is not known. -/
def countDialogue (key : String) (window : Duration) : Dialogue UInt64 :=
  .send (runScript key window) fun
    | .error text =>
      if isUnknownScript text then
        .send ["SCRIPT", "LOAD", countScript] fun
          | .error text => .done (unreadable text)
          -- asked only once more: an error is final now
          | _ => sendAndRead (runScript key window) readCount
      else .done (unreadable text)
    | reply => .done (readCount reply)

/-- The dialogue of a call. -/
def dialogue : (call : Call) → Dialogue call.Reply
  | .set key value ttl =>
    sendAndRead ["SET", key, value, "EX", numberText (wholeSeconds ttl)] readDone
  | .contains key => sendAndRead ["EXISTS", key] readTruth
  | .increment key window => countDialogue key window
  | .count key => sendAndRead ["GET", key] readCountOrZero
  | .delete key => sendAndRead ["DEL", key] readDone

/-- Plays a dialogue against replies, each of which may fail to come in time: the outcome and what
was sent. A reply beyond the last one is an error. -/
def Dialogue.play (timeout : Duration) : Dialogue α → List (Option Reply) →
    Except Failure α × List Command
  | .done outcome, _ => (outcome, [])
  | .send command next, reply? :: replies =>
    match reply? with
    | some reply =>
      let (outcome, sent) := (next reply).play timeout replies
      (outcome, command :: sent)
    | none => (.error (.timeout timeout), [command])
  | .send command next, [] =>
    let (outcome, sent) := (next (.error "ERR no reply")).play timeout []
    (outcome, command :: sent)

end Bearer.Store.Remote
