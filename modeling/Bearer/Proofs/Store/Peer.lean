import Bearer.Proofs.Program.Surroundings
import Bearer.Store.Remote

/-!
# Conversations with a peer

A dialogue is played here with a peer that answers as it goes, out of a state of its own, and not
from a list of replies. Nothing is known of the peer but what is assumed of it; it may fail to reply
in time at any command. A program whose calls to the store are such conversations is run in
surroundings, whose state tells what was sent at which moment.

Main statement: `converse_eq_play`, a conversation is the dialogue played against what the peer
replies.
-/

namespace Bearer.Store.Remote

/-- A peer at the other end of the network. -/
structure Peer (σ : Type) where
  /-- The reply to a command that comes at a moment, unless there is none in time, and the state of
  the peer afterwards. -/
  serve : Time → Command → σ → Option Reply × σ
  /-- Whether there is a value under a key at a moment. -/
  Has : σ → String → Time → Prop

/-- A line to a peer: the state of the peer, and what was sent to it, in order. -/
structure Line (σ : Type) where
  peer : σ
  /-- The commands and the moments at which they were sent. -/
  sent : List (Time × Command)

variable {σ α : Type}

/-- Plays a dialogue with a peer at a moment. -/
def Dialogue.converse (peer : Peer σ) (timeout : Duration) (now : Time) :
    Dialogue α → Line σ → Except Failure α × Line σ
  | .done outcome, line => (outcome, line)
  | .send command next, line =>
    match peer.serve now command line.peer with
    | (some reply, state) =>
      (next reply).converse peer timeout now ⟨state, line.sent ++ [(now, command)]⟩
    | (none, state) => (.error (.timeout timeout), ⟨state, line.sent ++ [(now, command)]⟩)

/-- A conversation has the outcome and sends the commands of the dialogue played against what the
peer replies. -/
theorem Dialogue.converse_eq_play (peer : Peer σ) (timeout : Duration) (now : Time)
    (dialogue : Dialogue α) (line : Line σ) :
    ∃ replies, (dialogue.converse peer timeout now line).1 = (dialogue.play timeout replies).1 ∧
      (dialogue.converse peer timeout now line).2.sent =
        line.sent ++ (dialogue.play timeout replies).2.map (now, ·) := by
  induction dialogue generalizing line with
  | done outcome => exact ⟨[], rfl, (List.append_nil _).symm⟩
  | send command next ih =>
    rw [converse]
    split
    · next reply state _ =>
      obtain ⟨replies, houtcome, hsent⟩ := ih reply ⟨state, line.sent ++ [(now, command)]⟩
      refine ⟨some reply :: replies, houtcome, hsent.trans ?_⟩
      rw [List.append_assoc]
      rfl
    · exact ⟨[none], rfl, rfl⟩

/-- A store that is reached over a line to a peer, at a moment. -/
def Peer.around (peer : Peer σ) (timeout : Duration) (now : Time) : Surroundings (Line σ) where
  answer call line :=
    let (outcome, line) := (dialogue call).converse peer timeout now line
    (some outcome, line)
  -- nobody is known here, since what is run does not ask for users
  find _ := .ok none

/-- What a call to the store comes to is what its dialogue comes to. -/
theorem Peer.run_call (peer : Peer σ) (timeout : Duration) (now : Time) (call : Call)
    (standing : Standing (Line σ)) :
    (peer.around timeout now).run standing (Program.call call).run =
      ⟨some ((dialogue call).converse peer timeout now standing.store).1,
        { standing with store := ((dialogue call).converse peer timeout now standing.store).2 },
        [.store call]⟩ :=
  Surroundings.run_call (peer.around timeout now) standing call

/-- The peer accepts a command. -/
def Reply.IsAcceptance (reply : Reply) : Prop := readDone reply = .ok ()

/-- The command that keeps a value under a key for a number of seconds. -/
def setCommand (key value : String) (seconds : UInt64) : Command :=
  ["SET", key, value, "EX", numberText seconds]

/-- A peer keeps values for as long as it is told: once it has accepted one for a number of seconds,
it has it until exactly these have passed. -/
def Peer.IsPunctual (peer : Peer σ) : Prop :=
  ∀ {now : Time} {key value : String} {seconds : UInt64} {state state' : σ} {reply : Reply},
    peer.serve now (setCommand key value seconds) state = (some reply, state') →
    reply.IsAcceptance →
    ∀ later, now ≤ later →
      (peer.Has state' key later ↔ later < now.add (Duration.ofSeconds seconds.toNat))

/-- A peer that replies to the question for a key says whether it has it, or that it has failed. -/
def Peer.IsHonest (peer : Peer σ) : Prop :=
  ∀ {now : Time} {key : String} {state : σ} {reply : Reply},
    (peer.serve now ["EXISTS", key] state).1 = some reply →
    reply = .int 1 ∧ peer.Has state key now ∨ reply = .int 0 ∧ ¬peer.Has state key now ∨
      ∃ text, reply = .error text

/-! ## Single calls -/

variable {peer : Peer σ} {timeout : Duration} {now : Time} {key value : String} {ttl : Duration}
  {line : Line σ}

/-- Keeping a value is one command, whatever the peer replies. -/
theorem sent_set (peer : Peer σ) (timeout : Duration) (now : Time) (key value : String)
    (ttl : Duration) (line : Line σ) :
    ((dialogue (.set key value ttl)).converse peer timeout now line).2.sent =
      line.sent ++ [(now, setCommand key value (wholeSeconds ttl))] := by
  rw [dialogue, sendAndRead, Dialogue.converse]
  split <;> rfl

/-- A value that a punctual peer has accepted is there for its span, rounded up. -/
theorem has_of_set (hpunctual : peer.IsPunctual)
    (hdone : ((dialogue (.set key value ttl)).converse peer timeout now line).1 = .ok ())
    {later : Time} (hle : now ≤ later) :
    peer.Has ((dialogue (.set key value ttl)).converse peer timeout now line).2.peer key later ↔
      later < now.add (Duration.ofSeconds (wholeSeconds ttl).toNat) := by
  rw [dialogue, sendAndRead, Dialogue.converse] at hdone ⊢
  split at hdone
  · next reply state hserve => exact hpunctual hserve hdone later hle
  · cases hdone

/-- Whoever asks an honest peer for a key that it has is told so, if anything. -/
theorem contains_of_has (hhonest : peer.IsHonest) (hhas : peer.Has line.peer key now) {shown : Bool}
    (hanswer : ((dialogue (.contains key)).converse peer timeout now line).1 = .ok shown) :
    shown = true := by
  rw [dialogue, sendAndRead, Dialogue.converse] at hanswer
  split at hanswer
  · next reply state hserve =>
    rw [Dialogue.converse] at hanswer
    rcases hhonest (congrArg Prod.fst hserve) with ⟨rfl, -⟩ | ⟨-, hnone⟩ | ⟨text, rfl⟩
    · exact (Except.ok.inj hanswer).symm
    · exact absurd hhas hnone
    · cases hanswer
  · cases hanswer

/-! ## Rounding -/

/-- A span that fits is rounded up to whole seconds, of which there is one at least. -/
theorem toNat_wholeSeconds (hfits : ttl.seconds + 1 < UInt64.size) :
    (wholeSeconds ttl).toNat =
      if ttl.nanos % 1000000000 ≠ 0 ∨ ttl.seconds = 0 then ttl.seconds + 1 else ttl.seconds := by
  have hseconds : (UInt64.ofNat ttl.seconds).toNat = ttl.seconds :=
    UInt64.toNat_ofNat_of_lt' (Nat.lt_of_succ_lt hfits)
  have hnext : (UInt64.ofNat ttl.seconds + 1).toNat = ttl.seconds + 1 := by
    rw [UInt64.toNat_add, hseconds]
    exact Nat.mod_eq_of_lt hfits
  have hzero : UInt64.ofNat ttl.seconds = 0 ↔ ttl.seconds = 0 := by
    rw [← UInt64.toNat_inj, hseconds, UInt64.toNat_zero]
  simp only [wholeSeconds, Bool.or_eq_true, decide_eq_true_eq, hzero]
  split
  · exact hnext
  · exact hseconds

/-- Rounding adds less than a second to a span that is not empty. -/
theorem wholeSeconds_bounds (hpos : 0 < ttl.nanos) (hfits : ttl.seconds + 1 < UInt64.size) :
    1 ≤ (wholeSeconds ttl).toNat ∧
      ttl.nanos ≤ (Duration.ofSeconds (wholeSeconds ttl).toNat).nanos ∧
      (Duration.ofSeconds (wholeSeconds ttl).toNat).nanos < ttl.nanos + 1000000000 := by
  have hseconds : ttl.seconds = ttl.nanos / 1000000000 := rfl
  have hnanos (n : Nat) : (Duration.ofSeconds n).nanos = n * 1000000000 := rfl
  rw [toNat_wholeSeconds hfits, hnanos]
  by_cases hround : ttl.nanos % 1000000000 ≠ 0 ∨ ttl.seconds = 0
  · rw [if_pos hround]
    omega
  · rw [if_neg hround]
    omega

/-! ## A peer to try things with -/

/-- A peer with a table of keys and the moments at which their values are gone, the latest first. It
understands how values are kept and asked for. -/
def tablePeer : Peer (List (String × Time)) where
  serve now
    | ["SET", key, _, "EX", text], table =>
      match Text.Decimal.unsigned? UInt64.size text.toList with
      | .ok 0 => (some (.error "ERR invalid expire time"), table)
      | .ok n => (some (.status "OK"), (key, now.add (Duration.ofSeconds n)) :: table)
      | .error _ => (some (.error "ERR value is not an integer or out of range"), table)
    | ["EXISTS", key], table =>
      (some (.int (if (table.lookup key).any (now < ·) then 1 else 0)), table)
    | _, table => (some (.error "ERR unknown command"), table)
  Has table key now := (table.lookup key).any (now < ·)

/-- A number is read back from its text. -/
theorem unsigned?_numberText (n : UInt64) :
    Text.Decimal.unsigned? UInt64.size (numberText n).toList = .ok n.toNat := by
  rw [numberText, String.toList_ofList]
  exact Text.Decimal.unsigned?_digits n.toNat_lt

/-- The sample peer keeps what it is asked to keep for so many seconds. -/
theorem serve_tablePeer_set {seconds : UInt64} (h : 1 ≤ seconds.toNat) (now : Time)
    (key value : String) (table : List (String × Time)) :
    tablePeer.serve now (setCommand key value seconds) table =
      (some (.status "OK"), (key, now.add (Duration.ofSeconds seconds.toNat)) :: table) := by
  simp only [tablePeer, setCommand, unsigned?_numberText]
  split
  · next hn =>
    have hzero := Except.ok.inj hn
    omega
  · next n hn =>
    cases hn
    rfl
  · next hn => cases hn

/-- The sample peer drops what it keeps at its time. -/
theorem isPunctual_tablePeer : tablePeer.IsPunctual := by
  intro now key value seconds table table' reply hserve haccept later hle
  simp only [tablePeer, setCommand, unsigned?_numberText] at hserve
  split at hserve
  · cases hserve
    cases haccept
  · next n hn =>
    cases hserve
    cases hn
    simp [tablePeer]
  · next hn => cases hn

/-- The sample peer answers by what it keeps. -/
theorem isHonest_tablePeer : tablePeer.IsHonest := by
  intro now key table reply hserve
  cases hserve
  by_cases hhas : (table.lookup key).any (now < ·)
  · exact .inl ⟨by rw [if_pos hhas], hhas⟩
  · exact .inr (.inl ⟨by rw [if_neg hhas], hhas⟩)

end Bearer.Store.Remote
