import Bearer.Proofs.Claims.End
import Bearer.Proofs.Service.Tokens
import Bearer.Proofs.Store.Peer

/-!
# A revoked token at a peer

A token can be revoked again and again, and each time the peer is told to keep its entry for what is
left of the token, in whole seconds. The entry that the latest revocation has left is there as long
as the token is good: seconds are rounded up, and a later revocation finds the same end before it.

Main statement: `entry_outlives`.
-/

namespace Bearer.Revocation

open Store.Remote
open Program (Run)

variable {σ : Type} {peer : Peer σ} {timeout : Duration} {claims : Claims} {line : Line σ}
  {now later : Time} {left : Duration} {moments : List Time}

/-- Revokes a token over a line to a peer, at a moment. -/
def revokeAt (peer : Peer σ) (timeout : Duration) (claims : Claims) (line : Line σ) (now : Time) :
    Run (Standing (Line σ)) (Except Store.Failure Unit) :=
  (peer.around timeout now).run ⟨line, Metrics.zero⟩ (revokeClaims claims now).run

/-- The line after a token was revoked at one moment after another. -/
def revokeEach (peer : Peer σ) (timeout : Duration) (claims : Claims) (moments : List Time)
    (line : Line σ) : Line σ :=
  moments.foldl (fun line now => (revokeAt peer timeout claims line now).state.store) line

/-- Each of these revocations is answered with success. -/
def AllDone (peer : Peer σ) (timeout : Duration) (claims : Claims) : List Time → Line σ → Prop
  | [], _ => True
  | now :: rest, line =>
    (revokeAt peer timeout claims line now).answer? = some (.ok ()) ∧
      AllDone peer timeout claims rest (revokeAt peer timeout claims line now).state.store

/-- The command that a revocation at a moment sends, with the moment, unless the token has run
out. -/
def sentAt? (claims : Claims) (now : Time) : Option (Time × Command) :=
  (claims.remaining? now).map fun left =>
    (now, setCommand (key claims.tokenId) marker (wholeSeconds left))

/-! ## One revocation -/

/-- A token with time left is revoked by the talk that sets its entry for that time. -/
theorem revokeAt_of_good (h : claims.remaining? now = some left) :
    revokeAt peer timeout claims line now =
      let talk := (dialogue (.set (key claims.tokenId) marker left)).converse peer timeout now line
      ⟨some talk.1, ⟨talk.2, Metrics.zero⟩, [.store (.set (key claims.tokenId) marker left)]⟩ := by
  rw [revokeAt, Service.revokeClaims_of_remaining? h, Peer.run_call]

/-- A token without time left is revoked without a word to the peer. -/
theorem revokeAt_of_expired (h : claims.remaining? now = none) :
    revokeAt peer timeout claims line now = ⟨some (.ok ()), ⟨line, Metrics.zero⟩, []⟩ := by
  rw [revokeAt, revokeClaims, h]
  rfl

/-- A revocation sends its one command, whatever the peer replies. -/
theorem sent_revokeAt (peer : Peer σ) (timeout : Duration) (claims : Claims) (line : Line σ)
    (now : Time) :
    (revokeAt peer timeout claims line now).state.store.sent =
      line.sent ++ (sentAt? claims now).toList := by
  rw [sentAt?]
  cases h : claims.remaining? now with
  | none =>
    rw [revokeAt_of_expired h]
    exact (List.append_nil _).symm
  | some left =>
    rw [revokeAt_of_good h]
    exact sent_set peer timeout now _ _ left line

/-- What is left of a token is a number of seconds that fits. -/
theorem seconds_of_remaining? (h : claims.remaining? now = some left) :
    left.seconds + 1 < UInt64.size := by
  obtain ⟨-, -, hbound⟩ := Claims.nanos_of_remaining? h
  simp only [Duration.seconds, UInt64.size]
  omega

/-- The entry that a revocation leaves is there at every later moment at which the token is good. -/
theorem has_revokeAt (hpunctual : peer.IsPunctual)
    (hdone : (revokeAt peer timeout claims line now).answer? = some (.ok ()))
    (hnow : now.InCalendar) (hlater : later.InCalendar) (hle : now ≤ later)
    (hgood : claims.isExpired later = false) :
    peer.Has (revokeAt peer timeout claims line now).state.store.peer (key claims.tokenId)
      later := by
  have hleft := Claims.remaining?_of_good hnow (Claims.isExpired_of_le hle hgood)
  rw [revokeAt_of_good hleft] at hdone ⊢
  refine (has_of_set hpunctual (Option.some.inj hdone) hle).mpr ?_
  -- what is left reaches beyond the later moment, and is rounded up
  have hreach := Claims.lt_deadline_of_remaining? hnow hlater hleft hgood
  obtain ⟨-, hpos, -⟩ := Claims.nanos_of_remaining? hleft
  obtain ⟨-, hround, -⟩ := wholeSeconds_bounds hpos (seconds_of_remaining? hleft)
  simp only [Time.lt_def, Time.add] at *
  omega

/-! ## One revocation after another -/

/-- The last of several revocations comes after all the others. -/
theorem revokeEach_concat (moments : List Time) (line : Line σ) (now : Time) :
    revokeEach peer timeout claims (moments ++ [now]) line =
      (revokeAt peer timeout claims (revokeEach peer timeout claims moments line)
        now).state.store := by
  rw [revokeEach, List.foldl_append]
  rfl

/-- Revocations in a row are all done exactly if those of the first part are, and then those of the
rest. -/
theorem allDone_append {more : List Time} :
    AllDone peer timeout claims (moments ++ more) line ↔
      AllDone peer timeout claims moments line ∧
        AllDone peer timeout claims more (revokeEach peer timeout claims moments line) := by
  induction moments generalizing line with
  | nil => exact (true_and _).symm.to_iff
  | cons now rest ih => exact (and_congr_right fun _ => ih).trans and_assoc.symm

/-- Each revocation sends its command, if the token has time left then, and nothing else is sent. -/
theorem sent_revokeEach (moments : List Time) (line : Line σ) :
    (revokeEach peer timeout claims moments line).sent =
      line.sent ++ moments.filterMap (sentAt? claims) := by
  induction moments generalizing line with
  | nil => exact (List.append_nil _).symm
  | cons now rest ih =>
    refine (ih _).trans ?_
    rw [sent_revokeAt, List.append_assoc, List.filterMap_cons]
    cases sentAt? claims now <;> rfl

/-- Of moments in their order, those up to a moment come first. -/
theorem filter_le_prefix (h : moments.Pairwise (· ≤ ·)) (later : Time) :
    moments.filter (· ≤ later) <+: moments := by
  induction h with
  | nil => exact List.prefix_rfl
  | @cons now rest hnow _ ih =>
    by_cases hle : now ≤ later
    · rw [List.filter_cons, if_pos (decide_eq_true hle)]
      exact List.cons_prefix_cons.mpr ⟨rfl, ih⟩
    · -- the rest comes even later
      have hnone : (now :: rest).filter (· ≤ later) = [] := by
        refine List.filter_eq_nil_iff.mpr fun other hmem hother => hle ?_
        rcases List.mem_cons.mp hmem with rfl | hrest
        · exact of_decide_eq_true hother
        · exact Time.le_trans (hnow other hrest) (of_decide_eq_true hother)
      rw [hnone]
      exact List.nil_prefix

/-- After revocations up to a moment at which the token is good, the peer has its entry then. -/
theorem has_revokeEach (hpunctual : peer.IsPunctual) (hsome : moments ≠ [])
    (hdone : AllDone peer timeout claims moments line)
    (hcal : ∀ now ∈ moments, now.InCalendar) (hle : ∀ now ∈ moments, now ≤ later)
    (hlater : later.InCalendar) (hgood : claims.isExpired later = false) :
    peer.Has (revokeEach peer timeout claims moments line).peer (key claims.tokenId) later := by
  -- only the last revocation matters, which was answered with success like all others
  obtain ⟨earlier, last, rfl⟩ : ∃ earlier last, moments = earlier ++ [last] :=
    ⟨_, _, (List.dropLast_concat_getLast hsome).symm⟩
  have hlast : last ∈ earlier ++ [last] := List.mem_append_right _ (List.mem_singleton_self _)
  obtain ⟨hanswer, -⟩ := (allDone_append.mp hdone).2
  rw [revokeEach_concat]
  exact has_revokeAt hpunctual hanswer (hcal last hlast) hlater (hle last hlast) hgood

/-- Whoever asks an honest peer whether a token is revoked is told so if the peer has its entry. -/
theorem isRevoked_of_has (hhonest : peer.IsHonest)
    (hhas : peer.Has line.peer (key claims.tokenId) now) {shown : Bool}
    (hanswer : ((peer.around timeout now).run ⟨line, Metrics.zero⟩
      (isRevoked claims.tokenId).run).answer? = some (.ok shown)) : shown = true := by
  rw [isRevoked, Peer.run_call] at hanswer
  exact contains_of_has hhonest hhas (Option.some.inj hanswer)

/-! ## Main statement -/

/-- A token is revoked at some moments, one after another, and each time with success. Every command
that is sent keeps its entry for at least a second, and for what is left of the token or longer by
less than a second. At every moment of the calendar from the first on at which the token is good,
the peer has the entry that the revocations up to then have left. So whoever asks an honest peer
then, and is answered, is told that the token is revoked. -/
theorem entry_outlives (claims : Claims) (peer : Peer σ) (hpunctual : peer.IsPunctual)
    (timeout : Duration) (state : σ) (first : Time) (rest : List Time)
    (hcal : ∀ now ∈ first :: rest, now.InCalendar)
    (hsorted : (first :: rest).Pairwise (· ≤ ·))
    (hdone : AllDone peer timeout claims (first :: rest) ⟨state, []⟩) :
    (∀ entry ∈ (revokeEach peer timeout claims (first :: rest) ⟨state, []⟩).sent,
      ∃ left seconds, entry.1 ∈ first :: rest ∧ claims.remaining? entry.1 = some left ∧
        entry.2 = setCommand (key claims.tokenId) marker seconds ∧
        1 ≤ seconds.toNat ∧
        left.nanos ≤ (Duration.ofSeconds seconds.toNat).nanos ∧
        (Duration.ofSeconds seconds.toNat).nanos < left.nanos + 1000000000) ∧
    ∀ later, later.InCalendar → first ≤ later → claims.isExpired later = false →
      let line := revokeEach peer timeout claims ((first :: rest).filter (· ≤ later)) ⟨state, []⟩
      peer.Has line.peer (key claims.tokenId) later ∧
      (peer.IsHonest → ∀ shown,
        ((peer.around timeout later).run ⟨line, Metrics.zero⟩
          (isRevoked claims.tokenId).run).answer? = some (.ok shown) → shown = true) := by
  refine ⟨fun entry hentry => ?_, fun later hlater hle hgood => ?_⟩
  · rw [sent_revokeEach, List.nil_append, List.mem_filterMap] at hentry
    obtain ⟨now, hmem, hsent⟩ := hentry
    obtain ⟨left, hleft, rfl⟩ := Option.map_eq_some_iff.mp hsent
    obtain ⟨-, hpos, -⟩ := Claims.nanos_of_remaining? hleft
    exact ⟨left, wholeSeconds left, hmem, hleft, rfl,
      wholeSeconds_bounds hpos (seconds_of_remaining? hleft)⟩
  · intro line
    -- the revocations up to then are the first ones, and the very first is among them
    obtain ⟨others, hsplit⟩ := filter_le_prefix hsorted later
    have hsome : (first :: rest).filter (· ≤ later) ≠ [] :=
      List.ne_nil_of_mem (List.mem_filter.mpr ⟨List.mem_cons_self, decide_eq_true hle⟩)
    rw [← hsplit] at hdone
    have hhas : peer.Has line.peer (key claims.tokenId) later :=
      has_revokeEach hpunctual hsome (allDone_append.mp hdone).1
        (fun now hnow => hcal now (List.mem_filter.mp hnow).1)
        (fun now hnow => of_decide_eq_true (List.mem_filter.mp hnow).2) hlater hgood
    exact ⟨hhas, fun hhonest shown => isRevoked_of_has hhonest hhas⟩

/-- The peer with a table answers every revocation with success. -/
theorem allDone_tablePeer (timeout : Duration) (claims : Claims) (moments : List Time)
    (line : Line (List (String × Time))) : AllDone tablePeer timeout claims moments line := by
  induction moments generalizing line with
  | nil => exact trivial
  | cons now rest ih =>
    refine ⟨?_, ih _⟩
    cases hleft : claims.remaining? now with
    | none => rw [revokeAt_of_expired hleft]
    | some left =>
      obtain ⟨-, hpos, -⟩ := Claims.nanos_of_remaining? hleft
      -- what is left is more than nothing, so that the peer is asked for a second or more
      have hseconds := (wholeSeconds_bounds hpos (seconds_of_remaining? hleft)).1
      have hserve := serve_tablePeer_set hseconds now (key claims.tokenId) marker line.peer
      rw [setCommand] at hserve
      rw [revokeAt_of_good hleft, dialogue, sendAndRead]
      simp only [Dialogue.converse, hserve]
      rfl

/-- A token is revoked nine seconds and a fraction before its end, and again within its last second:
the peer is told to keep the entry for ten seconds, and then for one, and has it up to the last
nanosecond at which the token is good. Whoever asks then is told so. -/
theorem entry_outlives_sample :
    let claims := Claims.sampleUntil 3600
    let moments : List Time := [⟨3591000400000⟩, ⟨3600250700000⟩]
    let line := revokeEach tablePeer (Duration.ofMillis 250) claims moments ⟨[], []⟩
    line.sent = [(⟨3591000400000⟩, setCommand (key "t1") marker 10),
      (⟨3600250700000⟩, setCommand (key "t1") marker 1)] ∧
    claims.isExpired ⟨3600999999999⟩ = false ∧
    tablePeer.Has line.peer (key "t1") ⟨3600999999999⟩ ∧
    ∀ shown, ((tablePeer.around (Duration.ofMillis 250) ⟨3600999999999⟩).run ⟨line, Metrics.zero⟩
      (isRevoked "t1").run).answer? = some (.ok shown) → shown = true := by
  intro claims moments line
  obtain ⟨-, hhas⟩ := entry_outlives claims tablePeer isPunctual_tablePeer (Duration.ofMillis 250)
    [] ⟨3591000400000⟩ [⟨3600250700000⟩] (by decide) (by decide)
    (allDone_tablePeer _ claims moments _)
  have hgood : claims.isExpired ⟨3600999999999⟩ = false := by decide
  obtain ⟨hentry, hshown⟩ := hhas ⟨3600999999999⟩ (by decide) (by decide) hgood
  refine ⟨?_, hgood, hentry, hshown isHonest_tablePeer⟩
  rw [sent_revokeEach]
  decide

end Bearer.Revocation
