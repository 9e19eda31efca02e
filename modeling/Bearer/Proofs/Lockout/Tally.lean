import Bearer.Proofs.Store.Live
import Bearer.Lockout
import Bearer.User

/-!
# The lockout of one pair

What is counted for a pair, as a machine of its own. It is clean, or it has counted some failures
and forgets them at a moment. An attempt on a locked pair changes nothing; any other makes the pair
clean if it presents the right password, and counts one failure more if it does not. The first
failure fixes the moment at which all are forgotten, and no later one moves it.

Main statements: `attempt_eq_locked_iff` says when a pair is locked, `deadline_of_attempt` that no
attempt moves a deadline, and `isBounded_attempt` that none counts beyond the limit.
-/

namespace Bearer

/-- What is counted for a pair. -/
inductive Tally where
  /-- There were no failures. -/
  | clean
  /-- There were some failures, which are forgotten at a moment. -/
  | failed (count : Nat) (deadline : Time)

/-- How an attempt ends. -/
inductive Verdict where
  /-- The pair is locked. -/
  | locked
  /-- The password is that of a user. -/
  | accepted (user : User)
  /-- The password is wrong, or there is no such user. -/
  | rejected

namespace Tally

/-- What still counts at a moment. -/
def current (now : Time) : Tally → Tally
  | clean => clean
  | failed count deadline => if now < deadline then failed count deadline else clean

/-- How an attempt ends that is not locked, given the user whom it stands for if its password is
right and what is counted then if it is wrong. -/
def settle (user? : Option User) (failure : Tally) : Verdict × Tally :=
  match user? with
  | some user => (.accepted user, clean)
  | none => (.rejected, failure)

/-- One attempt, given the user whom it stands for if its password is right: how it ends, and what
is counted then. -/
def attempt (policy : Lockout.Policy) (now : Time) (user? : Option User) (tally : Tally) :
    Verdict × Tally :=
  match tally.current now with
  | clean => settle user? (failed 1 (now.add policy.window))
  | failed count deadline =>
    if policy.maxAttempts.toNat ≤ count then (.locked, failed count deadline)
    else settle user? (failed (count + 1) deadline)

/-- The number of failures that are counted lies between one and the limit. -/
def IsBounded (policy : Lockout.Policy) : Tally → Prop
  | clean => True
  | failed count _ => 1 ≤ count ∧ count ≤ policy.maxAttempts.toNat

/-- The entry that stands for a tally in the store. -/
def toEntry : Tally → Option Store.Entry
  | clean => none
  | failed count deadline => some ⟨String.ofList (Text.Decimal.digits count), some deadline⟩

variable {policy : Lockout.Policy} {now later : Time} {user? : Option User} {tally : Tally}
  {count : Nat} {deadline : Time}

/-- A policy lets at least one failure happen. -/
theorem maxAttempts_pos (policy : Lockout.Policy) : 0 < policy.maxAttempts.toNat :=
  Nat.pos_of_ne_zero fun h => policy.maxAttempts_ne_zero (UInt64.toNat_inj.mp h)

/-! ## What still counts -/

/-- Failures count exactly until their deadline. -/
theorem current_eq_failed_iff :
    tally.current now = failed count deadline ↔ tally = failed count deadline ∧ now < deadline := by
  cases tally with
  | clean => simp [current]
  | failed n moment =>
    rw [current]
    split
    · next hlive =>
      constructor
      · intro h
        cases h
        exact ⟨rfl, hlive⟩
      · exact And.left
    · next hpast =>
      constructor
      · intro h
        cases h
      · rintro ⟨h, hlive⟩
        cases h
        exact absurd hlive hpast

/-- What still counts is what a store shows that holds the entry of the tally. -/
theorem toEntry_current (tally : Tally) (now : Time) :
    (tally.current now).toEntry = tally.toEntry.filter (·.isLive now) := by
  -- a failure counts until its deadline, and just so long is its entry live
  cases tally with
  | clean => rfl
  | failed n moment =>
    rw [current]
    split
    · next hlive =>
      symm
      refine Option.filter_eq_some_iff.mpr ⟨rfl, ?_⟩
      simpa [Store.Entry.isLive] using hlive
    · next hpast =>
      symm
      refine Option.filter_eq_none_iff.mpr ?_
      simpa [toEntry, Store.Entry.isLive] using hpast

/-- What counts of a bounded tally is bounded. -/
theorem IsBounded.current (h : tally.IsBounded policy) (now : Time) :
    (tally.current now).IsBounded policy := by
  cases tally with
  | clean => exact trivial
  | failed n moment =>
    rw [Tally.current]
    split
    · exact h
    · exact trivial

/-! ## Attempts -/

/-- An attempt whose password is checked is not locked out. -/
theorem settle_ne_locked (user? : Option User) (failure : Tally) :
    (settle user? failure).1 ≠ .locked := by
  cases user? <;> nofun

/-- An attempt without failures before it opens a window if it fails. -/
theorem attempt_of_clean (h : tally.current now = clean) :
    tally.attempt policy now user? = settle user? (failed 1 (now.add policy.window)) := by
  simp only [attempt, h]

/-- An attempt after as many failures as the limit allows is locked out, and is not counted. -/
theorem attempt_of_locked (h : tally.current now = failed count deadline)
    (hlocked : policy.maxAttempts.toNat ≤ count) :
    tally.attempt policy now user? = (.locked, failed count deadline) := by
  simp only [attempt, h, if_pos hlocked]

/-- An attempt after fewer failures is counted among them if it fails. -/
theorem attempt_of_failed (h : tally.current now = failed count deadline)
    (hfree : ¬policy.maxAttempts.toNat ≤ count) :
    tally.attempt policy now user? = settle user? (failed (count + 1) deadline) := by
  simp only [attempt, h, if_neg hfree]

/-- A pair is locked from the failure that reaches the limit up to the deadline, whatever the
password. -/
theorem attempt_eq_locked_iff :
    (tally.attempt policy now user?).1 = .locked ↔
      ∃ count deadline, tally = failed count deadline ∧ now < deadline ∧
        policy.maxAttempts.toNat ≤ count := by
  constructor
  · intro h
    -- the other two ways in which an attempt can go do not end in this verdict
    cases hcurrent : tally.current now with
    | clean =>
      rw [attempt_of_clean hcurrent] at h
      exact absurd h (settle_ne_locked _ _)
    | failed n moment =>
      obtain ⟨htally, hlive⟩ := current_eq_failed_iff.mp hcurrent
      by_cases hlocked : policy.maxAttempts.toNat ≤ n
      · exact ⟨n, moment, htally, hlive, hlocked⟩
      · rw [attempt_of_failed hcurrent hlocked] at h
        exact absurd h (settle_ne_locked _ _)
  · rintro ⟨n, moment, htally, hlive, hlocked⟩
    rw [attempt_of_locked (current_eq_failed_iff.mpr ⟨htally, hlive⟩) hlocked]

/-- Failures that count keep their deadline through an attempt, unless it makes the pair clean. -/
theorem deadline_of_attempt {after : Nat} {moved : Time}
    (h : tally.current now = failed count deadline)
    (hafter : (tally.attempt policy now user?).2 = failed after moved) :
    moved = deadline ∧ count ≤ after := by
  by_cases hlocked : policy.maxAttempts.toNat ≤ count
  · -- nothing is counted for a locked pair
    rw [attempt_of_locked h hlocked] at hafter
    cases hafter
    exact ⟨rfl, Nat.le_refl _⟩
  · rw [attempt_of_failed h hlocked] at hafter
    cases user? with
    | some user => cases hafter
    | none =>
      cases hafter
      exact ⟨rfl, Nat.le_succ _⟩

/-- No attempt counts beyond the limit. -/
theorem isBounded_attempt (h : tally.IsBounded policy) :
    (tally.attempt policy now user?).2.IsBounded policy := by
  cases hcurrent : tally.current now with
  | clean =>
    rw [attempt_of_clean hcurrent]
    cases user? with
    | some user => exact trivial
    | none => exact ⟨Nat.le_refl 1, maxAttempts_pos policy⟩
  | failed n moment =>
    have hbound : (failed n moment).IsBounded policy := hcurrent ▸ h.current now
    by_cases hlocked : policy.maxAttempts.toNat ≤ n
    · rw [attempt_of_locked hcurrent hlocked]
      exact hbound
    · rw [attempt_of_failed hcurrent hlocked]
      cases user? with
      | some user => exact trivial
      | none =>
        -- one failure more than fewer than the limit
        exact ⟨Nat.le_add_left 1 n, Nat.lt_of_not_le hlocked⟩

end Tally

/-- No failures lock nothing. -/
theorem Lockout.Policy.not_locks_zero (policy : Lockout.Policy) : ¬policy.locks 0 := by
  rw [locks, decide_eq_true_eq, UInt64.le_iff_toNat_le]
  exact Nat.not_le_of_lt (Tally.maxAttempts_pos policy)

end Bearer
