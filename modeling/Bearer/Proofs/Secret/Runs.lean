import Bearer.Secret
import Mathlib.Data.List.Infix

/-!
# Runs in a secret

Bytes are searched for runs from left to right, with two numbers in mind: how many of the last bytes
are equal, and how many count upwards. Each number starts again at one when its own rule is broken,
whatever becomes of the other. A run of either kind is complete when its number comes to four.

The invariant of the search is that the two numbers are those of the part that has been read
(`completesRun_iff`). So a run is reported exactly if the bytes have one, and at the first position
at which one ends.

Main statements: `hasRun_iff_four`, `hasRun_iff_exists_at` and `runs_refused`.
-/

namespace Bearer.Secret

/-- Four bytes are equal, or each is one more than the one before. -/
def IsRun (a b c d : UInt8) : Prop :=
  (a = b ∧ b = c ∧ c = d) ∨
    (a.toNat + 1 = b.toNat ∧ b.toNat + 1 = c.toNat ∧ c.toNat + 1 = d.toNat)

instance (a b c d : UInt8) : Decidable (IsRun a b c d) := inferInstanceAs (Decidable (_ ∨ _))

/-- The four bytes from a position on are a run. -/
def HasRunAt (bytes : Bytes) (i : Nat) : Prop :=
  ∃ h : i + 3 < bytes.length, IsRun bytes[i] bytes[i + 1] bytes[i + 2] bytes[i + 3]

/-! ## The end of what has been read -/

section Tail

variable (r : UInt8 → UInt8 → Prop) [DecidableRel r]

/-- How many of the last bytes follow each other by a rule. The bytes stand in reverse. -/
def tail : Bytes → Nat
  | [] => 0
  | [_] => 1
  | byte :: last :: seen => if r last byte then tail (last :: seen) + 1 else 1

/-- The last byte follows itself, if no other. -/
theorem tail_pos (last : UInt8) (seen : Bytes) : 0 < tail r (last :: seen) := by
  cases seen with
  | nil => exact Nat.one_pos
  | cons before seen =>
    rw [tail]
    split
    · exact Nat.succ_pos _
    · exact Nat.one_pos

/-- More than one byte follows by the rule if the last one does and those before it are as many less
one. -/
theorem succ_lt_tail_iff {n : Nat} {reversed : Bytes} :
    n + 1 < tail r reversed ↔
      ∃ byte last seen, reversed = byte :: last :: seen ∧ r last byte ∧
        n < tail r (last :: seen) := by
  rcases reversed with _ | ⟨byte, _ | ⟨last, seen⟩⟩
  · simp [tail]
  · simp [tail]
  · simp only [tail, List.cons.injEq]
    constructor
    · intro h
      split at h
      · next hr => exact ⟨byte, last, seen, ⟨rfl, rfl, rfl⟩, hr, Nat.lt_of_succ_lt_succ h⟩
      · omega
    · rintro ⟨_, _, _, ⟨rfl, rfl, rfl⟩, hr, hn⟩
      rw [if_pos hr]
      omega

/-- A run is complete by a rule exactly if the last four bytes follow each other by it. -/
theorem runLength_le_tail_iff {reversed : Bytes} :
    runLength ≤ tail r reversed ↔
      ∃ a b c d seen, reversed = d :: c :: b :: a :: seen ∧ r a b ∧ r b c ∧ r c d := by
  constructor
  · intro h
    obtain ⟨d, c, seen, rfl, hcd, hthree⟩ := (succ_lt_tail_iff r (n := 2)).mp h
    obtain ⟨_, b, seen, heq, hbc, htwo⟩ := (succ_lt_tail_iff r (n := 1)).mp hthree
    cases heq
    obtain ⟨_, a, seen, heq, hab, -⟩ := (succ_lt_tail_iff r (n := 0)).mp htwo
    cases heq
    exact ⟨a, b, c, d, seen, rfl, hab, hbc, hcd⟩
  · rintro ⟨a, b, c, d, seen, rfl, hab, hbc, hcd⟩
    have hb := (succ_lt_tail_iff r).mpr ⟨b, a, seen, rfl, hab, tail_pos r a seen⟩
    have hc := (succ_lt_tail_iff r).mpr ⟨c, b, a :: seen, rfl, hbc, hb⟩
    exact (succ_lt_tail_iff r).mpr ⟨d, c, b :: a :: seen, rfl, hcd, hc⟩

end Tail

/-- One byte is one more than the other. -/
def Precedes (a b : UInt8) : Prop := a.toNat + 1 = b.toNat

instance : DecidableRel Precedes := fun a b => inferInstanceAs (Decidable (a.toNat + 1 = b.toNat))

/-- The last four bytes are a run. The bytes stand in reverse. -/
def EndsInRun (reversed : Bytes) : Prop :=
  runLength ≤ tail (· = ·) reversed ∨ runLength ≤ tail Precedes reversed

/-- Bytes end in a run exactly if the last four of them are one. -/
theorem endsInRun_iff {reversed : Bytes} :
    EndsInRun reversed ↔ ∃ a b c d seen, reversed = d :: c :: b :: a :: seen ∧ IsRun a b c d := by
  rw [EndsInRun, runLength_le_tail_iff, runLength_le_tail_iff]
  constructor
  · rintro (⟨a, b, c, d, seen, rfl, hequal⟩ | ⟨a, b, c, d, seen, rfl, hascending⟩)
    · exact ⟨a, b, c, d, seen, rfl, .inl hequal⟩
    · exact ⟨a, b, c, d, seen, rfl, .inr hascending⟩
  · rintro ⟨a, b, c, d, seen, rfl, hequal | hascending⟩
    · exact .inl ⟨a, b, c, d, seen, rfl, hequal⟩
    · exact .inr ⟨a, b, c, d, seen, rfl, hascending⟩

/-! ## The search -/

/-- While the two numbers are those of what has been read, a run is reported exactly if one ends
within some part of what follows. -/
theorem completesRun_iff (seen : Bytes) (last : UInt8) (rest : Bytes) :
    completesRun last (tail (· = ·) (last :: seen)) (tail Precedes (last :: seen)) rest = true ↔
      ∃ byte more, byte :: more <+: rest ∧
        EndsInRun ((byte :: more).reverse ++ last :: seen) := by
  induction rest generalizing seen last with
  | nil => simp [completesRun]
  | cons byte rest ih =>
    -- the numbers that the search goes on with are those of one byte more
    have hstep : completesRun last (tail (· = ·) (last :: seen)) (tail Precedes (last :: seen))
        (byte :: rest) = true ↔
          EndsInRun (byte :: last :: seen) ∨
            completesRun byte (tail (· = ·) (byte :: last :: seen))
              (tail Precedes (byte :: last :: seen)) rest = true := by
      rw [EndsInRun, ← decide_eq_true_iff (p := runLength ≤ tail (· = ·) _),
        ← decide_eq_true_iff (p := runLength ≤ tail Precedes _), ← Bool.or_eq_true,
        ← Bool.or_eq_true]
      rfl
    rw [hstep, ih]
    constructor
    · rintro (hends | ⟨next, more, hstart, hends⟩)
      · exact ⟨byte, [], by simp, hends⟩
      · refine ⟨byte, next :: more, (List.prefix_cons_inj byte).mpr hstart, ?_⟩
        rwa [List.reverse_cons, List.append_assoc]
    · rintro ⟨first, more, hstart, hends⟩
      obtain ⟨rfl, hmore⟩ := List.cons_prefix_cons.mp hstart
      cases more with
      | nil => exact .inl hends
      | cons next more =>
        refine .inr ⟨next, more, hmore, ?_⟩
        rwa [List.reverse_cons, List.append_assoc] at hends

/-- Bytes have a run exactly if some part that they begin with ends in one. -/
theorem hasRun_iff_read {bytes : Bytes} :
    hasRun bytes = true ↔ ∃ read, read <+: bytes ∧ EndsInRun read.reverse := by
  cases bytes with
  | nil =>
    have hnone : ¬EndsInRun [] := by simp [EndsInRun, tail, runLength]
    simp [hasRun, List.prefix_nil, hnone]
  | cons first rest =>
    rw [hasRun, show (1 : Nat) = tail (· = ·) [first] from rfl]
    refine (completesRun_iff [] first rest).trans ?_
    constructor
    · rintro ⟨byte, more, hstart, hends⟩
      refine ⟨first :: byte :: more, (List.prefix_cons_inj first).mpr hstart, ?_⟩
      rwa [List.reverse_cons]
    · rintro ⟨read, hstart, hends⟩
      -- a run takes more than one byte
      obtain ⟨a, b, c, d, seen, hread, -⟩ := endsInRun_iff.mp hends
      rcases read with _ | ⟨head, _ | ⟨byte, more⟩⟩
      · cases hread
      · cases hread
      · obtain ⟨rfl, hmore⟩ := List.cons_prefix_cons.mp hstart
        refine ⟨byte, more, hmore, ?_⟩
        rwa [List.reverse_cons] at hends

/-- Bytes have a run exactly if four of them that stand together are one. -/
theorem hasRun_iff_four {bytes : Bytes} :
    hasRun bytes = true ↔ ∃ a b c d, [a, b, c, d] <:+: bytes ∧ IsRun a b c d := by
  rw [hasRun_iff_read]
  constructor
  · rintro ⟨read, hstart, hends⟩
    obtain ⟨a, b, c, d, seen, hread, hrun⟩ := endsInRun_iff.mp hends
    have hback : [a, b, c, d] <:+ read := by
      rw [← List.reverse_prefix, hread]
      exact ⟨seen, rfl⟩
    exact ⟨a, b, c, d, hback.isInfix.trans hstart.isInfix, hrun⟩
  · rintro ⟨a, b, c, d, ⟨before, after, rfl⟩, hrun⟩
    refine ⟨before ++ [a, b, c, d], ⟨after, rfl⟩, endsInRun_iff.mpr ?_⟩
    exact ⟨a, b, c, d, before.reverse, by simp, hrun⟩

/-- Bytes have a run exactly if there is one at some place. -/
theorem hasRun_iff_exists_at {bytes : Bytes} :
    hasRun bytes = true ↔ ∃ i, HasRunAt bytes i := by
  rw [hasRun_iff_four]
  constructor
  · rintro ⟨a, b, c, d, ⟨before, after, rfl⟩, hrun⟩
    exact ⟨before.length, by simp, by simpa [List.getElem_append] using hrun⟩
  · rintro ⟨i, hi, hrun⟩
    have hdrop : bytes.drop i =
        bytes[i] :: bytes[i + 1] :: bytes[i + 2] :: bytes[i + 3] :: bytes.drop (i + 4) := by
      simp only [List.getElem_cons_drop]
    refine ⟨_, _, _, _, ⟨bytes.take i, bytes.drop (i + 4), ?_⟩, hrun⟩
    calc bytes.take i ++ [bytes[i], bytes[i + 1], bytes[i + 2], bytes[i + 3]] ++ bytes.drop (i + 4)
        = bytes.take i ++ bytes.drop i := by rw [hdrop, List.append_assoc]; rfl
      _ = bytes := List.take_append_drop i bytes

-- counting upwards does not go on from 255 to 0
example : hasRun [253, 254, 255, 0] = false := by decide

/-! ## Refusal -/

/-- What is wrong with bytes that are too short or have a run. -/
theorem weakness?_of_short_or_run {bytes : Bytes} (h : bytes.length < minLength ∨ hasRun bytes) :
    weakness? bytes =
      some (if bytes.length < minLength then .short
        else if entropyBelow 4 bytes then .lowEntropy else .runs) := by
  rw [weakness?]
  split
  · rfl
  · next hlong =>
    rw [if_pos (h.resolve_left hlong)]
    split <;> rfl

/-- Weak bytes are refused as a secret, and the refusal tells the weakness. -/
theorem ofBytes?_of_weakness? {bytes : Bytes} {weakness : Weakness}
    (h : weakness? bytes = some weakness) :
    ofBytes? bytes = .error (.weakSecret weakness.message) := by
  unfold ofBytes?
  split
  · next other hother =>
    cases h.symm.trans hother
    rfl
  · next hnone => cases h.symm.trans hnone

/-- A secret is long enough and has no run. -/
theorem length_and_hasRun_of_fit {bytes : Bytes} (h : weakness? bytes = none) :
    minLength ≤ bytes.length ∧ hasRun bytes = false := by
  constructor
  · by_contra hshort
    cases h.symm.trans (weakness?_of_short_or_run (.inl (Nat.lt_of_not_le hshort)))
  · by_contra hrun
    cases h.symm.trans (weakness?_of_short_or_run (.inr (eq_true_of_ne_false hrun)))

/-- The search reports a run exactly if there is a position at which four bytes are equal or count
upwards. Bytes that are fewer than thirty-two or have a run are refused as a secret, whatever their
entropy, which decides at most how the refusal is worded. And every secret is made of the very bytes
that were put forward, at least thirty-two of them and without a run. -/
theorem runs_refused (bytes : Bytes) :
    (hasRun bytes = true ↔ ∃ i, HasRunAt bytes i) ∧
    (bytes.length < 32 ∨ (∃ i, HasRunAt bytes i) →
      ofBytes? bytes = .error (.weakSecret
        (if bytes.length < 32 then Weakness.short
          else if entropyBelow 4 bytes then .lowEntropy else .runs).message)) ∧
    (∀ secret, ofBytes? bytes = .ok secret → secret.bytes = bytes) ∧
    ∀ secret : Secret, 32 ≤ secret.bytes.length ∧ ¬∃ i, HasRunAt secret.bytes i := by
  refine ⟨hasRun_iff_exists_at, fun h => ?_, fun secret => ofBytes?_eq_ok_iff.mp, fun secret => ?_⟩
  · exact ofBytes?_of_weakness? (weakness?_of_short_or_run
      (h.imp_right hasRun_iff_exists_at.mpr))
  · obtain ⟨hlength, hrun⟩ := length_and_hasRun_of_fit secret.fit
    refine ⟨hlength, fun hat => ?_⟩
    rw [hasRun_iff_exists_at.mpr hat] at hrun
    cases hrun

/-- A run at the very end, in which two equal bytes lead to the ascending ones, is found. -/
theorem runs_refused_sample :
    let bytes := Text.utf8 "J8Kq2mPvRx4TnZs9YwLcGf7DhBe33456"
    HasRunAt bytes 28 ∧ ofBytes? bytes = .error (.weakSecret Weakness.runs.message) := by
  intro bytes
  have hat : HasRunAt bytes 28 := ⟨by decide, by decide⟩
  have hwords := (runs_refused bytes).2.1 (.inr ⟨28, hat⟩)
  rw [if_neg (by decide), if_neg (by decide +kernel)] at hwords
  exact ⟨hat, hwords⟩

end Bearer.Secret
