import Bearer.Secret.Entropy
import Mathlib.Analysis.SpecialFunctions.Log.Base

/-!
# The binary places of a logarithm

The places that are read off by squaring are those of the logarithm: as a fraction they never
exceed it, and they stay behind it by one in the last place at the most, and by what the powers lose
when they are cut. Such a loss does not grow from square to square, since each square counts for
half as much in the logarithm as the one before it.

So the logarithm of a share is the true one, known to more than twice the places of a double, before
it is rounded.

## Main statements

* `logOf_step`: how the logarithm of a power follows from that of its square;
* `log2Places_bounds`: the places against the logarithm;
* `lessLog2_eq`: the fraction that is rounded to the logarithm of a share.
-/

namespace Bearer.Secret

variable {power : Nat}

/-- The logarithm of a power, of which the binary places that are kept stand in one number. -/
noncomputable def logOf (power : Nat) : ℝ := Real.logb 2 (power / 2 ^ powerPlaces)

/-- The logarithm of a power from one on is not negative. -/
theorem logOf_nonneg (hlow : 2 ^ powerPlaces ≤ power) : 0 ≤ logOf power := by
  refine Real.logb_nonneg one_lt_two ?_
  rw [one_le_div (by positivity)]
  exact_mod_cast hlow

/-- The logarithm of a power below two is below one. -/
theorem logOf_lt_one (hlow : 2 ^ powerPlaces ≤ power) (hhigh : power < 2 * 2 ^ powerPlaces) :
    logOf power < 1 := by
  have hpos : 0 < power := (Nat.two_pow_pos powerPlaces).trans_le hlow
  have hreal : (power : ℝ) < 2 * 2 ^ powerPlaces := by exact_mod_cast hhigh
  rw [logOf, Real.logb_lt_iff_lt_rpow one_lt_two (by positivity), Real.rpow_one]
  rwa [div_lt_iff₀ (by positivity)]

/-- From one on, the logarithm to the base two grows at most twice as fast as its argument. -/
theorem logb_le_logb_add {x y gap : ℝ} (hx : 1 ≤ x) (hy : 0 < y) (hgap : 0 ≤ gap)
    (h : y ≤ x + gap) : Real.logb 2 y ≤ Real.logb 2 x + 2 * gap := by
  have hpos : 0 < x := one_pos.trans_le hx
  have hhalf : (1 : ℝ) / 2 ≤ Real.log 2 := by
    linarith [Real.one_sub_inv_le_log_of_pos (x := 2) two_pos]
  have hlog : Real.log (y / x) ≤ gap := by
    calc Real.log (y / x)
      _ ≤ y / x - 1 := Real.log_le_sub_one_of_pos (div_pos hy hpos)
      _ = (y - x) / x := by rw [sub_div, div_self hpos.ne']
      _ ≤ gap / x := by gcongr; linarith
      _ ≤ gap := div_le_self hgap hx
  have hratio : Real.logb 2 y - Real.logb 2 x ≤ 2 * gap := by
    rw [← Real.logb_div hy.ne' hpos.ne', Real.logb, div_le_iff₀ (by linarith)]
    nlinarith
  linarith

/-- The square of a power, divided by a factor and cut, has the logarithm of the square without
that of the factor, or a little less. -/
theorem logOf_step {factor : Nat} (hpower : 0 < power) (hfactor : 0 < factor)
    (hlow : 2 ^ powerPlaces ≤ power * power / (2 ^ powerPlaces * factor)) :
    Real.logb 2 factor + logOf (power * power / (2 ^ powerPlaces * factor)) ≤ 2 * logOf power ∧
      2 * logOf power ≤ Real.logb 2 factor +
        logOf (power * power / (2 ^ powerPlaces * factor)) + 2 / 2 ^ powerPlaces := by
  set next := power * power / (2 ^ powerPlaces * factor)
  have hone : (0 : ℝ) < 2 ^ powerPlaces := by positivity
  have hfactor' : (0 : ℝ) < factor := by exact_mod_cast hfactor
  have hpower' : (0 : ℝ) < power := by exact_mod_cast hpower
  have hnext : (1 : ℝ) ≤ next / 2 ^ powerPlaces := by
    rw [one_le_div hone]
    exact_mod_cast hlow
  -- the quotient before it is cut, between the one after it and one more
  have hle : (next : ℝ) * (2 ^ powerPlaces * factor) ≤ power * power := by
    exact_mod_cast Nat.div_mul_le_self (power * power) (2 ^ powerPlaces * factor)
  have hlt : (power : ℝ) * power < 2 ^ powerPlaces * factor * (next + 1) := by
    exact_mod_cast Nat.lt_mul_div_succ (power * power) (by positivity)
  set uncut := (power / 2 ^ powerPlaces : ℝ) ^ 2 / factor with huncut
  have hlogb : Real.logb 2 uncut = 2 * logOf power - Real.logb 2 factor := by
    rw [huncut, Real.logb_div (by positivity) hfactor'.ne', Real.logb_pow, logOf, Nat.cast_two]
  have hbelow : next / 2 ^ powerPlaces ≤ uncut := by
    rw [huncut, div_pow, div_div, div_le_div_iff₀ hone (by positivity)]
    nlinarith
  have habove : uncut ≤ next / 2 ^ powerPlaces + 1 / 2 ^ powerPlaces := by
    rw [huncut, div_pow, div_div, ← add_div, div_le_div_iff₀ (by positivity) hone]
    nlinarith
  have hlower := Real.logb_le_logb_of_le one_lt_two (one_pos.trans_le hnext) hbelow
  have hupper := logb_le_logb_add hnext (by positivity) (by positivity) habove
  rw [hlogb] at hlower hupper
  rw [logOf]
  constructor
  · linarith
  · linarith [mul_one_div (2 : ℝ) (2 ^ powerPlaces)]

/-- As long as the square stays below two, the next place is zero. -/
theorem log2Places_of_lt (places : Nat)
    (h : power * power / 2 ^ powerPlaces < 2 * 2 ^ powerPlaces) :
    log2Places (places + 1) power = log2Places places (power * power / 2 ^ powerPlaces) := by
  rw [log2Places, Nat.shiftRight_eq_div_pow, Nat.shiftLeft_eq, if_pos h]

/-- Once the square reaches two, the next place is one, and the square is halved. -/
theorem log2Places_of_le (places : Nat)
    (h : 2 * 2 ^ powerPlaces ≤ power * power / 2 ^ powerPlaces) :
    log2Places (places + 1) power =
      2 ^ places + log2Places places (power * power / (2 ^ powerPlaces * 2)) := by
  rw [log2Places, Nat.shiftRight_eq_div_pow, Nat.shiftLeft_eq, if_neg h.not_gt, Nat.shiftLeft_eq,
    one_mul, Nat.shiftRight_eq_div_pow, pow_one, Nat.div_div_eq_div_mul]

/-- The places of the logarithm of a power from one to two, read as a fraction, do not exceed it,
and are less than one in the last place behind it, but for what the cut powers lose. -/
theorem log2Places_bounds (places : Nat) (hlow : 2 ^ powerPlaces ≤ power)
    (hhigh : power < 2 * 2 ^ powerPlaces) :
    (log2Places places power : ℝ) / 2 ^ places ≤ logOf power ∧
      logOf power < (log2Places places power + 1) / 2 ^ places + 2 / 2 ^ powerPlaces := by
  induction places generalizing power with
  | zero =>
    have hlt := logOf_lt_one hlow hhigh
    have hloss : (0 : ℝ) < 2 / 2 ^ powerPlaces := by positivity
    rw [log2Places, Nat.cast_zero, zero_div, pow_zero, zero_add, div_one]
    exact ⟨logOf_nonneg hlow, by linarith⟩
  | succ places ih =>
    have hone := Nat.two_pow_pos powerPlaces
    have hpower : 0 < power := hone.trans_le hlow
    -- the place that comes first counts one half, and those of the next power half as much
    by_cases h : power * power / 2 ^ powerPlaces < 2 * 2 ^ powerPlaces
    · have hlow' : 2 ^ powerPlaces ≤ power * power / 2 ^ powerPlaces := by
        rw [Nat.le_div_iff_mul_le hone]
        exact Nat.mul_le_mul hlow hlow
      obtain ⟨hstep, hstep'⟩ := logOf_step hpower one_pos (by rwa [mul_one])
      rw [mul_one, Nat.cast_one, Real.logb_one] at hstep hstep'
      obtain ⟨hrest, hrest'⟩ := ih hlow' h
      rw [log2Places_of_lt places h, pow_succ, ← div_div, ← div_div]
      constructor <;> linarith
    · rw [not_lt] at h
      have hlow' : 2 ^ powerPlaces ≤ power * power / (2 ^ powerPlaces * 2) := by
        rwa [← Nat.div_div_eq_div_mul, Nat.le_div_iff_mul_le two_pos, mul_comm]
      have hhigh' : power * power / (2 ^ powerPlaces * 2) < 2 * 2 ^ powerPlaces := by
        rw [Nat.div_lt_iff_lt_mul (by positivity)]
        nlinarith
      obtain ⟨hstep, hstep'⟩ := logOf_step hpower two_pos hlow'
      rw [Nat.cast_two, Real.logb_self_eq_one one_lt_two] at hstep hstep'
      obtain ⟨hrest, hrest'⟩ := ih hlow' hhigh'
      have hsplit (rest : ℝ) : (2 ^ places + rest) / 2 ^ places = 1 + rest / 2 ^ places := by
        rw [add_div, div_self (by positivity)]
      rw [log2Places_of_le places h, pow_succ, ← div_div, ← div_div, Nat.cast_add, Nat.cast_pow,
        Nat.cast_two, add_assoc, hsplit, hsplit]
      constructor <;> linarith

/-- The significand that the bits of a double hold, its leading one put back. -/
def significand (bits : Nat) : Nat := 2 ^ significandPlaces + bits % 2 ^ significandPlaces

theorem significand_pos (bits : Nat) : 0 < significand bits :=
  Nat.add_pos_left (Nat.two_pow_pos significandPlaces) _

/-- How often the significand of a double below two is halved. -/
def halvings (bits : Nat) : Nat := 1023 - bits / 2 ^ significandPlaces

/-- The number that the bits of a double below two stand for, unless it is so small that there is
no leading one. -/
noncomputable def ofBits (bits : Nat) : ℝ :=
  significand bits / 2 ^ significandPlaces / 2 ^ halvings bits

/-- The significand as a power that is kept with more places. -/
def startPower (bits : Nat) : Nat := significand bits * 2 ^ (powerPlaces - significandPlaces)

/-- The places of a power are those of a significand and some more. -/
theorem two_pow_powerPlaces :
    2 ^ powerPlaces = 2 ^ significandPlaces * 2 ^ (powerPlaces - significandPlaces) := by
  rw [← Nat.pow_add]
  rfl

/-- A significand is a power from one to two. -/
theorem startPower_range (bits : Nat) :
    2 ^ powerPlaces ≤ startPower bits ∧ startPower bits < 2 * 2 ^ powerPlaces := by
  have hrest : bits % 2 ^ significandPlaces < 2 ^ significandPlaces :=
    Nat.mod_lt bits (Nat.two_pow_pos significandPlaces)
  rw [two_pow_powerPlaces, ← mul_assoc]
  constructor
  · exact Nat.mul_le_mul_right _ (Nat.le_add_right _ _)
  · refine Nat.mul_lt_mul_of_pos_right ?_ (Nat.two_pow_pos _)
    rw [significand, two_mul]
    exact Nat.add_lt_add_left hrest _

/-- The logarithm of the number is that of its significand, less one for each halving. -/
theorem logb_ofBits (bits : Nat) :
    Real.logb 2 (ofBits bits) = logOf (startPower bits) - halvings bits := by
  have hsplit : (2 : ℝ) ^ powerPlaces =
      2 ^ significandPlaces * 2 ^ (powerPlaces - significandPlaces) := by
    exact_mod_cast two_pow_powerPlaces
  have hpos : (0 : ℝ) < significand bits := by exact_mod_cast significand_pos bits
  rw [ofBits, Real.logb_div (by positivity) (by positivity), Real.logb_pow,
    Real.logb_self_eq_one one_lt_two, mul_one, logOf, startPower, hsplit, Nat.cast_mul,
    Nat.cast_pow, Nat.cast_two, mul_div_mul_right _ _ (by positivity)]

/-- What is rounded to the logarithm of a number up to one: a fraction of so many binary places that
is not below it, and above it by less than one in the last place, but for what the cut powers
lose. -/
theorem lessLog2_eq (x : Float) (h : ofBits x.toBits.toNat ≤ 1) :
    ∃ n : Nat, lessLog2 x = Float.ofNat n / Float.ofNat (1 <<< logPlaces) ∧
      -Real.logb 2 (ofBits x.toBits.toNat) ≤ n / 2 ^ logPlaces ∧
      (n : ℝ) / 2 ^ logPlaces < -Real.logb 2 (ofBits x.toBits.toNat) +
        1 / 2 ^ logPlaces + 2 / 2 ^ powerPlaces := by
  set bits := x.toBits.toNat with hbits
  have hpos : 0 < ofBits bits := by
    have hsignificand := significand_pos bits
    rw [ofBits]
    positivity
  have hlog : Real.logb 2 (ofBits bits) ≤ 0 := Real.logb_nonpos one_lt_two hpos.le h
  rw [logb_ofBits] at hlog ⊢
  obtain ⟨hlow, hhigh⟩ := startPower_range bits
  obtain ⟨hbelow, habove⟩ := log2Places_bounds logPlaces hlow hhigh
  -- the places are no more than they are taken from, since the number is at most one
  have hle : log2Places logPlaces (startPower bits) ≤ halvings bits * 2 ^ logPlaces := by
    have hfraction : (log2Places logPlaces (startPower bits) : ℝ) / 2 ^ logPlaces ≤
        halvings bits := by
      linarith
    rw [div_le_iff₀ (by positivity)] at hfraction
    exact_mod_cast hfraction
  refine ⟨halvings bits * 2 ^ logPlaces - log2Places logPlaces (startPower bits), ?_, ?_⟩
  · simp only [lessLog2, ← hbits, Nat.shiftRight_eq_div_pow, Nat.shiftLeft_eq, one_mul, halvings,
      startPower, significand]
  · rw [Nat.cast_sub hle, Nat.cast_mul, Nat.cast_pow, Nat.cast_two, sub_div,
      mul_div_cancel_right₀ _ (by positivity)]
    rw [add_div] at habove
    constructor <;> linarith

end Bearer.Secret
