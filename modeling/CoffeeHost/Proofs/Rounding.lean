import CoffeeHost.Number.Binary64
import Mathlib.Algebra.Order.Field.Power
import Mathlib.Algebra.Order.Field.Rat
import Mathlib.Algebra.Order.Group.Unbundled.Abs
import Mathlib.Data.Nat.Cast.Field
import Mathlib.Data.Rat.Cast.Order
import Mathlib.Tactic.FieldSimp
import Mathlib.Tactic.GCongr
import Mathlib.Tactic.Linarith
import Mathlib.Tactic.NormNum
import Mathlib.Tactic.Positivity
import Mathlib.Tactic.Qify
import Mathlib.Tactic.Ring
import Mathlib.Tactic.SplitIfs
/-!
# Rounding ratios

A positive ratio is rounded at one exponent: at the one for which its quotient has 53 bits, or at
the least exponent if it has fewer there. At this exponent the ratio is nearest to one multiple of
the power of two, where a tie goes to the even multiple; a multiple of 54 bits is carried over to
the next exponent. So what a ratio is rounded to is told by an exponent that it fits and a multiple
that it is nearest to.

Whole numbers below 53 bits are not changed by rounding. A sum of two finite numbers is zero or a
rounded ratio, and what comes from rounding is in the one form that finite numbers have.

## Main definitions

* `Binary64.Fits`: the exponent at which a ratio is rounded.
* `Binary64.Nearest`: the multiple of a power of two that a ratio is nearest to.
* `Binary64.value`: the value of a finite number.
* `Binary64.Canonical`: the form that finite numbers have.

## Main results

* `Binary64.ofRatio_of_nearest`: a ratio is rounded to what it is nearest to.
* `Binary64.finite_whole_iff`: the finite numbers that are whole.
* `Binary64.add_finite`: what a sum is.
* `Binary64.ofRatio_whole`, `Binary64.ofRatio_canonical`: what rounding keeps, and what it gives.
-/

namespace CoffeeHost

namespace Tie

/-- A rounded quotient is one of the two integers around the quotient. -/
theorem roundQuotient_mem (tie : Tie) (num den : Nat) :
    tie.roundQuotient num den = num / den ∨ tie.roundQuotient num den = num / den + 1 := by
  rw [roundQuotient]
  split_ifs
  · exact .inr rfl
  · exact .inl rfl

/-- A quotient is rounded to the integer that is less than one half away, or one half away and
even. -/
theorem roundQuotient_eq {num den n : Nat} (hden : 0 < den)
    (hupper : 2 * num < (2 * n + 1) * den ∨ 2 * num = (2 * n + 1) * den ∧ n % 2 = 0)
    (hlower : 2 * n * den < 2 * num + den ∨ 2 * n * den = 2 * num + den ∧ n % 2 = 0) :
    even.roundQuotient num den = n := by
  have hdiv := Nat.div_add_mod num den
  have hmod := Nat.mod_lt num hden
  rw [roundQuotient]
  generalize num / den = quotient at hdiv ⊢
  generalize num % den = remainder at hdiv hmod ⊢
  have hle : quotient ≤ n := by
    by_contra hlt
    have hmul := Nat.mul_le_mul_left den (Nat.succ_le_of_lt (Nat.lt_of_not_le hlt))
    rw [Nat.succ_eq_add_one] at hmul
    have hleft : den * (n + 1) = n * den + den := by ring
    have hright : (2 * n + 1) * den = 2 * (n * den) + den := by ring
    omega
  have hge : n ≤ quotient + 1 := by
    by_contra hlt
    have hmul := Nat.mul_le_mul_left den (Nat.succ_le_of_lt (Nat.lt_of_not_le hlt))
    rw [Nat.succ_eq_add_one] at hmul
    have hleft : den * (quotient + 1 + 1) = den * quotient + 2 * den := by ring
    have hright : 2 * n * den = 2 * (den * n) := by ring
    omega
  obtain rfl | rfl : n = quotient ∨ n = quotient + 1 := by omega
  · have hmul : (2 * n + 1) * den = 2 * (den * n) + den := by ring
    rw [if_neg]
    simp only [goesUp, beq_iff_eq]
    omega
  · have hmul : 2 * (quotient + 1) * den = 2 * (den * quotient) + 2 * den := by ring
    rw [if_pos]
    simp only [goesUp, beq_iff_eq]
    omega

end Tie

namespace Binary64

/-! ### Scaled ratios -/

theorem scaleRatio_pos (num : Nat) {den : Nat} (hden : 0 < den) (exponent : Int) :
    0 < (scaleRatio num den exponent).2 := by
  simp only [scaleRatio]
  split_ifs
  · exact hden
  · exact Nat.mul_pos hden (Nat.pow_pos (by decide))

/-- A power with an integer exponent as one with a natural exponent, or its inverse. -/
theorem zpow_eq_ite (a : ℚ) (exponent : Int) :
    a ^ exponent =
      if exponent < 0 then (a ^ exponent.natAbs)⁻¹ else a ^ exponent.natAbs := by
  split_ifs with h
  · rw [← zpow_natCast, ← zpow_neg]
    congr 1
    omega
  · rw [← zpow_natCast]
    congr 1
    omega

theorem scaleRatio_div (num den : Nat) (exponent : Int) :
    ((scaleRatio num den exponent).1 : ℚ) / (scaleRatio num den exponent).2 =
      num / den / 2 ^ exponent := by
  rw [zpow_eq_ite]
  simp only [scaleRatio]
  split_ifs
  all_goals
    simp only [Nat.pow_eq]
    push_cast
    field_simp

/-- Comparing the quotient of a scaled ratio with an integer. -/
theorem le_quotient_iff {num den bound : Nat} {exponent : Int} (hden : 0 < den) :
    bound ≤ (scaleRatio num den exponent).1 / (scaleRatio num den exponent).2 ↔
      (bound * 2 ^ exponent : ℚ) ≤ num / den := by
  have hpos := scaleRatio_pos num hden exponent
  have hpow : (0 : ℚ) < 2 ^ exponent := zpow_pos (by norm_num) _
  have hd : (0 : ℚ) < (scaleRatio num den exponent).2 := by exact_mod_cast hpos
  rw [Nat.le_div_iff_mul_le hpos, ← le_div_iff₀ hpow, ← scaleRatio_div, le_div_iff₀ hd]
  exact_mod_cast Iff.rfl

/-! ### Exponents of ratios -/

/-- What the exponent of a positive ratio is: the ratio is below 53 bits of it, and it fills them
unless the exponent is the least one. -/
structure Fits (ratio : ℚ) (exponent : Int) : Prop where
  least : leastExponent ≤ exponent
  upper : ratio < 2 ^ 53 * 2 ^ exponent
  lower : exponent = leastExponent ∨ 2 ^ 52 * 2 ^ exponent ≤ ratio

theorem Fits.unique {ratio : ℚ} {e f : Int} (he : Fits ratio e) (hf : Fits ratio f) : e = f := by
  have hle {e f : Int} (he : Fits ratio e) (hf : Fits ratio f) : e ≤ f := by
    by_contra hlt
    rcases he.lower with hleast | hlower
    · have := hf.least
      omega
    · have hpow : (2 : ℚ) ^ (f + 1) ≤ 2 ^ e := zpow_le_zpow_right₀ (by norm_num) (by omega)
      rw [zpow_add_one₀ (by norm_num)] at hpow
      have := hf.upper
      linarith
  exact le_antisymm (hle he hf) (hle hf he)

/-- A ratio by the numbers of bits of its two parts. -/
theorem ratio_between_powers {num den : Nat} (hnum : 0 < num) (hden : 0 < den) :
    2 ^ ((num.log2 : Int) - den.log2 - 1) < (num / den : ℚ) ∧
      (num / den : ℚ) < 2 ^ ((num.log2 : Int) - den.log2 + 1) := by
  have hd : (0 : ℚ) < den := by exact_mod_cast hden
  have hnum₁ : (num : ℚ) < 2 ^ (num.log2 + 1) := by exact_mod_cast Nat.lt_log2_self
  have hnum₂ : (2 : ℚ) ^ num.log2 ≤ num := by exact_mod_cast Nat.log2_self_le hnum.ne'
  have hden₁ : (den : ℚ) < 2 ^ (den.log2 + 1) := by exact_mod_cast Nat.lt_log2_self
  have hden₂ : (2 : ℚ) ^ den.log2 ≤ den := by exact_mod_cast Nat.log2_self_le hden.ne'
  have hsplit (a b : Nat) : (2 : ℚ) ^ ((a : Int) - b) = 2 ^ a / 2 ^ b := by
    rw [zpow_sub₀ (by norm_num), zpow_natCast, zpow_natCast]
  constructor
  · calc (2 : ℚ) ^ ((num.log2 : Int) - den.log2 - 1)
        = 2 ^ ((num.log2 : Int) - (den.log2 + 1 : Nat)) := by
          rw [sub_sub, Nat.cast_add_one]
      _ = 2 ^ num.log2 / 2 ^ (den.log2 + 1) := hsplit _ _
      _ ≤ num / 2 ^ (den.log2 + 1) := by gcongr
      _ < num / den := by gcongr
  · calc (num / den : ℚ)
        < 2 ^ (num.log2 + 1) / den := by gcongr
      _ ≤ 2 ^ (num.log2 + 1) / 2 ^ den.log2 := by gcongr
      _ = 2 ^ (((num.log2 + 1 : Nat) : Int) - den.log2) := (hsplit _ _).symm
      _ = 2 ^ ((num.log2 : Int) - den.log2 + 1) := by
          rw [Nat.cast_add_one, add_sub_right_comm]

theorem fits_ratioExponent {num den : Nat} (hnum : 0 < num) (hden : 0 < den) :
    Fits (num / den) (ratioExponent num den) := by
  obtain ⟨hlower, hupper⟩ := ratio_between_powers hnum hden
  have hsplit (a b : Int) : (2 : ℚ) ^ (a + b) = 2 ^ a * 2 ^ b := zpow_add₀ (by norm_num) a b
  simp only [ratioExponent]
  set estimate : Int := max ((num.log2 : Int) - den.log2 - 53) leastExponent with hestimate
  have hleast : leastExponent ≤ estimate := le_max_right _ _
  have hsmall : (scaleRatio num den estimate).1 / (scaleRatio num den estimate).2 < Nat.pow 2 53 ↔
      (num / den : ℚ) < 2 ^ 53 * 2 ^ estimate := by
    rw [← not_le, ← not_le, le_quotient_iff hden, Nat.pow_eq]
    push_cast
    rfl
  split_ifs with h
  · refine ⟨hleast, hsmall.mp h, ?_⟩
    rcases max_choice ((num.log2 : Int) - den.log2 - 53) leastExponent with hbits | hleast
    · right
      rw [← hestimate] at hbits
      have hpow : (2 : ℚ) ^ 52 * 2 ^ estimate = 2 ^ ((num.log2 : Int) - den.log2 - 1) := by
        rw [hbits, show (num.log2 : Int) - den.log2 - 1 = 52 + (num.log2 - den.log2 - 53) by ring,
          hsplit]
        rfl
      rw [hpow]
      exact hlower.le
    · exact .inl hleast
  · have hbits : (num.log2 : Int) - den.log2 - 53 ≤ estimate := le_max_left _ _
    refine ⟨by omega, hupper.trans_le ?_, .inr ?_⟩
    · have hpow : (2 : ℚ) ^ 53 * 2 ^ (estimate + 1) = 2 ^ (estimate + 54) := by
        rw [hsplit, hsplit]
        norm_num
        ring
      rw [hpow]
      exact zpow_le_zpow_right₀ (by norm_num) (by omega)
    · have hpow : (2 : ℚ) ^ 52 * 2 ^ (estimate + 1) = 2 ^ 53 * 2 ^ estimate := by
        rw [hsplit]
        norm_num
        ring
      rw [hpow]
      exact not_lt.mp fun hlt => h (hsmall.mpr hlt)

/-! ### Rounded ratios -/

/-- A number with a significand that may be one too large for its exponent. -/
def carry (negative : Bool) (significand : Nat) (exponent : Int) : Binary64 :=
  let (significand, exponent) :=
    if significand = Nat.pow 2 53 then (Nat.pow 2 52, exponent + 1) else (significand, exponent)
  if greatestExponent < exponent then .infinite negative
  else .finite negative significand exponent

theorem ofRatio_eq {tie : Tie} {negative : Bool} {num den : Nat} (hnum : 0 < num) :
    ofRatio tie negative num den = carry negative
      (tie.roundQuotient (scaleRatio num den (ratioExponent num den)).1
        (scaleRatio num den (ratioExponent num den)).2) (ratioExponent num den) := by
  rw [ofRatio, if_neg hnum.ne']
  rfl

/-- A ratio is nearest to a multiple of a power of two: it is less than one half of the power away,
or one half away and the multiple is even. -/
structure Nearest (ratio : ℚ) (significand : Nat) (exponent : Int) : Prop where
  upper : 2 * ratio < (2 * significand + 1) * 2 ^ exponent ∨
    2 * ratio = (2 * significand + 1) * 2 ^ exponent ∧ significand % 2 = 0
  lower : 2 * significand * 2 ^ exponent < 2 * ratio + 2 ^ exponent ∨
    2 * significand * 2 ^ exponent = 2 * ratio + 2 ^ exponent ∧ significand % 2 = 0

theorem roundQuotient_scaleRatio {num den significand : Nat} {exponent : Int} (hden : 0 < den)
    (h : Nearest (num / den) significand exponent) :
    Tie.even.roundQuotient (scaleRatio num den exponent).1 (scaleRatio num den exponent).2 =
      significand := by
  have hpos := scaleRatio_pos num hden exponent
  have hdiv := scaleRatio_div num den exponent
  have hpow : (0 : ℚ) < 2 ^ exponent := zpow_pos (by norm_num) _
  generalize (scaleRatio num den exponent).1 = n at hdiv ⊢
  generalize (scaleRatio num den exponent).2 = d at hpos hdiv ⊢
  have hd : (0 : ℚ) < d := by exact_mod_cast hpos
  have hratio : (num / den : ℚ) * d = n * 2 ^ exponent := by
    field_simp at hdiv ⊢
    linarith
  generalize (num / den : ℚ) = ratio at h hdiv hratio
  refine Tie.roundQuotient_eq hpos ?_ ?_
  · rcases h.upper with hlt | ⟨heq, heven⟩
    · left
      have hmul := mul_lt_mul_of_pos_right hlt hd
      have hcast : (2 * n : ℚ) < (2 * significand + 1) * d :=
        lt_of_mul_lt_mul_right (by linarith) hpow.le
      exact_mod_cast hcast
    · right
      have hmul := congrArg (· * (d : ℚ)) heq
      have hcast : (2 * n : ℚ) = (2 * significand + 1) * d :=
        mul_right_cancel₀ hpow.ne' (by linarith)
      exact ⟨by exact_mod_cast hcast, heven⟩
  · rcases h.lower with hlt | ⟨heq, heven⟩
    · left
      have hmul := mul_lt_mul_of_pos_right hlt hd
      have hcast : (2 * significand * d : ℚ) < 2 * n + d :=
        lt_of_mul_lt_mul_right (by linarith) hpow.le
      exact_mod_cast hcast
    · right
      have hmul := congrArg (· * (d : ℚ)) heq
      have hcast : (2 * significand * d : ℚ) = 2 * n + d :=
        mul_right_cancel₀ hpow.ne' (by linarith)
      exact ⟨by exact_mod_cast hcast, heven⟩

/-- A ratio is rounded to what it is nearest to. -/
theorem ofRatio_of_nearest (negative : Bool) {num den significand : Nat} {exponent : Int}
    (hnum : 0 < num) (hden : 0 < den) (hfits : Fits (num / den) exponent)
    (h : Nearest (num / den) significand exponent) :
    ofRatio .even negative num den = carry negative significand exponent := by
  obtain rfl := (fits_ratioExponent hnum hden).unique hfits
  rw [ofRatio_eq hnum, roundQuotient_scaleRatio hden h]

/-! ### Values -/

/-- The value of a finite number. -/
def value (negative : Bool) (significand : Nat) (exponent : Int) : ℚ :=
  (if negative then -1 else 1) * (significand * 2 ^ exponent)

theorem sign_mul_abs (q : ℚ) : (if decide (q < 0) then -1 else 1) * |q| = q := by
  by_cases h : q < 0
  · simp [h, abs_of_neg h]
  · simp [h, abs_of_nonneg (not_lt.mp h)]

theorem signed_eq {negative : Bool} {n : Nat} {i : Int}
    (h : (if negative then -1 else 1) * (n : ℚ) = i) : signed negative n = i := by
  rw [← Int.cast_inj (α := ℚ), ← h, signed]
  cases negative <;> simp

theorem natAbs_of_value {negative : Bool} {significand : Nat} {exponent i : Int}
    (h : value negative significand exponent = i) :
    (i.natAbs : ℚ) = significand * 2 ^ exponent := by
  have hsize : (0 : ℚ) ≤ significand * 2 ^ exponent := by positivity
  rw [Nat.cast_natAbs, Int.cast_abs, ← h, value]
  cases negative <;> simp [abs_of_nonneg hsize]

/-- The ratio of a finite number is whole if its value is an integer. -/
theorem scaleRatio_of_value {negative : Bool} {significand : Nat} {exponent i : Int}
    (h : value negative significand exponent = i) :
    (scaleRatio significand 1 (-exponent)).1 =
      i.natAbs * (scaleRatio significand 1 (-exponent)).2 := by
  have hpos := scaleRatio_pos significand Nat.one_pos (-exponent)
  have hdiv := scaleRatio_div significand 1 (-exponent)
  have hd : ((scaleRatio significand 1 (-exponent)).2 : ℚ) ≠ 0 := by exact_mod_cast hpos.ne'
  rw [zpow_neg, Nat.cast_one, div_one, div_inv_eq_mul, ← natAbs_of_value h, div_eq_iff hd] at hdiv
  exact_mod_cast hdiv

theorem significand_pos {significand n : Nat} {exponent : Int} (hn : 0 < n)
    (h : (significand * 2 ^ exponent : ℚ) = n) : 0 < significand := by
  refine Nat.pos_of_ne_zero fun hzero => ?_
  rw [hzero, Nat.cast_zero, zero_mul] at h
  have : n = 0 := by exact_mod_cast h.symm
  omega

theorem significand_pos_of_not_whole {significand : Nat} {exponent : Int}
    (h : ¬ ∃ n : Nat, (significand * 2 ^ exponent : ℚ) = n) : 0 < significand := by
  refine Nat.pos_of_ne_zero fun hzero => h ⟨0, ?_⟩
  rw [hzero, Nat.cast_zero, zero_mul]

/-- A ratio without a remainder is the number. -/
theorem eq_of_scaleRatio_mod {significand : Nat} {exponent : Int}
    (h : (scaleRatio significand 1 (-exponent)).1 % (scaleRatio significand 1 (-exponent)).2 = 0) :
    (significand * 2 ^ exponent : ℚ) =
      ((scaleRatio significand 1 (-exponent)).1 /
        (scaleRatio significand 1 (-exponent)).2 : Nat) := by
  have hpos := scaleRatio_pos significand Nat.one_pos (-exponent)
  have hd : ((scaleRatio significand 1 (-exponent)).2 : ℚ) ≠ 0 := by exact_mod_cast hpos.ne'
  rw [Nat.cast_div (Nat.dvd_of_mod_eq_zero h) hd, scaleRatio_div, zpow_neg, Nat.cast_one, div_one,
    div_inv_eq_mul]

theorem finite_whole_iff {negative : Bool} {significand : Nat} {exponent i : Int} :
    (finite negative significand exponent).isWhole = true ∧
      (finite negative significand exponent).truncate? = some i ↔
    value negative significand exponent = i := by
  have hpos := scaleRatio_pos significand Nat.one_pos (-exponent)
  rw [isWhole, truncate?, beq_iff_eq, Option.some.injEq]
  constructor
  · rintro ⟨hmod, rfl⟩
    rw [value, eq_of_scaleRatio_mod hmod, signed]
    generalize (scaleRatio significand 1 (-exponent)).1 / _ = k
    cases negative <;> simp
  · intro h
    have hratio := scaleRatio_of_value h
    have hquotient : (scaleRatio significand 1 (-exponent)).1 /
        (scaleRatio significand 1 (-exponent)).2 = i.natAbs := by
      rw [hratio, Nat.mul_div_cancel _ hpos]
    refine ⟨by rw [hratio, Nat.mul_mod_left], signed_eq ?_⟩
    rw [hquotient, natAbs_of_value h, ← h, value]

/-- The value of a number measured in a smaller power of two is an integer. -/
theorem signed_scaled (negative : Bool) (significand : Nat) {exponent least : Int}
    (h : least ≤ exponent) :
    (signed negative (significand * Nat.pow 2 (exponent - least).natAbs) : ℚ) * 2 ^ least =
      value negative significand exponent := by
  obtain ⟨k, rfl⟩ := Int.le.dest h
  have hk : (least + k - least).natAbs = k := by omega
  rw [hk, value, zpow_add₀ (by norm_num), zpow_natCast, Nat.pow_eq, signed]
  cases negative with
  | false => simp only [Bool.false_eq_true, if_false]; push_cast; ring
  | true => simp only [if_true]; push_cast; ring

/-- A sum is zero or a rounded ratio. -/
theorem add_finite (a b : Bool) (m n : Nat) (e f : Int) :
    (value a m e + value b n f = 0 ∧ (finite a m e).add (finite b n f) = zero (a && b)) ∨
      value a m e + value b n f ≠ 0 ∧ ∃ num den : Nat, 0 < num ∧ 0 < den ∧
        (num / den : ℚ) = |value a m e + value b n f| ∧
        (finite a m e).add (finite b n f) =
          ofRatio .even (decide (value a m e + value b n f < 0)) num den := by
  have hpow : (0 : ℚ) < 2 ^ min e f := zpow_pos (by norm_num) _
  rw [← signed_scaled a m (min_le_left e f), ← signed_scaled b n (min_le_right e f), ← add_mul,
    ← Int.cast_add, add]
  dsimp only
  generalize signed a _ + signed b _ = sum
  by_cases hsum : sum = 0
  · exact .inl ⟨by simp [hsum], if_pos hsum⟩
  · have hpos := scaleRatio_pos sum.natAbs Nat.one_pos (-min e f)
    have hdiv := scaleRatio_div sum.natAbs 1 (-min e f)
    have hd : (0 : ℚ) < (scaleRatio sum.natAbs 1 (-min e f)).2 := by exact_mod_cast hpos
    have hsize : ((scaleRatio sum.natAbs 1 (-min e f)).1 : ℚ) /
        (scaleRatio sum.natAbs 1 (-min e f)).2 = |(sum : ℚ) * 2 ^ min e f| := by
      rw [hdiv, zpow_neg, Nat.cast_one, div_one, div_inv_eq_mul, abs_mul, abs_of_pos hpow,
        Nat.cast_natAbs, Int.cast_abs]
    have hnonzero : (sum : ℚ) * 2 ^ min e f ≠ 0 := by simp [hsum, hpow.ne']
    refine .inr ⟨hnonzero, _, _, ?_, hpos, hsize, ?_⟩
    · have hratio : (0 : ℚ) < (scaleRatio sum.natAbs 1 (-min e f)).1 := by
        rw [← div_pos_iff_of_pos_right hd, hsize]
        exact abs_pos.mpr hnonzero
      exact_mod_cast hratio
    · have hneg : (sum : ℚ) * 2 ^ min e f < 0 ↔ sum < 0 := by
        rw [← neg_pos, ← neg_mul, mul_pos_iff_of_pos_right hpow, neg_pos, Int.cast_lt_zero]
      simp only [if_neg hsum, hneg]

/-- A ratio that is a whole number below 53 bits is not changed by rounding. -/
theorem ofRatio_whole (negative : Bool) {num den t : Nat} (hnum : 0 < num) (hden : 0 < den)
    (ht : t < 2 ^ 53) (h : (num / den : ℚ) = t) :
    ∃ significand exponent, ofRatio .even negative num den =
      finite negative significand exponent ∧ (significand * 2 ^ exponent : ℚ) = t := by
  have hfits := fits_ratioExponent hnum hden
  generalize hexponent : ratioExponent num den = exponent at hfits
  have hpos : exponent ≤ 0 := by
    by_contra hlt
    rcases hfits.lower with hleast | hlower
    · have : leastExponent < 0 := by decide
      omega
    · have hpow : (2 : ℚ) ^ (1 : Int) ≤ 2 ^ exponent := zpow_le_zpow_right₀ (by norm_num) (by omega)
      have hcast : (t : ℚ) < 2 ^ 53 := by exact_mod_cast ht
      rw [h] at hlower
      rw [zpow_one] at hpow
      linarith
  obtain ⟨k, rfl⟩ : ∃ k : Nat, exponent = -k := ⟨exponent.natAbs, by omega⟩
  have hpow : (0 : ℚ) < 2 ^ (-(k : Int)) := zpow_pos (by norm_num) _
  have hvalue : ((t * 2 ^ k : Nat) : ℚ) * 2 ^ (-(k : Int)) = t := by
    rw [zpow_neg, zpow_natCast]
    push_cast
    field_simp
  have hnearest : Nearest (num / den) (t * 2 ^ k) (-k) := by
    refine ⟨.inl ?_, .inl ?_⟩
    · rw [h]; linarith
    · rw [h]; linarith
  have hbits : t * 2 ^ k ≠ Nat.pow 2 53 := by
    intro heq
    have hupper := hfits.upper
    rw [h, ← hvalue, heq] at hupper
    norm_num at hupper
  refine ⟨t * 2 ^ k, -k, ?_, hvalue⟩
  rw [ofRatio_of_nearest negative hnum hden hfits hnearest, carry]
  have hgreatest : ¬ greatestExponent < -(k : Int) := by
    have : 0 < greatestExponent := by decide
    omega
  simp only [hbits, if_false, hgreatest]

/-! ### The form of finite numbers -/

/-- A number in the one form that finite numbers have. -/
structure Canonical (significand : Nat) (exponent : Int) : Prop where
  small : significand < 2 ^ 53
  least : leastExponent ≤ exponent
  greatest : exponent ≤ greatestExponent
  filled : exponent = leastExponent ∨ 2 ^ 52 ≤ significand

theorem zero_canonical : Canonical 0 leastExponent :=
  ⟨by decide, le_rfl, by decide, .inl rfl⟩

/-- The quotient of a ratio at its exponent has as many bits as a significand may have. -/
theorem Fits.quotient {num den : Nat} {exponent : Int} (hden : 0 < den)
    (h : Fits (num / den) exponent) :
    (scaleRatio num den exponent).1 / (scaleRatio num den exponent).2 < 2 ^ 53 ∧
      (exponent = leastExponent ∨
        2 ^ 52 ≤ (scaleRatio num den exponent).1 / (scaleRatio num den exponent).2) := by
  refine ⟨not_le.mp fun hle => ?_, h.lower.imp id fun hlower =>
    (le_quotient_iff hden).mpr (by exact_mod_cast hlower)⟩
  have hlarge := (le_quotient_iff hden).mp hle
  exact absurd h.upper (not_lt.mpr (by exact_mod_cast hlarge))

theorem ofInt_one : ofInt 1 = finite false (2 ^ 52) (-52) := by decide

theorem carry_eq (negative : Bool) (significand : Nat) (exponent : Int) :
    carry negative significand exponent =
      if significand = 2 ^ 53 then
        if greatestExponent < exponent + 1 then .infinite negative
        else .finite negative (2 ^ 52) (exponent + 1)
      else if greatestExponent < exponent then .infinite negative
      else .finite negative significand exponent := by
  have hbits : Nat.pow 2 53 = 2 ^ 53 := rfl
  have hhalf : Nat.pow 2 52 = 2 ^ 52 := rfl
  rw [carry, hbits, hhalf]
  by_cases h : significand = 2 ^ 53
  · simp only [h, if_true]
  · simp only [h, if_false]

/-- A rounded ratio is in the form that finite numbers have. -/
theorem ofRatio_canonical {tie : Tie} {negative sign : Bool} {num den significand : Nat}
    {exponent : Int} (hnum : 0 < num) (hden : 0 < den)
    (h : ofRatio tie negative num den = finite sign significand exponent) :
    Canonical significand exponent := by
  have hfits := fits_ratioExponent hnum hden
  obtain ⟨hsmall, hfilled⟩ := hfits.quotient hden
  have hmem := Tie.roundQuotient_mem tie (scaleRatio num den (ratioExponent num den)).1
    (scaleRatio num den (ratioExponent num den)).2
  rw [ofRatio_eq hnum] at h
  generalize tie.roundQuotient _ _ = rounded at h hmem
  generalize (scaleRatio num den (ratioExponent num den)).1 / _ = quotient at hsmall hfilled hmem
  generalize ratioExponent num den = least at h hfits hfilled
  have hleast := hfits.least
  rw [carry_eq] at h
  by_cases hcarry : rounded = 2 ^ 53
  · rw [if_pos hcarry] at h
    split_ifs at h with hgreatest
    obtain ⟨-, rfl, rfl⟩ := finite.inj h
    exact ⟨by decide, by omega, by omega, .inr le_rfl⟩
  · rw [if_neg hcarry] at h
    split_ifs at h with hgreatest
    obtain ⟨-, rfl, rfl⟩ := finite.inj h
    exact ⟨by omega, hleast, by omega, hfilled.imp id fun hbits => by omega⟩

/-- What is added to one is in the form that finite numbers have. -/
theorem add_one_canonical {x : Binary64} {negative : Bool} {significand : Nat} {exponent : Int}
    (h : x.add (.ofInt 1) = finite negative significand exponent) :
    Canonical significand exponent := by
  cases x with
  | nan => exact nomatch h
  | infinite sign => exact nomatch h
  | finite a m e =>
    rw [ofInt_one] at h
    rcases add_finite a false m (2 ^ 52) e (-52) with
      ⟨-, hadd⟩ | ⟨-, num, den, hnum, hden, -, hadd⟩
    · obtain ⟨-, rfl, rfl⟩ := finite.inj (hadd.symm.trans h)
      exact zero_canonical
    · exact ofRatio_canonical hnum hden (hadd.symm.trans h)

end Binary64

end CoffeeHost
