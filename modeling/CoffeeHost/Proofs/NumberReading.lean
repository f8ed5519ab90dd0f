import CoffeeHost.Proofs.NumberTexts
import CoffeeHost.Proofs.ShortestDecimal
import CoffeeHost.Validation.Scalar
/-!
# Reading number texts back

A script writes a whole number of at most 53 bits with all its digits, and any other number with
its shortest decimal. What is read from such a text is an integer if it has neither a point nor an
exponent, and that is so for the whole numbers of at most 21 digits. Any other text is read as a
number again. It is the number that was written, but for a few small powers of two, and so it
stands for an integer only if it is whole and has at most 64 bits; but whole numbers of so few bits
have no more than 21 digits.

Hence a number that a script has written is read as an integer exactly if it is a whole number of
at most 21 digits. Below 53 bits it is the same integer.

## Main results

* `Binary64.reread_of_value`: whole numbers of at most 53 bits are read back as they are.
* `Binary64.add_one_reread`: the same after one was added.
* `Binary64.reread_of_shortest`: what is read back from a shortest decimal.
* `Binary64.integer_reread_iff`: which numbers are read back as integers.
-/

namespace CoffeeHost

/-- A positive decimal is written as an integer if it is a whole number of at most 21 digits. -/
theorem Decimal.length_le_iff {d : Decimal} (hpos : d.coefficient ≠ 0) (hwhole : 0 ≤ d.exponent) :
    d.exponent + (Nat.toDigits 10 d.coefficient).length ≤ 21 ↔ d.value < 10 ^ 21 := by
  have hlength : 0 < (Nat.toDigits 10 d.coefficient).length := Nat.length_toDigits_pos
  obtain ⟨n, hn⟩ := Int.eq_ofNat_of_zero_le hwhole
  rw [value_of_nonneg hwhole, hn, Int.natAbs_natCast]
  by_cases hfew : n < 21
  · have hdigits : (Nat.toDigits 10 d.coefficient).length ≤ 21 - n ↔
        d.coefficient < 10 ^ (21 - n) := Nat.length_toDigits_le_iff (by decide) (by omega)
    have hpow : (10 : Nat) ^ 21 = 10 ^ (21 - n) * 10 ^ n := by
      rw [← pow_add, Nat.sub_add_cancel hfew.le]
    have hvalue : d.coefficient < 10 ^ (21 - n) ↔ d.coefficient * 10 ^ n < 10 ^ 21 := by
      rw [hpow, Nat.mul_lt_mul_right (by positivity)]
    have hsum : (n : Int) + (Nat.toDigits 10 d.coefficient).length ≤ 21 ↔
        (Nat.toDigits 10 d.coefficient).length ≤ 21 - n := by omega
    rw [hsum, hdigits, hvalue]
    exact_mod_cast Iff.rfl
  · refine iff_of_false (by omega) (not_lt.mpr ?_)
    have hle : 10 ^ 21 ≤ d.coefficient * 10 ^ n :=
      (Nat.pow_le_pow_right (by decide) (not_lt.mp hfew)).trans
        (Nat.le_mul_of_pos_left _ (Nat.pos_of_ne_zero hpos))
    exact_mod_cast hle

namespace Binary64

variable {negative : Bool} {significand : Nat} {exponent : Int}

/-! ### Whole numbers of at most 53 bits -/

/-- A number has the sign that is written, and zero has none. -/
theorem signed_of_value {i : Int} (h : value negative significand exponent = i) :
    signed (negative && significand ≠ 0) i.natAbs = i := by
  by_cases hzero : significand = 0
  · have hi : i.natAbs = 0 := by simpa [hzero] using natAbs_of_value h
    simp only [hi, signed]
    split_ifs <;> omega
  · refine signed_eq ?_
    rw [natAbs_of_value h, ← h, value]
    simp [hzero]

/-- A whole number of at most 53 bits is read back as the integer that it is. -/
theorem reread_of_value {i : Int} (h : value negative significand exponent = i)
    (hsize : i.natAbs < 2 ^ 53) : (finite negative significand exponent).reread = .integer i := by
  have hpos := scaleRatio_pos significand Nat.one_pos (-exponent)
  have hratio := scaleRatio_of_value h
  rw [reread, Layout.numberText]
  dsimp only
  rw [hratio, Nat.mul_div_cancel _ hpos, Nat.mul_mod_left, if_pos ⟨rfl, hsize⟩,
    Json.NumberText.value, Json.digitsValue_toDigits, signed_of_value h]

theorem reread_zero (negative : Bool) : (zero negative).reread = .integer 0 := by
  refine reread_of_value ?_ (by decide)
  rw [value, Nat.cast_zero, zero_mul, mul_zero, Int.cast_zero]

/-- One more than a whole number of at most 53 bits is read back as the integer that it is. -/
theorem add_one_reread {x : Binary64} {k : Int} (hwhole : x.isWhole = true)
    (hvalue : x.truncate? = some k) (hsize : (k + 1).natAbs < 2 ^ 53) :
    ∃ negative significand exponent, x.add (.ofInt 1) = finite negative significand exponent ∧
      (finite negative significand exponent).reread = .integer (k + 1) := by
  cases x with
  | nan => exact nomatch hwhole
  | infinite negative => exact nomatch hwhole
  | finite a m e =>
    have hx := finite_whole_iff.mp ⟨hwhole, hvalue⟩
    have hone : value false (2 ^ 52) (-52) = 1 := by norm_num [value]
    have hsum : value a m e + value false (2 ^ 52) (-52) = ((k + 1 : Int) : ℚ) := by
      rw [hx, hone]
      push_cast
      rfl
    rw [ofInt_one]
    rcases add_finite a false m (2 ^ 52) e (-52) with
      ⟨hzero, hadd⟩ | ⟨-, num, den, hnum, hden, hratio, hadd⟩
    · rw [hsum] at hzero
      refine ⟨_, _, _, hadd, reread_of_value ?_ hsize⟩
      rw [hzero]
      simp [value]
    · rw [hsum] at hratio
      have hcast : (num / den : ℚ) = (k + 1).natAbs := by
        rw [hratio, Nat.cast_natAbs, Int.cast_abs]
      obtain ⟨significand, exponent, hround, hscaled⟩ := ofRatio_whole
        (decide (value a m e + value false (2 ^ 52) (-52) < 0)) hnum hden hsize hcast
      refine ⟨_, significand, exponent, hadd.trans hround, reread_of_value ?_ hsize⟩
      rw [hsum, value, hscaled, ← hcast, hratio, sign_mul_abs]

/-! ### Numbers that stand for integers -/

theorem natAbs_signed (negative : Bool) (n : Nat) : (signed negative n).natAbs = n := by
  rw [signed]
  cases negative <;> simp

theorem value_signed (negative : Bool) {n : Nat} (h : (significand * 2 ^ exponent : ℚ) = n) :
    value negative significand exponent = signed negative n := by
  rw [value, h, signed]
  cases negative <;> simp

/-- A number stands for an integer if it is whole and has at most 64 bits. -/
theorem integerOfNumber_finite_iff {i : Int} :
    Validation.integerOfNumber (finite negative significand exponent) = .ok i ↔
      value negative significand exponent = i ∧
        -Validation.integerBound < i ∧ i < Validation.integerBound := by
  rw [Validation.integerOfNumber, ← finite_whole_iff]
  cases htruncate : (finite negative significand exponent).truncate? with
  | none => exact nomatch htruncate
  | some k =>
    cases hwhole : (finite negative significand exponent).isWhole with
    | false => simp
    | true =>
      simp only [Bool.not_true, Bool.false_eq_true, if_false, true_and, Option.some.injEq]
      split_ifs with hbound
      · simp only [Except.ok.injEq]
        exact ⟨by rintro rfl; exact ⟨rfl, hbound⟩, And.left⟩
      · simp only [false_iff, not_and]
        rintro rfl
        exact fun hlower hupper => hbound ⟨hlower, hupper⟩

theorem integerOfNumber_ne_ok_of_not_whole {i : Int}
    (h : ¬ ∃ n : Nat, (significand * 2 ^ exponent : ℚ) = n) :
    Validation.integerOfNumber (finite negative significand exponent) ≠ .ok i := by
  rw [Ne, integerOfNumber_finite_iff]
  rintro ⟨hvalue, -⟩
  exact h ⟨_, (natAbs_of_value hvalue).symm⟩

theorem integerOfNumber_ne_ok_of_large {n : Nat} {i : Int}
    (h : (significand * 2 ^ exponent : ℚ) = n) (hlarge : 10 ^ 21 ≤ n) :
    Validation.integerOfNumber (finite negative significand exponent) ≠ .ok i := by
  rw [Ne, integerOfNumber_finite_iff]
  rintro ⟨hvalue, hlower, hupper⟩
  have hsize : n = i.natAbs := by exact_mod_cast h.symm.trans (natAbs_of_value hvalue).symm
  have hbound : Validation.integerBound < 10 ^ 21 := by decide
  omega

/-! ### Shortest decimals -/

/-- What is read back from a number that is written with its shortest decimal: an integer, if the
decimal is a whole number of at most 21 digits. -/
theorem reread_of_shortest (negative : Bool) (hcanonical : Canonical significand exponent)
    (hlarge : ∀ n : Nat, (significand * 2 ^ exponent : ℚ) = n → 2 ^ 53 ≤ n) :
    (finite negative significand exponent).reread =
      let d := Decimal.shortest Layout.plain.selection significand exponent
      if 0 ≤ d.exponent ∧ d.value < 10 ^ 21 then
        .integer (signed negative (d.coefficient * 10 ^ d.exponent.natAbs))
      else .number (.ofDecimal .even negative d.coefficient d.exponent) := by
  have hne : significand ≠ 0 := by
    rintro rfl
    exact absurd (hlarge 0 (by simp)) (by decide)
  have hsign : (negative && decide (significand ≠ 0)) = negative := by simp [hne]
  have hnot : ¬ ((scaleRatio significand 1 (-exponent)).1 %
      (scaleRatio significand 1 (-exponent)).2 = 0 ∧ (scaleRatio significand 1 (-exponent)).1 /
        (scaleRatio significand 1 (-exponent)).2 < Nat.pow 2 53) := by
    rintro ⟨hmod, hlt⟩
    exact absurd hlt (not_lt.mpr (hlarge _ (eq_of_scaleRatio_mod hmod)))
  obtain ⟨hcoefficient, -⟩ := Decimal.shortest_around Layout.plain.selection hcanonical
    (Nat.pos_of_ne_zero hne)
  rw [reread, Layout.numberText]
  dsimp only
  rw [if_neg hnot, hsign, Layout.value_decimalText]
  refine if_congr (and_congr_right fun hwhole => ?_) rfl rfl
  exact Decimal.length_le_iff hcoefficient hwhole

section Large

variable (hcanonical : Canonical significand exponent) {n : Nat}
  (h : (significand * 2 ^ exponent : ℚ) = n) (hlarge : 2 ^ 53 ≤ n)

include hcanonical h hlarge

/-- A whole number of more than 53 bits has a unit above one. -/
theorem exponent_pos_of_large : 0 < exponent := by
  by_contra hle
  have hcast : (2 ^ 53 : ℚ) ≤ n := by exact_mod_cast hlarge
  have hsmall : (significand : ℚ) < 2 ^ 53 := by exact_mod_cast hcanonical.small
  have hunit : (2 : ℚ) ^ exponent ≤ 2 ^ (0 : Int) :=
    zpow_le_zpow_right₀ (by norm_num) (not_lt.mp hle)
  rw [zpow_zero] at hunit
  have := mul_le_mul_of_nonneg_left hunit (Nat.cast_nonneg (α := ℚ) significand)
  linarith

/-- If such a number has at most 21 digits, then so has the next one: the bound is a multiple of the
unit, too. -/
theorem add_unit_le (hlt : n < 10 ^ 21) : (n + 2 ^ exponent : ℚ) ≤ 10 ^ 21 := by
  have hexponent := exponent_pos_of_large hcanonical h hlarge
  obtain ⟨k, rfl⟩ := Int.eq_ofNat_of_zero_le hexponent.le
  rw [zpow_natCast] at h ⊢
  have hn : significand * 2 ^ k = n := by exact_mod_cast h
  have hfilled : 2 ^ 52 ≤ significand := by
    have hleast : leastExponent < 0 := by decide
    exact hcanonical.filled.resolve_left (by omega)
  have hfew : k < 18 := by
    by_contra hle
    have hbits : 2 ^ 18 ≤ 2 ^ k := Nat.pow_le_pow_right (by decide) (not_lt.mp hle)
    have hproduct := Nat.mul_le_mul hfilled hbits
    omega
  have hbound : 10 ^ 21 = 5 ^ 21 * 2 ^ (21 - k) * 2 ^ k := by
    rw [mul_assoc, ← pow_add, Nat.sub_add_cancel (by omega)]
    norm_num
  have hnext : significand + 1 ≤ 5 ^ 21 * 2 ^ (21 - k) := by
    rw [← hn, hbound] at hlt
    exact Nat.lt_of_mul_lt_mul_right hlt
  have hmul := Nat.mul_le_mul_right (2 ^ k) hnext
  rw [← hbound, Nat.add_mul, Nat.one_mul, hn] at hmul
  exact_mod_cast hmul

/-- The shortest decimal of such a number has at most 21 digits exactly if the number has. -/
theorem value_shortest_lt_iff (selection : Selection) :
    (Decimal.shortest selection significand exponent).value < 10 ^ 21 ↔ n < 10 ^ 21 := by
  have hpos := significand_pos (by omega) h
  constructor
  · contrapose!
    intro hle
    obtain ⟨-, -, hpoint⟩ := Decimal.Neighbourhood.pointPosition_spec
      (Decimal.Neighbourhood.number_pos selection.evenGaps exponent hpos)
    have hle : (10 ^ 21 : ℚ) ≤ n := by exact_mod_cast hle
    rw [Decimal.Neighbourhood.number_of, h] at hpoint
    have hlt := hle.trans_lt (hpoint (by linarith))
    rw [← zpow_natCast, zpow_lt_zpow_iff_right₀ (by norm_num)] at hlt
    refine le_trans ?_ (Decimal.le_value_shortest selection hcanonical hpos)
    rw [← zpow_natCast]
    exact zpow_le_zpow_right₀ (by norm_num) (by omega)
  · intro hlt
    have hnext := add_unit_le hcanonical h hlarge hlt
    have hpow : (0 : ℚ) < 2 ^ exponent := zpow_pos (by norm_num) _
    obtain ⟨-, hupper⟩ := Decimal.near_shortest selection hcanonical hpos
    rw [h] at hupper
    linarith

/-- Such a number is read back as an integer exactly if it has at most 21 digits. -/
theorem integer_reread_of_large (negative : Bool) :
    (∃ i, Validation.integer (finite negative significand exponent).reread = .ok i) ↔
      n < 10 ^ 21 := by
  have hunique (m : Nat) (hm : (significand * 2 ^ exponent : ℚ) = m) : 2 ^ 53 ≤ m := by
    obtain rfl : n = m := by exact_mod_cast h.symm.trans hm
    exact hlarge
  have hexponent := Decimal.exponent_shortest_of_whole Layout.plain.selection hcanonical
    (by omega) h
  have hbound := value_shortest_lt_iff hcanonical h hlarge Layout.plain.selection
  rw [reread_of_shortest negative hcanonical hunique]
  dsimp only
  by_cases hlt : n < 10 ^ 21
  · rw [if_pos ⟨hexponent, hbound.mpr hlt⟩]
    exact iff_of_true ⟨_, rfl⟩ hlt
  · have hunit := exponent_pos_of_large hcanonical h hlarge
    have hgaps : Layout.plain.selection.evenGaps < 0 := by decide
    rw [if_neg fun hfew => hlt (hbound.mp hfew.2), Decimal.ofDecimal_shortest _ hcanonical negative
      (significand_pos (by omega) h) fun _ => .inr (by omega)]
    exact iff_of_false (fun ⟨_, hi⟩ => integerOfNumber_ne_ok_of_large h (not_lt.mp hlt) hi) hlt

end Large

/-- A small ratio is rounded to a number between zero and one. -/
theorem ofRatio_small (negative : Bool) {num den : Nat} (hnum : 0 < num) (hden : 0 < den)
    (hlower : (2 ^ 52 * 2 ^ leastExponent : ℚ) ≤ num / den) (hupper : (num / den : ℚ) < 1 / 4) :
    ∃ significand exponent, ofRatio .even negative num den =
        finite negative significand exponent ∧
      (0 : ℚ) < significand * 2 ^ exponent ∧ (significand * 2 ^ exponent : ℚ) < 1 := by
  have hfits := fits_ratioExponent hnum hden
  generalize hexponent : ratioExponent num den = exponent at hfits
  have hpow : (0 : ℚ) < 2 ^ exponent := zpow_pos (by norm_num) _
  have hfilled : (2 ^ 52 * 2 ^ exponent : ℚ) ≤ num / den := by
    rcases hfits.lower with rfl | hfilled
    · exact hlower
    · exact hfilled
  have hsmall : exponent < -54 := by
    by_contra hle
    have hle : (2 : ℚ) ^ (-54 : Int) ≤ 2 ^ exponent :=
      zpow_le_zpow_right₀ (by norm_num) (not_lt.mp hle)
    norm_num at hle
    linarith
  have hunit : (2 : ℚ) ^ exponent < 2 ^ (-54 : Int) := zpow_lt_zpow_right₀ (by norm_num) hsmall
  have hgreatest : (-54 : Int) < greatestExponent := by decide
  obtain ⟨hquotient, -⟩ := hfits.quotient hden
  have hquotient' : 2 ^ 52 ≤ (scaleRatio num den exponent).1 / (scaleRatio num den exponent).2 :=
    (le_quotient_iff hden).mpr (by exact_mod_cast hfilled)
  have hmem := Tie.roundQuotient_mem .even (scaleRatio num den exponent).1
    (scaleRatio num den exponent).2
  norm_num at hunit
  rw [ofRatio_eq hnum, hexponent, carry_eq]
  generalize Tie.even.roundQuotient _ _ = rounded at hmem
  generalize (scaleRatio num den exponent).1 / _ = quotient at hquotient hquotient' hmem
  by_cases hcarry : rounded = 2 ^ 53
  · rw [if_pos hcarry, if_neg (by omega)]
    refine ⟨_, _, rfl, by positivity, ?_⟩
    rw [zpow_add_one₀ (by norm_num)]
    push_cast
    linarith
  · rw [if_neg hcarry, if_neg (by omega)]
    have hpos : 0 < rounded := by omega
    have hbits : (rounded : ℚ) < 2 ^ 53 := by exact_mod_cast (by omega : rounded < 2 ^ 53)
    refine ⟨_, _, rfl, by positivity, ?_⟩
    have := mul_lt_mul_of_pos_right hbits hpow
    linarith

/-- A small power of two whose smaller gap is not respected is not read back as it is, but what is
read does not become whole. -/
theorem integerOfNumber_shortest_of_power (selection : Selection) (negative : Bool) {i : Int}
    (hcanonical : Canonical (2 ^ 52) exponent) (hleast : exponent ≠ leastExponent)
    (hsmall : exponent < -60) : Validation.integerOfNumber (ofDecimal .even negative
      (Decimal.shortest selection (2 ^ 52) exponent).coefficient
      (Decimal.shortest selection (2 ^ 52) exponent).exponent) ≠ .ok i := by
  have hpos : 0 < 2 ^ 52 := by decide
  obtain ⟨hcoefficient, -⟩ := Decimal.shortest_around selection hcanonical hpos
  obtain ⟨hlower, hupper⟩ := Decimal.near_shortest selection hcanonical hpos
  obtain ⟨hwithin, hwithin'⟩ := Decimal.shortest_within selection hcanonical hpos
  obtain ⟨num, den, hnum, hden, hratio, hround⟩ :=
    Decimal.ofDecimal_eq_ofRatio .even negative hcoefficient hwithin hwithin'
  rw [← hratio] at hlower hupper
  push_cast at hlower hupper
  have hunit : (2 * 2 ^ leastExponent : ℚ) ≤ 2 ^ exponent := by
    have hlt := lt_of_le_of_ne hcanonical.least (Ne.symm hleast)
    rw [mul_comm, ← zpow_add_one₀ (by norm_num)]
    exact zpow_le_zpow_right₀ (by norm_num) hlt
  have hunit' : (2 : ℚ) ^ exponent ≤ 2 ^ (-60 : Int) :=
    zpow_le_zpow_right₀ (by norm_num) hsmall.le
  have hpow : (0 : ℚ) < 2 ^ leastExponent := zpow_pos (by norm_num) _
  norm_num at hunit'
  obtain ⟨significand, exponent, hfinite, hbetween⟩ :=
    ofRatio_small negative hnum hden (by linarith) (by linarith)
  rw [hround, hfinite]
  refine integerOfNumber_ne_ok_of_not_whole ?_
  rintro ⟨n, hn⟩
  rw [hn] at hbetween
  have hone : 0 < n ∧ n < 1 := by exact_mod_cast hbetween
  omega

/-- A number that is not whole is not read back as an integer. -/
theorem integer_reread_of_not_whole (hcanonical : Canonical significand exponent)
    (h : ¬ ∃ n : Nat, (significand * 2 ^ exponent : ℚ) = n) {i : Int} :
    Validation.integer (finite negative significand exponent).reread ≠ .ok i := by
  have hlarge (n : Nat) (hn : (significand * 2 ^ exponent : ℚ) = n) : 2 ^ 53 ≤ n :=
    absurd ⟨n, hn⟩ h
  have hpos := significand_pos_of_not_whole h
  have hexponent := Decimal.exponent_shortest_of_not_whole Layout.plain.selection hcanonical h
  rw [reread_of_shortest negative hcanonical hlarge]
  dsimp only
  rw [if_neg fun hfew => absurd hfew.1 (not_le.mpr hexponent), Validation.integer]
  by_cases hgap : significand = 2 ^ 52 →
      exponent = leastExponent ∨ Layout.plain.selection.evenGaps < exponent
  · rw [Decimal.ofDecimal_shortest _ hcanonical negative hpos hgap]
    exact integerOfNumber_ne_ok_of_not_whole h
  · simp only [Classical.not_imp, not_or, not_lt] at hgap
    obtain ⟨rfl, hleast, hsmall⟩ := hgap
    have hgaps : Layout.plain.selection.evenGaps < -60 := by decide
    exact integerOfNumber_shortest_of_power _ negative hcanonical hleast (by omega)

/-- A number is read back as an integer exactly if it is a whole number of at most 21 digits. -/
theorem integer_reread_iff (hcanonical : Canonical significand exponent) :
    (∃ i, Validation.integer (finite negative significand exponent).reread = .ok i) ↔
      ∃ k : Int, value negative significand exponent = k ∧ k.natAbs < 10 ^ 21 := by
  by_cases hwhole : ∃ n : Nat, (significand * 2 ^ exponent : ℚ) = n
  · obtain ⟨n, h⟩ := hwhole
    have hvalue := value_signed negative h
    have hiff : (∃ k : Int, value negative significand exponent = k ∧ k.natAbs < 10 ^ 21) ↔
        n < 10 ^ 21 := by
      constructor
      · rintro ⟨k, hk, hlt⟩
        obtain rfl : signed negative n = k := by exact_mod_cast hvalue.symm.trans hk
        rwa [natAbs_signed] at hlt
      · exact fun hlt => ⟨_, hvalue, by rwa [natAbs_signed]⟩
    rw [hiff]
    by_cases hsize : n < 2 ^ 53
    · rw [reread_of_value hvalue (by rwa [natAbs_signed])]
      exact iff_of_true ⟨_, rfl⟩ (by omega)
    · exact integer_reread_of_large hcanonical h (not_lt.mp hsize) negative
  · refine iff_of_false (fun ⟨_, hi⟩ => integer_reread_of_not_whole hcanonical hwhole hi) ?_
    rintro ⟨k, hk, -⟩
    exact hwhole ⟨_, (natAbs_of_value hk).symm⟩

end Binary64

end CoffeeHost
