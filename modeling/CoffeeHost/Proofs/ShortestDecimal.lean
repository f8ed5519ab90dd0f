import CoffeeHost.Proofs.Neighbourhoods
/-!
# Shortest decimals

The shortest decimal of a number is searched on the grids of the decimals with one digit, with two
digits and so on, up to seventeen. Since seventeen digits suffice for a number of at most 53 bits,
it is always found, and it is at most half a unit in the last place away from the number.

The shortest decimal is whole exactly if the number is. A whole number lies on the grid of the
decimals without places behind the point, where no finer grid is tried. On the other side no whole
decimal is half a unit away from a number that has such places.

The shortest decimal is rounded back to the number, unless the number is a power of two whose
smaller gap is not respected.

## Main definitions

* `Decimal.value`: the value of a decimal.
* `Decimal.FoundAt`: the first grid on which a decimal is found.

## Main results

* `Decimal.shortest_around`: the shortest decimal is around the number.
* `Decimal.exponent_shortest_of_whole`, `Decimal.exponent_shortest_of_not_whole`: when it is whole.
* `Decimal.ofDecimal_shortest`: the shortest decimal is rounded back to the number.
-/

namespace CoffeeHost.Decimal

open Binary64

/-! ### Values -/

/-- The value of a decimal. -/
def value (d : Decimal) : ℚ := d.coefficient * 10 ^ d.exponent

theorem value_of_nonneg {d : Decimal} (h : 0 ≤ d.exponent) :
    d.value = (d.coefficient * 10 ^ d.exponent.natAbs : Nat) := by
  rw [value, zpow_eq_ite, if_neg (not_lt.mpr h)]
  push_cast
  rfl

theorem coefficient_ne_zero {d : Decimal} (h : 0 < d.value) : d.coefficient ≠ 0 := by
  intro hzero
  rw [value, hzero, Nat.cast_zero, zero_mul] at h
  exact lt_irrefl 0 h

/-- Zeros at the end can be moved into the exponent. -/
theorem value_strip (fuel : Nat) (d : Decimal) : (strip fuel d).value = d.value := by
  induction fuel generalizing d with
  | zero => rfl
  | succ fuel ih =>
    rw [strip]
    split_ifs with h
    · have hdigits : d.coefficient = 10 * (d.coefficient / 10) := by omega
      have hcast : (d.coefficient : ℚ) = 10 * (d.coefficient / 10 : Nat) := by
        exact_mod_cast hdigits
      rw [ih, value, value]
      dsimp only
      rw [zpow_add_one₀ (by norm_num), hcast]
      ring
    · rfl

theorem le_exponent_strip (fuel : Nat) (d : Decimal) : d.exponent ≤ (strip fuel d).exponent := by
  induction fuel generalizing d with
  | zero => exact le_rfl
  | succ fuel ih =>
    rw [strip]
    split_ifs with h
    · have hle := ih ⟨d.coefficient / 10, d.exponent + 1⟩
      dsimp only at hle
      omega
    · exact le_rfl

/-! ### The search -/

/-- A decimal is found with a number of digits, and none is found with fewer. -/
structure FoundAt (b : Neighbourhood) (tie : Tie) (digits step : Nat) : Prop where
  pos : 0 < digits
  found : b.onGrid? tie (b.grid digits) = some step
  first : ∀ m, 0 < m → m < digits → b.onGrid? tie (b.grid m) = none

/-- What is found on a grid is around the number, with zeros at the end or without. -/
theorem FoundAt.around {b : Neighbourhood} {tie : Tie} {digits step : Nat}
    (h : FoundAt b tie digits step) (fuel : Nat) :
    b.Around (strip fuel ⟨step, b.grid digits⟩).value := by
  rw [value_strip]
  exact (Neighbourhood.onGrid?_spec h.found).1

theorem findSome?_range_eq_some_iff {β : Type} {f : Nat → Option β} {count : Nat} {b : β} :
    (List.range count).findSome? f = some b ↔
      ∃ n < count, f n = some b ∧ ∀ m < n, f m = none := by
  induction count with
  | zero => simp
  | succ count ih =>
    rw [List.range_succ, List.findSome?_append, Option.or_eq_some_iff, ih,
      List.findSome?_eq_none_iff]
    constructor
    · rintro (⟨n, hn, hfound, hnone⟩ | ⟨hnone, hfound⟩)
      · exact ⟨n, by omega, hfound, hnone⟩
      · exact ⟨count, by omega, by simpa using hfound, by simpa using hnone⟩
    · rintro ⟨n, hn, hfound, hnone⟩
      by_cases hlast : n = count
      · subst hlast
        exact .inr ⟨by simpa using hnone, by simpa using hfound⟩
      · exact .inl ⟨n, by omega, hfound, hnone⟩

variable (selection : Selection) (significand : Nat) (exponent : Int)

/-- A shortest decimal is found on a grid, or else it is zero. -/
theorem shortest_cases :
    let b := Neighbourhood.of selection.evenGaps significand exponent
    (∃ digits step, FoundAt b selection.tie digits step ∧
      shortest selection significand exponent = strip 20 ⟨step, b.grid digits⟩) ∨
      (∀ digits, 0 < digits → digits ≤ 17 → b.onGrid? selection.tie (b.grid digits) = none) ∧
        shortest selection significand exponent = ⟨0, 0⟩ := by
  intro b
  rw [shortest]
  dsimp only
  cases hfound : (List.range 17).findSome? _ with
  | none =>
    refine .inr ⟨fun digits hpos hfew => ?_, rfl⟩
    have hmem : digits - 1 ∈ List.range 17 := List.mem_range.mpr (by omega)
    have hnone := List.findSome?_eq_none_iff.mp hfound (digits - 1) hmem
    rwa [Option.map_eq_none_iff, Nat.sub_add_cancel hpos] at hnone
  | some d =>
    obtain ⟨n, hn, hfound, hfirst⟩ := findSome?_range_eq_some_iff.mp hfound
    obtain ⟨step, hstep, hd⟩ := Option.map_eq_some_iff.mp hfound
    refine .inl ⟨n + 1, step, ⟨n.succ_pos, hstep, fun m hm hlt => ?_⟩, hd.symm⟩
    have hnone := hfirst (m - 1) (by omega)
    rwa [Option.map_eq_none_iff, Nat.sub_add_cancel hm] at hnone

variable {significand exponent}

/-- No shortest decimal begins with a zero, unless it is zero. -/
theorem exponent_shortest_of_zero {selection : Selection} (hpos : 0 < significand)
    (h : (shortest selection significand exponent).coefficient = 0) :
    (shortest selection significand exponent).exponent = 0 := by
  rcases shortest_cases selection significand exponent with
    ⟨digits, step, hfound, heq⟩ | ⟨-, heq⟩
  · have hlower := Neighbourhood.lower_pos selection.evenGaps exponent hpos
    rw [heq] at h
    exact absurd h (coefficient_ne_zero ((hfound.around 20).pos hlower))
  · rw [heq]

/-! ### Shortest decimals of numbers of at most 53 bits -/

section Canonical

variable (hcanonical : Canonical significand exponent)

include hcanonical

/-- The shortest decimal is found on a grid. -/
theorem exists_foundAt (hpos : 0 < significand) :
    let b := Neighbourhood.of selection.evenGaps significand exponent
    ∃ digits step, FoundAt b selection.tie digits step ∧
      shortest selection significand exponent = strip 20 ⟨step, b.grid digits⟩ := by
  rcases shortest_cases selection significand exponent with hfound | ⟨hnone, -⟩
  · exact hfound
  · obtain ⟨step, hstep⟩ := Neighbourhood.seventeen_digits selection.tie selection.evenGaps
      hcanonical hpos
    exact nomatch (hnone 17 (by decide) le_rfl).symm.trans hstep

/-- The shortest decimal is not zero and rounds to the number. -/
theorem shortest_around (hpos : 0 < significand) :
    (shortest selection significand exponent).coefficient ≠ 0 ∧
      (Neighbourhood.of selection.evenGaps significand exponent).Around
        (shortest selection significand exponent).value := by
  obtain ⟨digits, step, hfound, heq⟩ := exists_foundAt selection hcanonical hpos
  have hlower := Neighbourhood.lower_pos selection.evenGaps exponent hpos
  have haround := hfound.around 20
  rw [← heq] at haround
  exact ⟨coefficient_ne_zero (haround.pos hlower), haround⟩

/-- The shortest decimal is at most half a unit away from the number. -/
theorem near_shortest (hpos : 0 < significand) :
    (significand * 2 ^ exponent - 2 ^ exponent / 2 : ℚ) ≤
        (shortest selection significand exponent).value ∧
      (shortest selection significand exponent).value ≤
        significand * 2 ^ exponent + 2 ^ exponent / 2 :=
  (shortest_around selection hcanonical hpos).2.near hpos

/-- The shortest decimal has its point where the number has it, or one place later. -/
theorem le_value_shortest (hpos : 0 < significand) :
    (10 : ℚ) ^ ((Neighbourhood.of selection.evenGaps significand exponent).pointPosition - 1) ≤
      (shortest selection significand exponent).value := by
  obtain ⟨digits, step, hfound, heq⟩ := exists_foundAt selection hcanonical hpos
  set b := Neighbourhood.of selection.evenGaps significand exponent
  obtain ⟨-, hneighbour⟩ := Neighbourhood.onGrid?_spec hfound.found
  obtain ⟨-, habove⟩ := b.below_spec (b.grid digits)
  obtain ⟨hpoint, -⟩ := Neighbourhood.pointPosition_spec (b := b)
    (Neighbourhood.number_pos selection.evenGaps exponent hpos)
  rw [b.zpow_pointPosition hfound.pos] at hpoint ⊢
  have hten : (0 : ℚ) < 10 ^ b.grid digits := zpow_pos (by norm_num) _
  have hlt := lt_of_mul_lt_mul_right (hpoint.trans_lt habove) hten.le
  have hbelow : 10 ^ (digits - 1) ≤ b.below (b.grid digits) :=
    Nat.le_of_lt_succ (by exact_mod_cast hlt)
  have hstep : 10 ^ (digits - 1) ≤ step := by omega
  rw [heq, value_strip, value]
  gcongr

/-- The shortest decimal of a whole number is whole. -/
theorem exponent_shortest_of_whole {n : Nat} (hn : 0 < n)
    (h : (significand * 2 ^ exponent : ℚ) = n) :
    0 ≤ (shortest selection significand exponent).exponent := by
  have hone : (1 : ℚ) ≤ n := by exact_mod_cast hn
  have hpos := significand_pos hn h
  obtain ⟨digits, step, hfound, heq⟩ := exists_foundAt selection hcanonical hpos
  have hnumber := Neighbourhood.number_of selection.evenGaps significand exponent
  have hbetween := Neighbourhood.number_between selection.evenGaps exponent hpos
  obtain ⟨-, -, hpoint⟩ := Neighbourhood.pointPosition_spec
    (Neighbourhood.number_pos selection.evenGaps exponent hpos)
  set b := Neighbourhood.of selection.evenGaps significand exponent
  rw [hnumber, h] at hpoint
  rw [heq]
  refine le_trans ?_ (le_exponent_strip 20 _)
  by_contra hneg
  -- The number lies on the grid of its own point, where fewer digits would do.
  have hposition : 0 < b.pointPosition := by
    by_contra hle
    have hten : (10 : ℚ) ^ b.pointPosition ≤ 10 ^ (0 : Int) :=
      zpow_le_zpow_right₀ (by norm_num) (by omega)
    rw [zpow_zero] at hten
    linarith [hpoint hone]
  obtain ⟨m, hm⟩ : ∃ m : Nat, b.pointPosition = m := ⟨b.pointPosition.toNat, by omega⟩
  have hgrid : b.grid m = 0 := by
    rw [Neighbourhood.grid, hm, sub_self]
  have hzero : n * 10 ^ b.grid m = b.number := by
    rw [hgrid, zpow_zero, mul_one, hnumber, h]
  obtain ⟨found, hsome⟩ := Neighbourhood.exists_onGrid?_of_eq selection.tie hbetween hzero
  have hfewer : m < digits := by
    simp only [Neighbourhood.grid] at hneg
    omega
  cases (hfound.first m (by omega) hfewer).symm.trans hsome

/-- The shortest decimal of a number that is not whole is not whole. -/
theorem exponent_shortest_of_not_whole (h : ¬ ∃ n : Nat, (significand * 2 ^ exponent : ℚ) = n) :
    (shortest selection significand exponent).exponent < 0 := by
  have hpos := significand_pos_of_not_whole h
  have hneg : exponent < 0 := by
    by_contra hle
    refine h ⟨significand * 2 ^ exponent.natAbs, ?_⟩
    rw [zpow_eq_ite, if_neg hle]
    push_cast
    rfl
  by_contra hwhole
  -- A whole number that is at most half a unit away is the number, if the unit is below one.
  obtain ⟨hlower, hupper⟩ := near_shortest selection hcanonical hpos
  rw [value_of_nonneg (not_lt.mp hwhole)] at hlower hupper
  generalize (shortest selection significand exponent).coefficient * 10 ^ _ = n at hlower hupper
  have hunit : (2 : ℚ) ^ exponent * 2 ^ exponent.natAbs = 1 := by
    rw [zpow_eq_ite, if_pos hneg]
    field_simp
  have hpow : (0 : ℚ) < 2 ^ exponent.natAbs := by positivity
  have hscaled : n * 2 ^ exponent.natAbs = significand := by
    have hle : (2 * significand : ℚ) ≤ 2 * (n * 2 ^ exponent.natAbs) + 1 := by
      have := mul_le_mul_of_nonneg_right hlower hpow.le
      rw [sub_mul, mul_assoc, div_mul_eq_mul_div, hunit] at this
      linarith
    have hge : (2 * (n * 2 ^ exponent.natAbs) : ℚ) ≤ 2 * significand + 1 := by
      have := mul_le_mul_of_nonneg_right hupper hpow.le
      rw [add_mul, mul_assoc, div_mul_eq_mul_div, hunit] at this
      linarith
    have hle' : 2 * significand ≤ 2 * (n * 2 ^ exponent.natAbs) + 1 := by exact_mod_cast hle
    have hge' : 2 * (n * 2 ^ exponent.natAbs) ≤ 2 * significand + 1 := by exact_mod_cast hge
    omega
  refine h ⟨n, ?_⟩
  rw [← hscaled, Nat.cast_mul, Nat.cast_pow, Nat.cast_ofNat, mul_assoc, mul_comm ((2 : ℚ) ^ _),
    hunit, mul_one]

end Canonical

/-! ### Rounding shortest decimals back -/

theorem ten_zpow_neg_le (k : Nat) : (10 : ℚ) ^ (-(k : Int)) ≤ 2 ^ (-3 * (k : Int)) := by
  rw [show -3 * (k : Int) = -((3 * k : Nat) : Int) by push_cast; ring, zpow_neg, zpow_neg,
    zpow_natCast, zpow_natCast, pow_mul]
  gcongr
  norm_num

/-- The decimals that are taken to be infinite or zero at once are out of the range of numbers. -/
theorem exponent_of_within {d : Decimal} (h : d.coefficient ≠ 0)
    (hsmall : (2 : ℚ) ^ (-1079 : Int) ≤ d.value) (hlarge : d.value < 10 ^ (401 : Int)) :
    ¬ 400 < d.exponent ∧ ¬ (d.coefficient.log2 : Int) + 1080 < -3 * d.exponent := by
  have hone : (1 : ℚ) ≤ d.coefficient := by exact_mod_cast Nat.pos_of_ne_zero h
  rw [value] at hsmall hlarge
  constructor
  · intro hlt
    have hten : (0 : ℚ) < 10 ^ d.exponent := zpow_pos (by norm_num) _
    have hpow : (10 : ℚ) ^ (401 : Int) ≤ 10 ^ d.exponent :=
      zpow_le_zpow_right₀ (by norm_num) (by omega)
    exact absurd (hpow.trans (le_mul_of_one_le_left hten.le hone)) (not_le.mpr hlarge)
  · intro hlt
    obtain ⟨k, hk⟩ : ∃ k : Nat, d.exponent = -k := ⟨d.exponent.natAbs, by omega⟩
    rw [hk] at hsmall hlt
    have hbits : (d.coefficient : ℚ) < 2 ^ (d.coefficient.log2 + 1) := by
      exact_mod_cast Nat.lt_log2_self
    have hproduct : (d.coefficient : ℚ) * 10 ^ (-(k : Int)) <
        2 ^ (((d.coefficient.log2 + 1 : Nat) : Int) + -3 * (k : Int)) := by
      rw [zpow_add₀ (by norm_num), zpow_natCast]
      exact mul_lt_mul_of_lt_of_le_of_nonneg_of_pos hbits (ten_zpow_neg_le k) (Nat.cast_nonneg _)
        (zpow_pos (by norm_num) _)
    have hle : (2 : ℚ) ^ (((d.coefficient.log2 + 1 : Nat) : Int) + -3 * (k : Int)) ≤
        2 ^ (-1079 : Int) := zpow_le_zpow_right₀ (by norm_num) (by push_cast; omega)
    linarith

/-- A decimal that a finite number can be near to is rounded as the ratio that it is. -/
theorem ofDecimal_eq_ofRatio (tie : Tie) (negative : Bool) {d : Decimal} (h : d.coefficient ≠ 0)
    (hsmall : (2 : ℚ) ^ (-1079 : Int) ≤ d.value) (hlarge : d.value < 10 ^ (401 : Int)) :
    ∃ num den : Nat, 0 < num ∧ 0 < den ∧ (num / den : ℚ) = d.value ∧
      Binary64.ofDecimal tie negative d.coefficient d.exponent =
        Binary64.ofRatio tie negative num den := by
  have hpos := Nat.pos_of_ne_zero h
  obtain ⟨hgreat, htiny⟩ := exponent_of_within h hsmall hlarge
  rw [value, ofDecimal, if_neg h, if_neg hgreat, if_neg htiny, zpow_eq_ite]
  split_ifs with hneg
  · refine ⟨d.coefficient, Nat.pow 10 d.exponent.natAbs, hpos, Nat.pow_pos (by decide), ?_, rfl⟩
    rw [Nat.pow_eq]
    push_cast
    field_simp
  · refine ⟨d.coefficient * Nat.pow 10 d.exponent.natAbs, 1,
      Nat.mul_pos hpos (Nat.pow_pos (by decide)), Nat.one_pos, ?_, rfl⟩
    rw [Nat.pow_eq]
    push_cast
    field_simp

theorem unit_greatest_le : (2 : ℚ) ^ 54 * 2 ^ greatestExponent ≤ 10 ^ (401 : Int) := by
  have hgreatest : greatestExponent = (971 : Nat) := rfl
  calc (2 : ℚ) ^ 54 * 2 ^ greatestExponent = (2 ^ 25) ^ 41 := by
        rw [hgreatest, zpow_natCast, ← pow_add, ← pow_mul]
    _ ≤ (10 ^ 8) ^ 41 := by gcongr; norm_num
    _ ≤ 10 ^ (401 : Nat) := by
        rw [← pow_mul]
        exact pow_le_pow_right₀ (by norm_num) (by decide)
    _ = 10 ^ (401 : Int) := (zpow_natCast _ _).symm

section Canonical

variable (hcanonical : Canonical significand exponent)

include hcanonical

/-- The shortest decimal is within the range of numbers. -/
theorem shortest_within (hpos : 0 < significand) :
    (2 : ℚ) ^ (-1079 : Int) ≤ (shortest selection significand exponent).value ∧
      (shortest selection significand exponent).value < 10 ^ (401 : Int) := by
  obtain ⟨hlower, hupper⟩ := near_shortest selection hcanonical hpos
  have hpow : (0 : ℚ) < 2 ^ exponent := zpow_pos (by norm_num) _
  constructor
  · have hone : (1 : ℚ) ≤ significand := by exact_mod_cast hpos
    have hmul := mul_le_mul_of_nonneg_right hone hpow.le
    have hleast : (2 : ℚ) ^ (-1079 : Int) ≤ 2 ^ (exponent - 1) := by
      have hleast := hcanonical.least
      have hbound : -1079 ≤ leastExponent - 1 := by decide
      exact zpow_le_zpow_right₀ (by norm_num) (by omega)
    rw [zpow_sub_one₀ (by norm_num)] at hleast
    linarith
  · have hsmall : (significand : ℚ) < 2 ^ 53 := by exact_mod_cast hcanonical.small
    have hmul := mul_lt_mul_of_pos_right hsmall hpow
    have hgreatest : (2 : ℚ) ^ exponent ≤ 2 ^ greatestExponent :=
      zpow_le_zpow_right₀ (by norm_num) hcanonical.greatest
    refine lt_of_lt_of_le ?_ unit_greatest_le
    linarith

/-- The shortest decimal is rounded back to the number, if the smaller gap below a power of two is
respected. -/
theorem ofDecimal_shortest (negative : Bool) (hpos : 0 < significand)
    (hgap : significand = 2 ^ 52 → exponent = leastExponent ∨ selection.evenGaps < exponent) :
    Binary64.ofDecimal .even negative (shortest selection significand exponent).coefficient
      (shortest selection significand exponent).exponent =
        .finite negative significand exponent := by
  obtain ⟨hcoefficient, haround⟩ := shortest_around selection hcanonical hpos
  obtain ⟨hleast, hgreatest⟩ := shortest_within selection hcanonical hpos
  obtain ⟨num, den, hnum, hden, hratio, hround⟩ :=
    ofDecimal_eq_ofRatio .even negative hcoefficient hleast hgreatest
  rw [hround]
  rw [← hratio] at haround
  exact haround.ofRatio negative hnum hden hpos hcanonical hgap

end Canonical

end CoffeeHost.Decimal
