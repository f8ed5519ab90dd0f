import CoffeeHost.Number.Shortest
import CoffeeHost.Proofs.Rounding
/-!
# Neighbourhoods of numbers

The decimals that round to a number lie between two bounds: half a unit in the last place above the
number and half a unit below it, or only a quarter below a power of two whose smaller gap is
respected. On a grid of decimals one of the two neighbours of the number lies between the bounds if
the number lies on the grid, or if the steps of the grid are smaller than the bounds are apart. The
latter holds for the grid of the decimals with seventeen digits.

What lies between the bounds is rounded to the number. Just below a power of two, where the unit is
only half as large, this needs the smaller gap.

## Main definitions

* `Decimal.Neighbourhood.number`, `Decimal.Neighbourhood.least`, `Decimal.Neighbourhood.greatest`:
  the number and its bounds.
* `Decimal.Neighbourhood.Around`: what lies between the bounds.
* `Decimal.Neighbourhood.below`: the neighbour of the number on a grid that is not above it.
* `Decimal.Neighbourhood.grid`: the grid of the decimals with a number of digits.

## Main results

* `Decimal.Neighbourhood.pointPosition_spec`: the powers of ten between which a number lies.
* `Decimal.Neighbourhood.exists_onGrid?_iff`: when a decimal is found on a grid.
* `Decimal.Neighbourhood.seventeen_digits`: seventeen digits suffice.
* `Decimal.Neighbourhood.Around.ofRatio`: what is around a number is rounded to it.
-/

namespace CoffeeHost.Decimal

open Binary64

/-! ### Counts of digits -/

/-- A positive number lies between the powers of ten that its count of digits tells. -/
theorem digitCount_spec {n : Nat} (h : 0 < n) :
    0 < digitCount n ∧ 10 ^ (digitCount n - 1) ≤ n ∧ n < 10 ^ digitCount n := by
  have hlength : digitCount n = (Nat.toDigits 10 n).length := if_neg h.ne'
  have hpos : 0 < (Nat.toDigits 10 n).length := Nat.length_toDigits_pos
  have hiff {k : Nat} (hk : 0 < k) : (Nat.toDigits 10 n).length ≤ k ↔ n < 10 ^ k :=
    Nat.length_toDigits_le_iff (by decide) hk
  rw [hlength]
  refine ⟨hpos, ?_, (hiff hpos).mp le_rfl⟩
  by_cases hone : (Nat.toDigits 10 n).length = 1
  · rw [hone]
    exact h
  · by_contra hlt
    have hle := (hiff (k := (Nat.toDigits 10 n).length - 1) (by omega)).mpr (by omega)
    omega

/-- A ratio of at least one lies between the powers of ten that the digits of its quotient tell. -/
theorem digitCount_div_spec {num den : Nat} (hden : 0 < den) (h : den ≤ num) :
    0 < digitCount (num / den) ∧ (10 : ℚ) ^ (digitCount (num / den) - 1) ≤ num / den ∧
      (num / den : ℚ) < 10 ^ digitCount (num / den) := by
  obtain ⟨hpos, hlower, hupper⟩ := digitCount_spec (Nat.div_pos h hden)
  rw [Nat.le_div_iff_mul_le hden] at hlower
  rw [Nat.div_lt_iff_lt_mul hden] at hupper
  have hd : (0 : ℚ) < den := by exact_mod_cast hden
  refine ⟨hpos, ?_, ?_⟩
  · rw [le_div_iff₀ hd]
    exact_mod_cast hlower
  · rw [div_lt_iff₀ hd]
    exact_mod_cast hupper

namespace Neighbourhood

/-- The grid of the decimals with a number of digits that are near the number. -/
def grid (b : Neighbourhood) (digits : Nat) : Int := b.pointPosition - digits

variable (b : Neighbourhood) (grid : Int)

/-! ### Steps of grids -/

theorem inSteps_pos (quarters : Nat) : 0 < (b.inSteps grid quarters).2 := by
  have htwo : 0 < Nat.pow 2 b.exponent.natAbs := Nat.pow_pos (by decide)
  have hten : 0 < Nat.pow 10 grid.natAbs := Nat.pow_pos (by decide)
  simp only [inSteps]
  split_ifs <;> simp [*]

theorem inSteps_div (quarters : Nat) :
    ((b.inSteps grid quarters).1 : ℚ) / (b.inSteps grid quarters).2 =
      quarters * 2 ^ b.exponent / 10 ^ grid := by
  rw [zpow_eq_ite, zpow_eq_ite]
  simp only [inSteps]
  split_ifs
  all_goals
    simp only [Nat.pow_eq]
    push_cast
    field_simp

theorem inSteps_snd (quarters quarters' : Nat) :
    (b.inSteps grid quarters).2 = (b.inSteps grid quarters').2 := by
  simp only [inSteps]
  split_ifs <;> rfl

/-- Comparing a number of quarters with a decimal on a grid. -/
theorem inSteps_lt_iff (quarters step : Nat) :
    ((b.inSteps grid quarters).1 < step * (b.inSteps grid quarters).2 ↔
      (quarters * 2 ^ b.exponent : ℚ) < step * 10 ^ grid) ∧
    (step * (b.inSteps grid quarters).2 < (b.inSteps grid quarters).1 ↔
      (step * 10 ^ grid : ℚ) < quarters * 2 ^ b.exponent) := by
  have hpos := b.inSteps_pos grid quarters
  have hdiv := b.inSteps_div grid quarters
  have hd : (0 : ℚ) < (b.inSteps grid quarters).2 := by exact_mod_cast hpos
  have hten : (0 : ℚ) < 10 ^ grid := zpow_pos (by norm_num) _
  constructor
  · rw [← div_lt_iff₀ hten, ← hdiv, div_lt_iff₀ hd]
    exact_mod_cast Iff.rfl
  · rw [← lt_div_iff₀ hten, ← hdiv, lt_div_iff₀ hd]
    exact_mod_cast Iff.rfl

/-! ### Bounds -/

/-- The number. -/
def number : ℚ := b.quarters * 2 ^ b.exponent

/-- The lower bound. -/
def least : ℚ := b.lower * 2 ^ b.exponent

/-- The upper bound. -/
def greatest : ℚ := b.upper * 2 ^ b.exponent

/-- What lies between the bounds, or on them if they are closed. -/
structure Around (d : ℚ) : Prop where
  lower : b.least ≤ d
  upper : d ≤ b.greatest
  strict : b.closed = false → b.least < d ∧ d < b.greatest

variable {b grid}

theorem around_of_lt {d : ℚ} (h : b.least < d ∧ d < b.greatest) : b.Around d :=
  ⟨h.1.le, h.2.le, fun _ => h⟩

theorem Around.pos {d : ℚ} (h : b.Around d) (hlower : 0 < b.lower) : 0 < d := by
  have hbound : 0 < b.least := by
    rw [least]
    positivity
  exact hbound.trans_le h.lower

theorem holds_iff {step : Nat} : b.holds grid step = true ↔ b.Around (step * 10 ^ grid) := by
  obtain ⟨hlower, hlower'⟩ := b.inSteps_lt_iff grid b.lower step
  obtain ⟨hupper', hupper⟩ := b.inSteps_lt_iff grid b.upper step
  rw [inSteps_snd b grid b.upper b.lower] at hupper hupper'
  simp only [holds]
  cases hclosed : b.closed with
  | false =>
    simp only [Bool.false_eq_true, if_false, Bool.and_eq_true, decide_eq_true_eq, hlower, hupper]
    exact ⟨around_of_lt, fun h => h.strict hclosed⟩
  | true =>
    simp only [if_true, Bool.and_eq_true, decide_eq_true_eq, ← not_lt, hlower', hupper']
    simp only [not_lt]
    exact ⟨fun h => ⟨h.1, h.2, fun hopen => by simp [hclosed] at hopen⟩,
      fun h => ⟨h.lower, h.upper⟩⟩

/-! ### Neighbours on grids -/

/-- The greatest step of a grid that is not above the number. -/
def below (b : Neighbourhood) (grid : Int) : Nat :=
  (b.inSteps grid b.quarters).1 / (b.inSteps grid b.quarters).2

theorem below_spec (b : Neighbourhood) (grid : Int) : b.below grid * 10 ^ grid ≤ b.number ∧
    b.number < (b.below grid + 1 : Nat) * 10 ^ grid := by
  have hpos := b.inSteps_pos grid b.quarters
  constructor
  · rw [number, ← not_lt, ← (b.inSteps_lt_iff grid b.quarters _).1, not_lt]
    exact Nat.div_mul_le_self _ _
  · rw [number, ← (b.inSteps_lt_iff grid b.quarters _).1]
    exact Nat.lt_mul_of_div_lt (Nat.lt_succ_self _) hpos

theorem onGrid?_eq (b : Neighbourhood) (tie : Tie) (grid : Int) : b.onGrid? tie grid =
    match b.holds grid (b.below grid), b.holds grid (b.below grid + 1) with
    | true, true => some (tie.roundQuotient (b.inSteps grid b.quarters).1
        (b.inSteps grid b.quarters).2)
    | true, false => some (b.below grid)
    | false, true => some (b.below grid + 1)
    | false, false => none := rfl

/-- What is found on a grid is around the number, and is one of its neighbours. -/
theorem onGrid?_spec {tie : Tie} {step : Nat} (h : b.onGrid? tie grid = some step) :
    b.Around (step * 10 ^ grid) ∧ (step = b.below grid ∨ step = b.below grid + 1) := by
  have hmem := tie.roundQuotient_mem (b.inSteps grid b.quarters).1 (b.inSteps grid b.quarters).2
  rw [← below] at hmem
  rw [← holds_iff]
  rw [onGrid?_eq] at h
  generalize hbelow : b.holds grid (b.below grid) = held at h
  generalize habove : b.holds grid (b.below grid + 1) = held' at h
  cases held <;> cases held' <;> simp only [reduceCtorEq, Option.some.injEq] at h
  · exact h ▸ ⟨habove, .inr rfl⟩
  · exact h ▸ ⟨hbelow, .inl rfl⟩
  · rcases hmem with hround | hround
    · rw [← h, hround]
      exact ⟨hbelow, .inl rfl⟩
    · rw [← h, hround]
      exact ⟨habove, .inr rfl⟩

/-- A decimal is found on a grid if one of the two neighbours of the number is around it. -/
theorem exists_onGrid?_iff {tie : Tie} : (∃ step, b.onGrid? tie grid = some step) ↔
    b.Around (b.below grid * 10 ^ grid) ∨ b.Around ((b.below grid + 1 : Nat) * 10 ^ grid) := by
  constructor
  · rintro ⟨step, h⟩
    obtain ⟨haround, rfl | rfl⟩ := onGrid?_spec h
    · exact .inl haround
    · exact .inr haround
  · rw [← holds_iff, ← holds_iff, onGrid?_eq]
    cases b.holds grid (b.below grid) <;> cases b.holds grid (b.below grid + 1) <;> simp

/-- The neighbours are around the number on a grid that is finer than the bounds. -/
theorem exists_onGrid?_of_fine (tie : Tie) (hbetween : b.least < b.number ∧ b.number < b.greatest)
    (hfine : 10 ^ grid < b.greatest - b.least) : ∃ step, b.onGrid? tie grid = some step := by
  obtain ⟨hbelow, habove⟩ := b.below_spec grid
  rw [exists_onGrid?_iff]
  by_contra hnone
  obtain ⟨hout, hout'⟩ := not_or.mp hnone
  have hlow := mt around_of_lt hout
  have hhigh := mt around_of_lt hout'
  rw [not_and_or, not_lt, not_lt] at hlow hhigh
  have hlow := hlow.resolve_right (by linarith)
  have hhigh := hhigh.resolve_left (by linarith)
  push_cast at hhigh
  linarith

/-- A number that lies on a grid is found there. -/
theorem exists_onGrid?_of_eq (tie : Tie) (hbetween : b.least < b.number ∧ b.number < b.greatest)
    {step : Nat} (h : step * 10 ^ grid = b.number) : ∃ found, b.onGrid? tie grid = some found := by
  have hten : (0 : ℚ) < 10 ^ grid := zpow_pos (by norm_num) _
  obtain ⟨hbelow, habove⟩ := b.below_spec grid
  rw [← h] at hbelow habove
  have hle : b.below grid ≤ step := by exact_mod_cast le_of_mul_le_mul_right hbelow hten
  have hlt : step < b.below grid + 1 := by exact_mod_cast lt_of_mul_lt_mul_right habove hten.le
  obtain rfl : b.below grid = step := by omega
  rw [exists_onGrid?_iff, h]
  exact .inl (around_of_lt hbetween)

/-! ### The position of the point -/

/-- The number lies between the powers of ten that the position of its point tells. -/
theorem pointPosition_spec (h : 0 < b.number) : 10 ^ (b.pointPosition - 1) ≤ b.number ∧
    b.number ≤ 10 ^ b.pointPosition ∧ (1 ≤ b.number → b.number < 10 ^ b.pointPosition) := by
  have hpos := b.inSteps_pos 0 b.quarters
  have hdiv := b.inSteps_div 0 b.quarters
  rw [zpow_zero, div_one, ← number] at hdiv
  rw [← hdiv] at h ⊢
  simp only [pointPosition]
  generalize (b.inSteps 0 b.quarters).1 = num at h ⊢
  generalize (b.inSteps 0 b.quarters).2 = den at hpos h ⊢
  have hd : (0 : ℚ) < den := by exact_mod_cast hpos
  have hn : (0 : ℚ) < num := (div_pos_iff_of_pos_right hd).mp h
  have hnum : 0 < num := by exact_mod_cast hn
  by_cases hle : den ≤ num
  · obtain ⟨hdigits, hlower, hupper⟩ := digitCount_div_spec hpos hle
    rw [if_pos hle]
    generalize digitCount (num / den) = digits at hdigits hlower hupper ⊢
    rw [show (digits : Int) - 1 = (digits - 1 : Nat) by omega, zpow_natCast, zpow_natCast]
    exact ⟨hlower, hupper.le, fun _ => hupper⟩
  · -- Below one the digits of the inverse tell how many zeros there are.
    obtain ⟨hdigits, hlower, hupper⟩ := digitCount_div_spec hnum (Nat.lt_of_not_le hle).le
    obtain ⟨zeros, hzeros⟩ : ∃ zeros, digitCount (den / num) = zeros + 1 :=
      ⟨digitCount (den / num) - 1, by omega⟩
    rw [hzeros, Nat.add_sub_cancel] at hlower
    rw [hzeros] at hupper
    have hbig : num * Nat.pow 10 (zeros + 1) ≥ den := by
      rw [div_lt_iff₀ hn, mul_comm] at hupper
      have hbound : den < num * 10 ^ (zeros + 1) := by exact_mod_cast hupper
      exact hbound.le
    rw [if_neg hle, hzeros, Nat.add_sub_cancel, if_pos hbig, ← inv_div (den : ℚ)]
    refine ⟨?_, ?_, fun hone => ?_⟩
    · rw [show -(zeros : Int) - 1 = -((zeros + 1 : Nat) : Int) by push_cast; ring, zpow_neg,
        zpow_natCast]
      exact inv_anti₀ (div_pos hd hn) hupper.le
    · rw [zpow_neg, zpow_natCast]
      exact inv_anti₀ (by positivity) hlower
    · rw [inv_div, one_le_div₀ hd] at hone
      exact absurd (by exact_mod_cast hone) hle

/-- On the grid of the decimals with a number of digits, the number has at least as many steps as
the least of them. -/
theorem zpow_pointPosition (b : Neighbourhood) {digits : Nat} (h : 0 < digits) :
    (10 : ℚ) ^ (b.pointPosition - 1) = (10 ^ (digits - 1) : Nat) * 10 ^ b.grid digits := by
  rw [grid, Nat.cast_pow, ← zpow_natCast, Nat.cast_ofNat, ← zpow_add₀ (by norm_num)]
  congr 1
  omega

end Neighbourhood

namespace Neighbourhood

/-! ### Neighbourhoods of binary numbers -/

variable {evenGaps exponent : Int} {significand : Nat}

/-- The gap between a number and its lower bound: half a unit, or a quarter below a power of two
whose smaller gap is respected. -/
def gapBelow (evenGaps : Int) (significand : Nat) (exponent : Int) : ℚ :=
  if significand = 2 ^ 52 ∧ evenGaps < exponent then 2 ^ exponent / 4 else 2 ^ exponent / 2

theorem gapBelow_pos (evenGaps : Int) (significand : Nat) (exponent : Int) :
    0 < gapBelow evenGaps significand exponent := by
  rw [gapBelow]
  split_ifs <;> positivity

theorem gapBelow_le (evenGaps : Int) (significand : Nat) (exponent : Int) :
    gapBelow evenGaps significand exponent ≤ 2 ^ exponent / 2 := by
  have hpow : (0 : ℚ) < 2 ^ exponent := zpow_pos (by norm_num) _
  rw [gapBelow]
  split_ifs <;> linarith

/-- A quarter of a unit in the last place. -/
theorem four_mul_quarter (exponent : Int) : (4 : ℚ) * 2 ^ (exponent - 2) = 2 ^ exponent := by
  rw [zpow_sub₀ (by norm_num)]
  norm_num
  ring

@[simp] theorem number_of (evenGaps : Int) (significand : Nat) (exponent : Int) :
    (of evenGaps significand exponent).number = significand * 2 ^ exponent := by
  rw [← four_mul_quarter exponent, number, of]
  push_cast
  ring

@[simp] theorem greatest_of (evenGaps : Int) (significand : Nat) (exponent : Int) :
    (of evenGaps significand exponent).greatest =
      significand * 2 ^ exponent + 2 ^ exponent / 2 := by
  rw [← four_mul_quarter exponent, greatest, of]
  push_cast
  ring

theorem least_of (evenGaps exponent : Int) (hpos : 0 < significand) :
    (of evenGaps significand exponent).least =
      significand * 2 ^ exponent - gapBelow evenGaps significand exponent := by
  have hbits : Nat.pow 2 52 = 2 ^ 52 := rfl
  rw [gapBelow, ← four_mul_quarter exponent, least, of, hbits]
  split_ifs with h
  · rw [Nat.cast_sub (by omega)]
    push_cast
    ring
  · rw [Nat.cast_sub (by omega)]
    push_cast
    ring

theorem lower_pos (evenGaps exponent : Int) (hpos : 0 < significand) :
    0 < (of evenGaps significand exponent).lower := by
  simp only [of]
  split_ifs <;> omega

theorem number_pos (evenGaps exponent : Int) (hpos : 0 < significand) :
    0 < (of evenGaps significand exponent).number := by
  rw [number_of]
  positivity

theorem number_between (evenGaps exponent : Int) (hpos : 0 < significand) :
    (of evenGaps significand exponent).least < (of evenGaps significand exponent).number ∧
      (of evenGaps significand exponent).number < (of evenGaps significand exponent).greatest := by
  have hgap := gapBelow_pos evenGaps significand exponent
  have hpow : (0 : ℚ) < 2 ^ exponent := zpow_pos (by norm_num) _
  rw [least_of _ _ hpos, number_of, greatest_of]
  constructor <;> linarith

/-- A number of at most 53 bits has a decimal of seventeen digits that rounds to it. -/
theorem seventeen_digits (tie : Tie) (evenGaps : Int) (hcanonical : Canonical significand exponent)
    (hpos : 0 < significand) : ∃ step, (of evenGaps significand exponent).onGrid? tie
      ((of evenGaps significand exponent).grid 17) = some step := by
  refine exists_onGrid?_of_fine tie (number_between _ _ hpos) ?_
  have hpow : (0 : ℚ) < 2 ^ exponent := zpow_pos (by norm_num) _
  obtain ⟨hpoint, -⟩ := pointPosition_spec (number_pos evenGaps exponent hpos)
  rw [zpow_pointPosition _ (by decide : 0 < 17), number_of] at hpoint
  push_cast at hpoint
  rw [least_of _ _ hpos, greatest_of, gapBelow]
  split_ifs with hnarrow
  · have hcast : (significand : ℚ) = 2 ^ 52 := by exact_mod_cast hnarrow.1
    rw [hcast] at hpoint ⊢
    linarith
  · have hcast : (significand : ℚ) < 2 ^ 53 := by exact_mod_cast hcanonical.small
    have := mul_lt_mul_of_pos_right hcast hpow
    linarith

/-! ### Rounding back -/

variable {d : ℚ}

/-- What is around a number is at most half a unit away from it. -/
theorem Around.near (h : (of evenGaps significand exponent).Around d) (hpos : 0 < significand) :
    (significand * 2 ^ exponent - 2 ^ exponent / 2 : ℚ) ≤ d ∧
      d ≤ significand * 2 ^ exponent + 2 ^ exponent / 2 := by
  have hgap := gapBelow_le evenGaps significand exponent
  have hlower := h.lower
  have hupper := h.upper
  rw [least_of _ _ hpos] at hlower
  rw [greatest_of] at hupper
  exact ⟨by linarith, hupper⟩

/-- A number is nearest to what is around it. -/
theorem Around.nearest (h : (of evenGaps significand exponent).Around d) (hpos : 0 < significand) :
    Nearest d significand exponent := by
  obtain ⟨hlower, hupper⟩ := h.near hpos
  by_cases heven : significand % 2 = 0
  · constructor
    · rcases hupper.lt_or_eq with hlt | heq
      · exact .inl (by linarith)
      · exact .inr ⟨by linarith, heven⟩
    · rcases hlower.lt_or_eq with hlt | heq
      · exact .inl (by linarith)
      · exact .inr ⟨by linarith, heven⟩
  · have hopen : (of evenGaps significand exponent).closed = false := by simpa [of] using heven
    have hgap := gapBelow_le evenGaps significand exponent
    obtain ⟨hlower, hupper⟩ := h.strict hopen
    rw [least_of _ _ hpos] at hlower
    rw [greatest_of] at hupper
    exact ⟨.inl (by linarith), .inl (by linarith)⟩

/-- A ratio that is at most a quarter of a unit below a power of two is rounded to the power. -/
theorem ofRatio_below_power (negative : Bool) {num den : Nat} (hnum : 0 < num) (hden : 0 < den)
    (hleast : leastExponent < exponent) (hgreatest : exponent ≤ greatestExponent)
    (hlower : (2 ^ 52 * 2 ^ exponent - 2 ^ exponent / 4 : ℚ) ≤ num / den)
    (hupper : (num / den : ℚ) < 2 ^ 52 * 2 ^ exponent) :
    ofRatio .even negative num den = finite negative (2 ^ 52) exponent := by
  have hpow : (0 : ℚ) < 2 ^ exponent := zpow_pos (by norm_num) _
  have hhalf : (2 : ℚ) ^ exponent = 2 * 2 ^ (exponent - 1) := by
    rw [zpow_sub_one₀ (by norm_num)]
    ring
  rw [hhalf] at hlower hupper
  have hfits : Fits (num / den) (exponent - 1) := by
    refine ⟨by omega, by linarith, .inr ?_⟩
    rw [hhalf] at hpow
    linarith
  have hnearest : Nearest (num / den) (2 ^ 53) (exponent - 1) := by
    constructor
    · push_cast
      exact .inl (by linarith)
    · push_cast
      rcases hlower.lt_or_eq with hlt | heq
      · exact .inl (by linarith)
      · exact .inr ⟨by linarith, by decide⟩
  rw [ofRatio_of_nearest negative hnum hden hfits hnearest, carry_eq, if_pos rfl,
    Int.sub_add_cancel, if_neg (not_lt.mpr hgreatest)]

/-- What is around a number is rounded to it, if the smaller gap below a power of two is
respected. -/
theorem Around.ofRatio (negative : Bool) {num den : Nat} (hnum : 0 < num) (hden : 0 < den)
    (h : (of evenGaps significand exponent).Around (num / den)) (hpos : 0 < significand)
    (hcanonical : Canonical significand exponent)
    (hgap : significand = 2 ^ 52 → exponent = leastExponent ∨ evenGaps < exponent) :
    ofRatio .even negative num den = finite negative significand exponent := by
  have hpow : (0 : ℚ) < 2 ^ exponent := zpow_pos (by norm_num) _
  obtain ⟨hlower, hupper⟩ := h.near hpos
  by_cases hfills : exponent = leastExponent ∨ 2 ^ 52 * 2 ^ exponent ≤ (num / den : ℚ)
  · have hsmall : (significand : ℚ) + 1 ≤ 2 ^ 53 := by exact_mod_cast hcanonical.small
    have hbelow : (num / den : ℚ) < 2 ^ 53 * 2 ^ exponent := by
      have := mul_le_mul_of_nonneg_right hsmall hpow.le
      linarith
    rw [ofRatio_of_nearest negative hnum hden ⟨hcanonical.least, hbelow, hfills⟩ (h.nearest hpos),
      carry_eq, if_neg hcanonical.small.ne, if_neg (not_lt.mpr hcanonical.greatest)]
  · -- The ratio has less bits than the number, so the number is a power of two.
    obtain ⟨hleast, hlt⟩ := not_or.mp hfills
    have hpower : significand = 2 ^ 52 := by
      have hfilled := hcanonical.filled.resolve_left hleast
      have hcast : (significand : ℚ) < 2 ^ 52 + 1 := by
        by_contra hge
        have := mul_le_mul_of_nonneg_right (not_lt.mp hge) hpow.le
        linarith
      have : significand < 2 ^ 52 + 1 := by exact_mod_cast hcast
      omega
    have hclose := h.lower
    rw [least_of _ _ hpos, gapBelow, if_pos ⟨hpower, (hgap hpower).resolve_left hleast⟩] at hclose
    have hcast : (significand : ℚ) = 2 ^ 52 := by exact_mod_cast hpower
    rw [hcast] at hclose
    rw [ofRatio_below_power negative hnum hden (lt_of_le_of_ne hcanonical.least (Ne.symm hleast))
      hcanonical.greatest hclose (not_le.mp hlt), hpower]

end Neighbourhood

end CoffeeHost.Decimal
