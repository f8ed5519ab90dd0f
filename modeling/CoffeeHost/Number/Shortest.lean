import CoffeeHost.Number.Binary64
/-!
# The shortest decimal of a number

The shortest decimal of a finite positive number is the one with the fewest digits among those
that round to the number, and of these the nearest. Decimals with `n` digits lie on a grid; if one
of them rounds to the number then so does one of the two neighbours of the number on that grid, so
only these two are tried. What rounds to a number is what does so when ties go to the even
significand.

A `Selection` holds the decisions that writers make differently: which of two equally near decimals
is taken, and from which exponent on the smaller gap below a power of two is respected.

## Main definitions

* `Decimal` — a coefficient with a power of ten.
* `Selection` — the decisions; `Selection.exact` respects every gap.
* `Decimal.shortest` — the shortest decimal of a significand and an exponent of two.
-/

namespace CoffeeHost

/-- The value `coefficient * 10 ^ exponent`. -/
structure Decimal where
  coefficient : Nat
  exponent : Int
  deriving DecidableEq, Repr, Inhabited

/-- How a shortest decimal is chosen. -/
structure Selection where
  /-- Which of two equally near decimals is taken. -/
  tie : Tie
  /-- The greatest exponent at which the gap below a power of two is taken to be as wide as the gap
  above it. -/
  evenGaps : Int

/-- Only at the least exponent the gaps around a power of two are equal. Ties go to the even
decimal. -/
def Selection.exact : Selection := ⟨.even, Binary64.leastExponent⟩

namespace Decimal

/-- A positive number in quarters of its unit in the last place, with the bounds between which
decimals round to it. -/
structure Neighbourhood where
  /-- Four times the significand. -/
  quarters : Nat
  /-- The exponent of two of one quarter. -/
  exponent : Int
  /-- The lower bound, in quarters. -/
  lower : Nat
  /-- The upper bound, in quarters. -/
  upper : Nat
  /-- Whether the bounds themselves round to the number. -/
  closed : Bool

/-- The neighbourhood of `significand * 2 ^ exponent`. Below a power of two the next number is
only half as far as above it, if the exponent is greater than `evenGaps`. -/
def Neighbourhood.of (evenGaps : Int) (significand : Nat) (exponent : Int) : Neighbourhood where
  quarters := 4 * significand
  exponent := exponent - 2
  lower := 4 * significand -
    (if significand = Nat.pow 2 52 ∧ evenGaps < exponent then 1 else 2)
  upper := 4 * significand + 2
  closed := significand % 2 == 0

/-- A number of quarters measured in steps of `10 ^ grid`, as a ratio. -/
def Neighbourhood.inSteps (b : Neighbourhood) (grid : Int) (quarters : Nat) : Nat × Nat :=
  let binary := Nat.pow 2 b.exponent.natAbs
  let decimal := Nat.pow 10 grid.natAbs
  let num := if b.exponent < 0 then quarters else quarters * binary
  let den := if b.exponent < 0 then binary else 1
  if grid < 0 then (num * decimal, den) else (num, den * decimal)

/-- Whether `step * 10 ^ grid` rounds to the number. -/
def Neighbourhood.holds (b : Neighbourhood) (grid : Int) (step : Nat) : Bool :=
  let (lower, den) := b.inSteps grid b.lower
  let (upper, _) := b.inSteps grid b.upper
  if b.closed then lower ≤ step * den && step * den ≤ upper
  else lower < step * den && step * den < upper

/-- The neighbour of the number on the grid of `10 ^ grid` that rounds to it, if one does; of
two, the nearer. -/
def Neighbourhood.onGrid? (b : Neighbourhood) (tie : Tie) (grid : Int) : Option Nat :=
  let (num, den) := b.inSteps grid b.quarters
  let below := num / den
  match b.holds grid below, b.holds grid (below + 1) with
  | true, true => some (tie.roundQuotient num den)
  | true, false => some below
  | false, true => some (below + 1)
  | false, false => none

/-- How many decimal digits a natural number has; zero has none. -/
def digitCount (n : Nat) : Nat := if n = 0 then 0 else (Nat.toDigits 10 n).length

/-- How many decimal digits the number has before the point; zero or less if it is below one. -/
def Neighbourhood.pointPosition (b : Neighbourhood) : Int :=
  let (num, den) := b.inSteps 0 b.quarters
  if den ≤ num then digitCount (num / den)
  else
    let zeros := digitCount (den / num) - 1
    if num * Nat.pow 10 (zeros + 1) ≥ den then -(zeros : Int) else -(zeros : Int) - 1

/-- Moves the zeros at the end of the coefficient into the exponent. -/
def strip : (fuel : Nat) → Decimal → Decimal
  | 0, d => d
  | fuel + 1, d =>
    if d.coefficient ≠ 0 ∧ d.coefficient % 10 = 0 then
      strip fuel ⟨d.coefficient / 10, d.exponent + 1⟩
    else d

/-- The shortest decimal of a positive `significand * 2 ^ exponent`. Seventeen digits always
suffice. -/
def shortest (selection : Selection) (significand : Nat) (exponent : Int) : Decimal :=
  let b := Neighbourhood.of selection.evenGaps significand exponent
  let point := b.pointPosition
  let found := (List.range 17).findSome? fun n =>
    let grid := point - (n + 1 : Nat)
    (b.onGrid? selection.tie grid).map fun step => strip 20 ⟨step, grid⟩
  found.getD ⟨0, 0⟩

end Decimal

end CoffeeHost
