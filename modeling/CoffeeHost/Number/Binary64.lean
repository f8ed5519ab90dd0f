/-!
# Binary floating-point numbers of 64 bits

A number is kept by its exact value, so that every operation is one of natural numbers and
integers: a finite number is a significand times a power of two. `Binary64.ofRatio` rounds a
ratio to the nearest number; all arithmetic and the reading of decimals go through it. Of two
numbers that are equally near, a `Tie` chooses one.

## Main definitions

* `Tie` — which of two equally near numbers is taken.
* `Binary64` — the numbers.
* `Binary64.ofRatio`, `Binary64.ofInt`, `Binary64.ofDecimal` — rounding to a number.
* `Binary64.truncate`, `Binary64.isWhole` — the integer part.
* `Binary64.add` — the rounded sum.
-/

namespace CoffeeHost

/-- Which of two equally near neighbours is taken: the even one, or the one further from zero. -/
inductive Tie
  | even
  | away
  deriving DecidableEq, Repr, Inhabited

namespace Tie

/-- Whether a tie goes to the upper neighbour of a natural number. -/
def goesUp : Tie → (lower : Nat) → Bool
  | even, lower => lower % 2 == 1
  | away, _ => true

/-- The quotient of two natural numbers, rounded to the nearest one. -/
def roundQuotient (tie : Tie) (num den : Nat) : Nat :=
  let quotient := num / den
  let twice := 2 * (num % den)
  if den < twice ∨ (twice = den ∧ tie.goesUp quotient) then quotient + 1 else quotient

end Tie

/-- A binary floating-point number of 64 bits. A finite one has the absolute value
`significand * 2 ^ exponent`; its significand is below `2 ^ 53`, its exponent between `-1074` and
`971`, and the exponent is the least possible unless the significand has all its bits. -/
inductive Binary64
  | nan
  | infinite (negative : Bool)
  | finite (negative : Bool) (significand : Nat) (exponent : Int)
  deriving DecidableEq, Repr, Inhabited

namespace Binary64

/-- The least exponent of a finite number. -/
def leastExponent : Int := -1074

/-- The greatest exponent of a finite number. -/
def greatestExponent : Int := 971

/-- The zero of a sign. -/
def zero (negative : Bool) : Binary64 := .finite negative 0 leastExponent

/-- A ratio divided by a power of two, as a ratio. -/
def scaleRatio (num den : Nat) (exponent : Int) : Nat × Nat :=
  let power := Nat.pow 2 exponent.natAbs
  if exponent < 0 then (num * power, den) else (num, den * power)

/-- The exponent at which the significand of a positive ratio has 53 bits, or the least one. -/
def ratioExponent (num den : Nat) : Int :=
  let estimate := max ((num.log2 : Int) - den.log2 - 53) leastExponent
  let (n, d) := scaleRatio num den estimate
  if n / d < Nat.pow 2 53 then estimate else estimate + 1

/-- The number nearest to a ratio, with the given sign. -/
def ofRatio (tie : Tie) (negative : Bool) (num den : Nat) : Binary64 :=
  if num = 0 then zero negative
  else
    let exponent := ratioExponent num den
    let (n, d) := scaleRatio num den exponent
    let rounded := tie.roundQuotient n d
    let (significand, exponent) :=
      if rounded = Nat.pow 2 53 then (Nat.pow 2 52, exponent + 1) else (rounded, exponent)
    if greatestExponent < exponent then .infinite negative
    else .finite negative significand exponent

/-- The number nearest to an integer, a tie going to the even significand. -/
def ofInt (i : Int) : Binary64 := ofRatio .even (i < 0) i.natAbs 1

/-- The number nearest to `digits * 10 ^ exponent`, with the given sign. Exponents so large or so
small that the result cannot be finite or cannot be positive are told apart first. -/
def ofDecimal (tie : Tie) (negative : Bool) (digits : Nat) (exponent : Int) : Binary64 :=
  if digits = 0 then zero negative
  else if 400 < exponent then .infinite negative
  else if (digits.log2 : Int) + 1080 < -3 * exponent then zero negative
  else if exponent < 0 then ofRatio tie negative digits (Nat.pow 10 exponent.natAbs)
  else ofRatio tie negative (digits * Nat.pow 10 exponent.natAbs) 1

/-- Gives a natural number a sign. -/
def signed (negative : Bool) (n : Nat) : Int := if negative then -n else n

/-- The integer part of a finite number. -/
def truncate? : Binary64 → Option Int
  | .finite negative significand exponent =>
    let (n, d) := scaleRatio significand 1 (-exponent)
    some (signed negative (n / d))
  | _ => none

/-- A finite number without a fraction. -/
def isWhole : Binary64 → Bool
  | .finite _ significand exponent =>
    let (n, d) := scaleRatio significand 1 (-exponent)
    n % d == 0
  | _ => false

/-- A zero of either sign. -/
def isZero : Binary64 → Bool
  | .finite _ significand _ => significand == 0
  | _ => false

/-- The rounded sum, a tie going to the even significand. A sum of zero is negative only if both
numbers are. -/
def add : Binary64 → Binary64 → Binary64
  | .nan, _ => .nan
  | _, .nan => .nan
  | .infinite a, .infinite b => if a == b then .infinite a else .nan
  | .infinite a, .finite .. => .infinite a
  | .finite .., .infinite b => .infinite b
  | .finite a m e, .finite b n f =>
    let least := min e f
    let sum := signed a (m * Nat.pow 2 (e - least).natAbs) +
      signed b (n * Nat.pow 2 (f - least).natAbs)
    if sum = 0 then zero (a && b)
    else
      let (num, den) := scaleRatio sum.natAbs 1 (-least)
      ofRatio .even (sum < 0) num den

end Binary64

end CoffeeHost
