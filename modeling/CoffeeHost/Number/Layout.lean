import CoffeeHost.Number.Shortest
/-!
# Number texts

A number is written with its shortest decimal. A `Layout` says which numbers are written
positionally and which with an exponent, and how the special numbers look.

## Main definitions

* `Layout` — the decisions of one way of writing numbers.
* `Layout.pointed` — whole numbers keep a point and a zero.
* `Layout.plain` — whole numbers look like integers.
* `Layout.render` — the text of a number.
-/

namespace CoffeeHost

/-- The decisions of one way of writing numbers. -/
structure Layout where
  /-- The least position of the point, relative to the first digit, that is written positionally. -/
  leastPoint : Int
  /-- The greatest such position. -/
  greatestPoint : Int
  /-- What follows a whole number that is written positionally. -/
  wholeMark : String
  /-- The least number of digits of an exponent. -/
  exponentWidth : Nat
  /-- Whether the sign of a zero is written. -/
  signedZero : Bool
  /-- Which shortest decimal is written. -/
  selection : Selection

namespace Layout

/-- Whole numbers keep a point and a zero; from `1e+16` on and below `0.0001` there is an
exponent of at least two digits. -/
def pointed : Layout := ⟨-3, 16, ".0", 2, true, .exact⟩

/-- Whole numbers look like integers; from `1e+21` on and below `0.000001` there is an exponent. A
tie goes to the greater decimal, and powers of two up to `2 ^ -970` may lose a digit. -/
def plain : Layout := ⟨-5, 21, "", 1, false, ⟨.away, -1022⟩⟩

/-- A natural number with zeros in front, up to a width. -/
def padded (width n : Nat) : String :=
  let digits := n.repr
  "".pushn '0' (width - digits.length) ++ digits

/-- An exponent with its sign. -/
def exponentText (layout : Layout) (exponent : Int) : String :=
  (if exponent < 0 then "e-" else "e+") ++ padded layout.exponentWidth exponent.natAbs

/-- The text of a positive decimal: its digits, with zeros, a point and an exponent as needed. -/
def magnitude (layout : Layout) (d : Decimal) : String :=
  let digits := (Nat.toDigits 10 d.coefficient)
  let point := d.exponent + digits.length
  if point < layout.leastPoint ∨ layout.greatestPoint < point then
    let tail := digits.drop 1
    String.ofList (digits.take 1 ++ if tail.isEmpty then [] else '.' :: tail)
      ++ layout.exponentText (point - 1)
  else if point ≤ 0 then
    "0." ++ "".pushn '0' point.natAbs ++ String.ofList digits
  else if 0 ≤ d.exponent then
    String.ofList digits ++ "".pushn '0' d.exponent.natAbs ++ layout.wholeMark
  else
    String.ofList (digits.take point.natAbs) ++ "." ++ String.ofList (digits.drop point.natAbs)

/-- The text of a finite number. A whole number of at most 53 bits is its own shortest decimal,
and is written with all its digits. -/
def finite (layout : Layout) (negative : Bool) (significand : Nat) (exponent : Int) : String :=
  let (n, d) := Binary64.scaleRatio significand 1 (-exponent)
  let sign := if negative && (significand ≠ 0 || layout.signedZero) then "-" else ""
  if n % d = 0 ∧ n / d < Nat.pow 2 53 then sign ++ (n / d).repr ++ layout.wholeMark
  else sign ++ layout.magnitude (.shortest layout.selection significand exponent)

/-- The text of a number. -/
def render (layout : Layout) : Binary64 → String
  | .nan => "NaN"
  | .infinite negative => if negative then "-Infinity" else "Infinity"
  | .finite negative significand exponent => layout.finite negative significand exponent

end Layout

end CoffeeHost
