import CoffeeHost.Text.DecimalDigit
/-!
# Numerals

A numeral is a row of decimal digits in which one underscore may stand between two digits.

## Main definitions

* `Numeral.digits?` — the digits of a numeral.
* `Numeral.value` — the number that digits denote.
* `Numeral.digitLimit` — how many digits a numeral may have where numerals are limited.
-/

namespace CoffeeHost.Numeral

/-- The digits of a numeral: at least one digit, with at most one underscore between neighbours
and none at either end. -/
def digits? : List Char → Option (List Nat)
  | [] => none
  | [c] => (Text.asciiDigit? c).map ([·])
  | c :: '_' :: d :: rest => do return (← Text.asciiDigit? c) :: (← digits? (d :: rest))
  | c :: d :: rest => do return (← Text.asciiDigit? c) :: (← digits? (d :: rest))

/-- The number that decimal digits denote, the most significant first. -/
def value (digits : List Nat) : Nat :=
  digits.foldl (fun n d => 10 * n + d) 0

/-- Longer numerals are refused where the time to convert them must stay bounded. -/
def digitLimit : Nat := 4300

/-- Splits a sign off: whether it is a minus, and what follows. -/
def splitSign : List Char → Bool × List Char
  | '-' :: rest => (true, rest)
  | '+' :: rest => (false, rest)
  | text => (false, text)

end CoffeeHost.Numeral
