import CoffeeHost.Json.Value
import CoffeeHost.Number.Numeral
/-!
# Parts that all readers of JSON share

## Main definitions

* `Json.skipBlanks` — what follows the blanks between tokens.
* `Json.shortEscape?` — the escapes of one letter.
* `Json.NumberText` — the parts of a number and the value they make.
* `Json.readFraction`, `Json.readExponent` — the optional parts of a number.
-/

namespace CoffeeHost.Json

/-- The four characters that may stand between tokens. -/
def isBlank (c : Char) : Bool := c = ' ' || c = '\t' || c = '\n' || c = '\r'

/-- What follows the blanks at the beginning of a text. -/
def skipBlanks (text : List Char) : List Char := text.dropWhile isBlank

/-- The code point that a letter after a backslash stands for. -/
def shortEscape? : Char → Option Nat
  | '"' => some 0x22
  | '\\' => some 0x5C
  | '/' => some 0x2F
  | 'b' => some 0x08
  | 'f' => some 0x0C
  | 'n' => some 0x0A
  | 'r' => some 0x0D
  | 't' => some 0x09
  | _ => none

/-- The parts of a number: its sign, the digits before and after the point, and the exponent. -/
structure NumberText where
  negative : Bool
  whole : List Char
  fraction : Option (List Char)
  exponent : Option Int
  deriving Repr

/-- The number that some ASCII digits denote. -/
def digitsValue (digits : List Char) : Nat :=
  Numeral.value (digits.map fun c => c.toNat - 48)

/-- The value of a number: an integer if it has neither fraction nor exponent. -/
def NumberText.value (n : NumberText) : Value :=
  match n.fraction, n.exponent with
  | none, none => .integer (Binary64.signed n.negative (digitsValue n.whole))
  | fraction, exponent =>
    let fraction := fraction.getD []
    .number (Binary64.ofDecimal .even n.negative (digitsValue (n.whole ++ fraction))
      (exponent.getD 0 - fraction.length))

/-- A fraction, if a point with a digit after it comes next, and what follows. -/
def readFraction : List Char → Option (List Char) × List Char
  | '.' :: rest =>
    let (digits, after) := rest.span Char.isDigit
    if digits.isEmpty then (none, '.' :: rest) else (some digits, after)
  | text => (none, text)

/-- An exponent, if its letter with a digit after it comes next, and what follows. A sign may
stand between letter and digits. -/
def readExponent (text : List Char) : Option Int × List Char :=
  match text with
  | [] => (none, [])
  | letter :: rest =>
    if letter = 'e' || letter = 'E' then
      let (negative, rest) := Numeral.splitSign rest
      let (digits, after) := rest.span Char.isDigit
      if digits.isEmpty then (none, text)
      else (some (Binary64.signed negative (digitsValue digits)), after)
    else (none, text)

end CoffeeHost.Json
