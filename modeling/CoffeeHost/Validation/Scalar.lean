import CoffeeHost.Number.Numeral
import CoffeeHost.Text.Blank
import CoffeeHost.Validation.Basic
/-!
# Scalars of a checked value

Each function reads one kind of scalar leniently: integers also from truth values, whole numbers
and texts, truth values also from one, zero and a few words.

## Main definitions

* `Validation.text`, `Validation.optionalText`
* `Validation.integer` — with `Validation.integerOfText` for texts.
* `Validation.truth` — truth values; `Validation.alwaysTrue` — a value equal to true.
-/

namespace CoffeeHost.Validation

open Json (Value)

/-- A text. -/
def text : Value → Except Rule String
  | .text s => .ok s
  | _ => .error .text

/-- A text or null. -/
def optionalText : Value → Except Rule (Option String)
  | .null => .ok none
  | value => (text value).map some

/-- Splits off a fraction of zeros, a point with at least one zero after it, if there is one. -/
def dropZeroFraction (numeral : List Char) : List Char :=
  let (whole, tail) := numeral.span (· ≠ '.')
  match tail with
  | '.' :: '0' :: zeros => if zeros.all (· == '0') then whole else numeral
  | _ => numeral

/-- The digits behind a minus that follows leading zeros: a numeral without leading zeros of its
own, before which an underscore may stand. -/
def innerDigits? (tail : List Char) : Option (List Nat) := do
  let digits ← Numeral.digits? (if tail.head? = some '_' then tail.tail else tail)
  guard (digits = [0] ∨ digits.head? ≠ some 0)
  return digits

/-- Whether a numeral holds a minus, and its digits. It may begin with zeros, among which any number
of underscores may stand together; elsewhere only one may stand between two digits. A minus may
stand behind the leading zeros. -/
def numeralDigits? (numeral : List Char) : Option (Bool × List Nat) :=
  match numeral with
  | '0' :: rest =>
    match rest.dropWhile fun c => c = '0' ∨ c = '_' with
    | [] => if numeral.getLast? = some '0' then some (false, []) else none
    | '-' :: tail => (innerDigits? tail).map (true, ·)
    | significant => (Numeral.digits? significant).map (false, ·)
  | _ => (Numeral.digits? numeral).map (false, ·)

/-- Whether a text begins with an integer of too many digits, written without a plus, leading
zeros, underscores or white space. -/
def beginsTooLong (text : List Char) : Bool :=
  let unsigned := match text with
    | '-' :: rest => rest
    | _ => text
  unsigned.head? ≠ some '0' && Numeral.digitLimit < (unsigned.takeWhile Char.isDigit).length

/-- The integer that a text stands for: an optional sign, a numeral, and a fraction of zeros, with
white space around. There is at most one minus. The number of digits is limited; only where the
digits are plain does the complaint say so. -/
def integerOfText (s : String) : Except Rule Int :=
  if beginsTooLong s.toList then .error .integerSize
  else
    let (negative, unsigned) := Numeral.splitSign (Text.trim Text.isSpace s.toList)
    match numeralDigits? (dropZeroFraction unsigned) with
    | none => .error .integerText
    | some (innerMinus, digits) =>
      if negative && innerMinus || Numeral.digitLimit < digits.length then .error .integerText
      else .ok (Binary64.signed (negative || innerMinus) (Numeral.value digits))

/-- One more than the greatest integer of 64 bits. -/
def integerBound : Int := 0x8000000000000000

/-- The integer that a number stands for: a whole number strictly between the bounds of 64 bits. -/
def integerOfNumber (x : Binary64) : Except Rule Int :=
  match x.truncate? with
  | none => .error .finiteNumber
  | some i =>
    if !x.isWhole then .error .wholeNumber
    else if -integerBound < i ∧ i < integerBound then .ok i
    else .error .integerSize

/-- An integer. -/
def integer : Value → Except Rule Int
  | .integer i => .ok i
  | .boolean b => .ok (if b then 1 else 0)
  | .number x => integerOfNumber x
  | .text s => integerOfText s
  | _ => .error .integer

/-- An integer between two bounds. -/
def integerBetween (least greatest : Int) (value : Value) : Except Rule Int := do
  let i ← integer value
  if i < least then throw (.atLeast least)
  if greatest < i then throw (.atMost greatest)
  return i

/-- The words for true. -/
def trueWords : List String := ["1", "on", "t", "true", "y", "yes"]

/-- The words for false. -/
def falseWords : List String := ["0", "off", "f", "false", "n", "no"]

/-- The truth value of zero and one. -/
def truthOfInteger (i : Int) : Except Rule Bool :=
  if i = 0 then .ok false else if i = 1 then .ok true else .error .truthText

/-- A truth value. Integers beyond 64 bits and numbers that are not whole are of no kind that can
be one. -/
def truth : Value → Except Rule Bool
  | .boolean b => .ok b
  | .integer i =>
    if -integerBound ≤ i ∧ i < integerBound then truthOfInteger i else .error .truthValue
  | .number x =>
    match integerOfNumber x with
    | .ok i => truthOfInteger i
    | .error _ => .error .truthValue
  | .text s =>
    let word := s.map Char.toLower
    if trueWords.contains word then .ok true
    else if falseWords.contains word then .ok false
    else .error .truthText
  | _ => .error .truthValue

/-- A value that equals true. -/
def alwaysTrue : Value → Except Rule Unit
  | .boolean true => .ok ()
  | .integer 1 => .ok ()
  | .number x => if x = Binary64.ofInt 1 then .ok () else .error .alwaysTrue
  | _ => .error .alwaysTrue

end CoffeeHost.Validation
