import CoffeeHost.Json.Value
import CoffeeHost.Number.Numeral
import CoffeeHost.Source.Fragment
import CoffeeHost.Text.Blank
/-!
# Sources and places given as JSON values

Callers may hand over any JSON value as a source or as a place. A place is read from the first
two components of a list or of a text; whatever cannot be read as an integer gives the empty
fragment. A few values have no answer at all, and are refused.

## Main definitions

* `Source.Refusal` — the values without an answer, with the wording of each refusal.
* `Source.linesOf` — the lines of a value; a value that counts as absent has none.
* `Source.coordinate` — the integer that a value stands for.
* `Source.fragmentAt` — the fragment of a value at a place given by a value.
-/

namespace CoffeeHost.Source

open Json (Value)

/-- Why values give no fragment. -/
inductive Refusal
  /-- A coordinate is infinite. -/
  | infiniteCoordinate
  /-- The place is an object, which has no first component. -/
  | keyedPlace
  /-- The source is a value of another kind than text. -/
  | notText (kindName : String)
  deriving DecidableEq, Repr

/-- The wording of a refusal. -/
def Refusal.message : Refusal → String
  | .infiniteCoordinate => "cannot convert float infinity to integer"
  | .keyedPlace => "0"
  | .notText kindName => s!"expected string or bytes-like object, got '{kindName}'"

/-- The lines of a source. A value that counts as absent has no lines. -/
def linesOf : Value → Except Refusal (List String)
  | .text s => .ok (Text.lines s)
  | source => if source.isFalsy then .ok [] else .error (.notText source.kindName)

/-- An ASCII character that may stand around an integer. -/
def isPadding (c : Char) : Bool := c = ' ' || (9 ≤ c.toNat && c.toNat ≤ 13)

/-- Reads white space and digits of all scripts as their ASCII counterparts. -/
def toAscii (c : Char) : Char :=
  if c.toNat < 127 then c
  else if Text.isSpace c then ' '
  else match Text.decimalValue? c with
    | some digit => Char.ofNat (48 + digit)
    | none => '?'

/-- The integer that a text stands for: an optional sign and a numeral, with blanks around. -/
def integerText? (text : String) : Option Int := do
  let (negative, numeral) :=
    Numeral.splitSign (Text.trim isPadding (text.toList.map toAscii))
  let digits ← Numeral.digits? numeral
  guard (digits.length ≤ Numeral.digitLimit)
  return Binary64.signed negative (Numeral.value digits)

/-- The integer that a value stands for, if there is one. Numbers lose their fraction, and truth
values count as one and zero. -/
def coordinate : Value → Except Refusal (Option Int)
  | .integer i => .ok (some i)
  | .boolean b => .ok (some (if b then 1 else 0))
  | .number (.infinite _) => .error .infiniteCoordinate
  | .number x => .ok x.truncate?
  | .text s => .ok (integerText? s)
  | _ => .ok none

/-- A component of a place: an item of a list or a character of a text. -/
def component (place : Value) (index : Nat) : Except Refusal (Option Value) :=
  match place with
  | .array items => .ok items[index]?
  | .text s => .ok (s.toList[index]?.map fun c => .text (String.singleton c))
  | .object _ => .error .keyedPlace
  | _ => .ok none

/-- The integer at a component of a place, if there is one. -/
def componentCoordinate (place : Value) (index : Nat) : Except Refusal (Option Int) := do
  match ← component place index with
  | none => return none
  | some value => coordinate value

/-- The place that a value stands for, if there is one. The column is looked at only if there is
a line. -/
def placeOf (value : Value) : Except Refusal (Option Place) := do
  match ← componentCoordinate value 0 with
  | none => return none
  | some line =>
    return (← componentCoordinate value 1).map fun column => ⟨line, column⟩

/-- The fragment of a source at a place, both given by values. The source is looked at only if
there is a place. -/
def fragmentAt (source place : Value) : Except Refusal String := do
  match ← placeOf place with
  | none => return ""
  | some place => return fragmentOfLines (← linesOf source) place

end CoffeeHost.Source
