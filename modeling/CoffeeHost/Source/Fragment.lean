import CoffeeHost.Text.Lines
/-!
# Source fragments

A fragment shows the lines around a place in a source text, numbered, with a caret under the
place. Lines and columns count from one. A place outside the text has no fragment.

## Main definitions

* `Source.Place` — a line and a column.
* `Source.rows` — the rows of the fragment at a place.
* `Source.fragment` — the fragment as a text.
-/

namespace CoffeeHost.Source

/-- A place in a source text: a line and a column, both counted from one. -/
structure Place where
  line : Int
  column : Int
  deriving DecidableEq, Repr

/-- How many lines are shown before and after the line of a place. -/
def contextLines : Nat := 2

/-- What stands in front of a line: its number, right-justified to a width. -/
def rowLabel (width number : Nat) : String :=
  let digits := number.repr
  "Line " ++ "".pushn ' ' (width - digits.length) ++ digits ++ ": "

/-- The row under the line of a place: dashes up to the column, and a caret. -/
def markerRow (label : String) (column : Nat) : String :=
  "".pushn '-' (label.length + column - 1) ++ "^"

/-- Whether a column lies in a line or right after its end. -/
def inLine (line : String) (column : Int) : Bool :=
  0 < column && column ≤ line.length + 1

/-- The rows of a window of lines, the first of which has the given number. The marker stands
under the line of the place, if its column lies in that line. -/
def windowRows (width : Nat) (place : Place) : (number : Nat) → List String → List String
  | _, [] => []
  | number, line :: rest =>
    let label := rowLabel width number
    let marker :=
      if place.line = number ∧ inLine line place.column then
        [markerRow label place.column.toNat]
      else []
    (label ++ line) :: marker ++ windowRows width place (number + 1) rest

/-- The rows of the fragment at a place: the line of the place with its context, and the marker.
There are none if the line is not in the text. -/
def rows (lines : List String) (place : Place) : List String :=
  if place.line ≤ 0 ∨ lines.length < place.line then []
  else
    let target := place.line.toNat
    let first := max 1 (target - contextLines)
    let last := min lines.length (target + contextLines)
    windowRows last.repr.length place first ((lines.drop (first - 1)).take (last + 1 - first))

/-- The fragment of some lines at a place, empty if the line is not among them. -/
def fragmentOfLines (lines : List String) (place : Place) : String :=
  "\n".intercalate (rows lines place)

/-- The fragment of a source text at a place. -/
def fragment (source : String) (place : Place) : String :=
  fragmentOfLines (Text.lines source) place

end CoffeeHost.Source
