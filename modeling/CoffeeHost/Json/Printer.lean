import CoffeeHost.Json.Literal
import CoffeeHost.Json.Value
import CoffeeHost.Number.Layout
/-!
# Printing JSON values

A `Style` holds the decisions of one way of printing: the separators, the indentation, the
escaping of strings and the layout of numbers.

## Main definitions

* `Json.Style` — the decisions; `Json.Style.compact`, `Json.Style.spaced`, `Json.Style.indented`,
  `Json.Style.script`.
* `Json.Value.print` — the text of a value.
-/

namespace CoffeeHost.Json

/-- The decisions of one way of printing values. -/
structure Style where
  /-- What stands between two items, before a line break if there is indentation. -/
  itemSeparator : String
  /-- What stands between a key and its value. -/
  keySeparator : String
  /-- By how many spaces each level is indented; `none` prints everything on one line. -/
  indent : Option Nat
  /-- Which characters of a string are escaped. -/
  escaping : Escaping
  /-- How numbers are written. -/
  layout : Layout

namespace Style

/-- No blanks, plain ASCII. -/
def compact : Style := ⟨",", ":", none, .ascii, .pointed⟩

/-- A space after each separator, plain ASCII. -/
def spaced : Style := ⟨", ", ": ", none, .ascii, .pointed⟩

/-- One item on each line, indented by two spaces, plain ASCII. -/
def indented : Style := ⟨",", ": ", some 2, .ascii, .pointed⟩

/-- No blanks, plain but for the separators that script engines take for line breaks, and numbers
without a point where possible: how scripts print values. -/
def script : Style := ⟨",", ":", none, .separators, .plain⟩

/-- The break between items at a level, nothing if all stands on one line. -/
def lineBreak (style : Style) (level : Nat) : String :=
  match style.indent with
  | none => ""
  | some width => "\n" ++ "".pushn ' ' (width * level)

/-- Items between brackets. Empty brackets stay together. -/
def enclose (style : Style) (level : Nat) (opening closing : String) (items : List String) :
    String :=
  if items.isEmpty then opening ++ closing
  else
    opening ++ style.lineBreak (level + 1)
      ++ (style.itemSeparator ++ style.lineBreak (level + 1)).intercalate items
      ++ style.lineBreak level ++ closing

end Style

mutual

/-- The text of a value that stands at a level of nesting. -/
def Value.printAt (style : Style) (level : Nat) : Value → String
  | .null => "null"
  | .boolean b => if b then "true" else "false"
  | .integer i => i.repr
  | .number x => style.layout.render x
  | .text s => literal style.escaping s
  | .array items => style.enclose level "[" "]" (printItems style (level + 1) items)
  | .object members => style.enclose level "\x7b" "\x7d" (printMembers style (level + 1) members)

/-- The texts of the items of an array. -/
def printItems (style : Style) (level : Nat) : List Value → List String
  | [] => []
  | item :: rest => item.printAt style level :: printItems style level rest

/-- The texts of the members of an object. -/
def printMembers (style : Style) (level : Nat) : List (String × Value) → List String
  | [] => []
  | (key, value) :: rest =>
    (literal style.escaping key ++ style.keySeparator ++ value.printAt style level)
      :: printMembers style level rest

end

/-- The text of a value. -/
def Value.print (style : Style) (value : Value) : String := value.printAt style 0

end CoffeeHost.Json
