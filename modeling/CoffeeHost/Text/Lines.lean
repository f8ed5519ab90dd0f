/-!
# Lines of a text

A *line break* is a carriage return with a line feed, a carriage return alone, or a line feed
alone; no other character breaks a line. `Text.lines` cuts a text at its line breaks, and
`Text.normalizeBreaks` writes every line break as a line feed, which is how text files are read.

## Main definitions

* `Text.cutLines` — the lines of a list of characters, at least one.
* `Text.lines` — the lines of a text; the empty text has none.
* `Text.normalizeBreaks` — every line break becomes a line feed.
-/

namespace CoffeeHost.Text

/-- Puts a character in front of the first of some lines. -/
def consFirst (c : Char) : List (List Char) → List (List Char)
  | [] => [[c]]
  | line :: rest => (c :: line) :: rest

/-- Cuts at every line break, a carriage return with a line feed being one break. The result
has one line more than there are breaks. -/
def cutLines : List Char → List (List Char)
  | [] => [[]]
  | '\r' :: '\n' :: rest => [] :: cutLines rest
  | '\r' :: rest => [] :: cutLines rest
  | '\n' :: rest => [] :: cutLines rest
  | c :: rest => consFirst c (cutLines rest)

/-- The lines of a text. The empty text has no lines; any other text has one line more than it
has line breaks. -/
def lines (text : String) : List String :=
  if text.isEmpty then [] else (cutLines text.toList).map String.ofList

/-- Writes every line break as a line feed. -/
def normalizeBreaks : List Char → List Char
  | [] => []
  | '\r' :: '\n' :: rest => '\n' :: normalizeBreaks rest
  | '\r' :: rest => '\n' :: normalizeBreaks rest
  | c :: rest => c :: normalizeBreaks rest

end CoffeeHost.Text
