/-!
# Blank characters

Two sets of characters count as blank. `Text.isSpace` is the `White_Space` property of Unicode.
`Text.isBlank` adds the four information separators, U+001C to U+001F, which separate fields of
plain text files.

## Main definitions

* `Text.isSpace`, `Text.isBlank` — the two sets.
* `Text.trim` — drops characters of a set from both ends.
-/

namespace CoffeeHost.Text

/-- The property `White_Space` of Unicode. -/
def isSpace (c : Char) : Bool :=
  let n := c.toNat
  (0x09 ≤ n && n ≤ 0x0D) || n == 0x20 || n == 0x85 || n == 0xA0 || n == 0x1680 ||
    (0x2000 ≤ n && n ≤ 0x200A) || n == 0x2028 || n == 0x2029 || n == 0x202F || n == 0x205F ||
    n == 0x3000

/-- A character that shows nothing: white space or an information separator. -/
def isBlank (c : Char) : Bool :=
  isSpace c || (0x1C ≤ c.toNat && c.toNat ≤ 0x1F)

/-- Drops the characters of a set from both ends. -/
def trim (drops : Char → Bool) (text : List Char) : List Char :=
  ((text.dropWhile drops).reverse.dropWhile drops).reverse

/-- A text whose characters are all blank, the empty text included. -/
def allBlank (text : String) : Bool :=
  text.toList.all isBlank

end CoffeeHost.Text
