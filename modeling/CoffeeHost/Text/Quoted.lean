import CoffeeHost.Text.Hex
import CoffeeHost.Text.Printable
/-!
# Quoted texts

A text is shown between single quotes, or between double quotes if it holds a single quote and no
double quote. The chosen quote and the backslash take a backslash; characters that do not print
are written by their code point.

## Main definitions

* `Text.quoted` — the quoted form of a text.
-/

namespace CoffeeHost.Text

/-- The quote around a text: single, unless only single quotes occur in it. -/
def quoteOf (text : List Char) : Char :=
  if text.contains '\'' && !text.contains '"' then '"' else '\''

/-- A code point with as few of two, four or eight hexadecimal digits as hold it. -/
def codePointEscape (c : Char) : List Char :=
  if c.toNat < 0x100 then '\\' :: 'x' :: hexDigits 2 c.toNat
  else if c.toNat < 0x10000 then '\\' :: 'u' :: hexDigits 4 c.toNat
  else '\\' :: 'U' :: hexDigits 8 c.toNat

/-- The form of one character between the given quotes. -/
def quotedChar (quote c : Char) : List Char :=
  if c = quote || c = '\\' then ['\\', c]
  else if c = '\t' then ['\\', 't']
  else if c = '\n' then ['\\', 'n']
  else if c = '\r' then ['\\', 'r']
  else if isPrintable c then [c]
  else codePointEscape c

/-- The quoted form of a text. -/
def quoted (text : String) : String :=
  let chars := text.toList
  let quote := quoteOf chars
  String.ofList (quote :: chars.flatMap (quotedChar quote) ++ [quote])

end CoffeeHost.Text
