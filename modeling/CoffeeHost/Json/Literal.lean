import CoffeeHost.Text.Hex
import CoffeeHost.Text.Utf16
/-!
# JSON string literals

Between double quotes, the quote, the backslash and the control characters are always escaped: by
a letter where there is one, else by four hexadecimal digits. An `Escaping` says which other
characters are escaped too. Characters above U+FFFF are then written as two escaped code units.

## Main definitions

* `Json.Escaping.ascii` — everything beyond visible ASCII is escaped.
* `Json.Escaping.separators` — the line and paragraph separators are escaped.
* `Json.literal` — the string literal of a text.
-/

namespace CoffeeHost.Json

/-- Which characters are escaped besides the quote, the backslash and the control characters. -/
abbrev Escaping := Char → Bool

/-- Escapes everything beyond the characters of ASCII that show something. -/
def Escaping.ascii : Escaping := fun c => 0x7E < c.toNat

/-- Escapes U+2028 and U+2029, which old script engines take for line breaks. -/
def Escaping.separators : Escaping := fun c => c.toNat == 0x2028 || c.toNat == 0x2029

/-- A code unit written with four hexadecimal digits. -/
def unitEscape (unit : Nat) : List Char := '\\' :: 'u' :: Text.hexDigits 4 unit

/-- A character as escaped code units: one, or two above U+FFFF. -/
def charEscape (c : Char) : List Char := (Text.codeUnits c).flatMap unitEscape

/-- The characters that a literal shows for one character of the text. -/
def literalChar (escaping : Escaping) (c : Char) : List Char :=
  if c = '"' then ['\\', '"']
  else if c = '\\' then ['\\', '\\']
  else if c = '\n' then ['\\', 'n']
  else if c = '\r' then ['\\', 'r']
  else if c = '\t' then ['\\', 't']
  else if c = '\x08' then ['\\', 'b']
  else if c = '\x0c' then ['\\', 'f']
  else if c.toNat < 0x20 || escaping c then charEscape c
  else [c]

/-- The characters of the string literal of a text. -/
def literalChars (escaping : Escaping) (text : List Char) : List Char :=
  '"' :: text.flatMap (literalChar escaping) ++ ['"']

/-- The string literal of a text. -/
def literal (escaping : Escaping) (text : String) : String :=
  String.ofList (literalChars escaping text.toList)

end CoffeeHost.Json
