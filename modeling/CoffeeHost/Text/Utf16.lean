/-!
# UTF-16 code units

A character up to U+FFFF is one code unit, its code point; a character above it is a high
surrogate followed by a low surrogate.

## Main definitions

* `Text.codeUnits` — the code units of a character.
* `Text.ofCodeUnits` — the characters of code units; a surrogate without its partner is replaced.
-/

namespace CoffeeHost.Text

/-- The first half of a surrogate pair. -/
def isHighSurrogate (unit : Nat) : Bool := 0xD800 ≤ unit && unit ≤ 0xDBFF

/-- The second half of a surrogate pair. -/
def isLowSurrogate (unit : Nat) : Bool := 0xDC00 ≤ unit && unit ≤ 0xDFFF

/-- The code units of a character: one, or two above U+FFFF. -/
def codeUnits (c : Char) : List Nat :=
  let n := c.toNat
  if n < 0x10000 then [n] else [0xD800 + (n - 0x10000) / 0x400, 0xDC00 + (n - 0x10000) % 0x400]

/-- The character of a surrogate pair. -/
def ofSurrogates (high low : Nat) : Char :=
  Char.ofNat (0x10000 + 0x400 * (high - 0xD800) + (low - 0xDC00))

/-- The character of a unit that stands alone, the replacement character for a surrogate. -/
def ofLoneUnit (unit : Nat) : Char :=
  if isHighSurrogate unit || isLowSurrogate unit then '\ufffd' else Char.ofNat unit

/-- The characters of code units, or of code points: what is no surrogate stands for itself. -/
def ofCodeUnits : List Nat → List Char
  | [] => []
  | [unit] => [ofLoneUnit unit]
  | high :: low :: rest =>
    if isHighSurrogate high && isLowSurrogate low then ofSurrogates high low :: ofCodeUnits rest
    else ofLoneUnit high :: ofCodeUnits (low :: rest)

end CoffeeHost.Text
