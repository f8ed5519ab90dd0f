import CoffeeHost.Text.Hex
/-!
# UTF-8 texts

`Text.decodeUtf8` reads bytes as UTF-8 and reports the first ill-formed sequence with its place
and the reason: a byte that starts no character, a sequence broken off by a byte that cannot
continue it, or the end of the data inside a sequence.

## Main definitions

* `Text.Utf8Error` — where and why bytes are not UTF-8, with its wording.
* `Text.decodeUtf8` — the characters of some bytes.
-/

namespace CoffeeHost.Text

/-- Why a byte sequence is not UTF-8. -/
inductive Utf8Flaw
  /-- The byte begins no character. -/
  | startByte
  /-- A byte stands where the character begun before it cannot go on. -/
  | continuationByte
  /-- The data ends inside a character. -/
  | endOfData
  deriving DecidableEq, Repr

/-- The wording of a flaw. -/
def Utf8Flaw.message : Utf8Flaw → String
  | .startByte => "invalid start byte"
  | .continuationByte => "invalid continuation byte"
  | .endOfData => "unexpected end of data"

/-- The first ill-formed sequence of some bytes: its flaw, its place, its first byte, and how many
bytes it spans. -/
structure Utf8Error where
  flaw : Utf8Flaw
  position : Nat
  firstByte : Nat
  count : Nat
  deriving DecidableEq, Repr

/-- The wording of an error. A single byte is shown, several are located by first and last. -/
def Utf8Error.message (e : Utf8Error) : String :=
  let subject :=
    if e.count = 1 then
      s!"byte 0x{String.ofList (hexDigits 2 e.firstByte)} in position {e.position}"
    else s!"bytes in position {e.position}-{e.position + e.count - 1}"
  s!"'utf-8' codec can't decode {subject}: {e.flaw.message}"

/-- What a first byte announces: how many bytes follow it, its share of the code point, and the
range of the byte after it. -/
structure Utf8Lead where
  following : Nat
  share : Nat
  least : Nat
  greatest : Nat

/-- The announcement of a first byte above `0x7F`. -/
def Utf8Lead.ofByte? (b : Nat) : Option Utf8Lead :=
  if 0xC2 ≤ b ∧ b ≤ 0xDF then some ⟨1, b - 0xC0, 0x80, 0xBF⟩
  else if b = 0xE0 then some ⟨2, 0, 0xA0, 0xBF⟩
  else if b = 0xED then some ⟨2, 0xD, 0x80, 0x9F⟩
  else if 0xE1 ≤ b ∧ b ≤ 0xEF then some ⟨2, b - 0xE0, 0x80, 0xBF⟩
  else if b = 0xF0 then some ⟨3, 0, 0x90, 0xBF⟩
  else if 0xF1 ≤ b ∧ b ≤ 0xF3 then some ⟨3, b - 0xF0, 0x80, 0xBF⟩
  else if b = 0xF4 then some ⟨3, 4, 0x80, 0x8F⟩
  else none

/-- A character that is still being read: its code point so far, how many bytes it still needs,
the range of the next one, its first byte, and how many bytes have been read. -/
structure Utf8Pending where
  share : Nat
  following : Nat
  least : Nat
  greatest : Nat
  firstByte : Nat
  count : Nat

/-- Reads bytes from a position on, between characters (`none`) or inside one. -/
def decodeUtf8From : Option Utf8Pending → (position : Nat) → List UInt8 →
    Except Utf8Error (List Char)
  | none, _, [] => .ok []
  | some p, position, [] => .error ⟨.endOfData, position - p.count, p.firstByte, p.count⟩
  | none, position, byte :: rest =>
    let b := byte.toNat
    if b < 0x80 then (decodeUtf8From none (position + 1) rest).map (Char.ofNat b :: ·)
    else match Utf8Lead.ofByte? b with
      | none => .error ⟨.startByte, position, b, 1⟩
      | some l =>
        decodeUtf8From (some ⟨l.share, l.following, l.least, l.greatest, b, 1⟩) (position + 1) rest
  | some p, position, byte :: rest =>
    let b := byte.toNat
    if p.least ≤ b ∧ b ≤ p.greatest then
      let share := 64 * p.share + (b - 0x80)
      if p.following ≤ 1 then
        (decodeUtf8From none (position + 1) rest).map (Char.ofNat share :: ·)
      else
        decodeUtf8From (some ⟨share, p.following - 1, 0x80, 0xBF, p.firstByte, p.count + 1⟩)
          (position + 1) rest
    else .error ⟨.continuationByte, position - p.count, p.firstByte, p.count⟩

/-- The characters of some bytes. -/
def decodeUtf8 (bytes : List UInt8) : Except Utf8Error (List Char) :=
  decodeUtf8From none 0 bytes

end CoffeeHost.Text
