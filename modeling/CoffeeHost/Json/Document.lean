import CoffeeHost.Json.Scan
import CoffeeHost.Text.Hex
import CoffeeHost.Text.Utf16
/-!
# Reading a JSON document

A document is a text that holds one value. Its reader names the flaw that it finds first and the
line where it is. Beyond the standard it takes `NaN`, `Infinity` and `-Infinity` for numbers, and
it bounds the nesting of containers and the digits of an integer.

## Main definitions

* `Json.Flaw` — what can be wrong with a document, with its wording.
* `Json.ReadError` — why a document has no value.
* `Json.readValue` — one value at the beginning of a text, and what follows it.
* `Json.Document.readFront` — one value, with as much fuel as its text can need.
* `Json.Document.read` — the value of a whole document.
-/

namespace CoffeeHost.Json

/-- What can be wrong with the text of a document. -/
inductive Flaw
  | byteOrderMark
  | valueExpected
  | extraData
  | keyExpected
  | colonExpected
  | commaExpected
  | unterminatedString
  | controlCharacter
  | unknownEscape
  | unknownUnit
  deriving DecidableEq, Repr

/-- The wording of a flaw. -/
def Flaw.message : Flaw → String
  | .byteOrderMark => "Unexpected UTF-8 BOM (decode using utf-8-sig)"
  | .valueExpected => "Expecting value"
  | .extraData => "Extra data"
  | .keyExpected => "Expecting property name enclosed in double quotes"
  | .colonExpected => "Expecting ':' delimiter"
  | .commaExpected => "Expecting ',' delimiter"
  | .unterminatedString => "Unterminated string starting at"
  | .controlCharacter => "Invalid control character at"
  | .unknownEscape => "Invalid \\escape"
  | .unknownUnit => "Invalid \\uXXXX escape"

/-- Why reading stopped: at a flaw, with the text from there on, or at a limit. -/
inductive Stop
  | flaw (flaw : Flaw) (rest : List Char)
  | longInteger (digits : Nat)
  | tooDeep
  deriving Repr

/-- What is read from the beginning of a text, with the text after it. -/
abbrev Reading := Except Stop

/-- The rest of a string literal, as code points and code units, up to the closing quote.
`opening` is the text from the opening quote on. -/
def readUnits (opening : List Char) : List Char → Reading (List Nat × List Char)
  | [] => .error (.flaw .unterminatedString opening)
  | c :: rest =>
    if c = '"' then .ok ([], rest)
    else if c = '\\' then
      match rest with
      | [] => .error (.flaw .unterminatedString opening)
      | 'u' :: a :: b :: c :: d :: after =>
        match Text.hexUnit? a b c d, after with
        | some unit, _ :: _ => (readUnits opening after).map fun (us, r) => (unit :: us, r)
        | _, _ => .error (.flaw .unknownUnit rest)
      | letter :: after =>
        if letter = 'u' then .error (.flaw .unknownUnit rest)
        else match shortEscape? letter with
          | some unit => (readUnits opening after).map fun (us, r) => (unit :: us, r)
          | none => .error (.flaw .unknownEscape rest)
    else if c.toNat < 0x20 then .error (.flaw .controlCharacter (c :: rest))
    else (readUnits opening rest).map fun (us, r) => (c.toNat :: us, r)

/-- A string literal after its opening quote. -/
def readString (text : List Char) : Reading (String × List Char) :=
  (readUnits ('"' :: text) text).map fun (units, rest) =>
    (String.ofList (Text.ofCodeUnits units), rest)

/-- The values that are written as words. -/
def words : List (List Char × Value) :=
  [("null".toList, .null), ("true".toList, .boolean true), ("false".toList, .boolean false),
    ("NaN".toList, .number .nan), ("Infinity".toList, .number (.infinite false)),
    ("-Infinity".toList, .number (.infinite true))]

/-- A word at the beginning of a text. -/
def readWord? (text : List Char) : Option (Value × List Char) :=
  words.findSome? fun (word, value) => (word.isPrefixOf? text).map (value, ·)

/-- A number at the beginning of a text. A zero ends its whole part, and a point or the letter of
an exponent belongs to the number only if a digit follows. -/
def readNumber (text : List Char) : Reading (Value × List Char) :=
  let (negative, unsigned) :=
    match text with
    | '-' :: rest => (true, rest)
    | _ => (false, text)
  let (whole, rest) :=
    match unsigned with
    | '0' :: rest => (['0'], rest)
    | _ => unsigned.span Char.isDigit
  if whole.isEmpty then .error (.flaw .valueExpected text)
  else
    let (fraction, rest) := readFraction rest
    let (exponent, rest) := readExponent rest
    if fraction.isNone && exponent.isNone && Numeral.digitLimit < whole.length then
      .error (.longInteger whole.length)
    else .ok ((NumberText.mk negative whole fraction exponent).value, rest)

mutual

/-- One value at the beginning of a text, inside at most `levels` more containers. Each step uses
up fuel, of which two units for each character are enough. -/
def readValue : (fuel levels : Nat) → List Char → Reading (Value × List Char)
  | 0, _, text => .error (.flaw .valueExpected text)
  | fuel + 1, levels, text =>
    match text, levels with
    | '"' :: rest, _ => (readString rest).map fun (s, r) => (.text s, r)
    | '[' :: _, 0 => .error .tooDeep
    | '[' :: rest, levels + 1 =>
      match skipBlanks rest with
      | ']' :: after => .ok (.array [], after)
      | items => (readItems fuel levels items).map fun (vs, r) => (.array vs, r)
    | '\x7b' :: _, 0 => .error .tooDeep
    | '\x7b' :: rest, levels + 1 =>
      match skipBlanks rest with
      | '\x7d' :: after => .ok (.object [], after)
      | members =>
        (readMembers fuel levels members).map fun (ms, r) => (.object (Members.ofPairs ms), r)
    | _, _ =>
      match readWord? text with
      | some reading => .ok reading
      | none => readNumber text

/-- The items of an array up to its closing bracket. -/
def readItems : (fuel levels : Nat) → List Char → Reading (List Value × List Char)
  | 0, _, text => .error (.flaw .valueExpected text)
  | fuel + 1, levels, text => do
    let (item, rest) ← readValue fuel levels text
    match skipBlanks rest with
    | ']' :: after => return ([item], after)
    | ',' :: after =>
      let (items, rest) ← readItems fuel levels (skipBlanks after)
      return (item :: items, rest)
    | rest => .error (.flaw .commaExpected rest)

/-- The members of an object up to its closing brace. -/
def readMembers : (fuel levels : Nat) → List Char → Reading (List (String × Value) × List Char)
  | 0, _, text => .error (.flaw .valueExpected text)
  | fuel + 1, levels, text =>
    match text with
    | '"' :: rest => do
      let (key, rest) ← readString rest
      match skipBlanks rest with
      | ':' :: rest =>
        let (value, rest) ← readValue fuel levels (skipBlanks rest)
        match skipBlanks rest with
        | '\x7d' :: after => return ([(key, value)], after)
        | ',' :: after =>
          let (members, rest) ← readMembers fuel levels (skipBlanks after)
          return ((key, value) :: members, rest)
        | rest => .error (.flaw .commaExpected rest)
      | rest => .error (.flaw .colonExpected rest)
    | _ => .error (.flaw .keyExpected text)

end

/-- Why a document has no value. -/
inductive ReadError
  /-- The text has a flaw on a line, counted from one. -/
  | malformed (flaw : Flaw) (line : Nat)
  /-- An integer has too many digits. -/
  | longInteger (digits : Nat)
  /-- Containers are nested too deeply. -/
  | tooDeep
  deriving DecidableEq, Repr

namespace Document

/-- How deeply the containers of a document may be nested. The reader descends into a container by a
call, and only a thousand calls may be open at once, so the bound depends on how many are open when
the reader is called. The number is that of a caller who is a few calls deep. One nearer to the start
of the program is left with a few more, and a deeper one with fewer. -/
def depthLimit : Nat := 990

/-- The line on which the rest of a text begins. -/
def lineOf (text rest : List Char) : Nat :=
  1 + (text.take (text.length - rest.length)).count '\n'

/-- Locates the stop of a reading in the text that was read. -/
def locate (text : List Char) : Stop → ReadError
  | .flaw flaw rest => .malformed flaw (lineOf text rest)
  | .longInteger digits => .longInteger digits
  | .tooDeep => .tooDeep

/-- One value right at the beginning of a text, and what follows it. -/
def readFront (text : List Char) : Reading (Value × List Char) :=
  readValue (2 * text.length + 2) depthLimit text

/-- The value of a text, and nothing but blanks around it. -/
def readAll (text : List Char) : Except Stop Value := do
  if text.head? = some '\ufeff' then throw (.flaw .byteOrderMark text)
  let (value, rest) ← readFront (skipBlanks text)
  match skipBlanks rest with
  | [] => return value
  | rest => throw (.flaw .extraData rest)

/-- The value of a document. -/
def read (text : List Char) : Except ReadError Value :=
  (readAll text).mapError (locate text)

end Document

end CoffeeHost.Json
