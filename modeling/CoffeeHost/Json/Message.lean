import CoffeeHost.Json.Scan
import CoffeeHost.Text.Hex
import CoffeeHost.Text.Utf16
/-!
# Reading a JSON message

A message is the text that a script hands over. Its reader is strict about strings, which must be
well-formed UTF-16, and locates the first flaw by line and by column, counted in bytes of UTF-8.

## Main definitions

* `Json.Message.Flaw` — what can be wrong with a message, with its wording.
* `Json.Message.readValue` — one value at the beginning of a text, and what follows it.
* `Json.Message.read` — the value of a whole message, or a located flaw.
-/

namespace CoffeeHost.Json.Message

/-- What can be wrong with the text of a message. -/
inductive Flaw
  | endInValue
  | endInList
  | endInObject
  | endInString
  | valueExpected
  | wordExpected
  | invalidNumber
  | longInteger
  | trailingCharacters
  | listSeparatorExpected
  | objectSeparatorExpected
  | colonExpected
  | keyExpected
  | trailingComma
  | unknownEscape
  | unpairedHigh
  | unpairedLow
  | controlCharacter
  | tooDeep
  deriving DecidableEq, Repr

/-- The wording of a flaw. -/
def Flaw.message : Flaw → String
  | .endInValue => "EOF while parsing a value"
  | .endInList => "EOF while parsing a list"
  | .endInObject => "EOF while parsing an object"
  | .endInString => "EOF while parsing a string"
  | .valueExpected => "expected value"
  | .wordExpected => "expected ident"
  | .invalidNumber => "invalid number"
  | .longInteger => "number out of range"
  | .trailingCharacters => "trailing characters"
  | .listSeparatorExpected => "expected `,` or `]`"
  | .objectSeparatorExpected => "expected `,` or `\x7d`"
  | .colonExpected => "expected `:`"
  | .keyExpected => "key must be a string"
  | .trailingComma => "trailing comma"
  | .unknownEscape => "invalid escape"
  | .unpairedHigh => "unexpected end of hex escape"
  | .unpairedLow => "lone leading surrogate in hex escape"
  | .controlCharacter => "control character (\\u0000-\\u001F) found while parsing a string"
  | .tooDeep => "recursion limit exceeded"

/-- A flaw with the text from its place on. -/
structure Stop where
  flaw : Flaw
  rest : List Char
  deriving Repr

/-- What is read from the beginning of a text, with the text after it. -/
abbrev Reading := Except Stop

/-- The length of a text in UTF-8. -/
def byteCount (text : List Char) : Nat :=
  text.foldl (fun n c => n + c.utf8Size) 0

/-- The flaw of four hexadecimal digits that are not there: the text is too short, or it has
another character among them. -/
def unitStop (text : List Char) : Stop :=
  if byteCount text < 4 then ⟨.endInString, []⟩
  else ⟨.unknownEscape, text.dropWhile fun c => (Text.hexValue? c).isSome⟩

/-- The flaw of a high surrogate that no escape follows. -/
def unpairedStop : (text : List Char) → Stop
  | [] => ⟨.endInString, []⟩
  | ['\\'] => ⟨.endInString, []⟩
  | '\\' :: rest => ⟨.unpairedHigh, rest⟩
  | text => ⟨.unpairedHigh, text⟩

/-- The rest of a string literal, up to the closing quote. -/
def readChars : List Char → Reading (List Char × List Char)
  | [] => .error ⟨.endInString, []⟩
  | c :: rest =>
    if c = '"' then .ok ([], rest)
    else if c = '\\' then
      match rest with
      | [] => .error ⟨.endInString, []⟩
      | 'u' :: a :: b :: c :: d :: after =>
        match Text.hexUnit? a b c d with
        | none => .error (unitStop (a :: b :: c :: d :: after))
        | some unit =>
          if Text.isLowSurrogate unit then .error ⟨.unpairedLow, d :: after⟩
          else if Text.isHighSurrogate unit then
            match after with
            | '\\' :: 'u' :: e :: f :: g :: h :: after =>
              match Text.hexUnit? e f g h with
              | none => .error (unitStop (e :: f :: g :: h :: after))
              | some low =>
                if Text.isLowSurrogate low then
                  (readChars after).map fun (cs, r) => (Text.ofSurrogates unit low :: cs, r)
                else .error ⟨.unpairedLow, h :: after⟩
            | '\\' :: 'u' :: after => .error (unitStop after)
            | _ => .error (unpairedStop after)
          else (readChars after).map fun (cs, r) => (Char.ofNat unit :: cs, r)
      | letter :: after =>
        if letter = 'u' then .error (unitStop after)
        else match shortEscape? letter with
          | some n => (readChars after).map fun (cs, r) => (Char.ofNat n :: cs, r)
          | none => .error ⟨.unknownEscape, rest⟩
    else if c.toNat < 0x20 then .error ⟨.controlCharacter, c :: rest⟩
    else (readChars rest).map fun (cs, r) => (c :: cs, r)

/-- A string literal after its opening quote. -/
def readString (text : List Char) : Reading (String × List Char) :=
  (readChars text).map fun (chars, rest) => (String.ofList chars, rest)

/-- The rest of a word. -/
def readWord (value : Value) : (word text : List Char) → Reading (Value × List Char)
  | [], text => .ok (value, text)
  | _ :: _, [] => .error ⟨.endInValue, []⟩
  | w :: word, c :: text =>
    if w = c then readWord value word text else .error ⟨.wordExpected, c :: text⟩

/-- At least one digit, and what follows. -/
def readDigits (text : List Char) : Reading (List Char × List Char) :=
  match text with
  | [] => .error ⟨.endInValue, []⟩
  | c :: _ => if c.isDigit then .ok (text.span Char.isDigit) else .error ⟨.invalidNumber, text⟩

/-- The whole part of a number, which begins with a zero only if it is zero. -/
def readWhole (text : List Char) : Reading (List Char × List Char) :=
  match text with
  | '0' :: c :: rest =>
    if c.isDigit then .error ⟨.invalidNumber, c :: rest⟩ else .ok (['0'], c :: rest)
  | _ => readDigits text

/-- A fraction, if a point comes next, and what follows. -/
def readFraction : List Char → Reading (Option (List Char) × List Char)
  | '.' :: rest => (readDigits rest).map fun (digits, r) => (some digits, r)
  | text => .ok (none, text)

/-- An exponent, if its letter comes next, and what follows. -/
def readExponent : List Char → Reading (Option Int × List Char)
  | [] => .ok (none, [])
  | letter :: rest =>
    if letter = 'e' || letter = 'E' then
      let (negative, rest) := Numeral.splitSign rest
      (readDigits rest).map fun (digits, r) =>
        (some (Binary64.signed negative (digitsValue digits)), r)
    else .ok (none, letter :: rest)

/-- A number at the beginning of a text. -/
def readNumber (text : List Char) : Reading (Value × List Char) := do
  let (negative, unsigned) :=
    match text with
    | '-' :: rest => (true, rest)
    | _ => (false, text)
  let (whole, rest) ← readWhole unsigned
  if Numeral.digitLimit < whole.length then
    throw ⟨.longInteger, unsigned.drop (Numeral.digitLimit + 1)⟩
  let (fraction, rest) ← readFraction rest
  let (exponent, rest) ← readExponent rest
  return ((NumberText.mk negative whole fraction exponent).value, rest)

/-- A value that is no string, array or object. -/
def readScalar (text : List Char) : Reading (Value × List Char) :=
  match text with
  | [] => .error ⟨.endInValue, []⟩
  | 't' :: rest => readWord (.boolean true) ['r', 'u', 'e'] rest
  | 'f' :: rest => readWord (.boolean false) ['a', 'l', 's', 'e'] rest
  | 'n' :: rest => readWord .null ['u', 'l', 'l'] rest
  | 'N' :: rest => readWord (.number .nan) ['a', 'N'] rest
  | 'I' :: rest => readWord (.number (.infinite false)) "nfinity".toList rest
  | '-' :: 'I' :: rest => readWord (.number (.infinite true)) "nfinity".toList rest
  | c :: _ =>
    if c = '-' || c.isDigit then readNumber text else .error ⟨.valueExpected, text⟩

/-- How many containers a value may stand in. -/
def depthLimit : Nat := 200

mutual

/-- One value at the beginning of a text, inside `depth` containers. Each step uses up fuel, of
which two units for each character are enough. -/
def readValue : (fuel depth : Nat) → List Char → Reading (Value × List Char)
  | 0, _, text => .error ⟨.valueExpected, text⟩
  | fuel + 1, depth, text =>
    if depthLimit < depth ∧ text ≠ [] then .error ⟨.tooDeep, text⟩
    else match text with
    | '"' :: rest => (readString rest).map fun (s, r) => (.text s, r)
    | '[' :: rest =>
      match skipBlanks rest with
      | [] => .error ⟨.endInList, []⟩
      | ']' :: after => .ok (.array [], after)
      | items => (readItems fuel (depth + 1) items).map fun (vs, r) => (.array vs, r)
    | '\x7b' :: rest =>
      match skipBlanks rest with
      | [] => .error ⟨.endInObject, []⟩
      | '\x7d' :: after => .ok (.object [], after)
      | members =>
        (readMembers fuel (depth + 1) members).map fun (ms, r) =>
          (.object (Members.ofPairs ms), r)
    | text => readScalar text

/-- The items of an array up to its closing bracket. -/
def readItems : (fuel depth : Nat) → List Char → Reading (List Value × List Char)
  | 0, _, text => .error ⟨.valueExpected, text⟩
  | fuel + 1, depth, text => do
    let (item, rest) ← readValue fuel depth text
    match skipBlanks rest with
    | [] => throw ⟨.endInList, []⟩
    | ']' :: after => return ([item], after)
    | ',' :: after =>
      match skipBlanks after with
      | ']' :: after => throw ⟨.trailingComma, ']' :: after⟩
      | next =>
        let (items, rest) ← readItems fuel depth next
        return (item :: items, rest)
    | rest => throw ⟨.listSeparatorExpected, rest⟩

/-- The members of an object up to its closing brace. -/
def readMembers : (fuel depth : Nat) → List Char → Reading (List (String × Value) × List Char)
  | 0, _, text => .error ⟨.valueExpected, text⟩
  | fuel + 1, depth, text =>
    match text with
    | '"' :: rest => do
      let (key, rest) ← readString rest
      match skipBlanks rest with
      | [] => throw ⟨.endInObject, []⟩
      | ':' :: rest =>
        let (value, rest) ← readValue fuel depth (skipBlanks rest)
        match skipBlanks rest with
        | [] => throw ⟨.endInObject, []⟩
        | '\x7d' :: after => return ([(key, value)], after)
        | ',' :: after =>
          match skipBlanks after with
          | [] => throw ⟨.endInValue, []⟩
          | '\x7d' :: after => throw ⟨.trailingComma, '\x7d' :: after⟩
          | next =>
            let (members, rest) ← readMembers fuel depth next
            return ((key, value) :: members, rest)
        | rest => throw ⟨.objectSeparatorExpected, rest⟩
      | rest => throw ⟨.colonExpected, rest⟩
    | _ => .error ⟨.keyExpected, text⟩

end

/-- A flaw with its line and its column, both counted from one. -/
structure Error where
  flaw : Flaw
  line : Nat
  column : Nat
  deriving DecidableEq, Repr

/-- The wording of a located flaw. -/
def Error.message (e : Error) : String :=
  s!"{e.flaw.message} at line {e.line} column {e.column}"

/-- Locates a flaw in the text that was read. A line feed counts as the beginning of its next
line, and the end of the text is located at the last byte. -/
def locate (text : List Char) (stop : Stop) : Error :=
  let before := text.take (text.length - stop.rest.length)
  let line := 1 + before.count '\n'
  let column := byteCount (before.reverse.takeWhile (· ≠ '\n'))
  match stop.rest with
  | [] => ⟨stop.flaw, line, column⟩
  | c :: _ => if c = '\n' then ⟨stop.flaw, line + 1, 0⟩ else ⟨stop.flaw, line, column + 1⟩

/-- The value of a text, and nothing but blanks around it. -/
def readAll (text : List Char) : Reading Value := do
  let (value, rest) ← readValue (2 * text.length + 2) 0 (skipBlanks text)
  match skipBlanks rest with
  | [] => return value
  | rest => throw ⟨.trailingCharacters, rest⟩

/-- The value of a message. -/
def read (text : String) : Except Error Value :=
  let chars := text.toList
  (readAll chars).mapError (locate chars)

end CoffeeHost.Json.Message
