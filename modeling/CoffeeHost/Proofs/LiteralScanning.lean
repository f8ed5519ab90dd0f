import Mathlib
import CoffeeHost.Exchange.Call
import CoffeeHost.Proofs.LiteralReading
/-!
# Scanning string literals in scripts

A script knows more escapes than a document, refuses line terminators in its literals, and its
strings are code units of UTF-16. The literal of a text is nevertheless one for a script, too, and
denotes the code units of the text: a scanner that begins at it stops right at its end, whatever
follows, and sees only visible characters on its way.

The scanner goes from one character to the next with a state, which says where in an escape it is.
Editions of the language differ in a few escapes and in which line terminators they refuse. None of
that matters for the literals of texts, which are scanned alike under all rules.

## Main definitions

* `Script.Scanner.Rules` — what the editions differ in.
* `Script.Scanner.step` — what the scanner does at one character.
* `Script.Scanner.read?` — the code units of a literal, and what follows it.

## Main results

* `Script.Scanner.scan_shown` — what a literal shows for one character is scanned as its units.
* `Script.Scanner.literal_is_spliced_safely` — the literal of a text in front of any text.
-/

namespace CoffeeHost.Script.Scanner

/-! ### The scanner -/

/-- What the editions of the language differ in. -/
structure Rules where
  /-- Whether U+2028 and U+2029 may stand in a literal as they are. -/
  separators : Bool
  /-- Whether a code point may be escaped by digits in braces. -/
  braces : Bool
  /-- Whether there are octal escapes. -/
  octal : Bool

/-- Where in a literal the scanner is. -/
inductive State
  /-- Outside of escapes. -/
  | plain
  /-- After a backslash. -/
  | escape
  /-- After an escaped carriage return, to which a line feed may belong. -/
  | lineEnd
  /-- After an escaped zero, which no digit may follow. -/
  | zero
  /-- In an octal escape of some value. After the next digit up to `more` may follow. -/
  | octal (more value : Nat)
  /-- In an escape of hexadecimal digits of some value. After the next digit `more` follow. -/
  | hex (more value : Nat)
  /-- After the letter of an escaped code unit or code point. -/
  | unit
  /-- Between braces, after digits of some value or right at the beginning. -/
  | braces (value : Option Nat)
  deriving DecidableEq, Repr

/-- What the scanner does at a character. -/
inductive Step
  /-- It goes on, with some more code units. -/
  | next (state : State) (units : List Nat)
  /-- The literal ends, with some last code units. -/
  | close (units : List Nat)
  /-- This is no literal. -/
  | refuse
  deriving DecidableEq, Repr

/-- A step that first completes some code units. -/
def Step.after (units : List Nat) : Step → Step
  | next state more => next state (units ++ more)
  | close more => close (units ++ more)
  | refuse => refuse

/-- The characters U+2028 and U+2029. -/
def isSeparator (c : Char) : Bool := c = '\u2028' || c = '\u2029'

/-- The characters that end a line of a script. -/
def isTerminator (c : Char) : Bool := c = '\n' || c = '\r' || isSeparator c

/-- The code unit of a letter that escapes a control character. -/
def controlEscape? : Char → Option Nat
  | 'b' => some 0x08
  | 't' => some 0x09
  | 'n' => some 0x0A
  | 'v' => some 0x0B
  | 'f' => some 0x0C
  | 'r' => some 0x0D
  | _ => none

/-- The code units of a code point. One that is no character is a surrogate, a unit of its own. -/
def pointUnits (point : Nat) : List Nat :=
  if point.isValidChar then Text.codeUnits (Char.ofNat point) else [point]

variable (rules : Rules)

/-- A step outside of escapes. -/
def plainStep (c : Char) : Step :=
  if c = '"' then .close []
  else if c = '\\' then .next .escape []
  else if isTerminator c && !(rules.separators && isSeparator c) then .refuse
  else .next .plain (Text.codeUnits c)

/-- A step after a backslash. Before a line terminator it continues the line. A character that
begins no escape stands for itself. -/
def escapeStep (c : Char) : Step :=
  if c = '\r' then .next .lineEnd []
  else if isTerminator c then .next .plain []
  else if c = 'x' then .next (.hex 1 0) []
  else if c = 'u' then .next .unit []
  else match Text.asciiDigit? c with
    | none => .next .plain ((controlEscape? c).elim (Text.codeUnits c) ([·]))
    | some digit =>
      if !rules.octal then if digit = 0 then .next .zero [] else .refuse
      else if digit < 4 then .next (.octal 1 digit) []
      else if digit < 8 then .next (.octal 0 digit) []
      else .next .plain [c.toNat]

/-- A step in an escape of hexadecimal digits. -/
def hexStep (more value : Nat) (c : Char) : Step :=
  match Text.hexValue? c, more with
  | none, _ => .refuse
  | some digit, 0 => .next .plain [16 * value + digit]
  | some digit, more + 1 => .next (.hex more (16 * value + digit)) []

/-- A step in an octal escape, which ends before any other character. -/
def octalStep (more value : Nat) (c : Char) : Step :=
  match (Text.asciiDigit? c).filter (· < 8), more with
  | none, _ => (plainStep rules c).after [value]
  | some digit, 0 => .next .plain [8 * value + digit]
  | some digit, more + 1 => .next (.octal more (8 * value + digit)) []

/-- A step between braces. -/
def bracesStep (value : Option Nat) (c : Char) : Step :=
  if c = '\x7d' then value.elim .refuse fun point => .next .plain (pointUnits point)
  else match Text.hexValue? c with
    | none => .refuse
    | some digit =>
      let point := 16 * value.getD 0 + digit
      if point < 0x110000 then .next (.braces (some point)) [] else .refuse

/-- What the scanner does at a character in a state. -/
def step : State → Char → Step
  | .plain, c => plainStep rules c
  | .escape, c => escapeStep rules c
  | .lineEnd, c => if c = '\n' then .next .plain [] else plainStep rules c
  | .zero, c => if c.isDigit then .refuse else (plainStep rules c).after [0]
  | .octal more value, c => octalStep rules more value c
  | .hex more value, c => hexStep more value c
  | .unit, c => if rules.braces && c = '\x7b' then .next (.braces none) [] else hexStep 3 0 c
  | .braces value, c => bracesStep value c

/-- What is scanned after some code units. -/
def prepend (units : List Nat) (scanned : Option (List Nat × List Char)) :
    Option (List Nat × List Char) :=
  scanned.map fun (more, after) => (units ++ more, after)

/-- Scans the rest of a literal: its code units, and what follows its closing quote. -/
def scan : State → List Char → Option (List Nat × List Char)
  | _, [] => none
  | state, c :: rest =>
    match step rules state c with
    | .refuse => none
    | .close units => some (units, rest)
    | .next state units => prepend units (scan state rest)

/-- Reads a string literal at the beginning of a text: the code units that it denotes, and what
follows it. -/
def read? : List Char → Option (List Nat × List Char)
  | '"' :: rest => scan rules .plain rest
  | _ => none

/-- Escapes of all kinds, a continued line, and a character above U+FFFF. -/
example : read? ⟨false, true, true⟩
      "\"\\x41\\u0042\\u\x7b1F600\x7d\\\r\n\\0\\178\\q😀\" + t".toList =
    some ([0x41, 0x42, 0xD83D, 0xDE00, 0, 0o17, 0x38, 0x71, 0xD83D, 0xDE00], " + t".toList) := by
  decide

/-! ### Escapes of a literal -/

variable {rules} {c : Char} {rest : List Char}

theorem prepend_nil (scanned : Option (List Nat × List Char)) : prepend [] scanned = scanned := by
  cases scanned <;> rfl

theorem prepend_prepend (first second : List Nat) (scanned : Option (List Nat × List Char)) :
    prepend first (prepend second scanned) = prepend (first ++ second) scanned := by
  cases scanned <;> simp [prepend]

theorem scan_next {state state' : State} {units : List Nat}
    (h : step rules state c = .next state' units) :
    scan rules state (c :: rest) = prepend units (scan rules state' rest) := by
  rw [scan, h]

theorem step_hex_of_some {more value digit : Nat} (h : Text.hexValue? c = some digit) :
    step rules (.hex (more + 1) value) c = .next (.hex more (16 * value + digit)) [] := by
  simp [step, hexStep, h]

theorem step_unit_of_some {digit : Nat} (h : Text.hexValue? c = some digit) :
    step rules .unit c = .next (.hex 2 digit) [] := by
  have hbrace : c ≠ '\x7b' := by
    rintro rfl
    cases h
  simp [step, hbrace, hexStep, h]

theorem scan_unitEscape {unit : Nat} (hunit : unit < 0x10000) :
    scan rules .plain (Json.unitEscape unit ++ rest) = prepend [unit] (scan rules .plain rest) := by
  obtain ⟨a, b, c, d, hdigits, hvalue⟩ := Text.hexUnit?_hexDigits hunit
  obtain ⟨first, ha, second, hb, third, hc, last, hd, rfl⟩ :
      ∃ first, Text.hexValue? a = some first ∧ ∃ second, Text.hexValue? b = some second ∧
        ∃ third, Text.hexValue? c = some third ∧ ∃ last, Text.hexValue? d = some last ∧
          4096 * first + 256 * second + 16 * third + last = unit := by
    simpa [Text.hexUnit?, Option.bind_eq_some_iff] using hvalue
  have hlast : step rules (.hex 0 (16 * (16 * first + second) + third)) d =
      .next .plain [16 * (16 * (16 * first + second) + third) + last] := by
    simp [step, hexStep, hd]
  have hsum : 16 * (16 * (16 * first + second) + third) + last =
      4096 * first + 256 * second + 16 * third + last := by omega
  show scan rules .plain ('\\' :: 'u' :: (Text.hexDigits 4 _ ++ rest)) = _
  rw [hdigits, scan_next rfl, scan_next rfl]
  simp only [List.cons_append, List.nil_append, scan_next (step_unit_of_some ha),
    scan_next (step_hex_of_some hb), scan_next (step_hex_of_some hc), scan_next hlast, prepend_nil,
    hsum]

theorem scan_unitEscapes {units : List Nat} (hunits : ∀ unit ∈ units, unit < 0x10000) :
    scan rules .plain (units.flatMap Json.unitEscape ++ rest) =
      prepend units (scan rules .plain rest) := by
  induction units with
  | nil => exact (prepend_nil _).symm
  | cons unit units ih =>
    obtain ⟨hunit, hunits⟩ := List.forall_mem_cons.mp hunits
    rw [List.flatMap_cons, List.append_assoc, scan_unitEscape hunit, ih hunits, prepend_prepend,
      List.singleton_append]

/-- The letters that escape characters in a document do so in a script. -/
theorem step_escape_of_some {unit : Nat} (h : Json.shortEscape? c = some unit) :
    step rules .escape c = .next .plain [unit] ∧ unit < 0x80 := by
  unfold Json.shortEscape? at h
  split at h
  case h_9 => cases h
  all_goals
    obtain rfl := Option.some.inj h
    exact ⟨rfl, by decide⟩

/-! ### Visible characters -/

/-- The characters of ASCII that show something, and the blank. -/
def Visible (c : Char) : Prop := 0x20 ≤ c.toNat ∧ c.toNat ≤ 0x7E

theorem Visible.not_isTerminator (h : Visible c) : isTerminator c = false := by
  obtain ⟨hlow, hhigh⟩ := h
  have hne (d : Char) (hd : d.toNat < 0x20 ∨ 0x7E < d.toNat) : c ≠ d := by
    rintro rfl
    omega
  simp [isTerminator, isSeparator, hne '\n' (by decide), hne '\r' (by decide),
    hne '\u2028' (by decide), hne '\u2029' (by decide)]

theorem visible_hexDigit {n : Nat} (h : n < 16) : Visible (Text.hexDigit n) := by
  unfold Visible
  interval_cases n <;> decide

theorem visible_hexDigits {count n : Nat} (h : c ∈ Text.hexDigits count n) : Visible c := by
  induction count generalizing n with
  | zero => cases h
  | succ count ih =>
    rcases List.mem_append.mp h with hfront | hlast
    · exact ih hfront
    · rw [List.mem_singleton.mp hlast]
      exact visible_hexDigit (Nat.mod_lt n (by decide))

theorem visible_charEscape {d : Char} (h : d ∈ Json.charEscape c) : Visible d := by
  obtain ⟨unit, -, hd⟩ := List.mem_flatMap.mp h
  simp only [Json.unitEscape, List.mem_cons] at hd
  rcases hd with rfl | rfl | hdigit
  · exact ⟨by decide, by decide⟩
  · exact ⟨by decide, by decide⟩
  · exact visible_hexDigits hdigit

theorem visible_shortEscape {letter d : Char} (hletter : Visible letter)
    (h : d ∈ ['\\', letter]) : Visible d := by
  rcases List.mem_pair.mp h with rfl | rfl
  · exact ⟨by decide, by decide⟩
  · exact hletter

/-- A literal that escapes everything beyond visible ASCII shows nothing else. -/
theorem visible_literalChar {d : Char} (h : d ∈ Json.literalChar .ascii c) : Visible d := by
  rw [Json.literalChar] at h
  split_ifs at h with hquote hbackslash hfeed hreturn htab hback hform hescaped
  -- The escapes of one letter, then those of code units, then the characters that are kept.
  all_goals try exact visible_shortEscape ⟨by decide, by decide⟩ h
  · exact visible_charEscape h
  · obtain rfl := List.mem_singleton.mp h
    simp only [Json.Escaping.ascii, Bool.or_eq_true, decide_eq_true_eq, not_or, not_lt] at hescaped
    exact hescaped

/-! ### Literals -/

theorem codeUnits_of_lt (h : c.toNat < 0x10000) : Text.codeUnits c = [c.toNat] := by
  simp [Text.codeUnits, h]

/-- What a literal shows for a character is scanned as the code units of the character. -/
theorem scan_shown {shown : List Char} (h : Json.Shown c shown)
    (hvisible : ∀ d ∈ shown, Visible d) :
    scan rules .plain (shown ++ rest) = prepend (Text.codeUnits c) (scan rules .plain rest) := by
  cases h with
  | short letter h =>
    obtain ⟨hstep, hlt⟩ := step_escape_of_some h
    show scan rules .plain ('\\' :: letter :: rest) = _
    rw [scan_next rfl, scan_next hstep, prepend_nil, codeUnits_of_lt (by omega)]
  | escaped => exact scan_unitEscapes fun _ => Text.codeUnits_lt
  | plain hquote hbackslash =>
    have hline := (hvisible c List.mem_cons_self).not_isTerminator
    refine scan_next ?_
    simp [step, plainStep, hquote, hbackslash, hline]

theorem scan_flatMap_literalChar (text after : List Char) :
    scan rules .plain (text.flatMap (Json.literalChar .ascii) ++ '"' :: after) =
      some (text.flatMap Text.codeUnits, after) := by
  induction text with
  | nil => rfl
  | cons c text ih =>
    -- Between two characters of the text the scanner is outside of escapes.
    rw [List.flatMap_cons, List.append_assoc,
      scan_shown (Json.shown_literalChar .ascii c) fun _ => visible_literalChar, ih]
    rfl

/-- The literal of a text is safe in a script. Whatever follows it, the scanner stops right at its
end and has read the code units of the text, and the literal shows only visible characters, none
of which ends a line. -/
theorem literal_is_spliced_safely (rules : Rules) (text : String) (after : List Char) :
    let literal := ((Json.Value.text text).print .spaced).toList
    read? rules (literal ++ after) = some (text.toList.flatMap Text.codeUnits, after) ∧
      ∀ c ∈ literal, isTerminator c = false ∧ 0x20 ≤ c.toNat ∧ c.toNat ≤ 0x7E := by
  intro literal
  have hliteral : literal =
      '"' :: (text.toList.flatMap (Json.literalChar .ascii) ++ ['"']) := String.toList_ofList
  have hvisible : ∀ c ∈ literal, Visible c := by
    intro c hc
    have hquote : Visible '"' := ⟨by decide, by decide⟩
    simp only [hliteral, List.mem_cons, List.mem_append, List.mem_flatMap, List.not_mem_nil,
      or_false] at hc
    rcases hc with rfl | ⟨d, -, hd⟩ | rfl
    · exact hquote
    · exact visible_literalChar hd
    · exact hquote
  refine ⟨?_, fun c hc => ⟨(hvisible c hc).not_isTerminator, hvisible c hc⟩⟩
  rw [hliteral, List.cons_append, List.append_assoc, List.singleton_append, read?,
    scan_flatMap_literalChar]

/-- A text of a backslash, a quote, a separator of lines and a pair of surrogates, in front of
another quote. -/
theorem mixed_literal_is_spliced :
    let literal := ((Json.Value.text "\\\"\u2028😀").print .spaced).toList
    literal = "\"\\\\\\\"\\u2028\\ud83d\\ude00\"".toList ∧
      read? ⟨false, true, true⟩ (literal ++ ['"', ';']) =
        some ([0x5C, 0x22, 0x2028, 0xD83D, 0xDE00], ['"', ';']) ∧
      '\\' ∈ literal ∧ isTerminator '\\' = false := by
  intro literal
  have hliteral : literal = "\"\\\\\\\"\\u2028\\ud83d\\ude00\"".toList := by cbv
  have hmem : '\\' ∈ literal := by simp [hliteral]
  have hsafe := literal_is_spliced_safely ⟨false, true, true⟩ "\\\"\u2028😀" ['"', ';']
  exact ⟨hliteral, hsafe.1, hmem, (hsafe.2 _ hmem).1⟩

end CoffeeHost.Script.Scanner
