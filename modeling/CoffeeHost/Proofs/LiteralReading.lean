import CoffeeHost.Json.Document
import CoffeeHost.Json.Literal
import Mathlib.Tactic.IntervalCases
import Mathlib.Tactic.Set
import Mathlib.Tactic.SplitIfs
/-!
# Reading string literals back

What a literal shows for a character is read as code units of that character, and code units of
characters are joined to the characters. So the reader of documents gives back the text of a
literal and stops right after its closing quote, whatever the escaping and whatever follows.

## Main definitions

* `Text.Spells` — code units that are joined to a character.
* `Json.Shown` — what a literal can show for a character.

## Main results

* `Text.hexUnit?_hexDigits` — four digits are read as the code unit that they were written for.
* `Json.Shown.readUnits_append` — what a literal shows for one character.
* `Json.readString_literal` — a whole literal.
-/

namespace CoffeeHost

namespace Text

/-! ### Hexadecimal digits -/

theorem hexValue?_hexDigit {n : Nat} (h : n < 16) : hexValue? (hexDigit n) = some n := by
  interval_cases n <;> rfl

/-- Four digits are read as the code unit that they were written for. -/
theorem hexUnit?_hexDigits {unit : Nat} (h : unit < 0x10000) :
    ∃ a b c d, hexDigits 4 unit = [a, b, c, d] ∧ hexUnit? a b c d = some unit := by
  refine ⟨_, _, _, _, rfl, ?_⟩
  have hdigit (n : Nat) : hexValue? (hexDigit (n % 16)) = some (n % 16) :=
    hexValue?_hexDigit (Nat.mod_lt n (by decide))
  simp only [hexUnit?, hdigit, Option.bind_eq_bind, Option.bind_some, Option.pure_def]
  congr 1
  omega

/-! ### Code units -/

/-- Code units, or a code point, that are read as a character. -/
inductive Spells (c : Char) : List Nat → Prop
  | units : Spells c (codeUnits c)
  | point : Spells c [c.toNat]

/-- The code points of characters leave out the surrogates. -/
theorem toNat_ranges (c : Char) : c.toNat < 0xD800 ∨ 0xDFFF < c.toNat ∧ c.toNat < 0x110000 :=
  c.valid

theorem codeUnits_lt {c : Char} {unit : Nat} (h : unit ∈ codeUnits c) : unit < 0x10000 := by
  have hc := toNat_ranges c
  simp only [codeUnits] at h
  split_ifs at h with hn
  · rw [List.mem_singleton.mp h]
    exact hn
  · simp only [List.mem_cons, List.not_mem_nil, or_false] at h
    omega

theorem isHighSurrogate_toNat (c : Char) : isHighSurrogate c.toNat = false := by
  have hc := toNat_ranges c
  simp only [isHighSurrogate, Bool.and_eq_false_iff, decide_eq_false_iff_not]
  omega

theorem isLowSurrogate_toNat (c : Char) : isLowSurrogate c.toNat = false := by
  have hc := toNat_ranges c
  simp only [isLowSurrogate, Bool.and_eq_false_iff, decide_eq_false_iff_not]
  omega

theorem ofCodeUnits_point (c : Char) (rest : List Nat) :
    ofCodeUnits (c.toNat :: rest) = c :: ofCodeUnits rest := by
  have hlone : ofLoneUnit c.toNat = c := by
    simp [ofLoneUnit, isHighSurrogate_toNat, isLowSurrogate_toNat]
  cases rest with
  | nil => simp [ofCodeUnits, hlone]
  | cons unit rest => simp [ofCodeUnits, isHighSurrogate_toNat, hlone]

/-- The code units of a character are its code point, or a pair of surrogates that are joined to
it. -/
theorem codeUnits_cases (c : Char) :
    codeUnits c = [c.toNat] ∨ ∃ high low, codeUnits c = [high, low] ∧
      isHighSurrogate high = true ∧ isLowSurrogate low = true ∧ ofSurrogates high low = c := by
  have hc := toNat_ranges c
  by_cases hn : c.toNat < 0x10000
  · exact .inl (by simp [codeUnits, hn])
  · set n := c.toNat - 0x10000 with hdef
    refine .inr ⟨0xD800 + n / 0x400, 0xDC00 + n % 0x400, by simp [codeUnits, hn, ← hdef], ?_, ?_, ?_⟩
    · simp only [isHighSurrogate, Bool.and_eq_true, decide_eq_true_eq]
      omega
    · simp only [isLowSurrogate, Bool.and_eq_true, decide_eq_true_eq]
      omega
    · have hsum : 0x10000 + 0x400 * (0xD800 + n / 0x400 - 0xD800) +
          (0xDC00 + n % 0x400 - 0xDC00) = c.toNat := by omega
      rw [ofSurrogates, hsum, Char.ofNat_toNat]

theorem ofCodeUnits_codeUnits (c : Char) (rest : List Nat) :
    ofCodeUnits (codeUnits c ++ rest) = c :: ofCodeUnits rest := by
  rcases codeUnits_cases c with hunit | ⟨high, low, hunits, hhigh, hlow, hjoin⟩
  · rw [hunit, List.singleton_append, ofCodeUnits_point]
  · rw [hunits]
    simp [ofCodeUnits, hhigh, hlow, hjoin]

/-- What spells a character is joined to it. -/
theorem Spells.ofCodeUnits_append {c : Char} {units : List Nat} (h : Spells c units)
    (rest : List Nat) : ofCodeUnits (units ++ rest) = c :: ofCodeUnits rest := by
  cases h with
  | units => exact ofCodeUnits_codeUnits c rest
  | point => exact ofCodeUnits_point c rest

end Text

namespace Json

open Text (Spells)

/-! ### What literals show -/

/-- What a literal can show for a character. -/
inductive Shown (c : Char) : List Char → Prop
  | short (letter : Char) (h : shortEscape? letter = some c.toNat) : Shown c ['\\', letter]
  | escaped : Shown c (charEscape c)
  | plain (hquote : c ≠ '"') (hbackslash : c ≠ '\\') (hvisible : ¬ c.toNat < 0x20) : Shown c [c]

theorem shown_literalChar (escaping : Escaping) (c : Char) :
    Shown c (literalChar escaping c) := by
  rw [literalChar]
  split_ifs with hquote hbackslash hfeed hreturn htab hback hform hescaped
  · exact .short '"' (by rw [hquote]; rfl)
  · exact .short '\\' (by rw [hbackslash]; rfl)
  · exact .short 'n' (by rw [hfeed]; rfl)
  · exact .short 'r' (by rw [hreturn]; rfl)
  · exact .short 't' (by rw [htab]; rfl)
  · exact .short 'b' (by rw [hback]; rfl)
  · exact .short 'f' (by rw [hform]; rfl)
  · exact .escaped
  · exact .plain hquote hbackslash fun hcontrol => hescaped (by simp [hcontrol])

/-! ### Reading them -/

variable {opening rest : List Char}

/-- What the reader of units gives back after some more units. -/
def prepend (units : List Nat) (reading : Reading (List Nat × List Char)) :
    Reading (List Nat × List Char) :=
  reading.map fun (more, rest) => (units ++ more, rest)

theorem prepend_prepend (first second : List Nat) (reading : Reading (List Nat × List Char)) :
    prepend first (prepend second reading) = prepend (first ++ second) reading := by
  cases reading <;> simp [prepend, Except.map]

theorem readUnits_plain {c : Char} (hquote : c ≠ '"') (hbackslash : c ≠ '\\')
    (hvisible : ¬ c.toNat < 0x20) :
    readUnits opening (c :: rest) = prepend [c.toNat] (readUnits opening rest) := by
  rw [readUnits.eq_def]
  simp only [hquote, hbackslash, hvisible, if_false]
  rfl

theorem readUnits_short {letter : Char} {unit : Nat} (h : shortEscape? letter = some unit) :
    readUnits opening ('\\' :: letter :: rest) = prepend [unit] (readUnits opening rest) := by
  have hu : letter ≠ 'u' := by
    rintro rfl
    simp [shortEscape?] at h
  rw [readUnits.eq_def]
  simp [h, hu, prepend]

theorem readUnits_unitEscape {unit : Nat} (hunit : unit < 0x10000) (hrest : rest ≠ []) :
    readUnits opening (unitEscape unit ++ rest) = prepend [unit] (readUnits opening rest) := by
  obtain ⟨a, b, c, d, hdigits, hvalue⟩ := Text.hexUnit?_hexDigits hunit
  -- Digits at the very end of a text make no escape, so the reader looks at what comes next.
  obtain ⟨next, rest, rfl⟩ := List.exists_cons_of_ne_nil hrest
  rw [readUnits.eq_def, unitEscape, hdigits]
  simp [hvalue, prepend]

theorem readUnits_unitEscapes {units : List Nat} (hunits : ∀ unit ∈ units, unit < 0x10000)
    (hrest : rest ≠ []) :
    readUnits opening (units.flatMap unitEscape ++ rest) =
      prepend units (readUnits opening rest) := by
  induction units with
  | nil => cases hread : readUnits opening rest <;> simp [prepend, Except.map, hread]
  | cons unit units ih =>
    obtain ⟨hunit, hunits⟩ := List.forall_mem_cons.mp hunits
    have hmore : units.flatMap unitEscape ++ rest ≠ [] := by simp [hrest]
    rw [List.flatMap_cons, List.append_assoc, readUnits_unitEscape hunit hmore, ih hunits,
      prepend_prepend, List.singleton_append]

/-- What a literal shows for a character is read as something that spells the character. -/
theorem Shown.readUnits_append {c : Char} {shown : List Char} (h : Shown c shown) :
    ∃ units, Spells c units ∧ ∀ opening rest, rest ≠ [] →
      readUnits opening (shown ++ rest) = prepend units (readUnits opening rest) := by
  cases h with
  | short letter h => exact ⟨[c.toNat], .point, fun _ _ _ => readUnits_short h⟩
  | escaped =>
    exact ⟨Text.codeUnits c, .units, fun _ _ => readUnits_unitEscapes fun _ => Text.codeUnits_lt⟩
  | plain hquote hbackslash hvisible =>
    exact ⟨[c.toNat], .point, fun _ _ _ => readUnits_plain hquote hbackslash hvisible⟩

/-- The characters of a literal are read as code units that are joined to its text. -/
theorem readUnits_literal (escaping : Escaping) (opening text rest : List Char) :
    ∃ units, Text.ofCodeUnits units = text ∧
      readUnits opening (text.flatMap (literalChar escaping) ++ '"' :: rest) =
        .ok (units, rest) := by
  induction text with
  | nil => exact ⟨[], rfl, by simp [readUnits.eq_def]⟩
  | cons c text ih =>
    obtain ⟨more, htext, hread⟩ := ih
    obtain ⟨units, hspells, hc⟩ := (shown_literalChar escaping c).readUnits_append
    refine ⟨units ++ more, by rw [hspells.ofCodeUnits_append, htext], ?_⟩
    rw [List.flatMap_cons, List.append_assoc, hc _ _ (by simp), hread]
    rfl

/-- The text of a literal is read back, up to its closing quote. -/
theorem readString_literal (escaping : Escaping) (text : String) (rest : List Char) :
    readString (text.toList.flatMap (literalChar escaping) ++ '"' :: rest) = .ok (text, rest) := by
  obtain ⟨units, htext, hread⟩ := readUnits_literal escaping
    ('"' :: (text.toList.flatMap (literalChar escaping) ++ '"' :: rest)) text.toList rest
  rw [readString, hread]
  simp [Except.map, htext]

end Json

end CoffeeHost
