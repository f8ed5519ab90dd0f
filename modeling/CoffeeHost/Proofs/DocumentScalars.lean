import CoffeeHost.Json.Document
import CoffeeHost.Proofs.NumberTexts
import Mathlib
/-!
# Strings, words and numbers of documents

What a document's reader makes of a value without parts. It takes characters away from the front
of a text, so what it leaves is never longer. A string is refused for flaws only. A number is
refused for a flaw, or for its digits: if it is an integer with more of them than the limit, and
they do not go on as a fraction or with an exponent, which would make it a number of any length.

## Main definitions

* `Json.LongInteger` — an integer of too many digits at the beginning of a text.
* `Json.readScalar` — a word or a number at the beginning of a text.

## Main results

* `Json.readScalar_eq_longInteger_iff` — which texts are refused for their digits.
* `Json.length_readString_le`, `Json.length_readScalar_le` — what is left of a text.
-/

namespace CoffeeHost

namespace Json

variable {opening text rest : List Char} {value : Value} {stop : Stop}

/-! ### What is left of a text -/

theorem length_skipBlanks_le (text : List Char) : (skipBlanks text).length ≤ text.length :=
  (List.dropWhile_sublist isBlank).length_le

theorem length_le_of_skipBlanks {c : Char} {after : List Char} (h : skipBlanks text = c :: after) :
    after.length < text.length := by
  have hle := length_skipBlanks_le text
  rw [h, List.length_cons] at hle
  omega

theorem length_readUnits_le {units : List Nat} (h : readUnits opening text = .ok (units, rest)) :
    rest.length ≤ text.length := by
  fun_induction readUnits opening text generalizing units rest with
  | case1 => cases h
  | case2 =>
    cases h
    simp
  | case3 => cases h
  | case4 a b c d unit head tail hunit hquote ih =>
    obtain ⟨⟨more, r⟩, hmore, ⟨⟩⟩ := map_eq_ok_iff.mp h
    have hle := ih hmore
    simp only [List.length_cons] at hle ⊢
    omega
  | case5 => cases h
  | case6 => cases h
  | case7 letter after _ _ unit _ _ ih =>
    obtain ⟨⟨more, r⟩, hmore, ⟨⟩⟩ := map_eq_ok_iff.mp h
    have hle := ih hmore
    simp only [List.length_cons]
    omega
  | case8 => cases h
  | case9 => cases h
  | case10 c after _ _ _ ih =>
    obtain ⟨⟨more, r⟩, hmore, ⟨⟩⟩ := map_eq_ok_iff.mp h
    have hle := ih hmore
    simp only [List.length_cons]
    omega

/-- A text literal is refused for flaws only. -/
theorem readUnits_flaw (h : readUnits opening text = .error stop) :
    ∃ flaw rest, stop = .flaw flaw rest := by
  fun_induction readUnits opening text generalizing stop with
  | case1 => exact ⟨_, _, (Except.error.inj h).symm⟩
  | case2 => cases h
  | case3 => exact ⟨_, _, (Except.error.inj h).symm⟩
  | case4 a b c d unit head tail hunit hquote ih => exact ih (map_eq_error_iff.mp h)
  | case5 => exact ⟨_, _, (Except.error.inj h).symm⟩
  | case6 => exact ⟨_, _, (Except.error.inj h).symm⟩
  | case7 letter after _ _ unit _ _ ih => exact ih (map_eq_error_iff.mp h)
  | case8 => exact ⟨_, _, (Except.error.inj h).symm⟩
  | case9 => exact ⟨_, _, (Except.error.inj h).symm⟩
  | case10 c after _ _ _ ih => exact ih (map_eq_error_iff.mp h)

theorem length_readString_le {key : String} (h : readString text = .ok (key, rest)) :
    rest.length ≤ text.length := by
  obtain ⟨⟨units, r⟩, hunits, ⟨⟩⟩ := map_eq_ok_iff.mp h
  exact length_readUnits_le hunits

theorem readString_flaw (h : readString text = .error stop) :
    ∃ flaw rest, stop = .flaw flaw rest :=
  readUnits_flaw (map_eq_error_iff.mp h)

theorem length_readWord_le (h : readWord? text = some (value, rest)) :
    rest.length ≤ text.length := by
  obtain ⟨⟨word, value'⟩, -, hword⟩ := List.exists_of_findSome?_eq_some h
  obtain ⟨after, hafter, ⟨⟩⟩ := Option.map_eq_some_iff.mp hword
  rw [← List.isPrefixOf?_eq_some_iff_append_eq.mp hafter, List.length_append]
  omega

/-! ### Numbers -/

/-- A text with which no integer goes on, be it by a digit, a fraction or an exponent. -/
structure EndsInteger (rest : List Char) : Prop where
  digits : EndsDigits rest
  fraction : ∀ after, rest = '.' :: after → EndsDigits after
  exponent : ∀ letter after, rest = letter :: after → letter = 'e' ∨ letter = 'E' →
    EndsDigits (Numeral.splitSign after).2

/-- Too many digits of an integer stand at the beginning of a text. -/
inductive LongDigits : List Char → Nat → Prop
  | intro {digits rest : List Char} (hdigits : Digits digits) (hzero : digits.head? ≠ some '0')
      (hends : EndsInteger rest) (hlimit : Numeral.digitLimit < digits.length) :
      LongDigits (digits ++ rest) digits.length

/-- An integer of too many digits stands at the beginning of a text. -/
inductive LongInteger : List Char → Nat → Prop
  | positive {text : List Char} {count : Nat} (h : LongDigits text count) : LongInteger text count
  | negative {text : List Char} {count : Nat} (h : LongDigits text count) :
      LongInteger ('-' :: text) count

theorem span_fst_isEmpty_iff : (text.span Char.isDigit).1.isEmpty = true ↔ EndsDigits text := by
  cases text with
  | nil => simp [EndsDigits, List.span_eq_takeWhile_dropWhile]
  | cons c rest => cases hc : c.isDigit <;> simp [EndsDigits, List.span_eq_takeWhile_dropWhile, hc]

theorem length_span_snd_le (text : List Char) :
    (text.span Char.isDigit).2.length ≤ text.length := by
  rw [List.span_eq_takeWhile_dropWhile]
  exact (List.dropWhile_sublist _).length_le

theorem length_readFraction_le (text : List Char) : (readFraction text).2.length ≤ text.length := by
  rw [readFraction.eq_def]
  split
  · next rest =>
    have hle := length_span_snd_le rest
    dsimp only
    split
    · rfl
    · simp only [List.length_cons]
      omega
  · rfl

theorem length_splitSign_le (text : List Char) :
    (Numeral.splitSign text).2.length ≤ text.length := by
  fun_cases Numeral.splitSign text <;> simp

theorem length_readExponent_le (text : List Char) : (readExponent text).2.length ≤ text.length := by
  rw [readExponent.eq_def]
  split
  · rfl
  · next letter rest =>
    have hsign := length_splitSign_le rest
    have hspan := length_span_snd_le (Numeral.splitSign rest).2
    dsimp only
    split_ifs
    · rfl
    · simp only [List.length_cons]
      omega
    · rfl

theorem readFraction_eq_none_iff : (readFraction text).1 = none ↔
    ∀ after, text = '.' :: after → EndsDigits after := by
  rw [readFraction.eq_def]
  split
  · next rest =>
    simp only [List.cons.injEq, true_and, forall_eq', ← span_fst_isEmpty_iff]
    split_ifs with h
    · exact iff_of_true rfl h
    · exact iff_of_false nofun h
  · next hpoint => exact iff_of_true rfl fun after h => (hpoint after h).elim

theorem readFraction_of_none (h : (readFraction text).1 = none) : (readFraction text).2 = text := by
  revert h
  rw [readFraction.eq_def]
  split
  · dsimp only
    split
    · exact fun _ => rfl
    · exact nofun
  · exact fun _ => rfl

theorem readExponent_eq_none_iff : (readExponent text).1 = none ↔
    ∀ letter after, text = letter :: after → letter = 'e' ∨ letter = 'E' →
      EndsDigits (Numeral.splitSign after).2 := by
  rw [readExponent.eq_def]
  split
  · exact iff_of_true rfl nofun
  · next letter rest =>
    dsimp only
    split_ifs with hletter h
    · refine iff_of_true rfl ?_
      rintro _ _ ⟨⟩ -
      exact span_fst_isEmpty_iff.mp h
    · refine iff_of_false nofun fun hends => h (span_fst_isEmpty_iff.mpr ?_)
      exact hends letter rest rfl (by simpa using hletter)
    · refine iff_of_true rfl ?_
      rintro _ _ ⟨⟩ hexponent
      exact absurd hexponent (by simpa using hletter)

/-- The whole part of a number, and what follows it. -/
def wholeOf (unsigned : List Char) : List Char × List Char :=
  match unsigned with
  | '0' :: rest => (['0'], rest)
  | _ => unsigned.span Char.isDigit

theorem wholeOf_append (unsigned : List Char) :
    (wholeOf unsigned).1 ++ (wholeOf unsigned).2 = unsigned := by
  fun_cases wholeOf unsigned
  · rfl
  · rw [List.span_eq_takeWhile_dropWhile, List.takeWhile_append_dropWhile]

theorem wholeOf_digits {digits : List Char} (h : Digits digits) (hzero : digits.head? ≠ some '0')
    (hrest : EndsDigits rest) : wholeOf (digits ++ rest) = (digits, rest) := by
  obtain ⟨c, digits, rfl⟩ := List.exists_cons_of_ne_nil h.ne_nil
  have hc : c ≠ '0' := by simpa using hzero
  rw [← h.span_append hrest]
  simp [wholeOf, hc]

/-- More than one digit is not a zero alone. -/
theorem digits_wholeOf {unsigned : List Char} (h : 1 < (wholeOf unsigned).1.length) :
    Digits (wholeOf unsigned).1 ∧ (wholeOf unsigned).1.head? ≠ some '0' ∧
      EndsDigits (wholeOf unsigned).2 := by
  revert h
  fun_cases wholeOf unsigned
  · exact fun h => absurd h (by simp)
  · next hzero =>
    rw [List.span_eq_takeWhile_dropWhile]
    intro h
    refine ⟨⟨List.ne_nil_of_length_pos (by omega), fun c hc => ?_⟩, ?_, ?_⟩
    · exact List.mem_takeWhile_imp hc
    · cases unsigned with
      | nil => simp
      | cons c rest =>
        have hc : c ≠ '0' := fun hc => hzero rest (by rw [hc])
        cases hdigit : c.isDigit <;> simp [hc, hdigit]
    · intro c hc
      have hnot := List.head?_dropWhile_not Char.isDigit unsigned
      rwa [Option.mem_def.mp hc] at hnot

/-- The rest of a number after its sign. -/
def readUnsigned (negative : Bool) (text unsigned : List Char) : Reading (Value × List Char) :=
  let (whole, rest) := wholeOf unsigned
  if whole.isEmpty then .error (.flaw .valueExpected text)
  else
    let (fraction, rest) := readFraction rest
    let (exponent, rest) := readExponent rest
    if fraction.isNone && exponent.isNone && Numeral.digitLimit < whole.length then
      .error (.longInteger whole.length)
    else .ok ((NumberText.mk negative whole fraction exponent).value, rest)

theorem readNumber_of_head (h : text.head? ≠ some '-') :
    readNumber text = readUnsigned false text text := by
  cases text with
  | nil => rfl
  | cons c rest =>
    have hc : c ≠ '-' := by simpa using h
    rw [readNumber.eq_def]
    split
    next hsign =>
    split at hsign
    · next heq =>
      cases heq
      exact absurd rfl hc
    · cases hsign
      rfl

/-- A number is refused for its digits only if they are too many. -/
theorem readUnsigned_eq_longInteger_iff {negative : Bool} {unsigned : List Char} {count : Nat} :
    readUnsigned negative text unsigned = .error (.longInteger count) ↔
      LongDigits unsigned count := by
  rw [readUnsigned]
  dsimp only
  constructor
  · intro h
    split_ifs at h with _ hlong
    · cases h
    · cases h
      obtain ⟨⟨hfraction, hexponent⟩, hlimit⟩ := by simpa using hlong
      rw [readFraction_of_none hfraction] at hexponent
      -- A zero alone is one digit only, so these are all the digits that there are.
      obtain ⟨hdigits, hzero, hends⟩ := digits_wholeOf (Nat.lt_trans (by decide) hlimit)
      have hinteger : EndsInteger (wholeOf unsigned).2 :=
        ⟨hends, readFraction_eq_none_iff.mp hfraction, readExponent_eq_none_iff.mp hexponent⟩
      have hlong := LongDigits.intro hdigits hzero hinteger hlimit
      rwa [wholeOf_append] at hlong
  · rintro ⟨hdigits, hzero, ⟨hends, hfraction, hexponent⟩, hlimit⟩
    have hfraction := readFraction_eq_none_iff.mpr hfraction
    rw [wholeOf_digits hdigits hzero hends]
    dsimp only
    rw [readFraction_of_none hfraction, hfraction, readExponent_eq_none_iff.mpr hexponent,
      if_neg (by simpa using hdigits.ne_nil), if_pos (by simpa using hlimit)]

theorem readUnsigned_ne_tooDeep {negative : Bool} {unsigned : List Char} :
    readUnsigned negative text unsigned ≠ .error .tooDeep := by
  rw [readUnsigned]
  dsimp only
  split_ifs <;> exact nofun

theorem length_readUnsigned_le {negative : Bool} {unsigned : List Char}
    (h : readUnsigned negative text unsigned = .ok (value, rest)) :
    rest.length ≤ unsigned.length := by
  rw [readUnsigned] at h
  dsimp only at h
  have hwhole := congrArg List.length (wholeOf_append unsigned)
  have hfraction := length_readFraction_le (wholeOf unsigned).2
  have hexponent := length_readExponent_le (readFraction (wholeOf unsigned).2).2
  rw [List.length_append] at hwhole
  split_ifs at h
  cases h
  omega

theorem LongDigits.head {count : Nat} (h : LongDigits text count) :
    ∃ c rest, text = c :: rest ∧ c.isDigit = true := by
  obtain ⟨hdigits, -, -, -⟩ := h
  next digits rest =>
  obtain ⟨c, digits, rfl⟩ := List.exists_cons_of_ne_nil hdigits.ne_nil
  exact ⟨c, digits ++ rest, rfl, hdigits.isDigit c (by simp)⟩

theorem not_longDigits_minus {count : Nat} : ¬LongDigits ('-' :: text) count := by
  intro h
  obtain ⟨c, rest, htext, hc⟩ := h.head
  cases htext
  exact absurd hc (by decide)

/-- A long integer begins with its sign or with a digit. -/
theorem LongInteger.head {count : Nat} (h : LongInteger text count) :
    ∃ c rest, text = c :: rest ∧ ∀ d : Char, d ≠ '-' → d.isDigit = false → c ≠ d := by
  cases h with
  | positive h =>
    obtain ⟨c, rest, rfl, hc⟩ := h.head
    exact ⟨c, rest, rfl, fun d _ hd => ne_of_isDigit hc hd⟩
  | negative => exact ⟨'-', _, rfl, fun d hd _ => hd.symm⟩

theorem readNumber_cases (text : List Char) :
    (∃ unsigned, text = '-' :: unsigned ∧ readNumber text = readUnsigned true text unsigned) ∨
      text.head? ≠ some '-' ∧ readNumber text = readUnsigned false text text := by
  by_cases h : text.head? = some '-'
  · obtain ⟨unsigned, rfl⟩ := List.head?_eq_some_iff.mp h
    exact .inl ⟨unsigned, rfl, rfl⟩
  · exact .inr ⟨h, readNumber_of_head h⟩

theorem readNumber_eq_longInteger_iff {count : Nat} :
    readNumber text = .error (.longInteger count) ↔ LongInteger text count := by
  rcases readNumber_cases text with ⟨unsigned, rfl, hread⟩ | ⟨hhead, hread⟩
  · rw [hread, readUnsigned_eq_longInteger_iff]
    refine ⟨.negative, ?_⟩
    rintro (h | h)
    · exact absurd h not_longDigits_minus
    · exact h
  · rw [hread, readUnsigned_eq_longInteger_iff]
    refine ⟨.positive, ?_⟩
    rintro (h | h)
    · exact h
    · exact absurd rfl hhead

theorem readNumber_ne_tooDeep : readNumber text ≠ .error .tooDeep := by
  rcases readNumber_cases text with ⟨unsigned, rfl, hread⟩ | ⟨-, hread⟩ <;> rw [hread] <;>
    exact readUnsigned_ne_tooDeep

theorem length_readNumber_le (h : readNumber text = .ok (value, rest)) :
    rest.length ≤ text.length := by
  rcases readNumber_cases text with ⟨unsigned, rfl, hread⟩ | ⟨-, hread⟩ <;> rw [hread] at h
  · exact Nat.le_succ_of_le (length_readUnsigned_le h)
  · exact length_readUnsigned_le h

/-! ### Scalars -/

/-- A word or a number at the beginning of a text. -/
def readScalar (text : List Char) : Reading (Value × List Char) :=
  match readWord? text with
  | some reading => .ok reading
  | none => readNumber text

theorem readWord?_of_digit {c : Char} (hc : c.isDigit = true) : readWord? (c :: rest) = none := by
  have hne (d : Char) (hd : d.isDigit = false) : d ≠ c := (ne_of_isDigit hc hd).symm
  simp [readWord?, words, List.isPrefixOf?, hne 'n' rfl, hne 't' rfl, hne 'f' rfl, hne 'N' rfl,
    hne 'I' rfl, hne '-' rfl]

theorem readWord?_minus_of_digit {c : Char} (hc : c.isDigit = true) :
    readWord? ('-' :: c :: rest) = none := by
  have hne : 'I' ≠ c := (ne_of_isDigit hc rfl).symm
  simp [readWord?, words, List.isPrefixOf?, hne]

/-- No word begins like a number. -/
theorem LongInteger.readWord?_eq_none {count : Nat} (h : LongInteger text count) :
    readWord? text = none := by
  cases h with
  | positive h =>
    obtain ⟨c, rest, rfl, hc⟩ := h.head
    exact readWord?_of_digit hc
  | negative h =>
    obtain ⟨c, rest, rfl, hc⟩ := h.head
    exact readWord?_minus_of_digit hc

theorem readScalar_eq_longInteger_iff {count : Nat} :
    readScalar text = .error (.longInteger count) ↔ LongInteger text count := by
  rw [← readNumber_eq_longInteger_iff, readScalar]
  cases hword : readWord? text with
  | none => rfl
  | some reading =>
    refine iff_of_false nofun fun h => ?_
    rw [(readNumber_eq_longInteger_iff.mp h).readWord?_eq_none] at hword
    cases hword

theorem readScalar_ne_tooDeep : readScalar text ≠ .error .tooDeep := by
  rw [readScalar]
  split
  · exact nofun
  · exact readNumber_ne_tooDeep

theorem length_readScalar_le (h : readScalar text = .ok (value, rest)) :
    rest.length ≤ text.length := by
  rw [readScalar] at h
  split at h
  · next hword =>
    cases h
    exact length_readWord_le hword
  · exact length_readNumber_le h

end Json

end CoffeeHost
