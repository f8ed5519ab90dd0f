import CoffeeHost.Json.Message
import CoffeeHost.Number.Layout
import CoffeeHost.Proofs.Results
import CoffeeHost.Proofs.ShortestDecimal
import Mathlib.Data.List.TakeDrop
import Mathlib.Tactic.SplitIfs
/-!
# Number texts

The text of a number has a sign, a whole part, a fraction and an exponent. It is read up to its
end, whatever follows with which a number does not go on, if the whole part and the fraction are
rows of digits and no needless zero stands in front. Only a whole part of too many digits is
refused.

Scripts write such texts: all digits of a whole number of at most 53 bits, and the shortest decimal
of any other number, positionally or with an exponent. What is read from the text of a decimal is
an integer exactly if there is neither a point nor an exponent in it.

## Main definitions

* `Json.Digits`, `Json.EndsNumber`: rows of digits, and what ends a number.
* `Json.NumberText.chars`, `Json.NumberText.Proper`: texts of numbers, and those that can be read.
* `Layout.numberText`, `Layout.decimalText`: the parts of the texts that scripts write.
* `Binary64.reread`: what is read from the text of a number.

## Main results

* `Json.Message.readNumber_append_eq_ok_iff`: proper texts are read up to their end.
* `Layout.toList_finite`, `Layout.numberText_proper`: scripts write proper texts.
* `Layout.value_decimalText`: what the text of a decimal stands for.
-/

namespace CoffeeHost

namespace Json

/-! ### Digits -/

/-- At least one digit, and nothing else. -/
structure Digits (text : List Char) : Prop where
  ne_nil : text ≠ []
  isDigit : ∀ c ∈ text, c.isDigit = true

/-- A text with which no row of digits goes on. -/
def EndsDigits (rest : List Char) : Prop := ∀ c ∈ rest.head?, c.isDigit = false

theorem endsDigits_cons {c : Char} {rest : List Char} (h : c.isDigit = false) :
    EndsDigits (c :: rest) := by
  simpa [EndsDigits] using h

theorem ne_of_isDigit {c d : Char} (hc : c.isDigit = true) (hd : d.isDigit = false) : c ≠ d := by
  rintro rfl
  simp [hd] at hc

theorem digits_toDigits (n : Nat) : Digits (Nat.toDigits 10 n) :=
  ⟨Nat.toDigits_ne_nil, fun _ => Nat.isDigit_of_mem_toDigits (by decide) (by decide)⟩

theorem digitsValue_eq (text : List Char) : digitsValue text = Nat.ofDigitChars 10 text 0 := by
  rw [digitsValue, Numeral.value, List.foldl_map]
  rfl

@[simp] theorem digitsValue_toDigits (n : Nat) : digitsValue (Nat.toDigits 10 n) = n := by
  rw [digitsValue_eq, Nat.ofDigitChars_toDigits (by decide) (by decide)]

theorem head?_toDigits_ne_zero {n : Nat} (h : n ≠ 0) : (Nat.toDigits 10 n).head? ≠ some '0' := by
  induction n using Nat.strongRecOn with
  | ind n ih =>
    by_cases hn : n < 10
    · simpa [Nat.toDigits_of_lt_base hn] using h
    · have hfirst := ih (n / 10) (by omega) (by omega)
      obtain ⟨c, digits, hdigits⟩ := List.exists_cons_of_ne_nil
        (Nat.toDigits_ne_nil (n := n / 10) (b := 10))
      rw [Nat.toDigits_of_base_le (by decide) (by omega), hdigits]
      rwa [hdigits] at hfirst

theorem leading_toDigits (n : Nat) (h : (Nat.toDigits 10 n).head? = some '0') :
    Nat.toDigits 10 n = ['0'] := by
  by_contra hne
  refine head?_toDigits_ne_zero (fun hzero => hne ?_) h
  rw [hzero, Nat.toDigits_zero]

variable {digits rest : List Char}

theorem Digits.span_append (h : Digits digits) (hrest : EndsDigits rest) :
    (digits ++ rest).span Char.isDigit = (digits, rest) := by
  rw [List.span_eq_takeWhile_dropWhile, List.takeWhile_append_of_pos h.isDigit,
    List.dropWhile_append_of_pos h.isDigit]
  cases rest with
  | nil => simp
  | cons c rest =>
    have hc : c.isDigit = false := hrest c rfl
    simp [hc]

namespace Message

theorem readDigits_append (h : Digits digits) (hrest : EndsDigits rest) :
    readDigits (digits ++ rest) = .ok (digits, rest) := by
  obtain ⟨c, digits, rfl⟩ := List.exists_cons_of_ne_nil h.ne_nil
  have hc : c.isDigit = true := h.isDigit c (by simp)
  rw [List.cons_append, readDigits, if_pos hc, ← List.cons_append, h.span_append hrest]

theorem readWhole_append (h : Digits digits) (hzero : digits.head? = some '0' → digits = ['0'])
    (hrest : EndsDigits rest) : readWhole (digits ++ rest) = .ok (digits, rest) := by
  obtain ⟨c, digits, rfl⟩ := List.exists_cons_of_ne_nil h.ne_nil
  by_cases hc : c = '0'
  · subst hc
    obtain rfl : digits = [] := by simpa using hzero rfl
    cases rest with
    | nil => rfl
    | cons c rest =>
      have hc : c.isDigit = false := hrest c rfl
      simp [readWhole, hc]
  · have hread : readWhole (c :: digits ++ rest) = readDigits (c :: digits ++ rest) := by
      simp [readWhole, hc]
    rw [hread, readDigits_append h hrest]

end Message

/-! ### Number texts -/

/-- An exponent with its letter and its sign. -/
def exponentChars (exponent : Int) : List Char :=
  'e' :: (if exponent < 0 then '-' else '+') :: Nat.toDigits 10 exponent.natAbs

/-- A fraction, if there is one, with its point. -/
def fractionPart : Option (List Char) → List Char
  | none => []
  | some digits => '.' :: digits

/-- An exponent, if there is one. -/
def exponentPart : Option Int → List Char
  | none => []
  | some exponent => exponentChars exponent

/-- The text of a number. -/
def NumberText.chars (n : NumberText) : List Char :=
  (if n.negative then ['-'] else []) ++
    (n.whole ++ (fractionPart n.fraction ++ exponentPart n.exponent))

/-- A number that can be read from its text. -/
structure NumberText.Proper (n : NumberText) : Prop where
  whole : Digits n.whole
  leading : n.whole.head? = some '0' → n.whole = ['0']
  fraction : ∀ digits ∈ n.fraction, Digits digits

/-- A text with which no number goes on. -/
def EndsNumber (rest : List Char) : Prop :=
  ∀ c ∈ rest.head?, c.isDigit = false ∧ c ≠ '.' ∧ c ≠ 'e' ∧ c ≠ 'E'

namespace Message

theorem readFraction_append {fraction : Option (List Char)} (h : ∀ digits ∈ fraction, Digits digits)
    (hrest : EndsDigits rest) (hpoint : rest.head? ≠ some '.') :
    readFraction (fractionPart fraction ++ rest) = .ok (fraction, rest) := by
  cases fraction with
  | none =>
    cases rest with
    | nil => rfl
    | cons c rest =>
      have hc : c ≠ '.' := by simpa using hpoint
      simp [fractionPart, readFraction, hc]
  | some digits =>
    simp [fractionPart, readFraction, readDigits_append (h digits rfl) hrest, Except.map]

theorem readExponent_append {exponent : Option Int} (h : EndsNumber rest) :
    readExponent (exponentPart exponent ++ rest) = .ok (exponent, rest) := by
  cases exponent with
  | none =>
    cases rest with
    | nil => rfl
    | cons c rest =>
      obtain ⟨-, -, hlower, hupper⟩ := h c rfl
      simp [exponentPart, readExponent, hlower, hupper]
  | some exponent =>
    have hrest : EndsDigits rest := fun c hc => (h c hc).1
    have hdigits := readDigits_append (digits_toDigits exponent.natAbs) hrest
    by_cases hsign : exponent < 0
    · have hvalue : Binary64.signed true exponent.natAbs = exponent := by
        simp only [Binary64.signed, if_true]
        omega
      simp [exponentPart, exponentChars, hsign, readExponent, Numeral.splitSign, hdigits,
        Except.map, hvalue]
    · have hvalue : Binary64.signed false exponent.natAbs = exponent := by
        simp only [Binary64.signed, Bool.false_eq_true, if_false]
        omega
      simp [exponentPart, exponentChars, hsign, readExponent, Numeral.splitSign, hdigits,
        Except.map, hvalue]

theorem endsDigits_exponentPart (exponent : Option Int) (h : EndsNumber rest) :
    EndsDigits (exponentPart exponent ++ rest) ∧
      (exponentPart exponent ++ rest).head? ≠ some '.' := by
  cases exponent with
  | none => exact ⟨fun c hc => (h c hc).1, fun hc => (h '.' hc).2.1 rfl⟩
  | some exponent => exact ⟨endsDigits_cons rfl, by simp [exponentPart, exponentChars]⟩

theorem endsDigits_fractionPart {fraction : Option (List Char)} (hrest : EndsDigits rest) :
    EndsDigits (fractionPart fraction ++ rest) := by
  cases fraction with
  | none => exact hrest
  | some digits => exact endsDigits_cons rfl

/-- The rest of a number after its sign. -/
def readUnsigned (negative : Bool) (unsigned : List Char) : Reading (Value × List Char) := do
  let (whole, rest) ← readWhole unsigned
  if Numeral.digitLimit < whole.length then
    throw ⟨.longInteger, unsigned.drop (Numeral.digitLimit + 1)⟩
  let (fraction, rest) ← readFraction rest
  let (exponent, rest) ← readExponent rest
  return ((NumberText.mk negative whole fraction exponent).value, rest)

theorem readNumber_digits {text : List Char} (h : Digits digits) :
    readNumber (digits ++ text) = readUnsigned false (digits ++ text) := by
  obtain ⟨c, digits, rfl⟩ := List.exists_cons_of_ne_nil h.ne_nil
  have hc : c ≠ '-' := by
    rintro rfl
    exact absurd (h.isDigit '-' (by simp)) (by decide)
  simp [readNumber, readUnsigned, hc]

/-- A proper number is read from its text, unless its whole part is too long. -/
theorem readNumber_append_eq_ok_iff {n : NumberText} (hn : n.Proper) (hrest : EndsNumber rest)
    {result : Value × List Char} :
    readNumber (n.chars ++ rest) = .ok result ↔
      n.whole.length ≤ Numeral.digitLimit ∧ result = (n.value, rest) := by
  obtain ⟨negative, whole, fraction, exponent⟩ := n
  obtain ⟨hwhole, hleading, hfraction⟩ := hn
  dsimp only at hwhole hleading hfraction ⊢
  obtain ⟨hexponent, hpoint⟩ := endsDigits_exponentPart exponent hrest
  have hunsigned : readNumber (NumberText.chars ⟨negative, whole, fraction, exponent⟩ ++ rest) =
      readUnsigned negative
        (whole ++ (fractionPart fraction ++ (exponentPart exponent ++ rest))) := by
    cases negative with
    | true =>
      simp only [NumberText.chars, if_true, List.cons_append, List.append_assoc]
      rfl
    | false => simp [NumberText.chars, ← readNumber_digits hwhole]
  simp only [hunsigned, readUnsigned, bind_eq_ok_iff,
    readWhole_append hwhole hleading (endsDigits_fractionPart hexponent), Except.ok.injEq,
    exists_eq_left']
  by_cases hlong : Numeral.digitLimit < whole.length
  · refine iff_of_false ?_ (by omega)
    rw [if_pos hlong]
    exact nofun
  · simp only [hlong, if_false, bind_eq_ok_iff, readFraction_append hfraction hexponent hpoint,
      readExponent_append hrest, Except.ok.injEq, exists_eq_left']
    rw [and_iff_right (Nat.le_of_not_lt hlong)]
    exact ok_eq_ok_iff

end Message

end Json

/-! ### The texts of a layout -/

namespace Layout

open Json (NumberText)

/-- Digits after a point, or no fraction if there are none. -/
def fraction? (digits : List Char) : Option (List Char) :=
  if digits.isEmpty then none else some digits

theorem getD_fraction? (digits : List Char) : (fraction? digits).getD [] = digits := by
  cases digits <;> rfl

/-- The parts of the text of a decimal with a sign, in the plain layout. -/
def decimalText (negative : Bool) (d : Decimal) : NumberText :=
  let digits := Nat.toDigits 10 d.coefficient
  let point := d.exponent + digits.length
  if point < -5 ∨ 21 < point then
    ⟨negative, digits.take 1, fraction? (digits.drop 1), some (point - 1)⟩
  else if point ≤ 0 then ⟨negative, ['0'], some (List.replicate point.natAbs '0' ++ digits), none⟩
  else if 0 ≤ d.exponent then
    ⟨negative, digits ++ List.replicate d.exponent.natAbs '0', none, none⟩
  else ⟨negative, digits.take point.natAbs, some (digits.drop point.natAbs), none⟩

/-- The parts of the text of a finite number in the plain layout. -/
def numberText (negative : Bool) (significand : Nat) (exponent : Int) : NumberText :=
  let (n, d) := Binary64.scaleRatio significand 1 (-exponent)
  let sign := negative && significand ≠ 0
  if n % d = 0 ∧ n / d < Nat.pow 2 53 then ⟨sign, Nat.toDigits 10 (n / d), none, none⟩
  else decimalText sign (.shortest plain.selection significand exponent)

@[simp] theorem toList_pushn (c : Char) (n : Nat) :
    ("".pushn c n).toList = List.replicate n c := by
  rw [String.pushn_eq_repeat_push]
  induction n with
  | zero => rfl
  | succ n ih => rw [Nat.repeat, String.toList_push, ih, List.replicate_succ']

@[simp] theorem toList_padded_one (n : Nat) : (padded 1 n).toList = Nat.toDigits 10 n := by
  have hlength : 1 - n.repr.length = 0 := Nat.sub_eq_zero_of_le Nat.length_repr_pos
  simp [padded, hlength]

@[simp] theorem toList_exponentText (exponent : Int) :
    (plain.exponentText exponent).toList = Json.exponentChars exponent := by
  by_cases hsign : exponent < 0 <;>
    simp [exponentText, Json.exponentChars, hsign, plain]

theorem toList_magnitude (negative : Bool) (d : Decimal) :
    (if negative then ['-'] else []) ++ (plain.magnitude d).toList =
      (decimalText negative d).chars := by
  rw [magnitude, decimalText]
  generalize Nat.toDigits 10 d.coefficient = digits
  dsimp only
  generalize d.exponent + (digits.length : Int) = point
  have hleast : plain.leastPoint = -5 := rfl
  have hgreatest : plain.greatestPoint = 21 := rfl
  have hmark : plain.wholeMark = "" := rfl
  rw [hleast, hgreatest, hmark]
  by_cases hfar : point < -5 ∨ 21 < point
  · simp only [if_pos hfar]
    cases htail : digits.drop 1 with
    | nil => simp [NumberText.chars, fraction?, Json.fractionPart, Json.exponentPart]
    | cons c tail => simp [NumberText.chars, fraction?, Json.fractionPart, Json.exponentPart]
  · simp only [if_neg hfar]
    by_cases hsmall : point ≤ 0
    · simp [hsmall, NumberText.chars, Json.fractionPart, Json.exponentPart]
    · simp only [if_neg hsmall]
      by_cases hwhole : 0 ≤ d.exponent
      · simp [hwhole, NumberText.chars, Json.fractionPart, Json.exponentPart]
      · simp [hwhole, NumberText.chars, Json.fractionPart, Json.exponentPart]

open Json (Digits digits_toDigits digitsValue_eq)

theorem digits_take {digits : List Char} (h : Digits digits) {n : Nat} (hn : 0 < n) :
    Digits (digits.take n) where
  ne_nil := by simp [h.ne_nil, Nat.ne_of_gt hn]
  isDigit c hc := h.isDigit c (List.mem_of_mem_take hc)

theorem digits_drop {digits : List Char} (h : Digits digits) {n : Nat} (hn : n < digits.length) :
    Digits (digits.drop n) where
  ne_nil := by simpa using hn
  isDigit c hc := h.isDigit c (List.mem_of_mem_drop hc)

theorem digits_append {first second : List Char} (h : Digits first)
    (hsecond : ∀ c ∈ second, c.isDigit = true) : Digits (first ++ second) where
  ne_nil := by simp [h.ne_nil]
  isDigit c hc := (List.mem_append.mp hc).elim (h.isDigit c) (hsecond c)

theorem isDigit_of_mem_replicate {n : Nat} {c : Char} (h : c ∈ List.replicate n '0') :
    c.isDigit = true := by
  rw [List.eq_of_mem_replicate h]
  rfl

/-- The text of a decimal can be read, unless it begins with a zero that stands for nothing. -/
theorem decimalText_proper (negative : Bool) {d : Decimal}
    (h : d.coefficient = 0 → d.exponent = 0) : (decimalText negative d).Proper := by
  have hdigits := digits_toDigits d.coefficient
  have hzero : (Nat.toDigits 10 d.coefficient).head? = some '0' →
      Nat.toDigits 10 d.coefficient = ['0'] ∧ d.exponent = 0 := by
    intro hhead
    have hcoefficient : d.coefficient = 0 := by
      by_contra hne
      exact Json.head?_toDigits_ne_zero hne hhead
    exact ⟨by rw [hcoefficient, Nat.toDigits_zero], h hcoefficient⟩
  rw [decimalText]
  generalize Nat.toDigits 10 d.coefficient = digits at hdigits hzero ⊢
  by_cases hfar : d.exponent + digits.length < -5 ∨ 21 < d.exponent + digits.length
  · rw [if_pos hfar]
    obtain ⟨c, tail, rfl⟩ := List.exists_cons_of_ne_nil hdigits.ne_nil
    refine ⟨digits_take hdigits Nat.one_pos, by simp, ?_⟩
    cases tail with
    | nil => simp [fraction?]
    | cons c' tail => simpa [fraction?] using digits_drop hdigits (n := 1) (by simp)
  rw [if_neg hfar]
  by_cases hsmall : d.exponent + digits.length ≤ 0
  · rw [if_pos hsmall]
    refine ⟨⟨by simp, by simp⟩, fun _ => rfl, ?_⟩
    rintro _ ⟨⟩
    exact ⟨by simp [hdigits.ne_nil], fun c hc => (List.mem_append.mp hc).elim
      isDigit_of_mem_replicate (hdigits.isDigit c)⟩
  rw [if_neg hsmall]
  by_cases hwhole : 0 ≤ d.exponent
  · rw [if_pos hwhole]
    refine ⟨digits_append hdigits fun c => isDigit_of_mem_replicate, fun hhead => ?_, by simp⟩
    have hfirst : digits.head? = some '0' := by
      obtain ⟨c, tail, rfl⟩ := List.exists_cons_of_ne_nil hdigits.ne_nil
      exact hhead
    obtain ⟨rfl, hexponent⟩ := hzero hfirst
    simp [hexponent]
  · rw [if_neg hwhole]
    have hpoint : (d.exponent + digits.length).natAbs < digits.length := by omega
    refine ⟨digits_take hdigits (by omega), fun hhead => ?_, ?_⟩
    · rw [List.head?_take, if_neg (by omega)] at hhead
      exact absurd (hzero hhead).2 (by omega)
    · rintro _ ⟨⟩
      exact digits_drop hdigits hpoint

theorem value_of_exponent (negative : Bool) (whole : List Char) (fraction : Option (List Char))
    (exponent : Int) : NumberText.value ⟨negative, whole, fraction, some exponent⟩ =
      .number (.ofDecimal .even negative (Nat.ofDigitChars 10 (whole ++ fraction.getD []) 0)
        (exponent - (fraction.getD []).length)) := by
  rw [← digitsValue_eq]
  cases fraction <;> rfl

/-- The value of the text of a decimal: an integer if it is written without a point and without an
exponent. -/
theorem value_decimalText (negative : Bool) (d : Decimal) :
    (decimalText negative d).value =
      if 0 ≤ d.exponent ∧ d.exponent + (Nat.toDigits 10 d.coefficient).length ≤ 21 then
        .integer (Binary64.signed negative (d.coefficient * 10 ^ d.exponent.natAbs))
      else .number (.ofDecimal .even negative d.coefficient d.exponent) := by
  have hvalue := Nat.ofDigitChars_toDigits (b := 10) (n := d.coefficient) (by decide) (by decide)
  have hpos : 0 < (Nat.toDigits 10 d.coefficient).length := Nat.length_toDigits_pos
  rw [decimalText]
  generalize Nat.toDigits 10 d.coefficient = digits at hvalue hpos ⊢
  by_cases hfar : d.exponent + digits.length < -5 ∨ 21 < d.exponent + digits.length
  · have hnot : ¬ (0 ≤ d.exponent ∧ d.exponent + digits.length ≤ 21) := by omega
    rw [if_pos hfar, if_neg hnot]
    have hexponent : d.exponent + digits.length - 1 - (digits.length - 1 : Nat) = d.exponent := by
      omega
    rw [value_of_exponent, getD_fraction?, List.take_append_drop, hvalue, List.length_drop,
      hexponent]
  rw [if_neg hfar]
  by_cases hsmall : d.exponent + digits.length ≤ 0
  · rw [if_pos hsmall, if_neg (by omega)]
    have hexponent : (0 : Int) - ((d.exponent + digits.length).natAbs + digits.length : Nat) =
        d.exponent := by omega
    simp only [NumberText.value, Option.getD_some, Option.getD_none, List.singleton_append,
      digitsValue_eq, List.length_append, List.length_replicate, hexponent,
      Nat.ofDigitChars_cons, Nat.ofDigitChars_append, Nat.ofDigitChars_replicate_zero]
    simp [hvalue]
  rw [if_neg hsmall]
  by_cases hwhole : 0 ≤ d.exponent
  · rw [if_pos hwhole, if_pos (by omega)]
    simp [NumberText.value, digitsValue_eq, Nat.ofDigitChars_append, hvalue, Nat.mul_comm]
  · rw [if_neg hwhole, if_neg (by omega)]
    have hexponent : (0 : Int) - (digits.length - (d.exponent + digits.length).natAbs : Nat) =
        d.exponent := by omega
    simp only [NumberText.value, Option.getD_some, Option.getD_none, List.take_append_drop,
      digitsValue_eq, hvalue, List.length_drop, hexponent]

theorem toList_finite (negative : Bool) (significand : Nat) (exponent : Int) :
    (plain.finite negative significand exponent).toList =
      (numberText negative significand exponent).chars := by
  have hsigned : plain.signedZero = false := rfl
  have hmark : plain.wholeMark = "" := rfl
  rw [finite, numberText]
  simp only [hsigned, hmark, Bool.or_false]
  generalize (negative && decide (significand ≠ 0)) = sign
  split_ifs with h hsign hsign
  · simp [NumberText.chars, hsign, Json.fractionPart, Json.exponentPart]
  · simp [NumberText.chars, hsign, Json.fractionPart, Json.exponentPart]
  · rw [← toList_magnitude, if_pos hsign, String.toList_append]
    rfl
  · rw [← toList_magnitude, if_neg hsign, String.toList_append]
    rfl

theorem numberText_proper (negative : Bool) (significand : Nat) (exponent : Int) :
    (numberText negative significand exponent).Proper := by
  simp only [numberText]
  split_ifs with h
  · exact ⟨digits_toDigits _, Json.leading_toDigits _, by simp⟩
  · refine decimalText_proper _ (Decimal.exponent_shortest_of_zero ?_)
    -- Zero is whole, so it is not written as a shortest decimal.
    refine Nat.pos_of_ne_zero fun hzero => h ?_
    subst hzero
    simp only [Binary64.scaleRatio]
    split_ifs <;> simp

theorem length_whole_decimalText (negative : Bool) (d : Decimal) :
    (decimalText negative d).whole.length ≤ 21 := by
  simp only [decimalText]
  split_ifs with hfar hsmall hwhole
  · exact Nat.le_trans (List.length_take_le 1 _) (by decide)
  · simp
  · simp only [List.length_append, List.length_replicate]
    omega
  · exact Nat.le_trans (List.length_take_le _ _) (by omega)

theorem length_whole_numberText (negative : Bool) (significand : Nat) (exponent : Int) :
    (numberText negative significand exponent).whole.length ≤ Numeral.digitLimit := by
  have hlimit : 21 ≤ Numeral.digitLimit := by decide
  simp only [numberText]
  split_ifs with h
  · have hsize : Nat.pow 2 53 ≤ 10 ^ 21 := by decide
    have hlength := (Nat.length_toDigits_le_iff (b := 10) (by decide) (by decide)).mpr
      (Nat.lt_of_lt_of_le h.2 hsize)
    exact Nat.le_trans hlength hlimit
  · exact Nat.le_trans (length_whole_decimalText _ _) hlimit

end Layout

/-- What is read from the text of a number: an integer, if it is written without a point and
without an exponent. -/
def Binary64.reread : Binary64 → Json.Value
  | .finite negative significand exponent =>
    (Layout.numberText negative significand exponent).value
  | x => .number x

end CoffeeHost
