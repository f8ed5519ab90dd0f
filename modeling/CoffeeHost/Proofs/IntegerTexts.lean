import CoffeeHost.Source.Loose
import Mathlib.Data.List.TakeWhile
import Mathlib.Data.Option.Basic
import Mathlib.Tactic.SplitIfs
/-!
# Integers in texts

A text stands for an integer if it is a numeral, perhaps after a sign and perhaps with blanks
around. The digits may be of any script, of several ones even. The reader of integers does not look
at scripts: it first turns blanks and digits into those of ASCII and all other characters beyond
ASCII into one that occurs nowhere in an integer. Nothing is lost by that, so it reads exactly the
texts of this form.

## Main definitions

* `Numeral.Written` — the characters of a numeral, for digits of some kind.
* `Numeral.Sign` — the characters of a sign.
* `Source.IntegerText` — the texts that stand for integers.

## Main results

* `Source.asciiDigit?_toAscii`, `Source.isPadding_toAscii` — digits and blanks are kept.
* `Text.exists_trim`, `Text.trim_append` — what trimming leaves.
* `Numeral.digits?_eq_some_iff` — which characters are read as a numeral.
* `Source.integerText?_eq_some_iff` — which texts are read as integers.
-/

namespace CoffeeHost

/-! ### Digits of all scripts -/

namespace Text

variable {c : Char} {digit : Nat}

theorem exists_zero_of_decimalValue? (h : decimalValue? c = some digit) :
    ∃ first ∈ digitZeros, c.toNat = first + digit ∧ digit < 10 := by
  obtain ⟨first, hfind, rfl⟩ := Option.map_eq_some_iff.mp h
  have hrange := List.find?_some hfind
  simp only [Bool.and_eq_true, decide_eq_true_eq] at hrange
  exact ⟨first, List.mem_of_find?_eq_some hfind, by omega, by omega⟩

/-- Below the other scripts there are only the digits of ASCII. -/
theorem decimalValue?_of_lt (h : c.toNat < 0x660) : decimalValue? c = asciiDigit? c := by
  -- All zeros but that of ASCII are beyond the bound.
  have hlater : ∀ first ∈ digitZeros.tail, 0x660 ≤ first := by decide
  have hnone :
      digitZeros.tail.find? (fun first => first ≤ c.toNat && c.toNat ≤ first + 9) = none := by
    refine List.find?_eq_none.mpr fun first hfirst => ?_
    have hle := hlater first hfirst
    simp only [Bool.and_eq_true, decide_eq_true_eq]
    omega
  have hdigit : c.isDigit = (0x30 ≤ c.toNat && c.toNat ≤ 0x30 + 9) := by
    rw [Bool.eq_iff_iff, Char.isDigit_iff_toNat, Bool.and_eq_true, decide_eq_true_iff,
      decide_eq_true_iff]
    rfl
  change ((0x30 :: digitZeros.tail).find? _).map _ = _
  rw [List.find?_cons, hnone, asciiDigit?, hdigit]
  cases (0x30 ≤ c.toNat && c.toNat ≤ 0x30 + 9 : Bool) <;> rfl

/-- No digit is a blank. -/
theorem isSpace_of_decimalValue? (h : decimalValue? c = some digit) : isSpace c = false := by
  have hnone : ∀ first ∈ digitZeros, ∀ digit < 10,
      isSpace (Char.ofNat (first + digit)) = false := by decide
  obtain ⟨first, hfirst, hc, hdigit⟩ := exists_zero_of_decimalValue? h
  rw [← Char.ofNat_toNat c, hc]
  exact hnone first hfirst digit hdigit

theorem asciiDigit?_ofNat (h : digit < 10) :
    asciiDigit? (Char.ofNat (48 + digit)) = some digit := by
  have hall : ∀ digit < 10, asciiDigit? (Char.ofNat (48 + digit)) = some digit := by decide
  exact hall digit h

end Text

namespace Source

variable {c : Char}

theorem isPadding_eq_isSpace (h : c.toNat < 127) : isPadding c = Text.isSpace c := by
  have hblank : c = ' ' ↔ c.toNat = 0x20 := Char.toNat_inj.symm
  rw [Bool.eq_iff_iff, isPadding, Text.isSpace]
  simp only [hblank, Bool.or_eq_true, Bool.and_eq_true, decide_eq_true_eq, beq_iff_eq]
  omega

/-- What becomes of a character beyond ASCII. -/
theorem toAscii_cases (c : Char) :
    c.toNat < 127 ∧ toAscii c = c ∨
    Text.isSpace c = true ∧ toAscii c = ' ' ∨
    (∃ digit, Text.decimalValue? c = some digit ∧ toAscii c = Char.ofNat (48 + digit)) ∨
    Text.isSpace c = false ∧ Text.decimalValue? c = none ∧ toAscii c = '?' := by
  rw [toAscii]
  split_ifs with hlow hspace
  · exact .inl ⟨hlow, rfl⟩
  · exact .inr (.inl ⟨hspace, rfl⟩)
  · cases hdigit : Text.decimalValue? c with
    | some digit => exact .inr (.inr (.inl ⟨digit, rfl, rfl⟩))
    | none => exact .inr (.inr (.inr ⟨by simpa using hspace, rfl, rfl⟩))

theorem isPadding_toAscii (c : Char) : isPadding (toAscii c) = Text.isSpace c := by
  have hdigits : ∀ digit < 10, isPadding (Char.ofNat (48 + digit)) = false := by decide
  rcases toAscii_cases c with ⟨hlow, h⟩ | ⟨hspace, h⟩ | ⟨digit, hdigit, h⟩ | ⟨hspace, -, h⟩
  · rw [h, isPadding_eq_isSpace hlow]
  · rw [h, hspace]
    rfl
  · obtain ⟨-, -, -, hlt⟩ := Text.exists_zero_of_decimalValue? hdigit
    rw [h, Text.isSpace_of_decimalValue? hdigit, hdigits digit hlt]
  · rw [h, hspace]
    rfl

theorem asciiDigit?_toAscii (c : Char) : Text.asciiDigit? (toAscii c) = Text.decimalValue? c := by
  rcases toAscii_cases c with ⟨hlow, h⟩ | ⟨hspace, h⟩ | ⟨digit, hdigit, h⟩ | ⟨-, hnone, h⟩
  · rw [h, Text.decimalValue?_of_lt (by omega)]
  · rw [h]
    cases hdigit : Text.decimalValue? c with
    | none => rfl
    | some digit => exact absurd hspace (by simp [Text.isSpace_of_decimalValue? hdigit])
  · obtain ⟨-, -, -, hlt⟩ := Text.exists_zero_of_decimalValue? hdigit
    rw [h, hdigit, Text.asciiDigit?_ofNat hlt]
  · rw [h, hnone]
    rfl

/-- The other characters of integers stay what they are, and no others become one of them. -/
theorem toAscii_eq_iff {mark : Char} (hmark : mark = '_' ∨ mark = '-' ∨ mark = '+') :
    toAscii c = mark ↔ c = mark := by
  obtain ⟨hkept, hblank, hunknown, hdigits⟩ : toAscii mark = mark ∧ ' ' ≠ mark ∧ '?' ≠ mark ∧
      ∀ digit < 10, Char.ofNat (48 + digit) ≠ mark := by
    rcases hmark with rfl | rfl | rfl <;> decide
  constructor
  · intro heq
    rcases toAscii_cases c with ⟨-, h⟩ | ⟨-, h⟩ | ⟨digit, hdigit, h⟩ | ⟨-, -, h⟩
    · exact h.symm.trans heq
    · exact absurd (h.symm.trans heq) hblank
    · obtain ⟨-, -, -, hlt⟩ := Text.exists_zero_of_decimalValue? hdigit
      exact absurd (h.symm.trans heq) (hdigits digit hlt)
    · exact absurd (h.symm.trans heq) hunknown
  · rintro rfl
    exact hkept

end Source

/-! ### Blanks around -/

namespace Text

variable {drops : Char → Bool} {before core after : List Char}

theorem trim_map (f : Char → Char) (drops : Char → Bool) (text : List Char) :
    trim drops (text.map f) = (trim (drops ∘ f) text).map f := by
  simp only [trim, List.dropWhile_map, ← List.map_reverse]

/-- Trimming takes something off at both ends, all of it from the set. -/
theorem exists_trim (drops : Char → Bool) (text : List Char) :
    ∃ before after, text = before ++ trim drops text ++ after ∧
      ∀ c ∈ before ++ after, drops c = true := by
  let rest := text.dropWhile drops
  refine ⟨text.takeWhile drops, (rest.reverse.takeWhile drops).reverse, ?_, fun c hc => ?_⟩
  · have hrest : trim drops text ++ (rest.reverse.takeWhile drops).reverse = rest := by
      rw [trim, ← List.reverse_append, List.takeWhile_append_dropWhile, List.reverse_reverse]
    rw [List.append_assoc, hrest, List.takeWhile_append_dropWhile]
  · rcases List.mem_append.mp hc with hc | hc
    · exact List.mem_takeWhile_imp hc
    · exact List.mem_takeWhile_imp (List.mem_reverse.mp hc)

/-- What neither begins nor ends with a character of the set is left by trimming. -/
theorem trim_append {first last : Char} {rest front : List Char}
    (hends : ∀ c ∈ before ++ after, drops c = true)
    (hfirst : core = first :: rest) (hkept : drops first = false)
    (hlast : core = front ++ [last]) (hkept' : drops last = false) :
    trim drops (before ++ core ++ after) = core := by
  have hbefore : ∀ c ∈ before, drops c = true := fun c hc => hends c (List.mem_append_left _ hc)
  have hafter : ∀ c ∈ after.reverse, drops c = true := fun c hc =>
    hends c (List.mem_append_right _ (List.mem_reverse.mp hc))
  have hdrop : (before ++ core ++ after).dropWhile drops = core ++ after := by
    rw [List.append_assoc, List.dropWhile_append_of_pos hbefore, hfirst, List.cons_append,
      List.dropWhile_cons_of_neg (by simp [hkept])]
  have hdrop' : (core ++ after).reverse.dropWhile drops = core.reverse := by
    rw [List.reverse_append, List.dropWhile_append_of_pos hafter, hlast, List.reverse_append,
      List.reverse_singleton, List.singleton_append, List.dropWhile_cons_of_neg (by simp [hkept'])]
  rw [trim, hdrop, hdrop', List.reverse_reverse]

end Text

/-! ### Signs and numerals -/

namespace Numeral

/-- The characters of a sign, and whether it is a minus. -/
inductive Sign : List Char → Bool → Prop
  | none : Sign [] false
  | plus : Sign ['+'] false
  | minus : Sign ['-'] true

/-- The characters of a numeral and its digits, given the value of a character that is a digit. At
most one underscore stands between two digits. -/
inductive Written (value? : Char → Option Nat) : List Char → List Nat → Prop
  | last {c : Char} {digit : Nat} (h : value? c = some digit) : Written value? [c] [digit]
  | next {c : Char} {digit : Nat} {text : List Char} {digits : List Nat}
      (h : value? c = some digit) (hrest : Written value? text digits) :
      Written value? (c :: text) (digit :: digits)
  | joined {c : Char} {digit : Nat} {text : List Char} {digits : List Nat}
      (h : value? c = some digit) (hrest : Written value? text digits) :
      Written value? (c :: '_' :: text) (digit :: digits)

variable {value? : Char → Option Nat} {text sign rest : List Char} {digits : List Nat}
  {negative : Bool}

theorem exists_sign (text : List Char) :
    ∃ sign, text = sign ++ (splitSign text).2 ∧ Sign sign (splitSign text).1 := by
  rw [splitSign.eq_def]
  split
  · exact ⟨['-'], rfl, .minus⟩
  · exact ⟨['+'], rfl, .plus⟩
  · exact ⟨[], rfl, .none⟩

theorem Sign.splitSign_append (h : Sign sign negative)
    (hrest : ∀ c ∈ rest.head?, c ≠ '-' ∧ c ≠ '+') :
    splitSign (sign ++ rest) = (negative, rest) := by
  cases h with
  | plus => rfl
  | minus => rfl
  | none =>
    rw [List.nil_append, splitSign.eq_def]
    split
    · exact absurd rfl (hrest '-' rfl).1
    · exact absurd rfl (hrest '+' rfl).2
    · rfl

theorem Written.head (h : Written value? text digits) :
    ∃ c rest digit, text = c :: rest ∧ value? c = some digit := by
  cases h with
  | last h => exact ⟨_, _, _, rfl, h⟩
  | next h => exact ⟨_, _, _, rfl, h⟩
  | joined h => exact ⟨_, _, _, rfl, h⟩

theorem Written.getLast (h : Written value? text digits) :
    ∃ front c digit, text = front ++ [c] ∧ value? c = some digit := by
  induction h with
  | last h => exact ⟨[], _, _, rfl, h⟩
  | next _ _ ih =>
    obtain ⟨front, c, digit, rfl, h⟩ := ih
    exact ⟨_ :: front, c, digit, rfl, h⟩
  | joined _ _ ih =>
    obtain ⟨front, c, digit, rfl, h⟩ := ih
    exact ⟨_ :: '_' :: front, c, digit, rfl, h⟩

/-- A numeral does not look like a sign. -/
theorem Written.head_not_sign (h : Written Text.decimalValue? text digits) :
    ∀ c ∈ text.head?, c ≠ '-' ∧ c ≠ '+' := by
  obtain ⟨c, rest, digit, rfl, hc⟩ := h.head
  intro c' hmem
  obtain rfl := Option.some.inj hmem
  have hminus : Text.decimalValue? '-' = none := by decide
  have hplus : Text.decimalValue? '+' = none := by decide
  refine ⟨?_, ?_⟩ <;> rintro rfl
  · exact Option.some_ne_none digit (hc.symm.trans hminus)
  · exact Option.some_ne_none digit (hc.symm.trans hplus)

/-- A numeral with its sign does not begin with a blank. -/
theorem Sign.head_append (hsign : Sign sign negative)
    (h : Written Text.decimalValue? text digits) :
    ∃ first rest, sign ++ text = first :: rest ∧ Text.isSpace first = false := by
  cases hsign with
  | none =>
    obtain ⟨c, rest, digit, rfl, hc⟩ := h.head
    exact ⟨c, rest, rfl, Text.isSpace_of_decimalValue? hc⟩
  | plus => exact ⟨'+', text, rfl, rfl⟩
  | minus => exact ⟨'-', text, rfl, rfl⟩

/-- The reader of numerals reads exactly the characters of numerals. -/
theorem digits?_eq_some_iff :
    digits? text = some digits ↔ Written Text.asciiDigit? text digits := by
  constructor
  · intro h
    fun_induction digits? text generalizing digits with
    | case1 => cases h
    | case2 c =>
      obtain ⟨digit, hc, rfl⟩ := Option.map_eq_some_iff.mp h
      exact .last hc
    | case3 c d rest ih =>
      obtain ⟨digit, hc, more, hmore, rfl⟩ := by
        simpa [Option.bind_eq_some_iff] using h
      exact .joined hc (ih hmore)
    | case4 c d rest _ ih =>
      obtain ⟨digit, hc, more, hmore, rfl⟩ := by
        simpa [Option.bind_eq_some_iff] using h
      exact .next hc (ih hmore)
  · intro h
    induction h with
    | last h => simp [digits?, h]
    | next h hrest ih =>
      obtain ⟨c, rest, digit, rfl, hc⟩ := hrest.head
      have hjoin : c ≠ '_' := by
        rintro rfl
        cases hc
      rw [digits?.eq_def]
      simp [h, ih, hjoin]
    | joined h hrest ih =>
      obtain ⟨c, rest, digit, rfl, hc⟩ := hrest.head
      simp [digits?, h, ih]

/-- A change of characters that keeps the values of digits and the underscores keeps numerals. -/
theorem written_map_iff {value?' : Char → Option Nat} {f : Char → Char}
    (hvalue : ∀ c, value?' (f c) = value? c) (hjoin : ∀ c, f c = '_' ↔ c = '_') :
    Written value?' (text.map f) digits ↔ Written value? text digits := by
  constructor
  · intro h
    generalize hmap : text.map f = mapped at h
    induction h generalizing text with
    | last h =>
      obtain ⟨c, rfl, rfl⟩ := List.map_eq_singleton_iff.mp hmap
      exact .last (hvalue c ▸ h)
    | next h _ ih =>
      obtain ⟨c, rest, rfl, rfl, hrest⟩ := List.map_eq_cons_iff.mp hmap
      exact .next (hvalue c ▸ h) (ih hrest)
    | joined h _ ih =>
      obtain ⟨c, tail, rfl, rfl, htail⟩ := List.map_eq_cons_iff.mp hmap
      obtain ⟨mark, rest, rfl, hmark, hrest⟩ := List.map_eq_cons_iff.mp htail
      obtain rfl := (hjoin mark).mp hmark
      exact .joined (hvalue c ▸ h) (ih hrest)
  · intro h
    induction h with
    | last h => exact .last ((hvalue _).trans h)
    | next h _ ih => exact .next ((hvalue _).trans h) ih
    | joined h _ ih =>
      rw [List.map_cons, List.map_cons, (hjoin '_').mpr rfl]
      exact .joined ((hvalue _).trans h) ih

end Numeral

/-! ### Integers -/

namespace Source

/-- The texts that stand for integers: a numeral in digits of any script, perhaps with a sign in
front of it and with blanks around. There is a limit to the count of digits. -/
inductive IntegerText (text : String) : Int → Prop
  | intro {before sign numeral after : List Char} {negative : Bool} {digits : List Nat}
      (htext : text.toList = before ++ (sign ++ numeral) ++ after)
      (hblank : ∀ c ∈ before ++ after, Text.isSpace c = true)
      (hsign : Numeral.Sign sign negative)
      (hnumeral : Numeral.Written Text.decimalValue? numeral digits)
      (hlength : digits.length ≤ Numeral.digitLimit) :
      IntegerText text (Binary64.signed negative (Numeral.value digits))

variable {text : String} {i : Int}

theorem trim_toAscii (text : List Char) :
    Text.trim isPadding (text.map toAscii) = (Text.trim Text.isSpace text).map toAscii := by
  rw [Text.trim_map]
  congr 1
  exact congrArg (Text.trim · text) (funext isPadding_toAscii)

theorem splitSign_toAscii (text : List Char) :
    Numeral.splitSign (text.map toAscii) =
      ((Numeral.splitSign text).1, (Numeral.splitSign text).2.map toAscii) := by
  cases text with
  | nil => rfl
  | cons c rest =>
    by_cases hminus : c = '-'
    · subst hminus
      rfl
    by_cases hplus : c = '+'
    · subst hplus
      rfl
    have hplain {mapped : List Char} (h : ∀ c ∈ mapped.head?, c ≠ '-' ∧ c ≠ '+') :
        Numeral.splitSign mapped = (false, mapped) := Numeral.Sign.none.splitSign_append h
    have hmapped : toAscii c ≠ '-' ∧ toAscii c ≠ '+' :=
      ⟨mt (toAscii_eq_iff (by decide)).mp hminus, mt (toAscii_eq_iff (by decide)).mp hplus⟩
    rw [List.map_cons, hplain (by simpa using hmapped), hplain (by simpa using ⟨hminus, hplus⟩)]
    rfl

/-- What is read, with the characters as they are. -/
theorem integerText?_eq_some_iff_written {trimmed : List Char}
    (htrimmed : Text.trim Text.isSpace text.toList = trimmed) :
    integerText? text = some i ↔
      ∃ digits, Numeral.Written Text.decimalValue? (Numeral.splitSign trimmed).2 digits ∧
        digits.length ≤ Numeral.digitLimit ∧
        Binary64.signed (Numeral.splitSign trimmed).1 (Numeral.value digits) = i := by
  have hwritten (numeral : List Char) (digits : List Nat) :
      Numeral.digits? (numeral.map toAscii) = some digits ↔
        Numeral.Written Text.decimalValue? numeral digits := by
    rw [Numeral.digits?_eq_some_iff, Numeral.written_map_iff asciiDigit?_toAscii]
    exact fun c => toAscii_eq_iff (by decide)
  rw [integerText?, trim_toAscii, htrimmed, splitSign_toAscii]
  simp only [Option.bind_eq_bind, Option.bind_eq_some_iff, hwritten,
    Option.guard_eq_some', Option.pure_def, Option.some.injEq, exists_and_left, exists_const]

/-- The reader of integers reads exactly the texts that stand for integers. -/
theorem integerText?_eq_some_iff : integerText? text = some i ↔ IntegerText text i := by
  constructor
  · intro h
    obtain ⟨digits, hnumeral, hlength, rfl⟩ := (integerText?_eq_some_iff_written rfl).mp h
    obtain ⟨before, after, htext, hblank⟩ := Text.exists_trim Text.isSpace text.toList
    obtain ⟨sign, htrimmed, hsign⟩ := Numeral.exists_sign (Text.trim Text.isSpace text.toList)
    rw [htrimmed] at htext
    exact .intro htext hblank hsign hnumeral hlength
  · intro h
    cases h with
    | @intro before sign numeral after negative digits htext hblank hsign hnumeral hlength =>
      -- The sign or a digit comes first and a digit comes last, so trimming stops there.
      obtain ⟨first, rest, hfirst, hkept⟩ := hsign.head_append hnumeral
      obtain ⟨front, last, digit, hlast, hdigit⟩ := hnumeral.getLast
      have htrimmed : Text.trim Text.isSpace text.toList = sign ++ numeral := by
        have hcore : sign ++ numeral = sign ++ front ++ [last] := by rw [hlast, List.append_assoc]
        rw [htext]
        exact Text.trim_append hblank hfirst hkept hcore (Text.isSpace_of_decimalValue? hdigit)
      have hsplit := hsign.splitSign_append hnumeral.head_not_sign
      refine (integerText?_eq_some_iff_written htrimmed).mpr ⟨digits, ?_, hlength, ?_⟩
      · rw [hsplit]
        exact hnumeral
      · rw [hsplit]

/-- A minus, and digits of three scripts. -/
example : integerText? "\u3000-\u0663_7\uff10\n" = some (-370) := by decide

end Source

end CoffeeHost
