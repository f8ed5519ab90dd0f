import CoffeeHost.Json.Printer
import CoffeeHost.Proofs.LiteralReading
import CoffeeHost.Proofs.NumberTexts
/-!
# Reading printed messages back

What a script prints for a value is read as the value again, whatever is escaped in its strings. It
cannot be read only if it is nested too deeply or holds an integer of too many digits. Numbers come
back as their texts say, and of several members with one key the last one counts.

This is proved by induction on the value, for its text inside any containers and with any text
after it with which no number goes on. The reader counts its steps; twice the length of a text is
always enough of them.

## Main definitions

* `Json.Value.chars`: a printed value as characters.
* `Json.Value.reread`, `Json.Value.Readable`: what is read from it, and whether it can be read.
* `Json.Message.ReadsBack`: a printed value is read back, whatever follows it.

## Main results

* `Json.Message.readString_literal`: the text of a string is read back.
* `Json.Message.readsBack`: every printed value is read back.
* `Json.Message.read_print_eq_ok_iff`: what is read from the message that a value is printed as.
-/

namespace CoffeeHost

namespace Json

namespace Message

/-! ### Strings -/

variable {rest : List Char}

/-- What the reader of characters gives back after one more character. -/
def prepend (c : Char) (reading : Reading (List Char × List Char)) :
    Reading (List Char × List Char) :=
  reading.map fun (cs, rest) => (c :: cs, rest)

theorem readChars_unit {c : Char} (h : Text.codeUnits c = [c.toNat]) :
    readChars (charEscape c ++ rest) = prepend c (readChars rest) := by
  have hunit : c.toNat < 0x10000 := Text.codeUnits_lt (h ▸ List.mem_singleton_self _)
  obtain ⟨x, y, z, w, hdigits, hvalue⟩ := Text.hexUnit?_hexDigits hunit
  rw [charEscape, h, readChars.eq_def]
  simp [unitEscape, hdigits, hvalue, Text.isHighSurrogate_toNat, Text.isLowSurrogate_toNat, prepend]

theorem readChars_pair {c : Char} {high low : Nat} (h : Text.codeUnits c = [high, low])
    (hhigh : Text.isHighSurrogate high = true) (hlow : Text.isLowSurrogate low = true)
    (hjoin : Text.ofSurrogates high low = c) :
    readChars (charEscape c ++ rest) = prepend c (readChars rest) := by
  have hunits (unit : Nat) (hmem : unit ∈ [high, low]) : unit < 0x10000 :=
    Text.codeUnits_lt (h ▸ hmem)
  obtain ⟨x, y, z, w, hdigits, hvalue⟩ := Text.hexUnit?_hexDigits (hunits high (by simp))
  obtain ⟨x', y', z', w', hdigits', hvalue'⟩ := Text.hexUnit?_hexDigits (hunits low (by simp))
  have hnot : Text.isLowSurrogate high = false := by
    simp only [Text.isHighSurrogate, Bool.and_eq_true, decide_eq_true_eq] at hhigh
    simp only [Text.isLowSurrogate, Bool.and_eq_false_iff, decide_eq_false_iff_not]
    omega
  rw [charEscape, h, readChars.eq_def]
  simp [unitEscape, hdigits, hdigits', hvalue, hvalue', hhigh, hlow, hnot, hjoin, prepend]

/-- What a literal shows for a character is read as the character. -/
theorem readChars_shown {c : Char} {shown : List Char} (h : Shown c shown) :
    readChars (shown ++ rest) = prepend c (readChars rest) := by
  cases h with
  | short letter h =>
    have hu : letter ≠ 'u' := by
      rintro rfl
      simp [shortEscape?] at h
    rw [readChars.eq_def]
    simp [h, hu, prepend]
  | escaped =>
    rcases Text.codeUnits_cases c with hunit | ⟨high, low, hunits, hhigh, hlow, hjoin⟩
    · exact readChars_unit hunit
    · exact readChars_pair hunits hhigh hlow hjoin
  | plain hquote hbackslash hvisible =>
    rw [readChars.eq_def]
    simp only [List.singleton_append, hquote, hbackslash, hvisible, if_false]
    rfl

/-- The text of a literal is read back, up to its closing quote. -/
theorem readString_literal (escaping : Escaping) (text : String) (rest : List Char) :
    readString (text.toList.flatMap (literalChar escaping) ++ '"' :: rest) = .ok (text, rest) := by
  have hread (text : List Char) : readChars (text.flatMap (literalChar escaping) ++ '"' :: rest) =
      .ok (text, rest) := by
    induction text with
    | nil => simp [readChars.eq_def]
    | cons c text ih =>
      rw [List.flatMap_cons, List.append_assoc, readChars_shown (shown_literalChar escaping c), ih]
      rfl
  rw [readString, hread]
  simp [Except.map]

end Message

/-! ### Printed values -/

/-- How scripts print values, with any escaping of strings. -/
def Style.scripted (escaping : Escaping) : Style := { Style.script with escaping }

/-- A printed value as characters. -/
def Value.chars (escaping : Escaping) (level : Nat) (value : Value) : List Char :=
  (value.printAt (.scripted escaping) level).toList

/-- Printed items as characters, up to the closing bracket. -/
def itemsChars (escaping : Escaping) (level : Nat) (items : List Value) : List Char :=
  [','].intercalate ((printItems (.scripted escaping) level items).map String.toList) ++ [']']

/-- Printed members as characters, up to the closing brace. -/
def membersChars (escaping : Escaping) (level : Nat) (members : List (String × Value)) :
    List Char :=
  [','].intercalate ((printMembers (.scripted escaping) level members).map String.toList) ++
    ['\x7d']

section Chars

variable (escaping : Escaping) (level : Nat)

theorem toList_enclose (opening closing : Char) (items : List String) :
    ((Style.scripted escaping).enclose level (.singleton opening) (.singleton closing)
      items).toList = opening :: [','].intercalate (items.map String.toList) ++ [closing] := by
  have hbreak (level : Nat) : (Style.scripted escaping).lineBreak level = "" := rfl
  have hseparator : (Style.scripted escaping).itemSeparator = "," := rfl
  rw [Style.enclose, hbreak, hbreak, hseparator]
  cases items with
  | nil => simp
  | cons item items => simp [String.toList_intercalate]

@[simp] theorem chars_array (items : List Value) :
    (Value.array items).chars escaping level = '[' :: itemsChars escaping (level + 1) items := by
  rw [Value.chars, Value.printAt]
  exact toList_enclose escaping level '[' ']' _

@[simp] theorem chars_object (members : List (String × Value)) :
    (Value.object members).chars escaping level =
      '\x7b' :: membersChars escaping (level + 1) members := by
  rw [Value.chars, Value.printAt]
  exact toList_enclose escaping level '\x7b' '\x7d' _

@[simp] theorem itemsChars_nil : itemsChars escaping level [] = [']'] := rfl

@[simp] theorem itemsChars_singleton (item : Value) :
    itemsChars escaping level [item] = item.chars escaping level ++ [']'] := by
  simp [itemsChars, printItems, Value.chars]

@[simp] theorem itemsChars_cons_cons (item next : Value) (items : List Value) :
    itemsChars escaping level (item :: next :: items) =
      item.chars escaping level ++ ',' :: itemsChars escaping level (next :: items) := by
  simp [itemsChars, printItems, Value.chars]

@[simp] theorem membersChars_nil : membersChars escaping level [] = ['\x7d'] := rfl

/-- A printed member as characters. -/
def memberChars (member : String × Value) : List Char :=
  literalChars escaping member.1.toList ++ ':' :: member.2.chars escaping level

@[simp] theorem membersChars_singleton (member : String × Value) :
    membersChars escaping level [member] = memberChars escaping level member ++ ['\x7d'] := by
  have hseparator : (Style.scripted escaping).keySeparator = ":" := rfl
  simp [membersChars, printMembers, memberChars, Value.chars, literal, hseparator]
  rfl

@[simp] theorem membersChars_cons_cons (member next : String × Value)
    (members : List (String × Value)) :
    membersChars escaping level (member :: next :: members) =
      memberChars escaping level member ++
        ',' :: membersChars escaping level (next :: members) := by
  have hseparator : (Style.scripted escaping).keySeparator = ":" := rfl
  simp [membersChars, printMembers, memberChars, Value.chars, literal, hseparator]
  rfl

end Chars

/-! ### What is read back -/

mutual

/-- What is read from the text of a value. -/
def Value.reread : Value → Value
  | .number x => x.reread
  | .array items => .array (rereadItems items)
  | .object members => .object (Members.ofPairs (rereadMembers members))
  | value => value

/-- What is read from the texts of items. -/
def rereadItems : List Value → List Value
  | [] => []
  | item :: rest => item.reread :: rereadItems rest

/-- What is read from the texts of members. -/
def rereadMembers : List (String × Value) → List (String × Value)
  | [] => []
  | (key, value) :: rest => (key, value.reread) :: rereadMembers rest

end

mutual

/-- A value whose text can be read inside `depth` containers: it is not nested too deeply, and its
integers are not too long. -/
def Value.Readable : (depth : Nat) → Value → Prop
  | depth, .integer i =>
    depth ≤ Message.depthLimit ∧ (Nat.toDigits 10 i.natAbs).length ≤ Numeral.digitLimit
  | depth, .array items => depth ≤ Message.depthLimit ∧ ItemsReadable (depth + 1) items
  | depth, .object members => depth ≤ Message.depthLimit ∧ MembersReadable (depth + 1) members
  | depth, _ => depth ≤ Message.depthLimit

/-- Items that can be read inside `depth` containers. -/
def ItemsReadable : (depth : Nat) → List Value → Prop
  | _, [] => True
  | depth, item :: rest => item.Readable depth ∧ ItemsReadable depth rest

/-- Members that can be read inside `depth` containers. -/
def MembersReadable : (depth : Nat) → List (String × Value) → Prop
  | _, [] => True
  | depth, (_, value) :: rest => value.Readable depth ∧ MembersReadable depth rest

end

/-- The parts of the text of an integer. -/
def integerText (i : Int) : NumberText := ⟨decide (i < 0), Nat.toDigits 10 i.natAbs, none, none⟩

theorem toList_repr (i : Int) : i.repr.toList = (integerText i).chars := by
  rw [Int.repr_eq_if, integerText, NumberText.chars]
  by_cases hi : 0 ≤ i
  · have hnat : i.toNat = i.natAbs := by omega
    simp [hi, Int.not_lt.mpr hi, hnat, fractionPart, exponentPart]
  · have hnat : (-i).toNat = i.natAbs := by omega
    simp [hi, Int.not_le.mp hi, hnat, fractionPart, exponentPart]

theorem value_integerText (i : Int) : (integerText i).value = .integer i := by
  have hsigned : Binary64.signed (decide (i < 0)) i.natAbs = i := by
    simp only [Binary64.signed, decide_eq_true_eq]
    split_ifs <;> omega
  simp [integerText, NumberText.value, hsigned]

theorem integerText_proper (i : Int) : (integerText i).Proper :=
  ⟨digits_toDigits _, leading_toDigits _, by simp [integerText]⟩

namespace Message

variable {fuel depth : Nat} {text rest : List Char} {result : Value × List Char}

/-- Reading a number that is no word. -/
theorem readScalar_number {n : NumberText} (h : n.Proper) (text : List Char) :
    readScalar (n.chars ++ text) = readNumber (n.chars ++ text) := by
  obtain ⟨negative, whole, fraction, exponent⟩ := n
  obtain ⟨c, digits, rfl⟩ := List.exists_cons_of_ne_nil h.whole.ne_nil
  have hc : c.isDigit = true := h.whole.isDigit c (by simp)
  have hne (d : Char) : d.isDigit = false → c ≠ d := ne_of_isDigit hc
  cases negative with
  | true => simp [NumberText.chars, readScalar, hne 'I' rfl]
  | false =>
    simp [NumberText.chars, readScalar, hc, hne 't' rfl, hne 'f' rfl, hne 'n' rfl, hne 'N' rfl,
      hne 'I' rfl, hne '-' rfl]

/-- Reading a scalar. -/
theorem readValue_scalar {c : Char} (hquote : c ≠ '"') (hbracket : c ≠ '[')
    (hbrace : c ≠ '\x7b') : readValue (fuel + 1) depth (c :: text) = .ok result ↔
      depth ≤ depthLimit ∧ readScalar (c :: text) = .ok result := by
  rw [readValue.eq_def]
  by_cases hdeep : depthLimit < depth
  · simp [hdeep, Nat.not_le.mpr hdeep]
  · simp [hdeep, Nat.not_lt.mp hdeep, hquote, hbracket, hbrace]

theorem readValue_number {n : NumberText} (hn : n.Proper) (hrest : EndsNumber rest) :
    readValue (fuel + 1) depth (n.chars ++ rest) = .ok result ↔
      depth ≤ depthLimit ∧ n.whole.length ≤ Numeral.digitLimit ∧ result = (n.value, rest) := by
  rw [← readNumber_append_eq_ok_iff hn hrest, ← readScalar_number hn]
  obtain ⟨c, digits, hwhole⟩ := List.exists_cons_of_ne_nil hn.whole.ne_nil
  have hc : c.isDigit = true := hn.whole.isDigit c (by simp [hwhole])
  have hne (d : Char) : d.isDigit = false → c ≠ d := ne_of_isDigit hc
  rw [NumberText.chars, hwhole]
  cases n.negative with
  | true => exact readValue_scalar (by decide) (by decide) (by decide)
  | false => exact readValue_scalar (hne '"' rfl) (hne '[' rfl) (hne '\x7b' rfl)

/-- Reading a word. -/
theorem readWord_append (value : Value) (word rest : List Char) :
    readWord value word (word ++ rest) = .ok (value, rest) := by
  induction word with
  | nil => cases rest <;> rfl
  | cons c word ih => rw [List.cons_append, readWord, if_pos rfl, ih]

/-- Reading a string. -/
theorem readValue_string : readValue (fuel + 1) depth ('"' :: text) = .ok result ↔
    depth ≤ depthLimit ∧ ∃ s rest, readString text = .ok (s, rest) ∧ (.text s, rest) = result := by
  rw [readValue.eq_def]
  by_cases hdeep : depthLimit < depth
  · simp [hdeep, Nat.not_le.mpr hdeep]
  · simp [hdeep, Nat.not_lt.mp hdeep, map_eq_ok_iff]

/-- Reading an array that is not empty. -/
theorem readValue_array {c : Char} (hblank : isBlank c = false) (hclose : c ≠ ']') :
    readValue (fuel + 1) depth ('[' :: c :: text) = .ok result ↔
      depth ≤ depthLimit ∧ ∃ items rest,
        readItems fuel (depth + 1) (c :: text) = .ok (items, rest) ∧
          (.array items, rest) = result := by
  rw [readValue.eq_def]
  by_cases hdeep : depthLimit < depth
  · simp [hdeep, Nat.not_le.mpr hdeep]
  · simp [hdeep, Nat.not_lt.mp hdeep, skipBlanks, hblank, hclose, map_eq_ok_iff]

/-- Reading an object that is not empty. -/
theorem readValue_object {c : Char} (hblank : isBlank c = false) (hclose : c ≠ '\x7d') :
    readValue (fuel + 1) depth ('\x7b' :: c :: text) = .ok result ↔
      depth ≤ depthLimit ∧ ∃ members rest,
        readMembers fuel (depth + 1) (c :: text) = .ok (members, rest) ∧
          (.object (Members.ofPairs members), rest) = result := by
  rw [readValue.eq_def]
  by_cases hdeep : depthLimit < depth
  · simp [hdeep, Nat.not_le.mpr hdeep]
  · simp [hdeep, Nat.not_lt.mp hdeep, skipBlanks, hblank, hclose, map_eq_ok_iff]

/-- The text of a value is read as what it says, if it can be read at all. -/
def ReadsBack (escaping : Escaping) (value : Value) : Prop :=
  ∀ (level fuel depth : Nat) (rest : List Char) (result : Value × List Char), EndsNumber rest →
    2 * (value.chars escaping level).length ≤ fuel + 1 →
    (readValue (fuel + 1) depth (value.chars escaping level ++ rest) = .ok result ↔
      value.Readable depth ∧ result = (value.reread, rest))

section ReadsBack

variable {escaping : Escaping} {level : Nat}

theorem chars_null : Value.null.chars escaping level = ['n', 'u', 'l', 'l'] := by
  simp [Value.chars, Value.printAt]

theorem chars_boolean (b : Bool) : (Value.boolean b).chars escaping level =
    if b then ['t', 'r', 'u', 'e'] else ['f', 'a', 'l', 's', 'e'] := by
  cases b <;> simp [Value.chars, Value.printAt]

theorem chars_integer (i : Int) :
    (Value.integer i).chars escaping level = (integerText i).chars := toList_repr i

theorem chars_nan : (Value.number .nan).chars escaping level = ['N', 'a', 'N'] := by
  simp [Value.chars, Value.printAt, Layout.render]

theorem chars_infinite (negative : Bool) :
    (Value.number (.infinite negative)).chars escaping level =
      (if negative then ['-'] else []) ++ ['I', 'n', 'f', 'i', 'n', 'i', 't', 'y'] := by
  cases negative <;> simp [Value.chars, Value.printAt, Layout.render]

theorem chars_finite (negative : Bool) (significand : Nat) (exponent : Int) :
    (Value.number (.finite negative significand exponent)).chars escaping level =
      (Layout.numberText negative significand exponent).chars :=
  Layout.toList_finite negative significand exponent

theorem chars_text (s : String) : (Value.text s).chars escaping level =
    '"' :: s.toList.flatMap (literalChar escaping) ++ ['"'] := by
  simp [Value.chars, Value.printAt, Style.scripted, literal, literalChars]

theorem exists_cons_chars_number {n : NumberText} (h : n.Proper) :
    ∃ c tail, n.chars = c :: tail ∧ (c = '-' ∨ c.isDigit = true) := by
  obtain ⟨c, digits, hwhole⟩ := List.exists_cons_of_ne_nil h.whole.ne_nil
  have hc : c.isDigit = true := h.whole.isDigit c (by simp [hwhole])
  rw [NumberText.chars, hwhole]
  cases n.negative with
  | true => exact ⟨'-', _, rfl, .inl rfl⟩
  | false => exact ⟨c, _, rfl, .inr hc⟩

/-- The text of a value is not empty, and begins neither with a blank nor with a bracket that
closes. -/
theorem exists_cons_chars (escaping : Escaping) (value : Value) (level : Nat) :
    ∃ c tail, value.chars escaping level = c :: tail ∧ isBlank c = false ∧ c ≠ ']' := by
  have hnumber {n : NumberText} (h : n.Proper) :
      ∃ c tail, n.chars = c :: tail ∧ isBlank c = false ∧ c ≠ ']' := by
    obtain ⟨c, tail, htext, hc⟩ := exists_cons_chars_number h
    have hne (d : Char) (hd : (d == '-' || d.isDigit) = false) : c ≠ d := by
      rintro rfl
      rcases hc with rfl | hc
      · simp at hd
      · simp [hc] at hd
    exact ⟨c, tail, htext, by simp [isBlank, hne ' ' rfl, hne '\t' rfl, hne '\n' rfl, hne '\r' rfl],
      hne ']' rfl⟩
  cases value with
  | null => exact ⟨'n', _, chars_null, rfl, by decide⟩
  | boolean b =>
    rw [chars_boolean]
    cases b
    · exact ⟨'f', _, rfl, rfl, by decide⟩
    · exact ⟨'t', _, rfl, rfl, by decide⟩
  | integer i => exact chars_integer i ▸ hnumber (integerText_proper i)
  | number x =>
    cases x with
    | nan => exact ⟨'N', _, chars_nan, rfl, by decide⟩
    | infinite negative =>
      rw [chars_infinite]
      cases negative
      · exact ⟨'I', _, rfl, rfl, by decide⟩
      · exact ⟨'-', _, rfl, rfl, by decide⟩
    | finite negative significand exponent =>
      exact chars_finite negative significand exponent ▸ hnumber (Layout.numberText_proper _ _ _)
  | text s => exact ⟨'"', _, chars_text s, rfl, by decide⟩
  | array items => exact ⟨'[', _, chars_array escaping level items, rfl, by decide⟩
  | object members => exact ⟨'\x7b', _, chars_object escaping level members, rfl, by decide⟩

/-- A scalar reads back if its text is read as a scalar whatever follows. -/
theorem readsBack_scalar (value : Value)
    (hreadable : ∀ depth, value.Readable depth = (depth ≤ depthLimit))
    (h : ∀ level, ∃ c word, value.chars escaping level = c :: word ∧ c ∉ ['"', '[', '\x7b'] ∧
      ∀ rest, EndsNumber rest → readScalar (c :: word ++ rest) = .ok (value.reread, rest)) :
    ReadsBack escaping value := by
  intro level fuel depth rest result hrest hfuel
  obtain ⟨c, word, hchars, hc, hread⟩ := h level
  simp only [List.mem_cons, List.not_mem_nil, or_false, not_or] at hc
  rw [hchars, List.cons_append, readValue_scalar hc.1 hc.2.1 hc.2.2, ← List.cons_append,
    hread rest hrest, hreadable, Except.ok.injEq, eq_comm]

theorem readsBack_null : ReadsBack escaping .null :=
  readsBack_scalar .null (fun _ => rfl) fun _ => ⟨'n', _, chars_null, by decide, fun rest _ =>
    readWord_append .null ['u', 'l', 'l'] rest⟩

theorem readsBack_boolean (b : Bool) : ReadsBack escaping (.boolean b) := by
  refine readsBack_scalar _ (fun _ => rfl) fun level => ?_
  rw [chars_boolean]
  cases b with
  | false =>
    exact ⟨'f', _, rfl, by decide, fun rest _ =>
      readWord_append (.boolean false) ['a', 'l', 's', 'e'] rest⟩
  | true =>
    exact ⟨'t', _, rfl, by decide, fun rest _ =>
      readWord_append (.boolean true) ['r', 'u', 'e'] rest⟩

theorem readsBack_number (x : Binary64) : ReadsBack escaping (.number x) := by
  have hinfinity : "nfinity".toList = ['n', 'f', 'i', 'n', 'i', 't', 'y'] := by simp
  refine readsBack_scalar _ (fun _ => rfl) fun level => ?_
  cases x with
  | nan =>
    exact ⟨'N', _, chars_nan, by decide, fun rest _ =>
      readWord_append (.number .nan) ['a', 'N'] rest⟩
  | infinite negative =>
    rw [chars_infinite]
    cases negative with
    | false =>
      refine ⟨'I', _, rfl, by decide, fun rest _ => ?_⟩
      exact hinfinity ▸ readWord_append (.number (.infinite false)) "nfinity".toList rest
    | true =>
      refine ⟨'-', _, rfl, by decide, fun rest _ => ?_⟩
      exact hinfinity ▸ readWord_append (.number (.infinite true)) "nfinity".toList rest
  | finite negative significand exponent =>
    have hproper := Layout.numberText_proper negative significand exponent
    obtain ⟨c, tail, htext, hc⟩ := exists_cons_chars_number hproper
    refine ⟨c, tail, by rw [chars_finite, htext], ?_, fun rest hrest => ?_⟩
    · rcases hc with rfl | hc
      · decide
      · intro hmem
        simp only [List.mem_cons, List.not_mem_nil, or_false] at hmem
        rcases hmem with rfl | rfl | rfl <;> simp at hc
    · rw [← htext, readScalar_number hproper, readNumber_append_eq_ok_iff hproper hrest]
      exact ⟨Layout.length_whole_numberText _ _ _, rfl⟩

theorem readsBack_integer (i : Int) : ReadsBack escaping (.integer i) := by
  intro level fuel depth rest result hrest hfuel
  rw [chars_integer, readValue_number (integerText_proper i) hrest, value_integerText,
    Value.Readable, Value.reread, and_assoc]
  · rfl
  all_goals simp

theorem readsBack_text (s : String) : ReadsBack escaping (.text s) := by
  intro level fuel depth rest result hrest hfuel
  have hchars : (Value.text s).chars escaping level ++ rest =
      '"' :: (s.toList.flatMap (literalChar escaping) ++ '"' :: rest) := by
    simp [chars_text]
  have hreadable : (Value.text s).Readable depth = (depth ≤ depthLimit) := rfl
  have hreread : (Value.text s).reread = .text s := rfl
  rw [hchars, readValue_string, readString_literal, hreadable, hreread]
  simp [eq_comm]

theorem exists_cons_itemsChars (escaping : Escaping) (level : Nat) (item : Value)
    (items : List Value) :
    ∃ c tail, itemsChars escaping level (item :: items) = c :: tail ∧ isBlank c = false ∧
      c ≠ ']' := by
  obtain ⟨c, tail, hchars, hc⟩ := exists_cons_chars escaping item level
  cases items with
  | nil => exact ⟨c, tail ++ [']'], by simp [hchars], hc⟩
  | cons next items =>
    exact ⟨c, tail ++ ',' :: itemsChars escaping level (next :: items), by simp [hchars], hc⟩

/-- Items and the closing bracket after them. -/
theorem readItems_chars {items : List Value} (hitems : items ≠ [])
    (h : ∀ item ∈ items, ReadsBack escaping item) (level fuel depth : Nat) (rest : List Char)
    (result : List Value × List Char)
    (hfuel : 2 * (itemsChars escaping level items).length ≤ fuel) :
    readItems fuel depth (itemsChars escaping level items ++ rest) = .ok result ↔
      ItemsReadable depth items ∧ result = (rereadItems items, rest) := by
  have hbracket : isBlank ']' = false := rfl
  have hcomma : isBlank ',' = false := rfl
  induction items generalizing fuel result with
  | nil => exact absurd rfl hitems
  | cons item items ih =>
    obtain ⟨hitem, hmore⟩ := List.forall_mem_cons.mp h
    cases items with
    | nil =>
      rw [itemsChars_singleton, List.length_append, List.length_singleton] at hfuel
      obtain ⟨fuel, rfl⟩ : ∃ fuel', fuel = fuel' + 2 := ⟨fuel - 2, by omega⟩
      have hends : EndsNumber (']' :: rest) := by simp [EndsNumber]
      have hread := fun result => hitem level fuel depth (']' :: rest) result hends (by omega)
      rw [itemsChars_singleton, List.append_assoc, List.singleton_append, readItems,
        bind_eq_ok_iff]
      simp only [hread, and_assoc, exists_and_left, exists_eq_left, ItemsReadable, rereadItems,
        true_and]
      refine and_congr_right fun _ => ?_
      simp only [skipBlanks, List.dropWhile_cons, hbracket, Bool.false_eq_true, if_false]
      exact ok_eq_ok_iff
    | cons next items =>
      rw [itemsChars_cons_cons, List.length_append, List.length_cons] at hfuel
      obtain ⟨fuel, rfl⟩ : ∃ fuel', fuel = fuel' + 2 := ⟨fuel - 2, by omega⟩
      obtain ⟨c, tail, hchars, hblank, hclose⟩ :
          ∃ c tail, itemsChars escaping level (next :: items) = c :: tail ∧ isBlank c = false ∧
            c ≠ ']' := exists_cons_itemsChars escaping level next items
      have hends : EndsNumber (',' :: (itemsChars escaping level (next :: items) ++ rest)) := by
        simp [EndsNumber]
      have hread := fun result => hitem level fuel depth _ result hends (by omega)
      have hmore := fun result : List Value × List Char =>
        ih (by simp) hmore (fuel + 1) result (by omega)
      rw [itemsChars_cons_cons, List.append_assoc, List.cons_append, readItems, bind_eq_ok_iff]
      simp only [hread, and_assoc, exists_and_left, exists_eq_left, ItemsReadable, rereadItems]
      refine and_congr_right fun _ => ?_
      simp only [skipBlanks, List.dropWhile_cons, hcomma, Bool.false_eq_true, if_false]
      simp only [hchars] at hmore ⊢
      simp only [List.cons_append, List.dropWhile_cons, hblank, Bool.false_eq_true, if_false]
      split
      · next heq => exact absurd (List.cons.inj heq).1 hclose
      · rw [← List.cons_append, bind_eq_ok_iff]
        simp only [hmore, and_assoc, exists_and_left, exists_eq_left, ItemsReadable, rereadItems]
        exact and_congr_right fun _ => and_congr_right fun _ => ok_eq_ok_iff

theorem exists_cons_membersChars (escaping : Escaping) (level : Nat) (member : String × Value)
    (members : List (String × Value)) :
    ∃ tail, membersChars escaping level (member :: members) = '"' :: tail := by
  cases members with
  | nil => exact ⟨_, membersChars_singleton escaping level member⟩
  | cons next members => exact ⟨_, membersChars_cons_cons escaping level member next members⟩

/-- Members and the closing brace after them. -/
theorem readMembers_chars {members : List (String × Value)} (hmembers : members ≠ [])
    (h : ∀ member ∈ members, ReadsBack escaping member.2) (level fuel depth : Nat)
    (rest : List Char) (result : List (String × Value) × List Char)
    (hfuel : 2 * (membersChars escaping level members).length ≤ fuel) :
    readMembers fuel depth (membersChars escaping level members ++ rest) = .ok result ↔
      MembersReadable depth members ∧ result = (rereadMembers members, rest) := by
  have hcolon : isBlank ':' = false := rfl
  have hcomma : isBlank ',' = false := rfl
  have hquote : isBlank '"' = false := rfl
  have hbrace : isBlank '\x7d' = false := rfl
  induction members generalizing fuel result with
  | nil => exact absurd rfl hmembers
  | cons member members ih =>
    obtain ⟨key, value⟩ := member
    obtain ⟨hvalue, hmore⟩ := List.forall_mem_cons.mp h
    replace hvalue : ReadsBack escaping value := hvalue
    obtain ⟨c, tail, hchars, hblank, -⟩ := exists_cons_chars escaping value level
    have hkey (after : List Char) : memberChars escaping level (key, value) ++ after =
        '"' :: (key.toList.flatMap (literalChar escaping) ++
          '"' :: ':' :: (value.chars escaping level ++ after)) := by
      simp [memberChars, literalChars]
    have hskip (after : List Char) : skipBlanks (value.chars escaping level ++ after) =
        value.chars escaping level ++ after := by
      simp [skipBlanks, hchars, hblank]
    have hlength : (value.chars escaping level).length + 2 ≤
        (memberChars escaping level (key, value)).length := by
      simp [memberChars, literalChars]
      omega
    cases members with
    | nil =>
      rw [membersChars_singleton, List.length_append, List.length_singleton] at hfuel
      obtain ⟨fuel, rfl⟩ : ∃ fuel', fuel = fuel' + 2 := ⟨fuel - 2, by omega⟩
      have hends : EndsNumber ('\x7d' :: rest) := by simp [EndsNumber]
      have hread := fun result => hvalue level fuel depth ('\x7d' :: rest) result hends (by omega)
      rw [membersChars_singleton, List.append_assoc, List.singleton_append, hkey, readMembers,
        readString_literal, bind_eq_ok_iff]
      simp only [Except.ok.injEq, exists_eq_left', skipBlanks, List.dropWhile_cons, hcolon,
        Bool.false_eq_true, if_false]
      rw [← skipBlanks, hskip, bind_eq_ok_iff]
      simp only [hread, and_assoc, exists_and_left, exists_eq_left, MembersReadable,
        rereadMembers, true_and, List.dropWhile_cons, hbrace, Bool.false_eq_true, if_false]
      exact and_congr_right fun _ => ok_eq_ok_iff
    | cons next members =>
      rw [membersChars_cons_cons, List.length_append, List.length_cons] at hfuel
      obtain ⟨fuel, rfl⟩ : ∃ fuel', fuel = fuel' + 2 := ⟨fuel - 2, by omega⟩
      obtain ⟨tail, htail⟩ := exists_cons_membersChars escaping level next members
      have hends : EndsNumber (',' :: (membersChars escaping level (next :: members) ++ rest)) := by
        simp [EndsNumber]
      have hread := fun result => hvalue level fuel depth _ result hends (by omega)
      have hmore := fun result : List (String × Value) × List Char =>
        ih (by simp) hmore (fuel + 1) result (by omega)
      rw [membersChars_cons_cons, List.append_assoc, List.cons_append, hkey, readMembers,
        readString_literal, bind_eq_ok_iff]
      simp only [Except.ok.injEq, exists_eq_left', skipBlanks, List.dropWhile_cons, hcolon,
        Bool.false_eq_true, if_false]
      rw [← skipBlanks, hskip, bind_eq_ok_iff]
      simp only [hread, and_assoc, exists_and_left, exists_eq_left, MembersReadable,
        rereadMembers, List.dropWhile_cons, hcomma, Bool.false_eq_true, if_false]
      refine and_congr_right fun _ => ?_
      simp only [htail, List.cons_append] at hmore ⊢
      simp only [List.dropWhile_cons, hquote, Bool.false_eq_true, if_false]
      split
      · next heq => exact nomatch heq
      · next heq => exact absurd (List.cons.inj heq).1 (by decide)
      · rw [bind_eq_ok_iff]
        simp only [hmore, and_assoc, exists_and_left, exists_eq_left, MembersReadable,
          rereadMembers]
        exact and_congr_right fun _ => and_congr_right fun _ => ok_eq_ok_iff

theorem readsBack_array {items : List Value} (h : ∀ item ∈ items, ReadsBack escaping item) :
    ReadsBack escaping (.array items) := by
  intro level fuel depth rest result hrest hfuel
  have hreadable : (Value.array items).Readable depth =
      (depth ≤ depthLimit ∧ ItemsReadable (depth + 1) items) := rfl
  have hreread : (Value.array items).reread = .array (rereadItems items) := rfl
  rw [chars_array, List.length_cons] at hfuel
  rw [chars_array, hreadable, hreread]
  cases items with
  | nil =>
    have hread : readValue (fuel + 1) depth ('[' :: ']' :: rest) = .ok result ↔
        depth ≤ depthLimit ∧ .ok (.array [], rest) = (.ok result : Reading _) := by
      rw [readValue.eq_def]
      by_cases hdeep : depthLimit < depth
      · simp [hdeep, Nat.not_le.mpr hdeep]
      · simp [hdeep, Nat.not_lt.mp hdeep, skipBlanks, isBlank]
    rw [itemsChars_nil, List.cons_append, List.singleton_append, hread, Except.ok.injEq]
    simp [ItemsReadable, rereadItems, eq_comm]
  | cons item items =>
    obtain ⟨c, tail, hchars, hblank, hclose⟩ :=
      exists_cons_itemsChars escaping (level + 1) item items
    have hread := fun result => readItems_chars (List.cons_ne_nil _ _) h (level + 1) fuel
      (depth + 1) rest result (by omega)
    rw [hchars, List.cons_append] at hread
    rw [hchars, List.cons_append, List.cons_append, readValue_array hblank hclose]
    simp only [hread, Prod.mk.injEq, and_assoc, exists_and_left, exists_eq_left]
    exact and_congr_right fun _ => and_congr_right fun _ => eq_comm

theorem readsBack_object {members : List (String × Value)}
    (h : ∀ member ∈ members, ReadsBack escaping member.2) :
    ReadsBack escaping (.object members) := by
  intro level fuel depth rest result hrest hfuel
  have hreadable : (Value.object members).Readable depth =
      (depth ≤ depthLimit ∧ MembersReadable (depth + 1) members) := rfl
  have hreread : (Value.object members).reread =
      .object (Members.ofPairs (rereadMembers members)) := rfl
  rw [chars_object, List.length_cons] at hfuel
  rw [chars_object, hreadable, hreread]
  cases members with
  | nil =>
    have hread : readValue (fuel + 1) depth ('\x7b' :: '\x7d' :: rest) = .ok result ↔
        depth ≤ depthLimit ∧ .ok (.object [], rest) = (.ok result : Reading _) := by
      rw [readValue.eq_def]
      by_cases hdeep : depthLimit < depth
      · simp [hdeep, Nat.not_le.mpr hdeep]
      · simp [hdeep, Nat.not_lt.mp hdeep, skipBlanks, isBlank]
    rw [membersChars_nil, List.cons_append, List.singleton_append, hread, Except.ok.injEq]
    simp [MembersReadable, rereadMembers, Members.ofPairs, eq_comm]
  | cons member members =>
    obtain ⟨tail, hchars⟩ := exists_cons_membersChars escaping (level + 1) member members
    have hread := fun result => readMembers_chars (List.cons_ne_nil _ _) h (level + 1) fuel
      (depth + 1) rest result (by omega)
    rw [hchars, List.cons_append] at hread
    rw [hchars, List.cons_append, List.cons_append, readValue_object rfl (by decide)]
    simp only [hread, Prod.mk.injEq, and_assoc, exists_and_left, exists_eq_left]
    exact and_congr_right fun _ => and_congr_right fun _ => eq_comm

/-- Every printed value is read back, inside any containers and whatever follows it. -/
theorem readsBack (escaping : Escaping) : ∀ value : Value, ReadsBack escaping value
  | .null => readsBack_null
  | .boolean b => readsBack_boolean b
  | .integer i => readsBack_integer i
  | .number x => readsBack_number x
  | .text s => readsBack_text s
  | .array items => readsBack_array fun item _ => readsBack escaping item
  | .object members => readsBack_object fun (key, value) hmem =>
    have hsize : sizeOf value < sizeOf (key, value) := by simp
    have hlt := Nat.lt_trans hsize (List.sizeOf_lt_of_mem hmem)
    readsBack escaping value
termination_by value => sizeOf value

end ReadsBack

/-- The message that a value is printed as is read as what the value says, if it can be read at
all. -/
theorem read_print_eq_ok_iff {escaping : Escaping} {value read : Value} :
    Message.read (value.print (.scripted escaping)) = .ok read ↔
      value.Readable 0 ∧ read = value.reread := by
  obtain ⟨c, tail, hchars, hblank, -⟩ := exists_cons_chars escaping value 0
  have hskip : skipBlanks (value.chars escaping 0) = value.chars escaping 0 := by
    simp [skipBlanks, hchars, hblank]
  have hread := fun result => readsBack escaping value 0
    (2 * (value.chars escaping 0).length + 1) 0 [] result (by simp [EndsNumber]) (by omega)
  rw [List.append_nil] at hread
  have hall : readAll (value.chars escaping 0) = .ok read ↔
      value.Readable 0 ∧ read = value.reread := by
    rw [readAll, hskip, bind_eq_ok_iff]
    simp only [hread, and_assoc, exists_and_left, exists_eq_left]
    exact and_congr_right fun _ => ok_eq_ok_iff
  have hchars : (value.print (.scripted escaping)).toList = value.chars escaping 0 := rfl
  rw [← hall, Message.read, hchars]
  cases readAll (value.chars escaping 0) <;> simp [Except.mapError]

end Message

end Json

end CoffeeHost
