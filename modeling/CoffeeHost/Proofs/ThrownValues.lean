import CoffeeHost.Proofs.HelperAnswers
/-!
# What becomes of thrown values

The library may throw anything. The helper script reads a message and two positions off it, and the
host reads the answer back as one error if the message is a text and the positions are whole
numbers of at most 21 digits, counted from one. A thrown value need not be like that. Nothing can
be read off null and the undefined value, so the call ends with an error of its own. A message of
another kind is handed on as it is, and so are positions that are not whole, too large or no
numbers at all; then the answer is a fault.

## Main definitions

* `Script.Helper.Described`, `Script.Helper.Countable`: messages and positions that can be
  reported.
* `Script.Helper.Reportable`, `Script.Helper.Unreadable`: the thrown values that can be reported,
  and those that cannot even be looked at.
* `Script.Helper.Reported`: how a call comes out whose library throws a value.

## Main results

* `Script.Helper.position_toJson`: the positions that are read back as integers.
* `Script.Helper.thrown_value_is_reported`: what is thrown comes back as one error exactly if it
  can be reported.
* `Script.Helper.thrown_value_can_be_lost`: not everything that is thrown comes back.
-/

namespace CoffeeHost.Script.Helper

open Json (Escaping)

/-- The text that tells what was thrown: its message, or if that counts as false, the text of the
whole. -/
inductive Described (thrown : Value) (text : String) : Prop
  | message (h : thrown.property "message" = .ok (.text text)) (htext : text ≠ "")
  | whole (message : Value) (h : thrown.property "message" = .ok message)
      (hfalse : message.isTruthy = false) (hdisplay : thrown.display? = some text)

/-- A value that becomes a position: no number, or one that is a whole number of at most 21 digits
when it is counted from one. -/
def Countable (value : Value) : Prop :=
  ∀ x, value = .number x → ∃ k : Int, (x.add (.ofInt 1)).isWhole = true ∧
    (x.add (.ofInt 1)).truncate? = some k ∧ k.natAbs < 10 ^ 21

/-- A position becomes a number or null in a message, which is read as an integer only if the
position can be counted. -/
theorem position_toJson (value : Value) :
    ∃ json, (position value).toJson? = some json ∧
      (∀ depth, json.Readable depth ↔ depth ≤ Json.Message.depthLimit) ∧
      ((∃ i, Validation.integer json.reread = .ok i) ↔ Countable value) := by
  by_cases hnumber : ∃ x, value = .number x
  · obtain ⟨x, rfl⟩ := hnumber
    have hcountable : Countable (.number x) ↔ ∃ k : Int, (x.add (.ofInt 1)).isWhole = true ∧
        (x.add (.ofInt 1)).truncate? = some k ∧ k.natAbs < 10 ^ 21 := by
      simp [Countable]
    rw [hcountable, position]
    cases hadd : x.add (.ofInt 1) with
    | nan =>
      refine ⟨.null, rfl, fun _ => Iff.rfl, iff_of_false ?_ ?_⟩
      · rintro ⟨_, ⟨⟩⟩
      · rintro ⟨_, ⟨⟩, _⟩
    | infinite negative =>
      refine ⟨.null, rfl, fun _ => Iff.rfl, iff_of_false ?_ ?_⟩
      · rintro ⟨_, ⟨⟩⟩
      · rintro ⟨_, ⟨⟩, _⟩
    | finite negative significand exponent =>
      refine ⟨.number (.finite negative significand exponent), rfl, fun _ => Iff.rfl, ?_⟩
      simp only [← and_assoc, Binary64.finite_whole_iff]
      exact Binary64.integer_reread_iff (Binary64.add_one_canonical hadd)
  · have hother (x : Binary64) : value ≠ .number x := fun h => hnumber ⟨x, h⟩
    refine ⟨_, position_of_ne_number hother, fun _ => Iff.rfl, iff_of_true ⟨0, ?_⟩ ?_⟩
    · exact congrArg Validation.integer (Binary64.reread_zero false)
    · exact fun x h => absurd h (hother x)

/-- A thrown value that can be reported: there is a text that tells what it is, and its positions
can be counted. -/
structure Reportable (thrown : Value) : Prop where
  described : ∃ text, Described thrown text
  located : ∃ firstLine firstColumn, Located thrown firstLine firstColumn ∧
    Countable firstLine ∧ Countable firstColumn

/-- A thrown value that cannot even be looked at: it has no properties, or it has no message and no
text. -/
inductive Unreadable : Value → Prop
  | undefined : Unreadable .undefined
  | null : Unreadable .null
  | textless (thrown message : Value) (h : thrown.property "message" = .ok message)
      (hfalse : message.isTruthy = false) (hdisplay : thrown.display? = none) : Unreadable thrown

variable {escaping : Escaping} {library : Library} {source options : Value}
variable {message thrown firstLine firstColumn : Value}

theorem exists_property (name : String) (hundefined : thrown ≠ .undefined)
    (hnull : thrown ≠ .null) : ∃ value, thrown.property name = .ok value := by
  cases thrown with
  | undefined => exact absurd rfl hundefined
  | null => exact absurd rfl hnull
  | _ => exact ⟨_, rfl⟩

theorem exists_located (hundefined : thrown ≠ .undefined) (hnull : thrown ≠ .null) :
    ∃ firstLine firstColumn, Located thrown firstLine firstColumn := by
  obtain ⟨location, h⟩ := exists_property "location" hundefined hnull
  cases htrue : location.isTruthy with
  | false => exact ⟨_, _, .missing location h htrue⟩
  | true =>
    have hlocation : location ≠ .undefined ∧ location ≠ .null := by
      constructor <;> rintro rfl <;> exact nomatch htrue
    obtain ⟨firstLine, hline⟩ := exists_property "first_line" hlocation.1 hlocation.2
    obtain ⟨firstColumn, hcolumn⟩ := exists_property "first_column" hlocation.1 hlocation.2
    exact ⟨_, _, .given location _ _ h htrue hline hcolumn⟩

theorem Located.unique {line column : Value} (h : Located thrown firstLine firstColumn)
    (h' : Located thrown line column) : line = firstLine ∧ column = firstColumn := by
  cases h with
  | missing location h hfalse =>
    cases h' with
    | missing => exact ⟨rfl, rfl⟩
    | given location' _ _ h' htrue =>
      obtain rfl : location = location' := Except.ok.inj (h.symm.trans h')
      exact absurd (htrue.symm.trans hfalse) (by decide)
  | given location _ _ h htrue hline hcolumn =>
    cases h' with
    | missing location' h' hfalse =>
      obtain rfl : location = location' := Except.ok.inj (h.symm.trans h')
      exact absurd (htrue.symm.trans hfalse) (by decide)
    | given location' _ _ h' htrue' hline' hcolumn' =>
      obtain rfl : location = location' := Except.ok.inj (h.symm.trans h')
      exact ⟨Except.ok.inj (hline'.symm.trans hline), Except.ok.inj (hcolumn'.symm.trans hcolumn)⟩

/-- The message of a thrown value is a text if there is one that tells what it is. -/
theorem messageOf_eq_text_iff {text : String} (h : thrown.property "message" = .ok message) :
    messageOf thrown = .ok (.text text) ↔ Described thrown text := by
  constructor
  · intro htext
    cases htrue : message.isTruthy with
    | true =>
      obtain rfl := Except.ok.inj ((messageOf_of_true h htrue).symm.trans htext)
      exact .message h (isTruthy_text.mp htrue)
    | false =>
      rw [messageOf_of_false h htrue] at htext
      cases hdisplay : thrown.display? with
      | some shown =>
        obtain rfl : shown = text := by simpa [hdisplay] using htext
        exact .whole message h htrue hdisplay
      | none => simp [hdisplay] at htext
  · rintro (⟨h, htext⟩ | ⟨message, h, hfalse, hdisplay⟩)
    · exact messageOf_of_true h (isTruthy_text.mpr htext)
    · rw [messageOf_of_false h hfalse, hdisplay]

example : messageOf (.error "a" [("message", .boolean false)]) = .ok (.text "Error: false") := rfl

theorem messageOf_eq_error_iff (h : thrown.property "message" = .ok message) :
    (∃ error, messageOf thrown = .error error) ↔ Unreadable thrown := by
  constructor
  · rintro ⟨error, herror⟩
    cases htrue : message.isTruthy with
    | true => exact nomatch (messageOf_of_true h htrue).symm.trans herror
    | false =>
      rw [messageOf_of_false h htrue] at herror
      cases hdisplay : thrown.display? with
      | some shown => simp [hdisplay] at herror
      | none => exact .textless thrown message h htrue hdisplay
  · rintro (_ | _ | ⟨_, message, h, hfalse, hdisplay⟩)
    · exact nomatch h
    · exact nomatch h
    · rw [messageOf_of_false h hfalse, hdisplay]
      exact ⟨_, rfl⟩

example : ∃ error, messageOf (.error "" [("toString", .boolean true)]) = .error error := ⟨_, rfl⟩

theorem exists_toJson? (htrue : message.isTruthy = true) : ∃ json, message.toJson? = some json := by
  cases message with
  | undefined => exact nomatch htrue
  | number x => cases x <;> exact ⟨_, rfl⟩
  | _ => exact ⟨_, by rw [Value.toJson?]⟩

theorem property_of_messageOf (h : messageOf thrown = .ok message) :
    ∃ given, thrown.property "message" = .ok given := by
  cases hproperty : thrown.property "message" with
  | ok given => exact ⟨given, rfl⟩
  | error e =>
    rw [messageOf, hproperty] at h
    cases h

/-- The message of a thrown value is not undefined. -/
theorem toJson?_of_messageOf (h : messageOf thrown = .ok message) :
    ∃ json, message.toJson? = some json := by
  obtain ⟨given, hgiven⟩ := property_of_messageOf h
  cases htrue : given.isTruthy with
  | true =>
    obtain rfl := Except.ok.inj ((messageOf_of_true hgiven htrue).symm.trans h)
    exact exists_toJson? htrue
  | false =>
    rw [messageOf_of_false hgiven htrue] at h
    cases hdisplay : thrown.display? with
    | some text =>
      obtain rfl : .text text = message := by simpa [hdisplay] using h
      exact ⟨_, toJson?_eq_text_iff.mpr rfl⟩
    | none => simp [hdisplay] at h

/-! ### Answers to thrown values -/

theorem Unreadable.not_reportable (h : Unreadable thrown) : ¬ Reportable thrown := by
  rintro ⟨⟨text, hdescribed⟩, -⟩
  cases h with
  | undefined => rcases hdescribed with h | ⟨_, h⟩ <;> exact nomatch h
  | null => rcases hdescribed with h | ⟨_, h⟩ <;> exact nomatch h
  | textless _ message h hfalse hdisplay =>
    obtain ⟨error, herror⟩ :=
      (messageOf_eq_error_iff h).mpr (.textless thrown message h hfalse hdisplay)
    exact nomatch herror.symm.trans ((messageOf_eq_text_iff h).mpr hdescribed)

/-- How a call comes out whose library throws a value. It ends with an error, or its answer is read
as one error without code, or its answer is a fault. -/
structure Reported (thrown : Value) (outcome : Except String String) : Prop where
  unreadable : (∃ error, outcome = .error error) ↔ Unreadable thrown
  reportable : (∃ message entry, outcome = .ok message ∧
    Answer.ofReply (.text message) = .ok ⟨none, some [entry]⟩) ↔ Reportable thrown
  malformed : ∀ message, outcome = .ok message → ¬ Reportable thrown →
    ∃ text, Answer.ofReply (.text message) = .error (.interpreter text none Category.malformed)

theorem Unreadable.reported (h : Unreadable thrown) (error : String) :
    Reported thrown (.error error) where
  unreadable := iff_of_true ⟨error, rfl⟩ h
  reportable := iff_of_false (fun ⟨_, _, hanswer, _⟩ => nomatch hanswer) h.not_reportable
  malformed := nofun

/-- Nothing can be read off null or the undefined value. -/
theorem compileWith_thrown_none (escaping : Escaping) (h : library source options = .thrown thrown)
    (hnone : thrown = .undefined ∨ thrown = .null) :
    ∃ error, compileWith escaping library source options = .error error := by
  obtain ⟨error, hdetails⟩ : ∃ error, details thrown = .error error := by
    rcases hnone with rfl | rfl <;> exact ⟨_, rfl⟩
  refine ⟨error, ?_⟩
  rw [compileWith, result, h]
  dsimp only
  rw [hdetails]
  rfl

section Reply

variable (escaping) (hlocated : Located thrown firstLine firstColumn)
  (hmessage : messageOf thrown = .ok message)

include hlocated hmessage

/-- The report of a thrown value is read as an answer exactly if the value can be reported, and
then as one error without code. -/
theorem exists_reply_iff : ((∃ answer, Answer.ofReply (.text ((report message (position firstLine)
    (position firstColumn)).written escaping)) = .ok answer) ↔ Reportable thrown) ∧
    ∀ answer, Answer.ofReply (.text ((report message (position firstLine)
      (position firstColumn)).written escaping)) = .ok answer →
        ∃ entry, answer = ⟨none, some [entry]⟩ := by
  obtain ⟨given, hgiven⟩ := property_of_messageOf hmessage
  obtain ⟨messageJson, hmessageJson⟩ := toJson?_of_messageOf hmessage
  obtain ⟨lineJson, hlineJson, hreadLine, hline⟩ := position_toJson firstLine
  obtain ⟨columnJson, hcolumnJson, hreadColumn, hcolumn⟩ := position_toJson firstColumn
  have htext (text : String) : message = .text text ↔ Described thrown text := by
    rw [← messageOf_eq_text_iff hgiven, hmessage, Except.ok.injEq]
  simp only [ofReply_report_eq_ok_iff escaping hmessageJson hlineJson hcolumnJson hreadLine
    hreadColumn]
  refine ⟨⟨?_, ?_⟩, fun answer ⟨entry, hanswer, _⟩ => ⟨entry, hanswer⟩⟩
  · rintro ⟨_, entry, -, hentry, hi, hj⟩
    exact ⟨⟨_, (htext _).mp hentry⟩, _, _, hlocated, hline.mp ⟨_, hi⟩, hcolumn.mp ⟨_, hj⟩⟩
  · rintro ⟨⟨text, hdescribed⟩, _, _, hlocated', hcountable, hcountable'⟩
    obtain ⟨rfl, rfl⟩ := hlocated.unique hlocated'
    obtain ⟨i, hi⟩ := hline.mpr hcountable
    obtain ⟨j, hj⟩ := hcolumn.mpr hcountable'
    exact ⟨_, ⟨text, i, j⟩, rfl, (htext text).mpr hdescribed, hi, hj⟩

/-- A report is an answer or a fault. -/
theorem reported_report : Reported thrown (.ok ((report message (position firstLine)
    (position firstColumn)).written escaping)) := by
  obtain ⟨hiff, hone⟩ := exists_reply_iff escaping hlocated hmessage
  generalize (report message (position firstLine) (position firstColumn)).written escaping = written
    at hiff hone
  refine ⟨iff_of_false nofun fun hunreadable => ?_, Iff.trans ⟨?_, ?_⟩ hiff, ?_⟩
  · obtain ⟨given, hgiven⟩ := property_of_messageOf hmessage
    obtain ⟨error, herror⟩ := (messageOf_eq_error_iff hgiven).mpr hunreadable
    exact nomatch herror.symm.trans hmessage
  · rintro ⟨_, entry, ⟨⟩, hentry⟩
    exact ⟨_, hentry⟩
  · rintro ⟨answer, hanswer⟩
    obtain ⟨entry, rfl⟩ := hone answer hanswer
    exact ⟨_, entry, rfl, hanswer⟩
  · rintro _ ⟨⟩ hnot
    cases hread : Answer.ofReply (.text written) with
    | ok answer => exact absurd (hiff.mp ⟨answer, hread⟩) hnot
    | error fault =>
      rw [Answer.ofReply] at hread
      obtain ⟨text, rfl⟩ := Answer.ofMessage_eq_error hread
      exact ⟨text, rfl⟩

end Reply

/-- What the library throws comes back as one error without code exactly if it can be reported. The
call ends with an error if it cannot even be looked at, and otherwise its answer is a fault,
whatever else is escaped in strings. -/
theorem thrown_value_is_reported (h : library source options = .thrown thrown) :
    Reported thrown (compile library source options) ∧
      ∀ escaping, Reported thrown (compileWith escaping library source options) := by
  have hall (escaping : Escaping) :
      Reported thrown (compileWith escaping library source options) := by
    by_cases hnone : thrown = .undefined ∨ thrown = .null
    · obtain ⟨error, herror⟩ := compileWith_thrown_none escaping h hnone
      rw [herror]
      rcases hnone with rfl | rfl
      · exact Unreadable.undefined.reported error
      · exact Unreadable.null.reported error
    obtain ⟨hundefined, hnull⟩ := not_or.mp hnone
    obtain ⟨given, hgiven⟩ := exists_property "message" hundefined hnull
    obtain ⟨firstLine, firstColumn, hlocated⟩ := exists_located hundefined hnull
    rw [compileWith_thrown escaping h hlocated]
    cases hmessage : messageOf thrown with
    | error error => exact ((messageOf_eq_error_iff hgiven).mp ⟨error, hmessage⟩).reported error
    | ok message => exact reported_report escaping hlocated hmessage
  exact ⟨compile_eq library source options ▸ hall .separators, hall⟩

/-- An error at half a line. -/
def halfLine : Value :=
  .error "bad" [("location", .object [("first_line", .number (.finite false 1 (-1)))])]

/-- A text that is thrown is reported, and an error at half a line is not. -/
theorem text_is_reported_half_line_is_not :
    (∃ message entry, compile (fun _ _ => .thrown (.text "boom")) (.text "x") (.object []) =
        .ok message ∧ Answer.ofReply (.text message) = .ok ⟨none, some [entry]⟩) ∧
    ¬ ∃ message entry, compile (fun _ _ => .thrown halfLine) (.text "x") (.object []) =
        .ok message ∧ Answer.ofReply (.text message) = .ok ⟨none, some [entry]⟩ := by
  constructor
  · rw [(thrown_value_is_reported rfl).1.reportable]
    exact ⟨⟨"boom", .whole .undefined rfl rfl rfl⟩, .undefined, .undefined,
      .missing .undefined rfl rfl, nofun, nofun⟩
  · rw [(thrown_value_is_reported rfl).1.reportable]
    rintro ⟨-, firstLine, firstColumn, hlocated, hcountable, -⟩
    have hgiven : Located halfLine (.number (.finite false 1 (-1))) .undefined :=
      .given (.object [("first_line", .number (.finite false 1 (-1)))]) _ _ rfl rfl rfl rfl
    rw [(hgiven.unique hlocated).1] at hcountable
    obtain ⟨k, hwhole, -⟩ := hcountable _ rfl
    exact absurd hwhole (by decide)

/-- An object with a number as its message. -/
def numbered : Value := .object [("message", .number (.ofInt 5))]

/-- Everything that is thrown is said to become one error. But nothing can be read off null, and a
message that is no text is handed on as it is. -/
theorem thrown_value_can_be_lost :
    (¬ ∀ (library : Library) (source options thrown : Value),
      library source options = .thrown thrown →
      ∃ message, compile library source options = .ok message) ∧
    ¬ ∀ (library : Library) (source options thrown : Value) (message : String),
      library source options = .thrown thrown → compile library source options = .ok message →
      ∃ entry, Answer.ofReply (.text message) = .ok ⟨none, some [entry]⟩ := by
  constructor
  · intro hall
    obtain ⟨message, h⟩ := hall (fun _ _ => .thrown .null) (.text "x") (.object []) .null rfl
    exact nomatch h
  · intro hall
    have htrue : (Value.number (.ofInt 5)).isTruthy = true := by decide
    have hlocated : Located numbered .undefined .undefined := .missing .undefined rfl rfl
    have hmessage : messageOf numbered = .ok (.number (.ofInt 5)) := messageOf_of_true rfl htrue
    have hcompile : compile (fun _ _ => .thrown numbered) (.text "x") (.object []) = .ok
        ((report (.number (.ofInt 5)) (position .undefined) (position .undefined)).written
          .separators) := by
      rw [compile_eq, compileWith_thrown .separators rfl hlocated, hmessage]
      rfl
    obtain ⟨entry, hentry⟩ := hall _ _ _ _ _ rfl hcompile
    obtain ⟨_, hjson⟩ := exists_toJson? htrue
    obtain ⟨_, hposition, hreadable, -⟩ := position_toJson .undefined
    obtain ⟨_, -, htext, -⟩ :=
      (ofReply_report_eq_ok_iff .separators hjson hposition hposition hreadable hreadable).mp hentry
    exact nomatch htext

end CoffeeHost.Script.Helper
