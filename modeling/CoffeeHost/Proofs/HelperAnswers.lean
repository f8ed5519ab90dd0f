import CoffeeHost.Proofs.AnswerReading
import CoffeeHost.Proofs.MessageReading
import CoffeeHost.Proofs.NumberReading
import CoffeeHost.Script.Helper
/-!
# What the answers of the helper script are read as

The helper script answers with the JSON text of an object that has either a code or one error. A
code is read back as it is. An error is read back only if its message is a text and its positions
are read as integers, and then as this one error.

So a code that the library returns comes back whole, and so does an error that it throws with a
message and a place: its positions are counted from one, and those that are no numbers are unknown.
The escaping of strings does not matter for this.

## Main definitions

* `Script.Helper.compileWith`: the answer to a call, with any escaping of strings.
* `Script.Helper.Located`: the positions that are read off a thrown value.
* `Script.Helper.Reports`: what the completion of a call is to be answered with.

## Main results

* `Script.Helper.ofReply_report_eq_ok_iff`: which reports of errors are answers.
* `Script.Helper.compileWith_thrown`: the answer to a call whose library throws a value.
* `Script.Helper.compile_reads_back`: codes and errors come back whole.
-/

namespace CoffeeHost.Script

open Json (Escaping)

/-- The JSON text of a value, with any escaping of strings. -/
def Value.written (escaping : Escaping) (value : Value) : String :=
  ((value.toJson?).getD .null).print (.scripted escaping)

namespace Helper

/-- The message that answers a call, with any escaping of strings. -/
def compileWith (escaping : Escaping) (library : Library) (source options : Value) :
    Except String String :=
  (result library source options).map (Value.written escaping)

/-- The helper script escapes the line and paragraph separators. -/
theorem compile_eq (library : Library) (source options : Value) :
    compile library source options = compileWith .separators library source options := by
  rw [compile, compileWith]
  cases result library source options <;> rfl

variable {escaping : Escaping} {library : Library} {source options : Value}
variable {message line column thrown firstLine firstColumn : Value}

/-! ### Messages -/

/-- What the message of a value is read as. -/
theorem read_written {value : Value} {json read : Json.Value} (h : value.toJson? = some json) :
    Json.Message.read (value.written escaping) = .ok read ↔
      json.Readable 0 ∧ read = json.reread := by
  rw [Value.written, h, Option.getD_some, Json.Message.read_print_eq_ok_iff]

/-- The answer with a code is read as the code. -/
theorem ofReply_code (escaping : Escaping) (code : String) :
    Answer.ofReply (.text ((Value.object [("compiledCode", .text code)]).written escaping)) =
      .ok ⟨some code, none⟩ := by
  have hjson : (Value.object [("compiledCode", .text code)]).toJson? =
      some (.object [("compiledCode", .text code)]) := by
    simp [Value.toJson?, Value.toJsonMembers]
  have hread : Json.Message.read ((Value.object [("compiledCode", .text code)]).written escaping) =
      .ok (.object [("compiledCode", .text code)]) :=
    (read_written hjson).mpr ⟨by simp [Json.Value.Readable, Json.MembersReadable,
      Json.Message.depthLimit], rfl⟩
  rw [Answer.ofReply]
  exact Answer.ofMessage_eq_ok_iff.mpr ⟨_, hread, .given "compiledCode" _ _ rfl (.text code),
    .missing rfl, by rintro ⟨-, ⟨⟩⟩⟩

theorem text_reread_eq_ok_iff {json : Json.Value} {s : String} :
    Validation.text json.reread = .ok s ↔ json = .text s := by
  have hnumber (x : Binary64) : Validation.text x.reread ≠ .ok s := by
    cases x with
    | finite negative significand exponent =>
      rw [Binary64.reread, Json.NumberText.value]
      split <;> rintro ⟨⟩
    | _ => rintro ⟨⟩
  constructor
  · intro h
    cases json with
    | text t => exact congrArg Json.Value.text (Except.ok.inj h)
    | number x => exact absurd h (hnumber x)
    | _ => cases h
  · rintro rfl
    rfl

theorem toJson?_eq_text_iff {value : Value} {s : String} :
    value.toJson? = some (.text s) ↔ value = .text s := by
  constructor
  · intro h
    cases value with
    | text t => simpa [Value.toJson?] using h
    | number x => cases x <;> simp [Value.toJson?] at h
    | _ => simp [Value.toJson?] at h
  · rintro rfl
    simp [Value.toJson?]

/-- The object that reports an error. -/
def report (message line column : Value) : Value :=
  .object [("errors", .array [.object
    [("message", message), ("lineNumber", line), ("columnNumber", column)]])]

/-- The report of an error is read as an answer only if its message is a text and its positions
are read as integers, and then it is read as this one error. -/
theorem ofReply_report_eq_ok_iff (escaping : Escaping)
    {messageJson lineJson columnJson : Json.Value} {answer : Answer}
    (hmessage : message.toJson? = some messageJson) (hline : line.toJson? = some lineJson)
    (hcolumn : column.toJson? = some columnJson)
    (hreadLine : ∀ depth, lineJson.Readable depth ↔ depth ≤ Json.Message.depthLimit)
    (hreadColumn : ∀ depth, columnJson.Readable depth ↔ depth ≤ Json.Message.depthLimit) :
    Answer.ofReply (.text ((report message line column).written escaping)) = .ok answer ↔
      ∃ entry, answer = ⟨none, some [entry]⟩ ∧ message = .text entry.message ∧
        Validation.integer lineJson.reread = .ok entry.line ∧
        Validation.integer columnJson.reread = .ok entry.column := by
  have hjson : (report message line column).toJson? = some (.object [("errors", .array
      [.object [("message", messageJson), ("lineNumber", lineJson),
        ("columnNumber", columnJson)]])]) := by
    simp [report, Value.toJson?, Value.toJsonMembers, Value.toJsonItems, hmessage, hline, hcolumn]
  have hreread : (Json.Value.object [("errors", .array
      [.object [("message", messageJson), ("lineNumber", lineJson),
        ("columnNumber", columnJson)]])]).reread = .object [("errors", .array [.object
          [("message", messageJson.reread), ("lineNumber", lineJson.reread),
            ("columnNumber", columnJson.reread)]])] := rfl
  have hentry (entry : Entry) : Entry.ofValue (.object [("message", messageJson.reread),
      ("lineNumber", lineJson.reread), ("columnNumber", columnJson.reread)]) = .valid entry ↔
        message = .text entry.message ∧ Validation.integer lineJson.reread = .ok entry.line ∧
          Validation.integer columnJson.reread = .ok entry.column := by
    rw [Entry.ofValue_eq_valid_iff]
    refine and_congr ?_ (and_congr (Validation.Part.iff_of_eq_some rfl)
      (Validation.Part.iff_of_eq_some rfl))
    rw [← toJson?_eq_text_iff, hmessage, Option.some.injEq, ← text_reread_eq_ok_iff]
    simp [Json.Members.get?]
  rw [Answer.ofReply, Answer.ofMessage_eq_ok_iff]
  constructor
  · rintro ⟨members, hread, hcode, herrors, -⟩
    obtain ⟨-, hobject⟩ := (read_written hjson).mp hread
    obtain rfl := Json.Value.object.inj (hobject.trans hreread)
    obtain ⟨code, errors⟩ := answer
    obtain rfl := (Validation.Part.iff_of_eq_none rfl).mp hcode
    obtain _ | ⟨-, entries, hall⟩ := (Validation.Part.iff_of_eq_some rfl).mp herrors
    obtain ⟨entry, _, hvalid, hnil, rfl⟩ := List.forall₂_cons_left_iff.mp hall
    obtain rfl := List.forall₂_nil_left_iff.mp hnil
    exact ⟨entry, rfl, (hentry entry).mp hvalid⟩
  · rintro ⟨entry, rfl, hvalid⟩
    have htext := Option.some.inj (hmessage.symm.trans (toJson?_eq_text_iff.mpr hvalid.1))
    have hreadable : (Json.Value.object [("errors", .array
        [.object [("message", messageJson), ("lineNumber", lineJson),
          ("columnNumber", columnJson)]])]).Readable 0 := by
      simp [Json.Value.Readable, Json.MembersReadable, Json.ItemsReadable, Json.Message.depthLimit,
        hreadLine, hreadColumn, htext]
    refine ⟨_, (read_written hjson).mpr ⟨hreadable, hreread.symm⟩, .missing rfl, ?_,
      by rintro ⟨⟨⟩, -⟩⟩
    exact .given "errors" _ _ rfl (.list _ _ (.cons ((hentry entry).mpr hvalid) .nil))

/-! ### Thrown values -/

/-- The positions that are read off a thrown value. A location that counts as false is none. -/
inductive Located (thrown : Value) : Value → Value → Prop
  | missing (location : Value) (h : thrown.property "location" = .ok location)
      (hfalse : location.isTruthy = false) : Located thrown .undefined .undefined
  | given (location firstLine firstColumn : Value)
      (h : thrown.property "location" = .ok location) (htrue : location.isTruthy = true)
      (hline : location.property "first_line" = .ok firstLine)
      (hcolumn : location.property "first_column" = .ok firstColumn) :
      Located thrown firstLine firstColumn

/-- The details of a thrown value are its message and its positions. -/
theorem details_of_located (h : Located thrown firstLine firstColumn) :
    details thrown = (messageOf thrown).map fun message => .object [("message", message),
      ("lineNumber", position firstLine), ("columnNumber", position firstColumn)] := by
  cases h with
  | missing location h hfalse =>
    rw [details, h]
    cases messageOf thrown with
    | error e => rfl
    | ok m =>
      simp only [bind, Except.bind, hfalse]
      rfl
  | given location _ _ h htrue hline hcolumn =>
    rw [details, h]
    cases messageOf thrown with
    | error e => rfl
    | ok m =>
      simp only [bind, Except.bind, htrue, if_true, hline, hcolumn]
      rfl

theorem compileWith_thrown (escaping : Escaping) (h : library source options = .thrown thrown)
    (hlocated : Located thrown firstLine firstColumn) :
    compileWith escaping library source options = (messageOf thrown).map fun message =>
      (report message (position firstLine) (position firstColumn)).written escaping := by
  rw [compileWith, result, h]
  dsimp only
  rw [details_of_located hlocated]
  cases messageOf thrown <;> rfl

theorem isTruthy_text {text : String} : (Value.text text).isTruthy = true ↔ text ≠ "" := by
  simp [Value.isTruthy]

theorem messageOf_of_true (h : thrown.property "message" = .ok message)
    (htrue : message.isTruthy = true) : messageOf thrown = .ok message := by
  rw [messageOf, h]
  exact if_pos htrue

theorem messageOf_of_false (h : thrown.property "message" = .ok message)
    (hfalse : message.isTruthy = false) : messageOf thrown =
      match thrown.display? with
      | some text => .ok (.text text)
      | none => .error "TypeError: coercion to primitive failed" := by
  rw [messageOf, h]
  simp only [bind, Except.bind, hfalse]
  cases thrown.display? <;> rfl

/-! ### Errors and their places -/

theorem position_of_ne_number {value : Value} (h : ∀ x, value ≠ .number x) :
    (position value).toJson? = some (.number (.zero false)) := by
  cases value with
  | number x => exact absurd rfl (h x)
  | _ => rfl

/-- What is read as a position: an integer is counted from one, and what is no number is
unknown. -/
inductive Counted : Value → Int → Prop
  | other (value : Value) (h : ∀ x, value ≠ .number x) : Counted value 0
  | number (x : Binary64) (k : Int) (hwhole : x.isWhole = true) (hvalue : x.truncate? = some k)
      (hsize : |k| < 2 ^ 53 - 1) : Counted (.number x) (k + 1)

/-- The line and the column of a location. A location that counts as false is none. -/
inductive Places (location : Value) : Int → Int → Prop
  | missing (h : location.isTruthy = false) : Places location 0 0
  | given (firstLine firstColumn : Value) (line column : Int) (h : location.isTruthy = true)
      (hline : location.property "first_line" = .ok firstLine)
      (hcolumn : location.property "first_column" = .ok firstColumn)
      (hcountedLine : Counted firstLine line) (hcountedColumn : Counted firstColumn column) :
      Places location line column

theorem position_of_counted {value : Value} {i : Int} (h : Counted value i) :
    ∃ json, (position value).toJson? = some json ∧
      (∀ depth, json.Readable depth ↔ depth ≤ Json.Message.depthLimit) ∧
      Validation.integer json.reread = .ok i := by
  have hread {x : Binary64} (hreread : x.reread = .integer i) :
      Validation.integer (Json.Value.number x).reread = .ok i := congrArg Validation.integer hreread
  cases h with
  | other value h =>
    exact ⟨_, position_of_ne_number h, fun _ => Iff.rfl, hread (Binary64.reread_zero false)⟩
  | number x k hwhole hvalue hsize =>
    have hbound : (k + 1).natAbs < 2 ^ 53 := by
      rw [abs_lt] at hsize
      omega
    obtain ⟨negative, significand, exponent, hadd, hreread⟩ :=
      Binary64.add_one_reread hwhole hvalue hbound
    refine ⟨.number (.finite negative significand exponent), ?_, fun _ => Iff.rfl, hread hreread⟩
    rw [position, hadd]
    rfl

/-- The places of a location are positions that are counted. -/
theorem Places.located {location : Value} {i j : Int} (h : Places location i j)
    (hlocation : thrown.property "location" = .ok location) :
    ∃ firstLine firstColumn, Located thrown firstLine firstColumn ∧ Counted firstLine i ∧
      Counted firstColumn j := by
  cases h with
  | missing h => exact ⟨_, _, .missing location hlocation h, .other _ nofun, .other _ nofun⟩
  | given firstLine firstColumn _ _ h hline hcolumn hi hj =>
    exact ⟨_, _, .given location _ _ hlocation h hline hcolumn, hi, hj⟩

/-- What the completion of a call is to be answered with: code, or one error at its place. -/
inductive Reports : Completion → Answer → Prop
  | code (code : String) : Reports (.returned (.text code)) ⟨some code, none⟩
  | error (thrown location : Value) (text : String) (line column : Int)
      (hmessage : thrown.property "message" = .ok (.text text)) (htext : text ≠ "")
      (hlocation : thrown.property "location" = .ok location)
      (hplaces : Places location line column) :
      Reports (.thrown thrown) ⟨none, some [⟨text, line, column⟩]⟩

/-- What the library returns or throws comes back whole: a code as the code, and an error with a
message as the message at its place, whatever else is escaped in strings. -/
theorem compile_reads_back {library : Library} {source options : Value} {answer : Answer}
    (h : Reports (library source options) answer) :
    (∃ message, compile library source options = .ok message ∧
      Answer.ofReply (.text message) = .ok answer) ∧
    ∀ escaping, ∃ message, compileWith escaping library source options = .ok message ∧
      Answer.ofReply (.text message) = .ok answer := by
  have hall (escaping : Escaping) : ∃ message,
      compileWith escaping library source options = .ok message ∧
        Answer.ofReply (.text message) = .ok answer := by
    cases hlibrary : library source options with
    | returned value =>
      rw [hlibrary] at h
      cases h with
      | code code =>
        refine ⟨_, ?_, ofReply_code escaping code⟩
        rw [compileWith, result, hlibrary]
        rfl
    | thrown value =>
      rw [hlibrary] at h
      cases h with
      | error _ location text line column hmessage htext hlocation hplaces =>
        obtain ⟨firstLine, firstColumn, hlocated, hline, hcolumn⟩ := hplaces.located hlocation
        obtain ⟨lineJson, hlineJson, hreadLine, hi⟩ := position_of_counted hline
        obtain ⟨columnJson, hcolumnJson, hreadColumn, hj⟩ := position_of_counted hcolumn
        have hreply := (ofReply_report_eq_ok_iff escaping (toJson?_eq_text_iff.mpr rfl) hlineJson
          hcolumnJson hreadLine hreadColumn).mpr ⟨⟨text, line, column⟩, rfl, rfl, hi, hj⟩
        refine ⟨_, ?_, hreply⟩
        rw [compileWith_thrown escaping hlibrary hlocated,
          messageOf_of_true hmessage (isTruthy_text.mpr htext)]
        rfl
  exact ⟨compile_eq library source options ▸ hall .separators, hall⟩

/-- A library that complains about the third line, with a separator in its message. -/
theorem error_on_third_line_reads_back :
    (∃ message, compile (fun _ _ => .thrown (.error "bad\u2028end" [("location", .object
        [("first_line", .number (.ofInt 2)), ("first_column", .text "7")])]))
        (.text "x") (.object []) = .ok message ∧
      Answer.ofReply (.text message) = .ok ⟨none, some [⟨"bad\u2028end", 3, 0⟩]⟩) ∧
    ∀ escaping, ∃ message, compileWith escaping (fun _ _ => .thrown (.error "bad\u2028end"
        [("location", .object [("first_line", .number (.ofInt 2)), ("first_column", .text "7")])]))
        (.text "x") (.object []) = .ok message ∧
      Answer.ofReply (.text message) = .ok ⟨none, some [⟨"bad\u2028end", 3, 0⟩]⟩ := by
  refine compile_reads_back (.error _ (.object
    [("first_line", .number (.ofInt 2)), ("first_column", .text "7")]) _ 3 0 rfl (by decide) rfl ?_)
  refine .given (.number (.ofInt 2)) (.text "7") _ _ rfl rfl rfl ?_ (.other _ nofun)
  exact .number (.ofInt 2) 2 (by decide) (by decide) (by decide)

end Helper

end CoffeeHost.Script
