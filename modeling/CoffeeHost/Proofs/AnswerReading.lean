import CoffeeHost.Proofs.Lifecycle
import CoffeeHost.Proofs.Validity
/-!
# Reading answers

The message of an answer is read as a whole: the code must be a text or null, and every error of
the list must be an entry, also where neither counts. Of an answer that is read, only the first
error counts if there is one. What cannot be read is a fault.

So an error that is well reported can be lost, to code of another type or to a later error that is
badly reported. Otherwise it becomes the diagnostic of the compilation, whatever the code and the
later errors say.

## Main definitions

* `Answer.CodeOf`, `Answer.ErrorsOf` — what an object says of the code and of the errors.
* `Entry.PlainOf` — an object that describes an error without any conversion.
* `Answer.InOrder` — the rest of an object whose errors begin with some error.

## Main results

* `Answer.ofMessage_eq_ok_iff` — the messages that are answers.
* `Answer.ofMessage_eq_error` — the fault of any other message.
* `Run.Reaches.tryCompile_verdict` — what comes of a compilation is decided by the engine.
* `Run.first_error_counts` — when the first error is the one that is reported.
-/

namespace CoffeeHost

open Json (Members Value)
open Validation (Part)

/-! ### Entries -/

/-- An object is an entry if its message is a text and its positions are integers or missing. -/
theorem Entry.ofValue_eq_valid_iff {members : Members} {entry : Entry} :
    Entry.ofValue (.object members) = .valid entry ↔
      (∃ value, members.get? "message" = some value ∧
        Validation.text value = .ok entry.message) ∧
      Part members ["lineNumber", "line_number"] 0
        (fun value i => Validation.integer value = .ok i) entry.line ∧
      Part members ["columnNumber", "column_number"] 0
        (fun value i => Validation.integer value = .ok i) entry.column := by
  have hmessage (s : String) : Validation.field members "message" (.ofExcept ∘ Validation.text) =
      .valid s ↔ ∃ value, members.get? "message" = some value ∧ Validation.text value = .ok s := by
    simp [Validation.field_eq_valid_iff]
  have hposition (names : List String) (i : Int) : Validation.optionalField members names 0
      (.ofExcept ∘ Validation.integer) = .valid i ↔
        Part members names 0 (fun value i => Validation.integer value = .ok i) i := by
    simp [Validation.optionalField_eq_valid_iff]
  rw [ofValue, check, Validation.Checked.both_eq_valid_iff]
  simp only [Validation.Checked.both_eq_valid_iff, hmessage, hposition]
  constructor
  · rintro ⟨_, i, ⟨s, j, hs, hj, rfl⟩, hi, rfl⟩
    exact ⟨hs, hj, hi⟩
  · rintro ⟨hs, hj, hi⟩
    exact ⟨_, entry.column, ⟨_, _, hs, hj, rfl⟩, hi, rfl⟩

/-- An object describes an error in so many words: its message is a text, and its positions are
integers, or zero if they are missing. -/
structure Entry.PlainOf (members : Members) (entry : Entry) : Prop where
  message : members.get? "message" = some (.text entry.message)
  line : Part members ["lineNumber", "line_number"] 0 (fun value i => value = .integer i)
    entry.line
  column : Part members ["columnNumber", "column_number"] 0 (fun value i => value = .integer i)
    entry.column

theorem Entry.PlainOf.ofValue_eq {members : Members} {entry : Entry}
    (h : Entry.PlainOf members entry) : Entry.ofValue (.object members) = .valid entry := by
  have hinteger (value : Value) (i : Int) (hvalue : value = .integer i) :
      Validation.integer value = .ok i := by
    rw [hvalue]
    rfl
  exact ofValue_eq_valid_iff.mpr
    ⟨⟨_, h.message, rfl⟩, h.line.imp hinteger, h.column.imp hinteger⟩

namespace Answer

/-! ### Answers -/

/-- A text, or null for none. -/
inductive TextOrNull : Value → Option String → Prop
  | null : TextOrNull .null none
  | text (s : String) : TextOrNull (.text s) (some s)

/-- A list of entries, or null for none. -/
inductive EntriesOrNull : Value → Option (List Entry) → Prop
  | null : EntriesOrNull .null none
  | list (items : List Value) (entries : List Entry)
      (h : List.Forall₂ (fun item entry => Entry.ofValue item = .valid entry) items entries) :
      EntriesOrNull (.array items) (some entries)

/-- The code that an object has. -/
def CodeOf (members : Members) : Option String → Prop :=
  Part members ["compiledCode", "compiled_code"] none TextOrNull

/-- The errors that an object has. -/
def ErrorsOf (members : Members) : Option (List Entry) → Prop :=
  Part members ["errors"] none EntriesOrNull

theorem optionalText_eq_ok_iff {value : Value} {code? : Option String} :
    Validation.optionalText value = .ok code? ↔ TextOrNull value code? := by
  constructor
  · intro h
    cases value with
    | null => cases h; exact .null
    | text s => cases h; exact .text s
    | _ => cases h
  · rintro (_ | s) <;> rfl

theorem checkErrors_eq_valid_iff {value : Value} {errors : Option (List Entry)} :
    checkErrors value = .valid errors ↔ EntriesOrNull value errors := by
  constructor
  · intro h
    cases value with
    | null => cases h; exact .null
    | array items =>
      obtain ⟨entries, hentries, rfl⟩ := Validation.Checked.map_eq_valid_iff.mp h
      exact .list items entries (Validation.checkItems_eq_valid_iff.mp hentries)
    | _ => cases h
  · rintro (_ | ⟨items, entries, h⟩)
    · rfl
    · exact Validation.Checked.map_eq_valid_iff.mpr
        ⟨entries, Validation.checkItems_eq_valid_iff.mpr h, rfl⟩

/-- An object is an answer if its code and its errors are in order. -/
theorem ofValue_eq_valid_iff {value : Value} {answer : Answer} :
    ofValue value = .valid answer ↔
      ∃ members, value = .object members ∧ CodeOf members answer.code ∧
        ErrorsOf members answer.errors := by
  have hcode {members : Members} {code? : Option String} : Validation.optionalField members
      ["compiledCode", "compiled_code"] none (.ofExcept ∘ Validation.optionalText) =
        .valid code? ↔ CodeOf members code? := by
    rw [Validation.optionalField_eq_valid_iff]
    exact Part.congr fun value a =>
      Validation.Checked.ofExcept_eq_valid_iff.trans optionalText_eq_ok_iff
  have herrors {members : Members} {errors : Option (List Entry)} :
      Validation.optionalField members ["errors"] none checkErrors = .valid errors ↔
        ErrorsOf members errors := by
    rw [Validation.optionalField_eq_valid_iff]
    exact Part.congr fun value a => checkErrors_eq_valid_iff
  constructor
  · intro h
    cases value with
    | object members =>
      obtain ⟨code?, errors, hc, he, rfl⟩ := Validation.Checked.both_eq_valid_iff.mp h
      exact ⟨members, rfl, hcode.mp hc, herrors.mp he⟩
    | _ => cases h
  · rintro ⟨members, rfl, hc, he⟩
    exact Validation.Checked.both_eq_valid_iff.mpr
      ⟨answer.code, answer.errors, hcode.mpr hc, herrors.mpr he, rfl⟩

/-- A message is an answer if it is an object in order, with an error or with code. -/
theorem ofMessage_eq_ok_iff {message : String} {answer : Answer} :
    ofMessage message = .ok answer ↔
      ∃ members, Json.Message.read message = .ok (.object members) ∧
        CodeOf members answer.code ∧ ErrorsOf members answer.errors ∧
        ¬ (answer.firstError? = none ∧ answer.code = none) := by
  have hparts : ofMessage message = .ok answer ↔
      ∃ value, Json.Message.read message = .ok value ∧ ofValue value = .valid answer ∧
        ¬ (answer.firstError? = none ∧ answer.code = none) := by
    rw [ofMessage]
    cases Json.Message.read message with
    | error flaw => simp
    | ok value =>
      cases hchecked : ofValue value with
      | invalid violations => simp [hchecked]
      | valid found =>
        have hempty : (found.firstError?.isNone && found.code.isNone) = true ↔
            found.firstError? = none ∧ found.code = none := by simp
        simp only [Except.ok.injEq, exists_eq_left', hchecked, Validation.Checked.valid.injEq]
        split_ifs with h
        · refine iff_of_false nofun ?_
          rintro ⟨rfl, hsome⟩
          exact hsome (hempty.mp h)
        · rw [Except.ok.injEq]
          constructor
          · rintro rfl
            exact ⟨rfl, fun hnone => h (hempty.mpr hnone)⟩
          · exact fun hfound => hfound.1
  rw [hparts]
  constructor
  · rintro ⟨value, hread, hvalid, hsome⟩
    obtain ⟨members, rfl, hcode, herrors⟩ := ofValue_eq_valid_iff.mp hvalid
    exact ⟨members, hread, hcode, herrors, hsome⟩
  · rintro ⟨members, hread, hcode, herrors, hsome⟩
    exact ⟨_, hread, ofValue_eq_valid_iff.mpr ⟨members, rfl, hcode, herrors⟩, hsome⟩

/-- Every other message is a fault of one category. -/
theorem ofMessage_eq_error {message : String} {fault : Fault}
    (h : ofMessage message = .error fault) :
    ∃ text, fault = .interpreter text none Category.malformed := by
  have hplain (text : String) : Fault.plain text Category.malformed =
      .interpreter text none Category.malformed := rfl
  rw [ofMessage] at h
  split at h
  · cases h
    exact ⟨_, hplain _⟩
  · split at h
    · cases h
      exact ⟨_, hplain _⟩
    · split at h <;> cases h
      exact ⟨_, hplain _⟩

/-! ### The first error -/

/-- An answer with an error becomes a diagnostic that shows the source at the error's place. -/
theorem verdict_firstError {message : String} {answer : Answer} {entry : Entry}
    (hanswer : ofMessage message = .ok answer) (h : answer.firstError? = some entry)
    (source : String) :
    Compiler.verdict (.text source) (.ok (.text message)) = .ok (.failed (.diagnostic
      ⟨entry.message, entry.line, entry.column,
        some (Source.fragment source ⟨entry.line, entry.column⟩)⟩)) := by
  have hreading : Compiler.reading (.ok (.text message)) = .ok answer :=
    congrArg (Except.mapError Raised.fault) hanswer
  rw [Compiler.verdict, hreading]
  dsimp only
  rw [Compiler.judgement, h]
  rfl

/-- What stands beside and after the first error of an object is in order: its code, if any, is a
text or null, and the other errors are entries. -/
def InOrder (members : Members) (rest : List Value) : Prop :=
  (∃ code?, CodeOf members code?) ∧ ∀ item ∈ rest, ∃ later, Entry.ofValue item = .valid later

variable {message : String} {members first : Members} {rest : List Value} {entry : Entry}

theorem errorsOf_cons (herrors : members.get? "errors" = some (.array (.object first :: rest)))
    (hfirst : Entry.PlainOf first entry) {errors : Option (List Entry)} :
    ErrorsOf members errors ↔
      ∃ later, errors = some (entry :: later) ∧
        List.Forall₂ (fun item e => Entry.ofValue item = .valid e) rest later := by
  have hfound : Validation.findMember members ["errors"] =
      some ("errors", .array (.object first :: rest)) := by
    simp [Validation.findMember, herrors]
  rw [ErrorsOf, Part.iff_of_eq_some hfound]
  constructor
  · rintro (_ | ⟨-, entries, hall⟩)
    obtain ⟨e, later, he, hlater, rfl⟩ := List.forall₂_cons_left_iff.mp hall
    obtain rfl : entry = e := Validation.Checked.valid.inj (hfirst.ofValue_eq.symm.trans he)
    exact ⟨later, rfl, hlater⟩
  · rintro ⟨later, rfl, hlater⟩
    exact .list _ _ (.cons hfirst.ofValue_eq hlater)

/-- Items are a list of entries if each of them is an entry. -/
theorem exists_entries_iff :
    (∃ later, List.Forall₂ (fun item e => Entry.ofValue item = .valid e) rest later) ↔
      ∀ item ∈ rest, ∃ e, Entry.ofValue item = .valid e := by
  induction rest with
  | nil => simp
  | cons item rest ih =>
    rw [List.forall_mem_cons, ← ih]
    constructor
    · rintro ⟨later, h⟩
      obtain ⟨e, more, he, hmore, rfl⟩ := List.forall₂_cons_left_iff.mp h
      exact ⟨⟨e, he⟩, more, hmore⟩
    · rintro ⟨⟨e, he⟩, more, hmore⟩
      exact ⟨e :: more, .cons he hmore⟩

section FirstError

variable (hread : Json.Message.read message = .ok (.object members))
  (herrors : members.get? "errors" = some (.array (.object first :: rest)))
  (hfirst : Entry.PlainOf first entry)

include hread herrors hfirst

/-- If the rest of a message is in order, its first error is that of the answer. -/
theorem ofMessage_of_inOrder (horder : InOrder members rest) :
    ∃ answer, ofMessage message = .ok answer ∧ answer.firstError? = some entry := by
  obtain ⟨⟨code?, hcode⟩, hrest⟩ := horder
  obtain ⟨later, hlater⟩ := exists_entries_iff.mpr hrest
  have hlist := (errorsOf_cons herrors hfirst).mpr ⟨later, rfl, hlater⟩
  exact ⟨⟨code?, some (entry :: later)⟩,
    ofMessage_eq_ok_iff.mpr ⟨members, hread, hcode, hlist, fun h => nomatch h.1⟩, rfl⟩

/-- A message is an answer only if all of it is in order. -/
theorem inOrder_of_ofMessage {answer : Answer} (h : ofMessage message = .ok answer) :
    InOrder members rest := by
  obtain ⟨members', hread', hcode, hlist, -⟩ := ofMessage_eq_ok_iff.mp h
  obtain rfl : members = members' := by simpa [hread] using hread'
  obtain ⟨later, -, hlater⟩ := (errorsOf_cons herrors hfirst).mp hlist
  exact ⟨⟨answer.code, hcode⟩, exists_entries_iff.mp ⟨later, hlater⟩⟩

end FirstError

end Answer

namespace Run

/-- If a compiler of a run can start, or has started, what comes of a compilation is decided by the
reaction of the engine to the call. -/
theorem Reaches.tryCompile_verdict {collaborators : Collaborators} {factories : List Factory}
    {steps : List Step} {number : Nat} {compiler : Compiler} {s : Session}
    (h : Reaches collaborators factories steps number compiler s)
    (hok : (compiler.start s).1.2 = .ok ()) (source : Value) (options : CompileOptions) :
    (compiler.tryCompile source options s).1.2 =
      Compiler.verdict source (s.collaborators.evaluate s.evaluated
        (CompileCall.text source options CompileCall.helperName)) := by
  have hspec := compiler.start_spec s
  rcases hstart : compiler.start s with ⟨⟨compiler', result⟩, s₁⟩
  simp only [hstart] at hspec hok
  subst hok
  obtain ⟨⟨lease, n, hholds⟩, -⟩ :=
    (hspec.consistent h.consistent).initialized hspec.stage_of_ok
  obtain ⟨s', -, htry⟩ := Compiler.tryCompile_started hstart hholds source options
  have hstretch := hspec.stretch_of_ok
  rw [htry, hstretch.collaborators, hstretch.evaluated]

/-- A message whose list of errors begins with one that is well described. If the rest of the
message is in order, whatever it says, the message is an answer, this error is the first of the
answer, and a compilation by a compiler of any run that gets this message reports it, with the
fragment of the source at its place. If not, the message is a fault. -/
theorem first_error_counts {message : String} {members first : Members} {rest : List Value}
    {entry : Entry} (hread : Json.Message.read message = .ok (.object members))
    (herrors : members.get? "errors" = some (.array (.object first :: rest)))
    (hfirst : Entry.PlainOf first entry) :
    (Answer.InOrder members rest →
      (∃ answer, Answer.ofReply (.text message) = .ok answer ∧ answer.firstError? = some entry) ∧
        ∀ (collaborators : Collaborators) (factories : List Factory) (steps : List Step)
          (number : Nat) (compiler : Compiler) (s : Session),
          Reaches collaborators factories steps number compiler s →
          (compiler.start s).1.2 = .ok () →
          ∀ (source : String) (options : CompileOptions),
            s.collaborators.evaluate s.evaluated
              (CompileCall.text (.text source) options CompileCall.helperName) =
                .ok (.text message) →
            (compiler.tryCompile (.text source) options s).1.2 = .ok (.failed (.diagnostic
              ⟨entry.message, entry.line, entry.column,
                some (Source.fragment source ⟨entry.line, entry.column⟩)⟩))) ∧
      (¬ Answer.InOrder members rest →
        ∃ text, Answer.ofReply (.text message) =
          .error (.interpreter text none "Malformed result")) := by
  constructor
  · intro horder
    obtain ⟨answer, hanswer, hentry⟩ :=
      Answer.ofMessage_of_inOrder hread herrors hfirst horder
    refine ⟨⟨answer, hanswer, hentry⟩, ?_⟩
    intro collaborators factories steps number compiler s hreaches hok source options hreaction
    rw [hreaches.tryCompile_verdict hok, hreaction]
    exact Answer.verdict_firstError hanswer hentry source
  · intro horder
    cases hmessage : Answer.ofMessage message with
    | ok answer => exact absurd (Answer.inOrder_of_ofMessage hread herrors hfirst hmessage) horder
    | error fault =>
      obtain ⟨text, rfl⟩ := Answer.ofMessage_eq_error hmessage
      exact ⟨text, hmessage⟩

/-- A message with code and two errors, the second of them beyond the source. -/
def twoErrors : String :=
  "\x7b\"compiledCode\":\"x\",\"errors\":[\x7b\"message\":\"bad\",\"lineNumber\":1\x7d," ++
    "\x7b\"message\":\"worse\",\"lineNumber\":9\x7d]\x7d"

theorem first_of_two_errors_is_reported :
    (∃ answer, Answer.ofReply (.text twoErrors) = .ok answer ∧
      answer.firstError? = some ⟨"bad", 1, 0⟩) ∧
    ((Compiler.new .plain).tryCompile (.text "a") ⟨false⟩
        (.new (.reacting (.ok (.text twoErrors))))).1.2 =
      .ok (.failed (.diagnostic ⟨"bad", 1, 0, some "Line 1: a"⟩)) := by
  have hread : Json.Message.read twoErrors = .ok (.object [("compiledCode", .text "x"),
      ("errors", .array [.object [("message", .text "bad"), ("lineNumber", .integer 1)],
        .object [("message", .text "worse"), ("lineNumber", .integer 9)]])]) := by cbv
  have hfirst : Entry.PlainOf [("message", .text "bad"), ("lineNumber", .integer 1)]
      ⟨"bad", 1, 0⟩ := ⟨rfl, .given "lineNumber" _ 1 rfl rfl, .missing rfl⟩
  have horder : Answer.InOrder [("compiledCode", .text "x"),
      ("errors", .array [.object [("message", .text "bad"), ("lineNumber", .integer 1)],
        .object [("message", .text "worse"), ("lineNumber", .integer 9)]])]
      [.object [("message", .text "worse"), ("lineNumber", .integer 9)]] := by
    refine ⟨⟨some "x", .given "compiledCode" _ _ rfl (.text "x")⟩, fun item hitem => ?_⟩
    obtain rfl := List.mem_singleton.mp hitem
    exact ⟨⟨"worse", 9, 0⟩, rfl⟩
  obtain ⟨hanswer, hreport⟩ := (first_error_counts hread rfl hfirst).1 horder
  have hok : ((Compiler.new .plain).start (.new (.reacting (.ok (.text twoErrors))))).1.2 =
      .ok () := by cbv
  have hreach : Reaches (.reacting (.ok (.text twoErrors))) [.plain] [] 0 (.new .plain)
      (.new (.reacting (.ok (.text twoErrors)))) := ⟨rfl, rfl⟩
  have hfragment : Source.fragment "a" ⟨1, 0⟩ = "Line 1: a" := by cbv
  rw [← hfragment]
  exact ⟨hanswer, hreport _ _ _ _ _ _ hreach hok "a" ⟨false⟩ rfl⟩

/-- A well described error is said to count whatever else the message says, with zero for a position
that is missing. But it is lost to code that is no text, even if it is the only error, and to a
later error that is no entry, even if there is no code. And a position that is missing may be there
by its other name. -/
theorem first_error_can_be_lost :
    (¬ ∀ (message : String) (members first : Members) (entry : Entry),
      Json.Message.read message = .ok (.object members) →
      members.get? "errors" = some (.array [.object first]) → Entry.PlainOf first entry →
      ∃ answer, Answer.ofReply (.text message) = .ok answer ∧ answer.firstError? = some entry) ∧
    (¬ ∀ (message : String) (members first : Members) (rest : List Value) (entry : Entry),
      Json.Message.read message = .ok (.object members) →
      members.get? "errors" = some (.array (.object first :: rest)) →
      Entry.PlainOf first entry → Answer.CodeOf members none →
      ∃ answer, Answer.ofReply (.text message) = .ok answer ∧ answer.firstError? = some entry) ∧
    ¬ ∀ (message : String) (members first : Members) (text : String),
      Json.Message.read message = .ok (.object members) →
      members.get? "compiledCode" = none →
      members.get? "errors" = some (.array [.object first]) →
      first.get? "message" = some (.text text) →
      first.get? "lineNumber" = none → first.get? "columnNumber" = none →
      ∃ answer, Answer.ofReply (.text message) = .ok answer ∧
        answer.firstError? = some ⟨text, 0, 0⟩ := by
  have hplain : Entry.PlainOf [("message", .text "bad")] ⟨"bad", 0, 0⟩ :=
    ⟨rfl, .missing rfl, .missing rfl⟩
  refine ⟨fun hall => ?_, fun hall => ?_, fun hall => ?_⟩
  · have hread : Json.Message.read
        "\x7b\"compiledCode\":5,\"errors\":[\x7b\"message\":\"bad\"\x7d]\x7d" =
        .ok (.object [("compiledCode", .integer 5),
          ("errors", .array [.object [("message", .text "bad")]])]) := by cbv
    have hlost : Answer.ofMessage
        "\x7b\"compiledCode\":5,\"errors\":[\x7b\"message\":\"bad\"\x7d]\x7d" =
        .error (Answer.unreadable "Input should be a valid string") := by
      rw [Answer.ofMessage, hread]
      rfl
    obtain ⟨answer, hanswer, -⟩ := hall _ _ _ _ hread rfl hplain
    exact absurd (hlost.symm.trans hanswer) (by simp)
  · have hread : Json.Message.read "\x7b\"errors\":[\x7b\"message\":\"bad\"\x7d,5]\x7d" =
        .ok (.object [("errors", .array [.object [("message", .text "bad")], .integer 5])]) := by
      cbv
    have hlost : Answer.ofMessage "\x7b\"errors\":[\x7b\"message\":\"bad\"\x7d,5]\x7d" =
        .error (Answer.unreadable "Input should be an object") := by
      rw [Answer.ofMessage, hread]
      rfl
    obtain ⟨answer, hanswer, -⟩ := hall _ _ _ _ _ hread rfl hplain (.missing rfl)
    exact absurd (hlost.symm.trans hanswer) (by simp)
  · have hread : Json.Message.read
        "\x7b\"errors\":[\x7b\"message\":\"bad\",\"line_number\":7\x7d]\x7d" =
        .ok (.object [("errors", .array
          [.object [("message", .text "bad"), ("line_number", .integer 7)]])]) := by cbv
    have hplaced : Answer.ofMessage
        "\x7b\"errors\":[\x7b\"message\":\"bad\",\"line_number\":7\x7d]\x7d" =
        .ok ⟨none, some [⟨"bad", 7, 0⟩]⟩ := by
      rw [Answer.ofMessage, hread]
      rfl
    obtain ⟨answer, hanswer, hfirst⟩ := hall _ _ _ "bad" hread rfl rfl rfl rfl rfl
    obtain rfl := Except.ok.inj (hplaced.symm.trans hanswer)
    exact absurd hfirst (by decide)

end Run

end CoffeeHost
