import CoffeeHost.Exchange.Call
import CoffeeHost.Json.Message
import CoffeeHost.Report.Diagnostic
import CoffeeHost.Report.Fault
/-!
# The answer of the helper script

The helper script answers a call with a JSON message: an object with the compiled code, or with
the errors that the compiler found. Errors count more than code, and only the first one counts.

## Main definitions

* `Entry` — one error of an answer; `Entry.diagnostic` adds the source fragment.
* `Answer` — an answer; `Answer.ofReply` reads one from what the engine returns.
-/

namespace CoffeeHost

open Json (Members Value)
open Validation (Checked Violation)

/-- One error of an answer. Lines and columns count from one, and zero is unknown. -/
structure Entry where
  message : String
  line : Int
  column : Int
  deriving DecidableEq, Repr

namespace Entry

/-- The entry that the members of an object describe. -/
def check (members : Members) : Checked Entry :=
  let message := Validation.field members "message" (.ofExcept ∘ Validation.text)
  let line := Validation.optionalField members ["lineNumber", "line_number"] 0
    (.ofExcept ∘ Validation.integer)
  let column := Validation.optionalField members ["columnNumber", "column_number"] 0
    (.ofExcept ∘ Validation.integer)
  (message.both Entry.mk line).both id column

/-- The entry that an object describes. -/
def ofValue : Value → Checked Entry
  | .object members => check members
  | _ => .broken .object

/-- The diagnostic for an entry, with the fragment of the source at its place. -/
def diagnostic (entry : Entry) (source : Value) : Except Source.Refusal Diagnostic := do
  let lines ← Source.linesOf source
  return ⟨entry.message, entry.line, entry.column,
    some (Source.fragmentOfLines lines ⟨entry.line, entry.column⟩)⟩

end Entry

/-- An answer: compiled code, or errors, or neither. -/
structure Answer where
  code : Option String
  errors : Option (List Entry)
  deriving DecidableEq, Repr

namespace Answer

/-- The error that counts. -/
def firstError? (answer : Answer) : Option Entry := answer.errors.bind List.head?

/-- The list of errors, or null for none. -/
def checkErrors : Value → Checked (Option (List Entry))
  | .null => .valid none
  | .array items => (Validation.checkItems Entry.ofValue 0 items).map some
  | _ => .broken .list

/-- The answer that an object describes. Everything in it is checked, also what does not count. -/
def ofValue : Value → Checked Answer
  | .object members =>
    let code := Validation.optionalField members ["compiledCode", "compiled_code"] none
      (.ofExcept ∘ Validation.optionalText)
    let errors := Validation.optionalField members ["errors"] none checkErrors
    code.both Answer.mk errors
  | _ => .broken .object

/-- The fault of a message that is no answer. -/
def unreadable (reason : String) : Fault :=
  .plain s!"Could not parse the compilation result: {reason}" Category.malformed

/-- The answer that a message holds. An answer with neither code nor errors is none. -/
def ofMessage (message : String) : Except Fault Answer :=
  match Json.Message.read message with
  | .error e => .error (unreadable s!"Invalid JSON: {e.message}")
  | .ok value =>
    match ofValue value with
    | .invalid violations =>
      .error (unreadable ((violations.head?.map (·.message)).getD ""))
    | .valid answer =>
      if answer.firstError?.isNone && answer.code.isNone then
        .error (.plain "Compilation result contains neither compiled code nor errors"
          Category.malformed)
      else .ok answer

/-- The answer in what the engine returns, which must be a message. -/
def ofReply : Value → Except Fault Answer
  | .text message => ofMessage message
  | reply =>
    .error (.plain
      s!"Expected a JSON string from {CompileCall.helperName}, got {reply.kindName}"
      Category.malformed)

end Answer

end CoffeeHost
