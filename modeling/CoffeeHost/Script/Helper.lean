import CoffeeHost.Script.Value
/-!
# The helper script

The helper script stands between the host and the CoffeeScript library. Its one function compiles
a source and answers with a JSON message, which holds the code or the details of what the library
threw. When it is loaded it sees to it that the standard output of the process is an object,
because the library looks at it to describe its errors.

## Main definitions

* `Script.Completion`, `Script.Library` — how calls end, and the library.
* `Script.Helper.details` — the details of what was thrown.
* `Script.Helper.compile` — the answer to a call.
* `Script.Helper.prepareProcess` — the process after the script was loaded.
-/

namespace CoffeeHost.Script

/-- How a call ends. -/
inductive Completion
  | returned (value : Value)
  | thrown (value : Value)
  deriving Repr

/-- What the library does with a source and options. -/
abbrev Library := (source options : Value) → Completion

namespace Helper

/-- A position counted from one, for a position counted from zero; zero if it is no number. -/
def position : Value → Value
  | .number x => .number (x.add (.ofInt 1))
  | _ => .number (.ofInt 0)

/-- The message of what was thrown, or else its text. -/
def messageOf (thrown : Value) : Except String Value := do
  let message ← thrown.property "message"
  if message.isTruthy then return message
  match thrown.display? with
  | some text => return .text text
  | none => throw "TypeError: coercion to primitive failed"

/-- The details of what was thrown: its message, or else its text, and its position. Reading them
off null or the undefined value is an error. -/
def details (thrown : Value) : Except String Value := do
  let given ← thrown.property "location"
  let location := if given.isTruthy then given else .object []
  return .object
    [("message", ← messageOf thrown),
      ("lineNumber", position (← location.property "first_line")),
      ("columnNumber", position (← location.property "first_column"))]

/-- The object that answers a call. -/
def result (library : Library) (source options : Value) : Except String Value := do
  match library source options with
  | .returned code => return .object [("compiledCode", code)]
  | .thrown value => return .object [("errors", .array [← details value])]

/-- The message that answers a call, or the text of the error that the call ends with. -/
def compile (library : Library) (source options : Value) : Except String String := do
  let value ← result library source options
  return ((value.toJson?).getD .null).print .script

/-- The process after the script was loaded: an object has a standard output. -/
def prepareProcess : Value → Value
  | .object members =>
    match members.lookup "stdout" with
    | some output =>
      if output.isTruthy then .object members
      else .object (members.map fun m => if m.1 = "stdout" then ("stdout", .object []) else m)
    | none => .object (members ++ [("stdout", .object [])])
  | process => process

end Helper

end CoffeeHost.Script
