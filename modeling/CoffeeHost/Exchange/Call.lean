import CoffeeHost.Json.Document
import CoffeeHost.Json.Printer
import CoffeeHost.Validation.Scalar
/-!
# The call of the helper script

To compile a source, one expression is evaluated in the engine: a call of the helper script with
two JSON values, the source and the options.

## Main definitions

* `CompileOptions` — the options of a call, with their JSON form.
* `CompileCall.text` — the expression.
* `CompileCall.arguments?` — the two values of an expression.
-/

namespace CoffeeHost

open Json (Members Style Value)
open Validation (Violation)

/-- The options of a call. The output is always bare, without a wrapper function. -/
structure CompileOptions where
  /-- Whether the source is literate. -/
  literate : Bool
  deriving DecidableEq, Repr

namespace CompileOptions

/-- The options as a JSON object. -/
def toValue (options : CompileOptions) : Value :=
  .object [("bare", .boolean true), ("literate", .boolean options.literate)]

/-- The options in the expression. -/
def literal (options : CompileOptions) : String := options.toValue.print .compact

/-- The options that the members of an object describe. -/
def ofMembers (members : Members) : Except (List Violation) CompileOptions :=
  let bare := Validation.optionalField members ["bare"] () (.ofExcept ∘ Validation.alwaysTrue)
  let literate :=
    Validation.optionalField members ["literate"] false (.ofExcept ∘ Validation.truth)
  (bare.both (fun _ literate => ⟨literate⟩) literate).toExcept

/-- The options with the given value for literate. -/
def ofLiterate (literate : Value) : Except (List Violation) CompileOptions :=
  ofMembers [("literate", literate)]

/-- Options are fixed once they are made, so giving one of them a value is a violation. -/
def assign (_ : CompileOptions) (name : String) : Except (List Violation) CompileOptions :=
  .error [⟨[.name name], .frozen⟩]

end CompileOptions

namespace CompileCall

/-- The name of the helper script's object. -/
def helperName : String := "coffeeScriptHelper"

/-- The expression that compiles a source with the given object. -/
def text (source : Value) (options : CompileOptions) (helper : String) : String :=
  s!"{helper}.compile({source.print Style.spaced}, {options.literal});"

/-- The two values of an expression that calls the helper script. -/
def arguments? (call : String) : Option (Value × Value) := do
  let text ← (s!"{helperName}.compile(").toList.isPrefixOf? call.toList
  let (source, rest) ← (Json.Document.readFront text).toOption
  let text ← [',', ' '].isPrefixOf? rest
  let (options, rest) ← (Json.Document.readFront text).toOption
  guard (rest = [')', ';'])
  return (source, options)

end CompileCall

end CoffeeHost
