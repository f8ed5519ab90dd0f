import CoffeeHost.Source.Loose
import CoffeeHost.Text.Blank
import CoffeeHost.Validation.Scalar
/-!
# Diagnostics

A diagnostic is one error that the compiler found in a source text. Its report has one section
for each thing known about it, in a fixed order.

## Main definitions

* `Diagnostic` — the error; `Diagnostic.ofValue?` reads one from the members of an object.
* `Diagnostic.sections`, `Diagnostic.report` — the report.
-/

namespace CoffeeHost

open Json (Members)
open Validation (Checked Violation)

/-- One error in a source text. A line or column that is not positive is unknown. -/
structure Diagnostic where
  message : String
  line : Int
  column : Int
  fragment : Option String
  deriving DecidableEq, Repr

namespace Diagnostic

/-- A fragment that shows something. -/
def visibleFragment? (d : Diagnostic) : Option String :=
  d.fragment.filter fun fragment => !Text.allBlank fragment

/-- The sections of the report: the message, the line and the column if they are known, and the
fragment if it shows something. -/
def sections (d : Diagnostic) : List String :=
  [s!"Message: {d.message}"]
    ++ (if 0 < d.line then [s!"Line Number: {d.line}"] else [])
    ++ (if 0 < d.column then [s!"Column Number: {d.column}"] else [])
    ++ (d.visibleFragment?.map fun fragment => s!"Source Error:\n\n{fragment}").toList

/-- The report: the sections, each ended by a line feed. -/
def report (d : Diagnostic) : String := "\n".intercalate d.sections ++ "\n"

/-- The diagnostic that the members of an object describe. -/
def ofMembers (members : Members) : Except (List Violation) Diagnostic :=
  let message := Validation.field members "message" (.ofExcept ∘ Validation.text)
  let line := Validation.optionalField members ["line_number"] 0 (.ofExcept ∘ Validation.integer)
  let column :=
    Validation.optionalField members ["column_number"] 0 (.ofExcept ∘ Validation.integer)
  let fragment :=
    Validation.optionalField members ["source_fragment"] none (.ofExcept ∘ Validation.optionalText)
  (((message.both Diagnostic.mk line).both id column).both id fragment).toExcept

end Diagnostic

end CoffeeHost
