/-!
# Faults of the host

A fault says that the embedded engine, or the host around it, failed: a script is missing or
throws, an answer has the wrong form, a handle has been given back.

## Main definitions

* `Fault` — the faults, with `Fault.of` for a fault with an optional category.
* `Fault.report` — the report.
* `Category` — the categories that the host itself uses.
-/

namespace CoffeeHost

namespace Category

/-- The category of a fault for which none is given. -/
def general : String := "Interpreter error"

/-- The category of every fault of a handle that was given back. -/
def disposed : String := "Disposed handle"

/-- The engine cannot be created or used. -/
def engine : String := "Engine error"

/-- A script or an expression throws. -/
def script : String := "Script error"

/-- A script cannot be read. -/
def resource : String := "Resource error"

/-- An answer does not have the agreed form. -/
def malformed : String := "Malformed result"

/-- The start fails for a reason that is no fault. -/
def initialization : String := "Initialization error"

end Category

/-- A failure of the engine or of the host around it. -/
inductive Fault
  /-- The engine failed, perhaps at a script resource. -/
  | interpreter (message : String) (resource : Option String) (category : String)
  /-- A handle or compiler was used after it was given back. -/
  | disposed (message : String)
  deriving DecidableEq, Repr

namespace Fault

/-- A fault of the engine. Without a category, or with an empty one, it has the general one. -/
def of (message : String) (resource category : Option String) : Fault :=
  .interpreter message resource ((category.filter (· ≠ "")).getD Category.general)

/-- A fault without a resource. -/
def plain (message category : String) : Fault := .of message none (some category)

/-- The message of a fault. -/
def message : Fault → String
  | interpreter message _ _ => message
  | disposed message => message

/-- The script resource that a fault is about. -/
def resource : Fault → Option String
  | interpreter _ resource _ => resource
  | disposed _ => none

/-- The category of a fault. -/
def category : Fault → String
  | interpreter _ _ category => category
  | disposed _ => Category.disposed

/-- The sections of the report: the message, and the resource and the category unless empty. -/
def sections (f : Fault) : List String :=
  [s!"Message: {f.message}"]
    ++ ((f.resource.filter (· ≠ "")).map fun resource => s!"Resource: {resource}").toList
    ++ (if f.category = "" then [] else [s!"Category: {f.category}"])

/-- The report: the sections, each ended by a line feed. -/
def report (f : Fault) : String := "\n".intercalate f.sections ++ "\n"

/-- The fault of a handle that was given back. -/
def handleDisposed : Fault := .disposed "Interpreter handle has been disposed"

/-- The fault of a compiler that was released. -/
def compilerReleased : Fault := .disposed "Compiler has been released"

end Fault

end CoffeeHost
