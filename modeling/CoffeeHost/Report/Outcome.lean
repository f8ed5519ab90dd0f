import CoffeeHost.Report.Diagnostic
import CoffeeHost.Report.Fault
import CoffeeHost.Text.Quoted
/-!
# Outcomes of compiling

Compiling gives JavaScript or a failure, which is a diagnostic of the compiler or a fault of the
host. Callers that want no failure values turn one into a single kind of error.

## Main definitions

* `Failure` — a diagnostic or a fault; `Failure.kind`, `Failure.report`.
* `Outcome` — JavaScript or a failure.
* `CompilationError` — the error that stands for a failure; `Outcome.unwrap`.
-/

namespace CoffeeHost

/-- Which channel a failure came from. -/
inductive FailureKind
  | compilerDiagnostic
  | interpreterFault
  | handleDisposed
  deriving DecidableEq, Repr

/-- The name of a kind of failure. -/
def FailureKind.name : FailureKind → String
  | .compilerDiagnostic => "CompilerDiagnostic"
  | .interpreterFault => "InterpreterFault"
  | .handleDisposed => "HandleDisposed"

/-- Why there is no JavaScript. -/
inductive Failure
  | diagnostic (d : Diagnostic)
  | fault (f : Fault)
  deriving DecidableEq, Repr

namespace Failure

/-- The channel of a failure. -/
def kind : Failure → FailureKind
  | diagnostic _ => .compilerDiagnostic
  | fault (.interpreter ..) => .interpreterFault
  | fault (.disposed _) => .handleDisposed

/-- The report of a failure, in the form of its payload. -/
def report : Failure → String
  | diagnostic d => d.report
  | fault f => f.report

end Failure

/-- The error that stands for a failure. It carries the report and the payload; a fault is also
the cause of the error. -/
structure CompilationError where
  report : String
  kind : FailureKind
  diagnostic : Option Diagnostic
  fault : Option Fault
  cause : Option Fault
  deriving DecidableEq, Repr

/-- The error for a failure. -/
def CompilationError.of (failure : Failure) : CompilationError :=
  match failure with
  | .diagnostic d => ⟨failure.report, failure.kind, some d, none, none⟩
  | .fault f => ⟨failure.report, failure.kind, none, some f, some f⟩

/-- What compiling a text gives. -/
inductive Outcome
  | ok (code : String)
  | failed (failure : Failure)
  deriving DecidableEq, Repr

namespace Outcome

/-- The JavaScript, if there is any. -/
def code? : Outcome → Option String
  | ok code => some code
  | failed _ => none

/-- Whether there is JavaScript. -/
def isOk : Outcome → Bool
  | ok _ => true
  | failed _ => false

/-- The JavaScript, or the error for the failure. -/
def unwrap : Outcome → Except CompilationError String
  | ok code => .ok code
  | failed failure => .error (.of failure)

/-- A short description for developers. -/
def describe : Outcome → String
  | ok code => s!"Ok({Text.quoted code})"
  | failed failure => s!"Err({failure.kind.name})"

/-- The outcome for readers: the report of a failure, else the description. -/
def display : Outcome → String
  | ok code => (ok code).describe
  | failed failure => failure.report

end Outcome

end CoffeeHost
