import CoffeeHost.Report.Fault
import CoffeeHost.Source.Loose
import CoffeeHost.Text.Quoted
/-!
# What a collaborator raises

The engine, the reader of scripts and the maker of handles may raise something instead of
answering: a fault, an error of the engine, any other error, or an interruption. An interruption
ends the program or the task, and nobody takes it for a failure.

## Main definitions

* `Raised` — what is raised; `Raised.named` makes one from a class name and a message.
* `Raised.isOrdinary` — whether it counts as a failure.
* `Raised.toFault` — the fault that stands for it when the start fails.
-/

namespace CoffeeHost

/-- What is raised instead of an answer. -/
inductive Raised
  /-- A fault. -/
  | fault (f : Fault)
  /-- The engine's own error. -/
  | engineError (text : String)
  /-- Another error, by its class and its text. -/
  | ordinary (className text : String)
  /-- An interruption, by its class and its text. -/
  | interruption (className text : String)
  /-- A source value for which there is no fragment. -/
  | refused (refusal : Source.Refusal)
  deriving DecidableEq, Repr

namespace Raised

/-- The class of the engine's own errors. -/
def engineErrorClass : String := "JSRuntimeError"

/-- The classes of interruptions. -/
def interruptionClasses : List String :=
  ["BaseException", "KeyboardInterrupt", "SystemExit", "GeneratorExit"]

/-- What is raised under a class name with a message. A failed look-up shows its key quoted. -/
def named (className message : String) : Raised :=
  if className = engineErrorClass then engineError message
  else if interruptionClasses.contains className then interruption className message
  else if className = "KeyError" then ordinary className (Text.quoted message)
  else ordinary className message

/-- What is raised when an operation is asked of an object that is not there. -/
def absent (operation : String) : Raised :=
  ordinary "AttributeError" s!"'NoneType' object has no attribute '{operation}'"

/-- The class name of what is raised. -/
def className : Raised → String
  | fault (.interpreter ..) => "InterpreterFault"
  | fault (.disposed _) => "HandleDisposedFault"
  | engineError _ => engineErrorClass
  | ordinary className _ => className
  | interruption className _ => className
  | refused .infiniteCoordinate => "OverflowError"
  | refused .keyedPlace => "KeyError"
  | refused (.notText _) => "TypeError"

/-- The text of what is raised. -/
def text : Raised → String
  | fault f => f.message
  | engineError text => text
  | ordinary _ text => text
  | interruption _ text => text
  | refused refusal => refusal.message

/-- Whether what is raised counts as a failure. -/
def isOrdinary : Raised → Bool
  | interruption .. => false
  | _ => true

/-- The fault that stands for an error which ends a start. -/
def toFault : Raised → Fault
  | fault f => f
  | raised => .plain s!"{raised.className}: {raised.text}" Category.initialization

end Raised

end CoffeeHost
