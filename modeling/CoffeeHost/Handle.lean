import CoffeeHost.Report.Fault
import CoffeeHost.Session
/-!
# Handles of interpreters

A handle owns at most one interpreter. It creates the interpreter when it is first needed, and
after it is given back it refuses every operation. Operations give the handle that they leave and
what came of them, so that a failing operation shows what it left behind.

## Main definitions

* `Handle` — a handle: its stage and the interpreter that it holds.
* `Handle.ensure`, `Handle.loadResource`, `Handle.evaluate`, `Handle.dispose`
-/

namespace CoffeeHost

namespace Handle

/-- How far a handle is. -/
inductive Stage
  | uninitialized
  | initialized
  | disposed
  deriving DecidableEq, Repr, Inhabited

/-- The name of a stage. -/
def Stage.name : Stage → String
  | uninitialized => "uninitialized"
  | initialized => "initialized"
  | disposed => "disposed"

end Handle

/-- A handle before, during and after the life of its interpreter. -/
structure Handle where
  stage : Handle.Stage
  /-- The interpreter that the handle holds. -/
  interpreter? : Option Nat
  deriving DecidableEq, Repr, Inhabited

namespace Handle

/-- A handle whose interpreter is yet to be created. -/
def uninitialized : Handle := ⟨.uninitialized, none⟩

/-- A handle that holds an interpreter. -/
def initialized (interpreter : Nat) : Handle := ⟨.initialized, some interpreter⟩

/-- A handle that was given back. -/
def disposed : Handle := ⟨.disposed, none⟩

/-- The name of a handle's stage. -/
def stageName (handle : Handle) : String := handle.stage.name

/-- The fault for an engine that cannot be created. -/
def creationFault (text : String) : Fault :=
  .plain s!"Could not create the JavaScript interpreter: {text}" Category.engine

/-- The fault for a script that throws. -/
def scriptFault (name text : String) : Fault := .of text (some name) (some Category.script)

/-- The fault for an evaluation without an interpreter. -/
def uninitializedFault : Fault := .plain "Interpreter handle is not initialized" Category.engine

/-- The fault for a value that is no text. -/
def replyFault (reply : Json.Value) : Fault :=
  .plain s!"Expected a string result, got {reply.kindName}" Category.malformed

/-- Turns an engine error into a fault, and leaves anything else that is raised as it is. -/
def asFault (fault : String → Fault) : Raised → Raised
  | .engineError text => .fault (fault text)
  | raised => raised

/-- Creates the interpreter if there is none yet. -/
def ensure (handle : Handle) : SessionM (Handle × Except Raised Unit) := do
  match handle.stage, handle.interpreter? with
  | .disposed, _ => return (handle, .error (.fault .handleDisposed))
  | _, some _ => return (handle, .ok ())
  | _, none =>
    match ← Session.create with
    | .error raised => return (handle, .error (asFault creationFault raised))
    | .ok interpreter => return (initialized interpreter, .ok ())

/-- Reads a script and executes it in an interpreter. -/
def execute (interpreter? : Option Nat) (name : String) : SessionM (Except Raised Unit) := do
  match ← Session.readResource name, interpreter? with
  | .error raised, _ => return .error raised
  | .ok _, none => return .error (.absent "evaljs")
  | .ok code, some interpreter =>
    match ← Session.load interpreter name code with
    | .error raised => return .error (asFault (scriptFault name) raised)
    | .ok () => return .ok ()

/-- Executes the script of a name, in an interpreter created for it if need be. -/
def loadResource (handle : Handle) (name : String) : SessionM (Handle × Except Raised Unit) := do
  match ← handle.ensure with
  | (handle, .error raised) => return (handle, .error raised)
  | (handle, .ok ()) => return (handle, ← execute handle.interpreter? name)

/-- Evaluates an expression, whose value must be a text. -/
def evaluate (handle : Handle) (expression : String) : SessionM (Except Raised String) := do
  match handle.stage, handle.interpreter? with
  | .disposed, _ => return .error (.fault .handleDisposed)
  | .uninitialized, _ => return .error (.fault uninitializedFault)
  | .initialized, none => return .error (.absent "evaljs")
  | .initialized, some interpreter =>
    match ← Session.evaluate interpreter expression with
    | .error raised => return .error (asFault (.plain · Category.script) raised)
    | .ok (.text reply) => return .ok reply
    | .ok reply => return .error (.fault (replyFault reply))

/-- Gives the handle back, with its interpreter. -/
def dispose (handle : Handle) : Handle :=
  match handle.stage with
  | .disposed => handle
  | _ => disposed

end Handle

end CoffeeHost
