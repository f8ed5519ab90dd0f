import CoffeeHost.Exchange.Answer
import CoffeeHost.Handle
import CoffeeHost.Report.Outcome
import CoffeeHost.Resource
/-!
# Compilers

A compiler starts when it is first used: it asks its factory for a handle and loads the two
scripts. It starts once; if that fails, it stays failed with the fault of the first attempt,
because loading the library twice into an engine would define its globals anew. Only an
interruption during the start leaves the compiler as it was. A compiler that was released refuses
to compile.

Operations give the compiler that they leave and what came of them.

## Main definitions

* `Lease` — a handle from a factory; `Supply` and `Factory` — what a factory does.
* `Phase` — the stage of a compiler, the handle that it keeps and the fault of a failed start.
* `Compiler` — a compiler with its factory.
* `Compiler.start`, `Compiler.tryCompile`, `Compiler.compile`, `Compiler.release`,
  `Compiler.discard`
-/

namespace CoffeeHost

open Json (Value)

/-- A handle that a factory has handed out, with its number, and what giving it back raises. If
that raises something, the handle is not given back. -/
structure Lease where
  number : Nat
  handle : Handle
  releaseRaises : Option Raised
  deriving DecidableEq, Repr

/-- What a factory does with a handle before it hands it out. -/
structure Condition where
  /-- Whether the handle is given back. -/
  givenBack : Bool
  /-- Whether its interpreter is created. This is tried after the handle is given back, if it is. -/
  started : Bool
  deriving DecidableEq, Repr

/-- The condition of a handle with which nothing has been done. -/
def Condition.fresh : Condition := ⟨false, false⟩

/-- What a factory does when it is asked for a handle: it raises something, or hands out a handle
in some condition. -/
inductive Supply
  | raises (raised : Raised)
  | hands (condition : Condition) (releaseRaises : Option Raised)
  deriving DecidableEq, Repr

/-- What a factory does, given how many handles were asked for before in the session. -/
abbrev Factory := Nat → Supply

/-- A factory of handles whose interpreter is yet to be created. -/
def Factory.plain : Factory := fun _ => .hands .fresh none

namespace Lease

/-- Gives the handle back. -/
def giveBack (lease : Lease) : SessionM (Lease × Except Raised Unit) := do
  Session.note (.giveBack lease.number lease.handle.interpreter?)
  match lease.releaseRaises with
  | some raised => return (lease, .error raised)
  | none => return ({ lease with handle := lease.handle.dispose }, .ok ())

/-- Loads scripts in order, up to the first that fails. -/
def loadAll (lease : Lease) : (names : List String) → SessionM (Lease × Except Raised Unit)
  | [] => return (lease, .ok ())
  | name :: rest => do
    let (handle, result) ← lease.handle.loadResource name
    let lease := { lease with handle }
    match result with
    | .error raised => return (lease, .error raised)
    | .ok () =>
      Session.say s!"Loaded resource {name}"
      lease.loadAll rest

end Lease

/-- The handle that a factory makes in a condition, unless making it raises something. A handle
that has been given back cannot be started, so then there is no handle. -/
def Condition.handle (condition : Condition) : SessionM (Except Raised Handle) := do
  let handle : Handle := if condition.givenBack then .disposed else .uninitialized
  if condition.started then
    match ← handle.ensure with
    | (_, .error raised) => return .error raised
    | (handle, .ok ()) => return .ok handle
  else return .ok handle

/-- Asks a factory for a handle. -/
def Factory.obtain (factory : Factory) : SessionM (Except Raised Lease) := do
  let number ← Session.request
  match factory (number - 1) with
  | .raises raised => return .error raised
  | .hands condition releaseRaises =>
    match ← condition.handle with
    | .error raised => return .error raised
    | .ok handle =>
      Session.note (.handOut number)
      return .ok ⟨number, handle, releaseRaises⟩

namespace Compiler

/-- How far a compiler is. -/
inductive Stage
  | uninitialized
  /-- The scripts are loaded in the interpreter of the handle. -/
  | initialized
  /-- The start has failed. -/
  | failed
  | disposed
  deriving DecidableEq, Repr

/-- The name of a stage. -/
def Stage.name : Stage → String
  | uninitialized => "uninitialized"
  | initialized => "initialized"
  | failed => "failed"
  | disposed => "disposed"

end Compiler

/-- Where a compiler is in its life. -/
structure Phase where
  stage : Compiler.Stage
  /-- The handle that the compiler keeps. A released compiler keeps its handle only if giving it
  back raised something. -/
  lease? : Option Lease
  /-- The fault of a failed start. -/
  fault? : Option Fault
  deriving DecidableEq, Repr

namespace Phase

/-- The beginning: no handle and no fault. -/
def new : Phase := ⟨.uninitialized, none, none⟩

/-- The name of a phase's stage. -/
def name (phase : Phase) : String := phase.stage.name

end Phase

/-- A compiler with its factory. -/
structure Compiler where
  factory : Factory
  phase : Phase

namespace Compiler

/-- A compiler that has not started. -/
def new (factory : Factory) : Compiler := ⟨factory, .new⟩

/-- The compiler with another stage. -/
def moveTo (compiler : Compiler) (stage : Stage) : Compiler :=
  { compiler with phase := { compiler.phase with stage } }

/-- The compiler with another handle to keep, or none. -/
def keep (compiler : Compiler) (lease? : Option Lease) : Compiler :=
  { compiler with phase := { compiler.phase with lease? } }

/-- The compiler with the fault of a failed start. -/
def fail (compiler : Compiler) (fault : Fault) : Compiler :=
  { compiler with phase := { compiler.phase with stage := .failed, fault? := some fault } }

/-- What a compiler raises whose start has failed. -/
def storedFault (compiler : Compiler) : Raised :=
  match compiler.phase.fault? with
  | some fault => .fault fault
  | none => .ordinary "TypeError" "exceptions must derive from BaseException"

/-- Obtains a handle and loads the scripts. If there is a handle it is given with the result, also
if loading failed. -/
def prepare (factory : Factory) : SessionM (Option Lease × Except Raised Unit) := do
  match ← factory.obtain with
  | .error raised => return (none, .error raised)
  | .ok lease =>
    let (lease, result) ← lease.loadAll Resource.loadOrder
    return (some lease, result)

/-- Gives a half-prepared handle back, if there is one. -/
def abandon : Option Lease → SessionM (Except Raised Unit)
  | none => return .ok ()
  | some lease => return (← lease.giveBack).2

/-- Starts the compiler unless it has started. The fault of a failed start is settled before the
handle is given back, so whatever that raises is raised, and the compiler has failed. -/
def start (compiler : Compiler) : SessionM (Compiler × Except Raised Unit) := do
  match compiler.phase.stage with
  | .initialized => return (compiler, .ok ())
  | .disposed => return (compiler, .error (.fault .compilerReleased))
  | .failed => return (compiler, .error compiler.storedFault)
  | .uninitialized =>
    Session.say "Initializing CoffeeScript interpreter"
    match ← prepare compiler.factory with
    | (lease?, .ok ()) => return ((compiler.keep lease?).moveTo .initialized, .ok ())
    | (lease?, .error raised) =>
      if !raised.isOrdinary then return (compiler, .error raised)
      else
        let fault := raised.toFault
        match ← abandon lease? with
        | .error raised => return (compiler.fail fault, .error raised)
        | .ok () =>
          Session.say s!"Initialization failed: {fault.message}"
          return (compiler.fail fault, .error (.fault fault))

/-- The answer to a call, from the interpreter of a handle. -/
def ask (lease? : Option Lease) (call : String) : SessionM (Except Raised Answer) := do
  match lease? with
  | none => return .error (.absent "evaluate")
  | some lease =>
    match ← lease.handle.evaluate call with
    | .error raised => return .error raised
    | .ok reply => return (Answer.ofMessage reply).mapError .fault

/-- The outcome that an answer means for a source. -/
def conclude (source : Value) (answer : Answer) : SessionM (Except Raised Outcome) := do
  match answer.firstError? with
  | none => return .ok (.ok (answer.code.getD ""))
  | some entry =>
    Session.say s!"CoffeeScript reported: {entry.message}"
    match entry.diagnostic source with
    | .error refusal => return .error (.refused refusal)
    | .ok diagnostic => return .ok (.failed (.diagnostic diagnostic))

/-- Takes a fault for an outcome, and leaves anything else that is raised as it is. -/
def settle : Raised → Except Raised Outcome
  | .fault fault => .ok (.failed (.fault fault))
  | raised => .error raised

/-- Compiles a source. Faults become outcomes. -/
def tryCompile (compiler : Compiler) (source : Value) (options : CompileOptions) :
    SessionM (Compiler × Except Raised Outcome) := do
  match ← compiler.start with
  | (compiler, .error raised) => return (compiler, settle raised)
  | (compiler, .ok ()) =>
    match ← ask compiler.phase.lease?
        (CompileCall.text source options CompileCall.helperName) with
    | .error raised => return (compiler, settle raised)
    | .ok answer => return (compiler, ← conclude source answer)

/-- What a compilation ends with if it gives no JavaScript. -/
inductive Failed
  /-- The failure as an error. -/
  | compilation (e : CompilationError)
  /-- Something else was raised. -/
  | raised (raised : Raised)
  deriving DecidableEq, Repr

/-- The JavaScript of an outcome, or the error for its failure. -/
def unwrap : Except Raised Outcome → Except Failed String
  | .error raised => .error (.raised raised)
  | .ok outcome => outcome.unwrap.mapError .compilation

/-- Compiles a source. A failure becomes an error. -/
def compile (compiler : Compiler) (source : Value) (options : CompileOptions) :
    SessionM (Compiler × Except Failed String) := do
  let (compiler, result) ← compiler.tryCompile source options
  return (compiler, unwrap result)

/-- Releases the compiler. It counts as released even if giving its handle back raises
something; then it keeps the handle. -/
def release (compiler : Compiler) : SessionM (Compiler × Except Raised Unit) := do
  match compiler.phase.stage, compiler.phase.lease? with
  | .disposed, _ => return (compiler, .ok ())
  | _, none => return (compiler.moveTo .disposed, .ok ())
  | _, some lease =>
    match ← lease.giveBack with
    | (lease, .error raised) =>
      return ((compiler.keep (some lease)).moveTo .disposed, .error raised)
    | (_, .ok ()) =>
      Session.say "Released CoffeeScript interpreter"
      return ((compiler.keep none).moveTo .disposed, .ok ())

/-- Gives the compiler up: releases it, and lets go of whatever that raises. -/
def discard (compiler : Compiler) : SessionM Compiler := return (← compiler.release).1

end Compiler

/-- Compiles one source with a compiler of its own, which is released whatever happens. -/
def compileOnce (source : Value) (options : CompileOptions) :
    SessionM (Except Compiler.Failed String) := do
  let (compiler, result) ← (Compiler.new .plain).compile source options
  let (_, released) ← compiler.release
  match released with
  | .error raised => return .error (.raised raised)
  | .ok () => return result

end CoffeeHost
