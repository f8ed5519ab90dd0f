import CoffeeHost.Compiler
/-!
# Runs of compilers

A run performs steps on several compilers that share one session. Each step gives a reply.

## Main definitions

* `Action` — an operation on one compiler; `Action.perform`.
* `Step` — an action on a numbered compiler, or a change of verbose mode.
* `Reply` — what a step gives.
* `Run.step`, `Run.steps` — the steps of a run.
-/

namespace CoffeeHost

open Json (Value)
open Validation (Violation)

/-- An operation on one compiler. -/
inductive Action
  /-- Compiles a source, and takes a failure for an error. -/
  | compile (source literate : Value)
  /-- Compiles a source. -/
  | tryCompile (source literate : Value)
  /-- Releases the compiler. -/
  | release
  /-- Closes the compiler, which releases it. -/
  | close
  /-- Enters the scope of the compiler. -/
  | enter
  /-- Leaves the scope of the compiler, which releases it. -/
  | exit
  /-- Gives the compiler up. -/
  | discard

/-- One step of a run. -/
inductive Step
  /-- An action on the compiler of a number, counted from zero. -/
  | act (compiler : Nat) (action : Action)
  /-- Turns verbose mode on or off. -/
  | verbose (on : Bool)

/-- What a step gives. -/
inductive Reply
  | nothing
  /-- The scope of a compiler is entered. -/
  | entered
  | code (code : String)
  | outcome (outcome : Outcome)
  /-- The options break rules. -/
  | invalid (violations : List Violation)
  | failed (failure : Compiler.Failed)
  deriving DecidableEq, Repr

namespace Action

/-- The reply to a release. -/
def releaseReply : Except Raised Unit → Reply
  | .error raised => .failed (.raised raised)
  | .ok () => .nothing

/-- Releases a compiler. -/
def performRelease (compiler : Compiler) : SessionM (Option Compiler × Reply) := do
  let (compiler, result) ← compiler.release
  return (some compiler, releaseReply result)

/-- Performs an action. A compiler that was given up is gone. -/
def perform (compiler : Compiler) : Action → SessionM (Option Compiler × Reply)
  | compile source literate =>
    match CompileOptions.ofLiterate literate with
    | .error violations => return (some compiler, .invalid violations)
    | .ok options => do
      match ← compiler.compile source options with
      | (compiler, .error failed) => return (some compiler, .failed failed)
      | (compiler, .ok code) => return (some compiler, .code code)
  | tryCompile source literate =>
    match CompileOptions.ofLiterate literate with
    | .error violations => return (some compiler, .invalid violations)
    | .ok options => do
      match ← compiler.tryCompile source options with
      | (compiler, .error raised) => return (some compiler, .failed (.raised raised))
      | (compiler, .ok outcome) => return (some compiler, .outcome outcome)
  | release => performRelease compiler
  | close => performRelease compiler
  | exit => performRelease compiler
  | enter => return (some compiler, .entered)
  | discard => do
    let _ ← compiler.discard
    return (none, .nothing)

end Action

namespace Run

/-- Performs a step. An action on a compiler that is not there does nothing. -/
def step (compilers : List (Option Compiler)) : Step → SessionM (List (Option Compiler) × Reply)
  | .verbose on => fun s => ((compilers, .nothing), { s with verbose := on })
  | .act number action =>
    match compilers[number]? with
    | some (some compiler) => do
      let (compiler, reply) ← action.perform compiler
      return (compilers.set number compiler, reply)
    | _ => return (compilers, .nothing)

/-- Performs steps in order. -/
def steps (compilers : List (Option Compiler)) :
    List Step → SessionM (List (Option Compiler) × List Reply)
  | [] => return (compilers, [])
  | first :: rest => do
    let (compilers, reply) ← step compilers first
    let (compilers, replies) ← steps compilers rest
    return (compilers, reply :: replies)

end Run

end CoffeeHost
