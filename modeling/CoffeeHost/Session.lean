import CoffeeHost.Json.Value
import CoffeeHost.Raised
/-!
# Sessions

A session is one run of the host with its collaborators: the engine, which creates interpreters,
executes scripts and evaluates expressions, and the reader of scripts. How they react is given in
advance, call by call, so that a session is a function of its collaborators. What happens is kept
as a log of events; what verbose mode says is kept apart.

## Main definitions

* `Collaborators` — how the engine and the reader react to each call.
* `Event` — a call of a collaborator or of a handle.
* `Session` — the collaborators, the calls so far, the events and the log of verbose mode.
* `SessionM` — computations that advance a session.
-/

namespace CoffeeHost

open Json (Value)

/-- How the collaborators react. The first argument of each function counts the calls of its kind
that came before in the session. -/
structure Collaborators where
  /-- What creating an interpreter raises, if anything. -/
  create : Nat → Option Raised
  /-- What executing a script raises, if anything. -/
  load : Nat → Option Raised
  /-- What evaluating an expression gives. -/
  evaluate : Nat → String → Except Raised Value
  /-- What reading the script of a name gives. -/
  read : Nat → String → Except Raised String

/-- A call of a collaborator or of a handle. Interpreters and handles are numbered from one. -/
inductive Event
  /-- An interpreter is created, or cannot be. -/
  | create (interpreter : Nat) (succeeded : Bool)
  /-- The script of a name is executed in an interpreter. -/
  | load (interpreter : Nat) (name code : String) (succeeded : Bool)
  /-- An expression is evaluated in an interpreter. -/
  | evaluate (interpreter : Nat) (expression : String)
  /-- The script of a name is read. -/
  | read (name : String)
  /-- A handle is asked for. -/
  | request
  /-- A handle is handed out. -/
  | handOut (handle : Nat)
  /-- A handle is given back, with the interpreter that it holds. -/
  | giveBack (handle : Nat) (interpreter : Option Nat)
  deriving DecidableEq, Repr

/-- A run of the host. -/
structure Session where
  collaborators : Collaborators
  /-- How many interpreters were to be created. -/
  created : Nat
  /-- How many scripts were executed. -/
  loaded : Nat
  /-- How many expressions were evaluated. -/
  evaluated : Nat
  /-- How many scripts were read. -/
  read : Nat
  /-- How many handles were asked for. -/
  requested : Nat
  /-- What has happened, the oldest event first. -/
  events : List Event
  /-- Whether verbose mode is on. -/
  verbose : Bool
  /-- What verbose mode has said, the oldest message first. -/
  messages : List String

/-- Computations that advance a session. -/
abbrev SessionM := StateM Session

namespace Session

/-- The beginning of a session. -/
def new (collaborators : Collaborators) : Session :=
  ⟨collaborators, 0, 0, 0, 0, 0, [], false, []⟩

/-- The session after one more event. -/
def after (s : Session) (event : Event) : Session := { s with events := s.events ++ [event] }

/-- Says something in verbose mode. -/
def say (message : String) : SessionM Unit := fun s =>
  ((), if s.verbose then { s with messages := s.messages ++ [message] } else s)

/-- What a call gives that may only raise something. -/
def resultOf {α : Type} (result : α) : Option Raised → Except Raised α
  | some raised => .error raised
  | none => .ok result

/-- Creates an interpreter and gives its number. -/
def create : SessionM (Except Raised Nat) := fun s =>
  let interpreter := s.created + 1
  let raised? := s.collaborators.create s.created
  (resultOf interpreter raised?,
    { s with created := interpreter }.after (.create interpreter raised?.isNone))

/-- Executes the script of a name in an interpreter. -/
def load (interpreter : Nat) (name code : String) : SessionM (Except Raised Unit) := fun s =>
  let raised? := s.collaborators.load s.loaded
  (resultOf () raised?,
    { s with loaded := s.loaded + 1 }.after (.load interpreter name code raised?.isNone))

/-- Evaluates an expression in an interpreter. -/
def evaluate (interpreter : Nat) (expression : String) : SessionM (Except Raised Value) :=
  fun s =>
    (s.collaborators.evaluate s.evaluated expression,
      { s with evaluated := s.evaluated + 1 }.after (.evaluate interpreter expression))

/-- Reads the script of a name. -/
def readResource (name : String) : SessionM (Except Raised String) := fun s =>
  (s.collaborators.read s.read name, { s with read := s.read + 1 }.after (.read name))

/-- Notes that a handle is asked for, and gives the number that the handle will have. -/
def request : SessionM Nat := fun s =>
  (s.requested + 1, { s with requested := s.requested + 1 }.after .request)

/-- Notes an event that is no call of a collaborator. -/
def note (event : Event) : SessionM Unit := fun s => ((), s.after event)

/-- The form of a verbose message on the terminal. -/
def terminalLine (message : String) : String := s!"\x1b[94mDEBUG:\x1b[0m {message}\n"

/-- What verbose mode has written to the terminal. -/
def terminalText (s : Session) : String := String.join (s.messages.map terminalLine)

end Session

end CoffeeHost
