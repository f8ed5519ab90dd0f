import CoffeeHost.Exchange.Call
import CoffeeHost.Resource
import CoffeeHost.Script.Helper
import CoffeeHost.Session
/-!
# An engine with the helper script

The collaborators of a session whose engine really runs the helper script, around a given
library. The first script that is loaded is the library, the second the helper script.

## Main definitions

* `Script.engine` — the collaborators for a library, which may be missing.
* `Script.reply` — the value of an expression.
-/

namespace CoffeeHost.Script

/-- The value of an expression that calls the helper script. -/
def reply (library : Library) (expression : String) : Except Raised Json.Value :=
  match CompileCall.arguments? expression with
  | none => .error (.engineError "SyntaxError: parse error")
  | some (source, options) =>
    match Helper.compile library (.ofJson source) (.ofJson options) with
    | .error text => .error (.engineError text)
    | .ok message => .ok (.text message)

/-- What loading the helper script raises if there is no library for it. -/
def missingLibrary : Raised :=
  .engineError "ReferenceError: identifier 'CoffeeScript' undefined"

/-- An engine in which the helper script runs around a library. The library may behave otherwise
in each call; without one the helper script cannot be loaded. -/
def engine (library : Nat → Option Library) : Collaborators where
  create _ := none
  load n := if n % 2 = 1 ∧ (library 0).isNone then some missingLibrary else none
  evaluate n expression :=
    match library n with
    | some library => reply library expression
    | none => .error missingLibrary
  read _ name := .ok name

end CoffeeHost.Script
