import CoffeeHost.Raised
import CoffeeHost.Storage.Access
/-!
# Script resources

Two scripts make up the compiler inside the engine: the CoffeeScript library, which comes with
the engine unless another copy is named, and the helper script, which refers to the library and
so comes after it.

## Main definitions

* `Resource.loadOrder` — the scripts in the order in which they are loaded.
* `Installation` — where the scripts are; `Installation.resourcePath`.
* `Resource.read` — the text of a script, or what reading it raises.
-/

namespace CoffeeHost

namespace Resource

/-- The name of the CoffeeScript library. -/
def library : String := "coffeescript.js"

/-- The name of the helper script. -/
def helper : String := "csc_helper.js"

/-- The scripts of the compiler in the order in which they are loaded. -/
def loadOrder : List String := [library, helper]

end Resource

/-- Where the scripts are. -/
structure Installation where
  /-- The directory of the host's own scripts. -/
  resourceDirectory : String
  /-- The directory of the engine, which brings a copy of the library. -/
  engineDirectory : String
  /-- Another copy of the library, unless empty. -/
  libraryPath : Option String

namespace Installation

/-- A path below a directory. An absolute path stays as it is. -/
def join (directory path : String) : String :=
  if path.startsWith "/" then path else s!"{directory}/{path}"

/-- The path from which a script is read. -/
def resourcePath (installation : Installation) (name : String) : String :=
  if name = Resource.library then
    (installation.libraryPath.filter (· ≠ "")).getD
      (join installation.engineDirectory s!"jsmodules/{Resource.library}")
  else join installation.resourceDirectory name

end Installation

namespace Resource

/-- The text of a script. A script that cannot be read is a fault. -/
def read (installation : Installation) (storage : Storage) (name : String) :
    Except Raised String :=
  let path := installation.resourcePath name
  match storage.readText path with
  | .ok text => .ok text
  | .error (.access e _) =>
    .error (.fault (.of s!"Could not read script resource {path}: {e.message}" (some name)
      (some Category.resource)))
  | .error (.undecodable e) =>
    .error (.fault (.of s!"Script resource {path} is not valid UTF-8: {e.flaw.message}"
      (some name) (some Category.resource)))
  | .error .nullInPath => .error (.ordinary "ValueError" Storage.TextError.nullInPath.message)

end Resource

end CoffeeHost
