import CoffeeHost.Json.Document
import CoffeeHost.Settings.Basic
import CoffeeHost.Storage.Access
/-!
# Loading settings

Settings are read from one file: the file that is named, else the first default file that exists.
Without any file the defaults hold.

## Main definitions

* `Settings.defaultPaths` — the files that are tried if none is named.
* `Settings.chosenPath` — the file that is read.
* `Settings.LoadError` — why a file gives no settings.
* `Settings.load` — the settings of the chosen file.
-/

namespace CoffeeHost.Settings

/-- The name of a settings file. -/
def fileName : String := "brew.json"

/-- The settings file below a home directory. -/
def homePath (home : String) : String :=
  String.ofList (home.toList.reverse.dropWhile (· = '/')).reverse ++ "/.brew/" ++ fileName

/-- The files that are tried if none is named: one in the working directory, one below the home
directory. -/
def defaultPaths (home : String) : List String := [fileName, homePath home]

/-- The file that is read: the named one, else the first default file that exists. -/
def chosenPath (storage : Storage) (home : String) : (named : Option String) → Option String
  | some path => some path
  | none => (defaultPaths home).find? storage.pathExists

/-- Why a file gives no settings. -/
inductive LoadError
  /-- The file is not there, no JSON, or holds no settings. -/
  | invalid (e : InvalidSettings)
  /-- The file is not a text, or its path is none. -/
  | text (e : Storage.TextError)
  /-- The file holds an integer of too many digits. -/
  | longInteger (digits : Nat)
  /-- The file nests too deeply. -/
  | tooDeep
  deriving DecidableEq, Repr

/-- The wording of an error. -/
def LoadError.message : LoadError → String
  | .invalid e => e.display
  | .text e => e.message
  | .longInteger digits =>
    s!"Exceeds the limit ({Numeral.digitLimit} digits) for integer string conversion: " ++
      s!"value has {digits} digits; use sys.set_int_max_str_digits() to increase the limit"
  | .tooDeep => "maximum recursion depth exceeded"

/-- The settings of the file at a path. -/
def loadFile (storage : Storage) (path : String) : Except LoadError Settings :=
  match storage.readText path with
  | .error (.access e _) => .error (.invalid ⟨s!"Could not read settings: {e.message}", some path⟩)
  | .error e => .error (.text e)
  | .ok text =>
    match Json.Document.read text.toList with
    | .error (.malformed flaw line) =>
      .error (.invalid ⟨s!"Invalid JSON: {flaw.message} (line {line})", some path⟩)
    | .error (.longInteger digits) => .error (.longInteger digits)
    | .error .tooDeep => .error .tooDeep
    | .ok value => (ofValue value (some path)).mapError .invalid

/-- The settings of the chosen file, or the defaults if there is none. -/
def load (storage : Storage) (home : String) (named : Option String) : Except LoadError Settings :=
  match chosenPath storage home named with
  | none => .ok default
  | some path => loadFile storage path

end CoffeeHost.Settings
