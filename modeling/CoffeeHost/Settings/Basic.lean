import CoffeeHost.Json.Printer
import CoffeeHost.Validation.Scalar
/-!
# Settings of the minifier

The settings are read from a JSON object. Each setting has a default. An object with any other
key is refused, so that no misspelt setting goes unnoticed.

## Main definitions

* `Level`, `Settings` — the settings.
* `Settings.check` — the settings that a value describes.
* `InvalidSettings` — the error for values and files that hold no settings.
* `Settings.ofValue` — the settings, or the error that names the first offending key.
-/

namespace CoffeeHost

open Json (Members Style Value)
open Validation (Checked Rule Violation)

/-- How far the minifier goes: it strips white space, or also renames local variables, or renames
symbols everywhere. -/
inductive Level
  | whitespaceOnly
  | simple
  | advanced
  deriving DecidableEq, Repr

namespace Level

/-- The name of a level. -/
def name : Level → String
  | whitespaceOnly => "WhitespaceOnly"
  | simple => "Simple"
  | advanced => "Advanced"

/-- All levels, from the mildest on. -/
def all : List Level := [whitespaceOnly, simple, advanced]

/-- The level of a name, spelt exactly. -/
def ofValue : Value → Except Rule Level
  | .text s =>
    match all.find? (·.name = s) with
    | some level => .ok level
    | none => .error (.oneOf (all.map name))
  | _ => .error (.oneOf (all.map name))

end Level

/-- The settings of the minifier. -/
structure Settings where
  level : Level
  prettyPrint : Bool
  /-- From syntax errors only, 0, to all warnings, 3. -/
  severity : Int
  deriving DecidableEq, Repr

namespace Settings

/-- The settings where nothing is said. -/
def default : Settings := ⟨.simple, false, 0⟩

/-- The names that the level goes by, the preferred one first. -/
def levelNames : List String := ["compilationLevel", "compilation_level"]

/-- The names that the choice of pretty printing goes by, the preferred one first. -/
def prettyPrintNames : List String := ["prettyPrint", "pretty_print"]

/-- The name that the severity goes by. -/
def severityNames : List String := ["severity"]

/-- The keys of an object that are read: for each setting the first of its names that is there. -/
def readKeys (members : Members) : List String :=
  [levelNames, prettyPrintNames, severityNames].filterMap fun names =>
    (Validation.findMember members names).map (·.1)

/-- A violation for each key that is not read. -/
def extraKeys (members : Members) : Checked Unit :=
  match (members.map (·.1)).filter fun key => !(readKeys members).contains key with
  | [] => .valid ()
  | keys => .invalid (keys.map fun key => ⟨[.name key], .noExtra⟩)

/-- The settings that the members of an object describe. -/
def checkMembers (members : Members) : Checked Settings :=
  let level := Validation.optionalField members levelNames
    default.level (.ofExcept ∘ Level.ofValue)
  let pretty := Validation.optionalField members prettyPrintNames
    default.prettyPrint (.ofExcept ∘ Validation.truth)
  let severity := Validation.optionalField members severityNames
    default.severity (.ofExcept ∘ Validation.integerBetween 0 3)
  ((level.both Settings.mk pretty).both id severity).both (fun settings () => settings)
    (extraKeys members)

/-- The settings that a value describes. -/
def check : Value → Checked Settings
  | .object members => checkMembers members
  | _ => .broken (.record "JsMinifierSettings")

/-- The settings as a JSON object. -/
def toValue (settings : Settings) : Value :=
  .object [("compilationLevel", .text settings.level.name),
    ("prettyPrint", .boolean settings.prettyPrint), ("severity", .integer settings.severity)]

end Settings

/-- The error for a value or a file that holds no settings. -/
structure InvalidSettings where
  message : String
  path : Option String
  deriving DecidableEq, Repr

/-- The error with the path in front, if there is one. -/
def InvalidSettings.display (e : InvalidSettings) : String :=
  match e.path.filter (· ≠ "") with
  | some path => s!"{path}: {e.message}"
  | none => e.message

namespace Settings

/-- The place of a violation: its keys joined by dots, or a word for the whole value. -/
def violationPlace (v : Violation) : String :=
  let place := ".".intercalate (v.location.map (·.text))
  if place = "" then "settings" else place

/-- The settings that a value describes, or the error for the first violation. -/
def ofValue (value : Value) (path : Option String) : Except InvalidSettings Settings :=
  match check value with
  | .valid settings => .ok settings
  | .invalid [] => .error ⟨"settings", path⟩
  | .invalid (v :: _) => .error ⟨s!"{violationPlace v}: {v.message}", path⟩

end Settings

end CoffeeHost
