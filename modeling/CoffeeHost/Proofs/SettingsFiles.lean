import CoffeeHost.Proofs.DocumentLimits
import CoffeeHost.Proofs.FileTexts
import CoffeeHost.Proofs.LineBreaks
import CoffeeHost.Proofs.SettingsKeys
import CoffeeHost.Settings.Load
import Mathlib
/-!
# Settings files

What a settings file gives depends on its path and on what is found there, and on nothing else
(`Settings.Outcome`). A file that cannot be opened, that is no document or that holds no settings
is refused with an error that carries its path. These are the failures that are foreseen.

Three others are not: a path that is none for the system, as it holds a null character, bytes that
are no text, and documents beyond the limits of the reader. Their errors get out as they are, and
say nothing of the file.

## Main definitions

* `Settings.Found` — what opening a file brings.
* `Settings.Unforeseen` — the errors that get out as they are.
* `Settings.Outcome` — what comes of a file.
* `Settings.Foreseen` — the files of which no such error comes.

## Main results

* `Settings.loadFile_eq_iff` — what comes of a file.
* `Settings.load_is_foreseen_iff` — when settings come, or an error that carries the path.
-/

namespace CoffeeHost

namespace Settings

open Json (Value)
open Json.Document (OutOfBounds)

/-- What opening a file brings: its bytes, or why there are none. -/
abbrev Found := Except Storage.AccessError (List UInt8)

/-- A file in UTF-8 that holds a text. -/
def holding (written : String) : Found := .ok written.toUTF8.data.toList

/-- A text as it is read from its file. -/
def readAs (written : String) : List Char := Text.normalizeBreaks written.toList

/-- A path that may lead to a file. -/
def Openable (path : String) : Prop := path.contains '\x00' = false

/-- The errors of a settings file that say nothing of the file. -/
inductive Unforeseen (path : String) : Found → LoadError → Prop
  | notOpenable {found : Found} (hpath : ¬Openable path) :
      Unforeseen path found (.text .nullInPath)
  | undecodable {bytes : List UInt8} {e : Text.Utf8Error} (hpath : Openable path)
      (hbytes : Text.decodeUtf8 bytes = .error e) :
      Unforeseen path (.ok bytes) (.text (.undecodable e))
  | longInteger {written : String} {count : Nat} (hpath : Openable path)
      (hbounds : OutOfBounds (readAs written) (.longInteger count)) :
      Unforeseen path (holding written) (.longInteger count)
  | tooDeep {written : String} (hpath : Openable path)
      (hbounds : OutOfBounds (readAs written) .tooDeep) :
      Unforeseen path (holding written) .tooDeep

/-- What comes of a settings file, by its path and by what is found there. -/
inductive Outcome (path : String) : Found → Except LoadError Settings → Prop
  | unforeseen {found : Found} {e : LoadError} (h : Unforeseen path found e) :
      Outcome path found (.error e)
  | unreadable {e : Storage.AccessError} (hpath : Openable path) :
      Outcome path (.error e)
        (.error (.invalid ⟨"Could not read settings: " ++ e.message, some path⟩))
  | malformed {written : String} {flaw : Json.Flaw} {line : Nat} (hpath : Openable path)
      (hread : Json.Document.read (readAs written) = .error (.malformed flaw line)) :
      Outcome path (holding written) (.error (.invalid
        ⟨"Invalid JSON: " ++ flaw.message ++ " (line " ++ line.repr ++ ")", some path⟩))
  | refused {written : String} {value : Value} {key? : Option String} {rule : Validation.Rule}
      (hpath : Openable path) (hread : Json.Document.read (readAs written) = .ok value)
      (hoffence : FirstOffence value key? rule) :
      Outcome path (holding written) (.error (.invalid
        ⟨offenceName key? ++ ": " ++ rule.message, some path⟩))
  | accepted {written : String} {members : Json.Members} {settings : Settings}
      (hpath : Openable path)
      (hread : Json.Document.read (readAs written) = .ok (.object members))
      (hdescribes : Describes members settings) : Outcome path (holding written) (.ok settings)

/-- A file of which settings come, or an error that carries its path: if it can be read at all, it
holds a text, and one within the limits. -/
structure Foreseen (path : String) (found : Found) : Prop where
  openable : Openable path
  decodable : ∀ bytes, found = .ok bytes → ∃ written, found = holding written
  bounded : ∀ written stop, found = holding written → stop.IsLimit →
    ¬OutOfBounds (readAs written) stop

variable {storage : Storage} {home path : String} {named : Option String} {found : Found}
  {result : Except LoadError Settings}

/-! ### One file -/

theorem readText_of_ok {bytes : List UInt8} (hpath : Openable path)
    (h : storage.readBytes path = .ok bytes) :
    storage.readText path = (Storage.textOfBytes bytes).mapError .undecodable := by
  rw [Storage.readText, if_neg (by simpa [Openable] using hpath), h]

theorem readText_holding {written : String} (hpath : Openable path)
    (h : storage.readBytes path = holding written) :
    storage.readText path = .ok (String.ofList (readAs written)) := by
  rw [readText_of_ok hpath h, Storage.textOfBytes_encode]
  rfl

theorem loadFile_of_error {e : Storage.AccessError} (hpath : Openable path)
    (h : storage.readBytes path = .error e) : loadFile storage path =
      .error (.invalid ⟨"Could not read settings: " ++ e.message, some path⟩) := by
  rw [loadFile, Storage.readText, if_neg (by simpa [Openable] using hpath), h]
  rfl

theorem loadFile_holding {written : String} (hpath : Openable path)
    (h : storage.readBytes path = holding written) :
    loadFile storage path = match Json.Document.read (readAs written) with
      | .error (.malformed flaw line) => .error (.invalid
          ⟨"Invalid JSON: " ++ flaw.message ++ " (line " ++ line.repr ++ ")", some path⟩)
      | .error (.longInteger digits) => .error (.longInteger digits)
      | .error .tooDeep => .error .tooDeep
      | .ok value => (ofValue value (some path)).mapError .invalid := by
  rw [loadFile, readText_holding hpath h]
  simp only [String.toList_ofList]
  rfl

theorem loadFile_of_unforeseen {e : LoadError} (h : Unforeseen path found e)
    (hfound : storage.readBytes path = found) : loadFile storage path = .error e := by
  cases h with
  | notOpenable hpath =>
    rw [loadFile, Storage.readText, if_pos (by simpa [Openable] using hpath)]
  | undecodable hpath hbytes =>
    rw [loadFile, readText_of_ok hpath hfound, Storage.textOfBytes, hbytes]
    rfl
  | longInteger hpath hbounds =>
    rw [loadFile_holding hpath hfound, Json.Document.read_eq_longInteger_iff.mpr hbounds]
  | tooDeep hpath hbounds =>
    rw [loadFile_holding hpath hfound, Json.Document.read_eq_tooDeep_iff.mpr hbounds]

theorem loadFile_of_outcome (h : Outcome path found result)
    (hfound : storage.readBytes path = found) : loadFile storage path = result := by
  cases h with
  | unforeseen h => exact loadFile_of_unforeseen h hfound
  | unreadable hpath => exact loadFile_of_error hpath hfound
  | malformed hpath hread => rw [loadFile_holding hpath hfound, hread]
  | refused hpath hread hoffence =>
    rw [loadFile_holding hpath hfound, hread]
    exact mapError_eq_error_iff.mpr
      ⟨_, ofValue_eq_error_iff.mpr ⟨_, _, hoffence, rfl⟩, rfl⟩
  | accepted hpath hread hdescribes =>
    rw [loadFile_holding hpath hfound, hread]
    exact mapError_eq_ok_iff.mpr (ofValue_eq_ok_iff.mpr ⟨_, rfl, hdescribes⟩)

theorem exists_outcome_holding (hpath : Openable path) (written : String) :
    ∃ result, Outcome path (holding written) result := by
  cases hread : Json.Document.read (readAs written) with
  | error e =>
    cases e with
    | malformed flaw line => exact ⟨_, .malformed hpath hread⟩
    | longInteger count =>
      have hbounds := Json.Document.read_eq_longInteger_iff.mp hread
      exact ⟨_, .unforeseen (.longInteger hpath hbounds)⟩
    | tooDeep =>
      have hbounds := Json.Document.read_eq_tooDeep_iff.mp hread
      exact ⟨_, .unforeseen (.tooDeep hpath hbounds)⟩
  | ok value =>
    cases hvalue : ofValue value (some path) with
    | error e =>
      obtain ⟨key?, rule, hoffence, -⟩ := ofValue_eq_error_iff.mp hvalue
      exact ⟨_, .refused hpath hread hoffence⟩
    | ok settings =>
      obtain ⟨members, rfl, hdescribes⟩ := ofValue_eq_ok_iff.mp hvalue
      exact ⟨_, .accepted hpath hread hdescribes⟩

/-- Bytes are either those of a text, or they cannot be decoded. -/
theorem decodable_or (bytes : List UInt8) : (∃ written, .ok bytes = holding written) ∨
    ∃ e, Text.decodeUtf8 bytes = .error e := by
  cases hbytes : Text.decodeUtf8 bytes with
  | error e => exact .inr ⟨e, rfl⟩
  | ok chars =>
    have htext : Storage.textOfBytes bytes = .ok (String.ofList (Text.normalizeBreaks chars)) := by
      rw [Storage.textOfBytes, hbytes]
      rfl
    obtain ⟨written, hwritten, -⟩ := Storage.textOfBytes_eq_ok_iff.mp htext
    exact .inl ⟨written, congrArg Except.ok hwritten⟩

/-- Something comes of every file. -/
theorem exists_outcome (path : String) (found : Found) : ∃ result, Outcome path found result := by
  by_cases hpath : Openable path
  · cases found with
    | error e => exact ⟨_, .unreadable hpath⟩
    | ok bytes =>
      rcases decodable_or bytes with ⟨written, hwritten⟩ | ⟨e, hbytes⟩
      · rw [hwritten]
        exact exists_outcome_holding hpath written
      · exact ⟨_, .unforeseen (.undecodable hpath hbytes)⟩
  · exact ⟨_, .unforeseen (.notOpenable hpath)⟩

/-- What comes of a file depends on its path and on what is found there. -/
theorem loadFile_eq_iff :
    loadFile storage path = result ↔ Outcome path (storage.readBytes path) result := by
  refine ⟨?_, fun h => loadFile_of_outcome h rfl⟩
  rintro rfl
  obtain ⟨result, h⟩ := exists_outcome path (storage.readBytes path)
  rwa [loadFile_of_outcome h rfl]

/-! ### Errors that are foreseen -/

theorem foreseen_iff : Foreseen path found ↔ ∀ e, ¬Unforeseen path found e := by
  constructor
  · intro hforeseen e h
    cases h with
    | notOpenable hpath => exact hpath hforeseen.openable
    | undecodable hpath hbytes =>
      obtain ⟨written, hwritten⟩ := hforeseen.decodable _ rfl
      rw [Except.ok.inj hwritten, Text.decodeUtf8_encode] at hbytes
      cases hbytes
    | longInteger hpath hbounds => exact hforeseen.bounded _ (.longInteger _) rfl trivial hbounds
    | tooDeep hpath hbounds => exact hforeseen.bounded _ .tooDeep rfl trivial hbounds
  · intro h
    have hpath : Openable path := by
      by_contra hpath
      exact h _ (.notOpenable hpath)
    refine ⟨hpath, ?_, ?_⟩
    · rintro bytes rfl
      refine (decodable_or bytes).resolve_right ?_
      rintro ⟨e, hbytes⟩
      exact h _ (.undecodable hpath hbytes)
    · rintro written stop rfl hstop hbounds
      cases stop with
      | flaw => exact hstop
      | longInteger count => exact h _ (.longInteger hpath hbounds)
      | tooDeep => exact h _ (.tooDeep hpath hbounds)

theorem Unforeseen.ne_invalid {e : LoadError} (h : Unforeseen path found e) (i : InvalidSettings) :
    e ≠ .invalid i := by
  cases h <;> exact nofun

/-- A file gives settings, an error that carries its path, or one that says nothing of it. -/
theorem Outcome.trichotomy (h : Outcome path found result) :
    (∃ settings, result = .ok settings) ∨
      (∃ message, result = .error (.invalid ⟨message, some path⟩)) ∨
        ∃ e, result = .error e ∧ Unforeseen path found e := by
  cases h with
  | unforeseen h => exact .inr (.inr ⟨_, rfl, h⟩)
  | unreadable => exact .inr (.inl ⟨_, rfl⟩)
  | malformed => exact .inr (.inl ⟨_, rfl⟩)
  | refused => exact .inr (.inl ⟨_, rfl⟩)
  | accepted => exact .inl ⟨_, rfl⟩

theorem loadFile_eq_error_iff {e : LoadError} (he : ∀ i, e ≠ .invalid i) :
    loadFile storage path = .error e ↔ Unforeseen path (storage.readBytes path) e := by
  rw [loadFile_eq_iff]
  refine ⟨fun h => ?_, .unforeseen⟩
  generalize storage.readBytes path = found at h
  cases h with
  | unforeseen h => exact h
  | unreadable => exact absurd rfl (he _)
  | malformed => exact absurd rfl (he _)
  | refused => exact absurd rfl (he _)

/-- Loading gives settings or an error that carries the path of the chosen file, unless this file
is one of those that are not foreseen. Then an error gets out that says nothing of the file. -/
theorem load_is_foreseen_iff (storage : Storage) (home : String) (named : Option String) :
    ((∃ settings, load storage home named = .ok settings) ∨
        (∃ message path, chosenPath storage home named = some path ∧
          load storage home named = .error (.invalid ⟨message, some path⟩)) ↔
      ∀ path, chosenPath storage home named = some path →
        Foreseen path (storage.readBytes path)) ∧
    ∀ e, (∀ i, e ≠ LoadError.invalid i) → (load storage home named = .error e ↔
      ∃ path, chosenPath storage home named = some path ∧
        Unforeseen path (storage.readBytes path) e) := by
  rw [load]
  cases hchosen : chosenPath storage home named with
  | none => exact ⟨iff_of_true (.inl ⟨_, rfl⟩) nofun, fun e _ => iff_of_false nofun nofun⟩
  | some path =>
    dsimp only
    constructor
    · constructor
      · rintro (⟨settings, h⟩ | ⟨message, _, ⟨⟩, h⟩) _ ⟨⟩ <;> refine foreseen_iff.mpr fun e he => ?_
        · rw [loadFile_of_unforeseen he rfl] at h
          cases h
        · rw [loadFile_of_unforeseen he rfl] at h
          exact he.ne_invalid _ (Except.error.inj h)
      · intro hforeseen
        rcases (loadFile_eq_iff.mp rfl).trichotomy with h | ⟨message, h⟩ | ⟨e, -, he⟩
        · exact .inl h
        · exact .inr ⟨message, path, rfl, h⟩
        · exact absurd he (foreseen_iff.mp (hforeseen path rfl) e)
    · intro e he
      simp only [Option.some.injEq, exists_eq_left', loadFile_eq_error_iff he]

/-- A working directory with a settings file and nothing else. -/
def onlyFile (bytes : List UInt8) : Storage := ⟨.directory [(fileName, .file bytes)], []⟩

theorem chosenPath_onlyFile (bytes : List UInt8) (home : String) :
    chosenPath (onlyFile bytes) home none = some fileName := by
  have hexists : (onlyFile bytes).pathExists fileName = true := by cbv
  simp [chosenPath, defaultPaths, hexists]

theorem load_onlyFile {bytes : List UInt8} {e : LoadError} (h : Unforeseen fileName (.ok bytes) e)
    (home : String) : load (onlyFile bytes) home none = .error e := by
  have hbytes : (onlyFile bytes).readBytes fileName = .ok bytes := by cbv
  rw [load, chosenPath_onlyFile]
  exact loadFile_of_unforeseen h hbytes

theorem readAs_replicate {c : Char} (hc : c ≠ '\r') (n : Nat) :
    readAs (String.ofList (List.replicate n c)) = List.replicate n c := by
  rw [readAs, String.toList_ofList, Text.normalizeBreaks_of_notMem]
  exact fun hmem => hc (List.eq_of_mem_replicate hmem).symm

/-- A directory in the place of the file is foreseen: there are settings or an error that carries
the path. A byte that is no text is not. -/
theorem directory_is_foreseen_byte_is_not :
    let directory : Storage := ⟨.directory [(fileName, .directory [])], []⟩
    let e : LoadError := .text (.undecodable ⟨.startByte, 0, 0xff, 1⟩)
    ((∃ settings, load directory "/home" none = .ok settings) ∨
      ∃ message path, chosenPath directory "/home" none = some path ∧
        load directory "/home" none = .error (.invalid ⟨message, some path⟩)) ∧
    (∀ i, e ≠ .invalid i) ∧ load (onlyFile [0xff]) "/home" none = .error e := by
  intro directory e
  have hopenable : Openable fileName := by cbv
  have hother : ∀ i, e ≠ .invalid i := fun i h => LoadError.noConfusion h
  have hchosen : chosenPath directory "/home" none = some fileName := by
    have hexists : directory.pathExists fileName = true := by cbv
    simp [chosenPath, defaultPaths, hexists]
  refine ⟨(load_is_foreseen_iff directory "/home" none).1.mpr ?_, hother, ?_⟩
  · intro path hpath
    obtain rfl : fileName = path := Option.some.inj (hchosen.symm.trans hpath)
    have herror : directory.readBytes fileName = .error .isDirectory := by cbv
    rw [herror]
    exact ⟨hopenable, by rintro bytes ⟨⟩, by rintro written stop ⟨⟩⟩
  · have hbytes : (onlyFile [0xff]).readBytes fileName = .ok [0xff] := by cbv
    refine ((load_is_foreseen_iff (onlyFile [0xff]) "/home" none).2 e hother).mpr
      ⟨fileName, chosenPath_onlyFile _ _, ?_⟩
    rw [hbytes]
    exact .undecodable hopenable rfl

/-- A byte that is no text, a null character in the path, too many brackets and too many digits
each end the loading with an error that is not about the file. -/
theorem load_can_end_unforeseen :
    (¬∀ (storage : Storage) (home : String) (named : Option String),
      (∃ settings, load storage home named = .ok settings) ∨
        ∃ message path, chosenPath storage home named = some path ∧
          load storage home named = .error (.invalid ⟨message, some path⟩)) ∧
    load (onlyFile [0xff]) "/home" none = .error (.text (.undecodable ⟨.startByte, 0, 0xff, 1⟩)) ∧
    load (onlyFile []) "/home" (some "a\x00b") = .error (.text .nullInPath) ∧
    load (onlyFile (String.ofList (List.replicate 991 '[')).toUTF8.data.toList) "/home" none =
      .error .tooDeep ∧
    load (onlyFile (String.ofList (List.replicate 4301 '1')).toUTF8.data.toList) "/home" none =
      .error (.longInteger 4301) := by
  have hopenable : Openable fileName := by cbv
  have hbyte : load (onlyFile [0xff]) "/home" none =
      .error (.text (.undecodable ⟨.startByte, 0, 0xff, 1⟩)) :=
    load_onlyFile (.undecodable hopenable rfl) "/home"
  refine ⟨fun hall => ?_, hbyte, ?_, ?_, ?_⟩
  · rcases hall (onlyFile [0xff]) "/home" none with ⟨settings, h⟩ | ⟨message, path, -, h⟩
    · rw [hbyte] at h
      cases h
    · rw [hbyte] at h
      cases h
  · exact loadFile_of_unforeseen (.notOpenable (by simp [Openable])) rfl
  · refine load_onlyFile (.tooDeep hopenable ?_) "/home"
    rw [readAs_replicate (by decide), ← List.append_nil (List.replicate 991 '[')]
    exact Json.Document.outOfBounds_brackets []
  · refine load_onlyFile (.longInteger hopenable ?_) "/home"
    rw [readAs_replicate (by decide)]
    have hdigits : Json.Digits (List.replicate 4301 '1') :=
      ⟨List.cons_ne_nil _ _, fun c hc => by rw [List.eq_of_mem_replicate hc]; rfl⟩
    have hends : Json.EndsInteger [] :=
      ⟨by rintro c ⟨⟩, by rintro after ⟨⟩, by rintro letter after ⟨⟩⟩
    have hlimit : Numeral.digitLimit < (List.replicate 4301 '1').length := by
      rw [List.length_replicate]
      decide
    have hlong := Json.LongDigits.intro hdigits (by rw [List.head?_replicate]; decide) hends hlimit
    rw [List.append_nil, List.length_replicate] at hlong
    exact Json.Document.outOfBounds_integer (.positive hlong)

end Settings

end CoffeeHost
