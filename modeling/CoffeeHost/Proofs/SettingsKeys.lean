import Mathlib
import CoffeeHost.Proofs.Validity
import CoffeeHost.Settings.Basic
/-!
# Keys of settings

An object is read as settings only if each of its keys is accounted for: it is a name of a setting,
the setting is not given under its other name as well, and its value has been converted to that of
the setting. What is not given has its default. The order of the keys does not matter.

Any other value is refused for one reason. Of several reasons that counts which comes first in the
order of the settings; keys that stand for no setting come last, in the order of the object. The
error names the key. Only an empty key goes by a word, just as a value that is no object.

## Main definitions

* `Settings.Accounts` — a key whose value has gone into settings.
* `Settings.Describes` — an object all of which has gone into settings.
* `Settings.Stray` — a key that stands for no setting.
* `Settings.FirstOffence` — the reason for which a value is refused.

## Main results

* `Settings.checkMembers_eq_valid_iff` — the objects that are read as settings.
* `Settings.checkMembers_refused_iff` — the reason for which an object is refused.
* `Settings.no_key_is_dropped` — what a value is read as, or refused for.
-/

namespace CoffeeHost

open Json (Members Value)
open Validation (Checked GivenOnce Misread Part Rule)

/-! ### Objects as maps -/

namespace Json.Members

variable {members members' : Members} {key : String} {value : Value}

theorem isSome_get?_iff : (members.get? key).isSome ↔ key ∈ members.map (·.1) := by
  simp [get?, List.lookup_isSome_iff]

theorem get?_eq_some_iff_mem (h : (members.map (·.1)).Nodup) :
    members.get? key = some value ↔ (key, value) ∈ members := by
  constructor
  · intro hget
    obtain ⟨before, after, rfl, -⟩ := List.lookup_eq_some_iff.mp hget
    simp
  · intro hmem
    have hsome : (members.get? key).isSome :=
      isSome_get?_iff.mpr (List.mem_map_of_mem (f := Prod.fst) hmem)
    obtain ⟨found, hfound⟩ := Option.isSome_iff_exists.mp hsome
    obtain ⟨before, after, hmembers, -⟩ := List.lookup_eq_some_iff.mp hfound
    have hpair : (key, found) ∈ members := by simp [hmembers]
    have hsame := List.inj_on_of_nodup_map h hpair hmem rfl
    rw [hfound, (Prod.mk.inj hsame).2]

/-- What an object says of a key does not depend on the order of its keys. -/
theorem get?_eq_of_perm (hperm : members.Perm members') (h : (members.map (·.1)).Nodup)
    (key : String) : members.get? key = members'.get? key := by
  have h' : (members'.map (·.1)).Nodup := (hperm.map Prod.fst).nodup_iff.mp h
  apply Option.ext
  intro value
  rw [get?_eq_some_iff_mem h, get?_eq_some_iff_mem h', hperm.mem_iff]

end Json.Members

namespace Settings

variable {members members' : Members} {settings : Settings} {key : String} {rule : Rule}

/-! ### What becomes of a key -/

/-- The names of all settings. -/
def names : List String := levelNames ++ prettyPrintNames ++ severityNames

/-- A key is accounted for: it is the name of a setting, and its value has been converted to that
of the setting. -/
inductive Accounts (settings : Settings) : (key : String) → (value : Value) → Prop
  | level {key : String} {value : Value} (hkey : key ∈ levelNames)
      (h : Level.ofValue value = .ok settings.level) : Accounts settings key value
  | prettyPrint {key : String} {value : Value} (hkey : key ∈ prettyPrintNames)
      (h : Validation.truth value = .ok settings.prettyPrint) : Accounts settings key value
  | severity {key : String} {value : Value} (hkey : key ∈ severityNames)
      (h : Validation.integer value = .ok settings.severity) : Accounts settings key value

/-- A setting is not given under any of its names. -/
def NotGiven (members : Members) (names : List String) : Prop :=
  ∀ name ∈ names, members.get? name = none

/-- An object describes settings: all of its keys are accounted for, no setting is given twice,
and what is not given has its default. -/
structure Describes (members : Members) (settings : Settings) : Prop where
  accounts : ∀ key value, members.get? key = some value → settings.Accounts key value
  level_once : GivenOnce members levelNames
  prettyPrint_once : GivenOnce members prettyPrintNames
  level_default : NotGiven members levelNames → settings.level = default.level
  prettyPrint_default : NotGiven members prettyPrintNames →
    settings.prettyPrint = default.prettyPrint
  severity_default : NotGiven members severityNames → settings.severity = default.severity
  severity_range : 0 ≤ settings.severity ∧ settings.severity ≤ 3

/-- A key stands for no setting if it is not the name of any, or if it is the second name of one
that is given under its first name. -/
inductive Stray (members : Members) : (key : String) → Prop
  | unknown {key : String} (h : key ∉ names) : Stray members key
  | level (h : (members.get? "compilationLevel").isSome) : Stray members "compilation_level"
  | prettyPrint (h : (members.get? "prettyPrint").isSome) : Stray members "pretty_print"

/-- A setting that is read from an object without breaking a rule. -/
def InOrder {α : Type} (members : Members) (names : List String)
    (read : Value → Except Rule α) : Prop :=
  ∀ name rule, ¬ Misread members names read name rule

/-- The severity that a value stands for, if it is one of the four. -/
def readSeverity : Value → Except Rule Int := Validation.integerBetween 0 3

/-- The reason for which a value is refused, with the key that it is found at. -/
inductive FirstOffence : Value → (key? : Option String) → Rule → Prop
  | notObject {value : Value} (h : ∀ members, value ≠ .object members) :
      FirstOffence value none (.record "JsMinifierSettings")
  | level {members : Members} {key : String} {rule : Rule}
      (h : Misread members levelNames Level.ofValue key rule) :
      FirstOffence (.object members) (some key) rule
  | prettyPrint {members : Members} {key : String} {rule : Rule}
      (hlevel : InOrder members levelNames Level.ofValue)
      (h : Misread members prettyPrintNames Validation.truth key rule) :
      FirstOffence (.object members) (some key) rule
  | severity {members : Members} {key : String} {rule : Rule}
      (hlevel : InOrder members levelNames Level.ofValue)
      (hpretty : InOrder members prettyPrintNames Validation.truth)
      (h : Misread members severityNames readSeverity key rule) :
      FirstOffence (.object members) (some key) rule
  | stray {members : Members} {key : String} {before after : List String}
      (hlevel : InOrder members levelNames Level.ofValue)
      (hpretty : InOrder members prettyPrintNames Validation.truth)
      (hseverity : InOrder members severityNames readSeverity)
      (hkeys : members.map (·.1) = before ++ key :: after)
      (hbefore : ∀ other ∈ before, ¬ Stray members other) (h : Stray members key) :
      FirstOffence (.object members) (some key) .noExtra

/-- How an error names the key of an offence. The empty key goes by the same word as a value that
is no object. -/
def offenceName : (key? : Option String) → String
  | none => "settings"
  | some key => if key = "" then "settings" else key

/-! ### Keys that are read -/

/-- Of two names the first one is found, and the second one where the first one is not given. -/
theorem findMember_pair_iff {first second : String} (hkey : (members.get? key).isSome) :
    (∃ value, Validation.findMember members [first, second] = some (key, value)) ↔
      key = first ∨ key = second ∧ (members.get? first).isNone := by
  obtain ⟨value, hvalue⟩ := Option.isSome_iff_exists.mp hkey
  constructor
  · rintro ⟨found, hfound⟩
    obtain ⟨hmem, -⟩ := Validation.findMember_spec hfound
    cases hfirst : members.get? first with
    | some other =>
      have hother : other = found ∧ first = key := by
        simpa [Validation.findMember, hfirst, and_comm] using hfound
      exact .inl hother.2.symm
    | none => exact (List.mem_pair.mp hmem).imp_right fun h => ⟨h, rfl⟩
  · rintro (rfl | ⟨rfl, hfirst⟩)
    · exact ⟨value, by simp [Validation.findMember, hvalue]⟩
    · rw [Option.isNone_iff_eq_none] at hfirst
      exact ⟨value, by simp [Validation.findMember, hfirst, hvalue]⟩

theorem findMember_singleton_iff {name : String} (hkey : (members.get? key).isSome) :
    (∃ value, Validation.findMember members [name] = some (key, value)) ↔ key = name := by
  constructor
  · rintro ⟨found, hfound⟩
    exact List.mem_singleton.mp (Validation.findMember_spec hfound).1
  · rintro rfl
    obtain ⟨value, hvalue⟩ := Option.isSome_iff_exists.mp hkey
    exact ⟨value, by simp [Validation.findMember, hvalue]⟩

/-- A key of an object is read unless it stands for no setting. -/
theorem mem_readKeys_iff (hkey : (members.get? key).isSome) :
    key ∈ readKeys members ↔ ¬ Stray members key := by
  have hread : key ∈ readKeys members ↔
      (key = "compilationLevel" ∨
          key = "compilation_level" ∧ (members.get? "compilationLevel").isNone) ∨
        (key = "prettyPrint" ∨ key = "pretty_print" ∧ (members.get? "prettyPrint").isNone) ∨
        key = "severity" := by
    simp only [readKeys, List.mem_filterMap, List.mem_cons, List.not_mem_nil, or_false,
      exists_eq_or_imp, exists_eq_left, Option.map_eq_some_iff, Prod.exists, exists_and_right,
      exists_eq_right]
    rw [levelNames, prettyPrintNames, severityNames, findMember_pair_iff hkey,
      findMember_pair_iff hkey, findMember_singleton_iff hkey]
  rw [hread]
  constructor
  · intro hname hstray
    cases hstray with
    | unknown hunknown =>
      refine hunknown ?_
      simp only [names, levelNames, prettyPrintNames, severityNames, List.cons_append,
        List.nil_append, List.mem_cons, List.not_mem_nil, or_false]
      tauto
    | level hfirst => simp [Option.isNone_iff_eq_none] at hname; simp [hname] at hfirst
    | prettyPrint hfirst => simp [Option.isNone_iff_eq_none] at hname; simp [hname] at hfirst
  · intro hstray
    have hname : key ∈ names := by
      by_contra hunknown
      exact hstray (.unknown hunknown)
    simp only [names, levelNames, prettyPrintNames, severityNames, List.cons_append,
      List.nil_append, List.mem_cons, List.not_mem_nil, or_false] at hname
    rcases hname with rfl | rfl | rfl | rfl | rfl
    · exact .inl (.inl rfl)
    · have hfirst : ¬ (members.get? "compilationLevel").isSome := fun h => hstray (.level h)
      exact .inl (.inr ⟨rfl, by simpa using hfirst⟩)
    · exact .inr (.inl (.inl rfl))
    · have hfirst : ¬ (members.get? "prettyPrint").isSome := fun h => hstray (.prettyPrint h)
      exact .inr (.inl (.inr ⟨rfl, by simpa using hfirst⟩))
    · exact .inr (.inr rfl)

/-! ### Keys that stand for no setting -/

/-- The keys of an object that are not read, in their order. -/
def extras (members : Members) : List String :=
  (members.map (·.1)).filter fun key => !(readKeys members).contains key

theorem extraKeys_nil (h : extras members = []) : extraKeys members = .valid () := by
  rw [extras] at h
  rw [extraKeys, h]

theorem extraKeys_cons {rest : List String} (h : extras members = key :: rest) :
    extraKeys members = .invalid (⟨[.name key], .noExtra⟩ ::
      rest.map fun key => ⟨[.name key], .noExtra⟩) := by
  rw [extras] at h
  rw [extraKeys, h]
  rfl

theorem extraKeys_decided : (extraKeys members).Decided := by
  cases h : extras members with
  | nil => exact .inl ⟨(), extraKeys_nil h⟩
  | cons key rest => exact .inr ⟨_, _, extraKeys_cons h⟩

/-- A key of an object is left over if it stands for no setting. -/
theorem contains_readKeys_iff (hkey : key ∈ members.map (·.1)) :
    (!(readKeys members).contains key) = true ↔ Stray members key := by
  rw [← not_iff_not, ← mem_readKeys_iff (Members.isSome_get?_iff.mpr hkey)]
  simp

theorem extraKeys_eq_valid_iff :
    extraKeys members = .valid () ↔ ∀ key, (members.get? key).isSome → ¬ Stray members key := by
  have hextras : extraKeys members = .valid () ↔ extras members = [] := by
    cases h : extras members with
    | nil => simp [extraKeys_nil h]
    | cons key rest => simp [extraKeys_cons h]
  rw [hextras, extras, List.filter_eq_nil_iff]
  refine forall_congr' fun key => ?_
  rw [Members.isSome_get?_iff]
  exact imp_congr_right fun hkey => not_congr (contains_readKeys_iff hkey)

/-- Of the keys that stand for no setting the first one is reported. -/
theorem extraKeys_refused_iff {v : Validation.Violation} :
    (extraKeys members).Refused v ↔
      ∃ before key after, members.map (·.1) = before ++ key :: after ∧
        (∀ other ∈ before, ¬ Stray members other) ∧ Stray members key ∧
        v = ⟨[.name key], .noExtra⟩ := by
  have hrefused : (extraKeys members).Refused v ↔
      ∃ key rest, extras members = key :: rest ∧ v = ⟨[.name key], .noExtra⟩ := by
    cases h : extras members with
    | nil => simp [extraKeys_nil h, Checked.Refused]
    | cons key rest => simp [extraKeys_cons h, Checked.Refused, eq_comm]
  rw [hrefused]
  constructor
  · rintro ⟨key, rest, hextras, rfl⟩
    obtain ⟨before, after, hkeys, hbefore, hextra, -⟩ := List.filter_eq_cons_iff.mp hextras
    have hmem : key ∈ members.map (·.1) := by simp [hkeys]
    refine ⟨before, key, after, hkeys, fun other hother => ?_,
      (contains_readKeys_iff hmem).mp hextra, rfl⟩
    have hmem' : other ∈ members.map (·.1) := by simp [hkeys, hother]
    exact fun hstray => hbefore other hother ((contains_readKeys_iff hmem').mpr hstray)
  · rintro ⟨before, key, after, hkeys, hbefore, hstray, rfl⟩
    have hmem : key ∈ members.map (·.1) := by simp [hkeys]
    refine ⟨key, _, List.filter_eq_cons_iff.mpr ⟨before, after, hkeys, fun other hother => ?_,
      (contains_readKeys_iff hmem).mpr hstray, rfl⟩, rfl⟩
    have hmem' : other ∈ members.map (·.1) := by simp [hkeys, hother]
    exact fun hextra => hbefore other hother ((contains_readKeys_iff hmem').mp hextra)

/-! ### Objects that describe settings -/

theorem integerBetween_eq_ite {least greatest i : Int} {value : Value}
    (h : Validation.integer value = .ok i) :
    Validation.integerBetween least greatest value =
      if i < least then .error (.atLeast least)
      else if greatest < i then .error (.atMost greatest) else .ok i := by
  rw [Validation.integerBetween, h]
  change (if i < least then _ else _) = _
  split_ifs <;> rfl

theorem readSeverity_eq_ok_iff {value : Value} {i : Int} :
    readSeverity value = .ok i ↔ Validation.integer value = .ok i ∧ 0 ≤ i ∧ i ≤ 3 := by
  rw [readSeverity]
  cases hread : Validation.integer value with
  | error rule => simp [Validation.integerBetween, hread, bind, Except.bind]
  | ok found =>
    rw [integerBetween_eq_ite hread]
    split_ifs with hbelow habove
    · exact iff_of_false nofun (by rintro ⟨⟨⟩, hleast, -⟩; omega)
    · exact iff_of_false nofun (by rintro ⟨⟨⟩, -, hgreatest⟩; omega)
    · refine ⟨?_, fun h => h.1⟩
      rintro ⟨⟩
      exact ⟨rfl, by omega, by omega⟩

section Names

variable {value : Value}

/-- No two settings share a name. -/
theorem names_disjoint : levelNames.Disjoint prettyPrintNames ∧
    levelNames.Disjoint severityNames ∧ prettyPrintNames.Disjoint severityNames := by
  simp only [List.disjoint_left]
  decide

theorem accounts_level_iff (hkey : key ∈ levelNames) :
    settings.Accounts key value ↔ Level.ofValue value = .ok settings.level := by
  refine ⟨fun h => ?_, .level hkey⟩
  cases h with
  | level _ h => exact h
  | prettyPrint hpretty => exact absurd hpretty (names_disjoint.1 hkey)
  | severity hseverity => exact absurd hseverity (names_disjoint.2.1 hkey)

theorem accounts_prettyPrint_iff (hkey : key ∈ prettyPrintNames) :
    settings.Accounts key value ↔ Validation.truth value = .ok settings.prettyPrint := by
  refine ⟨fun h => ?_, .prettyPrint hkey⟩
  cases h with
  | level hlevel => exact absurd hkey (names_disjoint.1 hlevel)
  | prettyPrint _ h => exact h
  | severity hseverity => exact absurd hseverity (names_disjoint.2.2 hkey)

theorem accounts_severity_iff (hkey : key ∈ severityNames) :
    settings.Accounts key value ↔ Validation.integer value = .ok settings.severity := by
  refine ⟨fun h => ?_, .severity hkey⟩
  cases h with
  | level hlevel => exact absurd hkey (names_disjoint.2.1 hlevel)
  | prettyPrint hpretty => exact absurd hkey (names_disjoint.2.2 hpretty)
  | severity _ h => exact h

end Names

theorem givenOnce_pair_iff {first second : String} (hne : first ≠ second) :
    GivenOnce members [first, second] ↔
      ¬ ((members.get? first).isSome ∧ (members.get? second).isSome) := by
  constructor
  · exact fun h hboth => hne (h first (by simp) second (by simp) hboth.1 hboth.2)
  · intro h name hname other hother hsome hsome'
    rcases List.mem_pair.mp hname with rfl | rfl <;> rcases List.mem_pair.mp hother with rfl | rfl
    · rfl
    · exact absurd ⟨hsome, hsome'⟩ h
    · exact absurd ⟨hsome', hsome⟩ h
    · rfl

theorem givenOnce_severity : GivenOnce members severityNames := by
  intro name hname other hother _ _
  rw [List.mem_singleton.mp hname, List.mem_singleton.mp hother]

/-- No key stands for no setting if all keys are names and no setting is given twice. -/
theorem not_stray_iff :
    (∀ key, (members.get? key).isSome → ¬ Stray members key) ↔
      (∀ key, (members.get? key).isSome → key ∈ names) ∧ GivenOnce members levelNames ∧
        GivenOnce members prettyPrintNames := by
  rw [levelNames, givenOnce_pair_iff (by decide), prettyPrintNames, givenOnce_pair_iff (by decide)]
  constructor
  · refine fun h => ⟨fun key hkey => ?_, fun hlevel => ?_, fun hpretty => ?_⟩
    · by_contra hunknown
      exact h key hkey (.unknown hunknown)
    · exact h _ hlevel.2 (.level hlevel.1)
    · exact h _ hpretty.2 (.prettyPrint hpretty.1)
  · rintro ⟨hnames, hlevel, hpretty⟩ key hkey hstray
    cases hstray with
    | unknown hunknown => exact hunknown (hnames key hkey)
    | level hfirst => exact hlevel ⟨hfirst, hkey⟩
    | prettyPrint hfirst => exact hpretty ⟨hfirst, hkey⟩

theorem checkMembers_eq_valid_iff_parts :
    checkMembers members = .valid settings ↔
      (Part members levelNames default.level (fun value level => Level.ofValue value = .ok level)
          settings.level ∧
        Part members prettyPrintNames default.prettyPrint
          (fun value pretty => Validation.truth value = .ok pretty) settings.prettyPrint ∧
        Part members severityNames default.severity
          (fun value i => readSeverity value = .ok i) settings.severity) ∧
        ∀ key, (members.get? key).isSome → ¬ Stray members key := by
  simp only [checkMembers, Checked.both_eq_valid_iff, Validation.optionalField_eq_valid_iff,
    Function.comp_apply, Checked.ofExcept_eq_valid_iff, ← extraKeys_eq_valid_iff]
  constructor
  · rintro ⟨_, ⟨⟩, ⟨_, i, ⟨level, pretty, hlevel, hpretty, rfl⟩, hseverity, rfl⟩, hextra, rfl⟩
    exact ⟨⟨hlevel, hpretty, hseverity⟩, hextra⟩
  · rintro ⟨⟨hlevel, hpretty, hseverity⟩, hextra⟩
    exact ⟨_, (), ⟨_, settings.severity, ⟨_, _, hlevel, hpretty, rfl⟩, hseverity, rfl⟩, hextra, rfl⟩

/-- An object is read as the settings that it describes. -/
theorem checkMembers_eq_valid_iff :
    checkMembers members = .valid settings ↔ Describes members settings := by
  rw [checkMembers_eq_valid_iff_parts, not_stray_iff]
  constructor
  · rintro ⟨⟨hlevel, hpretty, hseverity⟩, hnames, honce, honce'⟩
    rw [Part.iff_of_givenOnce honce] at hlevel
    rw [Part.iff_of_givenOnce honce'] at hpretty
    rw [Part.iff_of_givenOnce givenOnce_severity] at hseverity
    simp only [readSeverity_eq_ok_iff] at hseverity
    refine ⟨fun key value hget => ?_, honce, honce', hlevel.2, hpretty.2, hseverity.2, ?_⟩
    · have hname := hnames key (by simp [hget])
      rw [names, List.mem_append, List.mem_append] at hname
      rcases hname with (hname | hname) | hname
      · exact .level hname (hlevel.1 key hname value hget)
      · exact .prettyPrint hname (hpretty.1 key hname value hget)
      · exact .severity hname (hseverity.1 key hname value hget).1
    · cases hgiven : members.get? "severity" with
      | some value => exact (hseverity.1 "severity" (by decide) value hgiven).2
      | none =>
        rw [hseverity.2 fun name hname => by rwa [List.mem_singleton.mp hname]]
        decide
  · intro h
    refine ⟨⟨?_, ?_, ?_⟩, fun key hkey => ?_, h.level_once, h.prettyPrint_once⟩
    · refine (Part.iff_of_givenOnce h.level_once).mpr ⟨fun name hname value hget => ?_,
        h.level_default⟩
      exact (accounts_level_iff hname).mp (h.accounts name value hget)
    · refine (Part.iff_of_givenOnce h.prettyPrint_once).mpr ⟨fun name hname value hget => ?_,
        h.prettyPrint_default⟩
      exact (accounts_prettyPrint_iff hname).mp (h.accounts name value hget)
    · refine (Part.iff_of_givenOnce givenOnce_severity).mpr ⟨fun name hname value hget => ?_,
        h.severity_default⟩
      exact readSeverity_eq_ok_iff.mpr
        ⟨(accounts_severity_iff hname).mp (h.accounts name value hget), h.severity_range⟩
    · obtain ⟨value, hget⟩ := Option.isSome_iff_exists.mp hkey
      rw [names, List.mem_append, List.mem_append]
      cases h.accounts key value hget with
      | level hname => exact .inl (.inl hname)
      | prettyPrint hname => exact .inl (.inr hname)
      | severity hname => exact .inr hname

/-- What an object describes depends only on what it says of each key. -/
theorem Describes.congr (h : Describes members settings)
    (hsame : ∀ key, members.get? key = members'.get? key) : Describes members' settings := by
  have honce {names : List String} (h : GivenOnce members names) : GivenOnce members' names := by
    simpa only [GivenOnce, hsame] using h
  have hnone {names : List String} (h : NotGiven members' names) : NotGiven members names := by
    simpa only [NotGiven, hsame] using h
  exact {
    accounts := fun key value hget => h.accounts key value ((hsame key).trans hget)
    level_once := honce h.level_once
    prettyPrint_once := honce h.prettyPrint_once
    level_default := fun hgiven => h.level_default (hnone hgiven)
    prettyPrint_default := fun hgiven => h.prettyPrint_default (hnone hgiven)
    severity_default := fun hgiven => h.severity_default (hnone hgiven)
    severity_range := h.severity_range }

/-! ### The first offence -/

theorem checkMembers_decided : (checkMembers members).Decided :=
  ((Validation.decided_optionalField.both Validation.decided_optionalField).both
    Validation.decided_optionalField).both extraKeys_decided

/-- An object is refused for its first offence. -/
theorem checkMembers_refused_iff {v : Validation.Violation} :
    (checkMembers members).Refused v ↔
      ∃ key rule, FirstOffence (.object members) (some key) rule ∧ v = ⟨[.name key], rule⟩ := by
  have hlevel : (Validation.optionalField members levelNames default.level
      (.ofExcept ∘ Level.ofValue)).Decided := Validation.decided_optionalField
  rw [checkMembers, Checked.refused_both_iff ((hlevel.both Validation.decided_optionalField).both
      Validation.decided_optionalField),
    Checked.refused_both_iff (hlevel.both Validation.decided_optionalField),
    Checked.refused_both_iff hlevel]
  simp only [Checked.exists_both_eq_valid_iff, Validation.exists_optionalField_eq_valid_iff,
    Validation.refused_optionalField_iff, extraKeys_refused_iff]
  constructor
  · rintro (((⟨key, rule, h, rfl⟩ | ⟨hlevel, key, rule, h, rfl⟩) |
      ⟨⟨hlevel, hpretty⟩, key, rule, h, rfl⟩) |
      ⟨⟨⟨hlevel, hpretty⟩, hseverity⟩, before, key, after, hkeys, hbefore, h, rfl⟩)
    · exact ⟨key, rule, .level h, rfl⟩
    · exact ⟨key, rule, .prettyPrint hlevel h, rfl⟩
    · exact ⟨key, rule, .severity hlevel hpretty h, rfl⟩
    · exact ⟨key, .noExtra, .stray hlevel hpretty hseverity hkeys hbefore h, rfl⟩
  · rintro ⟨key, rule, h, rfl⟩
    cases h with
    | level h => exact .inl (.inl (.inl ⟨key, rule, h, rfl⟩))
    | prettyPrint hlevel h => exact .inl (.inl (.inr ⟨hlevel, key, rule, h, rfl⟩))
    | severity hlevel hpretty h => exact .inl (.inr ⟨⟨hlevel, hpretty⟩, key, rule, h, rfl⟩)
    | stray hlevel hpretty hseverity hkeys hbefore h =>
      exact .inr ⟨⟨⟨hlevel, hpretty⟩, hseverity⟩, _, key, _, hkeys, hbefore, h, rfl⟩

theorem check_decided (value : Value) : (check value).Decided := by
  cases value with
  | object members => exact checkMembers_decided
  | _ => exact .inr ⟨_, _, rfl⟩

/-- A value is refused for its first offence. -/
theorem check_refused_iff {value : Value} {v : Validation.Violation} :
    (check value).Refused v ↔
      ∃ key? rule, FirstOffence value key? rule ∧
        v = ⟨key?.toList.map Validation.Key.name, rule⟩ := by
  by_cases hobject : ∃ members, value = .object members
  · obtain ⟨members, rfl⟩ := hobject
    rw [check, checkMembers_refused_iff]
    constructor
    · rintro ⟨key, rule, h, rfl⟩
      exact ⟨some key, rule, h, rfl⟩
    · rintro ⟨_ | key, rule, h, rfl⟩
      · cases h with
        | notObject h => exact absurd rfl (h members)
      · exact ⟨key, rule, h, rfl⟩
  · have hnot (members : Members) : value ≠ .object members := fun h => hobject ⟨members, h⟩
    have hcheck : check value = .broken (.record "JsMinifierSettings") := by
      cases value with
      | object members => exact absurd rfl (hnot members)
      | _ => rfl
    rw [hcheck]
    constructor
    · rintro ⟨more, h⟩
      obtain ⟨rfl, -⟩ := List.cons.inj (Checked.invalid.inj h)
      exact ⟨none, _, .notObject hnot, rfl⟩
    · rintro ⟨key?, rule, h, rfl⟩
      cases h with
      | notObject => exact ⟨[], rfl⟩
      | _ => exact absurd rfl (hnot _)

theorem violationPlace_eq (key? : Option String) (rule : Rule) :
    violationPlace ⟨key?.toList.map Validation.Key.name, rule⟩ = offenceName key? := by
  cases key? with
  | none => rfl
  | some key =>
    have hplace : ".".intercalate [key] = key := by simp
    simp [violationPlace, offenceName, Validation.Key.text, hplace]

/-! ### Values -/

theorem ofValue_eq_ok_iff {value : Value} {source : Option String} :
    ofValue value source = .ok settings ↔
      ∃ members, value = .object members ∧ Describes members settings := by
  have hcheck : ofValue value source = .ok settings ↔ check value = .valid settings := by
    rw [ofValue]
    rcases check_decided value with ⟨found, h⟩ | ⟨v, more, h⟩ <;> simp [h]
  rw [hcheck]
  cases value with
  | object members => simp [check, checkMembers_eq_valid_iff]
  | _ => exact iff_of_false nofun nofun

theorem ofValue_eq_error_iff {value : Value} {source : Option String} {e : InvalidSettings} :
    ofValue value source = .error e ↔
      ∃ key? rule, FirstOffence value key? rule ∧
        e = ⟨offenceName key? ++ ": " ++ rule.message, source⟩ := by
  have hcheck : ofValue value source = .error e ↔
      ∃ v, (check value).Refused v ∧
        e = ⟨violationPlace v ++ ": " ++ v.message, source⟩ := by
    rw [ofValue]
    rcases check_decided value with ⟨found, h⟩ | ⟨v, more, h⟩
    · simp [h, Checked.Refused]
    · simp [h, Checked.Refused, eq_comm, toString]
  rw [hcheck]
  simp only [check_refused_iff]
  constructor
  · rintro ⟨_, ⟨key?, rule, h, rfl⟩, rfl⟩
    exact ⟨key?, rule, h, by rw [violationPlace_eq]; rfl⟩
  · rintro ⟨key?, rule, h, rfl⟩
    exact ⟨_, ⟨key?, rule, h, rfl⟩, by rw [violationPlace_eq]; rfl⟩

/-- A value is read as settings if it is an object that describes them: every key has gone into
them, no setting is given twice, what is not given has its default, and the severity is one of the
four. The order of the keys does not matter. Any other value is refused for its first offence, with
an error that carries the source and names the key, but the empty one by a word. -/
theorem no_key_is_dropped (value : Value) (source : Option String) :
    (∀ settings, ofValue value source = .ok settings ↔
      ∃ members, value = .object members ∧ Describes members settings) ∧
    (∀ members members' : Members, value = .object members → members.Perm members' →
      (members.map (·.1)).Nodup → ∀ settings, ofValue value source = .ok settings →
        ofValue (.object members') source = .ok settings) ∧
    ∀ e, ofValue value source = .error e ↔
      ∃ key? rule, FirstOffence value key? rule ∧
        e = ⟨offenceName key? ++ ": " ++ rule.message, source⟩ := by
  refine ⟨fun settings => ofValue_eq_ok_iff, ?_, fun e => ofValue_eq_error_iff⟩
  rintro members members' rfl hperm hnodup settings h
  obtain ⟨_, ⟨⟩, hdescribes⟩ := ofValue_eq_ok_iff.mp h
  exact ofValue_eq_ok_iff.mpr
    ⟨members', rfl, hdescribes.congr (Members.get?_eq_of_perm hperm hnodup)⟩

/-- An object that gives a setting under its second name, and one in which the keys stand the other
way round. A key with the wrong case is refused after a value that is none. -/
theorem keys_are_read_in_any_order :
    let members : Members := [("severity", .text " 3 "), ("pretty_print", .text "Yes"),
      ("compilationLevel", .text "Advanced")]
    let misspelt : Members := [("Severity", .integer 2), ("prettyPrint", .null)]
    (members.Perm members.reverse ∧ (members.map (·.1)).Nodup ∧
      ofValue (.object members) none = .ok ⟨.advanced, true, 3⟩ ∧
      ofValue (.object members.reverse) none = .ok ⟨.advanced, true, 3⟩) ∧
    ofValue (.object misspelt) (some "brew.json") =
      .error ⟨"prettyPrint: Input should be a valid boolean", some "brew.json"⟩ := by
  intro members misspelt
  have hread : ofValue (.object members) none = .ok ⟨.advanced, true, 3⟩ := by cbv
  have hperm : members.Perm members.reverse := (List.reverse_perm members).symm
  have hnodup : (members.map (·.1)).Nodup := by decide
  have hoffence : FirstOffence (.object misspelt) (some "prettyPrint") .truthValue :=
    .prettyPrint (fun _ _ => Validation.not_misread_of_eq_none rfl) ⟨.null, rfl, rfl⟩
  have hmessage : Rule.truthValue.message = "Input should be a valid boolean" := rfl
  refine ⟨⟨hperm, hnodup, hread, ?_⟩, ?_⟩
  · exact (no_key_is_dropped (.object members) none).2.1 members _ rfl hperm hnodup _ hread
  · exact ((no_key_is_dropped (.object misspelt) (some "brew.json")).2.2 _).mpr
      ⟨_, _, hoffence, by simp [offenceName, hmessage]⟩

/-- An empty key is not named in the error: it goes by the word for the whole value, which may be a
key as well. -/
theorem empty_key_goes_unnamed :
    (¬ ∀ (value : Value) (source : Option String) (key : String) (rule : Rule)
      (e : InvalidSettings), FirstOffence value (some key) rule → ofValue value source = .error e →
        e = ⟨key ++ ": " ++ rule.message, source⟩) ∧
    ofValue (.object [("", .integer 1)]) none =
      .error ⟨"settings: Extra inputs are not permitted", none⟩ ∧
    ofValue (.object [("settings", .integer 1)]) none =
      .error ⟨"settings: Extra inputs are not permitted", none⟩ := by
  have hoffence (key : String) (hkey : key ∉ names) :
      FirstOffence (.object [(key, .integer 1)]) (some key) .noExtra := by
    have hunread {α : Type} {names' : List String} (hnames : names' ⊆ names)
        (read : Value → Except Rule α) : InOrder [(key, .integer 1)] names' read := by
      rintro name rule ⟨value, hfound, -⟩
      obtain ⟨hmem, hget⟩ := Validation.findMember_spec hfound
      have hsome : name ∈ [(key, Value.integer 1)].map (·.1) :=
        Members.isSome_get?_iff.mp (by simp [hget])
      obtain rfl : name = key := by simpa using hsome
      exact hkey (hnames hmem)
    exact .stray (hunread (by decide) _) (hunread (by decide) _) (hunread (by decide) _)
      (show [key] = [] ++ key :: [] from rfl) nofun (.unknown hkey)
  have hmessage : Rule.noExtra.message = "Extra inputs are not permitted" := rfl
  have hrefused (key : String) (hkey : key ∉ names) (hname : offenceName (some key) = "settings") :
      ofValue (.object [(key, .integer 1)]) none =
        .error ⟨"settings: Extra inputs are not permitted", none⟩ :=
    ofValue_eq_error_iff.mpr ⟨_, _, hoffence key hkey, by simp [hname, hmessage]⟩
  have hempty := hrefused "" (by decide) rfl
  refine ⟨fun hall => ?_, hempty, hrefused "settings" (by decide) rfl⟩
  have hnamed := hall _ none "" _ _ (hoffence "" (by decide)) hempty
  simp [hmessage] at hnamed

end Settings

end CoffeeHost
