import CoffeeHost.Validation.Basic
import Mathlib.Data.List.Forall2
/-!
# What passes a check

A check gives a result exactly if all of its parts do. The lemmas of this file say so for each way
of putting checks together, so that a shape can be read off its check without opening it.

A check without a result finds violations, and the first of them is the one that is reported. It is
found by the first part that fails, so it can be read off the parts in the same way.

## Main definitions

* `Validation.Part` — what a part of an object is read as, which may be missing.
* `Validation.Checked.Refused` — the first violation that a check finds.
* `Validation.Misread` — a part of an object that cannot be read.

## Main results

* `Validation.optionalField_eq_valid_iff`, `Validation.field_eq_valid_iff`,
  `Validation.checkItems_eq_valid_iff` — the results of the parts of objects and lists.
* `Validation.findMember_cases` — the name under which a part is found.
* `Validation.Checked.refused_both_iff`, `Validation.refused_optionalField_iff` — the violation that
  is found first.
-/

namespace CoffeeHost.Validation

open Json (Members Value)

variable {α β γ : Type}

namespace Checked

@[simp] theorem below_eq_valid_iff {key : Key} {checked : Checked α} {a : α} :
    checked.below key = .valid a ↔ checked = .valid a := by
  cases checked <;> simp [below]

@[simp] theorem map_eq_valid_iff {f : α → β} {checked : Checked α} {b : β} :
    checked.map f = .valid b ↔ ∃ a, checked = .valid a ∧ f a = b := by
  cases checked <;> simp [map]

/-- Two checks pass together only if both pass. -/
@[simp] theorem both_eq_valid_iff {f : α → β → γ} {first : Checked α} {second : Checked β} {c : γ} :
    first.both f second = .valid c ↔ ∃ a b, first = .valid a ∧ second = .valid b ∧ f a b = c := by
  cases first <;> cases second <;> simp [both]

@[simp] theorem ofExcept_eq_valid_iff {result : Except Rule α} {a : α} :
    ofExcept result = .valid a ↔ result = .ok a := by
  cases result <;> simp [ofExcept, broken]

@[simp] theorem broken_ne_valid {rule : Rule} {a : α} : broken rule ≠ .valid a := nofun

end Checked

/-! ### Objects and lists -/

/-- What a part of an object is read as: its default if it goes by none of the names, and else
what its value is read as. -/
inductive Part (members : Members) (names : List String) (default : α) (Reads : Value → α → Prop) :
    α → Prop
  | missing (h : findMember members names = none) : Part members names default Reads default
  | given (name : String) (value : Value) (a : α)
      (h : findMember members names = some (name, value)) (hreads : Reads value a) :
      Part members names default Reads a

namespace Part

variable {members : Members} {names : List String} {default : α} {Reads Reads' : Value → α → Prop}

theorem imp {a : α} (h : Part members names default Reads a)
    (himp : ∀ value a, Reads value a → Reads' value a) : Part members names default Reads' a := by
  cases h with
  | missing h => exact .missing h
  | given name value _ h hreads => exact .given name value a h (himp value a hreads)

theorem congr {a : α} (hiff : ∀ value a, Reads value a ↔ Reads' value a) :
    Part members names default Reads a ↔ Part members names default Reads' a :=
  ⟨fun h => h.imp fun value a => (hiff value a).mp,
    fun h => h.imp fun value a => (hiff value a).mpr⟩

theorem iff_of_eq_none {a : α} (h : findMember members names = none) :
    Part members names default Reads a ↔ a = default := by
  constructor
  · rintro (_ | ⟨name, value, _, hgiven, -⟩)
    · rfl
    · simp [h] at hgiven
  · rintro rfl
    exact .missing h

theorem iff_of_eq_some {a : α} {name : String} {value : Value}
    (h : findMember members names = some (name, value)) :
    Part members names default Reads a ↔ Reads value a := by
  constructor
  · rintro (hmissing | ⟨name', value', _, hgiven, hreads⟩)
    · simp [h] at hmissing
    · obtain ⟨rfl, rfl⟩ : name = name' ∧ value = value' := by simpa [h] using hgiven
      exact hreads
  · exact fun hreads => .given name value a h hreads

end Part

variable {members : Members} {check : Value → Checked α}

theorem optionalField_eq_valid_iff {names : List String} {default a : α} :
    optionalField members names default check = .valid a ↔
      Part members names default (fun value a => check value = .valid a) a := by
  cases hfound : findMember members names with
  | none =>
    rw [Part.iff_of_eq_none hfound]
    simp [optionalField, hfound, eq_comm]
  | some found =>
    rw [Part.iff_of_eq_some hfound]
    simp [optionalField, hfound]

theorem field_eq_valid_iff {name : String} {a : α} :
    field members name check = .valid a ↔
      ∃ value, members.get? name = some value ∧ check value = .valid a := by
  cases hfound : members.get? name <;> simp [field, hfound]

/-- A list passes a check if its items do, one by one. -/
theorem checkItems_eq_valid_iff {index : Nat} {items : List Value} {results : List α} :
    checkItems check index items = .valid results ↔
      List.Forall₂ (fun item a => check item = .valid a) items results := by
  induction items generalizing index results with
  | nil =>
    rw [checkItems, Checked.valid.injEq, List.forall₂_nil_left_iff]
    exact eq_comm
  | cons item items ih =>
    rw [checkItems, Checked.both_eq_valid_iff, List.forall₂_cons_left_iff]
    constructor
    · rintro ⟨a, more, hitem, hmore, rfl⟩
      exact ⟨a, more, Checked.below_eq_valid_iff.mp hitem, ih.mp hmore, rfl⟩
    · rintro ⟨a, more, hitem, hmore, rfl⟩
      exact ⟨a, more, Checked.below_eq_valid_iff.mpr hitem, ih.mpr hmore, rfl⟩

/-! ### Names -/

/-- A part of an object goes by the first of its names that is there. -/
theorem findMember_cases (members : Members) (names : List String) :
    (findMember members names = none ∧ ∀ name ∈ names, members.get? name = none) ∨
      ∃ name ∈ names, ∃ value, findMember members names = some (name, value) ∧
        members.get? name = some value := by
  induction names with
  | nil => exact .inl ⟨rfl, nofun⟩
  | cons name names ih =>
    cases hname : members.get? name with
    | some value => exact .inr ⟨name, by simp, value, by simp [findMember, hname], hname⟩
    | none =>
      have hskip : findMember members (name :: names) = findMember members names := by
        simp [findMember, hname]
      rw [hskip]
      rcases ih with ⟨hnone, hnames⟩ | ⟨other, hmem, value, hfound, hget⟩
      · exact .inl ⟨hnone, List.forall_mem_cons.mpr ⟨hname, hnames⟩⟩
      · exact .inr ⟨other, List.mem_cons_of_mem name hmem, value, hfound, hget⟩

theorem findMember_spec {names : List String} {name : String} {value : Value}
    (h : findMember members names = some (name, value)) :
    name ∈ names ∧ members.get? name = some value := by
  rcases findMember_cases members names with ⟨hnone, -⟩ | ⟨other, hmem, found, hfound, hget⟩
  · rw [hnone] at h
    cases h
  · obtain ⟨rfl, rfl⟩ : other = name ∧ found = value := by simpa [hfound] using h
    exact ⟨hmem, hget⟩

/-- A part of an object that goes by one of its names at most. -/
def GivenOnce (members : Members) (names : List String) : Prop :=
  ∀ name ∈ names, ∀ other ∈ names, (members.get? name).isSome → (members.get? other).isSome →
    name = other

/-- What a part is read as, if it goes by one name at most: what is read under that name, and the
default if there is none. -/
theorem Part.iff_of_givenOnce {names : List String} {default a : α} {Reads : Value → α → Prop}
    (h : GivenOnce members names) :
    Part members names default Reads a ↔
      (∀ name ∈ names, ∀ value, members.get? name = some value → Reads value a) ∧
        ((∀ name ∈ names, members.get? name = none) → a = default) := by
  rcases findMember_cases members names with ⟨hnone, hnames⟩ | ⟨name, hmem, value, hfound, hget⟩
  · rw [Part.iff_of_eq_none hnone]
    constructor
    · rintro rfl
      refine ⟨fun name hmem value hget => ?_, fun _ => rfl⟩
      rw [hnames name hmem] at hget
      cases hget
    · exact fun hdefault => hdefault.2 hnames
  · rw [Part.iff_of_eq_some hfound]
    constructor
    · refine fun hreads => ⟨fun other hother value' hget' => ?_, fun hnames => ?_⟩
      · obtain rfl := h name hmem other hother (by simp [hget]) (by simp [hget'])
        obtain rfl := Option.some.inj (hget.symm.trans hget')
        exact hreads
      · rw [hnames name hmem] at hget
        cases hget
    · exact fun hreads => hreads.1 name hmem value hget

/-! ### First violations -/

namespace Checked

/-- A check that is refused, with the violation that it finds first. -/
def Refused (checked : Checked α) (first : Violation) : Prop :=
  ∃ more, checked = .invalid (first :: more)

/-- A check that gives a result or finds a violation. -/
def Decided (checked : Checked α) : Prop :=
  (∃ a, checked = .valid a) ∨ ∃ first, checked.Refused first

variable {key : Key} {first : Checked α} {second : Checked β} {f : α → β → γ}
  {result : Except Rule α} {v : Violation}

theorem decided_ofExcept : (ofExcept result).Decided := by
  cases result with
  | ok a => exact .inl ⟨a, rfl⟩
  | error rule => exact .inr ⟨⟨[], rule⟩, [], rfl⟩

theorem Decided.below (h : first.Decided) : (first.below key).Decided := by
  obtain ⟨a, rfl⟩ | ⟨v, more, rfl⟩ := h
  · exact .inl ⟨a, rfl⟩
  · exact .inr ⟨_, _, rfl⟩

theorem Decided.both (hfirst : first.Decided) (hsecond : second.Decided) :
    (first.both f second).Decided := by
  obtain ⟨a, rfl⟩ | ⟨v, more, rfl⟩ := hfirst <;> obtain ⟨b, rfl⟩ | ⟨w, later, rfl⟩ := hsecond
  · exact .inl ⟨f a b, rfl⟩
  · exact .inr ⟨w, later, rfl⟩
  · exact .inr ⟨v, more, rfl⟩
  · exact .inr ⟨v, more ++ w :: later, rfl⟩

theorem refused_ofExcept_iff :
    (ofExcept result).Refused v ↔ ∃ rule, result = .error rule ∧ v = ⟨[], rule⟩ := by
  cases result <;> simp [ofExcept, broken, Refused, eq_comm]

theorem refused_below_iff :
    (first.below key).Refused v ↔
      ∃ w, first.Refused w ∧ v = { w with location := key :: w.location } := by
  cases first with
  | valid a => simp [Checked.below, Refused]
  | invalid vs => cases vs <;> simp [Checked.below, Refused, eq_comm]

/-- Of two checks the second one is reported only if the first one passes. -/
theorem refused_both_iff (h : first.Decided) :
    (first.both f second).Refused v ↔
      first.Refused v ∨ (∃ a, first = .valid a) ∧ second.Refused v := by
  obtain ⟨a, rfl⟩ | ⟨w, more, rfl⟩ := h <;> cases second <;> simp [Checked.both, Refused]

theorem exists_both_eq_valid_iff :
    (∃ c, first.both f second = .valid c) ↔
      (∃ a, first = .valid a) ∧ ∃ b, second = .valid b := by
  cases first <;> cases second <;> simp [Checked.both]

end Checked

/-- A part of an object that is there under a name and breaks a rule. -/
def Misread (members : Members) (names : List String) (read : Value → Except Rule α)
    (name : String) (rule : Rule) : Prop :=
  ∃ value, findMember members names = some (name, value) ∧ read value = .error rule

section OptionalField

variable {names : List String} {default : α} {read : Value → Except Rule α}

theorem not_misread_of_eq_none {name : String} {rule : Rule}
    (h : findMember members names = none) : ¬ Misread members names read name rule := by
  rintro ⟨value, hfound, -⟩
  rw [h] at hfound
  cases hfound

theorem misread_iff_of_eq_some {name other : String} {value : Value} {rule : Rule}
    (h : findMember members names = some (name, value)) :
    Misread members names read other rule ↔ name = other ∧ read value = .error rule := by
  constructor
  · rintro ⟨value', hfound, hread⟩
    obtain ⟨rfl, rfl⟩ : name = other ∧ value = value' := by simpa [h] using hfound
    exact ⟨rfl, hread⟩
  · rintro ⟨rfl, hread⟩
    exact ⟨value, h, hread⟩

theorem decided_optionalField :
    (optionalField members names default (.ofExcept ∘ read)).Decided := by
  rw [optionalField]
  split
  · exact Checked.decided_ofExcept.below
  · exact .inl ⟨default, rfl⟩

theorem refused_optionalField_iff {v : Violation} :
    (optionalField members names default (.ofExcept ∘ read)).Refused v ↔
      ∃ name rule, Misread members names read name rule ∧ v = ⟨[.name name], rule⟩ := by
  rcases findMember_cases members names with ⟨hnone, -⟩ | ⟨name, -, value, hfound, -⟩
  · simp [optionalField, hnone, Checked.Refused, not_misread_of_eq_none hnone]
  · simp [optionalField, hfound, Checked.refused_below_iff, Checked.refused_ofExcept_iff,
      misread_iff_of_eq_some hfound]

/-- A part can be read if it breaks no rule. -/
theorem exists_optionalField_eq_valid_iff :
    (∃ a, optionalField members names default (.ofExcept ∘ read) = .valid a) ↔
      ∀ name rule, ¬ Misread members names read name rule := by
  rcases findMember_cases members names with ⟨hnone, -⟩ | ⟨name, -, value, hfound, -⟩
  · simp [optionalField, hnone, not_misread_of_eq_none hnone]
  · cases hread : read value <;>
      simp [optionalField, hfound, hread, misread_iff_of_eq_some hfound]

end OptionalField

end CoffeeHost.Validation
