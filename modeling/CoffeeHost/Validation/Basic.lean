import CoffeeHost.Json.Value
/-!
# Checking values against a shape

Checking a value gives a result or the violations that were found, all of them and in a fixed
order. A violation names the broken rule and the way to the offending part.

## Main definitions

* `Validation.Rule` — the rules that a value can break, with their wording.
* `Validation.Violation` — a broken rule with its location.
* `Validation.Checked` — a result or violations; combining two keeps the violations of both.
* `Validation.field`, `Validation.optionalField` — the parts of an object.
-/

namespace CoffeeHost.Validation

open Json (Members Value)

/-- A rule that a value can break. -/
inductive Rule
  | required
  | text
  | integer
  | integerText
  | integerSize
  | wholeNumber
  | finiteNumber
  | atLeast (bound : Int)
  | atMost (bound : Int)
  | truthValue
  | truthText
  | alwaysTrue
  | oneOf (choices : List String)
  | object
  | record (name : String)
  | list
  | noExtra
  | frozen
  deriving DecidableEq, Repr

/-- Choices in quotes, with commas between them and "or" before the last one. -/
def choiceText : List String → String
  | [] => ""
  | [choice] => s!"'{choice}'"
  | [choice, last] => s!"'{choice}' or '{last}'"
  | choice :: rest => s!"'{choice}', " ++ choiceText rest

/-- The wording of a broken rule. -/
def Rule.message : Rule → String
  | .required => "Field required"
  | .text => "Input should be a valid string"
  | .integer => "Input should be a valid integer"
  | .integerText => "Input should be a valid integer, unable to parse string as an integer"
  | .integerSize => "Unable to parse input string as an integer, exceeded maximum size"
  | .wholeNumber => "Input should be a valid integer, got a number with a fractional part"
  | .finiteNumber => "Input should be a finite number"
  | .atLeast bound => s!"Input should be greater than or equal to {bound}"
  | .atMost bound => s!"Input should be less than or equal to {bound}"
  | .truthValue => "Input should be a valid boolean"
  | .truthText => "Input should be a valid boolean, unable to interpret input"
  | .alwaysTrue => "Input should be True"
  | .oneOf choices => s!"Input should be {choiceText choices}"
  | .object => "Input should be an object"
  | .record name => s!"Input should be a valid dictionary or instance of {name}"
  | .list => "Input should be a valid array"
  | .noExtra => "Extra inputs are not permitted"
  | .frozen => "Instance is frozen"

/-- A step on the way to a part of a value. -/
inductive Key
  | name (name : String)
  | index (index : Nat)
  deriving DecidableEq, Repr

/-- The text of a step. -/
def Key.text : Key → String
  | .name s => s
  | .index i => i.repr

/-- A broken rule and the way to the part that breaks it. -/
structure Violation where
  location : List Key
  rule : Rule
  deriving DecidableEq, Repr

/-- The wording of a violation. -/
def Violation.message (v : Violation) : String := v.rule.message

/-- The result of a check, or all violations. -/
inductive Checked (α : Type)
  | valid (a : α)
  | invalid (violations : List Violation)
  deriving Repr

namespace Checked

variable {α β γ : Type}

/-- A check that fails at the value itself. -/
def broken (rule : Rule) : Checked α := .invalid [⟨[], rule⟩]

/-- The result of a single rule. -/
def ofExcept : Except Rule α → Checked α
  | .ok a => .valid a
  | .error rule => broken rule

/-- Puts a step in front of all locations. -/
def below (key : Key) : Checked α → Checked α
  | .valid a => .valid a
  | .invalid vs => .invalid (vs.map fun v => { v with location := key :: v.location })

/-- Applies a function to the result. -/
def map (f : α → β) : Checked α → Checked β
  | .valid a => .valid (f a)
  | .invalid vs => .invalid vs

/-- Combines two results, keeping the violations of both in order. -/
def both (f : α → β → γ) : Checked α → Checked β → Checked γ
  | .valid a, .valid b => .valid (f a b)
  | .valid _, .invalid ws => .invalid ws
  | .invalid vs, .valid _ => .invalid vs
  | .invalid vs, .invalid ws => .invalid (vs ++ ws)

/-- The result of a check, or the violations as an error. -/
def toExcept : Checked α → Except (List Violation) α
  | .valid a => .ok a
  | .invalid vs => .error vs

end Checked

/-- The member of an object with the first of some names that it has, under that name. -/
def findMember (members : Members) : (names : List String) → Option (String × Value)
  | [] => none
  | name :: names =>
    match members.get? name with
    | some value => some (name, value)
    | none => findMember members names

/-- A part of an object that may be missing, and then has a default. The part may go by several
names; a violation in it is located at the name that it goes by. -/
def optionalField {α : Type} (members : Members) (names : List String) (default : α)
    (check : Value → Checked α) : Checked α :=
  match findMember members names with
  | some (name, value) => (check value).below (.name name)
  | none => .valid default

/-- A part of an object that must be there. -/
def field {α : Type} (members : Members) (name : String) (check : Value → Checked α) : Checked α :=
  match members.get? name with
  | some value => (check value).below (.name name)
  | none => (Checked.broken .required).below (.name name)

/-- The items of a list, all checked, the first of them with the given index. -/
def checkItems {α : Type} (check : Value → Checked α) : (index : Nat) → List Value →
    Checked (List α)
  | _, [] => .valid []
  | index, item :: items =>
    ((check item).below (.index index)).both (· :: ·) (checkItems check (index + 1) items)

end CoffeeHost.Validation
