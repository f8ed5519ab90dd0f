import CoffeeHost.Json.Printer
/-!
# Values of scripts

What a script computes with: JSON values with one kind of number, the undefined value, and error
objects. Only the operations that the helper script performs on values are given.

## Main definitions

* `Script.Value` — the values; `Script.Value.ofJson` and `Script.Value.toJson?`.
* `Script.readDecimal` — the number that a script reads from a decimal.
* `Script.Value.isTruthy`, `Script.Value.property`, `Script.Value.display?`
-/

namespace CoffeeHost.Script

/-- A value of a script. -/
inductive Value
  | undefined
  | null
  | boolean (b : Bool)
  | number (x : Binary64)
  | text (s : String)
  | array (items : List Value)
  | object (members : List (String × Value))
  /-- An error object with its message and the properties that were set on it. -/
  | error (message : String) (members : List (String × Value))
  deriving Inhabited, Repr

/-- The number of a key that is an array index: a numeral without needless zeros, below the
greatest length of an array. -/
def arrayIndex? (key : String) : Option Nat := do
  let n ← key.toNat?
  guard (n.repr = key ∧ n < 0xFFFFFFFF)
  return n

/-- The members of an object in the order of scripts: array indices first, in increasing order,
then all other keys as they come. -/
def orderMembers {α : Type} (members : List (String × α)) : List (String × α) :=
  let (indices, others) := members.partition fun m => (arrayIndex? m.1).isSome
  indices.mergeSort (fun a b => (arrayIndex? a.1).getD 0 ≤ (arrayIndex? b.1).getD 0) ++ others

/-- How many digits of a numeral a script looks at; further ones count as zeros. -/
def numeralDigits : Nat := 20

/-- The number that a script reads from a decimal with a sign. Of two equally near numbers it takes
the one further from zero. -/
def readDecimal (negative : Bool) (d : Decimal) : Binary64 :=
  let excess := Decimal.digitCount d.coefficient - numeralDigits
  Binary64.ofDecimal .away negative (d.coefficient / Nat.pow 10 excess) (d.exponent + excess)

/-- The number that a script reads from the shortest decimal of a number. -/
def rereadNumber : Binary64 → Binary64
  | .finite negative significand exponent =>
    if significand = 0 then .zero negative
    else readDecimal negative (.shortest .exact significand exponent)
  | x => x

namespace Value

mutual

/-- A JSON value in a script, which reads it from its text. All numbers become floating-point
numbers. -/
def ofJson : Json.Value → Value
  | .null => null
  | .boolean b => boolean b
  | .integer i => number (readDecimal (i < 0) ⟨i.natAbs, 0⟩)
  | .number x => number (rereadNumber x)
  | .text s => text s
  | .array items => array (ofJsonItems items)
  | .object members => object (orderMembers (ofJsonMembers members))

/-- The items of a JSON array in a script. -/
def ofJsonItems : List Json.Value → List Value
  | [] => []
  | item :: rest => ofJson item :: ofJsonItems rest

/-- The members of a JSON object in a script. -/
def ofJsonMembers : List (String × Json.Value) → List (String × Value)
  | [] => []
  | (key, value) :: rest => (key, ofJson value) :: ofJsonMembers rest

end

mutual

/-- The JSON value that stands for a value, unless it is undefined. -/
def toJson? : Value → Option Json.Value
  | undefined => none
  | null => some .null
  | boolean b => some (.boolean b)
  | number (.finite negative significand exponent) =>
    some (.number (.finite negative significand exponent))
  | number _ => some .null
  | text s => some (.text s)
  | array items => some (.array (toJsonItems items))
  | object members => some (.object (toJsonMembers members))
  | error _ members => some (.object (toJsonMembers members))

/-- The JSON values of items, in which undefined ones are null. -/
def toJsonItems : List Value → List Json.Value
  | [] => []
  | item :: rest => ((toJson? item).getD .null) :: toJsonItems rest

/-- The JSON values of members, without the undefined ones. -/
def toJsonMembers : List (String × Value) → List (String × Json.Value)
  | [] => []
  | (key, value) :: rest =>
    match toJson? value with
    | none => toJsonMembers rest
    | some json => (key, json) :: toJsonMembers rest

end

/-- Whether a value counts as true. -/
def isTruthy : Value → Bool
  | undefined => false
  | null => false
  | boolean b => b
  | number .nan => false
  | number x => !x.isZero
  | text s => !s.isEmpty
  | _ => true

/-- A property of a value, of those that the helper script reads. Null and the undefined value
have no properties, which is an error. -/
def property (value : Value) (name : String) : Except String Value :=
  match value with
  | undefined => .error s!"TypeError: cannot read property '{name}' of undefined"
  | null => .error s!"TypeError: cannot read property '{name}' of null"
  | object members => .ok ((members.lookup name).getD undefined)
  | error message members =>
    .ok ((members.lookup name).getD (if name = "message" then text message else undefined))
  | _ => .ok undefined

mutual

/-- The text that a value is turned into. There is none for an object, errors included, that replaces
the function which makes its text by a value that is no function. The text of an error is made of
its name and its message. -/
def display? : Value → Option String
  | undefined => some "undefined"
  | null => some "null"
  | boolean b => some (if b then "true" else "false")
  | number x => some (Layout.plain.render x)
  | text s => some s
  | array items => (displayItems? items).map (",".intercalate ·)
  | object members =>
    if members.any (·.1 = "toString") then none else some "[object Object]"
  | error message members =>
    if members.any (·.1 = "toString") then none
    else do
      let name ← displayMember? "name" "Error" "Error" members
      let message ← displayMember? "message" message "" members
      return if name = "" then message else if message = "" then name else s!"{name}: {message}"

/-- The texts of the items of an array. Null and undefined ones show nothing. -/
def displayItems? : List Value → Option (List String)
  | [] => some []
  | null :: rest => (displayItems? rest).map ("" :: ·)
  | undefined :: rest => (displayItems? rest).map ("" :: ·)
  | item :: rest => do return (← display? item) :: (← displayItems? rest)

/-- The text of a property among members: `unset` if it is undefined, and `absent` if there is none
of that name. -/
def displayMember? (name absent unset : String) : List (String × Value) → Option String
  | [] => some absent
  | (key, undefined) :: rest =>
    if key = name then some unset else displayMember? name absent unset rest
  | (key, value) :: rest =>
    if key = name then display? value else displayMember? name absent unset rest

end

end Value

end CoffeeHost.Script
