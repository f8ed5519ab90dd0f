import CoffeeHost.Number.Binary64
/-!
# JSON values

Integers keep every digit and are told apart from floating-point numbers, and the members of an
object keep their order.

## Main definitions

* `Json.Value` — the values.
* `Json.Members` — the members of an object, with look-up and replacement by key.
* `Json.Value.isFalsy` — null, false, zeros and everything empty.
-/

namespace CoffeeHost.Json

/-- A JSON value. The number literals beyond the standard, such as `NaN`, are numbers too. -/
inductive Value
  | null
  | boolean (b : Bool)
  | integer (i : Int)
  | number (x : Binary64)
  | text (s : String)
  | array (items : List Value)
  | object (members : List (String × Value))
  deriving Inhabited, Repr

/-- The members of an object in their order. -/
abbrev Members := List (String × Value)

namespace Members

/-- The value of a key. -/
def get? (members : Members) (key : String) : Option Value :=
  members.lookup key

/-- Gives a key a value. A key that is there already keeps its place. -/
def put : Members → (key : String) → (value : Value) → Members
  | [], key, value => [(key, value)]
  | member :: rest, key, value =>
    if member.1 = key then (key, value) :: rest else member :: put rest key value

/-- Members in which each key occurs once: of several values the last one counts, and it takes
the place of the first. -/
def ofPairs (pairs : List (String × Value)) : Members :=
  pairs.foldl (fun members (key, value) => members.put key value) []

end Members

namespace Value

/-- The values that count as absent: null, false, zeros, and the empty text, array and object. -/
def isFalsy : Value → Bool
  | null => true
  | boolean b => !b
  | integer i => i == 0
  | number x => x.isZero
  | text s => s.isEmpty
  | array items => items.isEmpty
  | object members => members.isEmpty

/-- The name of a value's kind, as reports show it. -/
def kindName : Value → String
  | null => "NoneType"
  | boolean _ => "bool"
  | integer _ => "int"
  | number _ => "float"
  | text _ => "str"
  | array _ => "list"
  | object _ => "dict"

end Value

end CoffeeHost.Json
