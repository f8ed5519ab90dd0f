import Mathlib
import CoffeeHost.Proofs.IntegerTexts
import CoffeeHost.Proofs.NumberTexts
import CoffeeHost.Proofs.Rounding
/-!
# Places given by any value

A place is looked up in two components of a value: two items of a list, or two characters of a
text. A component that does not stand for an integer, or is missing, gives no place, and then there
is the empty fragment. The exceptions are infinite components, and objects, whose components would
be looked up by keys: these have no answer at all. The column is looked at only after a line, so an
infinite column behind anything else does no harm.

## Main definitions

* `Source.Denotes` — the integer that a value stands for.
* `Source.ComponentAt` — the components of a value.
* `Source.PlacedAt` — the values that stand for a place.
* `Source.Unplaceable` — the values without an answer.

## Main results

* `Source.coordinate_eq_some_iff`, `Source.coordinate_eq_error_iff` — what is read of a component.
* `Source.placeOf_eq_some_iff`, `Source.placeOf_eq_error_iff` — what is read of a value.
* `Source.fragment_is_refused_iff` — when there is a fragment, and which.
-/

namespace CoffeeHost

/-- A number loses its fraction, so it is rounded towards zero. -/
theorem Binary64.truncate?_finite (negative : Bool) (significand : Nat) (exponent : Int) :
    (finite negative significand exponent).truncate? =
      some (if negative then ⌈value negative significand exponent⌉
        else ⌊value negative significand exponent⌋) := by
  have hratio := scaleRatio_div significand 1 (-exponent)
  rw [zpow_neg, Nat.cast_one, div_one, div_inv_eq_mul] at hratio
  rw [truncate?, value, ← hratio]
  cases negative with
  | false => simp [signed, Rat.floor_natCast_div_natCast]
  | true => simp [signed, Rat.floor_natCast_div_natCast, Int.ceil_neg]

namespace Source

open Json (Value)

variable {value place : Value} {i : Int} {index : Nat} {refusal : Refusal}

/-! ### Integers that values stand for -/

/-- The integers that values stand for: truth values count as one and zero, numbers are rounded
towards zero, and texts are read. -/
inductive Denotes : Value → Int → Prop
  | integer (i : Int) : Denotes (.integer i) i
  | boolean (b : Bool) : Denotes (.boolean b) (if b then 1 else 0)
  | number (negative : Bool) (significand : Nat) (exponent : Int) :
      Denotes (.number (.finite negative significand exponent))
        (if negative then ⌈Binary64.value negative significand exponent⌉
          else ⌊Binary64.value negative significand exponent⌋)
  | text {text : String} {i : Int} (h : IntegerText text i) : Denotes (.text text) i

theorem coordinate_eq_some_iff : coordinate value = .ok (some i) ↔ Denotes value i := by
  constructor
  · intro h
    cases value with
    | boolean b =>
      obtain rfl := Option.some.inj (Except.ok.inj h)
      exact .boolean b
    | integer j =>
      obtain rfl := Option.some.inj (Except.ok.inj h)
      exact .integer j
    | number x =>
      cases x with
      | finite negative significand exponent =>
        have htruncate := Except.ok.inj h
        rw [Binary64.truncate?_finite] at htruncate
        obtain rfl := Option.some.inj htruncate
        exact .number negative significand exponent
      | _ => cases h
    | text s => exact .text (integerText?_eq_some_iff.mp (Except.ok.inj h))
    | _ => cases h
  · intro h
    cases h with
    | integer => rfl
    | boolean => rfl
    | number => exact congrArg Except.ok (Binary64.truncate?_finite ..)
    | text h => exact congrArg Except.ok (integerText?_eq_some_iff.mpr h)

theorem coordinate_eq_error_iff :
    coordinate value = .error refusal ↔
      refusal = .infiniteCoordinate ∧ ∃ negative, value = .number (.infinite negative) := by
  constructor
  · intro h
    cases value with
    | number x =>
      cases x with
      | infinite negative => exact ⟨(Except.error.inj h).symm, negative, rfl⟩
      | _ => cases h
    | _ => cases h
  · rintro ⟨rfl, negative, rfl⟩
    rfl

/-! ### Components -/

/-- The components of a value: the items of a list, and the characters of a text as texts. -/
inductive ComponentAt (index : Nat) : Value → Value → Prop
  | item {items : List Value} {value : Value} (h : items[index]? = some value) :
      ComponentAt index (.array items) value
  | character {text : String} {c : Char} (h : text.toList[index]? = some c) :
      ComponentAt index (.text text) (.text (String.singleton c))

theorem component_eq_some_iff :
    component place index = .ok (some value) ↔ ComponentAt index place value := by
  constructor
  · intro h
    cases place with
    | array items => exact .item (Except.ok.inj h)
    | text text =>
      obtain ⟨c, hc, rfl⟩ := Option.map_eq_some_iff.mp (Except.ok.inj h)
      exact .character hc
    | _ => cases h
  · intro h
    cases h with
    | item h => exact congrArg Except.ok h
    | character h => exact congrArg Except.ok (Option.map_eq_some_iff.mpr ⟨_, h, rfl⟩)

theorem component_eq_error_iff :
    component place index = .error refusal ↔
      refusal = .keyedPlace ∧ ∃ members, place = .object members := by
  constructor
  · intro h
    cases place with
    | object members => exact ⟨(Except.error.inj h).symm, members, rfl⟩
    | _ => cases h
  · rintro ⟨rfl, members, rfl⟩
    rfl

theorem componentCoordinate_eq_some_iff :
    componentCoordinate place index = .ok (some i) ↔
      ∃ value, ComponentAt index place value ∧ Denotes value i := by
  rw [componentCoordinate, bind_eq_ok_iff]
  constructor
  · rintro ⟨_ | value, hcomponent, h⟩
    · cases h
    · exact ⟨value, component_eq_some_iff.mp hcomponent, coordinate_eq_some_iff.mp h⟩
  · rintro ⟨value, hcomponent, h⟩
    exact ⟨some value, component_eq_some_iff.mpr hcomponent, coordinate_eq_some_iff.mpr h⟩

theorem componentCoordinate_eq_error_iff :
    componentCoordinate place index = .error refusal ↔
      (refusal = .keyedPlace ∧ ∃ members, place = .object members) ∨
      refusal = .infiniteCoordinate ∧
        ∃ negative, ComponentAt index place (.number (.infinite negative)) := by
  rw [componentCoordinate, bind_eq_error_iff, component_eq_error_iff]
  refine or_congr_right ⟨?_, ?_⟩
  · rintro ⟨_ | value, hcomponent, h⟩
    · cases h
    · obtain ⟨rfl, negative, rfl⟩ := coordinate_eq_error_iff.mp h
      exact ⟨rfl, negative, component_eq_some_iff.mp hcomponent⟩
  · rintro ⟨rfl, negative, h⟩
    exact ⟨some (.number (.infinite negative)), component_eq_some_iff.mpr h, rfl⟩

/-! ### Places -/

/-- A value stands for a place if its first component stands for the line and its second one for
the column. -/
def PlacedAt (value : Value) (place : Place) : Prop :=
  (∃ first, ComponentAt 0 value first ∧ Denotes first place.line) ∧
    ∃ second, ComponentAt 1 value second ∧ Denotes second place.column

/-- The values that give neither a place nor an empty fragment. -/
inductive Unplaceable : Value → Refusal → Prop
  /-- Components of objects are looked up by keys. -/
  | keyed (members : Json.Members) : Unplaceable (.object members) .keyedPlace
  /-- The line is infinite. -/
  | infiniteLine {value : Value} {negative : Bool}
      (h : ComponentAt 0 value (.number (.infinite negative))) :
      Unplaceable value .infiniteCoordinate
  /-- There is a line, and the column is infinite. -/
  | infiniteColumn {value first : Value} {line : Int} {negative : Bool}
      (hfirst : ComponentAt 0 value first) (hline : Denotes first line)
      (h : ComponentAt 1 value (.number (.infinite negative))) :
      Unplaceable value .infiniteCoordinate

theorem placeOf_eq_some_iff {place : Place} :
    placeOf value = .ok (some place) ↔ PlacedAt value place := by
  rw [placeOf, bind_eq_ok_iff, PlacedAt, ← componentCoordinate_eq_some_iff,
    ← componentCoordinate_eq_some_iff]
  constructor
  · rintro ⟨_ | line, hline, h⟩
    · cases h
    · obtain ⟨_ | column, hcolumn, hplace⟩ := bind_eq_ok_iff.mp h
      · cases hplace
      · cases hplace
        exact ⟨hline, hcolumn⟩
  · rintro ⟨hline, hcolumn⟩
    exact ⟨_, hline, bind_eq_ok_iff.mpr ⟨_, hcolumn, rfl⟩⟩

theorem placeOf_eq_error_iff : placeOf value = .error refusal ↔ Unplaceable value refusal := by
  rw [placeOf, bind_eq_error_iff, componentCoordinate_eq_error_iff]
  constructor
  · rintro ((⟨rfl, members, rfl⟩ | ⟨rfl, negative, h⟩) | ⟨_ | line, hline, h⟩)
    · exact .keyed members
    · exact .infiniteLine h
    · cases h
    · obtain ⟨first, hfirst, hdenotes⟩ := componentCoordinate_eq_some_iff.mp hline
      rcases bind_eq_error_iff.mp h with hcolumn | ⟨_, _, h⟩
      · rcases componentCoordinate_eq_error_iff.mp hcolumn with ⟨-, members, rfl⟩ | ⟨rfl, _, h⟩
        -- An object has no first component, so it is refused before the column is looked at.
        · cases hfirst
        · exact .infiniteColumn hfirst hdenotes h
      · cases h
  · intro h
    cases h with
    | keyed members => exact .inl (.inl ⟨rfl, members, rfl⟩)
    | infiniteLine h => exact .inl (.inr ⟨rfl, _, h⟩)
    | infiniteColumn hfirst hline h =>
      have hcolumn := componentCoordinate_eq_error_iff.mpr (.inr ⟨rfl, _, h⟩)
      exact .inr ⟨_, componentCoordinate_eq_some_iff.mpr ⟨_, hfirst, hline⟩,
        bind_eq_error_iff.mpr (.inl hcolumn)⟩

/-! ### Fragments -/

theorem linesOf_optional (source? : Option String) :
    linesOf (source?.elim .null .text) = .ok (source?.elim [] Text.lines) := by
  cases source? <;> rfl

theorem fragmentAt_of_lines {source : Value} {lines : List String}
    (h : linesOf source = .ok lines) :
    fragmentAt source value =
      (placeOf value).map fun place? => place?.elim "" (fragmentOfLines lines) := by
  rw [fragmentAt, h]
  rcases placeOf value with refusal | _ | place <;> rfl

/-- The fragment of a text, or of none, at a place that is given by any value. There is none if the
value is an object, if the line is infinite, or if there is a line and the column is infinite. In
all other cases there is one: that of the place if both components are there and stand for
integers, and else the empty one. -/
theorem fragment_is_refused_iff (source? : Option String) (value : Value) :
    (∀ refusal, fragmentAt (source?.elim .null .text) value = .error refusal ↔
      Unplaceable value refusal) ∧
    ((∀ refusal, ¬ Unplaceable value refusal) →
      ∃ text, fragmentAt (source?.elim .null .text) value = .ok text ∧
        ((∀ place, ¬ PlacedAt value place) → text = "") ∧
        ∀ place, PlacedAt value place →
          text = fragmentOfLines (source?.elim [] Text.lines) place) := by
  rw [fragmentAt_of_lines (linesOf_optional source?)]
  simp only [← placeOf_eq_error_iff, ← placeOf_eq_some_iff]
  cases hplace : placeOf value with
  | error refusal => simp [Except.map]
  | ok place? =>
    refine ⟨fun refusal => by simp [Except.map], fun _ => ⟨_, rfl, ?_⟩⟩
    cases place? with
    | none => simp
    | some place => simp

/-- A line that is given by a text and a column that is a truth value stand for a place. Behind a
line that is none, an infinite column is not even looked at. -/
theorem text_and_truth_value_place :
    let placed := Value.array [.text " +0_2", .boolean true]
    let unplaced := Value.array [.text "x", .number (.infinite false)]
    ((∀ refusal, ¬ Unplaceable placed refusal) ∧ PlacedAt placed ⟨2, 1⟩ ∧
      fragmentAt (.text "a\nb") placed = .ok (fragmentOfLines (Text.lines "a\nb") ⟨2, 1⟩)) ∧
    (∀ refusal, ¬ Unplaceable unplaced refusal) ∧ (∀ place, ¬ PlacedAt unplaced place) ∧
      fragmentAt (.text "a\nb") unplaced = .ok "" := by
  intro placed unplaced
  have hplace : placeOf placed = .ok (some ⟨2, 1⟩) := by cbv
  have hnone : placeOf unplaced = .ok none := by cbv
  have hplaceable (value : Value) (place? : Option Place) (h : placeOf value = .ok place?)
      (refusal : Refusal) : ¬ Unplaceable value refusal := by
    rw [← placeOf_eq_error_iff, h]
    rintro ⟨⟩
  have hplaced : PlacedAt placed ⟨2, 1⟩ := placeOf_eq_some_iff.mp hplace
  have hunplaced (place : Place) : ¬ PlacedAt unplaced place := by
    rw [← placeOf_eq_some_iff, hnone]
    rintro ⟨⟩
  obtain ⟨text, htext, -, hshown⟩ :=
    (fragment_is_refused_iff (some "a\nb") placed).2 (hplaceable _ _ hplace)
  obtain ⟨text', htext', hempty, -⟩ :=
    (fragment_is_refused_iff (some "a\nb") unplaced).2 (hplaceable _ _ hnone)
  obtain rfl := hshown _ hplaced
  obtain rfl := hempty hunplaced
  exact ⟨⟨hplaceable _ _ hplace, hplaced, htext⟩, hplaceable _ _ hnone, hunplaced, htext'⟩

/-- An infinite line is refused, and so is a line under a key. -/
theorem fragment_can_be_refused :
    (¬ ∀ (source? : Option String) (value : Value),
      ∃ text, fragmentAt (source?.elim .null .text) value = .ok text ∧
        ((∀ place, ¬ PlacedAt value place) → text = "")) ∧
    fragmentAt (.text "x") (.array [.number (.infinite false), .integer 1]) =
      .error .infiniteCoordinate ∧
    fragmentAt (.text "x") (.object [("0", .integer 1)]) = .error .keyedPlace := by
  refine ⟨fun hall => ?_, rfl, rfl⟩
  obtain ⟨text, htext, -⟩ := hall (some "x") (.array [.number (.infinite false), .integer 1])
  cases htext

end Source

end CoffeeHost
