import CoffeeHost.Proofs.DocumentSteps
/-!
# Limits of documents

Most documents that cannot be read have a flaw, which the error locates. Some have none, but go
beyond a limit: they open more containers inside each other than the reader can follow, or they
hold an integer of too many digits.

The limit is come to on the way through the document: all values before the one that is beyond it
have been read, and of what follows nothing matters. So a document is out of bounds
(`Json.Document.OutOfBounds`) if the reading comes to such a value, be it the value of the document
itself or one in its items and members, however deep (`Json.Within`).

## Main definitions

* `Json.Within` — the values that a reading comes to.
* `Json.Exceeds` — the values that are beyond a limit.
* `Json.Document.OutOfBounds` — the documents that cannot be read for a limit.

## Main results

* `Json.valueAt_eq_error_iff` — a reading comes to a limit exactly where it comes to a value
  beyond it.
* `Json.Document.read_eq_longInteger_iff`, `Json.Document.read_eq_tooDeep_iff` — which documents
  are beyond the limits.
-/

namespace CoffeeHost

namespace Json

variable {text rest : List Char} {stop : Stop} {levels : Nat}

/-! ### Limits -/

/-- A stop that no flaw of the text is the reason for. -/
def Stop.IsLimit : Stop → Prop
  | .flaw _ _ => False
  | .longInteger _ => True
  | .tooDeep => True

/-- Where an entry of a container begins: at its first one, or after others and their commas. -/
inductive EntryAt {α : Type} (entry : List Char → Reading (α × List Char)) :
    List Char → List Char → Prop
  | first {text : List Char} : EntryAt entry text text
  | later {text rest after item : List Char} {value : α} (hvalue : entry text = .ok (value, rest))
      (hcomma : skipBlanks rest = ',' :: after) (hitem : EntryAt entry (skipBlanks after) item) :
      EntryAt entry text item

/-- Reading `text` as a value, inside at most `levels` more containers, comes to reading `text'` as
one, inside at most `levels'` more: as this value itself, or in one of its items or members. -/
inductive Within : Nat → List Char → Nat → List Char → Prop
  | here {levels : Nat} {text : List Char} : Within levels text levels text
  | item {levels levels' : Nat} {text item text' : List Char}
      (hitem : EntryAt (valueAt levels) (skipBlanks text) item)
      (hwithin : Within levels item levels' text') : Within (levels + 1) ('[' :: text) levels' text'
  | member {levels levels' : Nat} {text member rest after text' : List Char} {key : String}
      (hmember : EntryAt (readMember (valueAt levels)) (skipBlanks text) ('"' :: member))
      (hkey : readString member = .ok (key, rest)) (hcolon : skipBlanks rest = ':' :: after)
      (hwithin : Within levels (skipBlanks after) levels' text') :
      Within (levels + 1) ('\x7b' :: text) levels' text'

/-- A value that cannot be read, whatever follows: a container where no more may be opened, or an
integer of too many digits. -/
inductive Exceeds : Stop → Nat → List Char → Prop
  | array {rest : List Char} : Exceeds .tooDeep 0 ('[' :: rest)
  | object {rest : List Char} : Exceeds .tooDeep 0 ('\x7b' :: rest)
  | integer {levels : Nat} {text : List Char} {count : Nat} (h : LongInteger text count) :
      Exceeds (.longInteger count) levels text

theorem not_isLimit_of_readString (h : readString text = .error stop) : ¬stop.IsLimit := by
  obtain ⟨flaw, rest, rfl⟩ := readString_flaw h
  exact id

/-- Entries come to a limit where one of them does, all before it having been read. -/
theorem readEntries_eq_error_iff {α : Type} {closing : Char}
    {entry : List Char → Reading (α × List Char)}
    {entries : List Char → Reading (List α × List Char)} (hentry : Consumes entry)
    (hentries : ∀ text, entries text = readEntries closing entry entries text)
    (hclosing : closing ≠ ',') (hstop : stop.IsLimit) :
    entries text = .error stop ↔ ∃ item, EntryAt entry text item ∧ entry item = .error stop := by
  constructor
  · intro h
    -- Entries do not nest, so the induction is on the text: after a comma it is shorter.
    induction hlength : text.length using Nat.strongRecOn generalizing text with
    | ind length ih =>
      rw [hentries, readEntries, bind_eq_error_iff] at h
      rcases h with h | ⟨⟨first, rest⟩, hfirst, h⟩
      · exact ⟨text, .first, h⟩
      · dsimp only at h
        rw [readOn] at h
        have hle := hentry hfirst
        split at h
        · cases h
          exact hstop.elim
        · next c after hcomma =>
          split_ifs at h with _ hc
          · subst hc
            have hlt := length_le_of_skipBlanks hcomma
            have hskip := length_skipBlanks_le after
            obtain ⟨item, hitem, hread⟩ := ih _ (by omega) (map_eq_error_iff.mp h) rfl
            exact ⟨item, .later hfirst hcomma hitem, hread⟩
          · cases h
            exact hstop.elim
  · rintro ⟨item, hitem, hread⟩
    induction hitem with
    | first =>
      rw [hentries, readEntries, hread]
      rfl
    | later hvalue hcomma hitem ih =>
      rw [hentries, readEntries, hvalue]
      exact (readOn_comma hclosing hcomma).trans (map_eq_error_iff.mpr (ih hread))

/-- A member comes to a limit where its value does. -/
theorem readMember_eq_error_iff {reader : List Char → Reading (Value × List Char)}
    (hstop : stop.IsLimit) :
    readMember reader text = .error stop ↔ ∃ member key rest after, text = '"' :: member ∧
      readString member = .ok (key, rest) ∧ skipBlanks rest = ':' :: after ∧
        reader (skipBlanks after) = .error stop := by
  constructor
  · intro h
    rw [readMember.eq_def] at h
    split at h
    · next member =>
      rcases bind_eq_error_iff.mp h with h | ⟨⟨key, rest⟩, hkey, h⟩
      · exact absurd hstop (not_isLimit_of_readString h)
      · dsimp only at h
        split at h
        · next after hcolon =>
          exact ⟨member, key, rest, after, rfl, hkey, hcolon, map_eq_error_iff.mp h⟩
        · cases h
          exact hstop.elim
    · cases h
      exact hstop.elim
  · rintro ⟨member, key, rest, after, rfl, hkey, hcolon, hread⟩
    rw [readMember, hkey]
    simp only [bind, Except.bind, hcolon, hread, Except.map]

/-- A container with entries goes wrong where its entries do. -/
theorem readContainer_eq_error_iff {α : Type} {closing : Char} {make : List α → Value}
    {entries : List Char → Reading (List α × List Char)} :
    readContainer closing make entries text = .error stop ↔
      (skipBlanks text).head? ≠ some closing ∧ entries (skipBlanks text) = .error stop := by
  rw [readContainer]
  split_ifs with h
  · exact iff_of_false (fun h' => by cases h') fun h' => h'.1 h
  · rw [map_eq_error_iff, and_iff_right h]

theorem readScalar_eq_error_iff (hscalar : IsScalar text) (hstop : stop.IsLimit) :
    readScalar text = .error stop ↔ Exceeds stop levels text := by
  constructor
  · intro h
    cases stop with
    | flaw => exact hstop.elim
    | longInteger count => exact .integer (readScalar_eq_longInteger_iff.mp h)
    | tooDeep => exact absurd h readScalar_ne_tooDeep
  · rintro (_ | _ | h)
    · exact absurd rfl (hscalar '[' rfl).2.1
    · exact absurd rfl (hscalar '\x7b' rfl).2.2
    · exact readScalar_eq_longInteger_iff.mpr h

theorem itemsAt_bracket : itemsAt levels (']' :: rest) =
    .error (.flaw .valueExpected (']' :: rest)) := by
  rw [itemsAt_eq, readEntries]
  have hvalue : valueAt levels (']' :: rest) = readScalar (']' :: rest) :=
    readValue_scalar (by rintro _ ⟨⟩; decide)
  rw [hvalue]
  rfl

theorem membersAt_brace : membersAt levels ('\x7d' :: rest) =
    .error (.flaw .keyExpected ('\x7d' :: rest)) := by
  rw [membersAt_eq]
  rfl

theorem valueAt_array_eq_error_iff (hstop : stop.IsLimit) :
    valueAt (levels + 1) ('[' :: rest) = .error stop ↔
      ∃ item, EntryAt (valueAt levels) (skipBlanks rest) item ∧
        valueAt levels item = .error stop := by
  rw [valueAt_array, readContainer_eq_error_iff,
    ← readEntries_eq_error_iff (consumes_valueAt levels) (itemsAt_eq levels) (by decide) hstop]
  -- An empty array has no items, and reading its end as one finds a flaw, not a limit.
  refine and_iff_right_of_imp fun hitems hbracket => ?_
  obtain ⟨after, hafter⟩ := List.head?_eq_some_iff.mp hbracket
  rw [hafter, itemsAt_bracket] at hitems
  cases hitems
  exact hstop

theorem valueAt_object_eq_error_iff (hstop : stop.IsLimit) :
    valueAt (levels + 1) ('\x7b' :: rest) = .error stop ↔
      ∃ item, EntryAt (readMember (valueAt levels)) (skipBlanks rest) item ∧
        readMember (valueAt levels) item = .error stop := by
  rw [valueAt_object, readContainer_eq_error_iff,
    ← readEntries_eq_error_iff (consumes_readMember (consumes_valueAt levels))
      (membersAt_eq levels) (by decide) hstop]
  refine and_iff_right_of_imp fun hmembers hbrace => ?_
  obtain ⟨after, hafter⟩ := List.head?_eq_some_iff.mp hbrace
  rw [hafter, membersAt_brace] at hmembers
  cases hmembers
  exact hstop

/-- A reading that comes to a value beyond the limits stops there. -/
theorem Within.valueAt_eq_error {levels' : Nat} {text' : List Char} (hstop : stop.IsLimit)
    (h : Within levels text levels' text') (hread : valueAt levels' text' = .error stop) :
    valueAt levels text = .error stop := by
  induction h with
  | here => exact hread
  | item hitem _ ih => exact (valueAt_array_eq_error_iff hstop).mpr ⟨_, hitem, ih hread⟩
  | member hmember hkey hcolon _ ih =>
    refine (valueAt_object_eq_error_iff hstop).mpr ⟨_, hmember, ?_⟩
    exact (readMember_eq_error_iff hstop).mpr ⟨_, _, _, _, rfl, hkey, hcolon, ih hread⟩

theorem Exceeds.valueAt_eq_error (h : Exceeds stop levels text) :
    valueAt levels text = .error stop := by
  cases h with
  | array => rfl
  | object => rfl
  | integer h =>
    obtain ⟨c, rest, rfl, hne⟩ := h.head
    have hscalar : IsScalar (c :: rest) := by
      rintro _ ⟨⟩
      exact ⟨hne '"' (by decide) rfl, hne '[' (by decide) rfl, hne '\x7b' (by decide) rfl⟩
    exact (readValue_scalar hscalar).trans (readScalar_eq_longInteger_iff.mpr h)

/-- A reading comes to a limit exactly where it comes to a value beyond it. -/
theorem valueAt_eq_error_iff (hstop : stop.IsLimit) : valueAt levels text = .error stop ↔
    ∃ levels' text', Within levels text levels' text' ∧ Exceeds stop levels' text' := by
  refine ⟨fun h => ?_, fun ⟨levels', text', hwithin, hexceeds⟩ =>
    hwithin.valueAt_eq_error hstop hexceeds.valueAt_eq_error⟩
  -- Each container on the way takes one of the levels, so these bound the way.
  induction levels generalizing text with
  | zero =>
    cases beginning 0 text with
    | string => exact absurd hstop (not_isLimit_of_readString (map_eq_error_iff.mp h))
    | deepArray =>
      cases h
      exact ⟨0, _, .here, .array⟩
    | deepObject =>
      cases h
      exact ⟨0, _, .here, .object⟩
    | scalar hscalar =>
      rw [valueAt, readValue_scalar hscalar, readScalar_eq_error_iff hscalar hstop] at h
      exact ⟨0, text, .here, h⟩
  | succ levels ih =>
    cases beginning (levels + 1) text with
    | string => exact absurd hstop (not_isLimit_of_readString (map_eq_error_iff.mp h))
    | array =>
      obtain ⟨item, hitem, hread⟩ := (valueAt_array_eq_error_iff hstop).mp h
      obtain ⟨levels', text', hwithin, hexceeds⟩ := ih hread
      exact ⟨levels', text', .item hitem hwithin, hexceeds⟩
    | object =>
      obtain ⟨item, hitem, hread⟩ := (valueAt_object_eq_error_iff hstop).mp h
      obtain ⟨member, key, rest, after, rfl, hkey, hcolon, hread⟩ :=
        (readMember_eq_error_iff hstop).mp hread
      obtain ⟨levels', text', hwithin, hexceeds⟩ := ih hread
      exact ⟨levels', text', .member hitem hkey hcolon hwithin, hexceeds⟩
    | scalar hscalar =>
      rw [valueAt, readValue_scalar hscalar, readScalar_eq_error_iff hscalar hstop] at h
      exact ⟨levels + 1, text, .here, h⟩

namespace Document

/-- A document that cannot be read for a limit: the value of its text comes to one that is beyond
it. -/
def OutOfBounds (text : List Char) (stop : Stop) : Prop :=
  text.head? ≠ some '\ufeff' ∧ ∃ levels rest,
    Within depthLimit (skipBlanks text) levels rest ∧ Exceeds stop levels rest

theorem readFront_eq (text : List Char) : readFront text = valueAt depthLimit text :=
  readValue_eq (by omega)

theorem readAll_eq_error_iff (hstop : stop.IsLimit) :
    readAll text = .error stop ↔ OutOfBounds text stop := by
  rw [OutOfBounds, ← valueAt_eq_error_iff hstop, ← readFront_eq, readAll]
  by_cases hmark : text.head? = some '\ufeff'
  · rw [if_pos hmark]
    refine iff_of_false (fun h => ?_) fun h => h.1 hmark
    cases h
    exact hstop
  · rw [if_neg hmark, and_iff_right hmark]
    change readFront (skipBlanks text) >>= _ = _ ↔ _
    rw [bind_eq_error_iff]
    refine or_iff_left ?_
    rintro ⟨⟨value, rest⟩, -, h⟩
    dsimp only at h
    split at h
    · cases h
    · cases h
      exact hstop

theorem locate_injective {stop' : Stop} (hstop : stop.IsLimit)
    (h : locate text stop' = locate text stop) : stop' = stop := by
  cases stop with
  | flaw => exact hstop.elim
  | longInteger count =>
    cases stop' <;> cases h
    rfl
  | tooDeep =>
    cases stop' <;> cases h
    rfl

/-- Which documents are beyond the limits. -/
theorem read_eq_locate_iff (hstop : stop.IsLimit) :
    read text = .error (locate text stop) ↔ OutOfBounds text stop := by
  rw [read, mapError_eq_error_iff, ← readAll_eq_error_iff hstop]
  constructor
  · rintro ⟨stop', hread, hlocate⟩
    rwa [locate_injective hstop hlocate] at hread
  · exact fun h => ⟨stop, h, rfl⟩

theorem read_eq_longInteger_iff {count : Nat} :
    read text = .error (.longInteger count) ↔ OutOfBounds text (.longInteger count) := by
  have hlimit : (Stop.longInteger count).IsLimit := trivial
  exact read_eq_locate_iff hlimit

theorem read_eq_tooDeep_iff : read text = .error .tooDeep ↔ OutOfBounds text .tooDeep := by
  have hlimit : Stop.tooDeep.IsLimit := trivial
  exact read_eq_locate_iff hlimit

theorem within_brackets (levels : Nat) (text : List Char) :
    Within levels (List.replicate levels '[' ++ '[' :: text) 0 ('[' :: text) := by
  induction levels with
  | zero => exact .here
  | succ levels ih =>
    rw [List.replicate_succ, List.cons_append]
    have hblanks : skipBlanks (List.replicate levels '[' ++ '[' :: text) =
        List.replicate levels '[' ++ '[' :: text := by
      cases levels <;> rfl
    exact .item (by rw [hblanks]; exact .first) ih

/-- Too many brackets in a row are too many, whatever follows. -/
theorem outOfBounds_brackets (text : List Char) :
    OutOfBounds (List.replicate (depthLimit + 1) '[' ++ text) .tooDeep := by
  refine ⟨by simp [List.replicate_succ], 0, '[' :: text, ?_, .array⟩
  rw [List.replicate_succ', List.append_assoc]
  exact within_brackets depthLimit text

/-- An integer with too many digits is out of bounds right away. -/
theorem outOfBounds_integer {count : Nat} (h : LongInteger text count) :
    OutOfBounds text (.longInteger count) := by
  obtain ⟨c, rest, rfl, hne⟩ := h.head
  have hblanks : skipBlanks (c :: rest) = c :: rest := by
    simp [skipBlanks, isBlank, hne ' ' (by decide) rfl, hne '\t' (by decide) rfl,
      hne '\n' (by decide) rfl, hne '\r' (by decide) rfl]
  have hmark : c ≠ '\ufeff' := hne '\ufeff' (by decide) rfl
  refine ⟨by simpa using hmark, depthLimit, c :: rest, ?_, .integer h⟩
  rw [hblanks]
  exact .here

end Document

end Json

end CoffeeHost
