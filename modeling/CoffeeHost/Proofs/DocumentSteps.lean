import CoffeeHost.Proofs.DocumentScalars
/-!
# Steps of the reader of documents

A value begins a string, a container or something without parts. Items and members are read alike:
an entry, then a comma and more entries, or the end of the container. So each step of the reader
is an equation in which the readers for the parts are parameters (`Json.readEntries`,
`Json.readContainer`, `Json.readMember`).

As what is left of a text is never longer, the length of the text bounds the number of steps. With
that much fuel the equations hold without any (`Json.valueAt`, `Json.itemsAt`, `Json.membersAt`).

## Main definitions

* `Json.Beginning` — how a value can begin.
* `Json.readContainer`, `Json.readEntries`, `Json.readMember` — the steps.
* `Json.valueAt` — one value at the beginning of a text.

## Main results

* `Json.consumes` — what is left of a text is never longer.
* `Json.settled` — more fuel than a text can need makes no difference.
* `Json.valueAt_array`, `Json.valueAt_object`, `Json.itemsAt_eq`, `Json.membersAt_eq` — the
  equations without fuel.
-/

namespace CoffeeHost

namespace Json

variable {text rest : List Char} {value : Value} {levels fuel : Nat}

/-! ### Steps of the reader -/

/-- A text that begins neither a string nor a container. -/
def IsScalar (text : List Char) : Prop := ∀ c ∈ text.head?, c ≠ '"' ∧ c ≠ '[' ∧ c ≠ '\x7b'

theorem readValue_scalar (h : IsScalar text) :
    readValue (fuel + 1) levels text = readScalar text := by
  cases text with
  | nil => rfl
  | cons c rest =>
    obtain ⟨hquote, hbracket, hbrace⟩ := h c rfl
    rw [readScalar]
    cases hword : readWord? (c :: rest) <;> simp [readValue, hword, hquote, hbracket, hbrace]

/-- How a value can begin, inside at most some number of containers. -/
inductive Beginning : Nat → List Char → Prop
  | string {levels : Nat} {rest : List Char} : Beginning levels ('"' :: rest)
  | deepArray {rest : List Char} : Beginning 0 ('[' :: rest)
  | deepObject {rest : List Char} : Beginning 0 ('\x7b' :: rest)
  | array {levels : Nat} {rest : List Char} : Beginning (levels + 1) ('[' :: rest)
  | object {levels : Nat} {rest : List Char} : Beginning (levels + 1) ('\x7b' :: rest)
  | scalar {levels : Nat} {text : List Char} (h : IsScalar text) : Beginning levels text

theorem beginning (levels : Nat) (text : List Char) : Beginning levels text := by
  cases text with
  | nil => exact .scalar nofun
  | cons c rest =>
    by_cases hquote : c = '"'
    · subst hquote
      exact .string
    by_cases hbracket : c = '['
    · subst hbracket
      cases levels with
      | zero => exact .deepArray
      | succ levels => exact .array
    by_cases hbrace : c = '\x7b'
    · subst hbrace
      cases levels with
      | zero => exact .deepObject
      | succ levels => exact .object
    refine .scalar ?_
    rintro _ ⟨⟩
    exact ⟨hquote, hbracket, hbrace⟩

/-- A container after its opening bracket or brace, by a reader for its entries. -/
def readContainer {α : Type} (closing : Char) (make : List α → Value)
    (entries : List Char → Reading (List α × List Char)) (text : List Char) :
    Reading (Value × List Char) :=
  if (skipBlanks text).head? = some closing then .ok (make [], (skipBlanks text).tail)
  else (entries (skipBlanks text)).map fun (es, r) => (make es, r)

theorem readValue_array : readValue (fuel + 1) (levels + 1) ('[' :: rest) =
    readContainer ']' .array (readItems fuel levels) rest := by
  rw [readValue, readContainer]
  cases skipBlanks rest with
  | nil => rfl
  | cons c after =>
    by_cases hc : c = ']'
    · subst hc
      rfl
    · simp [hc]

theorem readValue_object : readValue (fuel + 1) (levels + 1) ('\x7b' :: rest) =
    readContainer '\x7d' (fun members => .object (Members.ofPairs members))
      (readMembers fuel levels) rest := by
  rw [readValue, readContainer]
  cases skipBlanks rest with
  | nil => rfl
  | cons c after =>
    by_cases hc : c = '\x7d'
    · subst hc
      rfl
    · simp [hc]

/-- A member of an object, by a reader for its value. -/
def readMember (value : List Char → Reading (Value × List Char)) :
    List Char → Reading ((String × Value) × List Char)
  | '"' :: text => do
    let (key, rest) ← readString text
    match skipBlanks rest with
    | ':' :: after => (value (skipBlanks after)).map fun (v, r) => ((key, v), r)
    | rest => .error (.flaw .colonExpected rest)
  | text => .error (.flaw .keyExpected text)

/-- What follows an entry of a container, by a reader for the entries after it. -/
def readOn {α : Type} (closing : Char) (more : List Char → Reading (List α × List Char)) (entry : α)
    (rest : List Char) : Reading (List α × List Char) :=
  match skipBlanks rest with
  | [] => .error (.flaw .commaExpected [])
  | c :: after =>
    if c = closing then .ok ([entry], after)
    else if c = ',' then (more (skipBlanks after)).map fun (entries, r) => (entry :: entries, r)
    else .error (.flaw .commaExpected (c :: after))

/-- The entries of a container, by readers for the first one and for those after it. -/
def readEntries {α : Type} (closing : Char) (entry : List Char → Reading (α × List Char))
    (more : List Char → Reading (List α × List Char)) (text : List Char) :
    Reading (List α × List Char) := do
  let (first, rest) ← entry text
  readOn closing more first rest

/-- What the reader does after an item. -/
theorem readOn_bracket {item : Value} {more : List Char → Reading (List Value × List Char)} :
    readOn ']' more item rest = (match skipBlanks rest with
    | ']' :: after => return ([item], after)
    | ',' :: after => do
      let (items, rest) ← more (skipBlanks after)
      return (item :: items, rest)
    | rest => .error (.flaw .commaExpected rest)) := by
  rw [readOn]
  cases skipBlanks rest with
  | nil => rfl
  | cons c after =>
    by_cases hclosing : c = ']'
    · subst hclosing
      rfl
    by_cases hcomma : c = ','
    · subst hcomma
      cases more (skipBlanks after) <;> rfl
    simp [hclosing, hcomma]

/-- What it does after a member. -/
theorem readOn_brace {member : String × Value}
    {more : List Char → Reading (List (String × Value) × List Char)} :
    readOn '\x7d' more member rest = (match skipBlanks rest with
    | '\x7d' :: after => return ([member], after)
    | ',' :: after => do
      let (members, rest) ← more (skipBlanks after)
      return (member :: members, rest)
    | rest => .error (.flaw .commaExpected rest)) := by
  rw [readOn]
  cases skipBlanks rest with
  | nil => rfl
  | cons c after =>
    by_cases hclosing : c = '\x7d'
    · subst hclosing
      rfl
    by_cases hcomma : c = ','
    · subst hcomma
      cases more (skipBlanks after) <;> rfl
    simp [hclosing, hcomma]

theorem readOn_comma {α : Type} {closing : Char} {entry : α}
    {more : List Char → Reading (List α × List Char)} {after : List Char} (hclosing : closing ≠ ',')
    (hcomma : skipBlanks rest = ',' :: after) : readOn closing more entry rest =
      (more (skipBlanks after)).map fun (entries, r) => (entry :: entries, r) := by
  rw [readOn, hcomma]
  dsimp only
  rw [if_neg hclosing.symm, if_pos rfl]

theorem readItems_succ : readItems (fuel + 1) levels text =
    readEntries ']' (readValue fuel levels) (readItems fuel levels) text := by
  rw [readItems, readEntries]
  exact bind_congr fun _ => readOn_bracket.symm

theorem readMembers_succ : readMembers (fuel + 1) levels text =
    readEntries '\x7d' (readMember (readValue fuel levels)) (readMembers fuel levels) text := by
  rw [readMembers.eq_def, readEntries]
  dsimp only
  split
  · next text =>
    rw [readMember, bind_assoc]
    refine bind_congr fun result => ?_
    dsimp only
    generalize skipBlanks result.2 = next
    cases next with
    | nil => rfl
    | cons c after =>
      by_cases hcolon : c = ':'
      · subst hcolon
        -- The reader binds the value right here, the member hands it on first.
        trans readValue fuel levels (skipBlanks after) >>= fun value =>
          readOn '\x7d' (readMembers fuel levels) (result.1, value.1) value.2
        · exact bind_congr fun _ => readOn_brace.symm
        · change _ = Except.map _ (readValue fuel levels (skipBlanks after)) >>= _
          cases readValue fuel levels (skipBlanks after) <;> rfl
      · simp [hcolon, bind, Except.bind]
  · next hquote =>
    rw [readMember]
    · rfl
    · exact hquote

/-! ### Enough fuel -/

/-- A reader that never puts anything in front of what it leaves. -/
def Consumes {α : Type} (reader : List Char → Reading (α × List Char)) : Prop :=
  ∀ ⦃text result rest⦄, reader text = .ok (result, rest) → rest.length ≤ text.length

section Entries

variable {α : Type} {closing : Char} {entry entry' : List Char → Reading (α × List Char)}
  {more more' : List Char → Reading (List α × List Char)} {make : List α → Value} {first : α}
  {entries : List α}

theorem length_readOn_le (hmore : Consumes more)
    (h : readOn closing more first text = .ok (entries, rest)) : rest.length ≤ text.length := by
  rw [readOn] at h
  split at h
  · cases h
  · next c after hskip =>
    have hlt := length_le_of_skipBlanks hskip
    split_ifs at h
    · cases h
      exact hlt.le
    · obtain ⟨⟨others, r⟩, hothers, ⟨⟩⟩ := map_eq_ok_iff.mp h
      have hle := hmore hothers
      have hskip := length_skipBlanks_le after
      omega

theorem consumes_readEntries (hentry : Consumes entry) (hmore : Consumes more) :
    Consumes (readEntries closing entry more) := by
  intro text entries rest h
  obtain ⟨⟨first, others⟩, hfirst, h⟩ := bind_eq_ok_iff.mp h
  exact (length_readOn_le hmore h).trans (hentry hfirst)

theorem readOn_congr (hmore : ∀ shorter : List Char, shorter.length < text.length →
    more shorter = more' shorter) :
    readOn closing more first text = readOn closing more' first text := by
  rw [readOn, readOn]
  cases hskip : skipBlanks text with
  | nil => rfl
  | cons c after =>
    have hlt := length_le_of_skipBlanks hskip
    have hle := length_skipBlanks_le after
    dsimp only
    rw [hmore (skipBlanks after) (by omega)]

theorem readEntries_congr (hentry : Consumes entry) (hfirst : entry text = entry' text)
    (hmore : ∀ shorter : List Char, shorter.length < text.length → more shorter = more' shorter) :
    readEntries closing entry more text = readEntries closing entry' more' text := by
  rw [readEntries, readEntries, ← hfirst]
  cases hentry' : entry text with
  | error stop => rfl
  | ok result =>
    exact readOn_congr fun shorter hlt => hmore shorter (hlt.trans_le (hentry hentry'))

theorem consumes_readContainer (h : Consumes more) :
    Consumes (readContainer closing make more) := by
  intro text value rest hvalue
  have hle := length_skipBlanks_le text
  rw [readContainer] at hvalue
  split_ifs at hvalue
  · cases hvalue
    rw [List.length_tail]
    omega
  · obtain ⟨⟨es, r⟩, hentries, ⟨⟩⟩ := map_eq_ok_iff.mp hvalue
    exact (h hentries).trans hle

theorem readContainer_congr (h : ∀ shorter : List Char, shorter.length ≤ text.length →
    more shorter = more' shorter) :
    readContainer closing make more text = readContainer closing make more' text := by
  rw [readContainer, readContainer, h _ (length_skipBlanks_le text)]

end Entries

theorem consumes_readMember {reader : List Char → Reading (Value × List Char)}
    (h : Consumes reader) : Consumes (readMember reader) := by
  intro text member rest hmember
  rw [readMember.eq_def] at hmember
  split at hmember
  · obtain ⟨⟨key, after⟩, hkey, hmember⟩ := bind_eq_ok_iff.mp hmember
    dsimp only at hmember
    split at hmember
    · next hcolon =>
      obtain ⟨⟨value, r⟩, hvalue, ⟨⟩⟩ := map_eq_ok_iff.mp hmember
      have hkeyle := length_readString_le hkey
      have hlt := length_le_of_skipBlanks hcolon
      have hle := length_skipBlanks_le _ |>.trans' (h hvalue)
      simp only [List.length_cons]
      omega
    · cases hmember
  · cases hmember

/-- Whatever the fuel, what is left of a text is not longer than it. -/
theorem consumes (fuel : Nat) : (∀ levels, Consumes (readValue fuel levels)) ∧
    (∀ levels, Consumes (readItems fuel levels)) ∧
    ∀ levels, Consumes (readMembers fuel levels) := by
  induction fuel with
  | zero =>
    refine ⟨?_, ?_, ?_⟩ <;> intro levels text result rest h
    · cases h
    · cases h
    · cases h
  | succ fuel ih =>
    obtain ⟨hvalue, hitems, hmembers⟩ := ih
    refine ⟨fun levels => ?_, fun levels text items rest h => ?_,
      fun levels text members rest h => ?_⟩
    · intro text value rest h
      cases beginning levels text with
      | string =>
        obtain ⟨⟨key, r⟩, hkey, ⟨⟩⟩ := map_eq_ok_iff.mp h
        exact Nat.le_succ_of_le (length_readString_le hkey)
      | deepArray => cases h
      | deepObject => cases h
      | array =>
        rw [readValue_array] at h
        exact Nat.le_succ_of_le (consumes_readContainer (hitems _) h)
      | object =>
        rw [readValue_object] at h
        exact Nat.le_succ_of_le (consumes_readContainer (hmembers _) h)
      | scalar hscalar =>
        rw [readValue_scalar hscalar] at h
        exact length_readScalar_le h
    · rw [readItems_succ] at h
      exact consumes_readEntries (hvalue levels) (hitems levels) h
    · rw [readMembers_succ] at h
      exact consumes_readEntries (consumes_readMember (hvalue levels)) (hmembers levels) h

theorem readMember_congr {reader reader' : List Char → Reading (Value × List Char)}
    (h : ∀ shorter : List Char, shorter.length < text.length → reader shorter = reader' shorter) :
    readMember reader text = readMember reader' text := by
  rw [readMember.eq_def, readMember.eq_def]
  split
  · next text =>
    cases hkey : readString text with
    | error stop => rfl
    | ok result =>
      obtain ⟨key, rest⟩ := result
      simp only [bind, Except.bind]
      split
      · next after hcolon =>
        have hle := length_readString_le hkey
        have hlt := length_le_of_skipBlanks hcolon
        have hskip := length_skipBlanks_le after
        rw [h (skipBlanks after) (by rw [List.length_cons]; omega)]
      · rfl
  · rfl

/-- More fuel than a text can need makes no difference. -/
theorem settled (fuel fuel' : Nat) :
    (∀ levels text, 2 * text.length + 1 ≤ fuel → 2 * text.length + 1 ≤ fuel' →
      readValue fuel levels text = readValue fuel' levels text) ∧
    (∀ levels text, 2 * text.length + 2 ≤ fuel → 2 * text.length + 2 ≤ fuel' →
      readItems fuel levels text = readItems fuel' levels text) ∧
    ∀ levels text, 2 * text.length + 2 ≤ fuel → 2 * text.length + 2 ≤ fuel' →
      readMembers fuel levels text = readMembers fuel' levels text := by
  -- A step takes one unit. A container takes a character away before its entries are read, and an
  -- entry one with its comma before the next; between the two the text may stay as it is once, so
  -- entries need one unit more than a value.
  induction fuel generalizing fuel' with
  | zero => refine ⟨?_, ?_, ?_⟩ <;> intro levels text h <;> omega
  | succ fuel ih =>
    cases fuel' with
    | zero => refine ⟨?_, ?_, ?_⟩ <;> intro levels text _ h <;> omega
    | succ fuel' =>
      obtain ⟨hvalue, hitems, hmembers⟩ := ih fuel'
      refine ⟨fun levels text h h' => ?_, fun levels text h h' => ?_, fun levels text h h' => ?_⟩
      · cases beginning levels text with
        | string => rfl
        | deepArray => rfl
        | deepObject => rfl
        | array =>
          rw [List.length_cons] at h h'
          rw [readValue_array, readValue_array]
          exact readContainer_congr fun shorter hle => hitems _ shorter (by omega) (by omega)
        | object =>
          rw [List.length_cons] at h h'
          rw [readValue_object, readValue_object]
          exact readContainer_congr fun shorter hle => hmembers _ shorter (by omega) (by omega)
        | scalar hscalar => rw [readValue_scalar hscalar, readValue_scalar hscalar]
      · rw [readItems_succ, readItems_succ]
        exact readEntries_congr ((consumes fuel).1 levels) (hvalue _ _ (by omega) (by omega))
          fun shorter hlt => hitems _ shorter (by omega) (by omega)
      · rw [readMembers_succ, readMembers_succ]
        exact readEntries_congr (consumes_readMember ((consumes fuel).1 levels))
          (readMember_congr fun shorter hlt => hvalue _ shorter (by omega) (by omega))
          fun shorter hlt => hmembers _ shorter (by omega) (by omega)

/-- One value at the beginning of a text, with as much fuel as it needs. -/
def valueAt (levels : Nat) (text : List Char) : Reading (Value × List Char) :=
  readValue (2 * text.length + 1) levels text

/-- The items of an array, with as much fuel as they need. -/
def itemsAt (levels : Nat) (text : List Char) : Reading (List Value × List Char) :=
  readItems (2 * text.length + 2) levels text

/-- The members of an object, with as much fuel as they need. -/
def membersAt (levels : Nat) (text : List Char) : Reading (List (String × Value) × List Char) :=
  readMembers (2 * text.length + 2) levels text

theorem readValue_eq (h : 2 * text.length + 1 ≤ fuel) :
    readValue fuel levels text = valueAt levels text :=
  (settled fuel _).1 levels text h le_rfl

theorem readItems_eq (h : 2 * text.length + 2 ≤ fuel) :
    readItems fuel levels text = itemsAt levels text :=
  (settled fuel _).2.1 levels text h le_rfl

theorem readMembers_eq (h : 2 * text.length + 2 ≤ fuel) :
    readMembers fuel levels text = membersAt levels text :=
  (settled fuel _).2.2 levels text h le_rfl

theorem consumes_valueAt (levels : Nat) : Consumes (valueAt levels) :=
  fun _ _ _ h => (consumes _).1 levels h

theorem valueAt_array : valueAt (levels + 1) ('[' :: rest) =
    readContainer ']' .array (itemsAt levels) rest := by
  rw [valueAt, readValue_array]
  exact readContainer_congr fun shorter hle => readItems_eq (by rw [List.length_cons]; omega)

theorem valueAt_object : valueAt (levels + 1) ('\x7b' :: rest) =
    readContainer '\x7d' (fun members => .object (Members.ofPairs members)) (membersAt levels)
      rest := by
  rw [valueAt, readValue_object]
  exact readContainer_congr fun shorter hle => readMembers_eq (by rw [List.length_cons]; omega)

theorem itemsAt_eq (levels : Nat) (text : List Char) :
    itemsAt levels text = readEntries ']' (valueAt levels) (itemsAt levels) text := by
  rw [itemsAt, readItems_succ]
  exact readEntries_congr ((consumes _).1 levels) rfl fun shorter hlt => readItems_eq (by omega)

theorem membersAt_eq (levels : Nat) (text : List Char) :
    membersAt levels text =
      readEntries '\x7d' (readMember (valueAt levels)) (membersAt levels) text := by
  rw [membersAt, readMembers_succ]
  exact readEntries_congr (consumes_readMember ((consumes _).1 levels))
    (readMember_congr fun shorter hlt => readValue_eq (by omega))
    fun shorter hlt => readMembers_eq (by omega)

end Json

end CoffeeHost
