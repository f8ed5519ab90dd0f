import CoffeeHost.Storage.Access
import Mathlib.Data.List.Basic
import Mathlib.Tactic.SplitIfs
/-!
# Written files

Writing to a path puts a file at a location in the tree: in a directory that exists, and not where
another directory is. The tree then has the file there, and every other location has what it had,
but for the directories on the way, which keep all their entries. So paths lead where they led
before, the written path now leads to the file, and no other file has changed.

## Main definitions

* `Storage.Node.Admits` — where a file can be put.
* `Storage.Node.Keeps` — what a location can come to have when a file is put elsewhere.
* `Storage.Place` — the directory and the name for a file that is written to a path.
* `Storage.Written` — a storage after a file was written.

## Main results

* `Storage.Node.find?_put`, `Storage.Node.keeps_put` — what a tree has after a file was put in it.
* `Storage.written_of_writeText` — what writing does.
* `Storage.writeText_error` — whether it succeeds does not depend on the text.
-/

namespace CoffeeHost.Storage

namespace Node

variable {root : Node} {parent location : List String} {name : String}

/-! ### Directories -/

@[simp] theorem find?_nil (node : Node) : node.find? [] = some node := rfl

theorem find?_cons (node : Node) (name : String) (rest : List String) :
    node.find? (name :: rest) = (node.entries.lookup name).bind fun child => child.find? rest := rfl

/-- There is nothing below a file. -/
theorem find?_file_cons (bytes : List UInt8) (name : String) (rest : List String) :
    (file bytes).find? (name :: rest) = none := rfl

theorem find?_append (node : Node) (location rest : List String) :
    node.find? (location ++ rest) = (node.find? location).bind fun child => child.find? rest := by
  induction location generalizing node with
  | nil => rfl
  | cons name location ih =>
    rw [List.cons_append, find?_cons, find?_cons]
    cases node.entries.lookup name with
    | none => rfl
    | some child => exact ih child

theorem lookup_cons_eq_ite (name other : String) (node : Node) (rest : List (String × Node)) :
    ((name, node) :: rest).lookup other =
      if other = name then some node else rest.lookup other := by
  by_cases h : other = name
  · simp [h]
  · simp [List.lookup_cons, h, beq_eq_false_iff_ne.mpr h]

theorem lookup_replace (name other : String) (node : Node) (entries : List (String × Node)) :
    (replace name node entries).lookup other =
      if other = name then some node else entries.lookup other := by
  induction entries with
  | nil => exact lookup_cons_eq_ite name other node []
  | cons entry rest ih =>
    obtain ⟨first, child⟩ := entry
    rw [replace]
    by_cases hfirst : first = name
    · obtain rfl := hfirst
      rw [if_pos rfl, lookup_cons_eq_ite, lookup_cons_eq_ite]
      split <;> rfl
    · rw [if_neg hfirst, lookup_cons_eq_ite, lookup_cons_eq_ite, ih]
      by_cases h : other = first
      · simp [h, hfirst]
      · simp [h]

/-! ### Putting a file somewhere -/

/-- A file of a name can be put in the directory at a location: the directory exists, and no other
directory has the name in it. -/
def Admits (root : Node) (parent : List String) (name : String) : Prop :=
  ∃ entries, root.find? parent = some (directory entries) ∧
    ∀ entries', entries.lookup name ≠ some (directory entries')

/-- What was at a location is still there. If it is a directory, its entries may have changed, but
none of their names is gone. -/
inductive Keeps : Option Node → Option Node → Prop
  | same (found : Option Node) : Keeps found found
  | directory {entries entries' : List (String × Node)}
      (names : ∀ name, (entries.lookup name).isSome → (entries'.lookup name).isSome) :
      Keeps (some (directory entries)) (some (directory entries'))

theorem Keeps.file_iff {before after : Option Node} (h : Keeps before after) (bytes : List UInt8) :
    after = some (file bytes) ↔ before = some (file bytes) := by
  cases h with
  | same => rfl
  | directory => simp

theorem Admits.not_directory (h : root.Admits parent name) (entries : List (String × Node)) :
    root.find? (parent ++ [name]) ≠ some (directory entries) := by
  obtain ⟨here, hparent, hnone⟩ := h
  rw [find?_append, hparent, Option.bind_some, find?_cons]
  cases hfound : List.lookup name (directory here).entries with
  | none => simp
  | some child =>
    rintro ⟨⟩
    exact hnone entries hfound

/-- The tree has at a location what was put there. -/
theorem find?_put (root : Node) (location : List String) (new : Node) :
    (root.put location new).find? location = some new := by
  induction location generalizing root with
  | nil => rfl
  | cons name rest ih =>
    rw [put, find?_cons, entries, lookup_replace, if_pos rfl, Option.bind_some, ih]

theorem keeps_replace (name : String) (node : Node) (entries : List (String × Node)) :
    Keeps (some (directory entries)) (some (directory (replace name node entries))) := by
  refine .directory fun other h => ?_
  rw [lookup_replace]
  split
  · rfl
  · exact h

/-- Every location but that of the file keeps what it has. -/
theorem keeps_put (h : root.Admits parent name) (bytes : List UInt8)
    (hother : location ≠ parent ++ [name]) :
    Keeps (root.find? location) ((root.put (parent ++ [name]) (file bytes)).find? location) := by
  induction parent generalizing root location with
  | nil =>
    obtain ⟨entries, hroot, hnone⟩ := h
    obtain rfl : root = directory entries := Option.some.inj hroot
    cases location with
    | nil => exact keeps_replace name (file bytes) entries
    | cons first rest =>
      rw [List.nil_append, put, find?_cons, find?_cons, Node.entries, Node.entries, lookup_replace]
      by_cases hfirst : first = name
      · obtain rfl := hfirst
        have hrest : rest ≠ [] := fun hnil => hother (by rw [hnil]; rfl)
        obtain ⟨second, rest, rfl⟩ := List.exists_cons_of_ne_nil hrest
        -- Below the new file there is nothing, and there was nothing before.
        rw [if_pos rfl, Option.bind_some, put, find?_file_cons]
        cases hfound : entries.lookup first with
        | none => exact .same none
        | some child =>
          cases child with
          | file old => exact .same none
          | directory entries' => exact absurd hfound (hnone entries')
      · rw [if_neg hfirst]
        exact .same _
  | cons first parent ih =>
    obtain ⟨entries, hparent, hnone⟩ := h
    rw [find?_cons] at hparent
    obtain ⟨child, hchild, hbelow⟩ := Option.bind_eq_some_iff.mp hparent
    cases root with
    | file old => cases hchild
    | directory siblings =>
      cases location with
      | nil => exact keeps_replace _ _ _
      | cons second rest =>
        rw [List.cons_append, put, find?_cons, find?_cons, Node.entries, Node.entries,
          lookup_replace]
        by_cases hsecond : second = first
        · obtain rfl := hsecond
          have hrest : rest ≠ parent ++ [name] := fun hsame => hother (by rw [hsame]; rfl)
          have hchild : siblings.lookup second = some child := hchild
          simp only [if_pos, hchild, Option.getD_some, Option.bind_some]
          exact ih ⟨entries, hbelow, hnone⟩ hrest
        · rw [if_neg hsecond]
          exact .same _

/-- A directory is one still, and has the names that it had. -/
theorem directory_put (h : root.Admits parent name) (bytes : List UInt8)
    {entries : List (String × Node)} (hfound : root.find? location = some (directory entries)) :
    ∃ entries',
      (root.put (parent ++ [name]) (file bytes)).find? location = some (directory entries') ∧
      ∀ other, (entries.lookup other).isSome → (entries'.lookup other).isSome := by
  have hother : location ≠ parent ++ [name] := by
    rintro rfl
    exact h.not_directory entries hfound
  have hkeeps := keeps_put h bytes hother
  rw [hfound] at hkeeps
  generalize (root.put (parent ++ [name]) (file bytes)).find? location = after at hkeeps
  cases hkeeps with
  | same => exact ⟨entries, rfl, fun _ hname => hname⟩
  | directory hnames => exact ⟨_, rfl, hnames⟩

end Node

open Node

variable {root : Node} {parent location target : List String} {name : String}

/-! ### Paths -/

theorem walk_append (root : Node) (location names rest : List String) :
    walk root location (names ++ rest) = (walk root location names).bind fun target =>
      walk root target rest := by
  induction names generalizing location with
  | nil => rfl
  | cons name names ih =>
    rw [List.cons_append, walk, walk]
    split
    · split_ifs
      · exact ih location
      · exact ih location.dropLast
      · rfl
      · exact ih (location ++ [name])
      · rfl
    · rfl

/-- After a file was put in a tree, names lead where they led before. -/
theorem walk_put (h : root.Admits parent name) (bytes : List UInt8) {names : List String}
    (hwalk : walk root location names = .ok target) :
    walk (root.put (parent ++ [name]) (file bytes)) location names = .ok target := by
  induction names generalizing location with
  | nil => exact hwalk
  | cons first names ih =>
    rw [walk] at hwalk
    split at hwalk
    case h_2 => cases hwalk
    case h_1 entries hfound =>
      obtain ⟨entries', hfound', hnames⟩ := directory_put h bytes hfound
      rw [walk, hfound']
      dsimp only
      split_ifs at hwalk with hstay hup hlong hhere
      · rw [if_pos hstay]
        exact ih hwalk
      · rw [if_neg hstay, if_pos hup]
        exact ih hwalk
      · rw [if_neg hstay, if_neg hup, if_neg hlong, if_pos (hnames first hhere)]
        exact ih hwalk

/-- Names that do not end with an empty one are the same without the empty ones at their end. -/
theorem dropWhile_empty_reverse {names : List String} (h : names.getLast? ≠ some "") :
    (names.reverse.dropWhile (· = "")).reverse = names := by
  rcases List.eq_nil_or_concat' names with rfl | ⟨before, last, rfl⟩
  · rfl
  · have hlast : last ≠ "" := by simpa using h
    simp [hlast]

/-- A name in a directory under which a file is written to a path: the names of the path lead to the
directory, and its last name can be that of a file there. -/
structure Place (storage : Storage) (path : String) (parent : List String) (name : String) :
    Prop where
  path_ne : path ≠ ""
  path_short : path.utf8ByteSize ≤ pathLimit
  leads : ∃ before, pathNames path = before ++ [name] ∧
    walk storage.root (storage.start path) before = .ok parent
  admits : storage.root.Admits parent name
  name_ne : name ≠ ""
  not_here : name ≠ "."
  not_up : name ≠ ".."
  name_short : name.utf8ByteSize ≤ nameLimit

section Writing

variable {storage storage' : Storage} {path text : String}

theorem exists_place (h : storage.resolveNew path = .ok location) :
    ∃ parent name, storage.Place path parent name ∧ location = parent ++ [name] := by
  rw [resolveNew] at h
  split_ifs at h with hempty hlong
  simp only [bind, Except.bind, pure, Except.pure] at h
  split at h
  case h_1 => cases h
  case h_2 parent hwalk =>
  split at h
  case h_2 => cases h
  case h_1 entries hparent =>
  split at h
  case isTrue => cases h
  case isFalse hends =>
  split at h
  case isTrue => cases h
  case isFalse hname =>
  simp only [not_or] at hends
  obtain ⟨hdot, hdots, hlast⟩ := hends
  rw [dropWhile_empty_reverse hlast] at hwalk hdot hdots hname h
  rcases List.eq_nil_or_concat' (pathNames path) with hnil | ⟨before, name, hnames⟩
  · rw [hnil] at hdot
    exact absurd rfl hdot
  rw [hnames] at hwalk hdot hdots hname hlast h
  simp only [List.dropLast_concat, List.getLastD_concat, List.getLast?_concat] at *
  refine ⟨parent, name, ⟨hempty, Nat.le_of_not_lt hlong, ⟨before, hnames, hwalk⟩,
    ⟨entries, hparent, ?_⟩, by simpa using hlast, hdot, hdots, Nat.le_of_not_lt hname⟩, ?_⟩
  · rintro entries' hfound
    rw [hfound] at h
    cases h
  · split at h
    · cases h
    · exact (Except.ok.inj h).symm

/-- The storage with a file in a directory. -/
def putFile (storage : Storage) (parent : List String) (name : String) (bytes : List UInt8) :
    Storage :=
  { storage with root := storage.root.put (parent ++ [name]) (file bytes) }

/-- The path leads to the file that is written to it. -/
theorem Place.resolve_putFile (h : storage.Place path parent name) (bytes : List UInt8) :
    (storage.putFile parent name bytes).resolve path = .ok (parent ++ [name]) := by
  obtain ⟨before, hnames, hwalk⟩ := h.leads
  obtain ⟨entries, hparent, -⟩ := id h.admits
  obtain ⟨entries', hparent', -⟩ := directory_put h.admits bytes hparent
  -- The last name is looked up in the directory as it is now, with the file in it.
  have hfile := find?_put storage.root (parent ++ [name]) (file bytes)
  rw [find?_append, hparent', Option.bind_some, find?_cons] at hfile
  obtain ⟨child, hchild, -⟩ := Option.bind_eq_some_iff.mp hfile
  have hthere : (entries'.lookup name).isSome := Option.isSome_of_eq_some hchild
  have hlast : walk (storage.putFile parent name bytes).root parent [name] =
      .ok (parent ++ [name]) := by
    rw [putFile, walk, hparent']
    dsimp only
    rw [if_neg (by simp [h.name_ne, h.not_here]), if_neg h.not_up,
      if_neg (Nat.not_lt.mpr h.name_short), if_pos hthere]
    rfl
  have hbefore : walk (storage.putFile parent name bytes).root
      ((storage.putFile parent name bytes).start path) before = .ok parent :=
    walk_put h.admits bytes hwalk
  rw [resolve, if_neg h.path_ne, if_neg (Nat.not_lt.mpr h.path_short), hnames, walk_append,
    hbefore]
  exact hlast

/-! ### Writing -/

/-- There is a file with some bytes at a location. -/
def HasFile (storage : Storage) (location : List String) (bytes : List UInt8) : Prop :=
  storage.root.find? location = some (file bytes)

/-- A storage after a text was written to a path. -/
structure Written (before : Storage) (path text : String) (after : Storage) : Prop where
  workingDirectory : after.workingDirectory = before.workingDirectory
  /-- All paths lead where they led. -/
  paths : ∀ other location, before.resolve other = .ok location →
    after.resolve other = .ok location
  /-- The whole file at the path is the text. -/
  contents : after.readBytes path = .ok text.toUTF8.data.toList
  /-- No other file has changed, and none is new or gone. -/
  others : ∀ location bytes, after.resolve path ≠ .ok location →
    (after.HasFile location bytes ↔ before.HasFile location bytes)

theorem Place.written (h : storage.Place path parent name) (text : String) :
    storage.Written path text (storage.putFile parent name text.toUTF8.data.toList) := by
  have hresolve := h.resolve_putFile text.toUTF8.data.toList
  refine ⟨rfl, fun other target htarget => ?_, ?_, fun location bytes hother => ?_⟩
  · rw [resolve] at htarget ⊢
    split_ifs at htarget ⊢
    exact walk_put h.admits text.toUTF8.data.toList htarget
  · rw [readBytes, hresolve]
    simp only [bind, Except.bind, putFile, find?_put]
    rfl
  · rw [hresolve] at hother
    have hne : location ≠ parent ++ [name] := fun hsame => hother (by rw [hsame])
    exact (keeps_put h.admits text.toUTF8.data.toList hne).file_iff bytes

/-- What writing does. -/
theorem written_of_writeText (h : storage.writeText path text = .ok storage') :
    storage.Written path text storage' := by
  rw [writeText] at h
  split_ifs at h with hnull
  cases hlocation : storage.resolveNew path with
  | error e => rw [hlocation] at h; cases h
  | ok location =>
    obtain ⟨parent, name, hplace, rfl⟩ := exists_place hlocation
    rw [hlocation] at h
    obtain rfl := Except.ok.inj h
    exact hplace.written text

/-- Whether a path can be written to, and why not, does not depend on the text. -/
theorem writeText_error {e : TextError} (h : storage.writeText path text = .error e)
    (other : String) : storage.writeText path other = .error e := by
  rw [writeText] at h ⊢
  split_ifs at h ⊢
  · exact h
  · cases hlocation : storage.resolveNew path with
    | error e => rw [hlocation] at h; exact h
    | ok location => rw [hlocation] at h; cases h

end Writing

end CoffeeHost.Storage
