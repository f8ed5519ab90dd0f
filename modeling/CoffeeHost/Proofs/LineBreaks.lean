import Mathlib
import CoffeeHost.Text.Lines
/-!
# Lines and line breaks

A text is *woven* from lines with a line break between any two neighbours. Cutting it gives the
lines back, with one exception: a carriage return and a line feed with an empty line between them
are the characters of one break, and are cut as one. Without it, a text is woven in one way only.

The same lines are cut off at line feeds alone once the other breaks are replaced by line feeds. So
a text that was read from a file, where this is done, has the lines of the file.

## Main definitions

* `Text.Break` — the three line breaks.
* `Text.weave` — the text of lines with breaks between them.
* `Text.Unmerged` — no two of the breaks look like one.
* `Text.replaceAll` — a text with every occurrence of another text replaced.

## Main results

* `Text.break_induction` — induction over texts, with one case for breaks.
* `Text.cutLines_eq_splitOn`, `Text.toString_normalizeBreaks` — lines are cut off at line feeds.
* `Text.cutLines_weave`, `Text.exists_weave`, `Text.weave_injective` — texts as woven lines.
* `Text.lines_lie_between_breaks` — all of this about the lines of a text.
-/

namespace CoffeeHost.Text

/-! ### Breaks -/

/-- A line break: a carriage return with a line feed, or one of them alone. -/
inductive Break
  | crlf
  | cr
  | lf
  deriving DecidableEq, Repr

namespace Break

/-- The characters of a line break. -/
def chars : Break → List Char
  | crlf => ['\r', '\n']
  | cr => ['\r']
  | lf => ['\n']

/-- The text of a line break. -/
def text (b : Break) : String := .ofList b.chars

/-- A carriage return in front of a line feed is no break of its own. -/
def Joins (b : Break) (rest : List Char) : Prop := b = cr ∧ rest.head? = some '\n'

variable {b b' : Break} {rest rest' : List Char}

theorem not_joins_iff : ¬ cr.Joins rest ↔ ∀ after, rest ≠ '\n' :: after := by
  cases rest <;> simp [Joins]

theorem head?_chars (b : Break) (rest : List Char) :
    (b.chars ++ rest).head? = some '\n' ↔ b = lf := by
  cases b <;> simp [chars]

/-- Two breaks at the beginning of one text are the same, if they take in all that belongs to
them. -/
theorem append_inj (h : b.chars ++ rest = b'.chars ++ rest') (hjoin : ¬ b.Joins rest)
    (hjoin' : ¬ b'.Joins rest') : b = b' ∧ rest = rest' := by
  cases b <;> cases b' <;> grind [chars, Joins]

end Break

variable {c : Char} {line rest text : List Char} {b : Break}

/-! ### Cutting and replacing breaks -/

theorem cutLines_break (h : ¬ b.Joins rest) :
    cutLines (b.chars ++ rest) = [] :: cutLines rest := by
  cases b with
  | crlf => rfl
  | cr =>
    show cutLines ('\r' :: rest) = _
    rw [cutLines]
    exact Break.not_joins_iff.mp h
  | lf => rfl

theorem cutLines_plain (hreturn : c ≠ '\r') (hfeed : c ≠ '\n') :
    cutLines (c :: rest) = consFirst c (cutLines rest) := by
  rw [cutLines]
  · exact fun _ h => absurd h hreturn
  · exact hreturn
  · exact hfeed

theorem normalizeBreaks_break (h : ¬ b.Joins rest) :
    normalizeBreaks (b.chars ++ rest) = '\n' :: normalizeBreaks rest := by
  cases b with
  | crlf => rfl
  | cr =>
    show normalizeBreaks ('\r' :: rest) = _
    rw [normalizeBreaks]
    exact Break.not_joins_iff.mp h
  | lf => rfl

theorem normalizeBreaks_plain (hreturn : c ≠ '\r') :
    normalizeBreaks (c :: rest) = c :: normalizeBreaks rest := by
  rw [normalizeBreaks]
  · exact fun _ h => absurd h hreturn
  · exact hreturn

/-- Induction over texts: each begins with a whole break or with another character. -/
theorem break_induction {motive : List Char → Prop} (nil : motive [])
    (atBreak : ∀ (b : Break) rest, ¬ b.Joins rest → motive rest → motive (b.chars ++ rest))
    (plain : ∀ c rest, c ≠ '\r' → c ≠ '\n' → motive rest → motive (c :: rest))
    (text : List Char) : motive text := by
  induction text using cutLines.induct with
  | case1 => exact nil
  | case2 rest ih => exact atBreak .crlf rest (by simp [Break.Joins]) ih
  | case3 rest hpair ih => exact atBreak .cr rest (Break.not_joins_iff.mpr hpair) ih
  | case4 rest ih => exact atBreak .lf rest (by simp [Break.Joins]) ih
  | case5 c rest _ hreturn hfeed ih => exact plain c rest hreturn hfeed ih

theorem consFirst_eq_modifyHead {cut : List (List Char)} (h : cut ≠ []) :
    consFirst c cut = cut.modifyHead (c :: ·) := by
  obtain ⟨first, more, rfl⟩ := List.exists_cons_of_ne_nil h
  rfl

/-- Cutting at all breaks is cutting at the line feeds that they are replaced by. -/
theorem cutLines_eq_splitOn (text : List Char) :
    cutLines text = (normalizeBreaks text).splitOn '\n' := by
  induction text using break_induction with
  | nil => rfl
  | atBreak b rest h ih =>
    rw [cutLines_break h, normalizeBreaks_break h, ih, List.splitOn_cons_eq_if_modifyHead]
    rfl
  | plain c rest hreturn hfeed ih =>
    rw [cutLines_plain hreturn hfeed, normalizeBreaks_plain hreturn, ih,
      List.splitOn_cons_eq_if_modifyHead, if_neg (by simpa using hfeed),
      consFirst_eq_modifyHead (List.splitOn_ne_nil _ _)]

theorem cutLines_ne_nil (text : List Char) : cutLines text ≠ [] := by
  rw [cutLines_eq_splitOn]
  exact List.splitOn_ne_nil _ _

theorem return_notMem_normalizeBreaks (text : List Char) : '\r' ∉ normalizeBreaks text := by
  induction text using break_induction with
  | nil => simp [normalizeBreaks]
  | atBreak b rest h ih => simp [normalizeBreaks_break h, ih]
  | plain c rest hreturn _ ih => simp [normalizeBreaks_plain hreturn, ih, hreturn.symm]

theorem normalizeBreaks_of_notMem (h : '\r' ∉ text) : normalizeBreaks text = text := by
  induction text with
  | nil => rfl
  | cons c rest ih =>
    obtain ⟨hreturn, hrest⟩ := not_or.mp (mt List.mem_cons.mpr h)
    rw [normalizeBreaks_plain (Ne.symm hreturn), ih hrest]

/-- Replacing the breaks of a text changes none of its lines. -/
theorem cutLines_normalizeBreaks (text : List Char) :
    cutLines (normalizeBreaks text) = cutLines text := by
  rw [cutLines_eq_splitOn, cutLines_eq_splitOn,
    normalizeBreaks_of_notMem (return_notMem_normalizeBreaks text)]

/-! ### Replacing texts -/

/-- Replaces every occurrence of some characters from the left on. The first `skip` characters
belong to an occurrence that has been replaced. -/
def replaceFrom (old new : List Char) : (skip : Nat) → List Char → List Char
  | _, [] => []
  | skip + 1, _ :: rest => replaceFrom old new skip rest
  | 0, c :: rest =>
    if old.isPrefixOf (c :: rest) then new ++ replaceFrom old new (old.length - 1) rest
    else c :: replaceFrom old new 0 rest

/-- A text with every occurrence of another text replaced, from the left on and without overlaps.
The text to be replaced must not be empty. -/
def replaceAll (old new text : String) : String :=
  .ofList (replaceFrom old.toList new.toList 0 text.toList)

/-- All breaks are replaced if first those of two characters are, and then the carriage returns
that are left. -/
theorem normalizeBreaks_eq_replaceFrom (text : List Char) :
    normalizeBreaks text =
      replaceFrom ['\r'] ['\n'] 0 (replaceFrom ['\r', '\n'] ['\n'] 0 text) := by
  induction text using break_induction with
  | nil => rfl
  | atBreak b rest h ih =>
    rw [normalizeBreaks_break h, ih]
    cases b with
    | crlf => simp [Break.chars, replaceFrom]
    | cr =>
      have hfeed : ¬ ['\n'] <+: rest := by
        rintro ⟨after, rfl⟩
        exact Break.not_joins_iff.mp h after rfl
      simp [Break.chars, replaceFrom, hfeed]
    | lf => simp [Break.chars, replaceFrom]
  | plain c rest hreturn hfeed ih =>
    rw [normalizeBreaks_plain hreturn, ih]
    simp [replaceFrom, Ne.symm hreturn]

theorem toString_normalizeBreaks (text : String) :
    String.ofList (normalizeBreaks text.toList) =
      replaceAll "\r" "\n" (replaceAll "\r\n" "\n" text) := by
  simp [replaceAll, normalizeBreaks_eq_replaceFrom]

/-! ### Texts woven from lines -/

/-- The text that begins with a line and goes on with more lines, each after a break. -/
def weave (first : String) (more : List (Break × String)) : String :=
  first ++ String.join (more.map fun (b, line) => b.text ++ line)

/-- A text without line breaks. -/
def Unbroken (line : String) : Prop := '\r' ∉ line.toList ∧ '\n' ∉ line.toList

/-- No carriage return is followed by an empty line and then a line feed. -/
def Unmerged (more : List (Break × String)) : Prop :=
  more.IsChain fun p q => ¬ (p.1 = .cr ∧ p.2 = "" ∧ q.1 = .lf)

section Weave

variable {first first' line : String} {more more' : List (Break × String)}

theorem toList_weave_nil (first : String) : (weave first []).toList = first.toList := by
  simp [weave]

theorem toList_weave_cons (first line : String) (b : Break) (more : List (Break × String)) :
    (weave first ((b, line) :: more)).toList =
      first.toList ++ (b.chars ++ (weave line more).toList) := by
  simp [weave, Break.text, String.join_cons]

/-- A line feed comes first only as a break after an empty line. -/
theorem head?_weave (hline : Unbroken line) (h : (weave line more).toList.head? = some '\n') :
    line = "" ∧ ∃ line' more', more = (.lf, line') :: more' := by
  by_cases hempty : line = ""
  · subst hempty
    obtain _ | ⟨⟨b, line'⟩, more'⟩ := more
    · simp [toList_weave_nil] at h
    · rw [toList_weave_cons, String.toList_empty, List.nil_append, Break.head?_chars] at h
      subst h
      exact ⟨rfl, line', more', rfl⟩
  · have hmem : '\n' ∈ line.toList := by
      have hne : line.toList ≠ [] := by simpa using hempty
      rw [weave, String.toList_append, List.head?_append_of_ne_nil _ hne] at h
      exact List.mem_of_head? h
    exact absurd hmem hline.2

/-- In front of the next line, a break takes in all that belongs to it. -/
theorem Unmerged.not_joins (hline : Unbroken line) (h : Unmerged ((b, line) :: more)) :
    ¬ b.Joins (weave line more).toList := by
  rintro ⟨rfl, hhead⟩
  obtain ⟨rfl, line', more', rfl⟩ := head?_weave hline hhead
  exact (List.isChain_cons_cons.mp h).1 ⟨rfl, rfl, rfl⟩

theorem Unmerged.cons (hjoin : ¬ b.Joins (weave line more).toList) (h : Unmerged more) :
    Unmerged ((b, line) :: more) := by
  obtain _ | ⟨⟨b', line'⟩, more'⟩ := more
  · exact .singleton _
  · refine List.isChain_cons_cons.mpr ⟨?_, h⟩
    rintro ⟨hb, hline, hb'⟩
    obtain ⟨rfl, rfl, rfl⟩ : b = .cr ∧ line = "" ∧ b' = .lf := ⟨hb, hline, hb'⟩
    exact hjoin ⟨rfl, by rw [toList_weave_cons]; rfl⟩

theorem cutLines_append {chars : List Char} (hreturn : '\r' ∉ chars) (hfeed : '\n' ∉ chars)
    (rest : List Char) : cutLines (chars ++ rest) = (cutLines rest).modifyHead (chars ++ ·) := by
  induction chars with
  | nil => exact (congrFun List.modifyHead_id (cutLines rest)).symm
  | cons c chars ih =>
    obtain ⟨hc, hreturn⟩ := not_or.mp (mt List.mem_cons.mpr hreturn)
    obtain ⟨hc', hfeed⟩ := not_or.mp (mt List.mem_cons.mpr hfeed)
    rw [List.cons_append, cutLines_plain (Ne.symm hc) (Ne.symm hc'),
      consFirst_eq_modifyHead (cutLines_ne_nil _), ih hreturn hfeed, List.modifyHead_modifyHead]
    rfl

/-- Woven lines are cut apart again. -/
theorem cutLines_weave (hlines : ∀ line ∈ first :: more.map Prod.snd, Unbroken line)
    (h : Unmerged more) :
    cutLines (weave first more).toList = (first :: more.map Prod.snd).map String.toList := by
  induction more generalizing first with
  | nil =>
    obtain ⟨hreturn, hfeed⟩ := hlines first (List.mem_cons_self ..)
    have hfirst := cutLines_append hreturn hfeed []
    rw [List.append_nil] at hfirst
    rw [toList_weave_nil, hfirst]
    simp [cutLines]
  | cons next more ih =>
    obtain ⟨b, line⟩ := next
    obtain ⟨⟨hreturn, hfeed⟩, hmore⟩ := List.forall_mem_cons.mp hlines
    -- The break takes in nothing of the next line, so the text is cut right after it.
    have hjoin := h.not_joins (hmore line (List.mem_cons_self ..))
    rw [toList_weave_cons, cutLines_append hreturn hfeed, cutLines_break hjoin, ih hmore h.tail]
    simp

/-- Every text is woven from lines. -/
theorem exists_weave (text : List Char) :
    ∃ first more, (weave first more).toList = text ∧ Unmerged more ∧
      ∀ line ∈ first :: more.map Prod.snd, Unbroken line := by
  induction text using break_induction with
  | nil => exact ⟨"", [], rfl, .nil, by simp [Unbroken]⟩
  | atBreak b rest hjoin ih =>
    obtain ⟨first, more, rfl, hmore, hlines⟩ := ih
    exact ⟨"", (b, first) :: more, toList_weave_cons .., hmore.cons hjoin,
      List.forall_mem_cons.mpr ⟨by simp [Unbroken], hlines⟩⟩
  | plain c rest hreturn hfeed ih =>
    obtain ⟨first, more, rfl, hmore, hlines⟩ := ih
    obtain ⟨hfirst, hlines⟩ := List.forall_mem_cons.mp hlines
    refine ⟨String.singleton c ++ first, more, by simp [weave], hmore,
      List.forall_mem_cons.mpr ⟨?_, hlines⟩⟩
    simpa [Unbroken, Ne.symm hreturn, Ne.symm hfeed] using hfirst

/-- No text is woven from different lines. -/
theorem lines_eq_of_weave_eq (hlines : ∀ line ∈ first :: more.map Prod.snd, Unbroken line)
    (hlines' : ∀ line ∈ first' :: more'.map Prod.snd, Unbroken line) (h : Unmerged more)
    (h' : Unmerged more') (hsame : weave first more = weave first' more') :
    first :: more.map Prod.snd = first' :: more'.map Prod.snd := by
  apply List.map_injective_iff.mpr fun _ _ => String.toList_injective
  rw [← cutLines_weave hlines h, ← cutLines_weave hlines' h', hsame]

/-- No text is woven in two ways. -/
theorem weave_injective (hlines : ∀ line ∈ first :: more.map Prod.snd, Unbroken line)
    (hlines' : ∀ line ∈ first' :: more'.map Prod.snd, Unbroken line) (h : Unmerged more)
    (h' : Unmerged more') (hsame : weave first more = weave first' more') :
    first = first' ∧ more = more' := by
  induction more generalizing first first' more' with
  | nil =>
    obtain ⟨rfl, hnil⟩ := List.cons.inj (lines_eq_of_weave_eq hlines hlines' h h' hsame)
    exact ⟨rfl, (List.map_eq_nil_iff.mp hnil.symm).symm⟩
  | cons next more ih =>
    obtain ⟨b, line⟩ := next
    obtain ⟨rfl, hmap⟩ := List.cons.inj (lines_eq_of_weave_eq hlines hlines' h h' hsame)
    obtain _ | ⟨⟨b', line'⟩, more'⟩ := more'
    · cases hmap
    obtain ⟨rfl, -⟩ : line = line' ∧ _ := List.cons.inj hmap
    -- The lines are the same by now. The breaks are compared where they begin the same text.
    have hchars := congrArg String.toList hsame
    rw [toList_weave_cons, toList_weave_cons, List.append_cancel_left_eq] at hchars
    obtain ⟨-, hmore⟩ := List.forall_mem_cons.mp hlines
    obtain ⟨-, hmore'⟩ := List.forall_mem_cons.mp hlines'
    have hline := hmore line (List.mem_cons_self ..)
    obtain ⟨rfl, hrest⟩ := Break.append_inj hchars (h.not_joins hline) (h'.not_joins hline)
    obtain ⟨-, rfl⟩ := ih hmore hmore' h.tail h'.tail (String.toList_inj.mp hrest)
    exact ⟨rfl, rfl⟩

end Weave

/-! ### The lines of a text -/

theorem flatten_cutLines (text : List Char) :
    (cutLines text).flatten = text.filter fun c => c ≠ '\r' ∧ c ≠ '\n' := by
  induction text using break_induction with
  | nil => rfl
  | atBreak b rest hjoin ih =>
    have hchars : b.chars.filter (fun c => c ≠ '\r' ∧ c ≠ '\n') = [] := by cases b <;> rfl
    rw [cutLines_break hjoin, List.flatten_cons, ih, List.filter_append, hchars]
  | plain c rest hreturn hfeed ih =>
    obtain ⟨first, more, hcut⟩ := List.exists_cons_of_ne_nil (cutLines_ne_nil rest)
    rw [List.filter_cons_of_pos (by simp [hreturn, hfeed]), ← ih, cutLines_plain hreturn hfeed,
      hcut]
    rfl

section Lines

variable {text first : String} {more : List (Break × String)}

theorem lines_of_ne_empty (h : text ≠ "") :
    lines text = (cutLines text.toList).map String.ofList := by
  rw [lines, if_neg (by simpa using h)]

theorem lines_weave (hlines : ∀ line ∈ first :: more.map Prod.snd, Unbroken line)
    (h : Unmerged more) (hne : first :: more.map Prod.snd ≠ [""]) :
    lines (weave first more) = first :: more.map Prod.snd := by
  have hcut := cutLines_weave hlines h
  have htext : weave first more ≠ "" := by
    intro hempty
    rw [hempty] at hcut
    exact hne (List.map_injective_iff.mpr (fun _ _ => String.toList_injective) hcut.symm)
  rw [lines_of_ne_empty htext, hcut, List.map_map]
  simp

/-- A text is woven from its lines. -/
theorem exists_weave_lines (h : text ≠ "") :
    ∃ first more, weave first more = text ∧ lines text = first :: more.map Prod.snd ∧
      Unmerged more ∧ ∀ line ∈ first :: more.map Prod.snd, Unbroken line := by
  obtain ⟨first, more, hweave, hmore, hlines⟩ := exists_weave text.toList
  obtain rfl : weave first more = text := String.toList_inj.mp hweave
  refine ⟨first, more, rfl, lines_weave hlines hmore ?_, hmore, hlines⟩
  intro hempty
  obtain ⟨rfl, hmap⟩ := List.cons.inj hempty
  obtain rfl := List.map_eq_nil_iff.mp hmap
  exact h rfl

theorem unbroken_of_mem_lines {line : String} (h : line ∈ lines text) : Unbroken line := by
  by_cases hempty : text = ""
  · subst hempty
    cases h
  · obtain ⟨first, more, -, heq, -, hlines⟩ := exists_weave_lines hempty
    exact hlines line (heq ▸ h)

theorem flatMap_lines (text : String) :
    (lines text).flatMap String.toList = text.toList.filter fun c => c ≠ '\r' ∧ c ≠ '\n' := by
  by_cases hempty : text = ""
  · subst hempty
    rfl
  · rw [lines_of_ne_empty hempty, ← flatten_cutLines, List.flatMap_map]
    simp [List.flatMap_def]

theorem normalizeBreaks_ne_nil {text : List Char} (h : text ≠ []) : normalizeBreaks text ≠ [] := by
  induction text using break_induction with
  | nil => exact absurd rfl h
  | atBreak b rest hjoin => simp [normalizeBreaks_break hjoin]
  | plain c rest hreturn => simp [normalizeBreaks_plain hreturn]

/-- A text that was read from a file has the lines of the file. -/
theorem lines_normalizeBreaks (text : String) :
    lines (String.ofList (normalizeBreaks text.toList)) = lines text := by
  by_cases hempty : text = ""
  · subst hempty
    rfl
  · have hne : String.ofList (normalizeBreaks text.toList) ≠ "" := by
      simpa using normalizeBreaks_ne_nil (by simpa using hempty)
    rw [lines_of_ne_empty hne, lines_of_ne_empty hempty, String.toList_ofList,
      cutLines_normalizeBreaks]

/-- The lines of a text. Those of a text that is not empty are what stands between its line feeds,
after both characters of a break, and then every carriage return, were replaced by a line feed; a
text that was read from a file has the lines of the file. Lines hold no line breaks and every other
character. With the breaks between them they make up the text, in one way only if no carriage return
is followed by an empty line and a line feed. And the lines of a text that is made up in this way
are those it is made up from, unless it is the empty text. -/
theorem lines_lie_between_breaks (text : String) :
    let flat := replaceAll "\r" "\n" (replaceAll "\r\n" "\n" text)
    lines text = (if text = "" then [] else (flat.split '\n').toList.map (·.copy)) ∧
      lines (String.ofList (normalizeBreaks text.toList)) = lines text ∧
      (∀ line ∈ lines text, Unbroken line) ∧
      (lines text).flatMap String.toList = text.toList.filter (fun c => c ≠ '\r' ∧ c ≠ '\n') ∧
      (text ≠ "" → ∃! parts : String × List (Break × String),
        Unmerged parts.2 ∧ lines text = parts.1 :: parts.2.map Prod.snd ∧
          weave parts.1 parts.2 = text) ∧
      ∀ (first : String) (more : List (Break × String)),
        (∀ line ∈ first :: more.map Prod.snd, Unbroken line) → Unmerged more →
        first :: more.map Prod.snd ≠ [""] →
        lines (weave first more) = first :: more.map Prod.snd := by
  intro flat
  have hflat : flat = String.ofList (normalizeBreaks text.toList) :=
    (toString_normalizeBreaks text).symm
  refine ⟨?_, lines_normalizeBreaks text, fun _ => unbroken_of_mem_lines, flatMap_lines text, ?_,
    fun _ _ => lines_weave⟩
  · split_ifs with hempty
    · subst hempty
      rfl
    · rw [lines_of_ne_empty hempty, cutLines_eq_splitOn, String.toList_split_char, hflat,
        String.toList_ofList]
  · intro hne
    obtain ⟨first, more, hweave, heq, hmore, hlines⟩ := exists_weave_lines hne
    refine ⟨(first, more), ⟨hmore, heq, hweave⟩, ?_⟩
    rintro ⟨first', more'⟩ ⟨hmore', heq', hweave'⟩
    have hlines' : ∀ line ∈ first' :: more'.map Prod.snd, Unbroken line :=
      fun line hline => unbroken_of_mem_lines (heq'.symm ▸ hline)
    obtain ⟨rfl, rfl⟩ := weave_injective hlines' hlines hmore' hmore (hweave'.trans hweave.symm)
    rfl

/-- All three breaks, and an empty line after a carriage return. -/
theorem mixed_breaks_are_restored :
    let more := [(Break.cr, ""), (Break.crlf, "b"), (Break.lf, "")]
    Unmerged more ∧ (∀ line ∈ "a" :: more.map Prod.snd, Unbroken line) ∧
      weave "a" more = "a\r\r\nb\n" ∧ lines "a\r\r\nb\n" = ["a", "", "b", ""] ∧
      ∃! parts : String × List (Break × String), Unmerged parts.2 ∧
        ["a", "", "b", ""] = parts.1 :: parts.2.map Prod.snd ∧
          weave parts.1 parts.2 = "a\r\r\nb\n" := by
  intro more
  have hmore : Unmerged more := by simp [Unmerged, more]
  have hlines : ∀ line ∈ "a" :: more.map Prod.snd, Unbroken line := by simp [Unbroken, more]
  have hweave : weave "a" more = "a\r\r\nb\n" := by cbv
  obtain ⟨-, -, -, -, hparts, hcut⟩ := lines_lie_between_breaks "a\r\r\nb\n"
  have heq : lines "a\r\r\nb\n" = ["a", "", "b", ""] := by
    rw [← hweave]
    exact hcut "a" more hlines hmore (by simp [more])
  exact ⟨hmore, hlines, hweave, heq, heq ▸ hparts (by decide)⟩

/-- A carriage return, an empty line and a line feed are cut as one break. -/
example : lines (weave "a" [(.cr, ""), (.lf, "b")]) = ["a", "b"] := by cbv

end Lines

end CoffeeHost.Text
