import Mathlib
import CoffeeHost.Proofs.LineBreaks
import CoffeeHost.Proofs.NumberTexts
import CoffeeHost.Source.Loose
/-!
# Windows of source lines

The fragment at a place shows a window of the text: the line of the place with up to two lines
before and two after it, each in a row of its own, and under the line a caret. Lines hold no line
feeds, and neither do the labels in front of them, so the fragment can be cut into its rows again
at its line feeds.

All labels of a window have one width, because its last number has the most digits. So the columns
of a line stand at a fixed distance from the left, also in the row of the caret.

## Main definitions

* `Source.numberedRow`, `Source.markerRows` — the rows of a window.

## Main results

* `Source.rows_eq` — the rows of the fragment at a place in the text.
* `Source.split_fragmentOfLines` — a fragment is cut into its rows at its line feeds.
* `Source.fragment_shows_window` — what the fragment at a place shows.
-/

namespace CoffeeHost

theorem Text.lineFeed_not_mem_lines {text line : String} (h : line ∈ lines text) :
    '\n' ∉ line.toList := (unbroken_of_mem_lines h).2

namespace Source

/-! ### Labels -/

/-- A greater number has at least as many digits. -/
theorem length_repr_le {m n : Nat} (h : m ≤ n) : m.repr.length ≤ n.repr.length := by
  simp only [Nat.repr_eq_ofList_toDigits, String.length_ofList]
  have hbound : n < 10 ^ (Nat.toDigits 10 n).length :=
    (Nat.length_toDigits_le_iff (by decide) Nat.length_toDigits_pos).mp le_rfl
  exact (Nat.length_toDigits_le_iff (by decide) Nat.length_toDigits_pos).mpr (h.trans_lt hbound)

theorem toList_rowLabel (width number : Nat) :
    (rowLabel width number).toList =
      "Line ".toList ++ List.replicate (width - (Nat.toDigits 10 number).length) ' ' ++
        Nat.toDigits 10 number ++ ": ".toList := by
  simp [rowLabel, Nat.repr_eq_ofList_toDigits]

/-- The number of a label is justified to the right. -/
theorem rowLabel_eq (width number : Nat) :
    rowLabel width number = "Line " ++ number.repr.leftpad width ' ' ++ ": " := by
  apply String.toList_injective
  rw [toList_rowLabel]
  simp [String.leftpad, List.leftpad]

theorem length_rowLabel {width number : Nat} (h : number.repr.length ≤ width) :
    (rowLabel width number).length = width + 7 := by
  rw [Nat.repr_eq_ofList_toDigits, String.length_ofList] at h
  rw [← String.length_toList, toList_rowLabel]
  simp
  omega

theorem lineFeed_not_mem_rowLabel (width number : Nat) :
    '\n' ∉ (rowLabel width number).toList := by
  have hdigits : '\n' ∉ Nat.toDigits 10 number := by
    intro h
    exact absurd (Nat.isDigit_of_mem_toDigits (by decide) (by decide) h) (by decide)
  rw [toList_rowLabel]
  simp [hdigits]

theorem toList_markerRow (label : String) (column : Nat) :
    (markerRow label column).toList =
      List.replicate (label.length + column - 1) '-' ++ ['^'] := by
  simp [markerRow]

/-! ### Rows -/

/-- The row of a line. -/
def numberedRow (lines : List String) (width number : Nat) : String :=
  rowLabel width number ++ lines[number - 1]?.getD ""

/-- The row under a line, if the column lies in the line or right after its end. -/
def markerRows (label line : String) (column : Int) : List String :=
  if inLine line column then [markerRow label column.toNat] else []

theorem markerRows_eq (label line : String) (column : Int) :
    markerRows label line column = if 1 ≤ column ∧ column ≤ line.length + 1 then
      [.ofList (List.replicate (label.length + column.toNat - 1) '-' ++ ['^'])] else [] := by
  have hin : inLine line column ↔ 1 ≤ column ∧ column ≤ line.length + 1 := by
    rw [inLine, Bool.and_eq_true, decide_eq_true_iff, decide_eq_true_iff]
    exact Iff.rfl
  have hmarker : markerRow label column.toNat =
      .ofList (List.replicate (label.length + column.toNat - 1) '-' ++ ['^']) := by
    rw [← toList_markerRow, String.ofList_toList]
  rw [markerRows, hmarker]
  exact if_congr hin rfl rfl

section Rows

variable {lines : List String} {width target above below : Nat} {column : Int}

theorem windowRows_append (width : Nat) (place : Place) (number : Nat)
    (upper lower : List String) :
    windowRows width place number (upper ++ lower) =
      windowRows width place number upper ++
        windowRows width place (number + upper.length) lower := by
  induction upper generalizing number with
  | nil => rfl
  | cons line rest ih =>
    have hnumber : number + 1 + rest.length = number + (line :: rest).length := by
      rw [List.length_cons]
      omega
    simp only [List.cons_append, windowRows, ih, hnumber, List.append_assoc]

/-- The lines above and below that of the place have no marker. -/
theorem windowRows_context {before count : Nat} (hcount : before + count ≤ lines.length)
    (hplace : target ≤ before ∨ before + count < target) :
    windowRows width ⟨target, column⟩ (before + 1) ((lines.drop before).take count) =
      (List.range' (before + 1) count).map (numberedRow lines width) := by
  induction count generalizing before with
  | zero => rfl
  | succ count ih =>
    have hlt : before < lines.length := by omega
    have hother : (target : Int) ≠ (before + 1 : Nat) := by omega
    have hrest := @ih (before + 1) (by omega) (by omega)
    have hrow : numberedRow lines width (before + 1) =
        rowLabel width (before + 1) ++ lines[before] := by simp [numberedRow, hlt]
    rw [List.drop_eq_getElem_cons hlt, List.take_succ_cons, windowRows, hrest,
      List.range'_succ, List.map_cons, hrow, if_neg fun h => hother h.1]
    rfl

/-- A window is what is above a line of it, the line, and what is below. -/
theorem window_split (habove : above < target) (hbelow : target ≤ below)
    (hlt : target ≤ lines.length) :
    (lines.drop above).take (below - above) =
      (lines.drop above).take (target - 1 - above) ++
        lines[target - 1] :: (lines.drop target).take (below - target) := by
  have hcount : below - above = (target - 1 - above) + (below - target + 1) := by omega
  have hdrop : above + (target - 1 - above) = target - 1 := by omega
  have hnext : target - 1 + 1 = target := by omega
  have hhere : lines.drop (target - 1) = lines[target - 1] :: lines.drop target := by
    rw [List.drop_eq_getElem_cons (by omega), hnext]
  rw [hcount, List.take_add, List.drop_drop, hdrop, hhere, List.take_succ_cons]

/-- The rows of a window: those up to the line of the place, its marker, and those after it. -/
theorem windowRows_eq (habove : above < target) (hbelow : target ≤ below)
    (hlast : below ≤ lines.length) :
    windowRows width ⟨target, column⟩ (above + 1) ((lines.drop above).take (below - above)) =
      (List.range' (above + 1) (target - above)).map (numberedRow lines width) ++
        markerRows (rowLabel width target) (lines[target - 1]?.getD "") column ++
        (List.range' (target + 1) (below - target)).map (numberedRow lines width) := by
  have htarget : above + 1 + (target - 1 - above) = target := by omega
  have hrange : target - above = target - 1 - above + 1 := by omega
  have hlength : ((lines.drop above).take (target - 1 - above)).length = target - 1 - above := by
    rw [List.length_take, List.length_drop]
    omega
  have hshown : lines[target - 1]?.getD "" = lines[target - 1] := by
    rw [List.getElem?_eq_getElem, Option.getD_some]
  rw [window_split habove hbelow (by omega), windowRows_append, hlength, htarget, windowRows,
    windowRows_context (by omega) (by omega), windowRows_context (by omega) (by omega), hrange,
    List.range'_concat]
  simp [markerRows, numberedRow, hshown, htarget]

/-- The rows of the fragment at a place in the text. -/
theorem rows_eq (hlow : 1 ≤ target) (hhigh : target ≤ lines.length) (column : Int) :
    let first := max 1 (target - 2)
    let last := min lines.length (target + 2)
    let width := last.repr.length
    rows lines ⟨target, column⟩ =
      (List.range' first (target + 1 - first)).map (numberedRow lines width) ++
        markerRows (rowLabel width target) (lines[target - 1]?.getD "") column ++
        (List.range' (target + 1) (last - target)).map (numberedRow lines width) := by
  intro first last width
  have hin : ¬ ((target : Int) ≤ 0 ∨ (lines.length : Int) < target) := by omega
  obtain ⟨above, hfirst⟩ : ∃ above, first = above + 1 := ⟨first - 1, by omega⟩
  have hwindow : rows lines ⟨target, column⟩ =
      windowRows width ⟨target, column⟩ first ((lines.drop (first - 1)).take (last + 1 - first)) :=
    if_neg hin
  have hcount : last + 1 - (above + 1) = last - above := by omega
  have hrange : target + 1 - (above + 1) = target - above := by omega
  rw [hwindow, hfirst, Nat.add_sub_cancel, hcount, hrange]
  exact windowRows_eq (by omega) (by omega) (by omega)

/-- A line that is not in the text has no rows. -/
theorem rows_eq_nil {place : Place} (h : ¬ (1 ≤ place.line ∧ place.line ≤ lines.length)) :
    rows lines place = [] :=
  if_pos (by omega)

end Rows

/-! ### Fragments -/

section Fragments

variable {lines : List String} {width target : Nat} {column : Int} {place : Place}

theorem numberedRow_ne_empty (lines : List String) (width number : Nat) :
    numberedRow lines width number ≠ "" := by
  simp [numberedRow, rowLabel_eq]

/-- A place in the text has rows, and the first of them is the row of a line. -/
theorem exists_rows_eq_cons (hlow : 1 ≤ target) (hhigh : target ≤ lines.length) (column : Int) :
    ∃ width number rest,
      rows lines ⟨target, column⟩ = numberedRow lines width number :: rest := by
  obtain ⟨count, hcount⟩ : ∃ count, target + 1 - max 1 (target - 2) = count + 1 :=
    ⟨target - max 1 (target - 2), by omega⟩
  rw [rows_eq hlow hhigh, hcount, List.range'_succ]
  exact ⟨_, _, _, rfl⟩

/-- The fragment is empty exactly if the line of the place is not in the text. -/
theorem fragmentOfLines_eq_empty_iff {line : Int} :
    fragmentOfLines lines ⟨line, column⟩ = "" ↔ ¬ (1 ≤ line ∧ line ≤ lines.length) := by
  constructor
  · rintro hempty ⟨hlow, hhigh⟩
    obtain ⟨target, rfl⟩ : ∃ target : Nat, line = target := ⟨line.toNat, by omega⟩
    obtain ⟨width, number, rest, hrows⟩ :=
      exists_rows_eq_cons (Int.ofNat_le.mp hlow) (Int.ofNat_le.mp hhigh) column
    rw [fragmentOfLines, hrows] at hempty
    have hrow := numberedRow_ne_empty lines width number
    cases rest <;> simp [hrow] at hempty
  · intro hout
    rw [fragmentOfLines, rows_eq_nil hout, String.intercalate_nil]

/-- No row holds a line feed. -/
theorem lineFeed_not_mem_windowRows (hlines : ∀ line ∈ lines, '\n' ∉ line.toList)
    {number : Nat} : ∀ row ∈ windowRows width place number lines, '\n' ∉ row.toList := by
  induction lines generalizing number with
  | nil => simp [windowRows]
  | cons line rest ih =>
    obtain ⟨hline, hrest⟩ := List.forall_mem_cons.mp hlines
    have hlabel := lineFeed_not_mem_rowLabel width number
    intro row hrow
    rw [windowRows, List.cons_append] at hrow
    rcases List.mem_cons.mp hrow with rfl | hrow
    · simp [hlabel, hline]
    rcases List.mem_append.mp hrow with hrow | hrow
    · split at hrow
      · obtain rfl := List.mem_singleton.mp hrow
        simp [toList_markerRow]
      · simp at hrow
    · exact ih hrest row hrow

/-- A fragment is cut into its rows at its line feeds. -/
theorem split_fragmentOfLines (hlines : ∀ line ∈ lines, '\n' ∉ line.toList)
    (hrows : rows lines place ≠ []) :
    ((fragmentOfLines lines place).split '\n').toList.map (·.copy) = rows lines place := by
  have hfree : ∀ row ∈ rows lines place, '\n' ∉ row.toList := by
    rw [rows]
    split
    · simp
    · exact lineFeed_not_mem_windowRows fun line hline =>
        hlines line (List.mem_of_mem_drop (List.mem_of_mem_take hline))
  have hsplit := String.toList_split_intercalate hfree
  rw [if_neg hrows] at hsplit
  exact hsplit

/-- The label of a line in the window has the width of all labels. -/
theorem numberedRow_spec {last number : Nat} (hlow : 1 ≤ number) (hhigh : number ≤ last)
    (hlast : last ≤ lines.length) :
    ∃ label here, lines[number - 1]? = some here ∧
      label = "Line " ++ number.repr.leftpad last.repr.length ' ' ++ ": " ∧
      label.length = last.repr.length + 7 ∧
      numberedRow lines last.repr.length number = label ++ here := by
  have hlt : number - 1 < lines.length := by omega
  refine ⟨rowLabel last.repr.length number, lines[number - 1], List.getElem?_eq_getElem hlt,
    rowLabel_eq _ _, length_rowLabel (length_repr_le hhigh), ?_⟩
  rw [numberedRow, List.getElem?_eq_getElem hlt, Option.getD_some]

/-- The fragment of a text at a place, which is given by two integers. It is empty exactly if the
line is not in the text. Otherwise it is cut at its line feeds into one row for each line of the
window, in their order, and a row with a marker right under the line of the place, if the column
lies in the line or right after its end. Each row is a label, with the number of its line justified
to the right, and the line as it is. All labels have one width, and so the caret of the marker
stands under the column. -/
theorem fragment_shows_window (source : String) (line column : Int) :
    let lines := Text.lines source
    ∃ text, fragmentAt (.text source) (.array [.integer line, .integer column]) = .ok text ∧
      (text = "" ↔ ¬ (1 ≤ line ∧ line ≤ lines.length)) ∧
      ∀ (target : Nat) (shown : String), line = target → 1 ≤ target →
        lines[target - 1]? = some shown →
        let first := max 1 (target - 2)
        let last := min lines.length (target + 2)
        ∃ (width : Nat) (row : Nat → String) (marker : List String),
          (text.split '\n').toList.map (·.copy) =
            (List.range' first (target + 1 - first)).map row ++ marker ++
              (List.range' (target + 1) (last - target)).map row ∧
          (∀ number, first ≤ number → number ≤ last → ∃ label here,
            lines[number - 1]? = some here ∧
            label = "Line " ++ number.repr.leftpad last.repr.length ' ' ++ ": " ∧
            label.length = width ∧ row number = label ++ here) ∧
          marker = (if 1 ≤ column ∧ column ≤ shown.length + 1 then
            [.ofList (List.replicate (width + column.toNat - 1) '-' ++ ['^'])] else []) ∧
          (1 ≤ column →
            (row target).toList[width + column.toNat - 1]? = shown.toList[column.toNat - 1]?) := by
  intro lines
  have hfree : ∀ line ∈ lines, '\n' ∉ line.toList := fun _ => Text.lineFeed_not_mem_lines
  refine ⟨fragmentOfLines lines ⟨line, column⟩, rfl, fragmentOfLines_eq_empty_iff, ?_⟩
  clear_value lines
  rintro target shown rfl hlow hshown first last
  have hhigh : target ≤ lines.length := by
    have hlt := (List.getElem?_eq_some_iff.mp hshown).1
    omega
  have hrows : rows lines ⟨target, column⟩ ≠ [] := by
    obtain ⟨_, _, _, hcons⟩ := exists_rows_eq_cons hlow hhigh column
    rw [hcons]
    exact List.cons_ne_nil _ _
  obtain ⟨label, here, hhere, hlabel, hwidth, hrow⟩ :=
    numberedRow_spec hlow (Nat.le_min.mpr ⟨hhigh, Nat.le_add_right target 2⟩) (Nat.min_le_left _ _)
  obtain rfl : shown = here := Option.some.inj (hshown.symm.trans hhere)
  refine ⟨last.repr.length + 7, numberedRow lines last.repr.length,
    markerRows label shown column, ?_, ?_, ?_, ?_⟩
  · rw [split_fragmentOfLines hfree hrows, rows_eq hlow hhigh, hshown, Option.getD_some,
      rowLabel_eq, hlabel]
  · intro number hfirst hlast
    exact numberedRow_spec (by omega) hlast (by omega)
  · rw [markerRows_eq, hwidth]
  · intro hcolumn
    rw [hrow, ← hwidth, String.toList_append, ← String.length_toList,
      List.getElem?_append_right (by omega)]
    congr 1
    omega

/-- A column right after the end of a line, in a text with all kinds of line breaks. -/
theorem end_of_line_is_marked :
    let text := "Line 1: a\nLine 2: bc\n----------^\nLine 3: \nLine 4: d"
    fragmentAt (.text "a\r\nbc\n\rd") (.array [.integer 2, .integer 3]) = .ok text ∧
      ∃ (row : Nat → String) (marker : List String),
        (text.split '\n').toList.map (·.copy) = [1, 2].map row ++ marker ++ [3, 4].map row ∧
          marker = ["----------^"] := by
  intro text
  have hlines : Text.lines "a\r\nbc\n\rd" = ["a", "bc", "", "d"] := by cbv
  have hfragment : fragmentAt (.text "a\r\nbc\n\rd") (.array [.integer 2, .integer 3]) =
      .ok text := by cbv
  obtain ⟨text', htext, -, hshown⟩ := fragment_shows_window "a\r\nbc\n\rd" 2 3
  obtain rfl : text = text' := Except.ok.inj (hfragment.symm.trans htext)
  rw [hlines] at hshown
  obtain ⟨width, row, marker, hsplit, hrows, hmarker, -⟩ := hshown 2 "bc" rfl (by decide) rfl
  obtain ⟨label, -, -, hlabel, hwidth, -⟩ := hrows 2 (by decide) (by decide)
  have hlength : label.length = 8 := by
    rw [hlabel]
    cbv
  refine ⟨hfragment, row, marker, hsplit, ?_⟩
  rw [hmarker, ← hwidth, hlength]
  rfl

end Fragments

end Source

end CoffeeHost
