import Mathlib
import CoffeeHost.Exchange.Answer
import CoffeeHost.Proofs.ReportContents
import CoffeeHost.Proofs.SourceWindow
/-!
# Reports of errors found in a text

The diagnostic of an error takes the fragment of the source along, and its report leaves out a
fragment that shows nothing. For a place in the text that never happens, not even among blank lines:
the fragment begins with the label of a line. For a place outside of the text the fragment is empty.
So the report shows the fragment exactly if the line is one of the text, and as the line is then
positive, its number stands above the fragment.

## Main results

* `Source.allBlank_fragmentOfLines_iff` — which fragments show nothing.
* `Diagnostic.report_eq` — the report of a diagnostic, part by part.
* `Entry.report_shows_what_is_known` — the report of an error in a text.
-/

namespace CoffeeHost

namespace Source

variable {lines : List String} {line column : Int}

/-- A fragment at a place in the text begins with the label of a line. -/
theorem head?_fragmentOfLines (h : 1 ≤ line ∧ line ≤ lines.length) :
    (fragmentOfLines lines ⟨line, column⟩).toList.head? = some 'L' := by
  obtain ⟨target, rfl⟩ : ∃ target : Nat, line = target := ⟨line.toNat, by omega⟩
  obtain ⟨hlow, hhigh⟩ : 1 ≤ target ∧ target ≤ lines.length := by omega
  obtain ⟨width, number, rest, hrows⟩ := exists_rows_eq_cons hlow hhigh column
  rw [fragmentOfLines, hrows]
  cases rest <;> simp [numberedRow, rowLabel_eq]

/-- A fragment shows nothing only if the line of the place is not in the text. -/
theorem allBlank_fragmentOfLines_iff :
    Text.allBlank (fragmentOfLines lines ⟨line, column⟩) = true ↔
      ¬ (1 ≤ line ∧ line ≤ lines.length) := by
  constructor
  · intro hblank hin
    have hlabel : 'L' ∈ (fragmentOfLines lines ⟨line, column⟩).toList :=
      List.mem_of_mem_head? (head?_fragmentOfLines hin)
    exact absurd (List.all_eq_true.mp hblank 'L' hlabel) (by decide)
  · intro hout
    rw [fragmentOfLines_eq_empty_iff.mpr hout]
    rfl

end Source

/-- Parts one after the other, those without a body left out. -/
theorem Report.toList_parts (ps : List (List Char × Option (List Char))) :
    Report.parts ps = ps.flatMap fun (label, body?) =>
      body?.elim [] fun body => label ++ body ++ ['\n'] := by
  induction ps with
  | nil => rfl
  | cons first rest ih =>
    obtain ⟨label, _ | body⟩ := first <;> simp [Report.parts, Report.part, ih]

/-- The report of a diagnostic, part by part. -/
theorem Diagnostic.report_eq (d : Diagnostic) :
    d.report =
      "Message: " ++ d.message ++ "\n" ++
      (if 0 < d.line then "Line Number: " ++ d.line.repr ++ "\n" else "") ++
      (if 0 < d.column then "Column Number: " ++ d.column.repr ++ "\n" else "") ++
      d.visibleFragment?.elim "" fun fragment => "Source Error:\n\n" ++ fragment ++ "\n" := by
  have hposition (i : Int) (label : String) :
      (((known? i).map fun i => i.repr.toList).elim [] fun body => label.toList ++ body ++ ['\n']) =
      (if 0 < i then label ++ i.repr ++ "\n" else "").toList := by
    rw [known?]
    split <;> simp
  have hfragment (label : String) (fragment? : Option String) :
      ((fragment?.map String.toList).elim [] fun body => label.toList ++ body ++ ['\n']) =
      (fragment?.elim "" fun fragment => label ++ fragment ++ "\n").toList := by
    cases fragment? <;> simp
  apply String.toList_injective
  rw [d.toList_report, Report.toList_parts]
  simp only [parts, details, List.flatMap_cons, List.flatMap_nil]
  rw [hposition, hposition, hfragment]
  simp

namespace Entry

variable (entry : Entry) (source : String)

/-- The fragment of an error is shown exactly if its line is one of the text. -/
theorem visibleFragment?_of_diagnostic {d : Diagnostic}
    (h : entry.diagnostic (.text source) = .ok d) :
    d.visibleFragment? =
      if 1 ≤ entry.line ∧ entry.line ≤ (Text.lines source).length then
        some (Source.fragment source ⟨entry.line, entry.column⟩) else none := by
  obtain rfl := Except.ok.inj h
  have hblank : Text.allBlank (Source.fragment source ⟨entry.line, entry.column⟩) = true ↔
      ¬ (1 ≤ entry.line ∧ entry.line ≤ (Text.lines source).length) :=
    Source.allBlank_fragmentOfLines_iff
  change Option.filter _ (some (Source.fragment source ⟨entry.line, entry.column⟩)) = _
  by_cases hin : 1 ≤ entry.line ∧ entry.line ≤ (Text.lines source).length
  · rw [if_pos hin, Option.filter_some_pos]
    simpa [hin] using hblank
  · rw [if_neg hin, Option.filter_some_neg]
    simpa [hin] using hblank

/-- The report of an error in a text, part by part: the message; the line and the column, if they
are positive; and the fragment at that place as it is, exactly if the line is one of the text. Each
part ends with a line feed. Where the fragment is left out, it is empty. -/
theorem report_shows_what_is_known :
    ∃ d fragment, entry.diagnostic (.text source) = .ok d ∧
      Source.fragmentAt (.text source) (.array [.integer entry.line, .integer entry.column]) =
        .ok fragment ∧
      (fragment = "" ↔ ¬ (1 ≤ entry.line ∧ entry.line ≤ (Text.lines source).length)) ∧
      d.report =
        "Message: " ++ entry.message ++ "\n" ++
        (if 0 < entry.line then "Line Number: " ++ entry.line.repr ++ "\n" else "") ++
        (if 0 < entry.column then "Column Number: " ++ entry.column.repr ++ "\n" else "") ++
        (if 1 ≤ entry.line ∧ entry.line ≤ (Text.lines source).length then
          "Source Error:\n\n" ++ fragment ++ "\n" else "") := by
  let d : Diagnostic := ⟨entry.message, entry.line, entry.column,
    some (Source.fragment source ⟨entry.line, entry.column⟩)⟩
  have hdiagnostic : entry.diagnostic (.text source) = .ok d := rfl
  refine ⟨d, Source.fragment source ⟨entry.line, entry.column⟩, hdiagnostic, rfl,
    Source.fragmentOfLines_eq_empty_iff, ?_⟩
  rw [d.report_eq, entry.visibleFragment?_of_diagnostic source hdiagnostic]
  by_cases hin : 1 ≤ entry.line ∧ entry.line ≤ (Text.lines source).length
  · rw [if_pos hin, if_pos hin, Option.elim_some]
  · rw [if_neg hin, if_neg hin, Option.elim_none]

/-- A line of blanks, which is shown all the same. -/
example : ((Entry.mk "unexpected indentation" 2 0).diagnostic (.text "\u2028\r\u3000")).map
    Diagnostic.report = .ok ("Message: unexpected indentation\nLine Number: 2\n" ++
      "Source Error:\n\nLine 1: \u2028\nLine 2: \u3000\n") := by cbv

end Entry

end CoffeeHost
