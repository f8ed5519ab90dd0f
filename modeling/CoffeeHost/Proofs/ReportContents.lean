import CoffeeHost.Proofs.NumberTexts
import CoffeeHost.Report.Outcome
/-!
# Reports are unambiguous

The report of a failure is written in *parts*, each a label, a body and a line feed; a part whose
body is missing is left out, label and all. A diagnostic and a fault have different labels after the
message. So as long as no body but the last one holds a line feed, the report tells which parts are
there and what their bodies are: it determines the *content* of the failure, which is all that the
report is made from. The fragment of a diagnostic is its last part and may hold line feeds, also
lines that look like parts.

## Main definitions

* `Failure.Content` — what a report shows; `Failure.content`.
* `Fault.Made`, `Failure.Made` — failures with a payload as it is made.
* `Report.part`, `Report.parts` — the parts of reports.

## Main results

* `Report.parts_inj` — parts can be told apart if their labels can.
* `Diagnostic.toList_report`, `Fault.toList_report` — the two reports in parts.
* `Failure.report_determines_content` — failures with the same report show the same.
-/

namespace CoffeeHost

/-! ### Contents -/

/-- A position that is known. -/
def Diagnostic.known? (position : Int) : Option Int := if 0 < position then some position else none

/-- The resource of a fault that is about one. -/
def Fault.namedResource? (f : Fault) : Option String := f.resource.filter (· ≠ "")

namespace Failure

/-- What the report of a failure shows: the channel, the message, and the things that are known. -/
inductive Content
  | diagnostic (message : String) (line column : Option Int) (fragment : Option String)
  | fault (message : String) (resource : Option String) (category : String)
  deriving DecidableEq, Repr

/-- The content of a failure. Positions that are not positive, fragments that show nothing and the
empty resource are absent. -/
def content : Failure → Content
  | diagnostic d =>
    .diagnostic d.message (Diagnostic.known? d.line) (Diagnostic.known? d.column)
      d.visibleFragment?
  | fault f => .fault f.message f.namedResource? f.category

/-- The texts of a failure that stand in one line each. -/
def lineTexts : Failure → List String
  | diagnostic d => [d.message]
  | fault f => f.message :: f.resource.toList ++ [f.category]

end Failure

/-- Faults as they are made: of the engine, with a category or without, or of something that was
given back. -/
inductive Fault.Made : Fault → Prop
  | of (message : String) (resource category : Option String) : Made (.of message resource category)
  | disposed (message : String) : Made (.disposed message)

/-- A fault without a category gets the general one, and so does one with an empty category. -/
theorem Fault.Made.category_ne {f : Fault} (h : f.Made) : f.category ≠ "" := by
  cases h with
  | of message resource category =>
    cases category with
    | none => simp [Fault.of, Fault.category, Category.general]
    | some category =>
      by_cases hempty : category = "" <;>
        simp [Fault.of, Fault.category, Option.filter, hempty, Category.general]
  | disposed message => simp [Fault.category, Category.disposed]

/-- Failures whose payload was made: any diagnostic, or a fault as it is made. -/
def Failure.Made : Failure → Prop
  | diagnostic _ => True
  | fault f => f.Made

/-! ### Parts -/

namespace Report

/-- A part of a report in front of the rest: the label, the body and a line feed, or nothing if
there is no body. -/
def part (label : List Char) (body? : Option (List Char)) (rest : List Char) : List Char :=
  match body? with
  | none => rest
  | some body => label ++ body ++ '\n' :: rest

/-- Parts one after the other, each given by its label and its body. -/
def parts : List (List Char × Option (List Char)) → List Char
  | [] => []
  | (label, body?) :: rest => part label body? (parts rest)

/-- Two labels neither of which begins the other. -/
def Apart (label label' : List Char) : Prop := ¬ label <+: label' ∧ ¬ label' <+: label

instance (label label' : List Char) : Decidable (Apart label label') :=
  inferInstanceAs (Decidable (_ ∧ _))

variable {label label' rest rest' : List Char} {body? body?' : Option (List Char)}
  {ps qs : List (List Char × Option (List Char))}

theorem Apart.ne_nil (h : Apart label label') : label ≠ [] := by
  rintro rfl
  exact h.1 (List.nil_prefix ..)

theorem part_none (label rest : List Char) : part label none rest = rest := rfl

theorem prefix_part (label body rest : List Char) : label <+: part label (some body) rest := by
  rw [part, List.append_assoc]
  exact List.prefix_append ..

/-- Parts with other labels do not begin with a label. -/
theorem not_prefix_parts (hlabel : label ≠ []) (h : ∀ p ∈ ps, Apart label p.1) :
    ¬ label <+: parts ps := by
  induction ps with
  | nil => simpa [parts] using hlabel
  | cons first more ih =>
    obtain ⟨label', _ | body⟩ := first
    · exact ih fun p hp => h p (List.mem_cons_of_mem _ hp)
    · obtain ⟨hno, hno'⟩ := h (label', some body) (List.mem_cons_self ..)
      exact fun hbegins =>
        (List.prefix_or_prefix_of_prefix hbegins (prefix_part label' body _)).elim hno hno'

/-- Up to the first line feed, texts can be told apart. -/
theorem append_lineFeed_inj {line line' : List Char} (h : '\n' ∉ line) (h' : '\n' ∉ line')
    (heq : line ++ '\n' :: rest = line' ++ '\n' :: rest') : line = line' ∧ rest = rest' := by
  induction line generalizing line' with
  | nil =>
    cases line' with
    | nil => exact ⟨rfl, (List.cons.inj heq).2⟩
    | cons c line' => exact absurd ((List.cons.inj heq).1 ▸ List.mem_cons_self ..) h'
  | cons c line ih =>
    cases line' with
    | nil => exact absurd ((List.cons.inj heq).1 ▸ List.mem_cons_self ..) h
    | cons c' line' =>
      obtain ⟨rfl, htail⟩ := List.cons.inj heq
      obtain ⟨rfl, hsame⟩ := ih (fun hmem => h (List.mem_cons_of_mem _ hmem))
        (fun hmem => h' (List.mem_cons_of_mem _ hmem)) htail
      exact ⟨rfl, hsame⟩

/-- A part can be told from what follows it, if that does not begin with the label of the part and
the body holds no line feed. -/
theorem part_inj (hbody : ∀ body ∈ body?, '\n' ∉ body) (hbody' : ∀ body ∈ body?', '\n' ∉ body)
    (hrest : ¬ label <+: rest) (hrest' : ¬ label <+: rest')
    (h : part label body? rest = part label body?' rest') : body? = body?' ∧ rest = rest' := by
  cases body? with
  | none =>
    cases body?' with
    | none => exact ⟨rfl, h⟩
    | some body' =>
      have hlabel := prefix_part label body' rest'
      rw [← h] at hlabel
      exact absurd hlabel hrest
  | some body =>
    cases body?' with
    | none =>
      have hlabel := prefix_part label body rest
      rw [h] at hlabel
      exact absurd hlabel hrest'
    | some body' =>
      simp only [part, List.append_assoc, List.append_cancel_left_eq] at h
      obtain ⟨rfl, hsame⟩ := append_lineFeed_inj (hbody body rfl) (hbody' body' rfl) h
      exact ⟨rfl, hsame⟩

/-- Nothing follows the last part, so its body may hold line feeds. -/
theorem last_part_inj (h : part label body? [] = part label body?' []) : body? = body?' := by
  cases body? <;> cases body?' <;> simp_all [part]

/-- No body holds a line feed, except the last one. -/
def InLines (ps : List (List Char × Option (List Char))) : Prop :=
  ∀ p ∈ ps.dropLast, ∀ body ∈ p.2, '\n' ∉ body

/-- Parts with the same labels can be told apart, if the labels can. -/
theorem parts_inj (h : parts ps = parts qs) (hlabels : ps.map Prod.fst = qs.map Prod.fst)
    (hapart : (ps.map Prod.fst).Pairwise Apart) (hps : InLines ps) (hqs : InLines qs) :
    ps = qs := by
  induction ps generalizing qs with
  | nil => simpa using hlabels
  | cons first more ih =>
    obtain ⟨label, body?⟩ := first
    obtain _ | ⟨⟨label', body?'⟩, more'⟩ := qs
    · simp at hlabels
    obtain ⟨rfl, hmore⟩ := List.cons.inj hlabels
    obtain ⟨hfirst, hrest⟩ := List.pairwise_cons.mp hapart
    cases more with
    | nil =>
      obtain rfl : more' = [] := by simpa using hmore
      rw [last_part_inj h]
    | cons second more =>
      obtain _ | ⟨second', more'⟩ := more'
      · simp at hmore
      have hne : label ≠ [] := (hfirst second.1 (by simp)).ne_nil
      have hbegins {ps : List (List Char × Option (List Char))}
          (hps : (second :: more).map Prod.fst = ps.map Prod.fst) : ¬ label <+: parts ps :=
        not_prefix_parts hne fun p hp => hfirst p.1 (hps ▸ List.mem_map_of_mem hp)
      obtain ⟨rfl, hsame⟩ := part_inj (hps _ (List.mem_cons_self ..))
        (hqs _ (List.mem_cons_self ..)) (hbegins rfl) (hbegins hmore) h
      have hlines {p q : List Char × Option (List Char)}
          {ps : List (List Char × Option (List Char))} (hall : InLines (p :: q :: ps)) :
          InLines (q :: ps) := fun r hr => hall r (List.mem_cons_of_mem _ hr)
      rw [ih hsame hmore hrest (hlines hps) (hlines hqs)]

/-- The sections of a report, each ended by a line feed. -/
theorem toList_sections (first : String) (more : List String) :
    ("\n".intercalate (first :: more) ++ "\n").toList =
      (first :: more).flatMap fun line => line.toList ++ ['\n'] := by
  induction more generalizing first with
  | nil => simp
  | cons second more ih =>
    have hrest := ih second
    simp only [String.toList_append, String.toList_intercalate, List.map_cons] at hrest ⊢
    rw [List.intercalate_cons_cons, List.flatMap_cons, ← hrest]
    simp

end Report

/-! ### The parts of the two reports -/

namespace Diagnostic

/-- The parts of the report of a diagnostic that can follow the message. -/
def details (d : Diagnostic) : List (List Char × Option (List Char)) :=
  [("Line Number: ".toList, (known? d.line).map fun line => line.repr.toList),
    ("Column Number: ".toList, (known? d.column).map fun column => column.repr.toList),
    ("Source Error:\n\n".toList, d.visibleFragment?.map String.toList)]

/-- The parts of the report of a diagnostic. -/
def parts (d : Diagnostic) : List (List Char × Option (List Char)) :=
  ("Message: ".toList, some d.message.toList) :: d.details

/-- The labels in the report of a diagnostic can be told apart. -/
theorem labels_apart (d : Diagnostic) : (d.parts.map Prod.fst).Pairwise Report.Apart := by
  have hlabels : d.parts.map Prod.fst = ["Message: ".toList, "Line Number: ".toList,
    "Column Number: ".toList, "Source Error:\n\n".toList] := rfl
  rw [hlabels]
  decide

/-- The report of a diagnostic in parts. -/
theorem toList_report (d : Diagnostic) : d.report.toList = Report.parts d.parts := by
  have hnumber (i : Int) : toString i = i.repr := rfl
  have htext (s : String) : toString s = s := rfl
  rw [report, sections, List.append_assoc, List.append_assoc, List.singleton_append,
    Report.toList_sections]
  cases hfragment : d.visibleFragment? <;> by_cases hline : 0 < d.line <;>
    by_cases hcolumn : 0 < d.column <;>
    simp [parts, details, Report.parts, Report.part, known?, hline, hcolumn, hfragment, hnumber,
      htext]

variable {position position' : Int}

/-- The text of a known position is that of a natural number. -/
theorem toList_position (h : 0 < position) :
    position.repr.toList = Nat.toDigits 10 position.toNat := by
  rw [Int.repr_eq_if, if_pos h.le, Nat.toList_repr]

/-- The text of a known position holds nothing but digits. -/
theorem lineFeed_notMem_position :
    ∀ body ∈ (known? position).map fun i => i.repr.toList, '\n' ∉ body := by
  rintro body hbody hmem
  by_cases hpos : 0 < position
  · obtain rfl : position.repr.toList = body := by simpa [known?, hpos] using hbody
    rw [toList_position hpos] at hmem
    have hdigit := Nat.isDigit_of_mem_toDigits (by decide) (by decide) hmem
    exact absurd hdigit (by decide)
  · simp [known?, hpos] at hbody

/-- Positions with the same text are the same, as far as they are known. -/
theorem known?_inj
    (h : ((known? position).map fun i => i.repr.toList) =
      (known? position').map fun i => i.repr.toList) : known? position = known? position' := by
  by_cases hpos : 0 < position <;> by_cases hpos' : 0 < position'
  · have htexts : Nat.toDigits 10 position.toNat = Nat.toDigits 10 position'.toNat := by
      simpa [known?, hpos, hpos', toList_position] using h
    have hvalues := congrArg Json.digitsValue htexts
    rw [Json.digitsValue_toDigits, Json.digitsValue_toDigits] at hvalues
    obtain rfl : position = position' := by omega
    rfl
  · simp [known?, hpos, hpos'] at h
  · simp [known?, hpos, hpos'] at h
  · simp [known?, hpos, hpos']

/-- Only the fragment may hold line feeds. -/
theorem inLines_parts {d : Diagnostic} (h : '\n' ∉ d.message.toList) :
    Report.InLines d.parts := by
  intro p hp
  simp only [parts, details, List.dropLast_cons_cons, List.dropLast_singleton, List.mem_cons,
    List.not_mem_nil, or_false] at hp
  obtain rfl | rfl | rfl := hp
  · simpa using h
  · exact lineFeed_notMem_position
  · exact lineFeed_notMem_position

end Diagnostic

namespace Fault

/-- The parts of the report of a fault that follow the message. -/
def details (f : Fault) : List (List Char × Option (List Char)) :=
  [("Resource: ".toList, f.namedResource?.map String.toList),
    ("Category: ".toList, some f.category.toList)]

/-- The parts of the report of a fault. -/
def parts (f : Fault) : List (List Char × Option (List Char)) :=
  ("Message: ".toList, some f.message.toList) :: f.details

/-- The labels in the report of a fault can be told apart. -/
theorem labels_apart (f : Fault) : (f.parts.map Prod.fst).Pairwise Report.Apart := by
  have hlabels : f.parts.map Prod.fst =
      ["Message: ".toList, "Resource: ".toList, "Category: ".toList] := rfl
  rw [hlabels]
  decide

/-- The report of a fault in parts. -/
theorem toList_report {f : Fault} (hcategory : f.category ≠ "") :
    f.report.toList = Report.parts f.parts := by
  have htext (s : String) : toString s = s := rfl
  have hnamed : f.resource.filter (· ≠ "") = f.namedResource? := rfl
  rw [report, sections, List.append_assoc, List.singleton_append, Report.toList_sections, hnamed]
  cases hresource : f.namedResource? <;>
    simp [parts, details, Report.parts, Report.part, hcategory, hresource, htext]

/-- Message and resource are in one line each. -/
theorem inLines_parts {f : Fault}
    (h : ∀ text ∈ (Failure.fault f).lineTexts, '\n' ∉ text.toList) :
    Report.InLines f.parts := by
  intro p hp
  simp only [parts, details, List.dropLast_cons_cons, List.dropLast_singleton, List.mem_cons,
    List.not_mem_nil, or_false] at hp
  obtain rfl | rfl := hp
  · simpa using h f.message (by simp [Failure.lineTexts])
  · rintro body hbody
    obtain ⟨resource, hnamed, rfl⟩ := Option.map_eq_some_iff.mp hbody
    have hthere : f.resource = some resource := (Option.filter_eq_some_iff.mp hnamed).1
    exact h resource (by simp [Failure.lineTexts, hthere])

/-- After the message, the report of a fault goes on with the resource or the category. -/
theorem prefix_details (f : Fault) :
    "Resource: ".toList <+: Report.parts f.details ∨
      "Category: ".toList <+: Report.parts f.details := by
  simp only [details, Report.parts]
  cases f.namedResource? with
  | none =>
    rw [Option.map_none, Report.part_none]
    exact .inr (Report.prefix_part ..)
  | some resource => exact .inl (Report.prefix_part ..)

end Fault

/-! ### Reports and contents -/

namespace Failure

variable {d d' : Diagnostic} {f f' : Fault}

/-- Texts can be told from their characters, if there are any. -/
theorem map_toList_inj {text? text?' : Option String}
    (h : text?.map String.toList = text?'.map String.toList) : text? = text?' :=
  Option.map_injective (fun _ _ hsame => String.toList_inj.mp hsame) h

/-- The report of a diagnostic tells its content. -/
theorem content_eq_of_diagnostic_report (hline : '\n' ∉ d.message.toList)
    (hline' : '\n' ∉ d'.message.toList) (h : d.report = d'.report) :
    (diagnostic d).content = (diagnostic d').content := by
  rw [← String.toList_inj, d.toList_report, d'.toList_report] at h
  have hsame := Report.parts_inj h rfl d.labels_apart (Diagnostic.inLines_parts hline)
    (Diagnostic.inLines_parts hline')
  simp only [Diagnostic.parts, Diagnostic.details, List.cons.injEq, Prod.mk.injEq, true_and,
    and_true, Option.some.injEq, String.toList_inj] at hsame
  obtain ⟨hmessage, hlines, hcolumns, hfragments⟩ := hsame
  rw [content, content, hmessage, Diagnostic.known?_inj hlines, Diagnostic.known?_inj hcolumns,
    map_toList_inj hfragments]

/-- The report of a fault tells its content. -/
theorem content_eq_of_fault_report (hmade : f.Made) (hmade' : f'.Made)
    (hlines : ∀ text ∈ (fault f).lineTexts, '\n' ∉ text.toList)
    (hlines' : ∀ text ∈ (fault f').lineTexts, '\n' ∉ text.toList) (h : f.report = f'.report) :
    (fault f).content = (fault f').content := by
  rw [← String.toList_inj, Fault.toList_report hmade.category_ne,
    Fault.toList_report hmade'.category_ne] at h
  have hsame := Report.parts_inj h rfl f.labels_apart (Fault.inLines_parts hlines)
    (Fault.inLines_parts hlines')
  simp only [Fault.parts, Fault.details, List.cons.injEq, Prod.mk.injEq, true_and, and_true,
    Option.some.injEq, String.toList_inj] at hsame
  obtain ⟨hmessage, hresources, hcategories⟩ := hsame
  rw [content, content, hmessage, hcategories, map_toList_inj hresources]

/-- After the same message, a fault goes on with its resource or its category, and a diagnostic has
neither. -/
theorem diagnostic_report_ne (hmade : f.Made) (hline : '\n' ∉ d.message.toList)
    (hline' : '\n' ∉ f.message.toList) : d.report ≠ f.report := by
  intro h
  rw [← String.toList_inj, d.toList_report, Fault.toList_report hmade.category_ne] at h
  have hapart {label : List Char} {ps : List (List Char × Option (List Char))}
      (hlabel : label ≠ []) (hall : ∀ label' ∈ ps.map Prod.fst, Report.Apart label label') :
      ¬ label <+: Report.parts ps :=
    Report.not_prefix_parts hlabel fun p hp => hall p.1 (List.mem_map_of_mem hp)
  have hnever {label : List Char} (hlabel : label ≠ []) (hall : ∀ label' ∈
      ["Line Number: ".toList, "Column Number: ".toList, "Source Error:\n\n".toList],
      Report.Apart label label') : ¬ label <+: Report.parts d.details := hapart hlabel hall
  have hmessage := (List.pairwise_cons.mp d.labels_apart).1
  have hmessage' := (List.pairwise_cons.mp f.labels_apart).1
  obtain ⟨-, hdetails⟩ := Report.part_inj (by simpa using hline) (by simpa using hline')
    (hapart (by simp) hmessage) (hapart (by simp) hmessage') h
  rcases f.prefix_details with hbegins | hbegins <;> rw [← hdetails] at hbegins
  · exact hnever (by decide) (by decide) hbegins
  · exact hnever (by decide) (by decide) hbegins

/-- Two failures with the same report, of any kind. Unless a message, a resource or a category among
them has more than one line, they show the same: they are both diagnostics or both faults, and have
the same message and the same of all that is known about them. -/
theorem report_determines_content {a b : Failure} (ha : a.Made) (hb : b.Made)
    (h : a.report = b.report) :
    (∃ text ∈ a.lineTexts ++ b.lineTexts, '\n' ∈ text.toList) ∨ a.content = b.content := by
  by_cases hbroken : ∃ text ∈ a.lineTexts ++ b.lineTexts, '\n' ∈ text.toList
  · exact .inl hbroken
  have hlines (text : String) (htext : text ∈ a.lineTexts) : '\n' ∉ text.toList := fun hmem =>
    hbroken ⟨text, List.mem_append_left _ htext, hmem⟩
  have hlines' (text : String) (htext : text ∈ b.lineTexts) : '\n' ∉ text.toList := fun hmem =>
    hbroken ⟨text, List.mem_append_right _ htext, hmem⟩
  right
  cases a with
  | diagnostic d =>
    have hline : '\n' ∉ d.message.toList := hlines d.message (List.mem_cons_self ..)
    cases b with
    | diagnostic d' =>
      have hline' : '\n' ∉ d'.message.toList := hlines' d'.message (List.mem_cons_self ..)
      exact content_eq_of_diagnostic_report hline hline' h
    | fault f =>
      have hline' : '\n' ∉ f.message.toList := hlines' f.message (List.mem_cons_self ..)
      exact absurd h (diagnostic_report_ne hb hline hline')
  | fault f =>
    cases b with
    | diagnostic d =>
      have hline : '\n' ∉ f.message.toList := hlines f.message (List.mem_cons_self ..)
      have hline' : '\n' ∉ d.message.toList := hlines' d.message (List.mem_cons_self ..)
      exact absurd h.symm (diagnostic_report_ne ha hline' hline)
    | fault f' => exact content_eq_of_fault_report ha hb hlines hlines' h

/-- An empty resource is not shown, and an empty category is the general one. -/
theorem empty_resource_is_not_shown :
    let a := fault (.of "Script error" (some "") (some ""))
    let b := fault (.of "Script error" none none)
    a ≠ b ∧ a.report = b.report ∧ a.content = b.content := by
  intro a b
  have hreport : a.report = b.report := by cbv
  have hlines : ¬ ∃ text ∈ a.lineTexts ++ b.lineTexts, '\n' ∈ text.toList := by decide
  have ha : a.Made := Fault.Made.of ..
  have hb : b.Made := Fault.Made.of ..
  exact ⟨by decide, hreport, (report_determines_content ha hb hreport).resolve_left hlines⟩

/-- A message of two lines can look like a message and a category. -/
example : (diagnostic ⟨"m\nCategory: c", 0, 0, none⟩).report =
    (fault (.of "m" none (some "c"))).report := by cbv

end Failure

end CoffeeHost
