import CoffeeHost.Command.Run
import Mathlib.Data.List.Basic
import Mathlib.Data.List.Induction
import Mathlib.Order.Nat
import Mathlib.Tactic.SplitIfs
/-!
# Names of literate sources

A source is literate if its name ends in a certain way in lower case. The lower case of Unicode
turns some characters beyond ASCII into ASCII letters: the Kelvin sign becomes a `k`, and a capital
i with a dot becomes an `i` and a dot. Nothing else beyond ASCII becomes an ASCII letter, and no
name gets one of the two ends by it: there is no `k` in them, and after an `i` comes a `t`. So the
end of a name is all that counts, and only the case of its ASCII letters is passed over.

## Main definitions

* `Text.OnlyFromAscii` — the characters that nothing beyond ASCII ends with in lower case.
* `Command.LiterateName` — the names of literate sources, by their ends.

## Main results

* `Text.suffix_lowercaseFrom_iff` — such an end in lower case is that end in the case of ASCII.
* `Command.isLiterateFile_iff` — which names are those of literate sources.
-/

namespace CoffeeHost

namespace Text

variable {c : Char} {b : Bool}

/-- A character that the lower case of a character beyond ASCII does not end with. -/
def OnlyFromAscii (c : Char) : Prop := c.toNat < 128 ∧ c ≠ 'k'

instance (c : Char) : Decidable (OnlyFromAscii c) := inferInstanceAs (Decidable (_ ∧ _))

/-! ### One character -/

theorem lowercaseChar_ascii (h : c.toNat < 128) (rest : List Char) :
    lowercaseChar b c rest = [c.toLower] := by
  have hsmall : ∀ n < 128, smallLetter (Char.ofNat n) = (Char.ofNat n).toLower := by
    decide +kernel
  have hdotted : c ≠ '\u0130' := by rintro rfl; exact absurd h (by decide)
  have hsigma : c ≠ '\u03A3' := by rintro rfl; exact absurd h (by decide)
  have hc := hsmall c.toNat h
  rw [Char.ofNat_toNat] at hc
  rw [lowercaseChar, if_neg hdotted, if_neg hsigma, hc]

theorem toLower_of_not_ascii (h : ¬ c.toNat < 128) : c.toLower = c := by
  refine dif_neg fun ⟨_, hle⟩ => h ?_
  have hle : c.toNat ≤ 'Z'.toNat := hle
  exact hle.trans_lt (by decide)

/-- The small letters of capitals beyond ASCII are beyond ASCII as well, but for the Kelvin sign. -/
theorem capitals_not_ascii : ∀ run ∈ capitals, run.last < 128 ∨
    run = ⟨0x212A, 0x212A, 1, -8383⟩ ∨ 128 ≤ run.first + run.distance ∧
      (run.last + run.distance < 0xD800 ∨
        0xDFFF < run.first + run.distance ∧ run.last + run.distance < 0x110000) := by
  decide +kernel

theorem smallLetter_not_ascii (h : ¬ c.toNat < 128) : ¬ OnlyFromAscii (smallLetter c) := by
  rintro ⟨hascii, hk⟩
  rw [smallLetter] at hascii hk
  split at hascii
  case h_2 => exact h hascii
  case h_1 run hfound =>
    rw [hfound] at hk
    have hholds := List.find?_some hfound
    simp only [Capitals.holds, Bool.and_eq_true, decide_eq_true_eq] at hholds
    obtain ⟨⟨hfirst, hlast⟩, -⟩ := hholds
    rcases capitals_not_ascii run (List.mem_of_find?_eq_some hfound) with
      hbelow | rfl | ⟨habove, hvalid⟩
    · exact h (hlast.trans_lt hbelow)
    · have hkelvin : c.toNat = 0x212A := Nat.le_antisymm hlast hfirst
      rw [hkelvin] at hk
      exact hk rfl
    · have hpoint : ((c.toNat + run.distance).toNat).isValidChar := by
        rw [Nat.isValidChar]
        omega
      rw [Char.ofNat, dif_pos hpoint] at hascii
      have hascii : (c.toNat + run.distance).toNat < 128 := hascii
      omega

/-- The lower case of a character beyond ASCII ends with a character beyond ASCII, or with `k`. -/
theorem lowercaseChar_not_ascii (h : ¬ c.toNat < 128) (rest : List Char) :
    ∃ before last, lowercaseChar b c rest = before ++ [last] ∧ ¬ OnlyFromAscii last := by
  rw [lowercaseChar]
  split_ifs
  · exact ⟨['i'], '\u0307', rfl, by decide⟩
  · exact ⟨[], '\u03C2', rfl, by decide⟩
  · exact ⟨[], '\u03C3', rfl, by decide⟩
  · exact ⟨[], smallLetter c, rfl, smallLetter_not_ascii h⟩

/-! ### Ends of texts -/

theorem concat_suffix_concat_iff {x y : Char} {xs ys : List Char} :
    xs ++ [x] <:+ ys ++ [y] ↔ x = y ∧ xs <:+ ys := by
  simp only [List.suffix_concat_iff, List.append_eq_nil_iff, List.cons_ne_nil, and_false,
    false_or]
  constructor
  · rintro ⟨t, hsame, hsuffix⟩
    obtain ⟨rfl, hlast⟩ := List.append_inj' hsame rfl
    exact ⟨List.head_eq_of_cons_eq hlast, hsuffix⟩
  · rintro ⟨rfl, hsuffix⟩
    exact ⟨xs, rfl, hsuffix⟩

/-- The lower case of a text, character by character. -/
theorem exists_pieces (text : List Char) (b : Bool) :
    ∃ pieces : List (Char × List Char), pieces.map Prod.fst = text ∧
      (pieces.map Prod.snd).flatten = lowercaseFrom b text ∧
      ∀ piece ∈ pieces, ∃ b rest, piece.2 = lowercaseChar b piece.1 rest := by
  induction text generalizing b with
  | nil => exact ⟨[], rfl, rfl, by simp⟩
  | cons c rest ih =>
    obtain ⟨pieces, hfst, hsnd, hall⟩ := ih (if within caseIgnorable c then b else within cases c)
    refine ⟨(c, lowercaseChar b c rest) :: pieces, by simp [hfst], by simp [hsnd, lowercaseFrom],
      ?_⟩
    rintro piece (_ | ⟨_, hmem⟩)
    · exact ⟨b, rest, rfl⟩
    · exact hall piece hmem

/-- An end that nothing beyond ASCII gives rise to is an end of the lower case of a text if it is
one when only the ASCII letters are put in lower case. -/
theorem suffix_lowercaseFrom_iff {ending : List Char} (hending : ∀ c ∈ ending, OnlyFromAscii c)
    (text : List Char) (b : Bool) :
    ending <:+ lowercaseFrom b text ↔ ending <:+ text.map Char.toLower := by
  obtain ⟨pieces, rfl, hsnd, hall⟩ := exists_pieces text b
  rw [← hsnd]
  clear hsnd
  -- From the last character on to the first, because ends are compared from the right.
  induction pieces using List.reverseRecOn generalizing ending with
  | nil => simp
  | append_singleton pieces piece ih =>
    rcases List.eq_nil_or_concat' ending with rfl | ⟨before, last, rfl⟩
    · simp
    obtain ⟨b', rest, hpiece⟩ := hall piece (by simp)
    have hlast := hending last (by simp)
    have ih := ih (fun c hc => hending c (List.mem_append_left _ hc))
      (fun piece hmem => hall piece (List.mem_append_left _ hmem))
    by_cases hascii : piece.1.toNat < 128
    · rw [lowercaseChar_ascii hascii] at hpiece
      simp only [List.map_append, List.map_cons, List.map_nil, List.flatten_append,
        List.flatten_cons, List.flatten_nil, List.append_nil, hpiece, concat_suffix_concat_iff, ih]
    · obtain ⟨before', last', hends, hbeyond⟩ := lowercaseChar_not_ascii (b := b') hascii rest
      have hne : last ≠ last' := fun h => hbeyond (h ▸ hlast)
      have hne' : last ≠ piece.1 := fun h => hascii (h ▸ hlast.1)
      simp only [List.map_append, List.map_cons, List.map_nil, List.flatten_append,
        List.flatten_cons, List.flatten_nil, List.append_nil, hpiece, hends, ← List.append_assoc,
        concat_suffix_concat_iff, toLower_of_not_ascii hascii, hne, hne', false_and]

end Text

namespace Command

/-- The names of literate sources: those with one of the two ends, each letter of it large or
small. -/
def LiterateName (name : String) : Prop :=
  ∃ stem ending : String, name = stem ++ ending ∧ ending.map Char.toLower ∈ literateExtensions

theorem literateName_iff {name : String} : LiterateName name ↔
    ∃ ending ∈ literateExtensions, ending.toList <:+ name.toList.map Char.toLower := by
  constructor
  · rintro ⟨stem, ending, rfl, hmem⟩
    refine ⟨_, hmem, ?_⟩
    simp
  · rintro ⟨ending, hmem, lowered, hname⟩
    obtain ⟨stem, own, hsplit, -, hown⟩ := List.map_eq_append_iff.mp hname.symm
    refine ⟨String.ofList stem, String.ofList own, ?_, ?_⟩
    · rw [← String.ofList_append, ← hsplit, String.ofList_toList]
    · have hlower : (String.ofList own).map Char.toLower = ending := by
        rw [← String.toList_inj]
        simpa using hown
      rwa [hlower]

/-- A source counts as literate exactly if its name has one of the two ends, in any ASCII case. -/
theorem isLiterateFile_iff (name : String) : isLiterateFile name = true ↔ LiterateName name := by
  have hplain : ∀ ending ∈ literateExtensions,
      ending.toList.all fun c => decide (Text.OnlyFromAscii c) := by
    decide
  rw [literateName_iff]
  simp only [isLiterateFile, List.any_eq_true, List.isSuffixOf_iff_suffix, Text.lowercase,
    String.toList_ofList]
  refine exists_congr fun ending => and_congr_right fun hmem => ?_
  have hending := hplain ending hmem
  simp only [List.all_eq_true, decide_eq_true_eq] at hending
  exact Text.suffix_lowercaseFrom_iff hending name.toList false

/-- With a dotted capital i, the end is not that of a literate source. -/
example : isLiterateFile "a.L\u0130TCOFFEE" = false := by decide +kernel

end Command

end CoffeeHost
