import Mathlib
import CoffeeHost.Exchange.Call
import CoffeeHost.Proofs.LiteralReading
/-!
# Reading the call of the helper script back

The source of a call can contain anything, also the brackets, quotes and separators of the call
itself. It is read back all the same, because its literal ends at the first quote that is not
escaped, and so are the options after it. So a call tells its source and its options.

## Main results

* `CompileCall.readFront_literal`, `CompileCall.readFront_options` — the two values of a call.
* `CompileCall.text_decodes` — the whole call.
-/

namespace CoffeeHost

open Json (Document.readFront Value)

/-- Options are made from a truth value, and hold it. -/
theorem CompileOptions.ofLiterate_boolean (literate : Bool) :
    ofLiterate (.boolean literate) = .ok ⟨literate⟩ := by
  cases literate <;> cbv

namespace CompileCall

/-- What follows the opening bracket of a call. -/
def argumentChars (source : String) (options : CompileOptions) : List Char :=
  Json.literalChars .ascii source.toList ++ (", " ++ options.literal ++ ");").toList

theorem text_toList (source : String) (options : CompileOptions) (helper : String) :
    (text (.text source) options helper).toList =
      (helper ++ ".compile(").toList ++ argumentChars source options := by
  have htext : text (.text source) options helper =
      helper ++ ".compile(" ++ Json.literal .ascii source ++ ", " ++ options.literal ++ ");" := rfl
  simp [htext, argumentChars, Json.literal]

/-- A literal is one value for the reader of documents, whatever follows it. -/
theorem readFront_literal (escaping : Json.Escaping) (source : String) (rest : List Char) :
    Document.readFront (Json.literalChars escaping source.toList ++ rest) =
      .ok (.text source, rest) := by
  have hread := Json.readString_literal escaping source rest
  simp only [Document.readFront, Json.literalChars, List.cons_append, List.append_assoc,
    List.nil_append, Json.readValue, hread]
  rfl

/-- The options of a call are one value, too. -/
theorem readFront_options (literate : Bool) :
    Document.readFront ((CompileOptions.mk literate).literal ++ ");").toList =
      .ok (.object [("bare", .boolean true), ("literate", .boolean literate)], ");".toList) := by
  cases literate <;> cbv

/-- A call is read back. After its opening bracket there is one value, the source, then after a
comma and a blank another one, the options, and then nothing but the closing bracket and a
semicolon. So calls are equal only if their sources and options are. -/
theorem text_decodes (source : String) (literate : Bool) :
    ∃ options, CompileOptions.ofLiterate (.boolean literate) = .ok options ∧
      (∃ arguments rest,
        (text (.text source) options helperName).toList =
          "coffeeScriptHelper.compile(".toList ++ arguments ∧
        Document.readFront arguments = .ok (.text source, ", ".toList ++ rest) ∧
        Document.readFront rest =
          .ok (.object [("bare", .boolean true), ("literate", .boolean literate)], ");".toList)) ∧
      ∀ source' literate' options',
        CompileOptions.ofLiterate (.boolean literate') = .ok options' →
        text (.text source) options helperName = text (.text source') options' helperName →
        source = source' ∧ literate = literate' := by
  have hsource (source : String) (literate : Bool) :
      Document.readFront (argumentChars source ⟨literate⟩) =
        .ok (.text source,
          ", ".toList ++ ((CompileOptions.mk literate).literal ++ ");").toList) := by
    rw [argumentChars, readFront_literal]
    simp
  refine ⟨⟨literate⟩, CompileOptions.ofLiterate_boolean literate,
    ⟨argumentChars source ⟨literate⟩, _, text_toList source ⟨literate⟩ helperName,
      hsource source literate, readFront_options literate⟩, ?_⟩
  intro source' literate' options' hoptions htext
  obtain rfl : (⟨literate'⟩ : CompileOptions) = options' :=
    Except.ok.inj ((CompileOptions.ofLiterate_boolean literate').symm.trans hoptions)
  -- Equal calls have equal arguments, and these are read to the two values of each call.
  have harguments : argumentChars source ⟨literate⟩ = argumentChars source' ⟨literate'⟩ := by
    have hchars := congrArg String.toList htext
    rw [text_toList, text_toList] at hchars
    exact List.append_cancel_left hchars
  have hfirst := hsource source literate
  rw [harguments, hsource source' literate'] at hfirst
  obtain ⟨hvalue, hrest⟩ := Prod.mk.inj (Except.ok.inj hfirst)
  have hsecond := readFront_options literate
  rw [← List.append_cancel_left hrest, readFront_options literate'] at hsecond
  obtain ⟨hobject, -⟩ := Prod.mk.inj (Except.ok.inj hsecond)
  exact ⟨(Value.text.inj hvalue).symm, by simpa using hobject.symm⟩

end CompileCall

end CoffeeHost
