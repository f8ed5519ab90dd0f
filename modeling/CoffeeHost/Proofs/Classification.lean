import CoffeeHost.Proofs.AnswerReading
import CoffeeHost.Proofs.Escapes
import CoffeeHost.Proofs.Memoryless
/-!
# What a reaction of the engine means

A running compiler evaluates its call, and the engine reacts: its own error, a value that is no
text, or a text. A text can describe an answer or not, and an answer has an error, or code, or
neither. These classes exclude each other, every reaction that is an answer of the engine belongs
to one of them, and the class alone decides the outcome.

The code of an answer goes by two names. It is looked for under `compiledCode`, and if this member
is missing then under `compiled_code`, so an answer without `compiledCode` need not be without code.

## Main definitions

* `Answer.Describes` — a message that describes an answer, perhaps one with neither code nor errors.
* `Reaction`, `Reaction.Is` — the classes and what belongs to them.
* `Reaction.Means` — the outcome for a class.

## Main results

* `Reaction.exists_unique` — each reaction belongs to one class.
* `Run.reaction_decides_outcome` — what a compilation by a running compiler comes to.
* `Run.code_goes_by_two_names` — the second name of the code counts.
-/

namespace CoffeeHost

open Json (Members Value)

namespace Answer

/-- The message is an object whose code and errors are those of the answer. -/
def Describes (message : String) (answer : Answer) : Prop :=
  ∃ members, Json.Message.read message = .ok (.object members) ∧ CodeOf members answer.code ∧
    ErrorsOf members answer.errors

/-- A message describes one answer at most. -/
theorem Describes.unique {message : String} {answer answer' : Answer}
    (h : Describes message answer) (h' : Describes message answer') : answer = answer' := by
  obtain ⟨members, hread, hcode, herrors⟩ := h
  obtain ⟨members', hread', hcode', herrors'⟩ := h'
  obtain rfl : members = members' := by simpa [hread] using hread'
  have hvalid := ofValue_eq_valid_iff.mpr ⟨members, rfl, hcode, herrors⟩
  have hvalid' := ofValue_eq_valid_iff.mpr ⟨members, rfl, hcode', herrors'⟩
  exact Validation.Checked.valid.inj (hvalid.symm.trans hvalid')

/-- A message is read as the answer that it describes, if this has code or an error. -/
theorem ofMessage_eq_ok_iff_describes {message : String} {answer : Answer} :
    ofMessage message = .ok answer ↔
      Describes message answer ∧ ¬ (answer.firstError? = none ∧ answer.code = none) := by
  rw [ofMessage_eq_ok_iff]
  constructor
  · rintro ⟨members, hread, hcode, herrors, hsome⟩
    exact ⟨⟨members, hread, hcode, herrors⟩, hsome⟩
  · rintro ⟨⟨members, hread, hcode, herrors⟩, hsome⟩
    exact ⟨members, hread, hcode, herrors, hsome⟩

/-- A message that is no answer makes a compilation fail with a fault. -/
theorem verdict_of_not_ok {message : String} (h : ∀ answer, ofMessage message ≠ .ok answer)
    (source : String) :
    ∃ text, Compiler.verdict (.text source) (.ok (.text message)) =
      .ok (.failed (.fault (.interpreter text none Category.malformed))) := by
  cases hmessage : ofMessage message with
  | ok answer => exact absurd hmessage (h answer)
  | error fault =>
    obtain ⟨text, rfl⟩ := ofMessage_eq_error hmessage
    have hreading : Compiler.reading (.ok (.text message)) =
        .error (.fault (.interpreter text none Category.malformed)) :=
      congrArg (Except.mapError Raised.fault) hmessage
    exact ⟨text, by rw [Compiler.verdict, hreading]; rfl⟩

end Answer

/-! ### Classes of reactions -/

/-- What a reaction of the engine to a call can be. -/
inductive Reaction
  /-- The engine's own error, with its text. -/
  | scriptError (text : String)
  /-- A value that is no text. -/
  | notText
  /-- An answer whose first error is the entry. -/
  | diagnosed (entry : Entry)
  /-- An answer with code and without errors. -/
  | compiled (code : String)
  /-- An answer with neither. -/
  | empty
  /-- A text that describes no answer. -/
  | unreadable
  deriving DecidableEq, Repr

namespace Reaction

/-- The class of an answer. Errors count more than code, and the first one counts. -/
def ofAnswer (answer : Answer) : Reaction :=
  match answer.errors.getD [], answer.code with
  | entry :: _, _ => .diagnosed entry
  | [], some code => .compiled code
  | [], none => .empty

/-- The class of a reaction. -/
inductive Is : Except Raised Value → Reaction → Prop
  | scriptError (text : String) : Is (.error (.engineError text)) (.scriptError text)
  | notText (reply : Value) (h : ∀ message, reply ≠ .text message) : Is (.ok reply) .notText
  | described (message : String) (answer : Answer) (h : answer.Describes message) :
      Is (.ok (.text message)) (ofAnswer answer)
  | unreadable (message : String) (h : ∀ answer, ¬ Answer.Describes message answer) :
      Is (.ok (.text message)) .unreadable

/-- The outcome of compiling a source that a class of reactions means. -/
def Means (source : String) : Reaction → Outcome → Prop
  | scriptError text, outcome =>
    outcome = .failed (.fault (.interpreter text none "Script error"))
  | diagnosed entry, outcome =>
    outcome = .failed (.diagnostic ⟨entry.message, entry.line, entry.column,
      some (Source.fragment source ⟨entry.line, entry.column⟩)⟩)
  | compiled code, outcome => outcome = .ok code
  | notText, outcome | empty, outcome | unreadable, outcome =>
    ∃ text, outcome = .failed (.fault (.interpreter text none "Malformed result"))

variable {reaction : Except Raised Value} {kind kind' : Reaction}

/-- The classes exclude each other. -/
theorem Is.unique (h : Is reaction kind) (h' : Is reaction kind') : kind = kind' := by
  cases h with
  | scriptError text => cases h' with | scriptError => rfl
  | notText reply hreply =>
    cases h' with
    | notText => rfl
    | described message | unreadable message => exact absurd rfl (hreply message)
  | described message answer hdescribes =>
    cases h' with
    | notText _ hreply => exact absurd rfl (hreply message)
    | described _ answer' hdescribes' => rw [hdescribes.unique hdescribes']
    | unreadable _ hnone => exact absurd hdescribes (hnone answer)
  | unreadable message hnone =>
    cases h' with
    | notText _ hreply => exact absurd rfl (hreply message)
    | described _ answer hdescribes => exact absurd hdescribes (hnone answer)
    | unreadable => rfl

/-- Each reaction belongs to one class, unless something else is raised than the engine's error. -/
theorem exists_unique
    (h : ∀ raised, reaction = .error raised → ∃ text, raised = .engineError text) :
    ∃ kind, Is reaction kind ∧ ∀ kind', Is reaction kind' → kind' = kind := by
  have hexists : ∃ kind, Is reaction kind := by
    rcases reaction with raised | reply
    · obtain ⟨text, rfl⟩ := h raised rfl
      exact ⟨.scriptError text, .scriptError text⟩
    · by_cases htext : ∃ message, reply = .text message
      · obtain ⟨message, rfl⟩ := htext
        by_cases hdescribes : ∃ answer, Answer.Describes message answer
        · obtain ⟨answer, hanswer⟩ := hdescribes
          exact ⟨ofAnswer answer, .described message answer hanswer⟩
        · exact ⟨.unreadable, .unreadable message (not_exists.mp hdescribes)⟩
      · exact ⟨.notText, .notText reply (not_exists.mp htext)⟩
  obtain ⟨kind, hkind⟩ := hexists
  exact ⟨kind, hkind, fun kind' hkind' => hkind'.unique hkind⟩

/-- The class of an answer decides the outcome. -/
theorem verdict_of_describes {message : String} {answer : Answer}
    (h : answer.Describes message) (source : String) :
    ∃ outcome, (ofAnswer answer).Means source outcome ∧
      Compiler.verdict (.text source) (.ok (.text message)) = .ok outcome := by
  have hread (hsome : ¬ (answer.firstError? = none ∧ answer.code = none)) :
      Answer.ofMessage message = .ok answer :=
    Answer.ofMessage_eq_ok_iff_describes.mpr ⟨h, hsome⟩
  have hfirst : answer.firstError? = (answer.errors.getD []).head? := by
    cases hnow : answer.errors <;> simp [Answer.firstError?, hnow]
  rw [ofAnswer]
  split
  next entry later herrors =>
    rw [herrors] at hfirst
    exact ⟨_, rfl, Answer.verdict_firstError (hread (by simp [hfirst])) hfirst source⟩
  next code herrors hcode =>
    rw [herrors] at hfirst
    have hreading : Compiler.reading (.ok (.text message)) = .ok answer :=
      congrArg (Except.mapError Raised.fault) (hread (by simp [hcode]))
    refine ⟨_, rfl, ?_⟩
    rw [Compiler.verdict, hreading]
    simp [Compiler.judgement, hfirst, hcode]
  next herrors hcode =>
    rw [herrors] at hfirst
    have hno (answer' : Answer) : Answer.ofMessage message ≠ .ok answer' := fun hanswer => by
      obtain ⟨hdescribes, hsome⟩ := Answer.ofMessage_eq_ok_iff_describes.mp hanswer
      obtain rfl := h.unique hdescribes
      exact hsome ⟨hfirst, hcode⟩
    obtain ⟨text, hverdict⟩ := Answer.verdict_of_not_ok hno source
    exact ⟨_, ⟨text, rfl⟩, hverdict⟩

/-- The class of a reaction decides the outcome. -/
theorem Is.verdict (h : Is reaction kind) (source : String) :
    ∃ outcome, kind.Means source outcome ∧
      Compiler.verdict (.text source) reaction = .ok outcome := by
  cases h with
  | scriptError text => exact ⟨_, rfl, rfl⟩
  | notText reply hreply =>
    cases reply with
    | text message => exact absurd rfl (hreply message)
    | _ => exact ⟨_, ⟨_, rfl⟩, rfl⟩
  | described message answer hdescribes => exact verdict_of_describes hdescribes source
  | unreadable message hnone =>
    have hno (answer : Answer) : Answer.ofMessage message ≠ .ok answer := fun hanswer =>
      hnone answer (Answer.ofMessage_eq_ok_iff_describes.mp hanswer).1
    obtain ⟨text, hverdict⟩ := Answer.verdict_of_not_ok hno source
    exact ⟨_, ⟨text, rfl⟩, hverdict⟩

/-- Only the class of code means code. -/
theorem Means.eq_ok_iff {source : String} {outcome : Outcome} (h : kind.Means source outcome)
    (code : String) : outcome = .ok code ↔ kind = .compiled code := by
  cases kind with
  | compiled code' =>
    obtain rfl := h
    simp
  | scriptError | diagnosed =>
    obtain rfl := h
    simp
  | notText | empty | unreadable =>
    obtain ⟨text, rfl⟩ := h
    simp

end Reaction

namespace Run

/-- A compilation by a running compiler, after any run, whose engine reacts with its own error or
with a value. The reaction belongs to exactly one class, and the class decides the outcome. Nothing
is raised, and compiling with failures as errors gives JavaScript exactly if the class is code. -/
theorem reaction_decides_outcome {collaborators : Collaborators} {factories : List Factory}
    {steps : List Step} {number : Nat} {compiler : Compiler} {s : Session}
    (h : Reaches collaborators factories steps number compiler s)
    (hrunning : compiler.phase.stage = .initialized) (source : String) (literate : Bool)
    {reaction : Except Raised Value}
    (hreaction : s.collaborators.evaluate s.evaluated
      (CompileCall.text (.text source) ⟨literate⟩ CompileCall.helperName) = reaction)
    (hengine : ∀ raised, reaction = .error raised → ∃ text, raised = .engineError text) :
    ∃ kind outcome, Reaction.Is reaction kind ∧
      (∀ kind', Reaction.Is reaction kind' → kind' = kind) ∧ kind.Means source outcome ∧
      CompileOptions.ofLiterate (.boolean literate) = .ok ⟨literate⟩ ∧
      (compiler.tryCompile (.text source) ⟨literate⟩ s).1.2 = .ok outcome ∧
      (compiler.compile (.text source) ⟨literate⟩ s).1.2 =
        outcome.unwrap.mapError Compiler.Failed.compilation ∧
      ∀ code, (compiler.compile (.text source) ⟨literate⟩ s).1.2 = .ok code ↔
        kind = .compiled code := by
  obtain ⟨kind, hkind, hunique⟩ := Reaction.exists_unique hengine
  obtain ⟨outcome, hmeans, hverdict⟩ := hkind.verdict source
  have hok : (compiler.start s).1.2 = .ok () := by rw [Compiler.start_initialized hrunning]
  have htry : (compiler.tryCompile (.text source) ⟨literate⟩ s).1.2 = .ok outcome := by
    rw [h.tryCompile_verdict hok, hreaction, hverdict]
  have hcompile : (compiler.compile (.text source) ⟨literate⟩ s).1.2 =
      outcome.unwrap.mapError Compiler.Failed.compilation := by
    rw [Compiler.compile_apply, htry]
    rfl
  refine ⟨kind, outcome, hkind, hunique, hmeans, CompileOptions.ofLiterate_boolean literate, htry,
    hcompile, fun code => ?_⟩
  rw [hcompile, ← hmeans.eq_ok_iff code]
  cases outcome <;> simp [Outcome.unwrap, Except.mapError]

/-- A compiler whose start has succeeded with the first interpreter. -/
def started : Compiler := ⟨.plain, ⟨.initialized, some ⟨1, .initialized 1, none⟩, none⟩⟩

/-- The first compilation leaves a compiler that has started, whatever comes of it. -/
theorem reaches_started (reaction : Except Raised Value) :
    Reaches (.reacting reaction) [.plain] [.act 0 (.tryCompile (.text "x") (.boolean false))] 0
      started (ofNew (.reacting reaction) [.plain]
        [.act 0 (.tryCompile (.text "x") (.boolean false))]).2 := by
  have hstart : ((Compiler.new .plain).start (.new (.reacting reaction))).1.1 = started := by
    cbv
  have hcompiles : (Action.tryCompile (.text "x") (.boolean false)).Compiles :=
    ⟨⟨false⟩, CompileOptions.ofLiterate_boolean false⟩
  have hperform := (hcompiles.perform_start (.new .plain) (.new (.reacting reaction))).1
  have hthere : [some (Compiler.new .plain)][0]? = some (some (.new .plain)) := rfl
  have hstep := step_act hthere (.tryCompile (.text "x") (.boolean false))
    (.new (.reacting reaction))
  refine ⟨?_, rfl⟩
  simp only [ofNew, List.map_cons, List.map_nil, Run.steps, SessionM.bind_apply,
    SessionM.pure_apply, hstep, hperform, hstart]
  rfl

/-- An answer with empty code and an empty list of errors. -/
def emptyAnswer : String := "\x7b\"compiledCode\":\"\",\"errors\":[]\x7d"

theorem empty_code_is_compiled :
    (started.compile (.text "y") ⟨true⟩ (ofNew (.reacting (.ok (.text emptyAnswer))) [.plain]
      [.act 0 (.tryCompile (.text "x") (.boolean false))]).2).1.2 = .ok "" := by
  have hread : Json.Message.read emptyAnswer =
      .ok (.object [("compiledCode", .text ""), ("errors", .array [])]) := by cbv
  have hdescribes : Answer.Describes emptyAnswer ⟨some "", some []⟩ :=
    ⟨_, hread, .given "compiledCode" _ _ rfl (.text ""), .given "errors" _ _ rfl (.list [] [] .nil)⟩
  have hengine (raised : Raised)
      (h : (.ok (.text emptyAnswer) : Except Raised Value) = .error raised) :
      ∃ text, raised = .engineError text := by cases h
  have hreaction (n : Nat) (call : String) :
      (Collaborators.reacting (.ok (.text emptyAnswer))).evaluate n call =
        .ok (.text emptyAnswer) := rfl
  have hreach := reaches_started (.ok (.text emptyAnswer))
  generalize hs : (ofNew (.reacting (.ok (.text emptyAnswer))) [.plain]
    [.act 0 (.tryCompile (.text "x") (.boolean false))]).2 = s at hreach ⊢
  have hcoll : s.collaborators = .reacting (.ok (.text emptyAnswer)) :=
    hs ▸ ofNew_collaborators _ _ _
  obtain ⟨kind, outcome, -, hunique, -, -, -, -, hcode⟩ := reaction_decides_outcome hreach rfl "y"
    true (by rw [hcoll, hreaction]) hengine
  exact (hcode "").mpr (hunique _ (.described _ _ hdescribes)).symm

/-- An object without the members `compiledCode` and `errors` is said to hold neither code nor
errors. But its code may go by the other name. -/
theorem code_goes_by_two_names :
    ¬ ∀ (collaborators : Collaborators) (factories : List Factory) (steps : List Step)
      (number : Nat) (compiler : Compiler) (s : Session),
      Reaches collaborators factories steps number compiler s →
      compiler.phase.stage = .initialized →
      ∀ (source message : String) (members : Members),
        s.collaborators.evaluate s.evaluated
          (CompileCall.text (.text source) ⟨false⟩ CompileCall.helperName) =
            .ok (.text message) →
        Json.Message.read message = .ok (.object members) →
        members.get? "compiledCode" = none → members.get? "errors" = none →
        ∃ text, (compiler.tryCompile (.text source) ⟨false⟩ s).1.2 =
          .ok (.failed (.fault (.interpreter text none "Malformed result"))) := by
  intro hall
  have hread : Json.Message.read "\x7b\"compiled_code\":\"x\"\x7d" =
      .ok (.object [("compiled_code", .text "x")]) := by cbv
  have hdescribes : Answer.Describes "\x7b\"compiled_code\":\"x\"\x7d" ⟨some "x", none⟩ :=
    ⟨_, hread, .given "compiled_code" _ _ rfl (.text "x"), .missing rfl⟩
  have hreach := reaches_started (.ok (.text "\x7b\"compiled_code\":\"x\"\x7d"))
  generalize hs : (ofNew (.reacting (.ok (.text "\x7b\"compiled_code\":\"x\"\x7d"))) [.plain]
    [.act 0 (.tryCompile (.text "x") (.boolean false))]).2 = s at hreach
  have hcoll : s.collaborators = .reacting (.ok (.text "\x7b\"compiled_code\":\"x\"\x7d")) :=
    hs ▸ ofNew_collaborators _ _ _
  have hreaction (call : String) : s.collaborators.evaluate s.evaluated call =
      .ok (.text "\x7b\"compiled_code\":\"x\"\x7d") := by
    rw [hcoll]
    rfl
  obtain ⟨text, hfault⟩ :=
    hall _ _ _ _ started s hreach rfl "y" _ _ (hreaction _) hread rfl rfl
  have hok : (started.start s).1.2 = .ok () := by rw [Compiler.start_initialized rfl]
  obtain ⟨outcome, rfl, hverdict⟩ :=
    (Reaction.Is.described _ ⟨some "x", none⟩ hdescribes).verdict "y"
  rw [hreach.tryCompile_verdict hok, hreaction, hverdict] at hfault
  cases hfault

end Run

end CoffeeHost
