import CoffeeHost.Proofs.Escapes
import CoffeeHost.Proofs.Histories
import Mathlib.Data.List.Forall2
/-!
# Two ways to compile

A compilation that takes a failure for an error is the other kind of compilation with a last turn
at its reply: JavaScript is given as it is, and a failure becomes the error that stands for it. So
in any run, some of the compilations may be done the other way. Every step does what it did, and
only the replies to the exchanged steps differ, by that turn.

## Main definitions

* `CompilationError.StandsFor` — what an error tells of a failure.
* `Reply.Turns` — what becomes of the reply to a compilation.
* `Step.Exchanges`, `Moment.Exchanges` — what an exchange changes of a step, and of what it does.

## Main results

* `Action.perform_exchange` — one compilation, done both ways.
* `Run.moments_exchange` — any run, with some of its compilations done the other way.
* `Run.compile_turns_tryCompile` — the runs of new compilers.
-/

namespace CoffeeHost

open Json (Value)

/-! ### What is exchanged -/

/-- An error tells all of a failure: the text of its report, its kind, and its payload, which is a
diagnostic without a cause or a fault that is the cause as well. -/
structure CompilationError.StandsFor (e : CompilationError) (failure : Failure) : Prop where
  report : e.report = failure.report
  kind : e.kind = failure.kind
  payload :
    (∃ d, failure = .diagnostic d ∧ e.diagnostic = some d ∧ e.fault = none ∧ e.cause = none) ∨
      ∃ f, failure = .fault f ∧ e.diagnostic = none ∧ e.fault = some f ∧ e.cause = some f

theorem CompilationError.of_standsFor (failure : Failure) : (of failure).StandsFor failure := by
  cases failure with
  | diagnostic d => exact ⟨rfl, rfl, .inl ⟨d, rfl, rfl, rfl, rfl⟩⟩
  | fault f => exact ⟨rfl, rfl, .inr ⟨f, rfl, rfl, rfl, rfl⟩⟩

/-- What becomes of the reply to a compilation if a failure is taken for an error. -/
inductive Reply.Turns : Reply → Reply → Prop
  | code (code : String) : Turns (.outcome (.ok code)) (.code code)
  | failure (failure : Failure) (e : CompilationError) (h : e.StandsFor failure) :
      Turns (.outcome (.failed failure)) (.failed (.compilation e))
  /-- Anything else is raised by both. -/
  | raised (raised : Raised) : Turns (.failed (.raised raised)) (.failed (.raised raised))
  /-- Options that break rules are refused by both. -/
  | invalid (violations : List Validation.Violation) : Turns (.invalid violations)
      (.invalid violations)
  /-- The compiler is gone. -/
  | nothing : Turns .nothing .nothing

/-- A step is the same, or is a compilation done the other way with the same arguments. -/
inductive Step.Exchanges : Step → Step → Prop
  | same (step : Step) : Exchanges step step
  | compilation (number : Nat) (source literate : Value) :
      Exchanges (.act number (.tryCompile source literate)) (.act number (.compile source literate))

/-- The exchange of a step changes nothing of what it does, and nothing but the reply of what it
gives, if it is another step at all. -/
structure Moment.Exchanges (m m' : Moment) : Prop where
  step : m.step.Exchanges m'.step
  events : m'.events = m.events
  compilers : m'.compilers = m.compilers
  session : m'.session = m.session
  same : m.step = m'.step → m'.reply = m.reply
  exchanged : m.step ≠ m'.step → m.reply.Turns m'.reply

theorem Moment.Exchanges.refl (m : Moment) : m.Exchanges m :=
  ⟨.same m.step, rfl, rfl, rfl, fun _ => rfl, fun h => absurd rfl h⟩

/-! ### One step -/

/-- A compilation done the other way leaves the same compiler and the same session, and its reply
is turned. -/
theorem Action.perform_exchange (compiler : Compiler) (source literate : Value) (s : Session) :
    let tried := Action.perform compiler (.tryCompile source literate) s
    ∃ reply, Action.perform compiler (.compile source literate) s = ((tried.1.1, reply), tried.2) ∧
      tried.1.2.Turns reply := by
  intro tried
  cases hoptions : CompileOptions.ofLiterate literate with
  | error violations =>
    have htried : tried = ((some compiler, .invalid violations), s) := by
      simp [tried, perform, hoptions]
    rw [htried]
    exact ⟨.invalid violations, by simp [perform, hoptions], .invalid violations⟩
  | ok options =>
    rcases hrun : compiler.tryCompile source options s with ⟨⟨compiler', raised | outcome⟩, s'⟩
    · have htried : tried = ((some compiler', .failed (.raised raised)), s') := by
        simp [tried, perform, hoptions, hrun]
      rw [htried]
      refine ⟨.failed (.raised raised), ?_, .raised raised⟩
      simp [perform, hoptions, Compiler.compile_apply, hrun, Compiler.unwrap]
    · have htried : tried = ((some compiler', .outcome outcome), s') := by
        simp [tried, perform, hoptions, hrun]
      rw [htried]
      cases outcome with
      | ok code =>
        refine ⟨.code code, ?_, .code code⟩
        simp [perform, hoptions, Compiler.compile_apply, hrun, Compiler.unwrap, Outcome.unwrap,
          Except.mapError]
      | failed failure =>
        refine ⟨.failed (.compilation (.of failure)), ?_,
          .failure failure _ (CompilationError.of_standsFor failure)⟩
        simp [perform, hoptions, Compiler.compile_apply, hrun, Compiler.unwrap, Outcome.unwrap,
          Except.mapError]

namespace Run

/-- What an exchange changes of the moment of a step. -/
theorem moment_exchanges {step step' : Step} (h : step.Exchanges step')
    (compilers : List (Option Compiler)) (s : Session) :
    (moment compilers step s).Exchanges (moment compilers step' s) := by
  cases h with
  | same => exact .refl _
  | compilation number source literate =>
    suffices hreply : ∃ reply,
        Run.step compilers (.act number (.compile source literate)) s =
          (((Run.step compilers (.act number (.tryCompile source literate)) s).1.1, reply),
            (Run.step compilers (.act number (.tryCompile source literate)) s).2) ∧
        (Run.step compilers (.act number (.tryCompile source literate)) s).1.2.Turns reply by
      obtain ⟨reply, hstep, hturns⟩ := hreply
      refine ⟨.compilation number source literate, ?_, ?_, ?_, fun hsame => ?_, fun _ => ?_⟩
      · simp only [moment, hstep]
      · simp only [moment, hstep]
      · simp only [moment, hstep]
      · simp [moment] at hsame
      · simpa only [moment, hstep] using hturns
    rcases act_cases compilers number with ⟨compiler, hcompiler⟩ | hidle
    · obtain ⟨reply, hperform, hturns⟩ := Action.perform_exchange compiler source literate s
      rw [step_act hcompiler, step_act hcompiler, hperform]
      exact ⟨reply, rfl, hturns⟩
    · rw [hidle, hidle]
      exact ⟨.nothing, rfl, .nothing⟩

/-! ### Runs -/

/-- Runs from the same compilers and session, one with some compilations done the other way. -/
theorem moments_exchange {steps steps' : List Step} (h : List.Forall₂ Step.Exchanges steps steps')
    (compilers : List (Option Compiler)) (s : Session) :
    List.Forall₂ Moment.Exchanges (moments compilers steps s) (moments compilers steps' s) := by
  induction h generalizing compilers s with
  | nil => exact .nil
  | @cons first first' rest rest' hfirst hrest ih =>
    have hmoment := moment_exchanges hfirst compilers s
    -- The exchanged step leaves what the rest of the run starts from.
    have hcompilers : (Run.step compilers first' s).1.1 = (Run.step compilers first s).1.1 :=
      hmoment.compilers
    have hsession : (Run.step compilers first' s).2 = (Run.step compilers first s).2 :=
      hmoment.session
    refine .cons hmoment ?_
    rw [hcompilers, hsession]
    exact ih (Run.step compilers first s).1.1 (Run.step compilers first s).2

/-- In any run of new compilers, whatever the collaborators and the factories do, some of the
compilations may be done the other way. No step changes what it adds to the log, nor how it leaves
the compilers and the session. No other step changes its reply, and that to an exchanged one is
turned: JavaScript is given as it is, a failure becomes the error that stands for it, and whatever
else was raised is raised still. -/
theorem compile_turns_tryCompile {steps steps' : List Step}
    (h : List.Forall₂ Step.Exchanges steps steps') (collaborators : Collaborators)
    (factories : List Factory) :
    List.Forall₂ Moment.Exchanges (history collaborators factories steps)
      (history collaborators factories steps') :=
  moments_exchange h _ (.new collaborators)

/-- An engine that finds the same error in every source. -/
def diagnosing : Collaborators :=
  .reacting (.ok (.text "\x7b\"errors\":[\x7b\"message\":\"bad\"\x7d]\x7d"))

/-- The second of two compilations is done the other way, and its diagnostic becomes an error. -/
theorem exchanged_diagnostic_is_raised :
    let tried := Step.act 0 (.tryCompile (.text "x") (.boolean false))
    let compiled := Step.act 0 (.compile (.text "x") (.boolean false))
    List.Forall₂ Step.Exchanges [tried, tried, .act 0 .release]
        [tried, compiled, .act 0 .release] ∧
      List.Forall₂ Moment.Exchanges
        (history diagnosing [.plain] [tried, tried, .act 0 .release])
        (history diagnosing [.plain] [tried, compiled, .act 0 .release]) ∧
      (history diagnosing [.plain] [tried, compiled, .act 0 .release]).map Moment.reply =
        [.outcome (.failed (.diagnostic ⟨"bad", 0, 0, some ""⟩)),
          .failed (.compilation ⟨"Message: bad\n", .compilerDiagnostic,
            some ⟨"bad", 0, 0, some ""⟩, none, none⟩),
          .nothing] := by
  have hexchanges : List.Forall₂ Step.Exchanges
      [.act 0 (.tryCompile (.text "x") (.boolean false)),
        .act 0 (.tryCompile (.text "x") (.boolean false)), .act 0 .release]
      [.act 0 (.tryCompile (.text "x") (.boolean false)),
        .act 0 (.compile (.text "x") (.boolean false)), .act 0 .release] :=
    .cons (.same _) (.cons (.compilation ..) (.cons (.same _) .nil))
  refine ⟨hexchanges, compile_turns_tryCompile hexchanges _ _, ?_⟩
  rw [history, replies_moments]
  cbv

end Run

end CoffeeHost
