import CoffeeHost.Proofs.HandleLedger
import CoffeeHost.Proofs.Memoryless
/-!
# A failed start is final

A compiler starts once. If the start fails, the compiler keeps the fault and reports it whenever it
is to compile again: it asks for nothing, reads nothing and evaluates nothing, so that no script is
ever loaded twice. It does so until it is released, whatever else happens in between, and whether
or not its first handle could be given back.

## Main definitions

* `Compiler.FailsToStart` — a start that fails, with what was raised.
* `Compiler.FailedWith` — compilers whose start has failed.

## Main results

* `Compiler.FailedWith.perform_tryCompile`, `Compiler.FailedWith.perform_compile` — a failed
  compiler reports its fault and does nothing.
* `Run.failed_start_is_final` — a run asks for one handle at most, and what was raised in a failed
  start is all that the compiler reports from then on.
-/

namespace CoffeeHost

open Json (Value)

/-! ### One request -/

/-- The entries of a compiler ask for one handle at most. -/
theorem Ledger.count_request_le_one {compiler? : Option Compiler} {entries : List Event}
    (h : Ledger compiler? entries) : entries.count .request ≤ 1 := by
  cases h with
  | unused | inUse => simp
  | settled _ hsettled =>
    cases hsettled with
    | unused | refused | returned => simp

theorem count_request_account (events : List Event) :
    (account events).count .request = events.count .request :=
  List.count_filter rfl

/-! ### Compilers that have failed -/

namespace Compiler

variable {compiler : Compiler} {s : Session} {fault : Fault}

/-- Starting the compiler in the session fails: it has not started, and something that is no
interruption ends the preparation of its interpreter. -/
def FailsToStart (compiler : Compiler) (s : Session) (raised : Raised) : Prop :=
  compiler.phase.stage = .uninitialized ∧ raised.isOrdinary ∧
    (prepare compiler.factory s).1.2 = .error raised

/-- The start of the compiler has failed with a fault. -/
def FailedWith (compiler : Compiler) (fault : Fault) : Prop :=
  compiler.phase.stage = .failed ∧ compiler.phase.fault? = some fault

/-- The fault is settled before the handle is given back, so it is there whatever that raises. -/
theorem FailsToStart.failedWith {raised : Raised} (h : compiler.FailsToStart s raised) :
    (compiler.start s).1.1.FailedWith raised.toFault := by
  obtain ⟨hstage, hordinary, hprepare⟩ := h
  have hsaid := Session.say_silenced "Initializing CoffeeScript interpreter" s
  have hsame := ((prepare_deaf compiler.factory).of_silenced_eq hsaid).1
  rcases hrun : prepare compiler.factory
    (Session.say "Initializing CoffeeScript interpreter" s).2 with ⟨⟨lease?, result⟩, s₁⟩
  rw [hrun] at hsame
  obtain rfl : result = .error raised := by rw [← hprepare, ← hsame]
  rw [(start_failed hstage hordinary hrun).1]
  exact ⟨rfl, rfl⟩

namespace FailedWith

theorem start_eq (h : compiler.FailedWith fault) (s : Session) :
    compiler.start s = ((compiler, .error (.fault fault)), s) := by
  simp [start, h.1, storedFault, h.2]

/-- A failed compiler turns its fault into an outcome. -/
theorem tryCompile_eq (h : compiler.FailedWith fault) (source : Value) (options : CompileOptions)
    (s : Session) :
    compiler.tryCompile source options s = ((compiler, .ok (.failed (.fault fault))), s) :=
  tryCompile_unstarted (h.start_eq s) source options

variable {literate : Value} {options : CompileOptions}

theorem perform_tryCompile (h : compiler.FailedWith fault) (source : Value)
    (hoptions : CompileOptions.ofLiterate literate = .ok options) (s : Session) :
    Action.perform compiler (.tryCompile source literate) s =
      ((some compiler, .outcome (.failed (.fault fault))), s) := by
  simp only [Action.perform, hoptions, SessionM.bind_apply, h.tryCompile_eq, SessionM.pure_apply]

theorem perform_compile (h : compiler.FailedWith fault) (source : Value)
    (hoptions : CompileOptions.ofLiterate literate = .ok options) (s : Session) :
    Action.perform compiler (.compile source literate) s =
      ((some compiler, .failed (.compilation (.of (.fault fault)))), s) := by
  simp only [Action.perform, hoptions, SessionM.bind_apply, compile_apply, h.tryCompile_eq]
  rfl

end FailedWith

end Compiler

/-! ### Runs -/

open Compiler (FailedWith)

namespace Run

section Steps

variable {compilers : List (Option Compiler)} {number : Nat} {compiler : Compiler} {fault : Fault}
  {s : Session}

/-- A step that compiles while the start fails leaves a failed compiler. -/
theorem step_failsToStart {raised : Raised} (h : compilers[number]? = some (some compiler))
    {action : Action} (hcompiles : action.Compiles) (hfails : compiler.FailsToStart s raised) :
    ∃ failed, failed.FailedWith raised.toFault ∧
      (Run.step compilers (.act number action) s).1.1[number]? = some (some failed) := by
  have hleft := (hcompiles.perform_start compiler s).1
  refine ⟨(compiler.start s).1.1, hfails.failedWith, ?_⟩
  rw [step_act h, hleft, List.getElem?_set_self (List.getElem?_eq_some_iff.mp h).1]

/-- A step that compiles with a failed compiler reports its fault and does nothing. -/
theorem step_failedWith (h : compilers[number]? = some (some compiler))
    (hfailed : compiler.FailedWith fault) (source : Value) {literate : Value}
    {options : CompileOptions} (hoptions : CompileOptions.ofLiterate literate = .ok options)
    (s : Session) :
    Run.step compilers (.act number (.tryCompile source literate)) s =
        ((compilers, .outcome (.failed (.fault fault))), s) ∧
      Run.step compilers (.act number (.compile source literate)) s =
        ((compilers, .failed (.compilation (.of (.fault fault)))), s) := by
  constructor
  · rw [step_act h, hfailed.perform_tryCompile source hoptions, set_same h]
  · rw [step_act h, hfailed.perform_compile source hoptions, set_same h]

end Steps

variable {collaborators : Collaborators} {factory : Factory}

/-- A compiler whose start is never cut short asks for one handle at most. -/
theorem count_request_le_one {steps : List Step}
    (h : Uninterrupted collaborators [factory] steps) :
    (ofNew collaborators [factory] steps).2.events.count .request ≤ 1 := by
  obtain ⟨compiler?, entries, -, hledger, haccount⟩ := accounted_of_uninterrupted h
  rw [← count_request_account, haccount]
  exact hledger.count_request_le_one

/-- A compiler whose start has failed is there until it is released. -/
theorem exists_failedWith {factories : List Factory} {before between : List Step} {number : Nat}
    {action : Action} {compiler : Compiler} {s : Session} {raised : Raised}
    (h : Reaches collaborators factories before number compiler s) (hcompiles : action.Compiles)
    (hfails : compiler.FailsToStart s raised) (hspare : ∀ step ∈ between, ¬ step.Releases number) :
    ∃ failed, failed.FailedWith raised.toFault ∧
      (ofNew collaborators factories (before ++ .act number action :: between)).1.1[number]? =
        some (some failed) := by
  obtain ⟨hcompiler, rfl⟩ := h
  obtain ⟨failed, hfailed, hthere⟩ := step_failsToStart hcompiler hcompiles hfails
  refine ⟨failed, hfailed, ?_⟩
  rw [ofNew, (steps_append _ before (.act number action :: between) _).1]
  exact steps_keep_started (by simp [hfailed.1]) between hspare hthere _

/-- In every run of one compiler in which no start is cut short, at most one handle is asked for.
And whenever a start fails, there is one fault, the one that was raised or one that names what was
raised, which every later compilation reports until the compiler is released. Such a compilation
changes nothing: nothing happens in the session, and the compiler stays as it is. -/
theorem failed_start_is_final (collaborators : Collaborators) (factory : Factory) :
    (∀ steps : List Step, Uninterrupted collaborators [factory] steps →
      (ofNew collaborators [factory] steps).2.events.count .request ≤ 1) ∧
    ∀ (before : List Step) (action : Action) (compiler : Compiler) (s : Session)
      (raised : Raised), Reaches collaborators [factory] before 0 compiler s →
      action.Compiles → compiler.FailsToStart s raised →
      ∃ fault : Fault, (raised = .fault fault ∨ raised.isFault = false ∧
          fault = .interpreter s!"{raised.className}: {raised.text}" none "Initialization error") ∧
        ∀ between : List Step, (∀ step ∈ between, ¬ step.Releases 0) →
          ∀ (source literate : Value) (options : CompileOptions),
            CompileOptions.ofLiterate literate = .ok options →
            let run := ofNew collaborators [factory] (before ++ .act 0 action :: between)
            Run.step run.1.1 (.act 0 (.tryCompile source literate)) run.2 =
                ((run.1.1, .outcome (.failed (.fault fault))), run.2) ∧
              Run.step run.1.1 (.act 0 (.compile source literate)) run.2 =
                ((run.1.1, .failed (.compilation (.of (.fault fault)))), run.2) := by
  refine ⟨fun steps huninterrupted => count_request_le_one huninterrupted, ?_⟩
  intro before action compiler s raised hreaches hcompiles hfails
  refine ⟨raised.toFault, ?_, fun between hspare source literate options hoptions => ?_⟩
  · cases raised with
    | fault fault => exact .inl rfl
    | _ => exact .inr ⟨rfl, rfl⟩
  · obtain ⟨failed, hfailed, hthere⟩ := exists_failedWith hreaches hcompiles hfails hspare
    exact step_failedWith hthere hfailed source hoptions _

/-- An engine without memory for the scripts. -/
def exhausted : Collaborators :=
  { Collaborators.reacting (.ok .null) with
    load := fun _ => some (.ordinary "MemoryError" "heap") }

theorem exhausted_raiseFailures : exhausted.RaiseFailures :=
  ⟨nofun, fun _ raised h => by obtain rfl := Option.some.inj h; rfl,
    fun _ _ => notInterrupted_ok _, fun _ _ => notInterrupted_ok _⟩

/-- The first script cannot be executed, and the handle cannot be given back. Another source is
compiled later, after the scope of the compiler is entered. -/
theorem exhausted_start_is_final :
    let run := ofNew exhausted [.stuck]
      [.act 0 (.tryCompile (.text "x") (.boolean false)), .act 0 .enter]
    let fault := .interpreter "MemoryError: heap" none "Initialization error"
    run.2.events.count .request ≤ 1 ∧
      Run.step run.1.1 (.act 0 (.tryCompile (.text "y") (.boolean true))) run.2 =
          ((run.1.1, .outcome (.failed (.fault fault))), run.2) ∧
        Run.step run.1.1 (.act 0 (.compile (.text "y") (.boolean true))) run.2 =
          ((run.1.1, .failed (.compilation (.of (.fault fault)))), run.2) := by
  have hfactories : ∀ factory ∈ [Factory.stuck], factory.RaisesFailures := by
    simpa using Factory.stuck_raisesFailures
  have hfails : (Compiler.new .stuck).FailsToStart (.new exhausted)
      (.ordinary "MemoryError" "heap") := ⟨rfl, rfl, by cbv⟩
  have hcompiles : (Action.tryCompile (.text "x") (.boolean false)).Compiles :=
    ⟨⟨false⟩, CompileOptions.ofLiterate_boolean false⟩
  obtain ⟨honce, hfinal⟩ := failed_start_is_final exhausted .stuck
  obtain ⟨fault, hfault, hlater⟩ := hfinal [] _ (.new .stuck) _ _ ⟨rfl, rfl⟩ hcompiles hfails
  obtain ⟨-, rfl⟩ := hfault.resolve_left (by simp)
  have hspare : ∀ step ∈ [Step.act 0 .enter], ¬ step.Releases 0 := by
    simp [Step.Releases, Action.Releases]
  exact ⟨honce _ (uninterrupted_of_raiseFailures exhausted_raiseFailures hfactories _),
    hlater [.act 0 .enter] hspare (.text "y") (.boolean true) ⟨true⟩
      (CompileOptions.ofLiterate_boolean true)⟩

end Run

end CoffeeHost
