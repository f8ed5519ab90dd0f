import CoffeeHost.Proofs.CallReading
import CoffeeHost.Proofs.HandleAccounts
import CoffeeHost.Proofs.Lifecycle
/-!
# Started compilers have no memory

Once the start of a compiler has succeeded or failed, its record changes only when it is released.
So a compilation finds the compiler as the start left it, whatever came of the compilations before:
JavaScript, a diagnostic, an answer that cannot be read, or something that was raised. It evaluates
its call once, in the compiler's own interpreter, and what comes of it depends on the source and on
the reaction of the engine alone.

## Main definitions

* `Step.Releases` — the steps that release a compiler.

## Main results

* `Run.steps_keep_started` — only a release changes a compiler that has started.
* `Run.tryCompile_has_no_memory` — what a compilation by a running compiler does.
-/

namespace CoffeeHost

open Json (Value)

/-! ### One operation -/

namespace Compiler

variable {compiler : Compiler}

/-- The start of a compiler happens once. -/
theorem start_started (h : compiler.phase.stage ≠ .uninitialized) (s : Session) :
    (compiler.start s).1.1 = compiler ∧ (compiler.start s).2 = s := by
  have hspec := compiler.start_spec s
  rcases hrun : compiler.start s with ⟨⟨compiler', result⟩, s'⟩
  simp only [hrun] at hspec ⊢
  cases hspec with
  | running | released | failed => exact ⟨rfl, rfl⟩
  | prepared hnow | interrupted hnow | refused hnow | abandoned hnow => exact absurd hnow h

theorem start_initialized (h : compiler.phase.stage = .initialized) (s : Session) :
    compiler.start s = ((compiler, .ok ()), s) := by
  simp [start, h]

end Compiler

/-- Whether an action releases its compiler. -/
def Action.Releases : Action → Prop
  | release | close | exit | discard => True
  | _ => False

/-- An action that does not release leaves a started compiler as it is. -/
theorem Action.perform_started {compiler : Compiler}
    (h : compiler.phase.stage ≠ .uninitialized) {action : Action} (hspares : ¬ action.Releases)
    (s : Session) : (action.perform compiler s).1.1 = some compiler := by
  have hcompiling (hcompiles : action.Compiles) :
      (action.perform compiler s).1.1 = some compiler := by
    rw [(hcompiles.perform_start compiler s).1, (compiler.start_started h s).1]
  cases action with
  | compile source literate =>
    cases hoptions : CompileOptions.ofLiterate literate with
    | error violations => simp [perform, hoptions]
    | ok options => exact hcompiling ⟨options, hoptions⟩
  | tryCompile source literate =>
    cases hoptions : CompileOptions.ofLiterate literate with
    | error violations => simp [perform, hoptions]
    | ok options => exact hcompiling ⟨options, hoptions⟩
  | enter => rfl
  | release | close | exit | discard => exact absurd trivial hspares

/-- Whether a step releases the compiler of a number. -/
def Step.Releases (number : Nat) : Step → Prop
  | act target action => target = number ∧ action.Releases
  | verbose _ => False

namespace Run

/-! ### Runs -/

section Keep

variable {compilers : List (Option Compiler)} {number : Nat} {compiler : Compiler}

/-- A step that does not release a started compiler leaves it as it is. -/
theorem step_keeps_started (hstarted : compiler.phase.stage ≠ .uninitialized)
    (h : compilers[number]? = some (some compiler)) {step : Step}
    (hspares : ¬ step.Releases number) (s : Session) :
    (Run.step compilers step s).1.1[number]? = some (some compiler) := by
  cases step with
  | verbose on => exact h
  | act target action =>
    rcases htarget : compilers[target]? with _ | _ | other
    · simpa [Run.step, htarget] using h
    · simpa [Run.step, htarget] using h
    · rw [step_act htarget]
      by_cases hsame : target = number
      · obtain rfl := hsame
        obtain rfl : compiler = other := Option.some.inj (Option.some.inj (h.symm.trans htarget))
        have hkept := Action.perform_started hstarted (fun hr => hspares ⟨rfl, hr⟩) s
        rw [hkept, List.getElem?_set_self (List.getElem?_eq_some_iff.mp h).1]
      · rwa [List.getElem?_set_ne hsame]

/-- Only a release changes a started compiler. -/
theorem steps_keep_started (hstarted : compiler.phase.stage ≠ .uninitialized) (steps : List Step)
    (hspare : ∀ step ∈ steps, ¬ step.Releases number)
    (h : compilers[number]? = some (some compiler)) (s : Session) :
    (Run.steps compilers steps s).1.1[number]? = some (some compiler) := by
  induction steps generalizing compilers s with
  | nil => exact h
  | cons first rest ih =>
    have hfirst := step_keeps_started hstarted h (hspare first (List.mem_cons_self ..)) s
    exact ih (fun step hstep => hspare step (List.mem_cons_of_mem _ hstep)) hfirst
      (Run.step compilers first s).2

end Keep

/-- A compilation by a running compiler, after any run. Its only event is the evaluation of the
call, in the interpreter that the compiler holds; the call is made of the source and the option.
What comes of it is a function of the source and of the reaction of the engine. And the compiler
is left as it was, also if the engine raises something, be it an interruption. -/
theorem tryCompile_has_no_memory {collaborators : Collaborators} {factories : List Factory}
    {steps : List Step} {number : Nat} {compiler : Compiler} {s : Session}
    (h : Reaches collaborators factories steps number compiler s)
    (hrunning : compiler.phase.stage = .initialized) :
    ∃ lease n, compiler.Holds lease n ∧ ∀ (source : String) (literate : Bool),
      let call := CompileCall.text (.text source) ⟨literate⟩ CompileCall.helperName
      CompileOptions.ofLiterate (.boolean literate) = .ok ⟨literate⟩ ∧ ∃ s',
        compiler.tryCompile (.text source) ⟨literate⟩ s =
          ((compiler, Compiler.verdict (.text source) (s.collaborators.evaluate s.evaluated call)),
            s') ∧
        s'.events = s.events ++ [.evaluate n call] := by
  obtain ⟨⟨lease, n, hholds⟩, -⟩ := h.consistent.initialized hrunning
  refine ⟨lease, n, hholds, fun source literate => ?_⟩
  have hstart := Compiler.start_initialized hrunning s
  obtain ⟨s', hlogged, htry⟩ := Compiler.tryCompile_started hstart hholds (.text source) ⟨literate⟩
  exact ⟨CompileOptions.ofLiterate_boolean literate, s', htry, hlogged.events⟩

/-- An engine whose first evaluation is interrupted, and which compiles from then on. -/
def interruptedOnce : Collaborators :=
  { Collaborators.reacting (.ok (.text "\x7b\"compiledCode\":\"y;\"\x7d")) with
    evaluate := fun n _ =>
      if n = 0 then .error (.interruption "KeyboardInterrupt" "")
      else .ok (.text "\x7b\"compiledCode\":\"y;\"\x7d") }

theorem interruption_is_forgotten :
    ∃ s s', Reaches interruptedOnce [.plain]
        [.act 0 (.tryCompile (.text "x") (.boolean false))] 0
        ⟨.plain, ⟨.initialized, some ⟨1, .initialized 1, none⟩, none⟩⟩ s ∧
      Compiler.tryCompile ⟨.plain, ⟨.initialized, some ⟨1, .initialized 1, none⟩, none⟩⟩
          (.text "y") ⟨true⟩ s =
        ((⟨.plain, ⟨.initialized, some ⟨1, .initialized 1, none⟩, none⟩⟩, .ok (.ok "y;")), s') ∧
      s'.events = s.events ++ [.evaluate 1
        "coffeeScriptHelper.compile(\"y\", \x7b\"bare\":true,\"literate\":true\x7d);"] := by
  have hreach : Reaches interruptedOnce [.plain]
      [.act 0 (.tryCompile (.text "x") (.boolean false))] 0
      ⟨.plain, ⟨.initialized, some ⟨1, .initialized 1, none⟩, none⟩⟩ _ := ⟨by cbv, rfl⟩
  have hevaluated : (ofNew interruptedOnce [.plain]
      [.act 0 (.tryCompile (.text "x") (.boolean false))]).2.evaluated = 1 := by cbv
  have hverdict : Compiler.verdict (.text "y")
      (.ok (.text "\x7b\"compiledCode\":\"y;\"\x7d")) = .ok (.ok "y;") := by cbv
  have hcall : CompileCall.text (.text "y") ⟨true⟩ CompileCall.helperName =
      "coffeeScriptHelper.compile(\"y\", \x7b\"bare\":true,\"literate\":true\x7d);" := by cbv
  obtain ⟨lease, n, hholds, hall⟩ := tryCompile_has_no_memory hreach rfl
  obtain ⟨-, s', htry, hevents⟩ := hall "y" true
  obtain rfl : ⟨1, .initialized 1, none⟩ = lease := Option.some.inj hholds.1
  obtain rfl : 1 = n := Option.some.inj (congrArg Handle.interpreter? hholds.2)
  rw [ofNew_collaborators, hevaluated] at htry
  rw [hcall] at hevents
  refine ⟨_, s', hreach, ?_, hevents⟩
  rw [htry, ← hverdict]
  rfl

end Run

end CoffeeHost
