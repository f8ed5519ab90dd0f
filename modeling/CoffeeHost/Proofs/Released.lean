import CoffeeHost.Proofs.FailedStart
/-!
# Released compilers only refuse

The first release of a compiler is its last change. From then on, whatever the compiler was before
and whatever its release raised, it refuses to compile with one fault, which names the release and
not the failure of an earlier start, and a further release has nothing left to do. Neither leaves a
trace: the session and all compilers stay as they are.

## Main definitions

* `Action.GivesUp` — the actions that release a compiler and leave it there.

## Main results

* `Run.Reaches.released` — a compiler that was released is released in the rest of the run.
* `Compiler.perform_released_tryCompile`, `Compiler.perform_released_compile`,
  `Action.GivesUp.perform_released` — what a released compiler does.
* `Run.released_compiler_only_refuses` — all that is asked of a compiler after its release.
-/

namespace CoffeeHost

open Json (Value)

/-! ### Released compilers -/

namespace Compiler

variable {compiler : Compiler}

theorem Stage.Moves.of_disposed {stage : Stage} (h : Moves .disposed stage) :
    stage = .disposed := by
  cases h with
  | stay | dispose => rfl

variable (hreleased : compiler.phase.stage = .disposed)

include hreleased

theorem start_released (s : Session) :
    compiler.start s = ((compiler, .error (.fault .compilerReleased)), s) := by
  simp [start, hreleased]

/-- The stage is looked at before the fault of a failed start is. -/
theorem tryCompile_released (source : Value) (options : CompileOptions) (s : Session) :
    compiler.tryCompile source options s =
      ((compiler, .ok (.failed (.fault .compilerReleased))), s) :=
  tryCompile_unstarted (start_released hreleased s) source options

/-- The stage is looked at before the handle is, so a handle that could not be given back is not
tried again. -/
theorem release_released (s : Session) : compiler.release s = ((compiler, .ok ()), s) := by
  simp [release, hreleased]

theorem perform_released_tryCompile (source : String) (literate : Bool) (s : Session) :
    Action.perform compiler (.tryCompile (.text source) (.boolean literate)) s =
      ((some compiler, .outcome (.failed (.fault .compilerReleased))), s) := by
  simp only [Action.perform, CompileOptions.ofLiterate_boolean, SessionM.bind_apply,
    tryCompile_released hreleased, SessionM.pure_apply]

theorem perform_released_compile (source : String) (literate : Bool) (s : Session) :
    Action.perform compiler (.compile (.text source) (.boolean literate)) s =
      ((some compiler, .failed (.compilation (.of (.fault .compilerReleased)))), s) := by
  simp only [Action.perform, CompileOptions.ofLiterate_boolean, SessionM.bind_apply,
    compile_apply, tryCompile_released hreleased]
  rfl

end Compiler

namespace Action

/-- Whether an action releases its compiler and leaves it there. -/
def GivesUp : Action → Prop
  | release | close | exit => True
  | _ => False

variable {action : Action}

/-- The actions that give a compiler up are one and the same. -/
theorem GivesUp.perform_eq (h : action.GivesUp) (compiler : Compiler) :
    action.perform compiler = performRelease compiler := by
  cases action with
  | release | close | exit => rfl
  | compile | tryCompile | enter | discard => exact h.elim

/-- What is left of a compiler that is given up is released, whatever its release raised. -/
theorem GivesUp.perform_stage (h : action.GivesUp) (compiler : Compiler) (s : Session) :
    ∃ released, (action.perform compiler s).1.1 = some released ∧
      released.phase.stage = .disposed := by
  rw [h.perform_eq]
  exact ⟨_, rfl, (compiler.release_spec s).disposed⟩

theorem GivesUp.perform_released (h : action.GivesUp) {compiler : Compiler}
    (hreleased : compiler.phase.stage = .disposed) (s : Session) :
    action.perform compiler s = ((some compiler, .nothing), s) := by
  rw [h.perform_eq, performRelease, SessionM.bind_apply, Compiler.release_released hreleased]
  rfl

end Action

/-! ### Runs -/

namespace Run

variable {collaborators : Collaborators} {factories : List Factory} {steps before : List Step}
  {number : Nat} {action : Action} {compiler : Compiler} {s : Session}

/-- A compiler that is there after a run was there after each part of it. -/
theorem Reaches.of_append {more : List Step}
    (h : Reaches collaborators factories (steps ++ more) number compiler s) :
    ∃ compiler₀ s₀, Reaches collaborators factories steps number compiler₀ s₀ := by
  obtain ⟨hcompiler, -⟩ := h
  rw [ofNew, (steps_append _ steps more _).1] at hcompiler
  obtain ⟨compiler₀, hthere, -⟩ :=
    (steps_lifecycle (ofNew_consistent collaborators factories steps) more).2.1 number compiler
      hcompiler
  exact ⟨compiler₀, _, hthere, rfl⟩

/-- The step that gives a compiler up leaves it released. -/
theorem Reaches.stage_of_givesUp (hgivesUp : action.GivesUp)
    (h : Reaches collaborators factories (before ++ [.act number action]) number compiler s) :
    compiler.phase.stage = .disposed := by
  obtain ⟨compiler₀, s₀, hthere, rfl⟩ := h.of_append
  obtain ⟨released, hleft, hstage⟩ := hgivesUp.perform_stage compiler₀
    (ofNew collaborators factories before).2
  have hcompiler := h.1
  rw [(ofNew_concat ..).1, step_act hthere, hleft,
    List.getElem?_set_self (List.getElem?_eq_some_iff.mp hthere).1] at hcompiler
  obtain rfl := Option.some.inj (Option.some.inj hcompiler)
  exact hstage

/-- A compiler that was given up is released in the rest of the run. -/
theorem Reaches.released {between : List Step} (hgivesUp : action.GivesUp)
    (h : Reaches collaborators factories (before ++ .act number action :: between) number
      compiler s) : compiler.phase.stage = .disposed := by
  have hsplit : before ++ .act number action :: between =
      before ++ [.act number action] ++ between := by simp
  rw [hsplit] at h
  obtain ⟨released, s₀, hreleased⟩ := h.of_append
  have hmoves := hreleased.moves h
  rw [hreleased.stage_of_givesUp hgivesUp] at hmoves
  exact hmoves.of_disposed

/-- A compiler that was given up somewhere in a run, whatever it was before and whatever its release
raised. From then on it answers every source with the fault of its release, as an outcome or as an
error of the kind of given up handles; giving it up again succeeds; and none of this changes a
compiler or the session. -/
theorem released_compiler_only_refuses {between : List Step} (hgivesUp : action.GivesUp)
    (h : Reaches collaborators factories (before ++ .act number action :: between) number
      compiler s) :
    let run := ofNew collaborators factories (before ++ .act number action :: between)
    let failure := .fault (.disposed "Compiler has been released")
    compiler.phase.stage = .disposed ∧
      (CompilationError.of failure).kind = .handleDisposed ∧
      (∀ (source : String) (literate : Bool),
        Run.step run.1.1 (.act number (.tryCompile (.text source) (.boolean literate))) s =
            ((run.1.1, .outcome (.failed failure)), s) ∧
          Run.step run.1.1 (.act number (.compile (.text source) (.boolean literate))) s =
            ((run.1.1, .failed (.compilation (.of failure))), s)) ∧
      ∀ again : Action, again.GivesUp →
        Run.step run.1.1 (.act number again) s = ((run.1.1, .nothing), s) := by
  intro run failure
  have hthere : run.1.1[number]? = some (some compiler) := h.1
  have hreleased := h.released hgivesUp
  refine ⟨hreleased, rfl, fun source literate => ⟨?_, ?_⟩, fun again hagain => ?_⟩
  · rw [step_act hthere, Compiler.perform_released_tryCompile hreleased, set_same hthere]
    rfl
  · rw [step_act hthere, Compiler.perform_released_compile hreleased, set_same hthere]
    rfl
  · rw [step_act hthere, hagain.perform_released hreleased, set_same hthere]

/-- A compiler whose handle could not be given back, and which is entered once more. -/
theorem stuck_compiler_only_refuses :
    let run := ofNew (.reacting (.ok .null)) [.stuck]
      ([.act 0 (.tryCompile (.text "x") (.boolean false))] ++ .act 0 .exit :: [.act 0 .enter])
    run.1.2[1]? = some (.failed (.raised .stuck)) ∧
      Run.step run.1.1 (.act 0 (.tryCompile (.text "y") (.boolean true))) run.2 =
        ((run.1.1, .outcome (.failed (.fault (.disposed "Compiler has been released")))),
          run.2) ∧
      Run.step run.1.1 (.act 0 .close) run.2 = ((run.1.1, .nothing), run.2) := by
  have hraised : (ofNew (.reacting (.ok .null)) [.stuck]
      ([.act 0 (.tryCompile (.text "x") (.boolean false))] ++
        .act 0 .exit :: [.act 0 .enter])).1.2[1]? = some (.failed (.raised .stuck)) := by cbv
  have hreach : Reaches (.reacting (.ok .null)) [.stuck]
      ([.act 0 (.tryCompile (.text "x") (.boolean false))] ++
        .act 0 .exit :: [.act 0 .enter]) 0
      ⟨.stuck, ⟨.disposed, some ⟨1, .initialized 1, some .stuck⟩, none⟩⟩ _ := ⟨by cbv, rfl⟩
  have hgivesUp : Action.exit.GivesUp := trivial
  obtain ⟨-, -, hcompiles, hagain⟩ := released_compiler_only_refuses hgivesUp hreach
  exact ⟨hraised, (hcompiles "y" true).1, hagain .close trivial⟩

end Run

end CoffeeHost
