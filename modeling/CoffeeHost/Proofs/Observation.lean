import CoffeeHost.Proofs.Histories
import CoffeeHost.Proofs.Lifecycle
import CoffeeHost.Proofs.Silence
/-!
# Verbose mode only observes

The steps of a run that are no actions turn verbose mode on or off. Two runs with the same actions,
wherever verbose mode is turned on or off between them, do the same: each action gives the same
reply, adds the same to the log, and leaves the same compilers and the same session but for what
verbose mode has said. While it is off it says nothing.

## Main definitions

* `Step.isAction` — the steps that are actions.
* `Moment.silenced` — a moment without what verbose mode has said.
* `SessionM.Quiet` — computations that leave verbose mode as it is, and say nothing while it is off.
* `Run.verboseAfter` — whether verbose mode is on after some steps.

## Main results

* `Run.moments_silenced` — turning verbose mode on or off changes no action.
* `Run.step_quiet` — while verbose mode is off, no step says anything.
* `Run.verbose_mode_only_observes` — both, for the runs of new compilers.
-/

namespace CoffeeHost

/-- Whether a step is an action, and does not turn verbose mode on or off. -/
def Step.isAction : Step → Bool
  | act .. => true
  | verbose _ => false

/-- A moment without what verbose mode has said up to it. -/
def Moment.silenced (m : Moment) : Moment := { m with session := m.session.silenced }

/-! ### Quiet computations -/

namespace SessionM

/-- The computation neither turns verbose mode on nor off, and says nothing while it is off. -/
def Quiet {α : Type} (x : SessionM α) : Prop :=
  ∀ s, (x s).2.verbose = s.verbose ∧ (s.verbose = false → (x s).2.messages = s.messages)

/-- All computations are quiet that are put together from quiet ones. -/
theorem Quiet.inherited : Inherited Quiet where
  pure _ := fun _ => ⟨rfl, fun _ => rfl⟩
  bind {α β x f} hx hf := by
    intro s
    obtain ⟨hverbose, hmessages⟩ := hx s
    obtain ⟨hverbose', hmessages'⟩ := hf (x s).1 (x s).2
    refine ⟨hverbose'.trans hverbose, fun hoff => ?_⟩
    exact (hmessages' (hverbose.trans hoff)).trans (hmessages hoff)
  say message := by
    intro s
    refine ⟨?_, fun hoff => ?_⟩
    · simp only [Session.say]
      split_ifs <;> rfl
    · simp [Session.say, hoff]
  create := fun _ => ⟨rfl, fun _ => rfl⟩
  load _ _ _ := fun _ => ⟨rfl, fun _ => rfl⟩
  readResource _ := fun _ => ⟨rfl, fun _ => rfl⟩
  evaluate _ _ := fun _ => ⟨rfl, fun _ => rfl⟩

end SessionM

namespace Run

variable {compilers : List (Option Compiler)} {s s' : Session}

/-! ### Single steps -/

/-- An action is quiet. -/
theorem act_quiet (compilers : List (Option Compiler)) (number : Nat) (action : Action) :
    SessionM.Quiet (Run.step compilers (.act number action)) :=
  SessionM.Quiet.inherited.act (fun _ => ⟨rfl, fun _ => rfl⟩) (fun _ _ => ⟨rfl, fun _ => rfl⟩)
    compilers number action

/-- While verbose mode is off, no step says anything, not even one that turns it on. -/
theorem step_quiet (compilers : List (Option Compiler)) (step : Step) (hoff : s.verbose = false) :
    (Run.step compilers step s).2.messages = s.messages := by
  cases step with
  | act number action => exact (act_quiet compilers number action s).2 hoff
  | verbose on => rfl

/-- Verbose mode changes nothing of an action. -/
theorem act_deaf (compilers : List (Option Compiler)) (number : Nat) (action : Action) :
    SessionM.Deaf (Run.step compilers (.act number action)) :=
  SessionM.Deaf.inherited.act (fun _ => ⟨rfl, rfl⟩) (fun _ _ => ⟨rfl, rfl⟩) compilers number action

theorem events_of_silenced_eq (hs : s.silenced = s'.silenced) : s.events = s'.events := by
  have h := congrArg Session.events hs
  exact h

/-- An action does the same in sessions that differ at most in what was said. -/
theorem moment_silenced (hs : s.silenced = s'.silenced) (compilers : List (Option Compiler))
    (number : Nat) (action : Action) :
    (moment compilers (.act number action) s).silenced =
      (moment compilers (.act number action) s').silenced := by
  obtain ⟨hgives, hleaves⟩ := (act_deaf compilers number action).of_silenced_eq hs
  simp only [Moment.silenced, moment, Session.added, hgives, hleaves, events_of_silenced_eq hs,
    events_of_silenced_eq hleaves]

/-! ### Runs -/

/-- The actions of a run do what they do in the run without the other steps. -/
theorem moments_silenced (compilers : List (Option Compiler)) (steps : List Step)
    (hs : s.silenced = s'.silenced) :
    ((moments compilers steps s).filter fun m => m.step.isAction).map Moment.silenced =
      (moments compilers (steps.filter Step.isAction) s').map Moment.silenced := by
  induction steps generalizing compilers s s' with
  | nil => rfl
  | cons first rest ih =>
    cases first with
    | verbose on =>
      -- The step leaves a session that differs in verbose mode at most.
      exact ih compilers (s := { s with verbose := on }) hs
    | act number action =>
      obtain ⟨hgives, hleaves⟩ := (act_deaf compilers number action).of_silenced_eq hs
      have hrest : ((moments (Run.step compilers (.act number action) s).1.1 rest
            (Run.step compilers (.act number action) s).2).filter fun m => m.step.isAction).map
              Moment.silenced =
          (moments (Run.step compilers (.act number action) s').1.1 (rest.filter Step.isAction)
            (Run.step compilers (.act number action) s').2).map Moment.silenced := by
        rw [hgives]
        exact ih _ hleaves
      exact congrArg₂ List.cons (moment_silenced hs compilers number action) hrest

/-- Verbose mode after a step, if it is `now` before. -/
def verboseNext (now : Bool) : Step → Bool
  | .verbose on => on
  | .act .. => now

/-- Whether verbose mode is on after some steps. It is off at first. -/
def verboseAfter (steps : List Step) : Bool := steps.foldl verboseNext false

/-- Only the steps for it turn verbose mode on or off. -/
theorem steps_verbose (compilers : List (Option Compiler)) (steps : List Step) (s : Session) :
    (Run.steps compilers steps s).2.verbose = steps.foldl verboseNext s.verbose := by
  induction steps generalizing compilers s with
  | nil => rfl
  | cons first rest ih =>
    have hfirst : (Run.step compilers first s).2.verbose = verboseNext s.verbose first := by
      cases first with
      | verbose on => rfl
      | act number action => exact (act_quiet compilers number action s).1
    have hrest := ih (Run.step compilers first s).1.1 (Run.step compilers first s).2
    rw [hfirst] at hrest
    exact hrest

/-- In two runs of new compilers with the same actions, whatever the collaborators and the factories
do, each action gives the same reply, adds the same to the log, and leaves the same compilers and
the same session, but for what verbose mode has said. And after any steps that leave verbose mode
off, the next step says nothing. -/
theorem verbose_mode_only_observes {steps steps' : List Step}
    (h : steps.filter Step.isAction = steps'.filter Step.isAction) (collaborators : Collaborators)
    (factories : List Factory) :
    ((history collaborators factories steps).filter fun m => m.step.isAction).map
          Moment.silenced =
        ((history collaborators factories steps').filter fun m => m.step.isAction).map
          Moment.silenced ∧
      ∀ (before : List Step) (step : Step),
        let run := ofNew collaborators factories before
        run.2.verbose = verboseAfter before ∧
          (verboseAfter before = false →
            (Run.step run.1.1 step run.2).2.messages = run.2.messages) := by
  refine ⟨?_, fun before step => ?_⟩
  · rw [history, history, moments_silenced _ steps rfl, moments_silenced _ steps' rfl, h]
  · intro run
    have hverbose : run.2.verbose = verboseAfter before := steps_verbose _ before _
    exact ⟨hverbose, fun hoff => step_quiet run.1.1 step (hverbose.trans hoff)⟩

/-- A compilation in verbose mode, and one without. -/
theorem verbose_compilation_is_the_same :
    let compile := Step.act 0 (.tryCompile (.text "x") (.boolean false))
    let steps := [.verbose true, compile, .verbose false, .act 0 .release]
    let steps' := [compile, .act 0 .release]
    steps.filter Step.isAction = steps'.filter Step.isAction ∧
      ((history (.reacting (.ok .null)) [.plain] steps).filter fun m => m.step.isAction).map
          Moment.silenced =
        ((history (.reacting (.ok .null)) [.plain] steps').filter fun m => m.step.isAction).map
          Moment.silenced ∧
      (ofNew (.reacting (.ok .null)) [.plain] steps).2.messages =
        ["Initializing CoffeeScript interpreter", "Loaded resource coffeescript.js",
          "Loaded resource csc_helper.js"] ∧
      (ofNew (.reacting (.ok .null)) [.plain] steps').2.messages = [] := by
  have hactions : [.verbose true, .act 0 (.tryCompile (.text "x") (.boolean false)),
        .verbose false, .act 0 .release].filter Step.isAction =
      [.act 0 (.tryCompile (.text "x") (.boolean false)), .act 0 .release].filter
        Step.isAction := rfl
  refine ⟨hactions, (verbose_mode_only_observes hactions _ _).1, ?_, ?_⟩
  · cbv
  · cbv

end Run

end CoffeeHost
