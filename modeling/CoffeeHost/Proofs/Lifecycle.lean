import Mathlib
import CoffeeHost.Proofs.Operations
/-!
# The life of a compiler

The stage of a compiler, the handle that it keeps and the fault of a failed start are changed one
after the other, and something may be raised in between. After every step they fit together all
the same: only a running compiler keeps a handle, and that handle holds an interpreter; only a
compiler whose start has failed has a fault; and a released compiler keeps its handle only if
giving it back raised something. The stage only moves forward.

## Main definitions

* `Compiler.Consistent` — stage, handle and fault fit together.
* `Compiler.Stage.Moves` — the ways in which a stage can change.
* `Compiler.Becomes` — what can become of a compiler.

## Main results

* `Run.Reaches.consistent` — every compiler is consistent after every run.
* `Run.Reaches.moves` — stages only move forward along a run.
* `Run.record_stays_consistent` — both, and that a compiler that has started asks its own
  interpreter.
-/

namespace CoffeeHost

open Json (Value)

/-- Collaborators that prepare interpreters, and whose engine reacts to every expression in the
same way. A script is its name. -/
def Collaborators.reacting (reaction : Except Raised Value) : Collaborators where
  create _ := none
  load _ := none
  evaluate _ _ := reaction
  read _ name := .ok name

namespace Compiler

/-- The stage of a compiler, the handle that it keeps and the fault of a failed start fit together.
The events are those of the session. -/
structure Consistent (compiler : Compiler) (events : List Event) : Prop where
  uninitialized : compiler.phase.stage = .uninitialized →
    compiler.phase.lease? = none ∧ compiler.phase.fault? = none
  initialized : compiler.phase.stage = .initialized →
    (∃ lease n, compiler.Holds lease n) ∧ compiler.phase.fault? = none
  failed : compiler.phase.stage = .failed →
    compiler.phase.lease? = none ∧ ∃ fault, compiler.phase.fault? = some fault
  disposed : compiler.phase.stage = .disposed → ∀ lease, compiler.phase.lease? = some lease →
    (∃ raised, lease.releaseRaises = some raised) ∧
      .giveBack lease.number lease.handle.interpreter? ∈ events

/-- The ways in which a stage can change: a start succeeds or fails, and a release comes from
anywhere. -/
inductive Stage.Moves : Stage → Stage → Prop
  | stay (stage : Stage) : Moves stage stage
  | start : Moves .uninitialized .initialized
  | fail : Moves .uninitialized .failed
  | dispose (stage : Stage) : Moves stage .disposed

theorem Stage.Moves.trans {a b c : Stage} (h : Moves a b) (h' : Moves b c) : Moves a c := by
  cases h' with
  | stay => exact h
  | dispose => exact .dispose a
  | start => cases h with | stay => exact .start
  | fail => cases h with | stay => exact .fail

/-- What can become of a compiler: it keeps its factory, and its stage moves forward. -/
structure Becomes (compiler compiler' : Compiler) : Prop where
  factory : compiler'.factory = compiler.factory
  stage : Stage.Moves compiler.phase.stage compiler'.phase.stage

theorem Becomes.refl (compiler : Compiler) : Becomes compiler compiler := ⟨rfl, .stay _⟩

theorem Becomes.trans {a b c : Compiler} (h : Becomes a b) (h' : Becomes b c) : Becomes a c :=
  ⟨h'.factory.trans h.factory, h.stage.trans h'.stage⟩

variable {compiler compiler' : Compiler} {s s' : Session}

theorem consistent_new (factory : Factory) (events : List Event) :
    (new factory).Consistent events :=
  ⟨fun _ => ⟨rfl, rfl⟩, nofun, nofun, nofun⟩

/-- More events leave a compiler consistent. -/
theorem Consistent.mono {events events' : List Event} (h : compiler.Consistent events)
    (hevents : events ⊆ events') : compiler.Consistent events' :=
  ⟨h.uninitialized, h.initialized, h.failed, fun hstage lease hlease =>
    ⟨(h.disposed hstage lease hlease).1, hevents (h.disposed hstage lease hlease).2⟩⟩

/-! ### What the operations keep -/

theorem Starting.consistent {result : Except Raised Unit}
    (h : Starting compiler s compiler' result s') (hc : compiler.Consistent s.events) :
    compiler'.Consistent s'.events := by
  have hsubset := h.later.events.subset
  cases h with
  | running | released | failed | interrupted => exact hc.mono hsubset
  | prepared hstage lease n new _ hstretch hholds =>
    exact ⟨nofun, fun _ => ⟨⟨lease, n, rfl, hholds⟩, (hc.uninitialized hstage).2⟩, nofun, nofun⟩
  | refused hstage =>
    exact ⟨nofun, nofun, fun _ => ⟨(hc.uninitialized hstage).1, _, rfl⟩, nofun⟩
  | abandoned hstage =>
    exact ⟨nofun, nofun, fun _ => ⟨(hc.uninitialized hstage).1, _, rfl⟩, nofun⟩

theorem Starting.becomes {result : Except Raised Unit}
    (h : Starting compiler s compiler' result s') : Becomes compiler compiler' := by
  cases h with
  | running | released | failed | interrupted => exact .refl compiler
  | prepared hstage => exact ⟨rfl, by rw [hstage]; exact .start⟩
  | refused hstage => exact ⟨rfl, by rw [hstage]; exact .fail⟩
  | abandoned hstage => exact ⟨rfl, by rw [hstage]; exact .fail⟩

theorem Releasing.consistent {result : Except Raised Unit}
    (h : Releasing compiler s compiler' result s') (hc : compiler.Consistent s.events) :
    compiler'.Consistent s'.events := by
  cases h with
  | again => exact hc
  | empty hstage hlease =>
    exact ⟨nofun, nofun, nofun, fun _ lease h => absurd (hlease.symm.trans h) nofun⟩
  | givenBack => exact ⟨nofun, nofun, nofun, fun _ lease h => absurd h nofun⟩
  | kept hstage lease raised _ hlease hreleases hlogged =>
    refine ⟨nofun, nofun, nofun, fun _ lease' h => ?_⟩
    obtain rfl : lease = lease' := Option.some.inj h
    refine ⟨⟨raised, hreleases⟩, ?_⟩
    rw [hlogged.events]
    exact List.mem_append_right _ (List.mem_singleton_self _)

theorem Releasing.becomes {result : Except Raised Unit}
    (h : Releasing compiler s compiler' result s') : Becomes compiler compiler' := by
  cases h with
  | again => exact .refl compiler
  | empty | givenBack | kept => exact ⟨rfl, .dispose _⟩

end Compiler

/-! ### Steps and runs -/

namespace Action

variable {compiler compiler' : Compiler} {next : Option Compiler} {s s' : Session}

/-- An action keeps a compiler consistent, and its stage moves forward. -/
theorem Performing.lifecycle (h : Performing compiler s (some compiler') s')
    (hc : compiler.Consistent s.events) :
    compiler'.Consistent s'.events ∧ compiler.Becomes compiler' := by
  cases h with
  | idle => exact ⟨hc, .refl compiler⟩
  | compiling source options _ result _ h =>
    obtain ⟨result₁, s₁, hstart, hlater⟩ := h.starting
    exact ⟨(hstart.consistent hc).mono hlater.events.subset, hstart.becomes⟩
  | releasing _ result _ h => exact ⟨h.consistent hc, h.becomes⟩

end Action

namespace Run

/-- Every compiler is consistent. -/
def AllConsistent (compilers : List (Option Compiler)) (s : Session) : Prop :=
  ∀ (number : Nat) (compiler : Compiler), compilers[number]? = some (some compiler) →
    compiler.Consistent s.events

theorem AllConsistent.holds {compilers : List (Option Compiler)} {s : Session}
    (h : AllConsistent compilers s) (number : Nat) (compiler : Compiler)
    (hcompiler : compilers[number]? = some (some compiler))
    (hstage : compiler.phase.stage = .initialized) : ∃ lease n, compiler.Holds lease n :=
  ((h number compiler hcompiler).initialized hstage).1

/-- Every compiler has become of one that was there before. -/
def Moved (compilers compilers' : List (Option Compiler)) : Prop :=
  ∀ (number : Nat) (compiler' : Compiler), compilers'[number]? = some (some compiler') →
    ∃ compiler, compilers[number]? = some (some compiler) ∧ compiler.Becomes compiler'

theorem Moved.refl (compilers : List (Option Compiler)) : Moved compilers compilers :=
  fun _ compiler h => ⟨compiler, h, .refl compiler⟩

theorem Stepping.lifecycle {compilers compilers' : List (Option Compiler)} {s s' : Session}
    (h : Stepping compilers s compilers' s') (hc : AllConsistent compilers s) :
    AllConsistent compilers' s' ∧ Moved compilers compilers' := by
  cases h with
  | idle => exact ⟨hc, .refl compilers⟩
  | verbose on => exact ⟨hc, .refl compilers⟩
  | act number compiler next _ hcompiler hperform =>
    refine ⟨fun number' compiler' h => ?_, fun number' compiler' h => ?_⟩ <;>
      rcases of_getElem?_set h with ⟨-, hother⟩ | ⟨rfl, rfl⟩
    · exact (hc number' compiler' hother).mono hperform.later.events.subset
    · exact (hperform.lifecycle (hc _ compiler hcompiler)).1
    · exact ⟨compiler', hother, .refl compiler'⟩
    · exact ⟨compiler, hcompiler, (hperform.lifecycle (hc _ compiler hcompiler)).2⟩

theorem Moved.trans {a b c : List (Option Compiler)} (h : Moved a b) (h' : Moved b c) :
    Moved a c := fun number compiler₂ h₂ => by
  obtain ⟨compiler₁, h₁, hbecomes₁⟩ := h' number compiler₂ h₂
  obtain ⟨compiler, h₀, hbecomes₀⟩ := h number compiler₁ h₁
  exact ⟨compiler, h₀, hbecomes₀.trans hbecomes₁⟩

/-- Runs keep compilers consistent, add to the log, and leave what can become of compilers. -/
theorem steps_lifecycle {compilers : List (Option Compiler)} {s : Session}
    (hc : AllConsistent compilers s) (steps : List Step) :
    AllConsistent (Run.steps compilers steps s).1.1 (Run.steps compilers steps s).2 ∧
      Moved compilers (Run.steps compilers steps s).1.1 ∧
      Session.Later s (Run.steps compilers steps s).2 := by
  refine steps_induction (motive := fun compilers' s' =>
    AllConsistent compilers' s' ∧ Moved compilers compilers' ∧ Session.Later s s') ?_ steps
    ⟨hc, .refl compilers, .refl s⟩
  intro compilers' s' step ⟨hc', hmoved, hlater⟩
  have hstep := step_spec hc'.holds step s'
  obtain ⟨hc'', hmoved'⟩ := hstep.lifecycle hc'
  exact ⟨hc'', hmoved.trans hmoved', hlater.trans hstep.later⟩

theorem allConsistent_new (factories : List Factory) (s : Session) :
    AllConsistent (factories.map fun factory => some (.new factory)) s := by
  intro number compiler h
  simp only [List.getElem?_map, Option.map_eq_some_iff, Option.some.injEq] at h
  obtain ⟨factory, -, rfl⟩ := h
  exact Compiler.consistent_new factory s.events

variable {collaborators : Collaborators} {factories : List Factory} {steps : List Step}
  {number : Nat} {compiler : Compiler} {s : Session}

/-- Every compiler is consistent after every run. -/
theorem Reaches.consistent (h : Reaches collaborators factories steps number compiler s) :
    compiler.Consistent s.events := by
  obtain ⟨hcompiler, rfl⟩ := h
  exact (steps_lifecycle (allConsistent_new factories _) steps).1 number compiler hcompiler

theorem ofNew_collaborators (collaborators : Collaborators) (factories : List Factory)
    (steps : List Step) :
    (ofNew collaborators factories steps).2.collaborators = collaborators :=
  (steps_lifecycle (allConsistent_new factories (.new collaborators)) steps).2.2.collaborators

/-- A compiler has one of the factories of the run. -/
theorem Reaches.factory_mem (h : Reaches collaborators factories steps number compiler s) :
    compiler.factory ∈ factories := by
  obtain ⟨hcompiler, -⟩ := h
  obtain ⟨-, hmoved, -⟩ :=
    steps_lifecycle (allConsistent_new factories (.new collaborators)) steps
  obtain ⟨compiler₀, h₀, hbecomes⟩ := hmoved number compiler hcompiler
  simp only [List.getElem?_map, Option.map_eq_some_iff, Option.some.injEq] at h₀
  obtain ⟨factory, hfactory, rfl⟩ := h₀
  exact hbecomes.factory ▸ List.mem_of_getElem? hfactory

/-- Along a run, the stage of a compiler only moves forward. -/
theorem Reaches.moves (h : Reaches collaborators factories steps number compiler s)
    {more : List Step} {compiler' : Compiler} {s' : Session}
    (h' : Reaches collaborators factories (steps ++ more) number compiler' s') :
    Compiler.Stage.Moves compiler.phase.stage compiler'.phase.stage := by
  obtain ⟨hcompiler, rfl⟩ := h
  obtain ⟨hcompiler', -⟩ := h'
  rw [ofNew, (steps_append _ steps more _).1] at hcompiler'
  have hc := (steps_lifecycle (allConsistent_new factories (.new collaborators)) steps).1
  obtain ⟨compiler₀, h₀, hbecomes⟩ := (steps_lifecycle hc more).2.1 number compiler' hcompiler'
  obtain rfl : compiler₀ = compiler := by simpa using h₀.symm.trans hcompiler
  exact hbecomes.stage

/-- The life of a compiler of any run. Its record is consistent, whatever was raised on the way and
wherever. In the rest of the run its stage only moves forward. And once a start succeeds, a call
goes to the interpreter that its handle holds, so it is neither asked of a handle that is not there
nor refused by a handle that is not initialized. -/
theorem record_stays_consistent
    (h : Reaches collaborators factories steps number compiler s) :
    compiler.Consistent s.events ∧
      (∀ more compiler' s',
        Reaches collaborators factories (steps ++ more) number compiler' s' →
        Compiler.Stage.Moves compiler.phase.stage compiler'.phase.stage) ∧
      ∀ compiler' s', compiler.start s = ((compiler', .ok ()), s') →
        ∃ lease n, compiler'.Holds lease n ∧ ∀ call,
          Compiler.ask compiler'.phase.lease? call s' =
            (Compiler.reading (s'.collaborators.evaluate s'.evaluated call),
              (Session.evaluate n call s').2) := by
  refine ⟨h.consistent, fun more compiler' s' h' => h.moves h', fun compiler' s' hstart => ?_⟩
  have hspec := compiler.start_spec s
  rw [hstart] at hspec
  obtain ⟨⟨lease, n, hholds⟩, -⟩ :=
    (hspec.consistent h.consistent).initialized hspec.stage_of_ok
  refine ⟨lease, n, hholds, fun call => ?_⟩
  rw [hholds.1, Compiler.ask_initialized hholds.2]

/-- A compiler that has started and is released then. -/
theorem released_record_is_consistent :
    ∃ s, Reaches (.reacting (.ok .null)) [.plain]
        [.act 0 (.tryCompile (.text "x") (.boolean false)), .act 0 .release] 0
        ⟨.plain, ⟨.disposed, none, none⟩⟩ s ∧
      Compiler.Consistent ⟨.plain, ⟨.disposed, none, none⟩⟩ s.events := by
  have hreach : Reaches (.reacting (.ok .null)) [.plain]
      [.act 0 (.tryCompile (.text "x") (.boolean false)), .act 0 .release] 0
      ⟨.plain, ⟨.disposed, none, none⟩⟩ _ := ⟨by cbv, rfl⟩
  exact ⟨_, hreach, (record_stays_consistent hreach).1⟩

end Run

end CoffeeHost
