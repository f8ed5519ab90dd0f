import CoffeeHost.Proofs.Custody
import CoffeeHost.Proofs.Histories
import CoffeeHost.Proofs.Lifecycle
/-!
# Compilers are isolated

The compilers of a run share the session: one numbering of interpreters and one of handles, and one
log. Still they do not meet. An action changes its own compiler alone. Signed by the compilers whose
actions they come from, the events of the log show that every interpreter and every handle is made
by one compiler, and is used by this one only. So no two compilers keep the same handle, or handles
that hold the same interpreter.

## Main definitions

* `Step.actor?` — the compiler on which a step acts.
* `Run.signedLog` — the events of a run, each with the compiler that it comes from.
* `MadeBy` — the compiler by which an asset was made, according to a signed log.
* `Run.Custody` — the invariant.

## Main results

* `Run.Custody.step` — a step keeps the invariant.
* `Run.custody` — it holds after every run.
* `Run.compilers_are_isolated` — what it comes to.
-/

namespace CoffeeHost

open Session (Minded)

/-! ### Signed logs -/

/-- The number of the compiler on which a step acts. -/
def Step.actor? : Step → Option Nat
  | act number _ => some number
  | verbose _ => none

/-- What a step added to the log, signed by the compiler on which it acts. -/
def Moment.signed (m : Moment) : List (Nat × Event) :=
  match m.step with
  | .act number _ => m.events.map fun e => (number, e)
  | .verbose _ => []

/-- The log of a run of new compilers, each event with the number of the compiler that it comes
from. -/
def Run.signedLog (collaborators : Collaborators) (factories : List Factory)
    (steps : List Step) : List (Nat × Event) :=
  (history collaborators factories steps).flatMap Moment.signed

/-- According to a signed log, an asset was made by the compiler of a number. -/
def MadeBy (log : List (Nat × Event)) (a : Asset) (number : Nat) : Prop :=
  ∃ e, (number, e) ∈ log ∧ e.makes? = some a

theorem MadeBy.append {log : List (Nat × Event)} {a : Asset} {number : Nat}
    (h : MadeBy log a number) (new : List (Nat × Event)) : MadeBy (log ++ new) a number := by
  obtain ⟨e, he, hmakes⟩ := h
  exact ⟨e, List.mem_append_left new he, hmakes⟩

theorem mem_made_iff {a : Asset} {events : List Event} :
    a ∈ made events ↔ ∃ e ∈ events, e.makes? = some a := List.mem_filterMap

/-- After more events of one compiler, an asset was made before, or by this compiler. -/
theorem madeBy_append_iff {log : List (Nat × Event)} {a : Asset} {number number' : Nat}
    {new : List Event} :
    MadeBy (log ++ new.map fun e => (number, e)) a number' ↔
      MadeBy log a number' ∨ number' = number ∧ a ∈ made new := by
  constructor
  · rintro ⟨e, he, hmakes⟩
    rcases List.mem_append.mp he with he | he
    · exact .inl ⟨e, he, hmakes⟩
    · obtain ⟨e', he', heq⟩ := List.mem_map.mp he
      obtain ⟨rfl, rfl⟩ := Prod.mk.inj heq
      exact .inr ⟨rfl, mem_made_iff.mpr ⟨e', he', hmakes⟩⟩
  · rintro (h | ⟨rfl, ha⟩)
    · exact h.append _
    · obtain ⟨e, he, hmakes⟩ := mem_made_iff.mp ha
      exact ⟨e, List.mem_append_right _ (List.mem_map_of_mem he), hmakes⟩

/-- An event of a longer log was there before, or comes after all of the shorter one. -/
theorem split_append {α : Type} {l new before after : List α} {x : α}
    (h : l ++ new = before ++ x :: after) :
    (∃ after', l = before ++ x :: after') ∨
      ∃ before', before = l ++ before' ∧ new = before' ++ x :: after := by
  rcases List.append_eq_append_iff.mp h with ⟨before', hbefore, hnew⟩ | ⟨tail, hl, htail⟩
  · exact .inr ⟨before', hbefore, hnew⟩
  · cases tail with
    | nil => exact .inr ⟨[], by simpa using hl.symm, by simpa using htail.symm⟩
    | cons y after' =>
      obtain ⟨rfl, -⟩ := List.cons.inj htail
      exact .inl ⟨after', hl⟩

/-- A used asset is among `own`, or was made before in the log. -/
theorem UsesOwn.of_split {own : List Asset} {events before after : List Event} {e : Event}
    (h : UsesOwn own events) (hsplit : events = before ++ e :: after) :
    e.uses ⊆ own ++ made before := by
  rw [hsplit, usesOwn_append_iff] at h
  exact h.2.1

namespace Run

/-! ### The invariant -/

/-- Every compiler uses and keeps only what it has made itself. -/
structure Custody (compilers : List (Option Compiler)) (log : List (Nat × Event)) (s : Session) :
    Prop where
  /-- No event is left unsigned. -/
  events : log.map Prod.snd = s.events
  counts : ∀ a number, MadeBy log a number → s.Counts a
  unique : ∀ a number number', MadeBy log a number → MadeBy log a number' → number = number'
  uses : ∀ before number e after, log = before ++ (number, e) :: after →
    ∀ a ∈ e.uses, MadeBy before a number
  keeps : ∀ (number : Nat) (compiler : Compiler), compilers[number]? = some (some compiler) →
    ∀ a ∈ compiler.assets, MadeBy log a number

namespace Custody

variable {compilers : List (Option Compiler)} {log : List (Nat × Event)} {s s' : Session}
  {number : Nat} {compiler : Compiler} {next : Option Compiler}

theorem new (factories : List Factory) (collaborators : Collaborators) :
    Custody (factories.map fun factory => some (.new factory)) [] (.new collaborators) where
  events := rfl
  counts := by rintro a number ⟨e, he, -⟩; exact absurd he List.not_mem_nil
  unique := by rintro a number number' ⟨e, he, -⟩; exact absurd he List.not_mem_nil
  uses := by simp
  keeps := by
    intro number compiler h
    simp only [List.getElem?_map, Option.map_eq_some_iff, Option.some.injEq] at h
    obtain ⟨factory, -, rfl⟩ := h
    simp [Compiler.assets, Compiler.new, Phase.new, Lease.assets?]

/-- An action that minds the assets of its compiler keeps the invariant. -/
theorem act (h : Custody compilers log s) (hcompiler : compilers[number]? = some (some compiler))
    (hminded : Minded compiler.assets s (Compiler.assets? next) s') :
    Custody (compilers.set number next)
      (log ++ (s.added s').map fun e => (number, e)) s' := by
  obtain ⟨new, hnew, huses, hmade, hleft⟩ := hminded.events
  rw [Session.added_of_append hnew]
  -- What the compiler had or has made by then, it has made itself.
  have hown {before : List Event} {a : Asset} (ha : a ∈ compiler.assets ++ made before) :
      MadeBy (log ++ before.map fun e => (number, e)) a number := by
    rw [madeBy_append_iff]
    rcases List.mem_append.mp ha with ha | ha
    · exact .inl (h.keeps number compiler hcompiler a ha)
    · exact .inr ⟨rfl, ha⟩
  refine ⟨?_, fun a i hi => ?_, fun a i j hi hj => ?_, fun before i e after hsplit a ha => ?_,
    fun i other hi a ha => ?_⟩
  · rw [List.map_append, h.events, hnew]
    simp [Function.comp_def]
  · rcases madeBy_append_iff.mp hi with hi | ⟨-, hi⟩
    · exact hminded.counts (h.counts a i hi)
    · exact (hmade a hi).2
  · rcases madeBy_append_iff.mp hi with hold | ⟨hinumber, hnow⟩ <;>
      rcases madeBy_append_iff.mp hj with hold' | ⟨hjnumber, hnow'⟩
    · exact h.unique a i j hold hold'
    · exact absurd (h.counts a i hold) (hmade a hnow').1
    · exact absurd (h.counts a j hold') (hmade a hnow).1
    · exact hinumber.trans hjnumber.symm
  · rcases split_append hsplit with ⟨after', hlog⟩ | ⟨before', rfl, hsigned⟩
    · exact h.uses before i e after' hlog a ha
    · obtain ⟨events, rest, rfl, rfl, hrest⟩ := List.map_eq_append_iff.mp hsigned
      obtain ⟨e', rest', rfl, heq, -⟩ := List.map_eq_cons_iff.mp hrest
      obtain ⟨rfl, rfl⟩ := Prod.mk.inj heq
      exact hown (huses.of_split rfl ha)
  · rcases of_getElem?_set hi with ⟨-, hother⟩ | ⟨rfl, rfl⟩
    · exact (h.keeps i other hother a ha).append _
    · exact hown (hleft ha)

/-- A step that changes neither compilers nor numbers and adds nothing keeps the invariant. -/
theorem idle (h : Custody compilers log s) (hevents : s'.events = s.events)
    (hcounts : ∀ a, s.Counts a → s'.Counts a) : Custody compilers log s' :=
  ⟨h.events.trans hevents.symm, fun a i hi => hcounts a (h.counts a i hi), h.unique, h.uses, h.keeps⟩

/-- A step keeps the invariant. -/
theorem step (h : Custody compilers log s) (step : Step) :
    Custody (Run.step compilers step s).1.1 (log ++ (moment compilers step s).signed)
      (Run.step compilers step s).2 := by
  cases step with
  | verbose on =>
    have hsigned : (moment compilers (.verbose on) s).signed = [] := rfl
    rw [hsigned, List.append_nil]
    exact h.idle rfl fun a ha => by cases a <;> exact ha
  | act number action =>
    rcases act_cases compilers number with ⟨compiler, hcompiler⟩ | hidle
    · have hminded := action.perform_minds compiler s
      have hstep := step_act hcompiler action s
      have hsigned : (moment compilers (.act number action) s).signed =
          (s.added (action.perform compiler s).2).map fun e => (number, e) := by
        simp only [Moment.signed, moment, hstep]
      rw [hsigned, hstep]
      exact h.act hcompiler hminded
    · have hsigned : (moment compilers (.act number action) s).signed = [] := by
        simp [Moment.signed, moment, hidle, Session.added]
      rw [hsigned, List.append_nil, hidle]
      exact h

end Custody

/-! ### Runs -/

/-- After every run of new compilers, each has used and keeps only what it has made itself. -/
theorem custody (collaborators : Collaborators) (factories : List Factory) (steps : List Step) :
    Custody (ofNew collaborators factories steps).1.1 (signedLog collaborators factories steps)
      (ofNew collaborators factories steps).2 := by
  induction steps using List.reverseRecOn with
  | nil => exact .new factories collaborators
  | append_singleton steps step ih =>
    have hlog : signedLog collaborators factories (steps ++ [step]) =
        signedLog collaborators factories steps ++
          (moment (ofNew collaborators factories steps).1.1 step
            (ofNew collaborators factories steps).2).signed := by
      simp [signedLog, history_concat]
    rw [hlog, (ofNew_concat ..).1, (ofNew_concat ..).2]
    exact ih.step step

section Others

variable {compilers : List (Option Compiler)} {other : Nat}

/-- A step leaves all compilers but the one on which it acts. -/
theorem step_spares {step : Step} (h : step.actor? ≠ some other) (s : Session) :
    (Run.step compilers step s).1.1[other]? = compilers[other]? := by
  cases step with
  | verbose on => rfl
  | act number action =>
    have hne : number ≠ other := fun heq => h (congrArg some heq)
    rcases act_cases compilers number with ⟨compiler, hcompiler⟩ | hidle
    · rw [step_act hcompiler, List.getElem?_set_ne hne]
    · rw [hidle]

/-- Steps on other compilers leave a compiler as it is. -/
theorem steps_spare {steps : List Step} (h : ∀ step ∈ steps, step.actor? ≠ some other)
    (s : Session) : (Run.steps compilers steps s).1.1[other]? = compilers[other]? := by
  induction steps generalizing compilers s with
  | nil => rfl
  | cons first rest ih =>
    have hrest : (Run.steps (Run.step compilers first s).1.1 rest
        (Run.step compilers first s).2).1.1[other]? =
          (Run.step compilers first s).1.1[other]? :=
      ih (fun step hstep => h step (List.mem_cons_of_mem _ hstep)) _
    exact hrest.trans (step_spares (h first (List.mem_cons_self ..)) s)

end Others

/-- The compilers of any run, whatever the collaborators and the factories do. Steps on others leave
a compiler as it is: its stage, the fault of a failed start, and the handle that it keeps in its
state. The signed log is the log. A script is executed and an expression evaluated in an interpreter
only by the compiler that has created it before, and a handle is given back, with the interpreter
that it holds, only by the compiler that has created the one and was handed out the other; nobody
else makes either. And no two compilers keep the same handle or hold the same interpreter. -/
theorem compilers_are_isolated (collaborators : Collaborators) (factories : List Factory)
    (steps : List Step) :
    let run := ofNew collaborators factories steps
    let log := signedLog collaborators factories steps
    (∀ (other : Nat) (more : List Step), (∀ step ∈ more, step.actor? ≠ some other) →
        (ofNew collaborators factories (steps ++ more)).1.1[other]? = run.1.1[other]?) ∧
      log.map Prod.snd = run.2.events ∧
      (∀ before number e after, log = before ++ (number, e) :: after → ∀ a ∈ e.uses,
        MadeBy before a number ∧ ∀ number', MadeBy log a number' → number' = number) ∧
      ∀ (number number' : Nat) (compiler compiler' : Compiler) (a : Asset),
        run.1.1[number]? = some (some compiler) → run.1.1[number']? = some (some compiler') →
        a ∈ compiler.assets → a ∈ compiler'.assets → number = number' := by
  intro run log
  have hcustody : Custody run.1.1 log run.2 := custody collaborators factories steps
  refine ⟨fun other more hmore => ?_, hcustody.events, fun before number e after hsplit a ha => ?_,
    fun number number' compiler compiler' a hcompiler hcompiler' ha ha' => ?_⟩
  · rw [ofNew, (steps_append _ steps more _).1]
    exact steps_spare hmore _
  · have hmade := hcustody.uses before number e after hsplit a ha
    refine ⟨hmade, fun number' hother => ?_⟩
    rw [hsplit] at hother hcustody
    exact hcustody.unique a number' number hother (hmade.append _)
  · exact hcustody.unique a number number' (hcustody.keeps number compiler hcompiler a ha)
      (hcustody.keeps number' compiler' hcompiler' a ha')

/-- Two compilers, of which the first is given up: the second evaluates in the interpreter that it
has created. -/
theorem second_compiler_has_its_own_interpreter :
    let log := signedLog (.reacting (.ok .null)) [.plain, .plain]
      [.act 0 (.tryCompile (.text "x") (.boolean false)),
        .act 1 (.tryCompile (.text "y") (.boolean false)), .act 0 .discard]
    ∃ before call after, log = before ++ (1, .evaluate 2 call) :: after ∧
      MadeBy before (.interpreter 2) 1 ∧ ¬ MadeBy log (.interpreter 2) 0 := by
  intro log
  have hevent : (signedLog (.reacting (.ok .null)) [.plain, .plain]
      [.act 0 (.tryCompile (.text "x") (.boolean false)),
        .act 1 (.tryCompile (.text "y") (.boolean false)), .act 0 .discard])[15]? =
      some (1, .evaluate 2
        "coffeeScriptHelper.compile(\"y\", \x7b\"bare\":true,\"literate\":false\x7d);") := by
    cbv
  obtain ⟨before, after, hsplit⟩ := List.append_of_mem (List.mem_of_getElem? hevent)
  obtain ⟨-, -, huses, -⟩ := compilers_are_isolated (.reacting (.ok .null)) [.plain, .plain]
    [.act 0 (.tryCompile (.text "x") (.boolean false)),
      .act 1 (.tryCompile (.text "y") (.boolean false)), .act 0 .discard]
  obtain ⟨hmade, hunique⟩ := huses before 1 _ after hsplit (.interpreter 2) (by simp [Event.uses])
  exact ⟨before, _, after, hsplit, hmade, fun hother => absurd (hunique 0 hother) (by decide)⟩

end Run

end CoffeeHost
