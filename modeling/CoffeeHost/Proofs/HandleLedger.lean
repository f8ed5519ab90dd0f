import CoffeeHost.Proofs.Escapes
import CoffeeHost.Proofs.HandleAccounts
/-!
# Handles are given back once

In a run of one compiler, the account of the session is what was lost in starts that were cut
short, and after it the *ledger* of the compiler, which only its last start and its release have
written. A compiler that has not started has no entries; one that runs has asked for a handle and
keeps it; and when it has failed or is released, the account is settled: at most one handle was
asked for, and if it was handed out, it was given back.

## Main definitions

* `Ledger` — the entries of a compiler, by what has become of it.
* `Run.Uninterrupted` — runs in which no start is cut short.
* `Run.Accounted` — the account of a session with one compiler.

## Main results

* `Run.Accounted.step` — a step keeps the books, unless it cuts a start short.
* `Run.accounted_of_uninterrupted`, `Run.exists_accounted` — the account after every run.
* `Run.handles_given_back_once` — no handle is given back twice, none is while the compiler runs,
  and unless a start was cut short, none is left when the compiler has failed or is released.
-/

namespace CoffeeHost

/-! ### The entries of one compiler -/

/-- Entries that leave nothing open: a handle that was handed out was given back. -/
inductive Settled : List Event → Prop
  | unused : Settled []
  | refused : Settled [.request]
  | returned (number : Nat) (interpreter? : Option Nat) :
      Settled [.request, .handOut number, .giveBack number interpreter?]

namespace Settled

variable {entries : List Event}

theorem giveBackCount_le_one (h : Settled entries) (number : Nat) :
    giveBackCount number entries ≤ 1 := by
  cases h with
  | unused | refused => exact Nat.zero_le 1
  | returned handle =>
    by_cases hn : handle = number <;> simp [giveBackCount, Event.givesBack, hn]

/-- A handle that was handed out was given back. -/
theorem giveBackCount_eq_one (h : Settled entries) {number : Nat}
    (hhanded : .handOut number ∈ entries) : giveBackCount number entries = 1 := by
  cases h with
  | unused | refused => simp at hhanded
  | returned handle =>
    obtain rfl : number = handle := by simpa using hhanded
    simp [giveBackCount, Event.givesBack]

end Settled

/-- The entries of a compiler, by what has become of it. -/
inductive Ledger : Option Compiler → List Event → Prop
  | unused {compiler : Compiler} (hstage : compiler.phase.stage = .uninitialized) :
      Ledger (some compiler) []
  | inUse {compiler : Compiler} (hstage : compiler.phase.stage = .initialized) (lease : Lease)
      (hlease : compiler.phase.lease? = some lease) :
      Ledger (some compiler) [.request, .handOut lease.number]
  /-- The compiler has failed, or is released, or is gone. -/
  | settled {compiler? : Option Compiler} {entries : List Event}
      (hstage : ∀ compiler, compiler? = some compiler →
        compiler.phase.stage = .failed ∨ compiler.phase.stage = .disposed)
      (hsettled : Settled entries) : Ledger compiler? entries

namespace Ledger

variable {compiler compiler' : Compiler} {compiler? : Option Compiler} {s : Session}
  {entries new : List Event}

/-- A compiler that has not started has no entries. -/
theorem eq_nil (h : Ledger (some compiler) entries)
    (hstage : compiler.phase.stage = .uninitialized) : entries = [] := by
  cases h with
  | unused => rfl
  | inUse hnow => simp [hnow] at hstage
  | settled hnow => simpa [hstage] using hnow compiler rfl

/-- A start keeps the books, unless it is cut short. -/
theorem starting (h : Ledger (some compiler) entries)
    (hbooking : compiler.Booking s compiler' new) :
    compiler.CutShort s ∧ compiler' = compiler ∧ (∀ e ∈ new, e.isPreparation) ∨
      Ledger (some compiler') (entries ++ new) := by
  cases hbooking with
  | nothing => exact .inr (by rwa [List.append_nil])
  | cutShort hcut lease? =>
    refine .inl ⟨hcut, rfl, ?_⟩
    cases lease? <;> simp [handOuts, Event.isPreparation]
  | opened hstage lease =>
    rw [h.eq_nil hstage]
    exact .inr (.inUse rfl lease rfl)
  | refused hstage fault =>
    rw [h.eq_nil hstage]
    refine .inr (.settled ?_ .refused)
    rintro _ ⟨⟩
    exact .inl rfl
  | abandoned hstage fault lease =>
    rw [h.eq_nil hstage]
    refine .inr (.settled ?_ (.returned _ _))
    rintro _ ⟨⟩
    exact .inl rfl

/-- A release settles the account. -/
theorem returning (h : Ledger (some compiler) entries) (hc : compiler.Consistent s.events)
    (hreturning : compiler.Returning new) : Settled (entries ++ new) := by
  cases hreturning with
  | nothing hnone =>
    rw [List.append_nil]
    cases h with
    | unused => exact .unused
    | inUse hstage lease hlease => simp [hstage, hlease] at hnone
    | settled _ hsettled => exact hsettled
  | handle hstage lease hlease =>
    cases h with
    | unused hnow => simp [(hc.uninitialized hnow).1] at hlease
    | inUse hnow held hheld =>
      obtain rfl : held = lease := Option.some.inj (hheld.symm.trans hlease)
      exact .returned _ _
    | settled hnow =>
      have hfailed := (hnow compiler rfl).resolve_right hstage
      simp [(hc.failed hfailed).1] at hlease

/-- Actions keep the books, unless they cut a start short. -/
theorem booking {action : Action} {next : Option Compiler} (h : Ledger (some compiler) entries)
    (hc : compiler.Consistent s.events) (hbooking : action.Booking compiler s next new) :
    action.Compiles ∧ compiler.CutShort s ∧ next = some compiler ∧
        (∀ e ∈ new, e.isPreparation) ∨
      Ledger next (entries ++ new) := by
  cases hbooking with
  | idle => exact .inr (by rwa [List.append_nil])
  | starting hcompiles compiler' _ hstart =>
    rcases h.starting hstart with ⟨hcut, rfl, hnew⟩ | hkept
    · exact .inl ⟨hcompiles, hcut, rfl, hnew⟩
    · exact .inr hkept
  | returning _ _ hreturning hnext =>
    exact .inr (.settled (fun c hc' => .inr (hnext c hc')) (h.returning hc hreturning))

/-- The account of a compiler that has ended is settled. -/
theorem settled_of_ended (h : Ledger compiler? entries)
    (hended : ∀ compiler, compiler? = some compiler →
      compiler.phase.stage = .failed ∨ compiler.phase.stage = .disposed) : Settled entries := by
  cases h with
  | unused hstage => simpa [hstage] using hended _ rfl
  | inUse hstage => simpa [hstage] using hended _ rfl
  | settled _ hsettled => exact hsettled

/-- The handle of a running compiler is not given back. -/
theorem giveBackCount_of_initialized (h : Ledger (some compiler) entries)
    (hstage : compiler.phase.stage = .initialized) (number : Nat) :
    giveBackCount number entries = 0 := by
  cases h with
  | unused | inUse => rfl
  | settled hnow => simpa [hstage] using hnow compiler rfl

theorem giveBackCount_le_one (h : Ledger compiler? entries) (number : Nat) :
    giveBackCount number entries ≤ 1 := by
  cases h with
  | unused | inUse => exact Nat.zero_le 1
  | settled _ hsettled => exact hsettled.giveBackCount_le_one number

end Ledger

/-! ### Runs of one compiler -/

/-- What giving back a handle raises that is stuck. -/
def Raised.stuck : Raised := .ordinary "RuntimeError" "stuck"

/-- A factory of fresh handles that cannot be given back. -/
def Factory.stuck : Factory := fun _ => .hands .fresh (some .stuck)

theorem Factory.stuck_raisesFailures : Factory.stuck.RaisesFailures :=
  ⟨nofun, fun _ _ _ h => by cases h; rfl⟩

namespace Run

variable {collaborators : Collaborators} {factory : Factory}

/-- No start of a run is cut short. -/
def Uninterrupted (collaborators : Collaborators) (factories : List Factory)
    (steps : List Step) : Prop :=
  ∀ (before : List Step) (number : Nat) (action : Action) (after : List Step),
    steps = before ++ .act number action :: after → action.Compiles →
    ∀ (compiler : Compiler) (s : Session),
      Reaches collaborators factories before number compiler s → ¬ compiler.CutShort s

theorem Uninterrupted.of_append {factories : List Factory} {steps more : List Step}
    (h : Uninterrupted collaborators factories (steps ++ more)) :
    Uninterrupted collaborators factories steps := by
  rintro before number action after rfl
  exact h before number action (after ++ more) (by simp)

/-- Collaborators that interrupt nothing cut no start short. -/
theorem uninterrupted_of_raiseFailures {factories : List Factory}
    (hcoll : collaborators.RaiseFailures)
    (hfactories : ∀ factory ∈ factories, factory.RaisesFailures) (steps : List Step) :
    Uninterrupted collaborators factories steps := by
  rintro before number action after rfl - compiler s hreaches ⟨-, raised, hinterrupted, hprepare⟩
  have hsession : s.collaborators = collaborators := by
    rw [← hreaches.2, ofNew_collaborators]
  have hfactory := hfactories compiler.factory hreaches.factory_mem
  have hordinary := (Compiler.prepare_yields hcoll hfactory s hsession).2 raised hprepare
  exact absurd hordinary (by simp [hinterrupted])

/-- There is one compiler, and the account of the session is what was lost in its starts that were
cut short, and its ledger. -/
def Accounted (compilers : List (Option Compiler)) (lost : List Event) (s : Session) : Prop :=
  ∃ compiler? entries, compilers = [compiler?] ∧ Ledger compiler? entries ∧
    account s.events = lost ++ entries

/-- A step keeps the books, unless it cuts a start short. -/
theorem Accounted.step {compilers : List (Option Compiler)} {lost : List Event} {s : Session}
    (h : Accounted compilers lost s) (hc : AllConsistent compilers s) (step : Step) :
    (∃ number action compiler new, step = .act number action ∧ action.Compiles ∧
        compilers[number]? = some (some compiler) ∧ compiler.CutShort s ∧
        (∀ e ∈ new, e.isPreparation) ∧
        Accounted (Run.step compilers step s).1.1 (lost ++ new) (Run.step compilers step s).2) ∨
      Accounted (Run.step compilers step s).1.1 lost (Run.step compilers step s).2 := by
  obtain ⟨compiler?, entries, rfl, hledger, haccount⟩ := h
  cases step with
  | verbose on => exact .inr ⟨compiler?, entries, rfl, hledger, haccount⟩
  | act number action =>
    have hidle (hstep : Run.step [compiler?] (.act number action) s =
        (([compiler?], .nothing), s)) :
        Accounted (Run.step [compiler?] (.act number action) s).1.1 lost
          (Run.step [compiler?] (.act number action) s).2 := by
      rw [hstep]
      exact ⟨compiler?, entries, rfl, hledger, haccount⟩
    rcases hcompiler : [compiler?][number]? with _ | _ | compiler
    · exact .inr (hidle (by simp [Run.step, hcompiler]))
    · exact .inr (hidle (by simp [Run.step, hcompiler]))
    · obtain ⟨rfl, rfl⟩ : number = 0 ∧ compiler? = some compiler := by
        simpa [List.getElem?_singleton] using hcompiler
      obtain ⟨new, hbooking, hnew⟩ := action.perform_booking compiler s
      have hstep : Run.step [some compiler] (.act 0 action) s =
          (([(action.perform compiler s).1.1], (action.perform compiler s).1.2),
            (action.perform compiler s).2) := rfl
      rw [haccount, List.append_assoc] at hnew
      rw [hstep]
      rcases hledger.booking (hc 0 compiler rfl) hbooking with
        ⟨hcompiles, hcut, hnext, hprep⟩ | hkept
      · rw [hledger.eq_nil hcut.1, List.nil_append] at hnew
        refine .inl ⟨0, action, compiler, new, rfl, hcompiles, hcompiler, hcut, hprep, ?_⟩
        exact ⟨_, [], rfl, hnext ▸ .unused hcut.1, by rw [hnew, List.append_nil]⟩
      · exact .inr ⟨_, _, rfl, hkept, hnew⟩

theorem accounted_new (collaborators : Collaborators) (factory : Factory) :
    Accounted (ofNew collaborators [factory] []).1.1 [] (ofNew collaborators [factory] []).2 :=
  ⟨some (.new factory), [], rfl, .unused rfl, rfl⟩

theorem ofNew_consistent (collaborators : Collaborators) (factories : List Factory)
    (steps : List Step) :
    AllConsistent (ofNew collaborators factories steps).1.1
      (ofNew collaborators factories steps).2 :=
  (steps_lifecycle (allConsistent_new factories _) steps).1

/-- If no start is cut short, the account of a run is the ledger of its compiler. -/
theorem accounted_of_uninterrupted {steps : List Step}
    (h : Uninterrupted collaborators [factory] steps) :
    Accounted (ofNew collaborators [factory] steps).1.1 []
      (ofNew collaborators [factory] steps).2 := by
  induction steps using List.reverseRecOn with
  | nil => exact accounted_new collaborators factory
  | append_singleton steps step ih =>
    have hbefore := ih h.of_append
    rw [(ofNew_concat ..).1, (ofNew_concat ..).2]
    rcases hbefore.step (ofNew_consistent _ _ _) step with
      ⟨number, action, compiler, new, rfl, hcompiles, hcompiler, hcut, -, -⟩ | hkept
    · exact absurd hcut (h steps number action [] rfl hcompiles compiler _ ⟨hcompiler, rfl⟩)
    · exact hkept

/-- In the account of every run, the ledger of the compiler comes after what was lost. -/
theorem exists_accounted (collaborators : Collaborators) (factory : Factory)
    (steps : List Step) :
    ∃ lost, (∀ e ∈ lost, e.isPreparation) ∧
      Accounted (ofNew collaborators [factory] steps).1.1 lost
        (ofNew collaborators [factory] steps).2 := by
  induction steps using List.reverseRecOn with
  | nil => exact ⟨[], nofun, accounted_new collaborators factory⟩
  | append_singleton steps step ih =>
    obtain ⟨lost, hlost, hbefore⟩ := ih
    rw [(ofNew_concat ..).1, (ofNew_concat ..).2]
    rcases hbefore.step (ofNew_consistent _ _ _) step with
      ⟨-, -, -, new, -, -, -, -, hnew, hkept⟩ | hkept
    · exact ⟨lost ++ new, fun e he => (List.mem_append.mp he).elim (hlost e) (hnew e), hkept⟩
    · exact ⟨lost, hlost, hkept⟩

/-- What was lost was not given back, so the ledger of the compiler counts. -/
theorem giveBackCount_of_account {events lost entries : List Event}
    (h : account events = lost ++ entries) (hlost : ∀ e ∈ lost, e.isPreparation) (number : Nat) :
    giveBackCount number events = giveBackCount number entries := by
  have happend : giveBackCount number (lost ++ entries) =
      giveBackCount number lost + giveBackCount number entries := List.countP_append
  rw [← giveBackCount_account, h, happend, giveBackCount_eq_zero hlost, Nat.zero_add]

/-- The handles of every run of one compiler. None is given back twice. While the compiler runs,
none has been given back. And if no start was cut short, then every handle that was handed out has
been given back exactly once when the compiler has failed, is released, or is gone. -/
theorem handles_given_back_once (collaborators : Collaborators) (factory : Factory)
    (steps : List Step) :
    let run := ofNew collaborators [factory] steps
    (∀ number : Nat, giveBackCount number run.2.events ≤ 1) ∧
      (∀ compiler : Compiler, run.1.1[0]? = some (some compiler) →
        compiler.phase.stage = .initialized →
        ∀ number : Nat, giveBackCount number run.2.events = 0) ∧
      (Uninterrupted collaborators [factory] steps →
        (∀ compiler : Compiler, run.1.1[0]? = some (some compiler) →
          compiler.phase.stage = .failed ∨ compiler.phase.stage = .disposed) →
        ∀ number : Nat, .handOut number ∈ run.2.events →
          giveBackCount number run.2.events = 1) := by
  intro run
  obtain ⟨lost, hlost, compiler?, entries, hcompilers, hledger, haccount⟩ :=
    exists_accounted collaborators factory steps
  have hcount := giveBackCount_of_account haccount hlost
  refine ⟨fun number => ?_, fun compiler hcompiler hstage number => ?_, ?_⟩
  · rw [hcount]
    exact hledger.giveBackCount_le_one number
  · obtain rfl : compiler? = some compiler := by simpa [run, hcompilers] using hcompiler
    rw [hcount]
    exact hledger.giveBackCount_of_initialized hstage number
  · intro huninterrupted hended number hhanded
    -- Nothing was lost, so the handle is in the ledger of the compiler.
    obtain ⟨compiler?, entries, hcompilers, hledger, haccount⟩ :=
      accounted_of_uninterrupted huninterrupted
    have hsettled := hledger.settled_of_ended fun compiler hnow => hended compiler (by
      simp [run, hcompilers, hnow])
    rw [← mem_account_iff rfl, haccount, List.nil_append] at hhanded
    rw [giveBackCount_of_account haccount nofun]
    exact hsettled.giveBackCount_eq_one hhanded

/-- A handle that cannot be given back, in a run that releases its compiler twice. -/
theorem stuck_handle_given_back_once :
    ∃ s, Reaches (.reacting (.ok .null)) [.stuck]
        [.act 0 (.tryCompile (.text "x") (.boolean false)), .act 0 .release, .act 0 .close] 0
        ⟨.stuck, ⟨.disposed, some ⟨1, .initialized 1, some .stuck⟩, none⟩⟩ s ∧
      .handOut 1 ∈ s.events ∧ giveBackCount 1 s.events = 1 := by
  have hreach : Reaches (.reacting (.ok .null)) [.stuck]
      [.act 0 (.tryCompile (.text "x") (.boolean false)), .act 0 .release, .act 0 .close] 0
      ⟨.stuck, ⟨.disposed, some ⟨1, .initialized 1, some .stuck⟩, none⟩⟩ _ := ⟨by cbv, rfl⟩
  have hcoll := Collaborators.reacting_raiseFailures (notInterrupted_ok Json.Value.null)
  have hfactories : ∀ factory ∈ [Factory.stuck], factory.RaisesFailures := by
    simpa using Factory.stuck_raisesFailures
  have hhanded : .handOut 1 ∈ (ofNew (.reacting (.ok .null)) [.stuck]
      [.act 0 (.tryCompile (.text "x") (.boolean false)), .act 0 .release,
        .act 0 .close]).2.events := by
    have hevents : (ofNew (.reacting (.ok .null)) [.stuck]
        [.act 0 (.tryCompile (.text "x") (.boolean false)), .act 0 .release,
          .act 0 .close]).2.events[1]? = some (.handOut 1) := by cbv
    exact List.mem_of_getElem? hevents
  refine ⟨_, hreach, hhanded, (handles_given_back_once _ _ _).2.2
    (uninterrupted_of_raiseFailures hcoll hfactories _) (fun compiler hcompiler => ?_) 1 hhanded⟩
  obtain rfl := Option.some.inj (Option.some.inj (hreach.1.symm.trans hcompiler))
  exact .inr rfl

end Run

end CoffeeHost
