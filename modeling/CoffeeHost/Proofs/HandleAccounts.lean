import CoffeeHost.Proofs.Operations
import CoffeeHost.Proofs.Silence
/-!
# What operations enter into the account of handles

A handle that a factory hands out has to be given back. The *account* of a log is what it says
about handles: that one was asked for, handed out, or given back. Only two operations enter
something into the account: a start, which asks for a handle and gives it back if it fails, and a
release, which gives back the handle that the compiler keeps. All else enters nothing, because it
is put together from calls that enter nothing.

A start is *cut short* if an interruption ends its preparation. The compiler is as it was then, and
may start again, but a handle that was handed out is lost.

## Main definitions

* `account` — the entries of a log that are about handles.
* `Compiler.CutShort` — starts that are cut short.
* `Compiler.Booking`, `Compiler.Returning`, `Action.Booking` — what starts, releases and actions
  leave of a compiler and enter into the account.

## Main results

* `Compiler.prepare_account` — a preparation asks for one handle.
* `Compiler.start_booking`, `Action.perform_booking` — nothing is entered that is not listed.
-/

namespace CoffeeHost

open Json (Value)

/-! ### The account of a log -/

/-- Whether an event is about a handle. -/
def Event.isAboutHandle : Event → Bool
  | request => true
  | handOut _ => true
  | giveBack .. => true
  | _ => false

/-- The entries of a log that are about handles. -/
def account (events : List Event) : List Event := events.filter Event.isAboutHandle

theorem account_append (events new : List Event) :
    account (events ++ new) = account events ++ account new := List.filter_append ..

theorem mem_account_iff {e : Event} {events : List Event} (h : e.isAboutHandle) :
    e ∈ account events ↔ e ∈ events := by
  simp [account, h]

/-- Whether an event gives back the handle of a number, or tries to. -/
def Event.givesBack (number : Nat) : Event → Bool
  | giveBack handle _ => handle == number
  | _ => false

/-- How often the handle of a number was given back, or giving it back was tried. -/
def giveBackCount (number : Nat) (events : List Event) : Nat :=
  events.countP (Event.givesBack number)

/-- What gives a handle back is in the account. -/
theorem giveBackCount_account (number : Nat) (events : List Event) :
    giveBackCount number (account events) = giveBackCount number events := by
  rw [giveBackCount, account, List.countP_filter]
  refine List.countP_congr fun e _ => ?_
  cases e <;> simp [Event.givesBack, Event.isAboutHandle]

/-- The events of a preparation give no handle back. -/
theorem giveBackCount_eq_zero {events : List Event} (h : ∀ e ∈ events, e.isPreparation)
    (number : Nat) : giveBackCount number events = 0 := by
  refine List.countP_eq_zero.mpr fun e he => ?_
  have hprep := h e he
  cases e with
  | giveBack => simp [Event.isPreparation] at hprep
  | _ => simp [Event.givesBack]

/-- The entry for a lease that was handed out, if there is one. -/
def handOuts (lease? : Option Lease) : List Event :=
  (lease?.map fun lease => Event.handOut lease.number).toList

/-! ### Computations that enter nothing -/

namespace SessionM

/-- The computation enters nothing into the account. -/
def EntersNothing {α : Type} (x : SessionM α) : Prop :=
  ∀ s, account (x s).2.events = account s.events

/-- Another event is no entry if it is not about a handle. -/
theorem account_after {e : Event} (s : Session) (h : e.isAboutHandle = false) :
    account (s.after e).events = account s.events := by
  simp [Session.after, account, h]

/-- All computations enter nothing that are put together from such. -/
theorem EntersNothing.inherited : Inherited EntersNothing where
  pure _ := fun _ => rfl
  bind hx hf := fun s => (hf _ _).trans (hx s)
  say message := fun s => by rw [Session.say_events]
  create := fun s => account_after _ rfl
  load _ _ _ := fun s => account_after _ rfl
  readResource _ := fun s => account_after _ rfl
  evaluate _ _ := fun s => account_after _ rfl

end SessionM

open SessionM (EntersNothing)

/-! ### Preparing -/

/-- Loading keeps the number of a lease. -/
theorem Lease.loadAll_number (lease : Lease) (names : List String) (s : Session) :
    (lease.loadAll names s).1.1.number = lease.number := by
  induction names generalizing lease s with
  | nil => rfl
  | cons name rest ih =>
    rw [loadAll_cons]
    rcases lease.handle.loadResource name s with ⟨⟨handle, raised | ⟨⟩⟩, s'⟩
    · rfl
    · exact ih { lease with handle } _

/-- A factory is asked for a handle, and may hand one out. -/
theorem Factory.obtain_account (factory : Factory) (s : Session) :
    account (factory.obtain s).2.events =
      account s.events ++ .request :: handOuts (factory.obtain s).1.toOption := by
  have hrequest : account (Session.request s).2.events = account s.events ++ [.request] := by
    simp [Session.request, Session.after, account, Event.isAboutHandle]
  cases h : factory s.requested with
  | raises raised =>
    rw [obtain_raises h, hrequest]
    rfl
  | hands condition releaseRaises =>
    have hmade := (EntersNothing.inherited.conditionHandle condition (Session.request s).2).trans
      hrequest
    rw [obtain_hands h]
    rcases hrun : condition.handle (Session.request s).2 with ⟨raised | handle, s'⟩ <;>
      simp only [hrun] at hmade ⊢
    · rw [hmade]
      rfl
    · have hnoted : account (Session.note (.handOut (s.requested + 1)) s').2.events =
          account s'.events ++ [.handOut (s.requested + 1)] := account_append ..
      rw [hnoted, hmade, List.append_assoc]
      rfl

namespace Compiler

/-- A preparation asks for one handle, and what it leaves was handed out. -/
theorem prepare_account (factory : Factory) (s : Session) :
    account (prepare factory s).2.events =
      account s.events ++ .request :: handOuts (prepare factory s).1.1 := by
  have hobtain := factory.obtain_account s
  rcases hrun : factory.obtain s with ⟨raised | lease, s₁⟩ <;> rw [hrun] at hobtain
  · rw [prepare_of_error hrun]
    exact hobtain
  · have hloaded := EntersNothing.inherited.loadAll lease Resource.loadOrder s₁
    rw [prepare_of_ok hrun, hloaded, hobtain]
    simp [handOuts, Except.toOption, lease.loadAll_number]

/-! ### Starting -/

/-- Starting the compiler in the session is cut short: it has not started, and an interruption ends
the preparation of its interpreter. -/
def CutShort (compiler : Compiler) (s : Session) : Prop :=
  compiler.phase.stage = .uninitialized ∧
    ∃ raised, raised.isOrdinary = false ∧ (prepare compiler.factory s).1.2 = .error raised

/-- What starting a compiler leaves of it and enters into the account. -/
inductive Booking (compiler : Compiler) (s : Session) : Compiler → List Event → Prop
  /-- The compiler has started or was released before. -/
  | nothing (hstage : compiler.phase.stage ≠ .uninitialized) : Booking compiler s compiler []
  /-- An interruption leaves the compiler as it was. -/
  | cutShort (hcut : compiler.CutShort s) (lease? : Option Lease) :
      Booking compiler s compiler (.request :: handOuts lease?)
  /-- The compiler keeps the handle. -/
  | opened (hstage : compiler.phase.stage = .uninitialized) (lease : Lease) :
      Booking compiler s ((compiler.keep (some lease)).moveTo .initialized)
        [.request, .handOut lease.number]
  /-- There is a failure before there is a handle. -/
  | refused (hstage : compiler.phase.stage = .uninitialized) (fault : Fault) :
      Booking compiler s (compiler.fail fault) [.request]
  /-- There is a failure, and the handle is given back. -/
  | abandoned (hstage : compiler.phase.stage = .uninitialized) (fault : Fault) (lease : Lease) :
      Booking compiler s (compiler.fail fault) [.request, .handOut lease.number,
        .giveBack lease.number lease.handle.interpreter?]

variable {compiler : Compiler} {s : Session}

/-- Giving a handle back is an entry, whatever it raises. -/
theorem abandon_account (lease : Lease) (s : Session) :
    account (abandon (some lease) s).2.events =
      account s.events ++ [.giveBack lease.number lease.handle.interpreter?] := by
  have hgive : (abandon (some lease) s).2 = (lease.giveBack s).2 := rfl
  have hafter : account (s.after (.giveBack lease.number lease.handle.interpreter?)).events =
      account s.events ++ [.giveBack lease.number lease.handle.interpreter?] := account_append ..
  rw [hgive]
  cases hreleases : lease.releaseRaises with
  | some raised => rw [Lease.giveBack_raises hreleases, hafter]
  | none => rw [Lease.giveBack_succeeds hreleases, hafter]

/-- A start whose preparation fails makes the compiler fail, and enters the return of the handle. -/
theorem start_failed (hstage : compiler.phase.stage = .uninitialized) {lease? : Option Lease}
    {raised : Raised} {s₁ : Session} (hordinary : raised.isOrdinary)
    (hrun : prepare compiler.factory (Session.say "Initializing CoffeeScript interpreter" s).2 =
      ((lease?, .error raised), s₁)) :
    (compiler.start s).1.1 = compiler.fail raised.toFault ∧
      account (compiler.start s).2.events = account (abandon lease? s₁).2.events := by
  rw [start_uninitialized hstage hrun]
  simp only [hordinary, Bool.true_eq_false, if_false]
  rcases abandon lease? s₁ with ⟨raised' | ⟨⟩, s'⟩
  · exact ⟨rfl, rfl⟩
  · exact ⟨rfl, EntersNothing.inherited.say _ s'⟩

/-- Starting a compiler that was never started enters nothing that is not listed. -/
private theorem start_booking_uninitialized (hstage : compiler.phase.stage = .uninitialized) :
    ∃ new, compiler.Booking s (compiler.start s).1.1 new ∧
      account (compiler.start s).2.events = account s.events ++ new := by
  have hsaid := Session.say_silenced "Initializing CoffeeScript interpreter" s
  have hsame := ((prepare_deaf compiler.factory).of_silenced_eq hsaid).1
  have haccount := prepare_account compiler.factory
    (Session.say "Initializing CoffeeScript interpreter" s).2
  have hok := (prepare_spec compiler.factory
    (Session.say "Initializing CoffeeScript interpreter" s).2).ok
  rcases hrun : prepare compiler.factory
    (Session.say "Initializing CoffeeScript interpreter" s).2 with ⟨⟨lease?, result⟩, s₁⟩
  simp only [hrun, Session.say_events] at hsame haccount hok
  cases result with
  | ok =>
    obtain ⟨lease, -, -, rfl, -⟩ := hok rfl
    rw [start_uninitialized hstage hrun]
    exact ⟨_, .opened hstage lease, haccount⟩
  | error raised =>
    cases hordinary : raised.isOrdinary with
    | false =>
      have hcut : compiler.CutShort s := ⟨hstage, raised, hordinary, by rw [← hsame]⟩
      rw [start_uninitialized hstage hrun]
      simp only [hordinary, if_true]
      exact ⟨_, .cutShort hcut lease?, haccount⟩
    | true =>
      obtain ⟨hfailed, hentered⟩ := start_failed hstage hordinary hrun
      rw [hfailed, hentered]
      cases lease? with
      | none => exact ⟨_, .refused hstage raised.toFault, haccount⟩
      | some lease =>
        refine ⟨_, .abandoned hstage raised.toFault lease, ?_⟩
        rw [abandon_account, haccount, List.append_assoc]
        rfl

/-- Starting enters nothing that is not listed. -/
theorem start_booking (compiler : Compiler) (s : Session) :
    ∃ new, compiler.Booking s (compiler.start s).1.1 new ∧
      account (compiler.start s).2.events = account s.events ++ new := by
  by_cases hstage : compiler.phase.stage = .uninitialized
  · exact start_booking_uninitialized hstage
  · have hspec := compiler.start_spec s
    rcases hrun : compiler.start s with ⟨⟨compiler', result⟩, s'⟩
    simp only [hrun] at hspec ⊢
    cases hspec with
    | running | released | failed => exact ⟨[], .nothing hstage, (List.append_nil _).symm⟩
    | prepared h | interrupted h | refused h | abandoned h => exact absurd h hstage

/-! ### Compiling and releasing -/

/-- Compiling leaves what the start left. -/
theorem tryCompile_start (compiler : Compiler) (source : Value) (options : CompileOptions)
    (s : Session) :
    (compiler.tryCompile source options s).1.1 = (compiler.start s).1.1 ∧
      account (compiler.tryCompile source options s).2.events =
        account (compiler.start s).2.events := by
  rw [tryCompile, SessionM.bind_apply]
  rcases compiler.start s with ⟨⟨started, raised | ⟨⟩⟩, s₁⟩
  · exact ⟨rfl, rfl⟩
  · have hasked := EntersNothing.inherited.ask started.phase.lease?
      (CompileCall.text source options CompileCall.helperName) s₁
    simp only [SessionM.bind_apply]
    rcases hrun : ask started.phase.lease?
      (CompileCall.text source options CompileCall.helperName) s₁ with ⟨raised | answer, s₂⟩ <;>
      rw [hrun] at hasked
    · exact ⟨rfl, hasked⟩
    · exact ⟨rfl, (EntersNothing.inherited.conclude source answer s₂).trans hasked⟩

/-- What a release enters into the account: the handle is given back that the compiler keeps. -/
inductive Returning (compiler : Compiler) : List Event → Prop
  | nothing (h : compiler.phase.stage = .disposed ∨ compiler.phase.lease? = none) :
      Returning compiler []
  | handle (hstage : compiler.phase.stage ≠ .disposed) (lease : Lease)
      (hlease : compiler.phase.lease? = some lease) :
      Returning compiler [.giveBack lease.number lease.handle.interpreter?]

theorem Releasing.returning {compiler' : Compiler} {result : Except Raised Unit} {s' : Session}
    (h : Releasing compiler s compiler' result s') :
    ∃ new, compiler.Returning new ∧ account s'.events = account s.events ++ new := by
  cases h with
  | again hstage => exact ⟨[], .nothing (.inl hstage), (List.append_nil _).symm⟩
  | empty _ hlease => exact ⟨[], .nothing (.inr hlease), (List.append_nil _).symm⟩
  | givenBack hstage lease _ hlease _ hlogged =>
    exact ⟨_, .handle hstage lease hlease, hlogged.events ▸ account_append ..⟩
  | kept hstage lease raised _ hlease _ hlogged =>
    exact ⟨_, .handle hstage lease hlease, hlogged.events ▸ account_append ..⟩

end Compiler

namespace Action

/-- Whether an action compiles, its options being valid. -/
def Compiles : Action → Prop
  | compile _ literate => ∃ options, CompileOptions.ofLiterate literate = .ok options
  | tryCompile _ literate => ∃ options, CompileOptions.ofLiterate literate = .ok options
  | _ => False

/-- An action that compiles leaves what the start leaves. -/
theorem Compiles.perform_start {action : Action} (h : action.Compiles) (compiler : Compiler)
    (s : Session) :
    (action.perform compiler s).1.1 = some (compiler.start s).1.1 ∧
      account (action.perform compiler s).2.events = account (compiler.start s).2.events := by
  cases action with
  | compile source literate =>
    obtain ⟨options, hoptions⟩ := h
    obtain ⟨reply, hperform⟩ := perform_compile compiler source s hoptions
    obtain ⟨hleft, hentered⟩ := compiler.tryCompile_start source options s
    rw [hperform]
    exact ⟨congrArg some hleft, hentered⟩
  | tryCompile source literate =>
    obtain ⟨options, hoptions⟩ := h
    obtain ⟨reply, hperform⟩ := perform_tryCompile compiler source s hoptions
    obtain ⟨hleft, hentered⟩ := compiler.tryCompile_start source options s
    rw [hperform]
    exact ⟨congrArg some hleft, hentered⟩
  | release | close | enter | exit | discard => exact h.elim

/-- What an action leaves of its compiler and enters into the account. -/
inductive Booking (compiler : Compiler) (action : Action) (s : Session) :
    Option Compiler → List Event → Prop
  | idle : Booking compiler action s (some compiler) []
  | starting (hcompiles : action.Compiles) (compiler' : Compiler) (new : List Event)
      (hbooking : compiler.Booking s compiler' new) :
      Booking compiler action s (some compiler') new
  | returning (next : Option Compiler) (new : List Event) (hreturning : compiler.Returning new)
      (hnext : ∀ compiler', next = some compiler' → compiler'.phase.stage = .disposed) :
      Booking compiler action s next new

/-- Actions enter nothing that is not listed. -/
theorem perform_booking (compiler : Compiler) (action : Action) (s : Session) :
    ∃ new, action.Booking compiler s (action.perform compiler s).1.1 new ∧
      account (action.perform compiler s).2.events = account s.events ++ new := by
  have hrelease := compiler.release_spec s
  obtain ⟨returned, hreturning, hreturned⟩ := hrelease.returning
  obtain ⟨started, hbooking, hstarted⟩ := compiler.start_booking s
  have hreleased : ∀ compiler', some (compiler.release s).1.1 = some compiler' →
      compiler'.phase.stage = .disposed := by
    rintro _ ⟨⟩
    exact hrelease.disposed
  have hgone (compiler' : Compiler) (h : none = some compiler') :
      compiler'.phase.stage = .disposed := nomatch h
  have hnothing (hidle : (action.perform compiler s).1.1 = some compiler ∧
      (action.perform compiler s).2 = s) :
      ∃ new, action.Booking compiler s (action.perform compiler s).1.1 new ∧
        account (action.perform compiler s).2.events = account s.events ++ new := by
    rw [hidle.1, hidle.2]
    exact ⟨[], .idle, (List.append_nil _).symm⟩
  have hcompiling (hcompiles : action.Compiles) :
      ∃ new, action.Booking compiler s (action.perform compiler s).1.1 new ∧
        account (action.perform compiler s).2.events = account s.events ++ new := by
    rw [(hcompiles.perform_start compiler s).1, (hcompiles.perform_start compiler s).2]
    exact ⟨started, .starting hcompiles _ _ hbooking, hstarted⟩
  cases action with
  | compile source literate =>
    cases h : CompileOptions.ofLiterate literate with
    | error violations => exact hnothing (by simp [perform, h])
    | ok options => exact hcompiling ⟨options, h⟩
  | tryCompile source literate =>
    cases h : CompileOptions.ofLiterate literate with
    | error violations => exact hnothing (by simp [perform, h])
    | ok options => exact hcompiling ⟨options, h⟩
  | release => exact ⟨returned, .returning _ _ hreturning hreleased, hreturned⟩
  | close => exact ⟨returned, .returning _ _ hreturning hreleased, hreturned⟩
  | exit => exact ⟨returned, .returning _ _ hreturning hreleased, hreturned⟩
  | enter => exact hnothing ⟨rfl, rfl⟩
  | discard => exact ⟨returned, .returning none _ hreturning hgone, hreturned⟩

end Action

end CoffeeHost
