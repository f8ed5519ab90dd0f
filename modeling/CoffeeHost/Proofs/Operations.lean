import CoffeeHost.Proofs.Preparing
import CoffeeHost.Run
import Mathlib.Tactic.Set
/-!
# What the operations of a compiler do

Each relation of this file lists all that one operation can do: the compiler that it leaves, what
comes of it, and what it does to the session. Invariants of compilers are proved from these lists,
one case at a time, and not from the operations themselves.

A compiler *holds* an interpreter if it keeps a handle that holds it. Starting ends in one of seven
ways; compiling starts first, and evaluates one expression if that succeeds.

## Main definitions

* `Compiler.Holds` — the interpreter of a compiler.
* `Compiler.Starting`, `Compiler.Compiling`, `Compiler.Releasing` — the operations.
* `Compiler.verdict` — the outcome that a reaction of the engine means.
* `Action.Performing`, `Run.Stepping` — actions and steps.

## Main results

* `Compiler.start_spec`, `Compiler.tryCompile_spec`, `Compiler.release_spec`,
  `Action.perform_spec`, `Run.step_spec` — the operations do nothing that is not listed.
-/

namespace CoffeeHost

open Json (Value)
open Session (Later Stretch)

/-- The session `s'` comes right after `s`, with one more event that creates nothing. -/
structure Session.Logged (e : Event) (s s' : Session) : Prop where
  collaborators : s'.collaborators = s.collaborators
  created : s'.created = s.created
  events : s'.events = s.events ++ [e]

theorem Session.logged_after (e : Event) (s : Session) : Session.Logged e s (s.after e) :=
  ⟨rfl, rfl, rfl⟩

theorem Session.Logged.say {e : Event} {s s' : Session} (h : Session.Logged e s s')
    (message : String) : Session.Logged e s (Session.say message s').2 :=
  ⟨by simpa using h.collaborators, by simpa using h.created, by simpa using h.events⟩

theorem Session.Logged.later {e : Event} {s s' : Session} (h : Session.Logged e s s') :
    Session.Later s s' :=
  ⟨h.collaborators, h.events ▸ List.prefix_append _ _⟩

/-! ### Giving a lease back -/

namespace Lease

variable {s : Session}

theorem giveBack_raises {lease : Lease} {raised : Raised} (h : lease.releaseRaises = some raised) :
    lease.giveBack s = ((lease, .error raised),
      s.after (.giveBack lease.number lease.handle.interpreter?)) := by
  rw [giveBack, SessionM.bind_apply, h]
  rfl

theorem giveBack_succeeds {lease : Lease} (h : lease.releaseRaises = none) :
    lease.giveBack s = (({ lease with handle := lease.handle.dispose }, .ok ()),
      s.after (.giveBack lease.number lease.handle.interpreter?)) := by
  rw [giveBack, SessionM.bind_apply, h]
  rfl

end Lease

namespace Compiler

variable {compiler : Compiler} {s : Session}

/-- The compiler keeps a lease whose handle holds an interpreter. -/
def Holds (compiler : Compiler) (lease : Lease) (n : Nat) : Prop :=
  compiler.phase.lease? = some lease ∧ lease.handle = .initialized n

/-! ### Starting -/

/-- What starting a compiler can do. -/
inductive Starting (compiler : Compiler) (s : Session) :
    Compiler → Except Raised Unit → Session → Prop
  /-- The compiler has started before. -/
  | running (hstage : compiler.phase.stage = .initialized) :
      Starting compiler s compiler (.ok ()) s
  /-- The compiler was released before. -/
  | released (hstage : compiler.phase.stage = .disposed) :
      Starting compiler s compiler (.error (.fault .compilerReleased)) s
  /-- The compiler has failed before. -/
  | failed (hstage : compiler.phase.stage = .failed) :
      Starting compiler s compiler (.error compiler.storedFault) s
  /-- A new interpreter is prepared. -/
  | prepared (hstage : compiler.phase.stage = .uninitialized) (lease : Lease) (n : Nat)
      (new : List (String × String × Bool)) (s' : Session)
      (hstretch : Stretch s.created s s') (hholds : lease.handle = .initialized n)
      (hbetween : Between s.created s'.created (some n))
      (hnew : List.Forall₂ (ExecutedAsRead s.collaborators) Resource.loadOrder new)
      (hlog : executions n s'.events = executions n s.events ++ new) :
      Starting compiler s ((compiler.keep (some lease)).moveTo .initialized) (.ok ()) s'
  /-- An interruption leaves the compiler as it was. -/
  | interrupted (hstage : compiler.phase.stage = .uninitialized) (raised : Raised)
      (s₀ s' : Session) (hraised : raised.isOrdinary = false)
      (hcoll : s₀.collaborators = s.collaborators)
      (hprepare : (prepare compiler.factory s₀).1.2 = .error raised)
      (hstretch : Stretch s.created s s') :
      Starting compiler s compiler (.error raised) s'
  /-- There is a failure before there is a handle. -/
  | refused (hstage : compiler.phase.stage = .uninitialized) (raised : Raised) (s' : Session)
      (hraised : raised.isOrdinary) (hstretch : Stretch s.created s s') :
      Starting compiler s (compiler.fail raised.toFault) (.error (.fault raised.toFault)) s'
  /-- There is a failure, and the handle is given back. -/
  | abandoned (hstage : compiler.phase.stage = .uninitialized) (raised : Raised) (lease : Lease)
      (s₁ s' : Session) (hraised : raised.isOrdinary) (hstretch : Stretch s.created s s₁)
      (hwithin : lease.handle.Within s.created s₁.created)
      (hnumber : lease.number = s.requested + 1)
      (hhands : ∃ condition, compiler.factory s.requested = .hands condition lease.releaseRaises)
      (hlogged : Session.Logged (.giveBack lease.number lease.handle.interpreter?) s₁ s') :
      Starting compiler s (compiler.fail raised.toFault)
        (.error (lease.releaseRaises.getD (.fault raised.toFault))) s'

/-- What a start comes to that has to prepare an interpreter. -/
theorem start_uninitialized (hstage : compiler.phase.stage = .uninitialized)
    {lease? : Option Lease} {result : Except Raised Unit} {s₁ : Session}
    (hrun : prepare compiler.factory (Session.say "Initializing CoffeeScript interpreter" s).2 =
      ((lease?, result), s₁)) :
    compiler.start s =
      match result with
      | .ok () => (((compiler.keep lease?).moveTo .initialized, .ok ()), s₁)
      | .error raised =>
        if raised.isOrdinary = false then ((compiler, .error raised), s₁)
        else
          match abandon lease? s₁ with
          | (.error raised', s') => ((compiler.fail raised.toFault, .error raised'), s')
          | (.ok (), s') =>
            ((compiler.fail raised.toFault, .error (.fault raised.toFault)),
              (Session.say s!"Initialization failed: {raised.toFault.message}" s').2) := by
  simp only [start, hstage, SessionM.bind_apply, hrun]
  cases result with
  | ok => rfl
  | error raised =>
    cases hordinary : raised.isOrdinary with
    | false => simp [hordinary]
    | true =>
      rcases habandon : abandon lease? s₁ with ⟨raised' | ⟨⟩, s'⟩
      · simp [hordinary, habandon]
      · simp only [hordinary, SessionM.bind_apply, habandon, Bool.not_true, Bool.false_eq_true,
          Bool.true_eq_false, if_false]
        rfl

/-- A failed preparation that leaves a handle ends with giving it back. -/
private theorem starting_abandoned (hstage : compiler.phase.stage = .uninitialized)
    {raised : Raised} {lease : Lease} {s₁ : Session} (hordinary : raised.isOrdinary)
    (hstretch : Stretch s.created s s₁) (hwithin : lease.handle.Within s.created s₁.created)
    (hnumber : lease.number = s.requested + 1)
    (hhands : ∃ condition, compiler.factory s.requested = .hands condition lease.releaseRaises) :
    let ended : (Compiler × Except Raised Unit) × Session :=
      match abandon (some lease) s₁ with
      | (.error raised', s') => ((compiler.fail raised.toFault, .error raised'), s')
      | (.ok (), s') =>
        ((compiler.fail raised.toFault, .error (.fault raised.toFault)),
          (Session.say s!"Initialization failed: {raised.toFault.message}" s').2)
    Starting compiler s ended.1.1 ended.1.2 ended.2 := by
  have hgive : abandon (some lease) s₁ = ((lease.giveBack s₁).1.2, (lease.giveBack s₁).2) := rfl
  have habandoned {s' : Session} := Starting.abandoned hstage raised lease s₁ s' hordinary
    hstretch hwithin hnumber hhands
  rw [hgive]
  cases hreleases : lease.releaseRaises with
  | some raised' =>
    rw [Lease.giveBack_raises hreleases]
    simpa [hreleases] using habandoned (Session.logged_after _ s₁)
  | none =>
    rw [Lease.giveBack_succeeds hreleases]
    simpa [hreleases] using habandoned ((Session.logged_after _ s₁).say _)

/-- Starting a compiler that was never started does nothing that is not listed. -/
private theorem start_spec_uninitialized (hstage : compiler.phase.stage = .uninitialized) :
    Starting compiler s (compiler.start s).1.1 (compiler.start s).1.2 (compiler.start s).2 := by
  have hsaid := Session.stretch_say "Initializing CoffeeScript interpreter" s s.created
  have hprepare := prepare_spec compiler.factory
    (Session.say "Initializing CoffeeScript interpreter" s).2
  rcases hrun : prepare compiler.factory
    (Session.say "Initializing CoffeeScript interpreter" s).2 with ⟨⟨lease?, result⟩, s₁⟩
  rw [hrun] at hprepare
  obtain ⟨hprepared, hlease, hok⟩ := hprepare
  simp only [Session.say_created, Session.say_requested, Session.say_events,
    Session.say_collaborators] at hprepared hlease hok
  have hstretch := hsaid.trans hprepared
  rw [start_uninitialized hstage hrun]
  cases result with
  | ok =>
    obtain ⟨lease, n, new, rfl, hholds, hnew, hlog⟩ := hok rfl
    have hbetween : Between s.created s₁.created (some n) := by
      simpa [hholds, Handle.initialized] using (hlease lease rfl).1.between
    exact .prepared hstage lease n new s₁ hstretch hholds hbetween hnew hlog
  | error raised =>
    cases hordinary : raised.isOrdinary with
    | false =>
      simpa [hordinary] using .interrupted hstage raised _ s₁ hordinary
        (Session.say_collaborators _ s) (congrArg (fun run => run.1.2) hrun) hstretch
    | true =>
      simp only [hordinary, Bool.true_eq_false, if_false]
      cases lease? with
      | none =>
        have hlast := Session.stretch_say
          s!"Initialization failed: {raised.toFault.message}" s₁ s.created
        exact .refused hstage raised _ hordinary (hstretch.trans hlast)
      | some lease =>
        obtain ⟨hwithin, hnumber, hhands⟩ := hlease lease rfl
        exact starting_abandoned hstage hordinary hstretch hwithin hnumber hhands

/-- Starting does nothing that is not listed. -/
theorem start_spec (compiler : Compiler) (s : Session) :
    Starting compiler s (compiler.start s).1.1 (compiler.start s).1.2 (compiler.start s).2 := by
  cases hstage : compiler.phase.stage with
  | initialized =>
    have hstart : compiler.start s = ((compiler, .ok ()), s) := by simp [start, hstage]
    exact hstart ▸ .running hstage
  | disposed =>
    have hstart : compiler.start s = ((compiler, .error (.fault .compilerReleased)), s) := by
      simp [start, hstage]
    exact hstart ▸ .released hstage
  | failed =>
    have hstart : compiler.start s = ((compiler, .error compiler.storedFault), s) := by
      simp [start, hstage]
    exact hstart ▸ .failed hstage
  | uninitialized => exact start_spec_uninitialized hstage

theorem Starting.later {compiler' : Compiler} {result : Except Raised Unit} {s' : Session}
    (h : Starting compiler s compiler' result s') : Later s s' := by
  cases h with
  | running | released | failed => exact .refl s
  | prepared _ _ _ _ _ hstretch => exact hstretch.later
  | interrupted _ _ _ _ _ _ _ hstretch => exact hstretch.later
  | refused _ _ _ _ hstretch => exact hstretch.later
  | abandoned _ _ _ _ _ _ hstretch _ _ _ hlogged => exact hstretch.later.trans hlogged.later

/-- A compiler whose start succeeds runs. -/
theorem Starting.stage_of_ok {compiler' : Compiler} {s' : Session}
    (h : Starting compiler s compiler' (.ok ()) s') : compiler'.phase.stage = .initialized := by
  cases h with
  | running hstage => exact hstage
  | prepared => rfl

/-- A start that succeeds evaluates nothing. -/
theorem Starting.stretch_of_ok {compiler' : Compiler} {s' : Session}
    (h : Starting compiler s compiler' (.ok ()) s') : Stretch s.created s s' := by
  cases h with
  | running => exact .refl _ s
  | prepared _ _ _ _ _ hstretch => exact hstretch

/-! ### Compiling -/

/-- The answer that a reaction of the engine means. -/
def reading (reaction : Except Raised Value) : Except Raised Answer :=
  match reaction with
  | .error raised => .error (Handle.asFault (.plain · Category.script) raised)
  | .ok (.text reply) => (Answer.ofMessage reply).mapError .fault
  | .ok reply => .error (.fault (Handle.replyFault reply))

/-- The outcome for a source that an answer means. -/
def judgement (source : Value) (answer : Answer) : Except Raised Outcome :=
  match answer.firstError? with
  | none => .ok (.ok (answer.code.getD ""))
  | some entry =>
    match entry.diagnostic source with
    | .error refusal => .error (.refused refusal)
    | .ok diagnostic => .ok (.failed (.diagnostic diagnostic))

/-- The outcome for a source that a reaction of the engine means. -/
def verdict (source : Value) (reaction : Except Raised Value) : Except Raised Outcome :=
  match reading reaction with
  | .error raised => settle raised
  | .ok answer => judgement source answer

/-- What compiling a source can do. -/
inductive Compiling (compiler : Compiler) (source : Value) (options : CompileOptions)
    (s : Session) : Compiler → Except Raised Outcome → Session → Prop
  /-- Starting fails, and nothing is evaluated. -/
  | unstarted (compiler' : Compiler) (raised : Raised) (s' : Session)
      (hstart : Starting compiler s compiler' (.error raised) s') :
      Compiling compiler source options s compiler' (settle raised) s'
  /-- One expression is evaluated. -/
  | evaluated (compiler' : Compiler) (lease : Lease) (n : Nat) (s₁ s' : Session)
      (hstart : Starting compiler s compiler' (.ok ()) s₁) (hholds : compiler'.Holds lease n)
      (hlogged : Session.Logged
        (.evaluate n (CompileCall.text source options CompileCall.helperName)) s₁ s') :
      Compiling compiler source options s compiler'
        (verdict source (s₁.collaborators.evaluate s₁.evaluated
          (CompileCall.text source options CompileCall.helperName))) s'

/-- What compiling does to a compiler is what a start does. -/
theorem Compiling.starting {source : Value} {options : CompileOptions} {compiler' : Compiler}
    {result : Except Raised Outcome} {s' : Session}
    (h : Compiling compiler source options s compiler' result s') :
    ∃ result₁ s₁, Starting compiler s compiler' result₁ s₁ ∧ Later s₁ s' := by
  cases h with
  | unstarted raised _ hstart => exact ⟨_, _, hstart, .refl s'⟩
  | evaluated lease n s₁ _ hstart hholds hlogged => exact ⟨_, s₁, hstart, hlogged.later⟩

/-- Asking a compiler's interpreter evaluates one expression. -/
theorem ask_initialized {lease : Lease} {n : Nat} (h : lease.handle = .initialized n)
    (call : String) (s : Session) :
    ask (some lease) call s =
      (reading (s.collaborators.evaluate s.evaluated call),
        (Session.evaluate n call s).2) := by
  have hreaction : (Session.evaluate n call s).1 = s.collaborators.evaluate s.evaluated call := rfl
  simp only [ask, Handle.evaluate, h, Handle.initialized, SessionM.bind_apply, hreaction]
  rcases s.collaborators.evaluate s.evaluated call with raised | reply
  · rfl
  · cases reply <;> rfl

/-- What comes of an answer depends on the source and the answer alone. -/
theorem conclude_apply (source : Value) (answer : Answer) (s : Session) :
    conclude source answer s =
      (judgement source answer,
        match answer.firstError? with
        | none => s
        | some entry => (Session.say s!"CoffeeScript reported: {entry.message}" s).2) := by
  rw [conclude, judgement]
  cases answer.firstError? with
  | none => rfl
  | some entry =>
    simp only [SessionM.bind_apply]
    cases entry.diagnostic source <;> rfl

theorem tryCompile_unstarted {compiler' : Compiler} {raised : Raised} {s' : Session}
    (h : compiler.start s = ((compiler', .error raised), s')) (source : Value)
    (options : CompileOptions) :
    compiler.tryCompile source options s = ((compiler', settle raised), s') := by
  rw [tryCompile, SessionM.bind_apply, h]
  rfl

/-- A compiler that has started evaluates the call and judges the answer. -/
theorem tryCompile_started {compiler' : Compiler} {s₁ : Session} {lease : Lease} {n : Nat}
    (h : compiler.start s = ((compiler', .ok ()), s₁)) (hholds : compiler'.Holds lease n)
    (source : Value) (options : CompileOptions) :
    ∃ s', Session.Logged (.evaluate n (CompileCall.text source options CompileCall.helperName))
        s₁ s' ∧
      compiler.tryCompile source options s =
        ((compiler', verdict source (s₁.collaborators.evaluate s₁.evaluated
          (CompileCall.text source options CompileCall.helperName))), s') := by
  obtain ⟨hlease, hhandle⟩ := hholds
  set call := CompileCall.text source options CompileCall.helperName with hcall
  have hlogged : Session.Logged (.evaluate n call) s₁ (Session.evaluate n call s₁).2 :=
    ⟨rfl, rfl, rfl⟩
  rw [tryCompile, SessionM.bind_apply, h]
  simp only [hlease, SessionM.bind_apply, ← hcall, ask_initialized hhandle]
  cases hreading : reading (s₁.collaborators.evaluate s₁.evaluated call) with
  | error raised =>
    exact ⟨_, hlogged, by simp [verdict, hreading]⟩
  | ok answer =>
    refine ⟨(conclude source answer (Session.evaluate n call s₁).2).2, ?_, ?_⟩
    · rw [conclude_apply]
      cases answer.firstError? with
      | none => exact hlogged
      | some entry => exact hlogged.say _
    · simp only [verdict, hreading, SessionM.bind_apply, conclude_apply, SessionM.pure_apply]

/-- Compiling does nothing that is not listed, if a running compiler holds an interpreter. -/
theorem tryCompile_spec (hholds : compiler.phase.stage = .initialized →
    ∃ lease n, compiler.Holds lease n) (source : Value) (options : CompileOptions) (s : Session) :
    Compiling compiler source options s (compiler.tryCompile source options s).1.1
      (compiler.tryCompile source options s).1.2 (compiler.tryCompile source options s).2 := by
  have hstart := start_spec compiler s
  rcases hrun : compiler.start s with ⟨⟨compiler', raised | ⟨⟩⟩, s₁⟩ <;> rw [hrun] at hstart
  · rw [tryCompile_unstarted hrun]
    exact .unstarted compiler' raised s₁ hstart
  · have hready : ∃ lease n, compiler'.Holds lease n := by
      cases hstart with
      | running hstage => exact hholds hstage
      | prepared hstage lease n => exact ⟨lease, n, rfl, ‹_›⟩
    obtain ⟨lease, n, hready⟩ := hready
    obtain ⟨s', hlogged, htry⟩ := tryCompile_started hrun hready source options
    rw [htry]
    exact .evaluated compiler' lease n s₁ s' hstart hready hlogged

/-! ### Releasing -/

/-- What releasing a compiler can do. -/
inductive Releasing (compiler : Compiler) (s : Session) :
    Compiler → Except Raised Unit → Session → Prop
  /-- The compiler was released before. -/
  | again (hstage : compiler.phase.stage = .disposed) : Releasing compiler s compiler (.ok ()) s
  /-- The compiler keeps no handle. -/
  | empty (hstage : compiler.phase.stage ≠ .disposed) (hlease : compiler.phase.lease? = none) :
      Releasing compiler s (compiler.moveTo .disposed) (.ok ()) s
  /-- The handle is given back. -/
  | givenBack (hstage : compiler.phase.stage ≠ .disposed) (lease : Lease) (s' : Session)
      (hlease : compiler.phase.lease? = some lease) (hreleases : lease.releaseRaises = none)
      (hlogged : Session.Logged (.giveBack lease.number lease.handle.interpreter?) s s') :
      Releasing compiler s ((compiler.keep none).moveTo .disposed) (.ok ()) s'
  /-- Giving the handle back raises something, and the compiler keeps it. -/
  | kept (hstage : compiler.phase.stage ≠ .disposed) (lease : Lease) (raised : Raised)
      (s' : Session) (hlease : compiler.phase.lease? = some lease)
      (hreleases : lease.releaseRaises = some raised)
      (hlogged : Session.Logged (.giveBack lease.number lease.handle.interpreter?) s s') :
      Releasing compiler s ((compiler.keep (some lease)).moveTo .disposed) (.error raised) s'

theorem Releasing.later {compiler' : Compiler} {result : Except Raised Unit} {s' : Session}
    (h : Releasing compiler s compiler' result s') : Later s s' := by
  cases h with
  | again | empty => exact .refl s
  | givenBack _ _ _ _ _ hlogged => exact hlogged.later
  | kept _ _ _ _ _ _ hlogged => exact hlogged.later

/-- A release leaves a released compiler, whatever it raises. -/
theorem Releasing.disposed {compiler' : Compiler} {result : Except Raised Unit} {s' : Session}
    (h : Releasing compiler s compiler' result s') : compiler'.phase.stage = .disposed := by
  cases h with
  | again hstage => exact hstage
  | empty | givenBack | kept => rfl

/-- Releasing does nothing that is not listed. -/
theorem release_spec (compiler : Compiler) (s : Session) :
    Releasing compiler s (compiler.release s).1.1 (compiler.release s).1.2
      (compiler.release s).2 := by
  by_cases hstage : compiler.phase.stage = .disposed
  · have hrelease : compiler.release s = ((compiler, .ok ()), s) := by simp [release, hstage]
    exact hrelease ▸ .again hstage
  · cases hlease : compiler.phase.lease? with
    | none =>
      have hrelease : compiler.release s = ((compiler.moveTo .disposed, .ok ()), s) := by
        simp [release, hlease]
      exact hrelease ▸ .empty hstage hlease
    | some lease =>
      have hrelease : compiler.release s =
          match lease.giveBack s with
          | ((lease, .error raised), s') =>
            (((compiler.keep (some lease)).moveTo .disposed, .error raised), s')
          | ((_, .ok ()), s') =>
            (((compiler.keep none).moveTo .disposed, .ok ()),
              (Session.say "Released CoffeeScript interpreter" s').2) := by
        simp only [release, hlease, SessionM.bind_apply]
        rcases lease.giveBack s with ⟨⟨lease', raised | ⟨⟩⟩, s'⟩ <;> rfl
      have hlogged := Session.logged_after (.giveBack lease.number lease.handle.interpreter?) s
      rw [hrelease]
      cases hreleases : lease.releaseRaises with
      | some raised =>
        rw [Lease.giveBack_raises hreleases]
        exact .kept hstage lease raised _ hlease hreleases hlogged
      | none =>
        rw [Lease.giveBack_succeeds hreleases]
        exact .givenBack hstage lease _ hlease hreleases (hlogged.say _)

end Compiler

/-! ### Actions and steps -/

/-- What an action on a compiler can do. A compiler that is given up is gone. -/
inductive Action.Performing (compiler : Compiler) (s : Session) :
    Option Compiler → Session → Prop
  | idle : Performing compiler s (some compiler) s
  | compiling (source : Value) (options : CompileOptions) (compiler' : Compiler)
      (result : Except Raised Outcome) (s' : Session)
      (hcompiling : compiler.Compiling source options s compiler' result s') :
      Performing compiler s (some compiler') s'
  | releasing (compiler' : Compiler) (result : Except Raised Unit) (s' : Session)
      (hreleasing : compiler.Releasing s compiler' result s') :
      Performing compiler s (some compiler') s'
  | discarding (compiler' : Compiler) (result : Except Raised Unit) (s' : Session)
      (hreleasing : compiler.Releasing s compiler' result s') : Performing compiler s none s'

theorem Action.Performing.later {compiler : Compiler} {next : Option Compiler} {s s' : Session}
    (h : Performing compiler s next s') : Later s s' := by
  cases h with
  | idle => exact .refl s
  | compiling source options compiler' result _ h =>
    obtain ⟨result₁, s₁, hstart, hlater⟩ := h.starting
    exact hstart.later.trans hlater
  | releasing compiler' result _ h => exact h.later
  | discarding compiler' result _ h => exact h.later

section Perform

variable {literate : Value} {options : CompileOptions}

theorem Action.perform_tryCompile (compiler : Compiler) (source : Value) (s : Session)
    (h : CompileOptions.ofLiterate literate = .ok options) :
    ∃ reply, Action.perform compiler (.tryCompile source literate) s =
      ((some (compiler.tryCompile source options s).1.1, reply),
        (compiler.tryCompile source options s).2) := by
  simp only [perform, h, SessionM.bind_apply]
  rcases compiler.tryCompile source options s with ⟨⟨compiler', raised | outcome⟩, s'⟩ <;>
    exact ⟨_, rfl⟩

theorem Action.perform_compile (compiler : Compiler) (source : Value) (s : Session)
    (h : CompileOptions.ofLiterate literate = .ok options) :
    ∃ reply, Action.perform compiler (.compile source literate) s =
      ((some (compiler.tryCompile source options s).1.1, reply),
        (compiler.tryCompile source options s).2) := by
  simp only [perform, h, Compiler.compile, SessionM.bind_apply, SessionM.pure_apply]
  cases Compiler.unwrap (compiler.tryCompile source options s).1.2 <;> exact ⟨_, rfl⟩

/-- Actions do nothing that is not listed, if a running compiler holds an interpreter. -/
theorem Action.perform_spec {compiler : Compiler} (hholds : compiler.phase.stage = .initialized →
    ∃ lease n, compiler.Holds lease n) (action : Action) (s : Session) :
    Performing compiler s (action.perform compiler s).1.1 (action.perform compiler s).2 := by
  have hrelease := compiler.release_spec s
  have hcompile (source : Value) (options : CompileOptions) :
      Performing compiler s (some (compiler.tryCompile source options s).1.1)
        (compiler.tryCompile source options s).2 :=
    .compiling source options _ _ _ (Compiler.tryCompile_spec hholds source options s)
  cases action with
  | compile source literate =>
    cases h : CompileOptions.ofLiterate literate with
    | error violations => simpa [perform, h] using Performing.idle
    | ok options =>
      obtain ⟨reply, hperform⟩ := perform_compile compiler source s h
      rw [hperform]
      exact hcompile source options
  | tryCompile source literate =>
    cases h : CompileOptions.ofLiterate literate with
    | error violations => simpa [perform, h] using Performing.idle
    | ok options =>
      obtain ⟨reply, hperform⟩ := perform_tryCompile compiler source s h
      rw [hperform]
      exact hcompile source options
  | release => exact .releasing _ _ _ hrelease
  | close => exact .releasing _ _ _ hrelease
  | exit => exact .releasing _ _ _ hrelease
  | enter => exact .idle
  | discard => exact .discarding _ _ _ hrelease

end Perform

namespace Run

/-- What a step can do. -/
inductive Stepping (compilers : List (Option Compiler)) (s : Session) :
    List (Option Compiler) → Session → Prop
  | idle : Stepping compilers s compilers s
  | verbose (on : Bool) : Stepping compilers s compilers { s with verbose := on }
  | act (number : Nat) (compiler : Compiler) (next : Option Compiler) (s' : Session)
      (hcompiler : compilers[number]? = some (some compiler))
      (hperform : Action.Performing compiler s next s') :
      Stepping compilers s (compilers.set number next) s'

theorem Stepping.later {compilers compilers' : List (Option Compiler)} {s s' : Session}
    (h : Stepping compilers s compilers' s') : Later s s' := by
  cases h with
  | idle => exact .refl s
  | verbose on => exact ⟨rfl, List.prefix_rfl⟩
  | act number compiler next _ hcompiler hperform => exact hperform.later

/-- After an action there are the other compilers, and what the action left of its own. -/
theorem of_getElem?_set {compilers : List (Option Compiler)} {number number' : Nat}
    {next : Option Compiler} {compiler : Compiler}
    (h : (compilers.set number next)[number']? = some (some compiler)) :
    number' ≠ number ∧ compilers[number']? = some (some compiler) ∨
      number' = number ∧ next = some compiler := by
  rw [List.getElem?_set] at h
  split_ifs at h with heq
  · exact .inr ⟨heq.symm, Option.some.inj h⟩
  · exact .inl ⟨fun hne => heq hne.symm, h⟩

/-- A compiler that is put in its own place changes nothing. -/
theorem set_same {compilers : List (Option Compiler)} {number : Nat} {compiler : Compiler}
    (h : compilers[number]? = some (some compiler)) :
    compilers.set number (some compiler) = compilers := by
  obtain ⟨hlt, hget⟩ := List.getElem?_eq_some_iff.mp h
  rw [← hget, List.set_getElem_self]

/-- An action replaces its compiler and leaves the others. -/
theorem step_act {compilers : List (Option Compiler)} {number : Nat} {compiler : Compiler}
    (h : compilers[number]? = some (some compiler)) (action : Action) (s : Session) :
    Run.step compilers (.act number action) s =
      ((compilers.set number (action.perform compiler s).1.1, (action.perform compiler s).1.2),
        (action.perform compiler s).2) := by
  simp only [Run.step, h, SessionM.bind_apply, SessionM.pure_apply]

/-- An action finds its compiler, or does nothing. -/
theorem act_cases (compilers : List (Option Compiler)) (number : Nat) :
    (∃ compiler, compilers[number]? = some (some compiler)) ∨
      ∀ action s, Run.step compilers (.act number action) s = ((compilers, .nothing), s) := by
  rcases h : compilers[number]? with _ | _ | compiler
  · exact .inr fun action s => by simp [Run.step, h]
  · exact .inr fun action s => by simp [Run.step, h]
  · exact .inl ⟨compiler, rfl⟩

/-- Steps do nothing that is not listed, if running compilers hold interpreters. -/
theorem step_spec {compilers : List (Option Compiler)}
    (hholds : ∀ (number : Nat) (compiler : Compiler), compilers[number]? = some (some compiler) →
      compiler.phase.stage = .initialized → ∃ lease n, compiler.Holds lease n)
    (step : Step) (s : Session) :
    Stepping compilers s (Run.step compilers step s).1.1 (Run.step compilers step s).2 := by
  cases step with
  | verbose on => exact .verbose on
  | act number action =>
    rcases h : compilers[number]? with _ | _ | compiler
    · simpa [Run.step, h] using Stepping.idle
    · simpa [Run.step, h] using Stepping.idle
    · have hperform := Action.perform_spec (hholds number compiler h) action s
      rw [step_act h]
      exact .act number compiler _ _ h hperform

/-! ### Runs -/

/-- What each step keeps is kept by a run. -/
theorem steps_induction {motive : List (Option Compiler) → Session → Prop}
    (hstep : ∀ compilers s step, motive compilers s →
      motive (Run.step compilers step s).1.1 (Run.step compilers step s).2)
    (steps : List Step) {compilers : List (Option Compiler)} {s : Session}
    (h : motive compilers s) :
    motive (Run.steps compilers steps s).1.1 (Run.steps compilers steps s).2 := by
  induction steps generalizing compilers s with
  | nil => exact h
  | cons first rest ih => exact ih (hstep compilers s first h)

/-- A run can be cut into two. -/
theorem steps_append (compilers : List (Option Compiler)) (steps more : List Step) (s : Session) :
    (Run.steps compilers (steps ++ more) s).1.1 =
        (Run.steps (Run.steps compilers steps s).1.1 more (Run.steps compilers steps s).2).1.1 ∧
      (Run.steps compilers (steps ++ more) s).2 =
        (Run.steps (Run.steps compilers steps s).1.1 more (Run.steps compilers steps s).2).2 := by
  induction steps generalizing compilers s with
  | nil => exact ⟨rfl, rfl⟩
  | cons first rest ih => exact ih (Run.step compilers first s).1.1 (Run.step compilers first s).2

/-- What some steps on new compilers with the given factories come to. -/
def ofNew (collaborators : Collaborators) (factories : List Factory) (steps : List Step) :
    (List (Option Compiler) × List Reply) × Session :=
  Run.steps (factories.map fun factory => some (.new factory)) steps (.new collaborators)

/-- The last step of a run comes after the others. -/
theorem ofNew_concat (collaborators : Collaborators) (factories : List Factory)
    (steps : List Step) (step : Step) :
    (ofNew collaborators factories (steps ++ [step])).1.1 =
        (Run.step (ofNew collaborators factories steps).1.1 step
          (ofNew collaborators factories steps).2).1.1 ∧
      (ofNew collaborators factories (steps ++ [step])).2 =
        (Run.step (ofNew collaborators factories steps).1.1 step
          (ofNew collaborators factories steps).2).2 :=
  steps_append _ steps [step] _

/-- After some steps on new compilers with the given factories, the compiler of a number is there,
and this is the compiler and the session. -/
def Reaches (collaborators : Collaborators) (factories : List Factory) (steps : List Step)
    (number : Nat) (compiler : Compiler) (s : Session) : Prop :=
  (ofNew collaborators factories steps).1.1[number]? = some (some compiler) ∧
    (ofNew collaborators factories steps).2 = s

end Run

end CoffeeHost
