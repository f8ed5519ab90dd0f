import CoffeeHost.Proofs.CallReading
import CoffeeHost.Proofs.Lifecycle
/-!
# What escapes a compilation

Compiling turns faults into outcomes, and everything that a start raises into faults. Two filters
have holes. An evaluation lets everything pass that is neither a fault nor the engine's own error.
And a failed start gives its handle back outside of all filters, so what that raises replaces the
fault, and passes if it is no fault itself. If nothing is interrupted, nothing else escapes.

## Main definitions

* `Raised.isFault`, `Raised.isEngineError` — what the filters hold back.
* `Collaborators.RaiseFailures`, `Factory.RaisesFailures` — collaborators that interrupt nothing.
* `Yields` — what computations give in sessions with given collaborators.
* `Compiler.Escapes` — what escapes a compilation.

## Main results

* `Compiler.prepare_yields` — a preparation is interrupted only by collaborators.
* `Compiler.Compiling.eq_error_iff` — compilations raise exactly what escapes.
* `Run.tryCompile_raises_iff` — the same for every compiler of every run.
-/

namespace CoffeeHost

open Json (Value)

/-! ### Interruptions -/

/-- A result that is no interruption. -/
def NotInterrupted {α : Type} (result : Except Raised α) : Prop :=
  ∀ raised, result = .error raised → raised.isOrdinary

/-- Collaborators that interrupt nothing. -/
structure Collaborators.RaiseFailures (collaborators : Collaborators) : Prop where
  create : ∀ count raised, collaborators.create count = some raised → raised.isOrdinary
  load : ∀ count raised, collaborators.load count = some raised → raised.isOrdinary
  evaluate : ∀ count expression, NotInterrupted (collaborators.evaluate count expression)
  read : ∀ count name, NotInterrupted (collaborators.read count name)

/-- A factory that interrupts nothing, and whose handles do not either when they are given back. -/
structure Factory.RaisesFailures (factory : Factory) : Prop where
  raises : ∀ count raised, factory count = .raises raised → raised.isOrdinary
  releases : ∀ count condition raised, factory count = .hands condition (some raised) →
    raised.isOrdinary

/-- In sessions with the given collaborators, a computation gives something with a property, and
leaves the collaborators. -/
def Yields {α : Type} (collaborators : Collaborators) (x : SessionM α) (P : α → Prop) : Prop :=
  ∀ s, s.collaborators = collaborators → (x s).2.collaborators = collaborators ∧ P (x s).1

namespace Yields

variable {α β : Type} {collaborators : Collaborators} {P : α → Prop} {Q : β → Prop}

theorem pure {a : α} (h : P a) : Yields collaborators (Pure.pure a) P := fun _ hs => ⟨hs, h⟩

theorem bind {x : SessionM α} {f : α → SessionM β} (hx : Yields collaborators x P)
    (hf : ∀ a, P a → Yields collaborators (f a) Q) : Yields collaborators (x >>= f) Q :=
  fun s hs => hf (x s).1 (hx s hs).2 (x s).2 (hx s hs).1

end Yields

section Preparation

variable {collaborators : Collaborators}

theorem notInterrupted_ok {α : Type} (a : α) : NotInterrupted (.ok a) := nofun

theorem notInterrupted_error {α : Type} {raised : Raised} (h : raised.isOrdinary) :
    NotInterrupted (.error raised : Except Raised α) := by
  rintro _ ⟨⟩
  exact h

theorem notInterrupted_resultOf {α : Type} {a : α} {raised? : Option Raised}
    (h : ∀ raised, raised? = some raised → raised.isOrdinary) :
    NotInterrupted (Session.resultOf a raised?) := by
  cases raised? with
  | none => exact notInterrupted_ok a
  | some raised => exact notInterrupted_error (h raised rfl)

/-- Collaborators that always react alike interrupt nothing, unless the reaction is an interruption. -/
theorem Collaborators.reacting_raiseFailures {reaction : Except Raised Value}
    (h : NotInterrupted reaction) : (Collaborators.reacting reaction).RaiseFailures :=
  ⟨nofun, nofun, fun _ _ => h, fun _ _ => notInterrupted_ok _⟩

theorem asFault_isOrdinary (fault : String → Fault) (raised : Raised) :
    (Handle.asFault fault raised).isOrdinary = raised.isOrdinary := by
  cases raised <;> rfl

theorem yields_note (event : Event) : Yields collaborators (Session.note event) fun _ => True :=
  fun _ hs => ⟨hs, trivial⟩

theorem yields_say (message : String) :
    Yields collaborators (Session.say message) fun _ => True :=
  fun s hs => ⟨(Session.say_collaborators message s).trans hs, trivial⟩

variable (hcoll : collaborators.RaiseFailures)

include hcoll

theorem yields_create : Yields collaborators Session.create NotInterrupted := by
  rintro s rfl
  exact ⟨rfl, notInterrupted_resultOf (hcoll.create s.created)⟩

theorem yields_load (n : Nat) (name code : String) :
    Yields collaborators (Session.load n name code) NotInterrupted := by
  rintro s rfl
  exact ⟨rfl, notInterrupted_resultOf (hcoll.load s.loaded)⟩

theorem yields_readResource (name : String) :
    Yields collaborators (Session.readResource name) NotInterrupted := by
  rintro s rfl
  exact ⟨rfl, hcoll.read s.read name⟩

theorem Handle.ensure_yields (handle : Handle) :
    Yields collaborators handle.ensure fun out => NotInterrupted out.2 := by
  rw [ensure]
  split
  · exact .pure (notInterrupted_error rfl)
  · exact .pure (notInterrupted_ok ())
  · refine .bind (yields_create hcoll) fun created hcreated => ?_
    cases created with
    | error raised =>
      exact .pure (notInterrupted_error
        ((asFault_isOrdinary _ raised).trans (hcreated raised rfl)))
    | ok n => exact .pure (notInterrupted_ok ())

theorem Handle.execute_yields (interpreter? : Option Nat) (name : String) :
    Yields collaborators (execute interpreter? name) NotInterrupted := by
  refine .bind (yields_readResource hcoll name) fun code hread => ?_
  cases code with
  | error raised => exact .pure (notInterrupted_error (hread raised rfl))
  | ok code =>
    cases interpreter? with
    | none => exact .pure (notInterrupted_error rfl)
    | some n =>
      refine .bind (yields_load hcoll n name code) fun loaded hloaded => ?_
      cases loaded with
      | error raised =>
        exact .pure (notInterrupted_error
          ((asFault_isOrdinary _ raised).trans (hloaded raised rfl)))
      | ok => exact .pure (notInterrupted_ok ())

theorem Handle.loadResource_yields (handle : Handle) (name : String) :
    Yields collaborators (handle.loadResource name) fun out => NotInterrupted out.2 := by
  refine .bind (handle.ensure_yields hcoll) fun ⟨handle', ensured⟩ hensured => ?_
  cases ensured with
  | error raised => exact .pure hensured
  | ok => exact .bind (execute_yields hcoll handle'.interpreter? name) fun _ h => .pure h

theorem Lease.loadAll_yields (lease : Lease) (names : List String) :
    Yields collaborators (lease.loadAll names) fun out => NotInterrupted out.2 := by
  induction names generalizing lease with
  | nil => exact .pure (notInterrupted_ok ())
  | cons name rest ih =>
    refine .bind (lease.handle.loadResource_yields hcoll name) fun ⟨handle, loaded⟩ hloaded => ?_
    cases loaded with
    | error raised => exact .pure hloaded
    | ok => exact .bind (yields_say _) fun _ _ => ih { lease with handle }

theorem Condition.handle_yields (condition : Condition) :
    Yields collaborators condition.handle NotInterrupted := by
  cases hstarted : condition.started with
  | false => simpa [Condition.handle, hstarted] using Yields.pure (notInterrupted_ok _)
  | true =>
    simp only [Condition.handle, hstarted, if_true]
    refine .bind (Handle.ensure_yields hcoll _) fun started hensured => ?_
    obtain ⟨handle, ensured⟩ := started
    cases ensured with
    | error raised => exact .pure (notInterrupted_error (hensured raised rfl))
    | ok => exact .pure (notInterrupted_ok handle)

variable {factory : Factory} (hfactory : factory.RaisesFailures)

include hfactory

theorem Factory.obtain_yields : Yields collaborators factory.obtain NotInterrupted := by
  refine .bind (P := fun _ => True) (fun _ hs => ⟨hs, trivial⟩) fun number _ => ?_
  cases hsupply : factory (number - 1) with
  | raises raised => exact .pure (notInterrupted_error (hfactory.raises _ raised hsupply))
  | hands condition releaseRaises =>
    refine .bind (condition.handle_yields hcoll) fun made hmade => ?_
    cases made with
    | error raised => exact .pure (notInterrupted_error (hmade raised rfl))
    | ok handle => exact .bind (yields_note _) fun _ _ => .pure (notInterrupted_ok _)

/-- A preparation is interrupted only by collaborators. -/
theorem Compiler.prepare_yields :
    Yields collaborators (prepare factory) fun out => NotInterrupted out.2 := by
  refine .bind (Factory.obtain_yields hcoll hfactory) fun obtained hobtained => ?_
  cases obtained with
  | error raised => exact .pure (notInterrupted_error (hobtained raised rfl))
  | ok lease => exact .bind (lease.loadAll_yields hcoll _) fun _ h => .pure h

end Preparation

/-! ### The filters -/

namespace Raised

/-- What every filter holds back. -/
def isFault : Raised → Bool
  | fault _ => true
  | _ => false

/-- What only the engine's filter holds back. -/
def isEngineError : Raised → Bool
  | engineError _ => true
  | _ => false

end Raised

namespace Compiler

theorem settle_eq_error_iff {raised raised' : Raised} :
    settle raised' = .error raised ↔ raised' = raised ∧ raised.isFault = false := by
  cases raised' with
  | fault f =>
    refine ⟨nofun, ?_⟩
    rintro ⟨rfl, h⟩
    exact nomatch h
  | _ =>
    refine ⟨fun h => ?_, fun h => congrArg Except.error h.1⟩
    obtain rfl := Except.error.inj h
    exact ⟨rfl, rfl⟩

/-- An answer for a text is never refused. -/
theorem judgement_text (source : String) (answer : Answer) :
    ∃ outcome, judgement (.text source) answer = .ok outcome := by
  rw [judgement]
  cases answer.firstError? with
  | none => exact ⟨_, rfl⟩
  | some entry => exact ⟨_, rfl⟩

/-- Unwrapping keeps what was raised, and raises nothing else of that kind. -/
theorem unwrap_eq_raised_iff {result : Except Raised Outcome} {raised : Raised} :
    unwrap result = .error (.raised raised) ↔ result = .error raised := by
  rcases result with raised' | code | failure
  · simp [unwrap]
  · exact iff_of_false nofun nofun
  · exact iff_of_false nofun nofun

theorem compile_apply (compiler : Compiler) (source : Value) (options : CompileOptions)
    (s : Session) :
    compiler.compile source options s =
      (((compiler.tryCompile source options s).1.1,
        unwrap (compiler.tryCompile source options s).1.2),
        (compiler.tryCompile source options s).2) := rfl

/-- A reply of the engine is an answer or makes a fault. -/
theorem reading_reply (reply : Value) :
    (∃ answer, reading (.ok reply) = .ok answer) ∨
      ∃ f, reading (.ok reply) = .error (.fault f) := by
  cases reply with
  | text message =>
    cases h : Answer.ofMessage message with
    | ok answer => exact .inl ⟨answer, congrArg (Except.mapError Raised.fault) h⟩
    | error f => exact .inr ⟨f, congrArg (Except.mapError Raised.fault) h⟩
  | _ => exact .inr ⟨_, rfl⟩

/-- Of the reactions of the engine to a text, what is raised passes if it is neither a fault nor
the engine's own error. -/
theorem verdict_eq_error_iff {source : String} {reaction : Except Raised Value}
    {raised : Raised} :
    verdict (.text source) reaction = .error raised ↔
      reaction = .error raised ∧ raised.isFault = false ∧ raised.isEngineError = false := by
  cases reaction with
  | error raised' =>
    have hverdict : verdict (.text source) (.error raised') =
        settle (Handle.asFault (.plain · Category.script) raised') := rfl
    rw [hverdict, settle_eq_error_iff, Except.error.injEq]
    constructor
    · rintro ⟨hraised, hfault⟩
      cases raised' with
      | engineError => exact absurd hfault (by simp [← hraised, Handle.asFault, Raised.isFault])
      | _ => exact ⟨hraised, hfault, by rw [← hraised]; rfl⟩
    · rintro ⟨rfl, hfault, hengine⟩
      cases raised' with
      | engineError => exact nomatch hengine
      | _ => exact ⟨rfl, hfault⟩
  | ok reply =>
    refine iff_of_false ?_ nofun
    rcases reading_reply reply with ⟨answer, h⟩ | ⟨f, h⟩
    · obtain ⟨outcome, houtcome⟩ := judgement_text source answer
      simp [verdict, h, houtcome]
    · simp [verdict, h, settle]

/-! ### What escapes -/

/-- What escapes a compilation between two sessions: what its evaluation raised, if the engine's
filter lets it pass, or what giving back the handle of a failed start raised, if it is no fault. -/
def Escapes (compiler : Compiler) (s s' : Session) (raised : Raised) : Prop :=
  (∃ n call, .evaluate n call ∈ s'.events.drop s.events.length ∧
    s.collaborators.evaluate s.evaluated call = .error raised ∧
    raised.isFault = false ∧ raised.isEngineError = false) ∨
  ∃ number interpreter? condition,
    .giveBack number interpreter? ∈ s'.events.drop s.events.length ∧
    compiler.factory (number - 1) = .hands condition (some raised) ∧ raised.isFault = false

variable {compiler compiler' : Compiler} {s s' : Session} {raised : Raised}

/-- Nothing escapes in a stretch. -/
theorem not_escapes_of_stretch {base : Nat} (h : Session.Stretch base s s') :
    ¬ compiler.Escapes s s' raised := by
  obtain ⟨new, hnew, hall⟩ := h.events
  rintro (⟨n, call, hmem, -⟩ | ⟨number, interpreter?, condition, hmem, -⟩) <;>
  · rw [hnew, List.drop_left] at hmem
    exact absurd (hall _ hmem).1 (by simp [Event.isPreparation])

/-- After a preparation, only one event of the log can let something escape. -/
theorem mem_drop_iff {base : Nat} {s₁ : Session} {e e' : Event}
    (hstretch : Session.Stretch base s s₁) (hlogged : Session.Logged e s₁ s')
    (he' : e'.isPreparation = false) :
    e' ∈ s'.events.drop s.events.length ↔ e' = e := by
  obtain ⟨new, hnew, hall⟩ := hstretch.events
  have hout : e' ∉ new := fun hmem => by simpa [he'] using (hall e' hmem).1
  rw [hlogged.events, hnew, List.append_assoc, List.drop_left, List.mem_append,
    List.mem_singleton, or_iff_right hout]

/-- What escapes if an evaluation ends the compilation. -/
theorem escapes_iff_of_evaluate {base n : Nat} {s₁ : Session} {call : String}
    (hstretch : Session.Stretch base s s₁) (hlogged : Session.Logged (.evaluate n call) s₁ s') :
    compiler.Escapes s s' raised ↔ s.collaborators.evaluate s.evaluated call = .error raised ∧
      raised.isFault = false ∧ raised.isEngineError = false := by
  constructor
  · rintro (⟨n', call', hmem, h⟩ | ⟨number, interpreter?, condition, hmem, -⟩)
    · obtain ⟨-, rfl⟩ := Event.evaluate.inj ((mem_drop_iff hstretch hlogged rfl).mp hmem)
      exact h
    · exact nomatch (mem_drop_iff hstretch hlogged rfl).mp hmem
  · exact fun h => .inl ⟨n, call, (mem_drop_iff hstretch hlogged rfl).mpr rfl, h⟩

/-- What escapes if giving a handle back ends the compilation. -/
theorem escapes_iff_of_giveBack {base number : Nat} {s₁ : Session} {interpreter? : Option Nat}
    (hstretch : Session.Stretch base s s₁)
    (hlogged : Session.Logged (.giveBack number interpreter?) s₁ s') :
    compiler.Escapes s s' raised ↔
      (∃ condition, compiler.factory (number - 1) = .hands condition (some raised)) ∧
        raised.isFault = false := by
  constructor
  · rintro (⟨n, call, hmem, -⟩ | ⟨number', interpreter?', condition, hmem, hhands, hfault⟩)
    · exact nomatch (mem_drop_iff hstretch hlogged rfl).mp hmem
    · obtain ⟨rfl, -⟩ := Event.giveBack.inj ((mem_drop_iff hstretch hlogged rfl).mp hmem)
      exact ⟨⟨condition, hhands⟩, hfault⟩
  · rintro ⟨⟨condition, hhands⟩, hfault⟩
    exact .inr ⟨number, interpreter?, condition, (mem_drop_iff hstretch hlogged rfl).mpr rfl,
      hhands, hfault⟩

/-- What escapes a compilation whose start fails. -/
theorem Starting.settle_eq_error_iff {raised' : Raised}
    (h : Starting compiler s compiler' (.error raised') s') (hc : compiler.Consistent s.events)
    (hcoll : s.collaborators.RaiseFailures) (hfactory : compiler.factory.RaisesFailures) :
    settle raised' = .error raised ↔ compiler.Escapes s s' raised := by
  -- A fault never passes, and neither does anything in a stretch.
  have hfault {base : Nat} {f : Fault} {s' : Session} (hstretch : Session.Stretch base s s') :
      settle (.fault f) = .error raised ↔ compiler.Escapes s s' raised :=
    iff_of_false nofun (not_escapes_of_stretch hstretch)
  cases h with
  | released => exact hfault (.refl 0 s)
  | failed hstage =>
    obtain ⟨-, f, hf⟩ := hc.failed hstage
    have hstored : compiler.storedFault = .fault f := by simp [storedFault, hf]
    exact hstored ▸ hfault (.refl 0 s)
  | interrupted _ _ s₀ _ hraised hsame hprepare =>
    -- Only here the collaborators matter: they interrupt nothing.
    have hordinary := ((prepare_yields hcoll hfactory) s₀ hsame).2 raised' hprepare
    exact absurd hordinary (by simp [hraised])
  | refused _ _ _ _ hstretch => exact hfault hstretch
  | abandoned _ cause lease s₁ _ _ hstretch _ hnumber hhands hlogged =>
    obtain ⟨condition, hhands⟩ := hhands
    have hsupply : compiler.factory (lease.number - 1) = .hands condition lease.releaseRaises := by
      rw [hnumber, Nat.add_sub_cancel, hhands]
    rw [Compiler.settle_eq_error_iff, escapes_iff_of_giveBack hstretch hlogged, hsupply]
    cases lease.releaseRaises with
    | none =>
      refine iff_of_false ?_ (by simp)
      rintro ⟨rfl, hpasses⟩
      exact nomatch hpasses
    | some released => simp

/-- Compilations of texts raise exactly what escapes them. -/
theorem Compiling.eq_error_iff {source : String} {options : CompileOptions}
    {result : Except Raised Outcome}
    (h : Compiling compiler (.text source) options s compiler' result s')
    (hc : compiler.Consistent s.events) (hcoll : s.collaborators.RaiseFailures)
    (hfactory : compiler.factory.RaisesFailures) :
    result = .error raised ↔ compiler.Escapes s s' raised := by
  cases h with
  | unstarted raised' _ hstart => exact hstart.settle_eq_error_iff hc hcoll hfactory
  | evaluated lease n s₁ _ hstart hholds hlogged =>
    have hstretch := hstart.stretch_of_ok
    rw [verdict_eq_error_iff, escapes_iff_of_evaluate hstretch hlogged, hstretch.collaborators,
      hstretch.evaluated]

end Compiler

namespace Run

/-- Compiling a text in a run in which nothing is interrupted. What is raised instead of an outcome
or an error for it is exactly what escapes. -/
theorem tryCompile_raises_iff {collaborators : Collaborators} {factories : List Factory}
    {steps : List Step} {number : Nat} {compiler : Compiler} {s : Session}
    (h : Reaches collaborators factories steps number compiler s)
    (hcoll : collaborators.RaiseFailures)
    (hfactories : ∀ factory ∈ factories, factory.RaisesFailures) (source : String)
    (literate : Bool) :
    ∃ options, CompileOptions.ofLiterate (.boolean literate) = .ok options ∧ ∀ raised,
      ((compiler.tryCompile (.text source) options s).1.2 = .error raised ↔
        compiler.Escapes s (compiler.tryCompile (.text source) options s).2 raised) ∧
      ((compiler.compile (.text source) options s).1.2 = .error (.raised raised) ↔
        compiler.Escapes s (compiler.compile (.text source) options s).2 raised) := by
  have hconsistent := h.consistent
  have hfactory := hfactories compiler.factory h.factory_mem
  obtain ⟨-, rfl⟩ := h
  rw [← ofNew_collaborators collaborators factories steps] at hcoll
  have hholds (hstage : compiler.phase.stage = .initialized) : ∃ lease n, compiler.Holds lease n :=
    (hconsistent.initialized hstage).1
  have hspec := Compiler.tryCompile_spec hholds (.text source) ⟨literate⟩
    (ofNew collaborators factories steps).2
  refine ⟨⟨literate⟩, CompileOptions.ofLiterate_boolean literate, fun raised => ?_⟩
  rw [Compiler.compile_apply, Compiler.unwrap_eq_raised_iff]
  exact ⟨hspec.eq_error_iff hconsistent hcoll hfactory,
    hspec.eq_error_iff hconsistent hcoll hfactory⟩

/-- The engine cannot be created, so the start fails, and then giving the handle back fails. -/
theorem release_of_failed_start_escapes :
    ∃ options, CompileOptions.ofLiterate (.boolean false) = .ok options ∧
      ((Compiler.new fun _ => .hands .fresh (some (.ordinary "RuntimeError" "stuck"))).tryCompile
          (.text "x") options
          (.new ⟨fun _ => some (.engineError "no memory"), fun _ => none, fun _ _ => .ok .null,
            fun _ name => .ok name⟩)).1.2 =
        .error (.ordinary "RuntimeError" "stuck") := by
  have hcoll : Collaborators.RaiseFailures ⟨fun _ => some (.engineError "no memory"),
      fun _ => none, fun _ _ => .ok .null, fun _ name => .ok name⟩ :=
    ⟨fun _ _ h => by simp [← Option.some.inj h, Raised.isOrdinary], nofun,
      fun _ _ => notInterrupted_ok _, fun _ _ => notInterrupted_ok _⟩
  have hfactory : Factory.RaisesFailures
      fun _ => .hands .fresh (some (.ordinary "RuntimeError" "stuck")) :=
    ⟨nofun, fun _ _ _ h => by cases h; rfl⟩
  obtain ⟨options, hoptions, hiff⟩ := tryCompile_raises_iff (⟨rfl, rfl⟩ : Reaches _
    [fun _ => .hands .fresh (some (.ordinary "RuntimeError" "stuck"))] [] 0
    (.new fun _ => .hands .fresh (some (.ordinary "RuntimeError" "stuck"))) (.new _))
    hcoll (by simpa using hfactory) "x" false
  refine ⟨options, hoptions, (hiff _).1.mpr (.inr ⟨1, none, .fresh, ?_, rfl, rfl⟩)⟩
  have hevents : ((Compiler.new fun _ =>
      .hands .fresh (some (.ordinary "RuntimeError" "stuck"))).tryCompile (.text "x") options
      (.new ⟨fun _ => some (.engineError "no memory"), fun _ => none, fun _ _ => .ok .null,
        fun _ name => .ok name⟩)).2.events =
      [.request, .handOut 1, .create 1 false, .giveBack 1 none] := by cbv
  rw [hevents]
  simp [Session.new]

/-- Compilations are said to end with an outcome unless they are interrupted, but an evaluation can
raise an error that no filter holds back. -/
theorem tryCompile_can_raise :
    ¬ ∀ (collaborators : Collaborators) (factories : List Factory) (steps : List Step)
      (number : Nat) (compiler : Compiler) (s : Session),
      Reaches collaborators factories steps number compiler s → collaborators.RaiseFailures →
      (∀ factory ∈ factories, factory.RaisesFailures) →
      ∀ (source : String) (literate : Bool) (options : CompileOptions),
        CompileOptions.ofLiterate (.boolean literate) = .ok options →
        ∃ outcome, (compiler.tryCompile (.text source) options s).1.2 = .ok outcome := by
  intro hall
  have hcoll : (Collaborators.reacting
      (.error (.ordinary "RuntimeError" "boom"))).RaiseFailures :=
    ⟨nofun, nofun, fun _ _ => notInterrupted_error rfl, fun _ _ => notInterrupted_ok _⟩
  have hplain : Factory.plain.RaisesFailures := ⟨nofun, nofun⟩
  have hraised : ((Compiler.new .plain).tryCompile (.text "x") ⟨false⟩
      (.new (.reacting (.error (.ordinary "RuntimeError" "boom"))))).1.2 =
      .error (.ordinary "RuntimeError" "boom") := by cbv
  obtain ⟨outcome, houtcome⟩ := hall (.reacting (.error (.ordinary "RuntimeError" "boom")))
    [.plain] [] 0 (.new .plain) (.new (.reacting (.error (.ordinary "RuntimeError" "boom"))))
    ⟨rfl, rfl⟩ hcoll (by simpa using hplain) "x" false ⟨false⟩
    (CompileOptions.ofLiterate_boolean false)
  rw [hraised] at houtcome
  cases houtcome

end Run

end CoffeeHost
