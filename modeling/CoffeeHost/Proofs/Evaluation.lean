import CoffeeHost.Proofs.Lifecycle
/-!
# Where expressions are evaluated

An interpreter can compile once the library and the helper are loaded in it, and only then: a
second load would define its globals anew. Every evaluation of every run is in such an interpreter,
and never in one whose handle was given back.

A compiler *runs on* an interpreter if it has started and holds it. The invariant of the proof says
that running compilers run on interpreters of their own, that these are prepared, and that their
handles were not given back. A start adds an interpreter with a new number, a release takes one
away, and an evaluation is always in the interpreter that its compiler runs on.

## Main definitions

* `EvaluatesPrepared` — the property of a log.
* `Run.Orderly` — the invariant.

## Main results

* `Run.evaluates_only_prepared` — every run has the property.
-/

namespace CoffeeHost

open Session (Logged Stretch)

/-! ### Logs -/

/-- Every evaluation of a log is in an interpreter that was prepared before and whose handle was
not given back before. -/
def EvaluatesPrepared (collaborators : Collaborators) (events : List Event) : Prop :=
  ∀ before n expression after, events = before ++ Event.evaluate n expression :: after →
    Prepared collaborators before n ∧ ¬ GivenBack before n

namespace EvaluatesPrepared

variable {collaborators : Collaborators} {events : List Event}

theorem nil (collaborators : Collaborators) : EvaluatesPrepared collaborators [] := by
  intro before n expression after h
  simp at h

/-- The last event of a log matters only if it is an evaluation. -/
theorem concat {e : Event} (h : EvaluatesPrepared collaborators events)
    (hlast : ∀ n expression, e = .evaluate n expression →
      Prepared collaborators events n ∧ ¬ GivenBack events n) :
    EvaluatesPrepared collaborators (events ++ [e]) := by
  intro before n expression after heq
  rcases split_concat heq with ⟨rfl, he⟩ | ⟨after', hbefore⟩
  · exact hlast n expression he
  · exact h before n expression after' hbefore

/-- Events of a preparation add no evaluation. -/
theorem append (h : EvaluatesPrepared collaborators events) {new : List Event}
    (hnew : ∀ e ∈ new, e.isPreparation) : EvaluatesPrepared collaborators (events ++ new) := by
  induction new generalizing events with
  | nil => simpa using h
  | cons e rest ih =>
    have he : EvaluatesPrepared collaborators (events ++ [e]) :=
      h.concat fun n expression heq => by
        have := hnew e (List.mem_cons_self ..)
        simp [heq, Event.isPreparation] at this
    simpa using ih he fun e' he' => hnew e' (List.mem_cons_of_mem _ he')

end EvaluatesPrepared

theorem givenBack_concat_iff {events : List Event} {number n : Nat} {interpreter? : Option Nat} :
    GivenBack (events ++ [.giveBack number interpreter?]) n ↔
      GivenBack events n ∨ interpreter? = some n := by
  constructor
  · rintro ⟨number', h⟩
    rcases List.mem_append.mp h with h | h
    · exact .inl ⟨number', h⟩
    · exact .inr (Event.giveBack.inj (List.mem_singleton.mp h)).2.symm
  · rintro (⟨number', h⟩ | rfl)
    · exact ⟨number', List.mem_append_left _ h⟩
    · exact ⟨number, List.mem_append_right _ (List.mem_singleton_self _)⟩

theorem not_givenBack_evaluate {events : List Event} {n m : Nat} {expression : String}
    (h : ¬ GivenBack events n) : ¬ GivenBack (events ++ [.evaluate m expression]) n := by
  rintro ⟨number, hmem⟩
  rcases List.mem_append.mp hmem with hmem | hmem
  · exact h ⟨number, hmem⟩
  · exact nomatch List.mem_singleton.mp hmem

/-! ### The invariant -/

/-- The compiler has started, and holds an interpreter. -/
def Compiler.RunsOn (compiler : Compiler) (n : Nat) : Prop :=
  compiler.phase.stage = .initialized ∧ ∃ lease, compiler.Holds lease n

/-- A consistent compiler that is not released runs on the interpreter of the handle it keeps. -/
theorem Compiler.Consistent.runsOn_of_lease {compiler : Compiler} {events : List Event}
    (h : compiler.Consistent events) (hstage : compiler.phase.stage ≠ .disposed) {lease : Lease}
    (hlease : compiler.phase.lease? = some lease) :
    ∃ n, compiler.RunsOn n ∧ lease.handle = .initialized n := by
  cases hnow : compiler.phase.stage with
  | uninitialized => exact absurd ((h.uninitialized hnow).1.symm.trans hlease) nofun
  | initialized =>
    obtain ⟨⟨held, n, hholds⟩, -⟩ := h.initialized hnow
    obtain rfl : held = lease := Option.some.inj (hholds.1.symm.trans hlease)
    exact ⟨n, ⟨hnow, held, hholds⟩, hholds.2⟩
  | failed => exact absurd ((h.failed hnow).1.symm.trans hlease) nofun
  | disposed => exact absurd hnow hstage

/-- The interpreter can be used: it is among those that were created, the scripts are loaded in it,
and its handle was not given back. -/
structure Session.Usable (s : Session) (n : Nat) : Prop where
  created : n ≤ s.created
  prepared : Prepared s.collaborators s.events n
  notGivenBack : ¬ GivenBack s.events n

namespace Run

/-- Running compilers run on usable interpreters of their own. -/
structure Orderly (compilers : List (Option Compiler)) (s : Session) : Prop where
  numbered : ∀ e ∈ s.events, ∀ n, e.interpreter? = some n → n ≤ s.created
  usable : ∀ (i : Nat) (compiler : Compiler) (n : Nat), compilers[i]? = some (some compiler) →
    compiler.RunsOn n → s.Usable n
  apart : ∀ (i j : Nat) (compiler other : Compiler) (n : Nat),
    compilers[i]? = some (some compiler) → compilers[j]? = some (some other) →
    compiler.RunsOn n → other.RunsOn n → i = j
  evaluations : EvaluatesPrepared s.collaborators s.events

namespace Orderly

variable {compilers : List (Option Compiler)} {s s' : Session} {i n : Nat} {compiler : Compiler}

/-- Preparing new interpreters keeps the order. -/
theorem stretch (h : Orderly compilers s) (hstretch : Stretch s.created s s') :
    Orderly compilers s' := by
  obtain ⟨new, hnew, hall⟩ := hstretch.events
  refine ⟨fun e he n hn => ?_, fun i compiler n hi hn => ?_, h.apart, ?_⟩
  · rw [hnew] at he
    rcases List.mem_append.mp he with he | he
    · exact (h.numbered e he n hn).trans hstretch.created
    · exact ((hall e he).2 n hn).2
  · obtain ⟨hcreated, hprepared, hback⟩ := h.usable i compiler n hi hn
    refine ⟨hcreated.trans hstretch.created, ?_, hstretch.givenBack_iff.not.mpr hback⟩
    rw [Prepared, hstretch.collaborators, hstretch.executions_eq hcreated]
    exact hprepared
  · rw [hstretch.collaborators, hnew]
    exact h.evaluations.append fun e he => (hall e he).1

/-- Giving back a handle keeps the order if no compiler runs on its interpreter any more. -/
theorem giveBack (h : Orderly compilers s) {number : Nat} {interpreter? : Option Nat}
    (hlogged : Logged (.giveBack number interpreter?) s s')
    (hfree : ∀ n, interpreter? = some n → n ≤ s.created ∧
      ∀ (i : Nat) (compiler : Compiler), compilers[i]? = some (some compiler) →
        ¬ compiler.RunsOn n) :
    Orderly compilers s' := by
  refine ⟨fun e he n hn => ?_, fun i compiler n hi hn => ?_, h.apart, ?_⟩
  · rw [hlogged.events] at he
    rw [hlogged.created]
    rcases List.mem_append.mp he with he | he
    · exact h.numbered e he n hn
    · obtain rfl := List.mem_singleton.mp he
      exact (hfree n hn).1
  · obtain ⟨hcreated, hprepared, hback⟩ := h.usable i compiler n hi hn
    refine ⟨hlogged.created ▸ hcreated, ?_, ?_⟩
    · rw [Prepared, hlogged.collaborators, hlogged.events, executions_concat s.events rfl]
      exact hprepared
    · rw [hlogged.events, givenBack_concat_iff, not_or]
      exact ⟨hback, fun heq => (hfree n heq).2 i compiler hi hn⟩
  · rw [hlogged.collaborators, hlogged.events]
    exact h.evaluations.concat nofun

/-- Evaluating in the interpreter that a compiler runs on keeps the order. -/
theorem evaluate (h : Orderly compilers s) (hi : compilers[i]? = some (some compiler))
    (hn : compiler.RunsOn n) {expression : String}
    (hlogged : Logged (.evaluate n expression) s s') : Orderly compilers s' := by
  have hhere := h.usable i compiler n hi hn
  refine ⟨fun e he m hm => ?_, fun j other m hj hm => ?_, h.apart, ?_⟩
  · rw [hlogged.events] at he
    rw [hlogged.created]
    rcases List.mem_append.mp he with he | he
    · exact h.numbered e he m hm
    · obtain rfl := List.mem_singleton.mp he
      obtain rfl : n = m := Option.some.inj hm
      exact hhere.created
  · obtain ⟨hcreated, hprepared, hback⟩ := h.usable j other m hj hm
    refine ⟨hlogged.created ▸ hcreated, ?_, ?_⟩
    · rw [Prepared, hlogged.collaborators, hlogged.events, executions_concat s.events rfl]
      exact hprepared
    · rw [hlogged.events]
      exact not_givenBack_evaluate hback
  · rw [hlogged.collaborators, hlogged.events]
    refine h.evaluations.concat fun m expression' heq => ?_
    obtain ⟨rfl, rfl⟩ := Event.evaluate.inj heq
    exact ⟨hhere.prepared, hhere.notGivenBack⟩

/-- Another compiler in the place of one keeps the order, if what it runs on is usable and
nobody else's. -/
theorem set (h : Orderly compilers s) (i : Nat) (next : Option Compiler)
    (hnext : ∀ compiler n, next = some compiler → compiler.RunsOn n → s.Usable n ∧
      ∀ (j : Nat) (other : Compiler), j ≠ i → compilers[j]? = some (some other) →
        ¬ other.RunsOn n) :
    Orderly (compilers.set i next) s := by
  refine ⟨h.numbered, fun j other n hj hn => ?_, fun j k one other n hj hk hone hother => ?_,
    h.evaluations⟩
  · rcases of_getElem?_set hj with ⟨-, hold⟩ | ⟨-, hnew⟩
    · exact h.usable j other n hold hn
    · exact (hnext other n hnew hn).1
  · rcases of_getElem?_set hj with ⟨hji, hone'⟩ | ⟨hji, hone'⟩ <;>
      rcases of_getElem?_set hk with ⟨hki, hother'⟩ | ⟨hki, hother'⟩
    · exact h.apart j k one other n hone' hother' hone hother
    · exact absurd hone ((hnext other n hother' hother).2 j one hji hone')
    · exact absurd hother ((hnext one n hone' hone).2 k other hki hother')
    · exact hji.trans hki.symm

/-- A compiler that does not run may take any place. -/
theorem set_idle (h : Orderly compilers s) (i : Nat) {next : Option Compiler}
    (hidle : ∀ compiler, next = some compiler → compiler.phase.stage ≠ .initialized) :
    Orderly (compilers.set i next) s :=
  h.set i next fun compiler _ hnext hn => absurd hn.1 (hidle compiler hnext)

/-- Nothing was done with an interpreter that is yet to be created. -/
theorem unused (h : Orderly compilers s) (hn : s.created < n) (e : Event) (he : e ∈ s.events) :
    e.interpreter? ≠ some n := fun heq =>
  absurd (h.numbered e he n heq) (Nat.not_le.mpr hn)

/-- A start keeps the order. -/
theorem starting {compiler' : Compiler} {result : Except Raised Unit} (h : Orderly compilers s)
    (hi : compilers[i]? = some (some compiler))
    (hstart : compiler.Starting s compiler' result s') :
    Orderly (compilers.set i (some compiler')) s' := by
  have hsame := set_same hi
  cases hstart with
  | running | released | failed => rwa [hsame]
  | interrupted _ _ _ _ _ _ _ hstretch => rw [hsame]; exact h.stretch hstretch
  | refused _ raised _ _ hstretch =>
    exact (h.stretch hstretch).set_idle i fun _ hnext => by
      simp [← Option.some.inj hnext, Compiler.fail]
  | abandoned _ raised lease s₁ _ _ hstretch hwithin _ _ hlogged =>
    have hset : Orderly (compilers.set i (some (compiler.fail raised.toFault))) s₁ :=
      (h.stretch hstretch).set_idle i fun _ hnext => by
        simp [← Option.some.inj hnext, Compiler.fail]
    refine hset.giveBack hlogged fun n hn => ?_
    obtain ⟨hfresh, hcreated⟩ := hwithin.between n hn
    refine ⟨hcreated, fun j other hj hother => ?_⟩
    -- The interpreter of the failed start is newer than those on which compilers run.
    rcases of_getElem?_set hj with ⟨-, hold⟩ | ⟨-, hnew⟩
    · exact absurd (h.usable j other n hold hother).created (Nat.not_le.mpr hfresh)
    · obtain rfl := Option.some.inj hnew
      exact nomatch hother.1
  | prepared _ lease n new _ hstretch hholds hbetween hnew hlog =>
    -- The interpreter is new: no event is about it, and no other compiler runs on it.
    obtain ⟨hfresh, hcreated⟩ := hbetween n rfl
    have hunused := h.unused hfresh
    refine (h.stretch hstretch).set i _ fun running m hnext hruns => ?_
    obtain rfl := Option.some.inj hnext
    obtain ⟨-, held, hlease, hinterpreter⟩ := hruns
    obtain rfl : lease = held := Option.some.inj hlease
    obtain rfl : n = m :=
      Option.some.inj (congrArg Handle.interpreter? (hholds.symm.trans hinterpreter))
    refine ⟨⟨hcreated, ?_, ?_⟩, fun j other _ hj hother => ?_⟩
    · rw [Prepared, hstretch.collaborators, hlog, executions_eq_nil hunused, List.nil_append]
      exact hnew
    · rw [hstretch.givenBack_iff]
      rintro ⟨number, hback⟩
      exact hunused _ hback rfl
    · exact absurd (h.usable j other n hj hother).created (Nat.not_le.mpr hfresh)

/-- Compiling keeps the order. -/
theorem compiling {source : Json.Value} {options : CompileOptions} {compiler' : Compiler}
    {result : Except Raised Outcome} (h : Orderly compilers s)
    (hi : compilers[i]? = some (some compiler))
    (hcompiling : compiler.Compiling source options s compiler' result s') :
    Orderly (compilers.set i (some compiler')) s' := by
  have hlt : i < compilers.length := (List.getElem?_eq_some_iff.mp hi).1
  cases hcompiling with
  | unstarted _ _ hstart => exact h.starting hi hstart
  | evaluated lease n s₁ _ hstart hholds hlogged =>
    have hstarted := h.starting hi hstart
    have hthere : (compilers.set i (some compiler'))[i]? = some (some compiler') :=
      List.getElem?_set_self hlt
    exact hstarted.evaluate hthere ⟨hstart.stage_of_ok, lease, hholds⟩ hlogged

/-- Releasing keeps the order, whether the compiler stays or goes. -/
theorem releasing {compiler' : Compiler} {result : Except Raised Unit} (h : Orderly compilers s)
    (hi : compilers[i]? = some (some compiler)) (hconsistent : compiler.Consistent s.events)
    (hreleasing : compiler.Releasing s compiler' result s') {next : Option Compiler}
    (hnext : ∀ c, next = some c → c = compiler') : Orderly (compilers.set i next) s' := by
  have hidle (c : Compiler) (hc : next = some c) : c.phase.stage ≠ .initialized := by
    simp [hnext c hc, hreleasing.disposed]
  have hset : Orderly (compilers.set i next) s := h.set_idle i hidle
  -- The released compiler was the only one that ran on the interpreter of its handle.
  have hback (hstage : compiler.phase.stage ≠ .disposed) {lease : Lease}
      (hlease : compiler.phase.lease? = some lease)
      (hlogged : Logged (.giveBack lease.number lease.handle.interpreter?) s s') :
      Orderly (compilers.set i next) s' := by
    obtain ⟨m, hruns, hm⟩ := hconsistent.runsOn_of_lease hstage hlease
    refine hset.giveBack hlogged fun n hn => ?_
    obtain rfl : m = n := Option.some.inj (by simpa [hm, Handle.initialized] using hn)
    refine ⟨(h.usable i compiler m hi hruns).created, fun j other hj hother => ?_⟩
    rcases of_getElem?_set hj with ⟨hji, hold⟩ | ⟨-, hnew⟩
    · exact hji (h.apart j i other compiler m hold hi hother hruns)
    · exact hidle other hnew hother.1
  cases hreleasing with
  | again | empty => exact hset
  | givenBack hstage lease _ hlease _ hlogged => exact hback hstage hlease hlogged
  | kept hstage lease raised _ hlease _ hlogged => exact hback hstage hlease hlogged

/-- Actions keep the order. -/
theorem performing {next : Option Compiler} (h : Orderly compilers s)
    (hi : compilers[i]? = some (some compiler)) (hconsistent : compiler.Consistent s.events)
    (hperform : Action.Performing compiler s next s') : Orderly (compilers.set i next) s' := by
  cases hperform with
  | idle =>
    obtain ⟨hlt, hget⟩ := List.getElem?_eq_some_iff.mp hi
    rwa [← hget, List.set_getElem_self]
  | compiling source options compiler' result _ hcompiling => exact h.compiling hi hcompiling
  | releasing compiler' result _ hreleasing =>
    exact h.releasing hi hconsistent hreleasing fun c hc => (Option.some.inj hc).symm
  | discarding compiler' result _ hreleasing =>
    exact h.releasing hi hconsistent hreleasing fun _ hc => nomatch hc

/-- Steps keep the order. -/
theorem stepping {compilers' : List (Option Compiler)} (h : Orderly compilers s)
    (hconsistent : AllConsistent compilers s) (hstep : Stepping compilers s compilers' s') :
    Orderly compilers' s' := by
  cases hstep with
  | idle => exact h
  | verbose on =>
    refine ⟨h.numbered, fun j other n hj hn => ?_, h.apart, h.evaluations⟩
    obtain ⟨hcreated, hprepared, hback⟩ := h.usable j other n hj hn
    exact ⟨hcreated, hprepared, hback⟩
  | act number compiler next _ hcompiler hperform =>
    exact h.performing hcompiler (hconsistent number compiler hcompiler) hperform

end Orderly

/-- At the beginning no compiler runs. -/
theorem orderly_new (collaborators : Collaborators) (factories : List Factory) :
    Orderly (factories.map fun factory => some (.new factory)) (.new collaborators) := by
  have hidle (i n : Nat) (compiler : Compiler)
      (hi : (factories.map fun factory => some (Compiler.new factory))[i]? = some (some compiler)) :
      ¬ compiler.RunsOn n := by
    simp only [List.getElem?_map, Option.map_eq_some_iff, Option.some.injEq] at hi
    obtain ⟨factory, -, rfl⟩ := hi
    exact fun hruns => nomatch hruns.1
  exact ⟨nofun, fun i compiler n hi hn => absurd hn (hidle i n compiler hi),
    fun i j compiler other n hi _ hn _ => absurd hn (hidle i n compiler hi), .nil _⟩

/-- Every evaluation of every run is in an interpreter in which the scripts of the load order were
executed before, each exactly once, with success and in this order, and no other script was; and
no handle of that interpreter was given back before. -/
theorem evaluates_only_prepared (collaborators : Collaborators) (factories : List Factory)
    (steps : List Step) :
    EvaluatesPrepared collaborators (ofNew collaborators factories steps).2.events := by
  obtain ⟨horder, -⟩ := steps_induction
    (motive := fun compilers s => Orderly compilers s ∧ AllConsistent compilers s)
    (fun compilers s step ⟨horder, hconsistent⟩ => by
      have hstep := step_spec hconsistent.holds step s
      exact ⟨horder.stepping hconsistent hstep, (hstep.lifecycle hconsistent).1⟩)
    steps ⟨orderly_new collaborators factories, allConsistent_new factories _⟩
  have hevaluations := horder.evaluations
  rwa [← ofNew, ofNew_collaborators] at hevaluations

/-- The only evaluation of a run that compiles once. -/
theorem first_evaluation_is_prepared :
    ∃ before expression after,
      (ofNew (.reacting (.ok .null)) [.plain]
          [.act 0 (.tryCompile (.text "x") (.boolean false))]).2.events =
        before ++ .evaluate 1 expression :: after ∧
      Prepared (.reacting (.ok .null)) before 1 ∧ ¬ GivenBack before 1 := by
  have hlog : (ofNew (.reacting (.ok .null)) [.plain]
      [.act 0 (.tryCompile (.text "x") (.boolean false))]).2.events =
      [.request, .handOut 1, .create 1 true, .read Resource.library,
        .load 1 Resource.library Resource.library true, .read Resource.helper,
        .load 1 Resource.helper Resource.helper true] ++
      .evaluate 1 "coffeeScriptHelper.compile(\"x\", \x7b\"bare\":true,\"literate\":false\x7d);" ::
        [] := by cbv
  exact ⟨_, _, _, hlog, evaluates_only_prepared (.reacting (.ok .null)) [.plain] _ _ _ _ _ hlog⟩

end Run

end CoffeeHost
