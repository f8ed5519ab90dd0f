import CoffeeHost.Run
/-!
# Properties that computations inherit from their calls

The operations of handles and compilers are put together from calls: of the engine, of the reader,
of verbose mode, and notes in the log. A property of computations is *inherited* if composing keeps
it and if the calls of the engine, the reader and verbose mode have it. Each operation that makes
no other calls then has it too; an operation that enters handles into the log has it if the two
calls for that have it.

## Main definitions

* `SessionM.Inherited` — the inherited properties.

## Main results

* `SessionM.Inherited.loadAll`, `SessionM.Inherited.ask`, `SessionM.Inherited.conclude` — the parts
  of a compilation that enter nothing.
* `SessionM.Inherited.prepare` — a preparation.
* `SessionM.Inherited.compileOnce` — a compilation with a compiler of its own, from its parts.
* `SessionM.Inherited.act` — every step of a run that is an action.
-/

namespace CoffeeHost

open Json (Value)

/-- A property of computations that composed ones have if their parts have it, and that the calls
of the engine, of the reader and of verbose mode have. -/
structure SessionM.Inherited (P : {α : Type} → SessionM α → Prop) : Prop where
  pure : ∀ {α : Type} (a : α), P (Pure.pure a)
  bind : ∀ {α β : Type} {x : SessionM α} {f : α → SessionM β}, P x → (∀ a, P (f a)) → P (x >>= f)
  say : ∀ message, P (Session.say message)
  create : P Session.create
  load : ∀ n name code, P (Session.load n name code)
  readResource : ∀ name, P (Session.readResource name)
  evaluate : ∀ n expression, P (Session.evaluate n expression)

namespace SessionM.Inherited

variable {P : {α : Type} → SessionM α → Prop} (h : Inherited P)

include h

theorem ensure (handle : Handle) : P handle.ensure := by
  rw [Handle.ensure]
  split
  · exact h.pure _
  · exact h.pure _
  · refine h.bind h.create fun created => ?_
    cases created with
    | error raised => exact h.pure _
    | ok n => exact h.pure _

theorem execute (interpreter? : Option Nat) (name : String) :
    P (Handle.execute interpreter? name) := by
  refine h.bind (h.readResource name) fun code => ?_
  cases code with
  | error raised => exact h.pure _
  | ok code =>
    cases interpreter? with
    | none => exact h.pure _
    | some n =>
      refine h.bind (h.load n name code) fun loaded => ?_
      cases loaded with
      | error raised => exact h.pure _
      | ok => exact h.pure _

theorem loadResource (handle : Handle) (name : String) : P (handle.loadResource name) := by
  refine h.bind (h.ensure handle) fun ⟨handle', ensured⟩ => ?_
  cases ensured with
  | error raised => exact h.pure _
  | ok => exact h.bind (h.execute handle'.interpreter? name) fun _ => h.pure _

theorem loadAll (lease : Lease) (names : List String) : P (lease.loadAll names) := by
  induction names generalizing lease with
  | nil => exact h.pure _
  | cons name rest ih =>
    refine h.bind (h.loadResource lease.handle name) fun ⟨handle, loaded⟩ => ?_
    cases loaded with
    | error raised => exact h.pure _
    | ok => exact h.bind (h.say _) fun _ => ih { lease with handle }

theorem conditionHandle (condition : Condition) : P condition.handle := by
  rw [Condition.handle]
  split
  · refine h.bind (h.ensure _) fun ⟨handle, ensured⟩ => ?_
    cases ensured with
    | error raised => exact h.pure _
    | ok => exact h.pure _
  · exact h.pure _

theorem ask (lease? : Option Lease) (call : String) : P (Compiler.ask lease? call) := by
  cases lease? with
  | none => exact h.pure _
  | some lease =>
    refine h.bind ?_ fun reply => ?_
    · rw [Handle.evaluate]
      split
      · exact h.pure _
      · exact h.pure _
      · exact h.pure _
      · refine h.bind (h.evaluate _ call) fun reaction => ?_
        split <;> exact h.pure _
    · cases reply with
      | error raised => exact h.pure _
      | ok reply => exact h.pure _

theorem conclude (source : Value) (answer : Answer) : P (Compiler.conclude source answer) := by
  rw [Compiler.conclude]
  split
  · exact h.pure _
  · refine h.bind (h.say _) fun _ => ?_
    split <;> exact h.pure _

/-- What asking for a handle and noting it inherit, a preparation inherits. -/
theorem prepare (hrequest : P Session.request) (hnote : ∀ e, P (Session.note e))
    (factory : Factory) : P (Compiler.prepare factory) := by
  refine h.bind ?_ fun obtained => ?_
  · refine h.bind hrequest fun number => ?_
    cases factory (number - 1) with
    | raises raised => exact h.pure _
    | hands condition releaseRaises =>
      refine h.bind (h.conditionHandle condition) fun made => ?_
      cases made with
      | error raised => exact h.pure _
      | ok handle => exact h.bind (hnote _) fun _ => h.pure _
  · cases obtained with
    | error raised => exact h.pure _
    | ok lease => exact h.bind (h.loadAll lease _) fun _ => h.pure _

section Operations

variable (hrequest : P Session.request) (hnote : ∀ e, P (Session.note e))

include hnote

theorem giveBack (lease : Lease) : P lease.giveBack := by
  refine h.bind (hnote _) fun _ => ?_
  cases lease.releaseRaises with
  | none => exact h.pure _
  | some raised => exact h.pure _

theorem release (compiler : Compiler) : P compiler.release := by
  rw [Compiler.release]
  split
  · exact h.pure _
  · exact h.pure _
  · refine h.bind (h.giveBack hnote _) fun ⟨lease, released⟩ => ?_
    cases released with
    | error raised => exact h.pure _
    | ok => exact h.bind (h.say _) fun _ => h.pure _

include hrequest

theorem start (compiler : Compiler) : P compiler.start := by
  rw [Compiler.start]
  split
  · exact h.pure _
  · exact h.pure _
  · exact h.pure _
  · refine h.bind (h.say _) fun _ => ?_
    refine h.bind (h.prepare hrequest hnote compiler.factory) fun ⟨lease?, prepared⟩ => ?_
    cases prepared with
    | ok => exact h.pure _
    | error raised =>
      dsimp only
      split
      · exact h.pure _
      · refine h.bind ?_ fun abandoned => ?_
        · cases lease? with
          | none => exact h.pure _
          | some lease => exact h.bind (h.giveBack hnote lease) fun _ => h.pure _
        · cases abandoned with
          | error raised => exact h.pure _
          | ok => exact h.bind (h.say _) fun _ => h.pure _

theorem tryCompile (compiler : Compiler) (source : Value) (options : CompileOptions) :
    P (compiler.tryCompile source options) := by
  refine h.bind (h.start hrequest hnote compiler) fun ⟨compiler', started⟩ => ?_
  cases started with
  | error raised => exact h.pure _
  | ok =>
    refine h.bind (h.ask _ _) fun asked => ?_
    cases asked with
    | error raised => exact h.pure _
    | ok answer => exact h.bind (h.conclude source answer) fun _ => h.pure _

theorem compile (compiler : Compiler) (source : Value) (options : CompileOptions) :
    P (compiler.compile source options) :=
  h.bind (h.tryCompile hrequest hnote compiler source options) fun _ => h.pure _

/-- What asking for a handle and the notes in the log inherit, a whole compilation inherits. -/
theorem compileOnce (source : Value) (options : CompileOptions) :
    P (CoffeeHost.compileOnce source options) := by
  refine h.bind (h.compile hrequest hnote _ source options) fun ⟨compiler, result⟩ => ?_
  refine h.bind (h.release hnote compiler) fun ⟨compiler', released⟩ => ?_
  cases released with
  | error raised => exact h.pure _
  | ok => exact h.pure _

/-- What asking for a handle and the notes in the log inherit, every action inherits. -/
theorem perform (compiler : Compiler) (action : Action) : P (action.perform compiler) := by
  have hrelease : P (Action.performRelease compiler) :=
    h.bind (h.release hnote compiler) fun _ => h.pure _
  cases action with
  | compile source literate =>
    rw [Action.perform]
    split
    · exact h.pure _
    · refine h.bind (h.compile hrequest hnote compiler source _) fun ⟨compiler', compiled⟩ => ?_
      cases compiled with
      | error failed => exact h.pure _
      | ok code => exact h.pure _
  | tryCompile source literate =>
    rw [Action.perform]
    split
    · exact h.pure _
    · refine h.bind (h.tryCompile hrequest hnote compiler source _) fun ⟨compiler', tried⟩ => ?_
      cases tried with
      | error raised => exact h.pure _
      | ok outcome => exact h.pure _
  | release | close | exit => exact hrelease
  | enter => exact h.pure _
  | discard => exact h.bind (h.bind (h.release hnote compiler) fun _ => h.pure _) fun _ => h.pure _

/-- Every step has what its actions have, unless it changes verbose mode. -/
theorem act (compilers : List (Option Compiler)) (number : Nat) (action : Action) :
    P (Run.step compilers (.act number action)) := by
  rw [Run.step]
  split
  · exact h.bind (h.perform hrequest hnote _ action) fun _ => h.pure _
  · exact h.pure _

end Operations

end SessionM.Inherited

end CoffeeHost
