import CoffeeHost.Proofs.Preparing
import CoffeeHost.Run
/-!
# Who has an interpreter or a handle

Interpreters and handles are *assets*. An event makes an asset if it creates an interpreter or hands
a handle out; it uses one if a script is executed or an expression evaluated in an interpreter, or
if a handle is given back, with the interpreter that it holds.

A computation *minds* the assets that it has if it uses no others than these and those that it has
made before, if the assets that it makes have new numbers, and if all that it hands on it had or has
made. Composed computations mind the assets that they have if their parts mind what is left to them,
so every action of a compiler minds the assets of the compiler.

## Main definitions

* `Asset`, `Event.makes?`, `Event.uses` — assets in a log.
* `UsesOwn` — a log in which only assets are used that were there, or made before.
* `Session.Minded`, `SessionM.Minds` — what becomes of assets in a computation.
* `Handle.assets`, `Lease.assets`, `Compiler.assets`

## Main results

* `SessionM.Minds.bind` — composing computations.
* `Compiler.start_minds`, `Compiler.tryCompile_minds`, `Compiler.release_minds` — the operations.
* `Action.perform_minds` — every action minds the assets of its compiler.
-/

namespace CoffeeHost

open Json (Value)

/-! ### Assets in logs -/

/-- An interpreter or a handle, by its number. -/
inductive Asset
  | interpreter (number : Nat)
  | handle (number : Nat)
  deriving DecidableEq

namespace Event

/-- The asset that an event makes. -/
def makes? : Event → Option Asset
  | create interpreter true => some (.interpreter interpreter)
  | handOut handle => some (.handle handle)
  | _ => none

/-- The assets that an event uses. -/
def uses : Event → List Asset
  | load interpreter .. => [.interpreter interpreter]
  | evaluate interpreter _ => [.interpreter interpreter]
  | giveBack handle interpreter? => .handle handle :: (interpreter?.map .interpreter).toList
  | _ => []

end Event

theorem append_subset_append {own own' : List Asset} (h : own ⊆ own') (more : List Asset) :
    own ++ more ⊆ own' ++ more :=
  List.append_subset.mpr
    ⟨List.subset_append_of_subset_left more h, List.subset_append_right own' more⟩

/-- The assets that are made in a log, in order. -/
def made (events : List Event) : List Asset := events.filterMap Event.makes?

theorem made_append (events new : List Event) : made (events ++ new) = made events ++ made new :=
  List.filterMap_append

theorem made_cons (e : Event) (events : List Event) :
    made (e :: events) = e.makes?.toList ++ made events := by
  cases h : e.makes? <;> simp [made, h]

theorem made_singleton (e : Event) : made [e] = e.makes?.toList := by
  rw [made_cons]
  exact List.append_nil _

/-- Every event uses only assets that are among `own`, or were made before. -/
def UsesOwn (own : List Asset) : List Event → Prop
  | [] => True
  | e :: rest => e.uses ⊆ own ∧ UsesOwn (own ++ e.makes?.toList) rest

theorem UsesOwn.mono {own own' : List Asset} {events : List Event} (h : UsesOwn own events)
    (hown : own ⊆ own') : UsesOwn own' events := by
  induction events generalizing own own' with
  | nil => trivial
  | cons e rest ih =>
    obtain ⟨huses, hrest⟩ := h
    exact ⟨List.Subset.trans huses hown, ih hrest (append_subset_append hown _)⟩

theorem usesOwn_append_iff {own : List Asset} {events new : List Event} :
    UsesOwn own (events ++ new) ↔ UsesOwn own events ∧ UsesOwn (own ++ made events) new := by
  induction events generalizing own with
  | nil => simp [UsesOwn, made]
  | cons e rest ih => simp [UsesOwn, ih, made_cons, and_assoc]

/-! ### What becomes of assets -/

namespace Session

/-- The number of an asset was given away. -/
def Counts (s : Session) : Asset → Prop
  | .interpreter number => number ≤ s.created
  | .handle number => number ≤ s.requested

/-- Numbers are not taken back. -/
theorem Counts.mono {s s' : Session} (hcreated : s.created ≤ s'.created)
    (hrequested : s.requested ≤ s'.requested) {a : Asset} (ha : s.Counts a) : s'.Counts a := by
  cases a with
  | interpreter number => exact Nat.le_trans ha hcreated
  | handle number => exact Nat.le_trans ha hrequested

/-- Between the sessions `s` and `s'`, only the assets `own` were used and those that were made, the
assets that were made have new numbers, and `left` are assets that were there or made. -/
structure Minded (own : List Asset) (s : Session) (left : List Asset) (s' : Session) : Prop where
  created : s.created ≤ s'.created
  requested : s.requested ≤ s'.requested
  events : ∃ new, s'.events = s.events ++ new ∧ UsesOwn own new ∧
    (∀ a ∈ made new, ¬ s.Counts a ∧ s'.Counts a) ∧ left ⊆ own ++ made new

namespace Minded

variable {own own' left left' : List Asset} {s s' s'' : Session}

theorem counts (h : Minded own s left s') {a : Asset} (ha : s.Counts a) : s'.Counts a :=
  ha.mono h.created h.requested

theorem refl (s : Session) (h : left ⊆ own) : Minded own s left s :=
  ⟨le_rfl, le_rfl, [], by simp, trivial, by simp [made], by simpa [made] using h⟩

theorem mono (h : Minded own s left s') (hown : own ⊆ own') : Minded own' s left s' := by
  obtain ⟨new, hnew, huses, hmade, hleft⟩ := h.events
  exact ⟨h.created, h.requested, new, hnew, huses.mono hown, hmade,
    List.Subset.trans hleft (append_subset_append hown _)⟩

/-- What comes next may use what is left. -/
theorem trans (h : Minded own s left s') (h' : Minded (own ++ left) s' left' s'') :
    Minded own s left' s'' := by
  obtain ⟨new, hnew, huses, hmade, hleft⟩ := h.events
  obtain ⟨new', hnew', huses', hmade', hleft'⟩ := h'.events
  have hown : own ++ left ⊆ own ++ made new :=
    List.append_subset.mpr ⟨List.subset_append_left _ _, hleft⟩
  refine ⟨h.created.trans h'.created, h.requested.trans h'.requested, new ++ new',
    by rw [hnew', hnew, List.append_assoc], ?_, fun a ha => ?_, ?_⟩
  · exact usesOwn_append_iff.mpr ⟨huses, huses'.mono hown⟩
  · rw [made_append] at ha
    rcases List.mem_append.mp ha with ha | ha
    · exact ⟨(hmade a ha).1, h'.counts (hmade a ha).2⟩
    · exact ⟨fun hs => (hmade' a ha).1 (h.counts hs), (hmade' a ha).2⟩
  · rw [made_append, ← List.append_assoc]
    exact List.Subset.trans hleft' (append_subset_append hown _)

/-- One more event, which may make an asset whose number was given away on the way or with it. -/
theorem concat (h : Minded own s left s') {e : Event} (hevents : s''.events = s'.events ++ [e])
    (hcreated : s'.created ≤ s''.created) (hrequested : s'.requested ≤ s''.requested)
    (huses : e.uses ⊆ own ++ left)
    (hmakes : ∀ a, e.makes? = some a → ¬ s.Counts a ∧ s''.Counts a) :
    Minded own s (left ++ e.makes?.toList) s'' := by
  obtain ⟨new, hnew, hused, hmade, hleft⟩ := h.events
  have hown : own ++ left ⊆ own ++ made new :=
    List.append_subset.mpr ⟨List.subset_append_left _ _, hleft⟩
  have hmade_concat : made (new ++ [e]) = made new ++ e.makes?.toList := by
    rw [made_append, made_singleton]
  refine ⟨h.created.trans hcreated, h.requested.trans hrequested, new ++ [e],
    by rw [hevents, hnew, List.append_assoc], ?_, fun a ha => ?_, ?_⟩
  · exact usesOwn_append_iff.mpr ⟨hused, List.Subset.trans huses hown, trivial⟩
  · rw [hmade_concat] at ha
    rcases List.mem_append.mp ha with ha | ha
    · exact ⟨(hmade a ha).1, (hmade a ha).2.mono hcreated hrequested⟩
    · exact hmakes a (Option.mem_toList.mp ha)
  · rw [hmade_concat, ← List.append_assoc]
    exact append_subset_append hleft _

end Minded

end Session

open Session (Minded)

namespace SessionM

variable {α β : Type}

/-- A computation that has the assets `own` uses no others but those that it makes, which have new
numbers, and what it leaves for `left` it had or has made. -/
def Minds (own : List Asset) (x : SessionM α) (left : α → List Asset) : Prop :=
  ∀ s, Minded own s (left (x s).1) (x s).2

namespace Minds

variable {own own' : List Asset} {left : α → List Asset} {left' : β → List Asset}

theorem pure {a : α} (h : left a ⊆ own) : Minds own (Pure.pure a) left := fun s => .refl s h

/-- The rest of a computation has what the first part has left as well. -/
theorem bind {x : SessionM α} {f : α → SessionM β} (hx : Minds own x left)
    (hf : ∀ a, Minds (own ++ left a) (f a) left') : Minds own (x >>= f) left' :=
  fun s => (hx s).trans (hf (x s).1 (x s).2)

theorem mono {x : SessionM α} (h : Minds own x left) (hown : own ⊆ own') : Minds own' x left :=
  fun s => (h s).mono hown

end Minds

end SessionM

open SessionM (Minds)

/-! ### The single calls -/

section Calls

variable {own : List Asset}

theorem say_minds (message : String) : Minds own (Session.say message) fun _ => [] := fun s =>
  ⟨(Session.say_created message s).ge, (Session.say_requested message s).ge, [], by simp, trivial,
    by simp [made], by simp⟩

/-- One more event, with which the number of the asset that it makes is given away. -/
theorem minded_event {s s' : Session} {e : Event} (hcreated : s.created ≤ s'.created)
    (hrequested : s.requested ≤ s'.requested) (hevents : s'.events = s.events ++ [e])
    (huses : e.uses ⊆ own) (hmakes : ∀ a, e.makes? = some a → ¬ s.Counts a ∧ s'.Counts a) :
    Minded own s e.makes?.toList s' :=
  (Minded.refl s (List.nil_subset own)).concat hevents hcreated hrequested
    (List.subset_append_of_subset_left [] huses) hmakes

/-- One more event that makes nothing. -/
theorem minded_use {s s' : Session} {e : Event} (hcreated : s.created ≤ s'.created)
    (hrequested : s.requested ≤ s'.requested) (hevents : s'.events = s.events ++ [e])
    (huses : e.uses ⊆ own) (hmakes : e.makes? = none) : Minded own s [] s' := by
  have h := minded_event hcreated hrequested hevents huses (by simp [hmakes])
  rwa [hmakes] at h

theorem load_minds {n : Nat} (h : .interpreter n ∈ own) (name code : String) :
    Minds own (Session.load n name code) fun _ => [] := fun _ =>
  minded_use le_rfl le_rfl rfl (by simpa [Event.uses] using h) rfl

theorem evaluate_minds {n : Nat} (h : .interpreter n ∈ own) (expression : String) :
    Minds own (Session.evaluate n expression) fun _ => [] := fun _ =>
  minded_use le_rfl le_rfl rfl (by simpa [Event.uses] using h) rfl

theorem readResource_minds (name : String) :
    Minds own (Session.readResource name) fun _ => [] := fun _ =>
  minded_use le_rfl le_rfl rfl (by simp [Event.uses]) rfl

theorem request_minds : Minds own Session.request fun _ => [] := fun _ =>
  minded_use le_rfl (Nat.le_succ _) rfl (by simp [Event.uses]) rfl

theorem note_minds {e : Event} (huses : e.uses ⊆ own) (hmakes : e.makes? = none) :
    Minds own (Session.note e) fun _ => [] := fun _ =>
  minded_use le_rfl le_rfl rfl huses hmakes

/-- The interpreter that is created, if one is. -/
def createdAssets : Except Raised Nat → List Asset
  | .ok n => [.interpreter n]
  | .error _ => []

theorem create_minds : Minds own Session.create createdAssets := by
  intro s
  have hevent : (Session.create s).2.events = s.events ++
      [.create (s.created + 1) (s.collaborators.create s.created).isNone] := rfl
  have hnext : (Session.create s).2.created = s.created + 1 := rfl
  have hcreated : createdAssets (Session.create s).1 = (Event.makes?
      (.create (s.created + 1) (s.collaborators.create s.created).isNone)).toList := by
    simp only [Session.create]
    cases s.collaborators.create s.created <;> rfl
  rw [hcreated]
  refine minded_event (Nat.le_succ _) le_rfl hevent (by simp [Event.uses]) fun a ha => ?_
  cases hraised : s.collaborators.create s.created with
  | some raised => simp [hraised, Event.makes?] at ha
  | none =>
    obtain rfl : .interpreter (s.created + 1) = a := by simpa [hraised, Event.makes?] using ha
    simp [Session.Counts, hnext]

end Calls

/-! ### Handles -/

namespace Handle

/-- The interpreter that a handle holds. -/
def assets (handle : Handle) : List Asset := (handle.interpreter?.map .interpreter).toList

theorem ensure_minds (handle : Handle) :
    Minds handle.assets handle.ensure fun out => out.1.assets := by
  rw [ensure]
  split
  · exact .pure (List.Subset.refl _)
  · exact .pure (List.Subset.refl _)
  · refine create_minds.bind fun created => ?_
    cases created with
    | error raised => exact .pure (List.subset_append_left _ _)
    | ok n => exact .pure (List.subset_append_right _ _)

theorem execute_minds (interpreter? : Option Nat) (name : String) :
    Minds (interpreter?.map .interpreter).toList (execute interpreter? name) fun _ => [] := by
  refine (readResource_minds name).bind fun code => ?_
  cases code with
  | error raised => exact .pure (List.nil_subset _)
  | ok code =>
    cases interpreter? with
    | none => exact .pure (List.nil_subset _)
    | some n =>
      refine (load_minds (by simp) name code).bind fun loaded => ?_
      cases loaded with
      | error raised => exact .pure (List.nil_subset _)
      | ok => exact .pure (List.nil_subset _)

theorem loadResource_minds (handle : Handle) (name : String) :
    Minds handle.assets (handle.loadResource name) fun out => out.1.assets := by
  refine handle.ensure_minds.bind fun ⟨handle', ensured⟩ => ?_
  cases ensured with
  | error raised => exact .pure (List.subset_append_right _ _)
  | ok =>
    refine ((execute_minds handle'.interpreter? name).mono (List.subset_append_right _ _)).bind
      fun executed => .pure ?_
    simp [assets]

end Handle

/-! ### Leases -/

namespace Lease

/-- A handle with the interpreter that it holds. -/
def assets (lease : Lease) : List Asset := .handle lease.number :: lease.handle.assets

theorem loadAll_minds (lease : Lease) (names : List String) :
    Minds lease.assets (lease.loadAll names) fun out => out.1.assets := by
  induction names generalizing lease with
  | nil => exact .pure (List.Subset.refl _)
  | cons name rest ih =>
    refine ((lease.handle.loadResource_minds name).mono (List.subset_cons_self _ _)).bind
      fun ⟨handle, loaded⟩ => ?_
    -- What is left is the lease with another handle.
    have hlease : assets { lease with handle } ⊆ lease.assets ++ handle.assets := by
      simp [assets]
    cases loaded with
    | error raised => exact .pure hlease
    | ok =>
      refine (say_minds _).bind fun _ => (ih { lease with handle }).mono ?_
      exact List.subset_append_of_subset_left _ hlease

theorem giveBack_minds (lease : Lease) :
    Minds lease.assets lease.giveBack fun out => out.1.assets := by
  have hnote : Minds lease.assets
      (Session.note (.giveBack lease.number lease.handle.interpreter?)) fun _ => [] :=
    note_minds (List.Subset.refl _) rfl
  refine hnote.bind fun _ => ?_
  cases lease.releaseRaises with
  | some raised => exact .pure (List.subset_append_left _ _)
  | none =>
    refine .pure ?_
    rcases lease with ⟨number, ⟨stage, interpreter?⟩, releaseRaises⟩
    cases stage <;> simp [assets, Handle.assets, Handle.dispose, Handle.disposed]

/-- A handle that there may be. -/
def assets? (lease? : Option Lease) : List Asset := (lease?.map assets).getD []

end Lease

/-! ### Factories -/

/-- What a factory does with a handle is its own affair. -/
theorem Condition.handle_minds (condition : Condition) :
    Minds [] condition.handle fun made => (made.toOption.map Handle.assets).getD [] := by
  rw [handle]
  split
  · have hensure : Minds [] (if condition.givenBack then Handle.disposed
        else .uninitialized).ensure fun out => out.1.assets := by
      refine (Handle.ensure_minds _).mono ?_
      cases condition.givenBack <;> simp [Handle.assets, Handle.disposed, Handle.uninitialized]
    refine hensure.bind fun out => ?_
    obtain ⟨handle, raised | ⟨⟩⟩ := out
    · exact .pure (List.nil_subset _)
    · exact .pure (List.subset_append_right _ _)
  · refine .pure ?_
    cases condition.givenBack <;>
      simp [Handle.assets, Handle.disposed, Handle.uninitialized, Except.toOption]

/-- A factory hands out a handle with a new number. -/
theorem Factory.obtain_minds (factory : Factory) :
    Minds [] factory.obtain fun obtained => Lease.assets? obtained.toOption := by
  intro s
  have hrequest : Minded [] s [] (Session.request s).2 := request_minds s
  cases hsupply : factory s.requested with
  | raises raised =>
    rw [obtain_raises hsupply]
    exact hrequest
  | hands condition releaseRaises =>
    have hmade := hrequest.trans (condition.handle_minds (Session.request s).2)
    have hlater := (condition.handle_minds (Session.request s).2).requested
    rw [obtain_hands hsupply]
    rcases hrun : condition.handle (Session.request s).2 with ⟨raised | handle, s'⟩ <;>
      simp only [hrun] at hmade hlater ⊢
    · exact hmade
    · -- The number was given away by the request.
      have hnumber : s.requested + 1 ≤ s'.requested := hlater
      have hevent : (Session.note (.handOut (s.requested + 1)) s').2.events =
          s'.events ++ [.handOut (s.requested + 1)] := rfl
      have hhanded := hmade.concat hevent le_rfl le_rfl (by simp [Event.uses])
        (by simp [Event.makes?, Session.Counts, Session.note, Session.after, hnumber])
      refine hhanded.trans (.refl _ ?_)
      simp [Lease.assets?, Lease.assets, Except.toOption, Event.makes?]

/-! ### Compilers -/

namespace Compiler

theorem prepare_minds (factory : Factory) :
    Minds [] (prepare factory) fun out => Lease.assets? out.1 := by
  refine factory.obtain_minds.bind fun obtained => ?_
  cases obtained with
  | error raised => exact .pure (List.nil_subset _)
  | ok lease =>
    refine (lease.loadAll_minds Resource.loadOrder).mono (List.subset_append_right _ _)
      |>.bind fun ⟨lease', loaded⟩ => .pure ?_
    exact List.subset_append_right _ _

theorem abandon_minds (lease? : Option Lease) :
    Minds (Lease.assets? lease?) (abandon lease?) fun _ => [] := by
  cases lease? with
  | none => exact .pure (List.nil_subset _)
  | some lease => exact lease.giveBack_minds.bind fun _ => .pure (List.nil_subset _)

/-- The handle that a compiler keeps, with its interpreter. -/
def assets (compiler : Compiler) : List Asset := Lease.assets? compiler.phase.lease?

theorem start_minds (compiler : Compiler) :
    Minds compiler.assets compiler.start fun out => out.1.assets := by
  rw [start]
  split
  · exact .pure (List.Subset.refl _)
  · exact .pure (List.Subset.refl _)
  · exact .pure (List.Subset.refl _)
  · refine (say_minds _).bind fun _ => ?_
    refine ((prepare_minds compiler.factory).mono (List.nil_subset _)).bind
      fun ⟨lease?, prepared⟩ => ?_
    have hkept : compiler.assets ⊆ compiler.assets ++ [] ++ Lease.assets? lease? := by simp
    cases prepared with
    | ok => exact .pure (List.subset_append_right _ _)
    | error raised =>
      dsimp only
      split
      · exact .pure hkept
      · refine ((abandon_minds lease?).mono (List.subset_append_right _ _)).bind
          fun abandoned => ?_
        cases abandoned with
        | error raised => exact .pure (List.subset_append_of_subset_left _ hkept)
        | ok =>
          exact (say_minds _).bind fun _ => .pure
            (List.subset_append_of_subset_left _ (List.subset_append_of_subset_left _ hkept))

theorem ask_minds (lease? : Option Lease) (call : String) :
    Minds (Lease.assets? lease?) (ask lease? call) fun _ => [] := by
  cases lease? with
  | none => exact .pure (List.nil_subset _)
  | some lease =>
    have hevaluate : Minds (Lease.assets? (some lease)) (lease.handle.evaluate call)
        fun _ => [] := by
      rw [Handle.evaluate]
      split
      · exact .pure (List.nil_subset _)
      · exact .pure (List.nil_subset _)
      · exact .pure (List.nil_subset _)
      · rename_i n _ hn
        refine (evaluate_minds ?_ call).bind fun reaction => ?_
        · simp [Lease.assets?, Lease.assets, Handle.assets, hn]
        · split <;> exact .pure (List.nil_subset _)
    refine hevaluate.bind fun reply => ?_
    cases reply with
    | error raised => exact .pure (List.nil_subset _)
    | ok reply => exact .pure (List.nil_subset _)

theorem conclude_minds (source : Value) (answer : Answer) :
    Minds [] (conclude source answer) fun _ => [] := by
  rw [conclude]
  split
  · exact .pure (List.nil_subset _)
  · refine (say_minds _).bind fun _ => ?_
    split <;> exact .pure (List.nil_subset _)

theorem tryCompile_minds (compiler : Compiler) (source : Value) (options : CompileOptions) :
    Minds compiler.assets (compiler.tryCompile source options) fun out => out.1.assets := by
  refine compiler.start_minds.bind fun ⟨compiler', started⟩ => ?_
  have hstarted : compiler'.assets ⊆ compiler.assets ++ compiler'.assets :=
    List.subset_append_right _ _
  cases started with
  | error raised => exact .pure hstarted
  | ok =>
    refine ((ask_minds compiler'.phase.lease? _).mono hstarted).bind fun asked => ?_
    cases asked with
    | error raised => exact .pure (List.subset_append_of_subset_left _ hstarted)
    | ok answer =>
      refine ((conclude_minds source answer).mono (List.nil_subset _)).bind fun _ => .pure ?_
      simp

theorem compile_minds (compiler : Compiler) (source : Value) (options : CompileOptions) :
    Minds compiler.assets (compiler.compile source options) fun out => out.1.assets :=
  (compiler.tryCompile_minds source options).bind fun _ => .pure (List.subset_append_right _ _)

theorem release_minds (compiler : Compiler) :
    Minds compiler.assets compiler.release fun out => out.1.assets := by
  rw [release]
  split
  · exact .pure (List.Subset.refl _)
  · exact .pure (List.Subset.refl _)
  · rename_i lease hlease _
    have hassets : lease.assets ⊆ compiler.assets := by simp [assets, hlease, Lease.assets?]
    refine (lease.giveBack_minds.mono hassets).bind fun ⟨lease', released⟩ => ?_
    cases released with
    | error raised => exact .pure (List.subset_append_right _ _)
    | ok => exact (say_minds _).bind fun _ => .pure (List.nil_subset _)

end Compiler

/-! ### Actions -/

/-- The assets of a compiler unless it is gone. -/
def Compiler.assets? (compiler? : Option Compiler) : List Asset :=
  (compiler?.map Compiler.assets).getD []

/-- Every action minds the assets of its compiler. -/
theorem Action.perform_minds (compiler : Compiler) (action : Action) :
    Minds compiler.assets (action.perform compiler) fun out => Compiler.assets? out.1 := by
  have hrelease : Minds compiler.assets (Action.performRelease compiler)
      fun out => Compiler.assets? out.1 :=
    compiler.release_minds.bind fun _ => .pure (List.subset_append_right _ _)
  cases action with
  | compile source literate =>
    rw [perform]
    split
    · exact .pure (List.Subset.refl _)
    · refine (compiler.compile_minds source _).bind fun ⟨compiler', compiled⟩ => ?_
      cases compiled with
      | error failed => exact .pure (List.subset_append_right _ _)
      | ok code => exact .pure (List.subset_append_right _ _)
  | tryCompile source literate =>
    rw [perform]
    split
    · exact .pure (List.Subset.refl _)
    · refine (compiler.tryCompile_minds source _).bind fun ⟨compiler', tried⟩ => ?_
      cases tried with
      | error raised => exact .pure (List.subset_append_right _ _)
      | ok outcome => exact .pure (List.subset_append_right _ _)
  | release => exact hrelease
  | close => exact hrelease
  | exit => exact hrelease
  | enter => exact .pure (List.Subset.refl _)
  | discard =>
    exact (compiler.release_minds.bind fun _ => .pure (List.subset_append_right _ _)).bind
      fun _ => .pure (List.nil_subset _)

end CoffeeHost
