import CoffeeHost.Proofs.Preparing
/-!
# The life of a handle

A handle takes four operations: it makes sure of its interpreter, executes a script, evaluates an
expression, or is released. `Handle.Performing` lists all that one of them can do to a handle that
is fresh, holds an interpreter or was released; everything else about the life of a handle is read
off this list.

A handle *owns* the interpreter that was created for it, also after its release. Along any sequence
of operations, whatever the engine and the reader of scripts raise on the way, the stage only moves
forward, at most one interpreter is created, and only this one is used.

## Main definitions

* `Handle.Operation`, `Handle.perform`, `Handle.operate` — operations and sequences of them.
* `Handle.Performing` — what an operation can do.
* `Owned` — a log in which only one interpreter is created and used.
* `Handle.Operation.Sound` — what is promised of an operation.

## Main results

* `Handle.perform_spec` — operations do nothing that is not listed.
* `Handle.operate_alive` — what a sequence of operations keeps.
* `Handle.life_of_handle` — the promises hold after every sequence of operations.
-/

namespace CoffeeHost

open Json (Value)

/-! ### Interpreters in logs -/

namespace Event

/-- The interpreter that an event creates. -/
def created? : Event → Option Nat
  | create interpreter true => some interpreter
  | _ => none

/-- The interpreter in which an event executes a script or evaluates an expression. -/
def used? : Event → Option Nat
  | load interpreter .. => some interpreter
  | evaluate interpreter _ => some interpreter
  | _ => none

end Event

/-- The interpreters that were created, in order. -/
def creations (events : List Event) : List Nat := events.filterMap Event.created?

theorem creations_concat (events : List Event) (e : Event) :
    creations (events ++ [e]) = creations events ++ e.created?.toList := by
  rw [creations, List.filterMap_append]
  cases h : e.created? <;> simp [creations, h]

/-- At most one interpreter was created, and whatever was used is this one, created before. -/
structure Owned (events : List Event) (own? : Option Nat) : Prop where
  creations : creations events = own?.toList
  uses : ∀ before e after n, events = before ++ e :: after → e.used? = some n →
    CoffeeHost.creations before = [n]

namespace Owned

variable {events : List Event} {own? : Option Nat} {n : Nat} {e : Event}

theorem nil : Owned [] none := ⟨rfl, by simp⟩

/-- The last event of a log may create the interpreter that is owned from then on, or use it. -/
theorem concat (h : Owned events own?) {own?' : Option Nat}
    (hown : own?.toList ++ e.created?.toList = own?'.toList)
    (huse : ∀ n, e.used? = some n → own? = some n) : Owned (events ++ [e]) own?' := by
  refine ⟨by rw [creations_concat, h.creations, hown], ?_⟩
  intro before e' after n heq hn
  rcases split_concat heq with ⟨rfl, rfl⟩ | ⟨after', hbefore⟩
  · rw [h.creations, huse n hn]
    rfl
  · exact h.uses before e' after' n hbefore hn

/-- An event that neither creates nor uses an interpreter leaves the owned one. -/
theorem concat_idle (h : Owned events own?) (hcreated : e.created? = none)
    (hused : e.used? = none) : Owned (events ++ [e]) own? :=
  h.concat (by simp [hcreated]) (by simp [hused])

theorem concat_create (h : Owned events none) (n : Nat) :
    Owned (events ++ [.create n true]) (some n) :=
  h.concat rfl nofun

theorem concat_use (h : Owned events (some n)) (hcreated : e.created? = none)
    (hused : e.used? = some n) : Owned (events ++ [e]) (some n) :=
  h.concat (by simp [hcreated]) fun m hm => by rw [← hm, hused]

theorem length_le_one (h : Owned events own?) : (CoffeeHost.creations events).length ≤ 1 := by
  rw [h.creations]
  cases own? <;> simp

end Owned

namespace Handle

/-! ### Operations -/

/-- An operation on a handle. -/
inductive Operation
  /-- Creates the interpreter unless there is one. -/
  | ensure
  /-- Executes the script of a name. -/
  | loadResource (name : String)
  /-- Evaluates an expression. -/
  | evaluate (expression : String)
  | release
  deriving DecidableEq, Repr

/-- The operations for which a handle creates its interpreter. -/
def Operation.creates : Operation → Bool
  | ensure | loadResource _ => true
  | evaluate _ | release => false

/-- Performs an operation. Only an evaluation gives a value. -/
def perform (handle : Handle) :
    Operation → SessionM (Handle × Except Raised (Option String))
  | .ensure => do
    let (handle, result) ← handle.ensure
    return (handle, result.map fun _ => none)
  | .loadResource name => do
    let (handle, result) ← handle.loadResource name
    return (handle, result.map fun _ => none)
  | .evaluate expression => return (handle, (← handle.evaluate expression).map some)
  | .release => return (handle.dispose, .ok none)

/-- Performs operations in order, whatever comes of them. -/
def operate (handle : Handle) : List Operation → SessionM Handle
  | [] => return handle
  | first :: rest => do
    let (handle, _) ← handle.perform first
    handle.operate rest

/-- The text that a reaction of the engine to an expression gives. -/
def textOf : Except Raised Value → Except Raised String
  | .error raised => .error (asFault (.plain · Category.script) raised)
  | .ok (.text reply) => .ok reply
  | .ok reply => .error (.fault (replyFault reply))

/-- What comes of executing the script of a name, by what the engine raises. -/
def executionOf (name : String) : Option Raised → Except Raised Unit
  | some raised => .error (asFault (scriptFault name) raised)
  | none => .ok ()

theorem textOf_eq_ok_iff {reaction : Except Raised Value} {text : String} :
    textOf reaction = .ok text ↔ reaction = .ok (.text text) := by
  rcases reaction with raised | reply
  · simp [textOf]
  · cases reply <;> simp [textOf]

/-- What an operation can do to a handle that is fresh, holds an interpreter or was released. -/
inductive Performing : Session → Handle → Operation → Handle →
    Except Raised (Option String) → Session → Prop
  /-- The interpreter cannot be created. -/
  | uncreated {s : Session} {operation : Operation} (raised : Raised)
      (hneeds : operation.creates) (hcreate : s.collaborators.create s.created = some raised) :
      Performing s uninitialized operation uninitialized
        (.error (asFault creationFault raised)) (Session.create s).2
  /-- The interpreter is created, and the operation performed with it. -/
  | created {s : Session} {operation : Operation} {handle' : Handle}
      {result : Except Raised (Option String)} {s' : Session} (hneeds : operation.creates)
      (hcreate : s.collaborators.create s.created = none)
      (hthen : Performing (Session.create s).2 (initialized (s.created + 1)) operation handle'
        result s') :
      Performing s uninitialized operation handle' result s'
  /-- There is nothing to evaluate an expression in. -/
  | unready {s : Session} (expression : String) :
      Performing s uninitialized (.evaluate expression) uninitialized
        (.error (.fault uninitializedFault)) s
  | ready {s : Session} (n : Nat) :
      Performing s (initialized n) .ensure (initialized n) (.ok none) s
  /-- The script cannot be read. -/
  | unread {s : Session} (n : Nat) (name : String) (raised : Raised)
      (hread : s.collaborators.read s.read name = .error raised) :
      Performing s (initialized n) (.loadResource name) (initialized n) (.error raised)
        (Session.readResource name s).2
  /-- The script is executed. -/
  | executed {s : Session} (n : Nat) (name code : String)
      (hread : s.collaborators.read s.read name = .ok code) :
      Performing s (initialized n) (.loadResource name) (initialized n)
        ((executionOf name (s.collaborators.load s.loaded)).map fun _ => none)
        (Session.load n name code (Session.readResource name s).2).2
  /-- The expression is evaluated. -/
  | evaluated {s : Session} (n : Nat) (expression : String) :
      Performing s (initialized n) (.evaluate expression) (initialized n)
        ((textOf (s.collaborators.evaluate s.evaluated expression)).map some)
        (Session.evaluate n expression s).2
  | released {s : Session} (handle : Handle) :
      Performing s handle .release handle.dispose (.ok none) s
  /-- A released handle refuses everything else. -/
  | refused {s : Session} (operation : Operation) (h : operation ≠ .release) :
      Performing s disposed operation disposed (.error (.fault .handleDisposed)) s

/-! ### Every operation is listed -/

theorem perform_ensure (handle : Handle) (s : Session) :
    handle.perform .ensure s =
      (((handle.ensure s).1.1, (handle.ensure s).1.2.map fun _ => none), (handle.ensure s).2) := rfl

theorem perform_loadResource (handle : Handle) (name : String) (s : Session) :
    handle.perform (.loadResource name) s =
      (((handle.loadResource name s).1.1, (handle.loadResource name s).1.2.map fun _ => none),
        (handle.loadResource name s).2) := rfl

/-- Evaluating in an interpreter is one call of the engine. -/
theorem evaluate_initialized (n : Nat) (expression : String) (s : Session) :
    (initialized n).evaluate expression s =
      (textOf (s.collaborators.evaluate s.evaluated expression),
        (Session.evaluate n expression s).2) := by
  have hreaction : (Session.evaluate n expression s).1 =
      s.collaborators.evaluate s.evaluated expression := rfl
  simp only [evaluate, initialized, SessionM.bind_apply, hreaction]
  rcases s.collaborators.evaluate s.evaluated expression with raised | reply
  · rfl
  · cases reply <;> rfl

private theorem perform_spec_initialized (n : Nat) (operation : Operation) (s : Session) :
    Performing s (initialized n) operation ((initialized n).perform operation s).1.1
      ((initialized n).perform operation s).1.2 ((initialized n).perform operation s).2 := by
  cases operation with
  | ensure => exact .ready n
  | loadResource name =>
    rw [perform_loadResource, loadResource_initialized]
    cases hread : s.collaborators.read s.read name with
    | error raised =>
      rw [execute_unread hread]
      exact .unread n name raised hread
    | ok code =>
      rw [execute_read hread]
      exact .executed n name code hread
  | evaluate expression =>
    have hperform : (initialized n).perform (.evaluate expression) s =
        ((initialized n, (textOf (s.collaborators.evaluate s.evaluated expression)).map some),
          (Session.evaluate n expression s).2) := by
      simp only [perform, SessionM.bind_apply, SessionM.pure_apply, evaluate_initialized]
    rw [hperform]
    exact .evaluated n expression
  | release => exact .released (initialized n)

private theorem perform_spec_uninitialized (operation : Operation) (s : Session) :
    Performing s uninitialized operation (uninitialized.perform operation s).1.1
      (uninitialized.perform operation s).1.2 (uninitialized.perform operation s).2 := by
  cases operation with
  | ensure =>
    rw [perform_ensure]
    cases hcreate : s.collaborators.create s.created with
    | some raised =>
      rw [ensure_uninitialized_error hcreate]
      exact .uncreated raised rfl hcreate
    | none =>
      rw [ensure_uninitialized_ok hcreate]
      exact .created rfl hcreate (.ready _)
  | loadResource name =>
    cases hcreate : s.collaborators.create s.created with
    | some raised =>
      rw [perform_loadResource, loadResource_uninitialized_error name hcreate]
      exact .uncreated raised rfl hcreate
    | none =>
      have hthen := perform_spec_initialized (s.created + 1) (.loadResource name)
        (Session.create s).2
      rw [perform_loadResource] at hthen ⊢
      rw [loadResource_uninitialized_ok name hcreate]
      exact .created rfl hcreate hthen
  | evaluate expression => exact .unready expression
  | release => exact .released uninitialized

/-- A handle that is fresh, holds the interpreter that it owns, or was released. -/
inductive Keeps : Handle → Option Nat → Prop
  | uninitialized : Keeps uninitialized none
  | initialized (n : Nat) : Keeps (initialized n) (some n)
  | disposed (own? : Option Nat) : Keeps disposed own?

/-- Operations on such a handle do nothing that is not listed. -/
theorem perform_spec {handle : Handle} {own? : Option Nat} (h : handle.Keeps own?)
    (operation : Operation) (s : Session) :
    Performing s handle operation (handle.perform operation s).1.1
      (handle.perform operation s).1.2 (handle.perform operation s).2 := by
  cases h with
  | uninitialized => exact perform_spec_uninitialized operation s
  | initialized n => exact perform_spec_initialized n operation s
  | disposed =>
    cases operation with
    | release => exact .released disposed
    | ensure => exact .refused .ensure nofun
    | loadResource name => exact .refused (.loadResource name) nofun
    | evaluate expression => exact .refused (.evaluate expression) nofun

/-! ### What a sequence of operations keeps -/

/-- The handle was fresh in the session `s`, and took operations up to the session `s'`. -/
def Alive (s : Session) (handle : Handle) (s' : Session) : Prop :=
  ∃ new own?, s'.events = s.events ++ new ∧ Owned new own? ∧ handle.Keeps own?

namespace Alive

variable {s s₁ s' : Session} {handle handle' : Handle} {e : Event}

theorem new (s : Session) : Alive s uninitialized s :=
  ⟨[], none, (List.append_nil _).symm, .nil, .uninitialized⟩

/-- One more event. -/
theorem concat (h : Alive s handle s₁) (hevents : s'.events = s₁.events ++ [e])
    (hnext : ∀ new own?, Owned new own? → handle.Keeps own? →
      ∃ own?', Owned (new ++ [e]) own?' ∧ handle'.Keeps own?') : Alive s handle' s' := by
  obtain ⟨new, own?, hnew, howned, hkeeps⟩ := h
  obtain ⟨own?', howned', hkeeps'⟩ := hnext new own? howned hkeeps
  exact ⟨new ++ [e], own?', by rw [hevents, hnew, List.append_assoc], howned', hkeeps'⟩

/-- One more event that neither creates nor uses an interpreter. -/
theorem concat_idle (h : Alive s handle s₁) (hevents : s'.events = s₁.events ++ [e])
    (hcreated : e.created? = none) (hused : e.used? = none) : Alive s handle s' :=
  h.concat hevents fun _ own? howned hkeeps =>
    ⟨own?, howned.concat_idle hcreated hused, hkeeps⟩

/-- A fresh handle creates its interpreter. -/
theorem concat_create (h : Alive s uninitialized s₁) {n : Nat}
    (hevents : s'.events = s₁.events ++ [.create n true]) : Alive s (initialized n) s' :=
  h.concat hevents fun _ _ howned hkeeps => by
    cases hkeeps
    exact ⟨some n, howned.concat_create n, .initialized n⟩

/-- A handle uses the interpreter that it holds. -/
theorem concat_use {n : Nat} (h : Alive s (initialized n) s₁)
    (hevents : s'.events = s₁.events ++ [e]) (hcreated : e.created? = none)
    (hused : e.used? = some n) : Alive s (initialized n) s' :=
  h.concat hevents fun _ _ howned hkeeps => by
    cases hkeeps
    exact ⟨some n, howned.concat_use hcreated hused, .initialized n⟩

theorem dispose (h : Alive s handle s₁) : Alive s handle.dispose s₁ := by
  obtain ⟨new, own?, hnew, howned, hkeeps⟩ := h
  have hdisposed : handle.dispose = disposed := by cases hkeeps <;> rfl
  exact ⟨new, own?, hnew, howned, hdisposed ▸ .disposed own?⟩

end Alive

/-- An operation keeps a handle alive. -/
theorem Performing.alive {s₀ s s' : Session} {handle handle' : Handle} {operation : Operation}
    {result : Except Raised (Option String)}
    (h : Performing s handle operation handle' result s') (ha : Alive s₀ handle s) :
    Alive s₀ handle' s' := by
  induction h with
  | @uncreated s operation raised hneeds hcreate =>
    have hevents : (Session.create s).2.events = s.events ++ [.create (s.created + 1) false] := by
      simp [Session.create, Session.after, hcreate]
    exact ha.concat_idle hevents rfl rfl
  | @created s operation handle' result s' hneeds hcreate hthen ih =>
    have hevents : (Session.create s).2.events = s.events ++ [.create (s.created + 1) true] := by
      simp [Session.create, Session.after, hcreate]
    exact ih (ha.concat_create hevents)
  | unread => exact ha.concat_idle rfl rfl rfl
  | @executed s n name code hread =>
    have hread : Alive s₀ (initialized n) (Session.readResource name s).2 :=
      ha.concat_idle rfl rfl rfl
    exact hread.concat_use rfl rfl rfl
  | evaluated => exact ha.concat_use rfl rfl rfl
  | released => exact ha.dispose
  | unready | ready | refused => exact ha

theorem Alive.perform {s s₁ : Session} {handle : Handle} (h : Alive s handle s₁)
    (operation : Operation) :
    Alive s (handle.perform operation s₁).1.1 (handle.perform operation s₁).2 := by
  have halive := h
  obtain ⟨_, _, _, _, hkeeps⟩ := h
  exact (perform_spec hkeeps operation s₁).alive halive

/-! ### What is promised of an operation -/

/-- The ways in which a stage can change. -/
inductive Stage.Moves : Stage → Stage → Prop
  | stay (stage : Stage) : Moves stage stage
  | create : Moves .uninitialized .initialized
  | dispose (stage : Stage) : Moves stage .disposed

/-- The operation creates the interpreter of a handle that has none. -/
def Operation.Creates (operation : Operation) (handle : Handle) (s : Session) : Prop :=
  operation.creates ∧ handle.stage = .uninitialized ∧ s.collaborators.create s.created = none

/-- What is promised of an operation on a handle in a session. -/
structure Operation.Sound (operation : Operation) (handle : Handle) (s : Session) : Prop where
  moves : Stage.Moves handle.stage (handle.perform operation s).1.1.stage
  /-- An interpreter that is created is held, also if the script then fails. -/
  created : operation.Creates handle s →
    (handle.perform operation s).1.1 = initialized (s.created + 1)
  /-- Nothing else remains of a failure. -/
  failure : ∀ raised, (handle.perform operation s).1.2 = .error raised →
    (handle.perform operation s).1.1 = handle ∨
      (∃ name, operation = .loadResource name) ∧ operation.Creates handle s
  unready : ∀ expression, operation = .evaluate expression → handle.stage = .uninitialized →
    handle.perform operation s =
      ((handle, .error (.fault (.interpreter "Interpreter handle is not initialized" none
        "Engine error"))), s)
  /-- An evaluation gives the text that the engine gives. -/
  text : ∀ expression, operation = .evaluate expression →
    ∀ value, (handle.perform operation s).1.2 = .ok value →
      ∃ text, value = some text ∧
        s.collaborators.evaluate s.evaluated expression = .ok (.text text)
  /-- A released handle does not change, and nobody else is asked. -/
  disposed : handle.stage = .disposed →
    handle.perform operation s =
      ((handle, if operation = .release then .ok none else .error (.fault .handleDisposed)), s)

theorem Stage.Moves.trans {a b c : Stage} (h : Moves a b) (h' : Moves b c) : Moves a c := by
  cases h' with
  | stay => exact h
  | dispose => exact .dispose a
  | create => cases h with | stay => exact .create

section Promises

variable {handle handle' : Handle} {operation : Operation}
  {result : Except Raised (Option String)} {s s' : Session}

theorem stage_dispose (handle : Handle) : handle.dispose.stage = .disposed := by
  rcases handle with ⟨_ | _ | _, interpreter?⟩ <;> rfl

theorem Performing.moves (h : Performing s handle operation handle' result s') :
    Stage.Moves handle.stage handle'.stage := by
  induction h with
  | created _ _ _ ih => exact Stage.Moves.create.trans ih
  | released handle => exact stage_dispose handle ▸ .dispose _
  | _ => exact .stay _

/-- Apart from a release, a handle that holds an interpreter stays as it is. -/
theorem Performing.eq_of_initialized {n : Nat}
    (h : Performing s (initialized n) operation handle' result s') (hop : operation ≠ .release) :
    handle' = initialized n := by
  generalize hhandle : initialized n = handle at h
  cases h with
  | ready | unread | executed | evaluated => rfl
  | released => exact absurd rfl hop
  | uncreated | created | unready | refused => cases hhandle

theorem Performing.eq_of_creates (h : Performing s handle operation handle' result s')
    (hcreates : operation.Creates handle s) : handle' = initialized (s.created + 1) := by
  obtain ⟨hneeds, hstage, hcreate⟩ := hcreates
  cases h with
  | uncreated _ _ hfails => exact absurd (hfails.symm.trans hcreate) nofun
  | created _ _ hthen =>
    exact hthen.eq_of_initialized fun hrelease => by simp [hrelease, Operation.creates] at hneeds
  | unready | released => exact nomatch hneeds
  | ready | unread | executed | evaluated | refused => exact nomatch hstage

/-- Only loading a script can fail after an interpreter was created. -/
theorem Performing.eq_of_error {raised : Raised}
    (h : Performing s handle operation handle' (.error raised) s') :
    handle' = handle ∨
      (∃ name, operation = .loadResource name) ∧ operation.Creates handle s := by
  generalize hresult : Except.error raised = result at h
  cases h with
  | created hneeds hcreate hthen =>
    refine .inr ⟨?_, hneeds, rfl, hcreate⟩
    cases operation with
    | loadResource name => exact ⟨name, rfl⟩
    | ensure =>
      cases hthen with
      | ready => exact nomatch hresult
    | evaluate | release => exact nomatch hneeds
  | released => exact nomatch hresult
  | _ => exact .inl rfl

/-- An evaluation that succeeds gives the text that the engine gave. -/
theorem Performing.text_of_ok {expression : String} {value : Option String}
    (h : Performing s handle (.evaluate expression) handle' (.ok value) s') :
    ∃ text, value = some text ∧
      s.collaborators.evaluate s.evaluated expression = .ok (.text text) := by
  generalize hresult : Except.ok value = result at h
  cases h with
  | evaluated =>
    cases htext : textOf (s.collaborators.evaluate s.evaluated expression) with
    | error raised => simp [htext, Except.map] at hresult
    | ok text =>
      refine ⟨text, ?_, textOf_eq_ok_iff.mp htext⟩
      simpa [htext, Except.map] using hresult
  | created hneeds => exact nomatch hneeds
  | uncreated | unready | refused => exact nomatch hresult

end Promises

theorem perform_disposed (operation : Operation) (s : Session) :
    disposed.perform operation s =
      ((disposed, if operation = .release then .ok none else .error (.fault .handleDisposed)),
        s) := by
  cases operation <;> rfl

theorem perform_evaluate_uninitialized (expression : String) (s : Session) :
    uninitialized.perform (.evaluate expression) s =
      ((uninitialized, .error (.fault uninitializedFault)), s) := rfl

/-- Operations on a handle that is fresh, holds an interpreter or was released are sound. -/
theorem Keeps.sound {handle : Handle} {own? : Option Nat} (h : handle.Keeps own?)
    (operation : Operation) (s : Session) : operation.Sound handle s := by
  have hspec := perform_spec h operation s
  refine ⟨hspec.moves, hspec.eq_of_creates, fun raised hraised => ?_, ?_, ?_, ?_⟩
  · exact (hraised ▸ hspec).eq_of_error
  · rintro expression rfl hstage
    cases h with
    | uninitialized => exact perform_evaluate_uninitialized expression s
    | initialized | disposed => exact nomatch hstage
  · rintro expression rfl value hvalue
    exact (hvalue ▸ hspec).text_of_ok
  · intro hstage
    cases h with
    | disposed => exact perform_disposed operation s
    | uninitialized | initialized => exact nomatch hstage

/-! ### Sequences of operations -/

/-- What each operation keeps is kept by a sequence of operations. -/
theorem operate_induction {motive : Handle → Session → Prop}
    (hstep : ∀ handle s operation, motive handle s →
      motive (handle.perform operation s).1.1 (handle.perform operation s).2)
    (operations : List Operation) {handle : Handle} {s : Session} (h : motive handle s) :
    motive (handle.operate operations s).1 (handle.operate operations s).2 := by
  induction operations generalizing handle s with
  | nil => exact h
  | cons first rest ih => exact ih (hstep handle s first h)

/-- A fresh handle stays alive along a sequence of operations. -/
theorem operate_alive (operations : List Operation) (s : Session) :
    Alive s (uninitialized.operate operations s).1 (uninitialized.operate operations s).2 :=
  operate_induction (motive := Alive s) (fun _ _ operation h => h.perform operation) operations
    (.new s)

theorem operate_disposed (operations : List Operation) (s : Session) :
    disposed.operate operations s = (disposed, s) := by
  induction operations with
  | nil => rfl
  | cons first rest ih => simp only [operate, SessionM.bind_apply, perform_disposed, ih]

/-- A handle that has been released stays so. -/
theorem operate_release {operations : List Operation} (h : .release ∈ operations)
    {handle : Handle} {s₀ s : Session} (halive : Alive s₀ handle s) :
    (handle.operate operations s).1 = disposed := by
  induction operations generalizing handle s with
  | nil => exact nomatch h
  | cons first rest ih =>
    have hoperate : handle.operate (first :: rest) s =
        (handle.perform first s).1.1.operate rest (handle.perform first s).2 := rfl
    rw [hoperate]
    rcases List.mem_cons.mp h with rfl | hrest
    · have hdispose : (handle.perform .release s).1.1 = disposed := by
        obtain ⟨_, _, _, _, hkeeps⟩ := halive
        cases hkeeps <;> rfl
      rw [hdispose, operate_disposed]
    · exact ih hrest (halive.perform first)

theorem Keeps.interpreter?_ne_none_iff {handle : Handle} {own? : Option Nat}
    (h : handle.Keeps own?) : handle.interpreter? ≠ none ↔ handle.stage = .initialized := by
  cases h with
  | uninitialized | disposed => exact iff_of_false (· rfl) nofun
  | initialized n => exact iff_of_true nofun rfl

/-- A handle that holds an interpreter owns it. -/
theorem Keeps.eq_of_interpreter? {handle : Handle} {own? : Option Nat} {n : Nat}
    (h : handle.Keeps own?) (hn : handle.interpreter? = some n) : own? = some n := by
  cases h with
  | uninitialized | disposed => exact nomatch hn
  | initialized => exact hn

/-- The life of a handle, after any sequence of operations on it, whatever the engine and the reader
of scripts raise. The handle holds an interpreter exactly if it is initialized, and it is released
once there was a release. At most one interpreter was created; it is the one that the handle holds,
and scripts were executed and expressions evaluated only in it. Of any further operation all
promises hold. -/
theorem life_of_handle (history : List Operation) (s : Session) :
    let handle := (uninitialized.operate history s).1
    let s' := (uninitialized.operate history s).2
    (handle.interpreter? ≠ none ↔ handle.stage = .initialized) ∧
      (.release ∈ history → handle.stage = .disposed) ∧
      (∃ new, s'.events = s.events ++ new ∧ (creations new).length ≤ 1 ∧
        (∀ n, handle.interpreter? = some n → creations new = [n]) ∧
        ∀ before e after n, new = before ++ e :: after → e.used? = some n →
          creations before = [n]) ∧
      ∀ operation : Operation, operation.Sound handle s' := by
  intro handle s'
  obtain ⟨new, own?, hnew, howned, hkeeps⟩ := operate_alive history s
  refine ⟨hkeeps.interpreter?_ne_none_iff, fun hrelease => ?_,
    ⟨new, hnew, howned.length_le_one, fun n hn => ?_, howned.uses⟩,
    fun operation => hkeeps.sound operation s'⟩
  · exact congrArg Handle.stage (operate_release hrelease (.new s))
  · rw [howned.creations, hkeeps.eq_of_interpreter? hn]
    rfl

end Handle

end CoffeeHost
