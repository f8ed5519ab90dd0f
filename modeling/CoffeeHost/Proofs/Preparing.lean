import CoffeeHost.Compiler
import CoffeeHost.Proofs.SessionLog
/-!
# What preparing an interpreter does

To start, a compiler asks its factory for a handle and loads the scripts of the load order. This
file says what each part of that does to the session. A handle that is started gets an interpreter
with a number of its own, and all that happens up to the end of the preparation happens in a
stretch above the interpreters that were there before.

## Main results

* `Lease.loading` — loading the scripts, whatever the stage of the handle.
* `Factory.obtain_spec` — what a factory hands out.
* `Compiler.prepare_spec` — the whole preparation.
-/

namespace CoffeeHost

open Session (Stretch)

variable {base : Nat} {s : Session}

/-! ### Handles -/

namespace Handle

/-- A handle that has no interpreter, or one with a number above `base` and up to `top`. -/
def Within (base top : Nat) (handle : Handle) : Prop :=
  handle = uninitialized ∨ handle = disposed ∨
    ∃ n, handle = initialized n ∧ Between base top (some n)

theorem Within.between {base top : Nat} {handle : Handle} (h : handle.Within base top) :
    Between base top handle.interpreter? := by
  rcases h with rfl | rfl | ⟨n, rfl, hn⟩
  · exact .none _ _
  · exact .none _ _
  · exact hn

theorem ensure_uninitialized_ok (h : s.collaborators.create s.created = none) :
    uninitialized.ensure s = ((initialized (s.created + 1), .ok ()), (Session.create s).2) := by
  simp [ensure, uninitialized, Session.create, Session.resultOf, h]

theorem ensure_uninitialized_error {raised : Raised}
    (h : s.collaborators.create s.created = some raised) :
    uninitialized.ensure s =
      ((uninitialized, .error (asFault creationFault raised)), (Session.create s).2) := by
  simp [ensure, uninitialized, Session.create, Session.resultOf, h]

theorem execute_unread {n : Nat} {name : String} {raised : Raised}
    (h : s.collaborators.read s.read name = .error raised) :
    execute (some n) name s = (.error raised, (Session.readResource name s).2) := by
  have hread : (Session.readResource name s).1 = .error raised := h
  simp only [execute, SessionM.bind_apply, hread, SessionM.pure_apply]

/-- Once the script is read, all depends on its execution. -/
theorem execute_read {n : Nat} {name code : String}
    (h : s.collaborators.read s.read name = .ok code) :
    execute (some n) name s =
      ((match s.collaborators.load s.loaded with
        | some raised => .error (asFault (scriptFault name) raised)
        | none => .ok ()), (Session.load n name code (Session.readResource name s).2).2) := by
  have hread : (Session.readResource name s).1 = .ok code := h
  simp only [execute, SessionM.bind_apply, hread]
  cases hload : s.collaborators.load s.loaded with
  | some raised =>
    have hraised : (Session.load n name code (Session.readResource name s).2).1 =
        .error raised := congrArg (Session.resultOf ()) hload
    simp only [hraised, SessionM.pure_apply]
  | none =>
    have hdone : (Session.load n name code (Session.readResource name s).2).1 = .ok () :=
      congrArg (Session.resultOf ()) hload
    simp only [hdone, SessionM.pure_apply]

theorem execute_done {n : Nat} {name code : String}
    (hread : s.collaborators.read s.read name = .ok code)
    (hload : s.collaborators.load s.loaded = none) :
    execute (some n) name s =
      (.ok (), (Session.load n name code (Session.readResource name s).2).2) := by
  rw [execute_read hread, hload]

/-- Executing a script is a stretch above any number below that of the interpreter. -/
theorem execute_stretch {n : Nat} (name : String) (hn : Between base s.created (some n)) :
    Stretch base s (execute (some n) name s).2 := by
  have hread := Session.stretch_readResource base name s
  cases h : s.collaborators.read s.read name with
  | error raised => rwa [execute_unread h]
  | ok code =>
    rw [execute_read h]
    exact hread.trans (Session.stretch_load name code hn)

/-- A script is executed with the text that was read, if executing it succeeds. -/
theorem execute_ok {n : Nat} {name : String} (h : (execute (some n) name s).1 = .ok ()) :
    ∃ execution, ExecutedAsRead s.collaborators name execution ∧
      executions n (execute (some n) name s).2.events = executions n s.events ++ [execution] := by
  cases hread : s.collaborators.read s.read name with
  | error raised => simp [execute_unread hread] at h
  | ok code =>
    rw [execute_read hread] at h ⊢
    cases hload : s.collaborators.load s.loaded with
    | some raised => simp [hload] at h
    | none =>
      refine ⟨(name, code, true), ⟨s.read, code, hread, rfl⟩, ?_⟩
      simp [Session.load, Session.readResource, Session.after, hload, executions,
        Event.executionIn?, List.filterMap_cons]

theorem loadResource_initialized (n : Nat) (name : String) (s : Session) :
    (initialized n).loadResource name s =
      ((initialized n, (execute (some n) name s).1), (execute (some n) name s).2) := rfl

theorem loadResource_disposed (name : String) (s : Session) :
    disposed.loadResource name s = ((disposed, .error (.fault .handleDisposed)), s) := rfl

/-- A handle without an interpreter first creates one, if that succeeds. -/
theorem loadResource_uninitialized_ok (name : String)
    (h : s.collaborators.create s.created = none) :
    uninitialized.loadResource name s =
      (initialized (s.created + 1)).loadResource name (Session.create s).2 := by
  rw [loadResource, SessionM.bind_apply, ensure_uninitialized_ok h]
  rfl

theorem loadResource_uninitialized_error (name : String) {raised : Raised}
    (h : s.collaborators.create s.created = some raised) :
    uninitialized.loadResource name s =
      ((uninitialized, .error (asFault creationFault raised)), (Session.create s).2) := by
  rw [loadResource, SessionM.bind_apply, ensure_uninitialized_error h]
  rfl

end Handle

/-! ### Leases -/

namespace Lease

variable {lease : Lease} {n : Nat} {names : List String}

theorem loadAll_cons (lease : Lease) (name : String) (rest : List String) (s : Session) :
    lease.loadAll (name :: rest) s =
      match lease.handle.loadResource name s with
      | ((handle, .error raised), s') => (({ lease with handle }, .error raised), s')
      | ((handle, .ok ()), s') =>
        ({ lease with handle } : Lease).loadAll rest
          (Session.say s!"Loaded resource {name}" s').2 := by
  rw [loadAll, SessionM.bind_apply]
  rcases lease.handle.loadResource name s with ⟨⟨handle, raised | ⟨⟩⟩, s'⟩ <;> rfl

/-- A handle that holds an interpreter keeps it, and loading is a stretch. -/
theorem loadAll_initialized (h : lease.handle = .initialized n) (names : List String)
    (hn : Between base s.created (some n)) :
    (lease.loadAll names s).1.1 = lease ∧ Stretch base s (lease.loadAll names s).2 := by
  induction names generalizing s with
  | nil => exact ⟨rfl, .refl base s⟩
  | cons name rest ih =>
    have hexec := Handle.execute_stretch name hn
    have hkeep : { lease with handle := .initialized n } = lease := by rw [← h]
    rw [loadAll_cons, h, Handle.loadResource_initialized]
    cases (Handle.execute (some n) name s).1 with
    | error raised => exact ⟨hkeep, hexec⟩
    | ok =>
      have hsaid := hexec.trans (Session.stretch_say s!"Loaded resource {name}" _ base)
      simp only [hkeep]
      obtain ⟨hlease, hrest⟩ := ih (hn.mono le_rfl hsaid.created)
      exact ⟨hlease, hsaid.trans hrest⟩

/-- If loading succeeds, the scripts were executed in their order, and no others. -/
theorem loadAll_initialized_ok (h : lease.handle = .initialized n)
    (hn : Between base s.created (some n)) (hok : (lease.loadAll names s).1.2 = .ok ()) :
    ∃ new, List.Forall₂ (ExecutedAsRead s.collaborators) names new ∧
      executions n (lease.loadAll names s).2.events = executions n s.events ++ new := by
  induction names generalizing s with
  | nil => exact ⟨[], .nil, by simp [loadAll]⟩
  | cons name rest ih =>
    have hkeep : { lease with handle := .initialized n } = lease := by rw [← h]
    have hstretch := Handle.execute_stretch name hn
    rw [loadAll_cons, h, Handle.loadResource_initialized] at hok ⊢
    cases hexec : (Handle.execute (some n) name s).1 with
    | error raised => simp [hexec] at hok
    | ok =>
      obtain ⟨execution, hread, hlog⟩ := Handle.execute_ok hexec
      simp only [hexec, hkeep] at hok ⊢
      obtain ⟨new, hnew, hrest⟩ := ih (hn.mono le_rfl (by simpa using hstretch.created)) hok
      refine ⟨execution :: new, .cons hread ?_, ?_⟩
      · simpa [hstretch.collaborators] using hnew
      · simp [hrest, hlog]

/-- A handle without an interpreter either keeps failing to get one, or first creates one. -/
theorem loadAll_uninitialized (h : lease.handle = .uninitialized) (name : String)
    (rest : List String) (s : Session) :
    (∃ raised, lease.loadAll (name :: rest) s =
        ((lease, .error (Handle.asFault Handle.creationFault raised)), (Session.create s).2) ∧
        s.collaborators.create s.created = some raised) ∨
      lease.loadAll (name :: rest) s =
        ({ lease with handle := .initialized (s.created + 1) } : Lease).loadAll (name :: rest)
          (Session.create s).2 := by
  have hkeep : { lease with handle := .uninitialized } = lease := by rw [← h]
  cases hcreate : s.collaborators.create s.created with
  | some raised =>
    refine .inl ⟨raised, ?_, rfl⟩
    rw [loadAll_cons, h, Handle.loadResource_uninitialized_error name hcreate]
    simp only [hkeep]
  | none =>
    right
    rw [loadAll_cons, loadAll_cons, h, Handle.loadResource_uninitialized_ok name hcreate]

theorem loadAll_disposed (h : lease.handle = .disposed) (name : String) (rest : List String)
    (s : Session) :
    lease.loadAll (name :: rest) s = ((lease, .error (.fault .handleDisposed)), s) := by
  have hkeep : { lease with handle := .disposed } = lease := by rw [← h]
  rw [loadAll_cons, h, Handle.loadResource_disposed]
  simp only [hkeep]

/-- What loading scripts in a lease leaves: it is a stretch, it changes nothing of the lease but
its handle, and if it succeeds, the handle holds an interpreter in which the scripts were
executed. -/
structure Loading (base : Nat) (lease : Lease) (names : List String) (s : Session)
    (lease' : Lease) (result : Except Raised Unit) (s' : Session) : Prop where
  stretch : Stretch base s s'
  within : lease'.handle.Within base s'.created
  same : lease' = { lease with handle := lease'.handle }
  ok : result = .ok () → ∃ n new, lease'.handle = .initialized n ∧
    List.Forall₂ (ExecutedAsRead s.collaborators) names new ∧
    executions n s'.events = executions n s.events ++ new

theorem loading_initialized (h : lease.handle = .initialized n)
    (hn : Between base s.created (some n)) (names : List String) :
    Loading base lease names s (lease.loadAll names s).1.1 (lease.loadAll names s).1.2
      (lease.loadAll names s).2 := by
  obtain ⟨hlease, hstretch⟩ := loadAll_initialized h names hn
  rw [hlease]
  refine ⟨hstretch, .inr (.inr ⟨n, h, hn.mono le_rfl hstretch.created⟩), rfl, fun hok => ?_⟩
  obtain ⟨new, hnew, hlog⟩ := loadAll_initialized_ok h hn hok
  exact ⟨n, new, h, hnew, hlog⟩

/-- Loading at least one script in a lease whose handle may still need its interpreter. -/
theorem loading (hb : base ≤ s.created) (hhandle : lease.handle.Within base s.created)
    (name : String) (rest : List String) :
    Loading base lease (name :: rest) s (lease.loadAll (name :: rest) s).1.1
      (lease.loadAll (name :: rest) s).1.2 (lease.loadAll (name :: rest) s).2 := by
  rcases hhandle with h | h | ⟨n, h, hn⟩
  · have hcreate := Session.stretch_create hb
    rcases loadAll_uninitialized h name rest s with ⟨raised, hall, -⟩ | hall
    · rw [hall]
      exact ⟨hcreate, .inl h, rfl, nofun⟩
    · have hholds : ({ lease with handle := .initialized (s.created + 1) } : Lease).handle =
        .initialized (s.created + 1) := rfl
      obtain ⟨hstretch, hwithin, hsame, hok⟩ :=
        loading_initialized hholds (Session.between_create hb) (name :: rest)
      rw [hall]
      refine ⟨hcreate.trans hstretch, hwithin, hsame, fun hdone => ?_⟩
      obtain ⟨n, new, hhandle, hnew, hlog⟩ := hok hdone
      -- Creating the interpreter executed nothing in it.
      have hcreated : executions n (Session.create s).2.events = executions n s.events :=
        executions_concat s.events rfl
      exact ⟨n, new, hhandle, hnew, by rw [hlog, hcreated]⟩
  · rw [loadAll_disposed h]
    exact ⟨.refl base s, .inr (.inl h), rfl, nofun⟩
  · exact loading_initialized h hn (name :: rest)

end Lease

/-! ### Factories -/

theorem Condition.handle_started {s s' : Session} {handle : Handle} {result : Except Raised Unit}
    (h : Handle.ensure .uninitialized s = ((handle, result), s')) :
    (⟨false, true⟩ : Condition).handle s = (result.map fun _ => handle, s') := by
  cases result <;> simp [Condition.handle, h, Except.map]

/-- A handle of a factory is fresh, or was given back, or holds an interpreter of its own. No
script was executed in it. -/
theorem Condition.handle_spec (condition : Condition) (s : Session) :
    Stretch s.created s (condition.handle s).2 ∧
      (∀ n, executions n (condition.handle s).2.events = executions n s.events) ∧
      ∀ handle, (condition.handle s).1 = .ok handle →
        handle.Within s.created (condition.handle s).2.created := by
  obtain ⟨_ | _, _ | _⟩ := condition
  · exact ⟨.refl _ s, fun _ => rfl, fun handle h => .inl (Except.ok.inj h).symm⟩
  · have hcreate := Session.stretch_create (le_refl s.created)
    have hlog (n : Nat) : executions n (Session.create s).2.events = executions n s.events :=
      executions_concat s.events rfl
    cases hraised : s.collaborators.create s.created with
    | some raised =>
      rw [handle_started (Handle.ensure_uninitialized_error hraised)]
      exact ⟨hcreate, hlog, nofun⟩
    | none =>
      rw [handle_started (Handle.ensure_uninitialized_ok hraised)]
      exact ⟨hcreate, hlog, fun handle h =>
        .inr (.inr ⟨_, (Except.ok.inj h).symm, Session.between_create le_rfl⟩)⟩
  · exact ⟨.refl _ s, fun _ => rfl, fun handle h => .inr (.inl (Except.ok.inj h).symm)⟩
  · exact ⟨.refl _ s, fun _ => rfl, nofun⟩

namespace Factory

variable {factory : Factory} {condition : Condition} {releaseRaises : Option Raised}

theorem obtain_raises {raised : Raised} (h : factory s.requested = .raises raised) :
    factory.obtain s = (.error raised, (Session.request s).2) := by
  simp [obtain, Session.request, h]

theorem obtain_hands (h : factory s.requested = .hands condition releaseRaises) :
    factory.obtain s =
      match condition.handle (Session.request s).2 with
      | (.error raised, s') => (.error raised, s')
      | (.ok handle, s') =>
        (.ok ⟨s.requested + 1, handle, releaseRaises⟩,
          (Session.note (.handOut (s.requested + 1)) s').2) := by
  have hnumber : (Session.request s).1 = s.requested + 1 := rfl
  simp only [obtain, SessionM.bind_apply, hnumber, Nat.add_sub_cancel, h]
  rcases condition.handle (Session.request s).2 with ⟨raised | handle, s'⟩ <;> rfl

/-- What a factory hands out is a lease with the number of the request. No script was executed in
its interpreter. -/
theorem obtain_spec (factory : Factory) (s : Session) :
    Stretch s.created s (factory.obtain s).2 ∧
      (∀ n, executions n (factory.obtain s).2.events = executions n s.events) ∧
      ∀ lease, (factory.obtain s).1 = .ok lease →
        lease.handle.Within s.created (factory.obtain s).2.created ∧
        lease.number = s.requested + 1 ∧
        ∃ condition, factory s.requested = .hands condition lease.releaseRaises := by
  have hrequest := Session.stretch_request s.created s
  have hasked (n : Nat) : executions n (Session.request s).2.events = executions n s.events :=
    executions_concat s.events rfl
  cases h : factory s.requested with
  | raises raised =>
    rw [obtain_raises h]
    exact ⟨hrequest, hasked, nofun⟩
  | hands condition releaseRaises =>
    rw [obtain_hands h]
    obtain ⟨hstretch, hlog, hwithin⟩ := condition.handle_spec (Session.request s).2
    rcases hrun : condition.handle (Session.request s).2 with ⟨raised | handle, s'⟩ <;>
      simp only [hrun] at hstretch hlog hwithin ⊢
    · exact ⟨hrequest.trans hstretch, fun n => (hlog n).trans (hasked n), nofun⟩
    · refine ⟨(hrequest.trans hstretch).trans (Session.stretch_handOut _ _ s'), fun n => ?_, ?_⟩
      · exact ((executions_concat s'.events rfl).trans (hlog n)).trans (hasked n)
      · rintro _ ⟨⟩
        exact ⟨hwithin handle rfl, rfl, condition, rfl⟩

end Factory

/-! ### The whole preparation -/

namespace Compiler

/-- What preparing a lease leaves: all of it happened in a stretch, a lease that there is was
handed out for the request, and after a success its handle holds an interpreter in which the
scripts were executed. -/
structure Preparing (factory : Factory) (s : Session) (lease? : Option Lease)
    (result : Except Raised Unit) (s' : Session) : Prop where
  stretch : Stretch s.created s s'
  lease : ∀ lease, lease? = some lease →
    lease.handle.Within s.created s'.created ∧ lease.number = s.requested + 1 ∧
      ∃ condition, factory s.requested = .hands condition lease.releaseRaises
  ok : result = .ok () → ∃ lease n new, lease? = some lease ∧ lease.handle = .initialized n ∧
    List.Forall₂ (ExecutedAsRead s.collaborators) Resource.loadOrder new ∧
    executions n s'.events = executions n s.events ++ new

theorem prepare_of_error {factory : Factory} {raised : Raised} {s₁ : Session}
    (h : factory.obtain s = (.error raised, s₁)) :
    prepare factory s = ((none, .error raised), s₁) := by
  rw [prepare, SessionM.bind_apply, h]
  rfl

theorem prepare_of_ok {factory : Factory} {lease : Lease} {s₁ : Session}
    (h : factory.obtain s = (.ok lease, s₁)) :
    prepare factory s =
      ((some (lease.loadAll Resource.loadOrder s₁).1.1,
        (lease.loadAll Resource.loadOrder s₁).1.2), (lease.loadAll Resource.loadOrder s₁).2) := by
  rw [prepare, SessionM.bind_apply, h]
  rfl

theorem prepare_spec (factory : Factory) (s : Session) :
    Preparing factory s (prepare factory s).1.1 (prepare factory s).1.2 (prepare factory s).2 := by
  obtain ⟨hobtain, hlog, hlease⟩ := factory.obtain_spec s
  rcases hrun : factory.obtain s with ⟨raised | lease, s₁⟩ <;>
    simp only [hrun] at hobtain hlog hlease
  · rw [prepare_of_error hrun]
    exact ⟨hobtain, nofun, nofun⟩
  · obtain ⟨hwithin, hnumber, hhands⟩ := hlease lease rfl
    obtain ⟨hstretch, hwithin', hsame, hok⟩ :=
      lease.loading hobtain.created hwithin Resource.library [Resource.helper]
    rw [prepare_of_ok hrun]
    refine ⟨hobtain.trans hstretch, ?_, fun hdone => ?_⟩
    · rintro lease' ⟨⟩
      refine ⟨hwithin', ?_, ?_⟩
      · exact (congrArg Lease.number hsame).trans hnumber
      · exact (congrArg Lease.releaseRaises hsame).symm ▸ hhands
    · obtain ⟨n, new, hholds, hnew, hexec⟩ := hok hdone
      exact ⟨_, n, new, rfl, hholds, hobtain.collaborators ▸ hnew, hlog n ▸ hexec⟩

end Compiler

end CoffeeHost
