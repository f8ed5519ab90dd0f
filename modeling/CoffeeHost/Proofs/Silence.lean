import CoffeeHost.Proofs.Composition
import CoffeeHost.Proofs.SessionLog
/-!
# Verbose mode is not heard

What verbose mode says is kept apart from all else in a session, and no computation asks for it. A
session is *silenced* by turning verbose mode off and forgetting what it has said. A computation is
*deaf* if it gives the same in a session and in the silenced one, and leaves sessions that differ
at most in what was said.

## Main definitions

* `Session.silenced` — a session without verbose mode.
* `SessionM.Deaf` — computations that verbose mode does not change.

## Main results

* `Compiler.prepare_deaf` — a preparation is deaf.
* `compileOnce_deaf` — a compilation with a compiler of its own is deaf.
-/

namespace CoffeeHost

/-- The session with verbose mode off and nothing said. -/
def Session.silenced (s : Session) : Session := { s with verbose := false, messages := [] }

theorem Session.say_silenced (message : String) (s : Session) :
    (Session.say message s).2.silenced = s.silenced := by
  simp only [Session.say]
  split_ifs <;> rfl

namespace SessionM

variable {α β : Type} {x : SessionM α}

/-- Verbose mode changes nothing of what the computation gives, nor of the session that it leaves
except for what was said. -/
def Deaf (x : SessionM α) : Prop :=
  ∀ s, (x s).1 = (x s.silenced).1 ∧ (x s).2.silenced = (x s.silenced).2.silenced

namespace Deaf

/-- A deaf computation does the same in sessions that differ at most in what was said. -/
theorem of_silenced_eq (h : Deaf x) {s s' : Session} (hs : s.silenced = s'.silenced) :
    (x s).1 = (x s').1 ∧ (x s).2.silenced = (x s').2.silenced := by
  rw [(h s).1, (h s).2, (h s').1, (h s').2, hs]
  exact ⟨rfl, rfl⟩

theorem bind {f : α → SessionM β} (hx : Deaf x) (hf : ∀ a, Deaf (f a)) : Deaf (x >>= f) := by
  intro s
  obtain ⟨hresult, hleft⟩ := hx s
  simp only [bind_apply, hresult]
  exact (hf _).of_silenced_eq hleft

/-- All computations are deaf that are put together from deaf ones. -/
theorem inherited : Inherited Deaf where
  pure _ := fun _ => ⟨rfl, rfl⟩
  bind := bind
  say message := fun s => ⟨rfl, by rw [Session.say_silenced, Session.say_silenced]; rfl⟩
  create := fun _ => ⟨rfl, rfl⟩
  load _ _ _ := fun _ => ⟨rfl, rfl⟩
  readResource _ := fun _ => ⟨rfl, rfl⟩
  evaluate _ _ := fun _ => ⟨rfl, rfl⟩

end Deaf

end SessionM

/-- Verbose mode changes nothing of a preparation. -/
theorem Compiler.prepare_deaf (factory : Factory) : SessionM.Deaf (prepare factory) :=
  SessionM.Deaf.inherited.prepare (fun _ => ⟨rfl, rfl⟩) (fun _ _ => ⟨rfl, rfl⟩) factory

/-- Verbose mode changes nothing of a compilation with a compiler of its own. -/
theorem compileOnce_deaf (source : Json.Value) (options : CompileOptions) :
    SessionM.Deaf (compileOnce source options) :=
  SessionM.Deaf.inherited.compileOnce (fun _ => ⟨rfl, rfl⟩) (fun _ _ => ⟨rfl, rfl⟩) source options

end CoffeeHost
