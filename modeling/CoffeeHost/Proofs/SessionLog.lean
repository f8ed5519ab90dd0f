import CoffeeHost.Resource
import CoffeeHost.Session
import Mathlib.Data.List.Forall2
import Mathlib.Order.Nat
import Mathlib.Tactic.SplitIfs
/-!
# What sessions log

The log of a session only grows. This file says what the single calls of collaborators add to it,
which interpreters the events of a log are about, and which scripts were executed in an
interpreter according to the log.

Interpreters are numbered in the order in which they are created, so an interpreter with a number
beyond `Session.created` does not occur in the log. A *stretch* of a session above a number is a
part of it that prepares interpreters: its events are about interpreters above that number only,
and neither evaluates anything nor gives a handle back.

## Main definitions

* `Event.interpreter?` — the interpreter that an event is about.
* `executions` — the scripts that were executed in an interpreter.
* `Prepared`, `GivenBack` — what the log says about an interpreter.
* `Session.Later` — a session after another.
* `Session.Stretch` — a part of a session that prepares interpreters.

## Main results

* `Session.Stretch.trans` — stretches add up.
* `Session.Stretch.executions_eq` — a stretch leaves the interpreters below it alone.
-/

namespace CoffeeHost

/-! ### Running computations -/

namespace SessionM

variable {α β : Type}

@[simp] theorem bind_apply (x : SessionM α) (f : α → SessionM β) (s : Session) :
    (x >>= f) s = f (x s).1 (x s).2 := rfl

@[simp] theorem pure_apply (a : α) (s : Session) : (pure a : SessionM α) s = (a, s) := rfl

end SessionM

/-! ### Events of interpreters -/

/-- An event of a log with one more event is the last one, or was in the log before. -/
theorem split_concat {events before after : List Event} {e last : Event}
    (h : events ++ [last] = before ++ e :: after) :
    events = before ∧ last = e ∨ ∃ after', events = before ++ e :: after' := by
  rcases List.eq_nil_or_concat after with rfl | ⟨after', last', rfl⟩
  · obtain ⟨rfl, he⟩ := List.append_inj' h rfl
    exact .inl ⟨rfl, List.singleton_inj.mp he⟩
  · have h' : events ++ [last] = (before ++ e :: after') ++ [last'] := by simpa using h
    exact .inr ⟨after', (List.append_inj' h' rfl).1⟩

namespace Event

/-- The interpreter that an event is about. -/
def interpreter? : Event → Option Nat
  | create interpreter _ => some interpreter
  | load interpreter .. => some interpreter
  | evaluate interpreter _ => some interpreter
  | giveBack _ interpreter => interpreter
  | _ => none

/-- Whether an event can occur while an interpreter is prepared. -/
def isPreparation : Event → Bool
  | evaluate .. => false
  | giveBack .. => false
  | _ => true

/-- The execution of a script in an interpreter: the name of the script, its text, and whether it
succeeded. -/
def executionIn? (interpreter : Nat) : Event → Option (String × String × Bool)
  | load number name code succeeded =>
    if number = interpreter then some (name, code, succeeded) else none
  | _ => none

theorem executionIn?_eq_none {interpreter : Nat} {e : Event}
    (h : e.interpreter? ≠ some interpreter) : e.executionIn? interpreter = none := by
  cases e with
  | load number name code succeeded =>
    have hne : number ≠ interpreter := fun hn => h (by rw [← hn]; rfl)
    simp [executionIn?, hne]
  | _ => rfl

end Event

/-- The scripts that were executed in an interpreter, in order. -/
def executions (interpreter : Nat) (events : List Event) : List (String × String × Bool) :=
  events.filterMap (Event.executionIn? interpreter)

@[simp] theorem executions_append (interpreter : Nat) (events new : List Event) :
    executions interpreter (events ++ new) =
      executions interpreter events ++ executions interpreter new :=
  List.filterMap_append

/-- No script was executed in an interpreter that no event is about. -/
theorem executions_eq_nil {interpreter : Nat} {events : List Event}
    (h : ∀ e ∈ events, e.interpreter? ≠ some interpreter) :
    executions interpreter events = [] :=
  List.filterMap_eq_nil_iff.mpr fun e he => Event.executionIn?_eq_none (h e he)

/-- An event that is no execution of a script adds none. -/
theorem executions_concat {interpreter : Nat} {e : Event} (events : List Event)
    (h : e.executionIn? interpreter = none) :
    executions interpreter (events ++ [e]) = executions interpreter events := by
  simp [executions, h]

/-- An execution is the successful one of a script with the text that the reader gave for its
name. -/
def ExecutedAsRead (collaborators : Collaborators) (name : String)
    (execution : String × String × Bool) : Prop :=
  ∃ count code, collaborators.read count name = .ok code ∧ execution = (name, code, true)

/-- The scripts of the load order were executed in an interpreter, each exactly once, with its
text as it was read, with success and in this order, and no other script was. -/
def Prepared (collaborators : Collaborators) (events : List Event) (interpreter : Nat) : Prop :=
  List.Forall₂ (ExecutedAsRead collaborators) Resource.loadOrder (executions interpreter events)

/-- The handle that holds an interpreter was given back, or giving it back was tried. -/
def GivenBack (events : List Event) (interpreter : Nat) : Prop :=
  ∃ number, Event.giveBack number (some interpreter) ∈ events

/-- The interpreter, if there is one, has a number above `base` and up to `top`. -/
def Between (base top : Nat) (interpreter? : Option Nat) : Prop :=
  ∀ n, interpreter? = some n → base < n ∧ n ≤ top

theorem Between.none (base top : Nat) : Between base top none := fun _ h => nomatch h

theorem Between.mono {base base' top top' : Nat} {interpreter? : Option Nat}
    (h : Between base top interpreter?) (hb : base' ≤ base) (ht : top ≤ top') :
    Between base' top' interpreter? := fun n hn =>
  ⟨hb.trans_lt (h n hn).1, (h n hn).2.trans ht⟩

/-! ### Stretches of a session -/

namespace Session

/-- The session `s'` comes after `s`: the collaborators are the same, and the log has grown. -/
structure Later (s s' : Session) : Prop where
  collaborators : s'.collaborators = s.collaborators
  events : s.events <+: s'.events

namespace Later

variable {s s' s'' : Session}

theorem refl (s : Session) : Later s s := ⟨rfl, List.prefix_rfl⟩

theorem trans (h : Later s s') (h' : Later s' s'') : Later s s'' :=
  ⟨h'.collaborators.trans h.collaborators, h.events.trans h'.events⟩

end Later

/-- The session `s'` comes after `s`, and in between interpreters above `base` were prepared. -/
structure Stretch (base : Nat) (s s' : Session) : Prop where
  collaborators : s'.collaborators = s.collaborators
  created : s.created ≤ s'.created
  evaluated : s'.evaluated = s.evaluated
  events : ∃ new, s'.events = s.events ++ new ∧
    ∀ e ∈ new, e.isPreparation ∧ Between base s'.created e.interpreter?

namespace Stretch

variable {base : Nat} {s s' s'' : Session}

theorem refl (base : Nat) (s : Session) : Stretch base s s :=
  ⟨rfl, le_rfl, rfl, [], by simp, by simp⟩

theorem later (h : Stretch base s s') : Later s s' := by
  obtain ⟨new, hnew, -⟩ := h.events
  exact ⟨h.collaborators, hnew ▸ List.prefix_append _ _⟩

/-- Stretches add up. -/
theorem trans (h : Stretch base s s') (h' : Stretch base s' s'') : Stretch base s s'' := by
  obtain ⟨new, hnew, hall⟩ := h.events
  obtain ⟨new', hnew', hall'⟩ := h'.events
  refine ⟨h'.collaborators.trans h.collaborators, h.created.trans h'.created,
    h'.evaluated.trans h.evaluated, new ++ new', by rw [hnew', hnew, List.append_assoc], ?_⟩
  intro e he
  rcases List.mem_append.mp he with he | he
  · exact ⟨(hall e he).1, (hall e he).2.mono le_rfl h'.created⟩
  · exact hall' e he

/-- A stretch executes no script in an interpreter up to its base. -/
theorem executions_eq (h : Stretch base s s') {n : Nat} (hn : n ≤ base) :
    executions n s'.events = executions n s.events := by
  obtain ⟨new, hnew, hall⟩ := h.events
  have hnil : executions n new = [] := executions_eq_nil fun e he hint =>
    absurd ((hall e he).2 n hint).1 (Nat.not_lt.mpr hn)
  rw [hnew, executions_append, hnil, List.append_nil]

/-- No handle is given back in a stretch. -/
theorem giveBack_mem_iff (h : Stretch base s s') {number : Nat} {interpreter? : Option Nat} :
    Event.giveBack number interpreter? ∈ s'.events ↔
      Event.giveBack number interpreter? ∈ s.events := by
  obtain ⟨new, hnew, hall⟩ := h.events
  rw [hnew, List.mem_append, or_iff_left]
  exact fun hmem => absurd (hall _ hmem).1 (by simp [Event.isPreparation])

/-- A stretch changes nothing about which interpreters were given back. -/
theorem givenBack_iff (h : Stretch base s s') {n : Nat} :
    GivenBack s'.events n ↔ GivenBack s.events n := by
  simp only [GivenBack, h.giveBack_mem_iff]

end Stretch

/-! ### The single calls -/

/-- One more event of a preparation, which may create an interpreter, is a stretch. -/
theorem Stretch.of_after {base : Nat} {s s' : Session} {e : Event}
    (hcoll : s'.collaborators = s.collaborators) (hcreated : s.created ≤ s'.created)
    (heval : s'.evaluated = s.evaluated) (hevents : s'.events = s.events ++ [e])
    (hprep : e.isPreparation) (hbetween : Between base s'.created e.interpreter?) :
    Stretch base s s' :=
  ⟨hcoll, hcreated, heval, [e], hevents, by simpa using ⟨hprep, hbetween⟩⟩

section Say

variable (message : String) (s : Session)

@[simp] theorem say_collaborators : (say message s).2.collaborators = s.collaborators := by
  simp only [say]; split_ifs <;> rfl

@[simp] theorem say_created : (say message s).2.created = s.created := by
  simp only [say]; split_ifs <;> rfl

@[simp] theorem say_evaluated : (say message s).2.evaluated = s.evaluated := by
  simp only [say]; split_ifs <;> rfl

@[simp] theorem say_requested : (say message s).2.requested = s.requested := by
  simp only [say]; split_ifs <;> rfl

@[simp] theorem say_events : (say message s).2.events = s.events := by
  simp only [say]; split_ifs <;> rfl

theorem stretch_say (base : Nat) : Stretch base s (say message s).2 where
  collaborators := say_collaborators message s
  created := (say_created message s).ge
  evaluated := say_evaluated message s
  events := ⟨[], by simp, by simp⟩

end Say

/-- An interpreter that is created has a number of its own. -/
theorem between_create {base : Nat} {s : Session} (hb : base ≤ s.created) :
    Between base (create s).2.created (some (s.created + 1)) := fun n hn => by
  obtain rfl := Option.some.inj hn
  exact ⟨Nat.lt_succ_of_le hb, le_rfl⟩

theorem stretch_create {base : Nat} {s : Session} (hb : base ≤ s.created) :
    Stretch base s (create s).2 :=
  .of_after rfl (Nat.le_succ _) rfl rfl rfl (between_create hb)

theorem stretch_load {base n : Nat} {s : Session} (name code : String)
    (hn : Between base s.created (some n)) : Stretch base s (load n name code s).2 :=
  .of_after rfl le_rfl rfl rfl rfl hn

theorem stretch_readResource (base : Nat) (name : String) (s : Session) :
    Stretch base s (readResource name s).2 :=
  .of_after rfl le_rfl rfl rfl rfl (.none _ _)

theorem stretch_request (base : Nat) (s : Session) : Stretch base s (request s).2 :=
  .of_after rfl le_rfl rfl rfl rfl (.none _ _)

theorem stretch_handOut (base number : Nat) (s : Session) :
    Stretch base s (note (.handOut number) s).2 :=
  .of_after rfl le_rfl rfl rfl rfl (.none _ _)

end Session

end CoffeeHost
