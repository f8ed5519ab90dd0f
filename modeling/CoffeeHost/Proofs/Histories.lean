import CoffeeHost.Proofs.Operations
/-!
# Histories of runs

A run gives the replies to its steps and the session in which it ends. Its *history* has a *moment*
for each step as well: the step, the reply to it, what it added to the log, and how it left the
compilers and the session. Two runs are compared moment by moment.

## Main definitions

* `Moment` — what is to be told of a step.
* `Run.moments`, `Run.history` — the moments of a run.

## Main results

* `Run.replies_moments` — a history tells the replies of its run.
* `Run.history_concat` — each moment is that of a step performed where the run before it ended.
-/

namespace CoffeeHost

/-- The events that a session `s'` has and the session `s` before it had not. -/
def Session.added (s s' : Session) : List Event := s'.events.drop s.events.length

theorem Session.added_of_append {s s' : Session} {new : List Event}
    (h : s'.events = s.events ++ new) : s.added s' = new := by
  rw [added, h, List.drop_left]

/-- What is to be told of a step of a run. -/
structure Moment where
  step : Step
  reply : Reply
  /-- What the step added to the log. -/
  events : List Event
  /-- The compilers after the step. -/
  compilers : List (Option Compiler)
  /-- The session after the step. -/
  session : Session

namespace Run

/-- The moment of a step. -/
def moment (compilers : List (Option Compiler)) (step : Step) (s : Session) : Moment where
  step := step
  reply := (Run.step compilers step s).1.2
  events := s.added (Run.step compilers step s).2
  compilers := (Run.step compilers step s).1.1
  session := (Run.step compilers step s).2

/-- The moments of a run, in order. -/
def moments (compilers : List (Option Compiler)) : List Step → Session → List Moment
  | [], _ => []
  | first :: rest, s =>
    moment compilers first s ::
      moments (Run.step compilers first s).1.1 rest (Run.step compilers first s).2

/-- The moments of a run of new compilers with the given factories. -/
def history (collaborators : Collaborators) (factories : List Factory) (steps : List Step) :
    List Moment :=
  moments (factories.map fun factory => some (.new factory)) steps (.new collaborators)

variable {compilers : List (Option Compiler)} {s : Session}

/-- The moments of a run tell its replies. -/
theorem replies_moments (compilers : List (Option Compiler)) (steps : List Step) (s : Session) :
    (moments compilers steps s).map Moment.reply = (Run.steps compilers steps s).1.2 := by
  induction steps generalizing compilers s with
  | nil => rfl
  | cons first rest ih => exact congrArg ((Run.step compilers first s).1.2 :: ·) (ih _ _)

/-- The moments of a run that is cut into two. -/
theorem moments_append (compilers : List (Option Compiler)) (steps more : List Step)
    (s : Session) :
    moments compilers (steps ++ more) s =
      moments compilers steps s ++
        moments (Run.steps compilers steps s).1.1 more (Run.steps compilers steps s).2 := by
  induction steps generalizing compilers s with
  | nil => rfl
  | cons first rest ih => exact congrArg (moment compilers first s :: ·) (ih _ _)

/-- The last step of a run is performed where the steps before it ended. -/
theorem history_concat (collaborators : Collaborators) (factories : List Factory)
    (steps : List Step) (step : Step) :
    history collaborators factories (steps ++ [step]) =
      history collaborators factories steps ++
        [moment (ofNew collaborators factories steps).1.1 step
          (ofNew collaborators factories steps).2] :=
  moments_append _ steps [step] _

end Run

end CoffeeHost
