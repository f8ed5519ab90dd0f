import CoffeeHost.Raised
import CoffeeHost.Report.Outcome
/-!
# Failures from loose payloads

Only a diagnostic or a fault can be the payload of a failure. Anything else that is offered as
one is refused.

## Main definitions

* `Failure.ofRaised`, `Failure.ofValue` — the failure with a payload, or the refusal.
-/

namespace CoffeeHost

/-- The refusal of a payload, by the name of its kind. -/
structure UnsupportedPayload where
  kindName : String
  deriving DecidableEq, Repr

/-- The wording of a refusal. -/
def UnsupportedPayload.message (e : UnsupportedPayload) : String :=
  s!"Unsupported failure payload: {e.kindName}"

namespace Failure

/-- The failure with something that was raised as its payload, which must be a fault. -/
def ofRaised : Raised → Except UnsupportedPayload Failure
  | .fault f => .ok (fault f)
  | raised => .error ⟨raised.className⟩

/-- A JSON value is no payload. -/
def ofValue (value : Json.Value) : Except UnsupportedPayload Failure := .error ⟨value.kindName⟩

end Failure

end CoffeeHost
