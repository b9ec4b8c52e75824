import Failover.Attempt
import Failover.Failure

/-!
# Notices

A router says what it does in notices.  Each is a cause with its data; how
serious it is, how it is worded and which fields it shows are functions of it.
The notice of an attempt is the one that observers are served.

## Main definitions

* `Notice` — what can be noticed.
* `Notice.level`, `Notice.message`, `Notice.fields` — how it is shown.
* `Notice.event?` — the event for observers.
-/

namespace Failover

/-- How serious a notice is. -/
inductive Level where
  | debug | info | warn
  deriving DecidableEq

/-- What a router can notice. -/
inductive Notice where
  /-- A registry was built from a configuration. -/
  | registryBuilt (groups endpoints : Nat)
  /-- The group of a name was removed. -/
  | groupRemoved (name : String)
  /-- An endpoint failed and is left alone. -/
  | coolingDown (endpoint : EndpointId) (kind : Kind) (failures : Nat) (window : Span)
  /-- An endpoint answered and is clear again. -/
  | recovered (endpoint : EndpointId)
  /-- An endpoint had no request left in its budget. -/
  | budgetSpent (endpoint : EndpointId) (rpm : UInt32)
  /-- A candidate has no endpoints. -/
  | unregistered (candidate : String)
  /-- A candidate is passed over because its endpoint is cooling down. -/
  | suppressed (candidate : String) (endpoint : EndpointId) (kind : Kind) (remaining : Span)
  /-- A backend is called. -/
  | dispatched (candidate : String) (endpoint : EndpointId)
  /-- An attempt is over. -/
  | attempted (event : Event)
  /-- A request was answered, though not at the first attempt. -/
  | servedAfterFallback (candidate : String) (endpoint : EndpointId) (attempts : Nat)
  /-- A candidate failed and the next one is tried. -/
  | advancing (candidate : String) (endpoint : EndpointId) (kind : Kind) (failure : Failure)
  /-- A routed call is broken off. -/
  | aborted (candidate : String) (kind : Kind) (failure : Failure)
  /-- No candidate is left. -/
  | exhausted (attempts : Nat)
  deriving DecidableEq

/-- What a field of a notice shows. -/
inductive FieldValue where
  /-- A text. -/
  | text (s : String)
  /-- A number. -/
  | number (n : Nat)
  deriving DecidableEq

namespace Notice

/-- How serious a notice is. -/
def level : Notice → Level
  | coolingDown _ _ _ _ | advancing _ _ _ _ | aborted _ _ _ | exhausted _ => .warn
  | recovered _ | servedAfterFallback _ _ _ => .info
  | _ => .debug

/-- The wording of a notice. -/
def message : Notice → String
  | registryBuilt _ _ => "Endpoint registry built"
  | groupRemoved _ => "Endpoint group removed"
  | coolingDown _ _ _ _ => "Endpoint placed on cooldown"
  | recovered _ => "Endpoint recovered, cooldown cleared"
  | budgetSpent _ _ => "Endpoint request budget spent"
  | unregistered _ => "No endpoints registered, skipping candidate"
  | suppressed _ _ _ _ => "Endpoint cooling down, skipping candidate"
  | dispatched _ _ => "Dispatching to endpoint"
  | attempted _ => "Routing attempt"
  | servedAfterFallback _ _ _ => "Request served after fallback"
  | advancing _ _ _ _ => "Candidate failed with retriable error, advancing"
  | aborted _ _ _ => "Non-retriable failure, aborting fallback chain"
  | exhausted _ => "Fallback chain exhausted"

/-- The fields of an attempt's event. -/
def eventFields (e : Event) : List (String × FieldValue) :=
  [("candidate", .text e.candidate), ("endpoint", .text e.endpoint),
   ("outcome", .text e.outcome.name)] ++
    (match e.kind with | some kind => [("kind", .text kind.name)] | none => []) ++
    [("elapsed_ms", .number e.elapsedMillis)]

/-- The fields that a notice shows. -/
def fields : Notice → List (String × FieldValue)
  | registryBuilt groups endpoints =>
      [("groups", .number groups), ("endpoints", .number endpoints)]
  | groupRemoved name => [("model", .text name)]
  | coolingDown id kind failures window =>
      [("endpoint", .text id.text), ("kind", .text kind.name), ("failures", .number failures),
       ("cooldown_secs", .number window.seconds)]
  | recovered id => [("endpoint", .text id.text)]
  | budgetSpent id rpm => [("endpoint", .text id.text), ("rpm", .number rpm.toNat)]
  | unregistered candidate => [("candidate", .text candidate)]
  | suppressed candidate id kind remaining =>
      [("candidate", .text candidate), ("endpoint", .text id.text), ("kind", .text kind.name),
       ("remaining_secs", .number remaining.seconds)]
  | dispatched candidate id => [("candidate", .text candidate), ("endpoint", .text id.text)]
  | attempted event => eventFields event
  | servedAfterFallback candidate id attempts =>
      [("candidate", .text candidate), ("endpoint", .text id.text),
       ("attempts", .number attempts)]
  | advancing candidate id kind failure =>
      [("candidate", .text candidate), ("endpoint", .text id.text), ("kind", .text kind.name),
       ("error", .text failure.text)]
  | aborted candidate kind failure =>
      [("candidate", .text candidate), ("kind", .text kind.name), ("error", .text failure.text)]
  | exhausted attempts => [("attempts", .number attempts)]

/-- The event that observers are served. -/
def event? : Notice → Option Event
  | attempted event => some event
  | _ => none

end Notice

end Failover
