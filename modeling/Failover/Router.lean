import Failover.Budget
import Failover.Classifier
import Failover.Cooldown
import Failover.Notice
import Failover.Registry

/-!
# Routers

A router is the state that all routed calls share: the registry, the cooldown
tracker, the gate if budgets are kept, and the classifier, which never changes.
Its one decision is what to do with a candidate: pass it over, for one of three
reasons, or call the endpoint whose turn it is.

## Main definitions

* `Router`, `Router.ofConfig` — routers, and building one.
* `Decision`, `Router.consider` — what is to be done with a candidate.
* `Router.recordFailure`, `Router.recordSuccess`, `Router.acquire`,
  `Router.unregister`, `Router.replaceGroup` — changes and their notices.
* `Router.diagnostic` — a router as diagnostic output.
-/

namespace Failover

/-- What all routed calls share. -/
structure Router (τ : Type) where
  /-- The endpoints by name. -/
  registry : Registry := .empty
  /-- The endpoints that are left alone. -/
  tracker : Tracker := {}
  /-- The request budgets, if they are kept. -/
  gate : Option (Gate τ) := none
  /-- The kinds of failures. -/
  classifier : Classifier := .builtIn

/-- What is to be done with a candidate. -/
inductive Decision where
  /-- Pass it over: it has no endpoints. -/
  | unregistered
  /-- Pass it over: its endpoint is cooling down. -/
  | cooling (endpoint : Endpoint) (suppression : Suppression)
  /-- Pass it over: its endpoint has spent its budget. -/
  | spent (endpoint : Endpoint) (rpm : UInt32)
  /-- Call its endpoint. -/
  | dispatch (endpoint : Endpoint)
  deriving DecidableEq

namespace Router

variable {τ : Type}

/-! ### Building and showing -/

/-- The router of a configuration, and the notice that it was built. -/
def ofConfig (c : RoutingConfig) : Except RoutingError (Router τ × List Notice) := do
  c.check
  let registry ← Registry.ofEntries c.entries
  let router : Router τ :=
    { registry
      tracker := { windows := c.windows }
      gate := if c.rateLimit.enabled then some { burst := c.rateLimit.burst } else none }
  return (router, [.registryBuilt registry.groups.size c.entries.length])

/-- A truth value as diagnostic output. -/
def boolText (b : Bool) : String := if b then "true" else "false"

/-- A router as diagnostic output. -/
def diagnostic (r : Router τ) : String :=
  "FallbackOrchestrator \x7b models: " ++ toString r.registry.names.length ++
    ", cooling_down: " ++ toString r.tracker.size ++
    ", rpm_gate: " ++ boolText r.gate.isSome ++ " \x7d"

/-! ### Considering a candidate -/

/-- What is to be done with a candidate, and the router after that.  The turn of
an endpoint is taken whatever becomes of it; a token is only asked for where
nothing else stands in the way of the call. -/
def consider [TokenNumber τ] (r : Router τ) (candidate : String) (now : Instant) :
    Decision × Router τ :=
  match r.registry.resolve candidate with
  | none => (.unregistered, r)
  | some (e, registry) =>
      match r.tracker.active? e.id now with
      | some s => (.cooling e s, { r with registry })
      | none =>
          match r.gate, e.rpmHint with
          | some gate, some rpm =>
              let (taken, gate) := gate.tryAcquire e.id rpm now
              (if taken then .dispatch e else .spent e rpm,
                { r with registry, gate := some gate })
          | _, _ => (.dispatch e, { r with registry })

/-! ### Changes, and what is noticed of them

Each change yields the router after it and the notices that it gives rise to. -/

/-- Tell the tracker of a failure.  The answer is the end of the window, if the
kind has one. -/
def recordFailure (r : Router τ) (id : EndpointId) (kind : Kind) (now : Instant) :
    Except ClockOverflow (Option Instant × Router τ × List Notice) := do
  let (liftedAt, tracker) ← r.tracker.recordFailure id kind now
  let notices := match liftedAt, tracker.entries.get? id, tracker.windows.forKind kind with
    | some _, some s, some window => [.coolingDown id kind s.failures window]
    | _, _, _ => []
  return (liftedAt, { r with tracker }, notices)

/-- Tell the tracker of a success.  The answer is whether there was anything to
clear. -/
def recordSuccess (r : Router τ) (id : EndpointId) : Bool × Router τ × List Notice :=
  let (known, tracker) := r.tracker.recordSuccess id
  (known, { r with tracker }, if known then [.recovered id] else [])

/-- Take a token of an endpoint's budget.  Without a gate nothing is refused. -/
def acquire [TokenNumber τ] (r : Router τ) (id : EndpointId) (rpm : UInt32) (now : Instant) :
    Bool × Router τ × List Notice :=
  match r.gate with
  | none => (true, r, [])
  | some gate =>
      let (taken, gate) := gate.tryAcquire id rpm now
      (taken, { r with gate := some gate }, if taken then [] else [.budgetSpent id rpm])

/-- Forget the group of a name. -/
def unregister (r : Router τ) (name : String) : Router τ × List Notice :=
  ({ r with registry := r.registry.unregister name },
    if (r.registry.cursor? name).isSome then [.groupRemoved name] else [])

/-- Put all of a group in place at once. -/
def replaceGroup (r : Router τ) (name : String) (es : List Endpoint) :
    Except RoutingError (Router τ × List Notice) := do
  let registry ← r.registry.replaceGroup name es
  let removed := (r.registry.cursor? name).isSome && (registry.cursor? name).isNone
  return ({ r with registry }, if removed then [.groupRemoved name] else [])

end Router

end Failover
