import Failover.Config.CooldownWindows
import Failover.Endpoint

/-!
# Cooldown

An endpoint that failed in a retriable way is left alone until its window has
passed.  The tracker keeps the latest such failure of every endpoint; a success
clears it.  The tracker has no clock: every operation is told the time.

An entry whose window has passed says nothing any more, but it stays until it is
purged, and a new failure still counts on from it.

## Main definitions

* `Suppression` — why and until when an endpoint is left alone.
* `Tracker` — the suppressions by endpoint.
* `Tracker.recordFailure`, `Tracker.recordSuccess` — what changes them.
* `Tracker.active?`, `Tracker.isEligible`, `Tracker.snapshot` — what they say.
* `Tracker.purge`, `Tracker.reset` — forgetting.
-/

namespace Failover

/-- Why and until when an endpoint is left alone. -/
structure Suppression where
  /-- From this reading of the clock on, the endpoint may be called again. -/
  liftedAt : Instant
  /-- The kind of the latest failure. -/
  kind : Kind
  /-- How many failures there were since the endpoint was last clear. -/
  failures : Nat
  deriving DecidableEq

/-- Whether an endpoint is still left alone at some time. -/
def Suppression.isActive (s : Suppression) (now : Instant) : Bool := now < s.liftedAt

/-- The end of a window lies beyond what the clock can show. -/
structure ClockOverflow where
  deriving DecidableEq

/-- One endpoint that is being left alone. -/
structure CooldownStatus where
  /-- The endpoint. -/
  endpoint : EndpointId
  /-- The kind of the latest failure. -/
  kind : Kind
  /-- How many failures there were since the endpoint was last clear. -/
  failures : Nat
  /-- How long the endpoint is still left alone. -/
  remaining : Span
  deriving DecidableEq

/-- The failures that endpoints are cooling down from. -/
structure Tracker where
  /-- How long endpoints are left alone. -/
  windows : CooldownWindows := .standard
  /-- What is known of each endpoint. -/
  entries : Table EndpointId Suppression := ∅

namespace Tracker

/-- The greatest count of failures; further ones are not counted. -/
def maxFailures : Nat := UInt32.size - 1

/-- The suppression of an endpoint that is in force at some time. -/
def active? (t : Tracker) (id : EndpointId) (now : Instant) : Option Suppression :=
  (t.entries.get? id).filter (·.isActive now)

/-- Whether an endpoint may be called at some time. -/
def isEligible (t : Tracker) (id : EndpointId) (now : Instant) : Bool :=
  (t.active? id now).isNone

/-- The suppression of an endpoint after a failure. -/
def suppress (t : Tracker) (id : EndpointId) (kind : Kind) (liftedAt : Instant) :
    Suppression :=
  let before := match t.entries.get? id with
    | some s => s.failures
    | none => 0
  ⟨liftedAt, kind, min (before + 1) maxFailures⟩

/-- Record a failure.  A retriable one starts the window anew, and the answer is
the end of the window; the others change nothing.  Nothing is recorded when the
clock cannot show the end of the window. -/
def recordFailure (t : Tracker) (id : EndpointId) (kind : Kind) (now : Instant) :
    Except ClockOverflow (Option Instant × Tracker) :=
  match t.windows.forKind kind with
  | none => .ok (none, t)
  | some window =>
      match now.add? window with
      | none => .error {}
      | some liftedAt =>
          .ok (some liftedAt,
            { t with entries := t.entries.insert id (t.suppress id kind liftedAt) })

/-- Record a success: the endpoint is clear.  The answer is whether anything was
known of it, be it in force or not. -/
def recordSuccess (t : Tracker) (id : EndpointId) : Bool × Tracker :=
  ((t.entries.get? id).isSome, { t with entries := t.entries.erase id })

/-- The endpoints that are left alone at some time, in ascending order. -/
def snapshot (t : Tracker) (now : Instant) : List CooldownStatus :=
  t.entries.rows.filterMap fun (id, s) =>
    if s.isActive now then some ⟨id, s.kind, s.failures, s.liftedAt.since now⟩ else none

/-- Of how many endpoints something is known. -/
def size (t : Tracker) : Nat := t.entries.size

/-- Forget the suppressions that are not in force any more.  The answer is how
many there were. -/
def purge (t : Tracker) (now : Instant) : Nat × Tracker :=
  let kept := { t with entries := t.entries.filter fun _ s => s.isActive now }
  (t.size - kept.size, kept)

/-- Forget everything but the windows. -/
def reset (t : Tracker) : Tracker := { t with entries := ∅ }

end Tracker

end Failover
