import Failover.Endpoint
import Failover.Kind
import Failover.Time

/-!
# Attempts

A routed call leaves a trail: one attempt for every candidate that was called or
passed over.  Observers see each attempt as an event, in which the endpoint is
always named: by its identity, or by why it was passed over.

## Main definitions

* `Outcome`, `Attempt` — the attempts of a trail.
* `Attempt.text` — an attempt as one line.
* `Event`, `Attempt.event` — what observers see of an attempt.
-/

namespace Failover

/-- Why a candidate was passed over. -/
inductive SkipReason where
  /-- Its endpoint is cooling down. -/
  | cooldown
  /-- Its endpoint has spent its request budget. -/
  | throttled
  deriving DecidableEq

/-- How an attempt ended. -/
inductive Outcome where
  /-- The backend answered. -/
  | success
  /-- The call failed in a way that another endpoint may not. -/
  | retriableFailure
  /-- The call failed in a way that ends the routed call. -/
  | nonRetriableFailure
  /-- No call was made. -/
  | skipped (reason : SkipReason)
  deriving DecidableEq

namespace Outcome

/-- The name of an outcome. -/
def name : Outcome → String
  | success => "success"
  | retriableFailure => "retriable_failure"
  | nonRetriableFailure => "non_retriable_failure"
  | skipped .cooldown => "skipped_cooldown"
  | skipped .throttled => "skipped_throttled"

/-- Whether no call was made. -/
def isSkip : Outcome → Bool
  | skipped _ => true
  | _ => false

end Outcome

/-- What became of one candidate. -/
structure Attempt where
  /-- The name that was tried. -/
  candidate : String
  /-- The endpoint that was called, if one was. -/
  endpoint : Option EndpointId
  /-- How it ended. -/
  outcome : Outcome
  /-- The kind of the failure; for an endpoint that is cooling down, that of the
  failure that it cools down from. -/
  kind : Option Kind
  /-- How long the call took. -/
  elapsed : Span
  deriving DecidableEq

/-- What observers see of an attempt. -/
structure Event where
  /-- The name that was tried. -/
  candidate : String
  /-- The identity of the endpoint, or why there was no call. -/
  endpoint : String
  /-- How it ended. -/
  outcome : Outcome
  /-- The kind of the failure, if one is known. -/
  kind : Option Kind
  /-- How long the call took, in whole milliseconds, as far as 64 bits go. -/
  elapsedMillis : Nat
  deriving DecidableEq

namespace Attempt

/-- The attempt of a candidate that was passed over. -/
def skip (candidate : String) (reason : SkipReason) (kind : Option Kind) : Attempt :=
  ⟨candidate, none, .skipped reason, kind, .zero⟩

/-- Whether a backend was called. -/
def isLive (a : Attempt) : Bool := !a.outcome.isSkip

/-- An attempt as one line. -/
def text (a : Attempt) : String :=
  a.candidate ++
    (match a.endpoint with | some id => " via " ++ id.text | none => "") ++
    ": " ++ a.outcome.name ++
    (match a.kind with | some kind => " (" ++ kind.name ++ ")" | none => "") ++
    (if a.isLive then " after " ++ toString a.elapsed.millis ++ "ms" else "")

/-- What an event calls the endpoint of an attempt. -/
def endpointText (a : Attempt) : String :=
  match a.endpoint, a.outcome with
  | some id, _ => id.text
  | none, .skipped .throttled => "skipped-throttled"
  | none, _ => "skipped-cooldown"

/-- The event of an attempt. -/
def event (a : Attempt) : Event :=
  ⟨a.candidate, a.endpointText, a.outcome, a.kind, min a.elapsed.millis (UInt64.size - 1)⟩

end Attempt

end Failover
