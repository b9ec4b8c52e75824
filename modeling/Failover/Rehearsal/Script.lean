import Failover.Endpoint
import Failover.Failure
import Failover.Time

/-!
# Scripts

A script says how backends behave in a rehearsal.  It holds queues of behaviours
under keys: a target and a key, a target, or a star for every endpoint.  A call
of an endpoint takes the next behaviour of the first queue that is meant for it;
the last behaviour of a queue stays and is repeated.

## Main definitions

* `Behaviour` — how a backend behaves when it is called.
* `Script`, `Script.next` — the queues, and taking from them.
-/

namespace Failover

/-- What a backend may cancel of its own accord. -/
inductive Scope where
  /-- The routed call that it is called for. -/
  | caller
  /-- Only this one call of a backend, which stops nothing. -/
  | attempt
  deriving DecidableEq

/-- How a backend behaves when it is called. -/
structure Behaviour (α : Type) where
  /-- What it cancels before anything else. -/
  cancelsFirst : Option Scope := none
  /-- How long it waits; without a delay it does not wait at all. -/
  delay : Span := .zero
  /-- After which time of waiting it is cut off. -/
  timeLimit : Option Span := none
  /-- What it cancels after waiting, unless it was cut off. -/
  cancelsLast : Option Scope := none
  /-- What it comes back with. -/
  reply : Except Failure α

namespace Behaviour

variable {α : Type}

/-- Whether the backend is cut off while it waits. -/
def isCutOff (b : Behaviour α) : Bool := b.timeLimit.any fun limit => limit.nanos < b.delay.nanos

/-- How long the backend waits in the end. -/
def wait (b : Behaviour α) : Span :=
  match b.timeLimit with
  | some limit => if b.isCutOff then limit else b.delay
  | none => b.delay

/-- What the backend cancels once it has waited. -/
def cancelsAtEnd (b : Behaviour α) : Option Scope := if b.isCutOff then none else b.cancelsLast

/-- What the backend comes back with once it has waited. -/
def replyAtEnd (b : Behaviour α) : Except Failure α :=
  if b.isCutOff then .error .deadlineElapsed else b.reply

end Behaviour

/-- Queues of behaviours, by the endpoints they are meant for. -/
abbrev Script (α : Type) := Table String (List (Behaviour α))

namespace Script

variable {α : Type}

/-- The keys that are meant for an endpoint, the most specific first. -/
def keysFor (e : Endpoint) : List String :=
  [e.target ++ "|" ++ e.credentials.apiKey.getD "", e.target, "*"]

/-- The first queue with anything in it that is meant for an endpoint. -/
def queueFor (s : Script α) (e : Endpoint) : Option (String × List (Behaviour α)) :=
  (keysFor e).findSome? fun key =>
    match s.get? key with
    | none | some [] => none
    | some queue => some (key, queue)

/-- The next behaviour that is meant for an endpoint, and the script after it. -/
def next (s : Script α) (e : Endpoint) : Option (Behaviour α) × Script α :=
  match s.queueFor e with
  | some (key, b :: b' :: rest) => (some b, s.insert key (b' :: rest))
  | some (_, [b]) => (some b, s)
  | some (_, []) | none => (none, s)

/-- The script with other queues under some keys. -/
def replace (s : Script α) (queues : List (String × List (Behaviour α))) : Script α :=
  queues.foldl (fun s (key, queue) => s.insert key queue) s

end Script

end Failover
