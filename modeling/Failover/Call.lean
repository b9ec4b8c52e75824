import Failover.Router

/-!
# Routed calls

A routed call goes through a chain of candidates until one of them answers.  It
alternates between two activities.  While it *seeks*, it takes up one candidate
after the other and nothing holds it up; while a *flight* is out, it waits for a
backend.  Other calls of the same router go on in the meantime, so the two steps
here, `Router.takeUp` and `Router.settle`, each take the router as they find it.

The caller may cancel at any time.  A cancelled call takes up no candidate, and
whatever its flight comes back with, only an answer saves it from ending as the
caller's own abort.

What can happen to a call from outside are its moves: it is given its turn to take
up a candidate, its backend is asked whether it is done, or its caller cancels it.

## Main definitions

* `Call` — a routed call, with its `Stage` and its trail.
* `Router.takeUp` — the step of a call that seeks.
* `Router.settle` — the step of a call whose flight has come back.
* `Turn` — what a step leaves.
* `Poll`, `Move`, `Router.move` — the moves of a call.
-/

namespace Failover

variable {τ : Type} [TokenNumber τ] {α : Type}

/-! ### Calls -/

/-- A call of a backend that is out. -/
structure Flight where
  /-- The candidate that it is for. -/
  candidate : String
  /-- The endpoint that is called. -/
  endpoint : Endpoint
  /-- When it set out. -/
  since : Instant
  /-- The candidates after it. -/
  rest : List String
  deriving DecidableEq

/-- An answered request. -/
structure Routed (α : Type) where
  /-- The answer. -/
  value : α
  /-- The endpoint that gave it. -/
  endpoint : Endpoint
  /-- The attempts, the last of which is the answer. -/
  trail : List Attempt

/-- Whether anything was tried or passed over before the answer. -/
def Routed.fellBack (r : Routed α) : Bool := 1 < r.trail.length

/-- How a routed call ends. -/
inductive Verdict (α : Type) where
  /-- With an answer. -/
  | routed (r : Routed α)
  /-- With an error. -/
  | failed (error : RoutingError)
  /-- Not at all: the end of a cooldown window lies beyond what the clock can
  show. -/
  | clockOverflow

/-- What a routed call is about. -/
inductive Stage (α : Type) where
  /-- It takes up the candidates that are left. -/
  | seeking (rest : List String)
  /-- It waits for a backend. -/
  | flying (flight : Flight)
  /-- It is over. -/
  | over (verdict : Verdict α)

/-- A routed call. -/
structure Call (α : Type) where
  /-- What it is about. -/
  stage : Stage α
  /-- The attempts so far. -/
  trail : List Attempt := []
  /-- Whether the caller has cancelled it. -/
  cancelled : Bool := false

namespace Call

/-- A call at its beginning. -/
def start (candidates : List String) (cancelled : Bool := false) : Call α :=
  { stage := .seeking candidates, cancelled }

/-- The call, cancelled. -/
def cancel (call : Call α) : Call α := { call with cancelled := true }

/-- How the call ended, if it is over. -/
def verdict? (call : Call α) : Option (Verdict α) :=
  match call.stage with
  | .over verdict => some verdict
  | _ => none

/-- The call with an attempt after which it goes on seeking. -/
def advance (call : Call α) (attempt : Attempt) (rest : List String) : Call α :=
  { call with stage := .seeking rest, trail := call.trail ++ [attempt] }

/-- The call, broken off. -/
def breakOff (call : Call α) (candidate : String) (endpoint : Option EndpointId)
    (failure : Failure) (kind : Kind) : Call α :=
  { call with stage := .over (.failed (.nonRetriable
    { kind, candidate, endpoint, failure, trail := call.trail })) }

end Call

/-- What a step of a call leaves. -/
structure Turn (τ α : Type) where
  /-- The router after the step. -/
  router : Router τ
  /-- The call after the step. -/
  call : Call α
  /-- What was noticed, in order. -/
  notices : List Notice

/-! ### The two steps -/

namespace Router

/-- The step of a call that seeks: take up the next candidate.  A call that does
not seek is left as it is. -/
def takeUp (r : Router τ) (now : Instant) (call : Call α) : Turn τ α :=
  match call.stage with
  | .seeking [] =>
      ⟨r, { call with stage := .over (.failed (.exhausted call.trail)) },
        [.exhausted call.trail.length]⟩
  | .seeking (candidate :: rest) =>
      if call.cancelled then
        ⟨r, call.breakOff candidate none .cancelled .userAbort,
          [.aborted candidate .userAbort .cancelled]⟩
      else
        let (decision, r) := r.consider candidate now
        match decision with
        | .unregistered =>
            ⟨r, { call with stage := .seeking rest }, [.unregistered candidate]⟩
        | .cooling e s =>
            let attempt := Attempt.skip candidate .cooldown (some s.kind)
            ⟨r, call.advance attempt rest,
              [.suppressed candidate e.id s.kind (s.liftedAt.since now),
               .attempted attempt.event]⟩
        | .spent e rpm =>
            let attempt := Attempt.skip candidate .throttled none
            ⟨r, call.advance attempt rest,
              [.budgetSpent e.id rpm, .attempted attempt.event]⟩
        | .dispatch e =>
            ⟨r, { call with stage := .flying ⟨candidate, e, now, rest⟩ },
              [.dispatched candidate e.id]⟩
  | .flying _ | .over _ => ⟨r, call, []⟩

/-- A flight has come back with an answer: its endpoint is clear and the call is
over. -/
def settleValue (r : Router τ) (now : Instant) (call : Call α) (flight : Flight) (value : α) :
    Turn τ α :=
  let id := flight.endpoint.id
  let attempt : Attempt :=
    ⟨flight.candidate, some id, .success, none, now.since flight.since⟩
  let trail := call.trail ++ [attempt]
  let (_, r, notices) := r.recordSuccess id
  ⟨r, { call with stage := .over (.routed ⟨value, flight.endpoint, trail⟩), trail },
    notices ++ [.attempted attempt.event] ++
      if 1 < trail.length then [.servedAfterFallback flight.candidate id trail.length] else []⟩

/-- A flight has come back with a failure.  That of a cancelled call is the
caller's abort, whatever the classifier would say.  A retriable failure is
recorded and the call goes on; any other breaks it off. -/
def settleFailure (r : Router τ) (now : Instant) (call : Call α) (flight : Flight)
    (failure : Failure) : Turn τ α :=
  let id := flight.endpoint.id
  let kind := if call.cancelled then .userAbort else r.classifier.classify failure
  let attempt (outcome : Outcome) : Attempt :=
    ⟨flight.candidate, some id, outcome, some kind, now.since flight.since⟩
  if kind.isRetriable then
    match r.recordFailure id kind now with
    | .error _ => ⟨r, { call with stage := .over .clockOverflow }, []⟩
    | .ok (_, r, notices) =>
        ⟨r, call.advance (attempt .retriableFailure) flight.rest,
          notices ++ [.attempted (attempt .retriableFailure).event,
            .advancing flight.candidate id kind failure]⟩
  else
    let call := { call with trail := call.trail ++ [attempt .nonRetriableFailure] }
    ⟨r, call.breakOff flight.candidate (some id) failure kind,
      [.attempted (attempt .nonRetriableFailure).event,
       .aborted flight.candidate kind failure]⟩

/-- The step of a call whose flight has come back.  A call without a flight is
left as it is. -/
def settle (r : Router τ) (now : Instant) (call : Call α) (reply : Except Failure α) :
    Turn τ α :=
  match call.stage with
  | .flying flight =>
      match reply with
      | .ok value => r.settleValue now call flight value
      | .error failure => r.settleFailure now call flight failure
  | .seeking _ | .over _ => ⟨r, call, []⟩

end Router

/-! ### The moves -/

/-- What a backend does when it is asked whether it is done. -/
structure Poll (α : Type) where
  /-- Whether the routed call is cancelled in the course of it. -/
  cancels : Bool := false
  /-- What the backend comes back with, if it is done. -/
  reply : Option (Except Failure α) := none

/-- What can happen to a routed call. -/
inductive Move (α : Type) where
  /-- It takes up its next candidate. -/
  | takeUp
  /-- Its backend is asked whether it is done. -/
  | poll (p : Poll α)
  /-- Its caller cancels it. -/
  | cancel

namespace Router

/-- The step of a call whose backend is asked whether it is done.  A call that
has been cancelled by then drops its flight without asking. -/
def poll (r : Router τ) (now : Instant) (call : Call α) (p : Poll α) : Turn τ α :=
  match call.stage with
  | .flying _ =>
      if call.cancelled then r.settle now call (.error .cancelled)
      else
        let call := if p.cancels then call.cancel else call
        match p.reply with
        | some reply => r.settle now call reply
        | none => ⟨r, call, []⟩
  | .seeking _ | .over _ => ⟨r, call, []⟩

/-- Make a move of a call. -/
def move (r : Router τ) (now : Instant) (call : Call α) : Move α → Turn τ α
  | .takeUp => r.takeUp now call
  | .poll p => r.poll now call p
  | .cancel => ⟨r, call.cancel, []⟩

end Router

end Failover
