import Failover.Call
import Failover.Rehearsal.Script

/-!
# Rehearsals

A rehearsal runs routed calls against scripted backends.  Its clock stands still
while anything can go on without waiting, and then moves to the next reading at
which something is due: a call that starts, a backend that comes back, or a
cancellation that reaches a call in flight.  Calls that run together are thus
interleaved in one way only.  Where several are due at once, the earlier one goes
first, except that cancellations come after everything else.

## Main definitions

* `Rehearsal` — the router, the script and the clock.
* `Request` — a routed call that is to be made.
* `Errand` — what a call can be due for.
* `Rehearsal.perform` — make some calls together.
* `Performance` — what came of it.
-/

namespace Failover

variable {τ : Type} [TokenNumber τ] {α : Type}

/-! ### Requests and actors -/

/-- A routed call that is to be made. -/
structure Request where
  /-- The chain of candidates. -/
  candidates : List String
  /-- How long after the others it starts. -/
  startAfter : Span := .zero
  /-- Whether the caller has cancelled it before it starts. -/
  cancelled : Bool := false
  /-- How long after its start the caller cancels it. -/
  cancelAfter : Option Span := none
  /-- The number of the event, counted from one, at which the caller cancels. -/
  cancelAtEvent : Option Nat := none

/-- A backend call that has been made. -/
structure Invocation where
  /-- The endpoint that was called. -/
  endpoint : EndpointId
  /-- The position of the routed call among those made together. -/
  caller : Nat
  /-- Whether the backend cancelled this one call. -/
  cancelled : Bool

/-- A flight that is to come back. -/
structure Arrival (α : Type) where
  /-- When it is due. -/
  due : Instant
  /-- How its backend behaves. -/
  behaviour : Behaviour α
  /-- The position of the backend call among those made. -/
  invocation : Nat

/-- What a routed call can be due for. -/
inductive Errand (α : Type) where
  /-- To start. -/
  | start
  /-- To hear from the backend that it waits for. -/
  | arrival (arrival : Arrival α)
  /-- To learn that it has been cancelled. -/
  | cancellation

/-- Whether an errand comes after the others that are due at once. -/
def Errand.isCancellation : Errand α → Bool
  | cancellation => true
  | start | arrival _ => false

/-- A routed call on its way through a rehearsal. -/
structure Actor (α : Type) where
  /-- The call. -/
  call : Call α
  /-- When it starts. -/
  startAt : Instant
  /-- Whether it has started. -/
  started : Bool := false
  /-- When a cancellation reaches it. -/
  cancelAt : Option Instant
  /-- How many events it takes until its caller cancels it. -/
  eventsLeft : Option Nat
  /-- The flight that it waits for. -/
  arrival : Option (Arrival α) := none
  /-- When it ended. -/
  endedAt : Option Instant := none

namespace Actor

/-- The actor of a request that is made at some time. -/
def ofRequest (now : Instant) (q : Request) : Actor α :=
  let startAt := now.later q.startAfter
  { call := .start q.candidates q.cancelled
    startAt
    cancelAt := q.cancelAfter.map startAt.later
    eventsLeft := q.cancelAtEvent }

/-- What is due for the actor, and when: its start, and after that whichever of
the return of its flight and its cancellation comes first. -/
def errand? (a : Actor α) : Option (Instant × Errand α) :=
  if a.endedAt.isSome then none
  else if !a.started then some (a.startAt, .start)
  else match a.arrival, a.cancelAt with
    | some arrival, some t =>
        if t < arrival.due then some (t, .cancellation)
        else some (arrival.due, .arrival arrival)
    | some arrival, none => some (arrival.due, .arrival arrival)
    | none, some t => some (t, .cancellation)
    | none, none => none

/-- Whether the call has run into the end of the clock. -/
def hasOverflowed (a : Actor α) : Bool :=
  match a.call.verdict? with
  | some .clockOverflow => true
  | _ => false

/-- Count events down; the last one makes the caller cancel. -/
def countEvents (a : Actor α) (n : Nat) : Actor α :=
  match a.eventsLeft with
  | none => a
  | some left =>
      if 0 < left ∧ left ≤ n then { a with call := a.call.cancel, eventsLeft := none }
      else { a with eventsLeft := some (left - n) }

end Actor

/-! ### The rehearsal -/

/-- A router among scripted backends. -/
structure Rehearsal (τ α : Type) where
  /-- The router. -/
  router : Router τ
  /-- How the backends behave. -/
  script : Script α := ∅
  /-- What the clock shows. -/
  clock : Instant
  /-- What a backend that the script says nothing of comes back with. -/
  unscripted : Endpoint → α
  /-- The backend calls that have been made, in order. -/
  invocations : List Invocation := []
  /-- What has been noticed, in order. -/
  notices : List Notice := []

namespace Rehearsal

/-- The reading of the clock at which rehearsals begin. -/
def origin : Instant := ⟨nanosPerSecond, by decide⟩

/-- How far the clock has moved. -/
def now (r : Rehearsal τ α) : Span := r.clock.since origin

/-- Let time pass. -/
def advance (r : Rehearsal τ α) (s : Span) : Rehearsal τ α :=
  { r with clock := r.clock.later s }

/-- Take in what a change of the router leaves. -/
def absorb (r : Rehearsal τ α) (router : Router τ) (notices : List Notice) : Rehearsal τ α :=
  { r with router, notices := r.notices ++ notices }

/-- Make a move of an actor's call, and take in what it leaves. -/
def move (r : Rehearsal τ α) (a : Actor α) (m : Move α) : Rehearsal τ α × Actor α :=
  let turn := r.router.move r.clock a.call m
  let events := turn.notices.filterMap (·.event?)
  let a := { a with
    call := turn.call
    endedAt := if turn.call.verdict?.isSome then some r.clock else none }
  (r.absorb turn.router turn.notices, a.countEvents events.length)

/-- Note that a backend cancelled the call of it that was made as number `i`. -/
def cancelInvocation (r : Rehearsal τ α) (i : Nat) : Rehearsal τ α :=
  { r with invocations := r.invocations.modify i fun v => { v with cancelled := true } }

/-- Let a backend cancel something, being called as number `i`.  The answer is
whether it is the routed call. -/
def cancelScope (r : Rehearsal τ α) (i : Nat) : Option Scope → Bool × Rehearsal τ α
  | some .caller => (true, r)
  | some .attempt => (false, r.cancelInvocation i)
  | none => (false, r)

/-- Let a backend that has waited do the rest, being called as number `i`.  It may
have cancelled the routed call before. -/
def finish (r : Rehearsal τ α) (a : Actor α) (b : Behaviour α) (i : Nat) (cancels : Bool) :
    Rehearsal τ α × Actor α :=
  let (cancelsAtEnd, r) := r.cancelScope i b.cancelsAtEnd
  r.move { a with arrival := none } (.poll ⟨cancels || cancelsAtEnd, some b.replyAtEnd⟩)

/-- Call a backend for the actor at position `caller`.  One that does not wait
comes back at once, even if it has cancelled the call that it is made for.  One
that waits after that is dropped as soon as the cancellation reaches the call,
without time passing. -/
def invoke (r : Rehearsal τ α) (caller : Nat) (a : Actor α) (e : Endpoint) :
    Rehearsal τ α × Actor α :=
  let (scripted, script) := r.script.next e
  let b : Behaviour α := scripted.getD { reply := .ok (r.unscripted e) }
  let i := r.invocations.length
  let call : Invocation := { endpoint := e.id, caller, cancelled := false }
  let r : Rehearsal τ α := { r with script, invocations := r.invocations ++ [call] }
  let (cancels, r) := r.cancelScope i b.cancelsFirst
  if b.wait = .zero then r.finish a b i cancels
  else
    let (r, a) := r.move a (.poll ⟨cancels, none⟩)
    (r, { a with
      arrival := some ⟨r.clock.later b.wait, b, i⟩
      cancelAt := if a.call.cancelled then some r.clock else a.cancelAt })

/-- Let the actor at position `caller` go on until it waits or is over, taking up
at most `n` candidates. -/
def drive (caller : Nat) : Nat → Rehearsal τ α → Actor α → Rehearsal τ α × Actor α
  | 0, r, a => (r, a)
  | n + 1, r, a =>
      match a.call.stage with
      | .seeking _ =>
          let (r, a) := r.move a .takeUp
          match a.call.stage with
          | .flying flight =>
              let (r, a) := r.invoke caller a flight.endpoint
              drive caller n r a
          | _ => drive caller n r a
      | .flying _ | .over _ => (r, a)

/-- How many candidates a call may still take up, the end of the chain
included. -/
def stepsLeft (call : Call α) : Nat :=
  match call.stage with
  | .seeking rest => rest.length + 1
  | .flying flight => flight.rest.length + 1
  | .over _ => 0

/-- Run an errand of the actor at position `caller`. -/
def run (r : Rehearsal τ α) (caller : Nat) (a : Actor α) (errand : Errand α) :
    Rehearsal τ α × Actor α :=
  let (r, a) := match errand with
    | .start => (r, { a with started := true })
    | .arrival arrival => r.finish a arrival.behaviour arrival.invocation false
    | .cancellation =>
        let (r, a) := r.move { a with cancelAt := none } .cancel
        r.move { a with arrival := none } (.poll {})
  drive caller (stepsLeft a.call) r a

/-- An errand of one actor among others. -/
structure Item (α : Type) where
  /-- The position of the actor. -/
  position : Nat
  /-- When the errand is due. -/
  due : Instant
  /-- The errand. -/
  errand : Errand α

/-- Whether an item goes before one whose actor comes earlier in the list. -/
def Item.precedes (x y : Item α) : Bool :=
  x.due < y.due ||
    (x.due == y.due && !x.errand.isCancellation && y.errand.isCancellation)

/-- The item that is due first, `i` being the position of the first actor. -/
def firstDue (i : Nat) : List (Actor α) → Option (Item α)
  | [] => none
  | a :: rest =>
      match a.errand?, firstDue (i + 1) rest with
      | some (t, errand), some y =>
          some (if y.precedes ⟨i, t, errand⟩ then y else ⟨i, t, errand⟩)
      | some (t, errand), none => some ⟨i, t, errand⟩
      | none, other => other

/-- Let actors do what they are due for, at most `n` times.  Where one runs into
the end of the clock, all stop. -/
def play : Nat → Rehearsal τ α → List (Actor α) → Rehearsal τ α × List (Actor α)
  | 0, r, actors => (r, actors)
  | n + 1, r, actors =>
      match firstDue 0 actors with
      | none => (r, actors)
      | some x =>
          match actors[x.position]? with
          | none => (r, actors)
          | some a =>
              let r := { r with clock := if r.clock < x.due then x.due else r.clock }
              let (r, a) := r.run x.position a x.errand
              let actors := actors.set x.position a
              if a.hasOverflowed then (r, actors) else play n r actors

/-! ### Performances -/

/-- What came of a request. -/
structure Performed (α : Type) where
  /-- How the call ended, unless the rehearsal was stopped. -/
  verdict : Option (Verdict α)
  /-- How long it took. -/
  took : Span
  /-- Whether it was cancelled in the end. -/
  cancelled : Bool

/-- A backend call as it was made. -/
structure Called where
  /-- The endpoint that was called. -/
  endpoint : EndpointId
  /-- Whether it was cancelled in the end, by itself or with the routed call. -/
  cancelled : Bool

/-- What came of some requests. -/
structure Performance (α : Type) where
  /-- What came of each, in order. -/
  results : List (Performed α)
  /-- The backend calls, in order. -/
  calls : List Called

/-- Whether a request ran into the end of the clock. -/
def Performance.hasOverflowed (p : Performance α) : Bool :=
  p.results.any fun result =>
    match result.verdict with
    | some .clockOverflow => true
    | _ => false

/-- Make some calls together.  What was noticed and called before is not part of
the performance. -/
def perform (r : Rehearsal τ α) (requests : List Request) :
    Performance α × Rehearsal τ α :=
  let actors := requests.map (Actor.ofRequest r.clock)
  let steps := requests.foldl (fun n q => n + (q.candidates.length + 2)) 0
  let (r, actors) := play steps { r with invocations := [] } actors
  let results := actors.map fun a =>
    { verdict := a.call.verdict?
      took := (a.endedAt.getD r.clock).since a.startAt
      cancelled := a.call.cancelled }
  let calls := r.invocations.map fun v =>
    { endpoint := v.endpoint
      cancelled := v.cancelled || (actors[v.caller]?).any (·.call.cancelled) }
  (⟨results, calls⟩, r)

end Rehearsal

end Failover
