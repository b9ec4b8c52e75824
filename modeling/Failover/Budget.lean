import Failover.Endpoint
import Failover.Time

/-!
# Request budgets

An endpoint that tolerates only so many requests a minute has a budget, kept as
a bucket of tokens.  The bucket holds the requests of one minute and a burst
beyond them, starts full, and is refilled all the time at the endpoint's rate; a
request takes one token, and is refused when there is less than one.

Tokens are counted in a number type of one's choice: in floating point to run,
in rational numbers to reason about what the buckets approximate.

## Main definitions

* `TokenNumber` — the numbers that tokens are counted in.
* `Bucket` — the budget of one endpoint.
* `Gate` — the budgets by endpoint.
* `Gate.tryAcquire`, `Gate.available` — taking a token, and counting them.
-/

namespace Failover

/-! ### Counting tokens -/

/-- The numbers that tokens are counted in. -/
class TokenNumber (τ : Type) extends Add τ, Sub τ, Mul τ, Div τ, LE τ where
  /-- Comparing is decidable. -/
  decLE : DecidableLE τ
  /-- A whole number. -/
  ofNat : Nat → τ
  /-- The whole part of a number that is not negative. -/
  floor : τ → Nat

instance instDecidableLEOfTokenNumber {τ : Type} [TokenNumber τ] : DecidableLE τ :=
  TokenNumber.decLE

instance : TokenNumber Float where
  decLE := inferInstance
  ofNat := Float.ofNat
  floor x := x.toUInt64.toNat

instance : TokenNumber Rat where
  decLE := inferInstance
  ofNat n := (n : Rat)
  floor x := x.floor.toNat

/-! ### Buckets -/

/-- The budget of one endpoint. -/
structure Bucket (τ : Type) where
  /-- How many tokens it holds. -/
  tokens : τ
  /-- How many tokens it can hold. -/
  capacity : Nat
  /-- How many tokens it gains in a minute. -/
  rpm : Nat
  /-- When it was last refilled. -/
  refilledAt : Instant

namespace Bucket

variable {τ : Type} [TokenNumber τ]

open TokenNumber (ofNat floor)

/-- The full bucket of a rate and a burst. -/
def full (rpm burst : UInt32) (now : Instant) : Bucket τ :=
  ⟨ofNat (rpm.toNat + burst.toNat), rpm.toNat + burst.toNat, rpm.toNat, now⟩

/-- A length of time in seconds. -/
def secondsOf (s : Span) : τ := ofNat s.seconds + ofNat s.subsecond / ofNat nanosPerSecond

/-- The tokens gained in a second. -/
def perSecond (b : Bucket τ) : τ := ofNat b.rpm / ofNat 60

/-- The bucket with the tokens that it has gained since it was last refilled, up
to its capacity.  A clock that goes back neither adds tokens nor takes any. -/
def refill (b : Bucket τ) (now : Instant) : Bucket τ :=
  let gained : τ := b.tokens + secondsOf (now.since b.refilledAt) * b.perSecond
  { b with
    tokens := if gained ≤ ofNat b.capacity then gained else ofNat b.capacity
    refilledAt := if b.refilledAt < now then now else b.refilledAt }

/-- Take a token if there is a whole one. -/
def take (b : Bucket τ) (now : Instant) : Bool × Bucket τ :=
  let b := b.refill now
  if (ofNat 1 : τ) ≤ b.tokens then (true, { b with tokens := b.tokens - ofNat 1 })
  else (false, b)

/-- Whether the bucket has the size that a rate and a burst ask for. -/
def fits (b : Bucket τ) (rpm burst : UInt32) : Bool := b.capacity == rpm.toNat + burst.toNat

end Bucket

/-! ### The gate -/

/-- The budgets of the endpoints that have one. -/
structure Gate (τ : Type) where
  /-- How many requests a budget allows beyond those of one minute. -/
  burst : UInt32 := 0
  /-- The bucket of each endpoint that was ever asked for. -/
  buckets : Table EndpointId (Bucket τ) := ∅

namespace Gate

variable {τ : Type} [TokenNumber τ]

/-- The bucket that a request at some rate is to draw on: the endpoint's own, or
a full one if it has none or its size has changed. -/
def bucketFor (g : Gate τ) (id : EndpointId) (rpm : UInt32) (now : Instant) : Bucket τ :=
  match g.buckets.get? id with
  | some b => if b.fits rpm g.burst then b else .full rpm g.burst now
  | none => .full rpm g.burst now

/-- Take a token of an endpoint for a request.  A rate of zero is no limit. -/
def tryAcquire (g : Gate τ) (id : EndpointId) (rpm : UInt32) (now : Instant) :
    Bool × Gate τ :=
  if rpm = 0 then (true, g)
  else
    let (taken, b) := (g.bucketFor id rpm now).take now
    (taken, { g with buckets := g.buckets.insert id b })

/-- The whole tokens left to an endpoint, as far as 32 bits go, if it has a
bucket; counting them refills it. -/
def available (g : Gate τ) (id : EndpointId) (now : Instant) : Option Nat × Gate τ :=
  match g.buckets.get? id with
  | none => (none, g)
  | some b =>
      let b := b.refill now
      (some (min (TokenNumber.floor b.tokens) (UInt32.size - 1)),
        { g with buckets := g.buckets.insert id b })

/-- Forget every bucket. -/
def reset (g : Gate τ) : Gate τ := { g with buckets := ∅ }

end Gate

end Failover
