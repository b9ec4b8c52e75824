/-!
# Time

Lengths of time and readings of a clock, both exact to the nanosecond and both
bounded: a length has fewer than `2 ^ 64` whole seconds, a reading fewer than
`2 ^ 63`.  Adding a length to a reading can therefore leave the range of the
clock, and `Instant.add?` says when.

## Main definitions

* `Span` — lengths of time.
* `Instant` — readings of a clock, with `Instant.add?` and `Instant.since`.
-/

namespace Failover

/-- Nanoseconds in a second. -/
def nanosPerSecond : Nat := 1000000000

/-- Nanoseconds in a millisecond. -/
def nanosPerMilli : Nat := 1000000

/-! ### Lengths of time -/

/-- The length of time that no `Span` reaches, in nanoseconds. -/
def Span.limit : Nat := UInt64.size * nanosPerSecond

/-- A length of time. -/
structure Span where
  /-- The length in nanoseconds. -/
  nanos : Nat
  /-- The whole seconds fit into 64 bits. -/
  nanos_lt : nanos < Span.limit
  deriving DecidableEq

namespace Span

/-- No time at all. -/
def zero : Span := ⟨0, by decide⟩

instance : Inhabited Span := ⟨zero⟩

/-- The length of `n` nanoseconds, if it is in range. -/
def ofNanos? (n : Nat) : Option Span := if h : n < limit then some ⟨n, h⟩ else none

/-- The length of `n` seconds. -/
def ofSeconds (n : Nat) (h : n < UInt64.size := by decide) : Span :=
  ⟨n * nanosPerSecond, by unfold limit nanosPerSecond; omega⟩

/-- The length of `n` milliseconds. -/
def ofMillis (n : UInt64) : Span :=
  ⟨n.toNat * nanosPerMilli, by
    have := n.toNat_lt
    unfold limit nanosPerSecond nanosPerMilli UInt64.size
    omega⟩

/-- The whole seconds. -/
def seconds (s : Span) : Nat := s.nanos / nanosPerSecond

/-- The nanoseconds beyond the whole seconds. -/
def subsecond (s : Span) : Nat := s.nanos % nanosPerSecond

/-- The whole milliseconds. -/
def millis (s : Span) : Nat := s.nanos / nanosPerMilli

end Span

/-! ### Readings of a clock -/

/-- The reading that no clock reaches, in nanoseconds. -/
def Instant.limit : Nat := UInt64.size / 2 * nanosPerSecond

/-- A reading of a clock that only moves forward. -/
structure Instant where
  /-- The nanoseconds since the clock's own zero. -/
  nanos : Nat
  /-- The whole seconds fit into 63 bits. -/
  nanos_lt : nanos < Instant.limit
  deriving DecidableEq

namespace Instant

instance : LT Instant := ⟨fun a b => a.nanos < b.nanos⟩

instance : LE Instant := ⟨fun a b => a.nanos ≤ b.nanos⟩

instance : DecidableLT Instant := fun a b => Nat.decLt a.nanos b.nanos

instance : DecidableLE Instant := fun a b => Nat.decLe a.nanos b.nanos

/-- The reading a length of time later, unless the clock cannot show it. -/
def add? (t : Instant) (s : Span) : Option Instant :=
  if h : t.nanos + s.nanos < limit then some ⟨t.nanos + s.nanos, h⟩ else none

/-- The reading a length of time later, or the last one that the clock can
show. -/
def later (t : Instant) (s : Span) : Instant :=
  (t.add? s).getD ⟨limit - 1, by decide⟩

/-- The length of time from `u` to `t`; none if `u` is the later one. -/
def since (t u : Instant) : Span :=
  ⟨t.nanos - u.nanos, by
    have := t.nanos_lt
    unfold limit UInt64.size at this
    unfold Span.limit UInt64.size
    omega⟩

end Instant

end Failover
