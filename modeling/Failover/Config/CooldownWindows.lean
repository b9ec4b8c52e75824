import Failover.Kind
import Failover.Time.SpanText

/-!
# Cooldown windows

After a retriable failure an endpoint is left alone for a while.  How long
depends on the kind of the failure; the other kinds have no window.

## Main definitions

* `CooldownWindows` — a window for every retriable kind, with those of
  `CooldownWindows.standard` where nothing else is said.
* `CooldownWindows.forKind`, `CooldownWindows.set` — looking one up, and changing
  it.
* `CooldownWindows.ofValue`, `CooldownWindows.toValue` — reading and writing.
-/

namespace Failover

/-- How long an endpoint is left alone, for every retriable kind of failure. -/
structure CooldownWindows where
  /-- After throttling. -/
  rateLimit : Span := .ofSeconds 60
  /-- After a missed deadline. -/
  timeout : Span := .ofSeconds 30
  /-- After a failure of the provider. -/
  serverError : Span := .ofSeconds 120
  /-- After rejected credentials. -/
  auth : Span := .ofSeconds 300
  /-- After a lack of credit. -/
  billing : Span := .ofSeconds 120
  deriving DecidableEq

namespace CooldownWindows

/-- The windows where nothing else is said. -/
def standard : CooldownWindows := {}

/-- The same window for every retriable kind. -/
def uniform (s : Span) : CooldownWindows := ⟨s, s, s, s, s⟩

/-- The window of a kind. -/
def forKind (w : CooldownWindows) : Kind → Option Span
  | .rateLimit => some w.rateLimit
  | .timeout => some w.timeout
  | .serverError => some w.serverError
  | .auth => some w.auth
  | .billing => some w.billing
  | .formatError | .unsupportedInput | .userAbort | .unknown => none

/-- Change the window of a kind that has one. -/
def set (w : CooldownWindows) (kind : Kind) (s : Span) : CooldownWindows :=
  match kind with
  | .rateLimit => { w with rateLimit := s }
  | .timeout => { w with timeout := s }
  | .serverError => { w with serverError := s }
  | .auth => { w with auth := s }
  | .billing => { w with billing := s }
  | .formatError | .unsupportedInput | .userAbort | .unknown => w

/-- A kind has a window exactly when it is retriable. -/
theorem forKind_isSome (w : CooldownWindows) (kind : Kind) :
    (w.forKind kind).isSome = kind.isRetriable := by
  cases kind <;> rfl

/-! ### Reading and writing -/

/-- The kinds that have a window, in the order of their fields. -/
def kinds : List Kind := [.rateLimit, .timeout, .serverError, .auth, .billing]

/-- Read a length of time. -/
def readSpan : Reader Span
  | .text s =>
      match Span.ofText s with
      | .ok span => .ok span
      | .error .malformed => .error .form
      | .error .carryOverflow => .error .carryOverflow
  | _ => .error .form

/-- Read windows.  A window that is not given keeps its usual length. -/
def ofValue : Reader CooldownWindows :=
  Value.asRecord (kinds.map (·.name)) {} fun w name v => do
    let span ← readSpan v
    match Kind.ofName? name with
    | some kind => return w.set kind span
    | none => return w

/-- Windows as a value. -/
def toValue (w : CooldownWindows) : Value :=
  .object (kinds.filterMap fun kind =>
    (w.forKind kind).map fun span => (kind.name, .text span.text))

end CooldownWindows

end Failover
