import Failover.Value

/-!
# Kinds of failure

## Main definitions

* `Kind` — the kinds into which failures are sorted.
* `Kind.isRetriable` — whether another endpoint could do better.
* `Kind.name`, `Kind.ofValue` — their names, and reading them back.
-/

namespace Failover

/-- A kind of failure. -/
inductive Kind where
  /-- The provider throttles the caller. -/
  | rateLimit
  /-- No answer came before the deadline. -/
  | timeout
  /-- The provider itself failed. -/
  | serverError
  /-- The account is out of credit. -/
  | billing
  /-- The credentials are rejected or have expired. -/
  | auth
  /-- The request does not follow the provider's schema. -/
  | formatError
  /-- The request exceeds a hard limit of the backend. -/
  | unsupportedInput
  /-- The caller cancelled the request. -/
  | userAbort
  /-- Nothing is known about the failure. -/
  | unknown
  deriving DecidableEq

namespace Kind

/-- Every kind, in the order in which they are listed. -/
def all : List Kind :=
  [rateLimit, timeout, serverError, billing, auth, formatError, unsupportedInput,
    userAbort, unknown]

/-- Whether another endpoint could do better.  Unknown failures are not retried,
so that faults in the request itself come to light. -/
def isRetriable : Kind → Bool
  | rateLimit | timeout | serverError | billing | auth => true
  | formatError | unsupportedInput | userAbort | unknown => false

/-- The name of a kind. -/
def name : Kind → String
  | rateLimit => "rate_limit"
  | timeout => "timeout"
  | serverError => "server_error"
  | billing => "billing"
  | auth => "auth"
  | formatError => "format_error"
  | unsupportedInput => "unsupported_input"
  | userAbort => "user_abort"
  | unknown => "unknown"

/-- The kind of a name. -/
def ofName? (s : String) : Option Kind := all.find? fun kind => kind.name == s

/-- The kind that a name reads as. -/
def read (s : String) : Except Refusal Kind :=
  match ofName? s with
  | some kind => .ok kind
  | none => .error .form

/-- Read a kind: its name, or an object whose one field has that name and holds
nothing. -/
def ofValue : Reader Kind
  | .text s => read s
  | .object [(s, .null)] => read s
  | _ => .error .form

/-- A kind as a value: its name. -/
def toValue (kind : Kind) : Value := .text kind.name

/-- The position of a kind in `all`. -/
def index (kind : Kind) : Nat := all.idxOf kind

/-- A kind is found under its name. -/
theorem ofName?_name (kind : Kind) : ofName? kind.name = some kind := by
  cases kind <;> decide

end Kind

end Failover
