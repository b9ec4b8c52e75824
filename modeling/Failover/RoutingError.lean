import Failover.Attempt
import Failover.Failure

/-!
# Routing errors

## Main definitions

* `ConfigFault` — what can be wrong with a configuration.
* `RoutingError` — why a request was not routed.
* `RoutingError.inContext` — an error with a note on where it arose.
* `RoutingError.code`, `RoutingError.text` — an error for programs, and in words.
-/

namespace Failover

/-- What can be wrong with a configuration. -/
inductive ConfigFault where
  /-- An entry has no name that callers could use. -/
  | nameMissing
  /-- An entry names no model. -/
  | modelMissing
  /-- An endpoint of one name was to join the group of another. -/
  | strayEndpoint (name group : String)
  /-- Something else, in the reporter's own words. -/
  | other (message : String) (field : Option String)
  deriving DecidableEq

namespace ConfigFault

/-- A fault in words. -/
def message : ConfigFault → String
  | nameMissing => "model_name is required"
  | modelMissing => "model is required"
  | strayEndpoint name group => "record for '" ++ name ++ "' cannot join group '" ++ group ++ "'"
  | other message _ => message

/-- The field that is at fault. -/
def field : ConfigFault → Option String
  | nameMissing => some "model_name"
  | modelMissing => some "model"
  | strayEndpoint _ _ => some "model_name"
  | other _ field => field

end ConfigFault

/-- A routed call that was broken off. -/
structure Abort where
  /-- The kind of the failure. -/
  kind : Kind
  /-- The candidate whose turn it was. -/
  candidate : String
  /-- The endpoint that was called, if one was. -/
  endpoint : Option EndpointId
  /-- The failure. -/
  failure : Failure
  /-- The attempts up to it. -/
  trail : List Attempt
  deriving DecidableEq

/-- Why a request was not routed. -/
inductive RoutingError where
  /-- No endpoint is registered under the name. -/
  | notFound (name : String)
  /-- A candidate failed in a way that no other can mend. -/
  | nonRetriable (abort : Abort)
  /-- Every candidate failed or was passed over. -/
  | exhausted (trail : List Attempt)
  /-- The configuration is faulty. -/
  | config (fault : ConfigFault) (context : Option String)
  deriving DecidableEq

namespace RoutingError

/-- The kind of the last attempt in a trail that has one. -/
def lastKind (trail : List Attempt) : Option Kind := trail.reverse.findSome? (·.kind)

/-- How many attempts of a trail called a backend. -/
def liveAttempts (trail : List Attempt) : Nat := (trail.filter (·.isLive)).length

/-- The kind of an error that came out of a routed call. -/
def kind : RoutingError → Option Kind
  | nonRetriable abort => some abort.kind
  | exhausted trail => lastKind trail
  | notFound _ | config _ _ => none

/-- The trail that an error carries. -/
def trail : RoutingError → List Attempt
  | nonRetriable abort => abort.trail
  | exhausted trail => trail
  | notFound _ | config _ _ => []

/-- Whether the same call could succeed at another time. -/
def isRetriable : RoutingError → Bool
  | exhausted _ => true
  | _ => false

/-- Whether the caller cancelled the call. -/
def isUserAbort : RoutingError → Bool
  | nonRetriable abort => abort.kind = .userAbort
  | _ => false

/-- The failure behind an error. -/
def source : RoutingError → Option Failure
  | nonRetriable abort => some abort.failure
  | _ => none

/-- An error with a note on where it arose.  Only configuration errors carry such
notes, the outermost first. -/
def inContext (context : String) : RoutingError → RoutingError
  | config fault none => config fault (some context)
  | config fault (some inner) => config fault (some (context ++ ": " ++ inner))
  | error => error

/-- The code by which programs tell errors apart. -/
def code : RoutingError → String
  | notFound _ => "ROUTING_NOT_FOUND"
  | nonRetriable _ => "ROUTING_NON_RETRIABLE"
  | exhausted _ => "ROUTING_EXHAUSTED"
  | config _ _ => "ROUTING_CONFIG"

/-- A trail of which nothing came, in words. -/
def exhaustedText : List Attempt → String
  | [] => "All candidates exhausted: no endpoint configured"
  | trail =>
      "All candidates exhausted after " ++ toString trail.length ++ " attempt(s)" ++
        String.join (trail.map fun a => "\n  - " ++ a.text)

/-- An error in words. -/
def text : RoutingError → String
  | notFound name => "Model not found: " ++ name
  | nonRetriable abort =>
      "Non-retriable " ++ abort.kind.name ++ " error from '" ++ abort.candidate ++ "': " ++
        abort.failure.text
  | exhausted trail => exhaustedText trail
  | config fault _ => "Configuration error: " ++ fault.message

end RoutingError

end Failover
