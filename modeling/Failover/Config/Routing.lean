import Failover.Config.Entry
import Failover.Config.CooldownWindows

/-!
# Routing configuration

## Main definitions

* `RateLimit` — whether request budgets are kept, and how they are sized.
* `RoutingConfig` — all that a router is built from.
* `RoutingConfig.check` — what is asked of a configuration.
-/

namespace Failover

/-! ### Request budgets -/

/-- Whether request budgets are kept, and how they are sized. -/
structure RateLimit where
  /-- Whether budgets are kept at all. -/
  enabled : Bool := false
  /-- How many requests a budget allows beyond those of one minute. -/
  burst : UInt32 := 0
  deriving DecidableEq

namespace RateLimit

/-- The fields, in the order of their declaration. -/
def fieldNames : List String := ["enabled", "burst"]

/-- Read the settings of request budgets. -/
def ofValue : Reader RateLimit :=
  Value.asRecord fieldNames {} fun r field v =>
    match field with
    | "enabled" => return { r with enabled := ← v.asBool }
    | "burst" => return { r with burst := ← v.asCount }
    | _ => return r

/-- The settings of request budgets as a value. -/
def toValue (r : RateLimit) : Value :=
  .object [("enabled", .bool r.enabled), ("burst", .int r.burst.toNat)]

end RateLimit

/-! ### Configurations -/

/-- All that a router is built from. -/
structure RoutingConfig where
  /-- The configured endpoints. -/
  entries : List Entry := []
  /-- How long failing endpoints are left alone. -/
  windows : CooldownWindows := .standard
  /-- Whether and how request budgets are kept. -/
  rateLimit : RateLimit := {}
  deriving DecidableEq

/-- The note on an error in entry `i` of a configuration. -/
def entryContext (i : Nat) : String := "model_list[" ++ toString i ++ "]"

/-- Do something with every entry of a list, in order; the first error is noted
with the position of its entry, positions being counted from `i`. -/
def forEntries {α : Type} (f : Entry → Except RoutingError α) :
    Nat → List Entry → Except RoutingError (List α)
  | _, [] => .ok []
  | i, e :: rest =>
      match f e with
      | .error error => .error (error.inContext (entryContext i))
      | .ok a => (forEntries f (i + 1) rest).map (a :: ·)

namespace RoutingConfig

/-- Accept a configuration or report its first faulty entry. -/
def check (c : RoutingConfig) : Except RoutingError Unit :=
  (forEntries Entry.check 0 c.entries).map fun _ => ()

/-- The fields, in the order of their declaration. -/
def fieldNames : List String := ["model_list", "cooldown", "rate_limit"]

/-- Read a configuration.  Each part that is not given is as usual. -/
def ofValue : Reader RoutingConfig :=
  Value.asRecord fieldNames {} fun c field v =>
    match field with
    | "model_list" => return { c with entries := ← Value.asList Entry.ofValue v }
    | "cooldown" => return { c with windows := ← CooldownWindows.ofValue v }
    | "rate_limit" => return { c with rateLimit := ← RateLimit.ofValue v }
    | _ => return c

/-- A configuration as a value. -/
def toValue (c : RoutingConfig) : Value :=
  .object
    [("model_list", .list (c.entries.map Entry.toValue)),
     ("cooldown", c.windows.toValue),
     ("rate_limit", c.rateLimit.toValue)]

end RoutingConfig

end Failover
