import Failover.Config.Routing

/-!
# The registry

The registry keeps, for every name that callers use, the group of endpoints
registered under it.  Requests for a name go round its group: a cursor counts
them, and the count modulo the size of the group is the position of the endpoint
whose turn it is.  A group of one endpoint needs no cursor and leaves it alone.

## Main definitions

* `Group`, `Group.select` — endpoints that share a name, and taking turns.
* `Registry` — the groups by name.
* `Registry.register`, `Registry.unregister`, `Registry.replaceGroup` — changes.
* `Registry.resolve` — the endpoint whose turn it is for a name.
* `Registry.ofEntries` — the registry of a configuration.
-/

namespace Failover

/-! ### Groups -/

/-- The endpoints registered under one name. -/
structure Group where
  /-- The endpoints, in the order of their registration. -/
  endpoints : List Endpoint
  /-- How many requests have been spread over them; it wraps at 64 bits. -/
  cursor : UInt64 := 0

namespace Group

/-- The endpoint whose turn it is, and the group after that. -/
def select (g : Group) : Option (Endpoint × Group) :=
  match g.endpoints with
  | [] => none
  | [e] => some (e, g)
  | es =>
      (es[g.cursor.toNat % es.length]?).map fun e => (e, { g with cursor := g.cursor + 1 })

/-- The group with one more endpoint at its end. -/
def append (g : Group) (e : Endpoint) : Group := { g with endpoints := g.endpoints ++ [e] }

end Group

/-! ### The groups by name -/

/-- The endpoints that requests are routed to, by the names that callers use. -/
structure Registry where
  /-- The group of each name. -/
  groups : Table String Group

namespace Registry

/-- The registry without endpoints. -/
def empty : Registry := ⟨∅⟩

instance : Inhabited Registry := ⟨empty⟩

/-- Put an endpoint at the end of its group, which is made if there is none. -/
def register (r : Registry) (e : Endpoint) : Registry :=
  ⟨r.groups.insert e.name
    (match r.groups.get? e.name with
    | some g => g.append e
    | none => { endpoints := [e] })⟩

/-- Forget a group and its cursor. -/
def unregister (r : Registry) (name : String) : Registry := ⟨r.groups.erase name⟩

/-- Put all of a group in place at once.  Every endpoint has to be of that name.
The cursor goes on where it was; no endpoints means no group. -/
def replaceGroup (r : Registry) (name : String) (es : List Endpoint) :
    Except RoutingError Registry :=
  match es.find? (·.name ≠ name) with
  | some stray => .error (.config (.strayEndpoint stray.name name) none)
  | none =>
      if es.isEmpty then .ok (r.unregister name)
      else .ok ⟨r.groups.insert name
        (match r.groups.get? name with
        | some g => { g with endpoints := es }
        | none => { endpoints := es })⟩

/-- The endpoint whose turn it is for a name, and the registry after that. -/
def resolve (r : Registry) (name : String) : Option (Endpoint × Registry) := do
  let g ← r.groups.get? name
  let (e, g) ← g.select
  return (e, ⟨r.groups.insert name g⟩)

/-- The names that have a group, in ascending order. -/
def names (r : Registry) : List String := r.groups.keys

/-- The endpoints of a name, in the order of their registration. -/
def endpoints (r : Registry) (name : String) : List Endpoint :=
  match r.groups.get? name with
  | some g => g.endpoints
  | none => []

/-- How many endpoints a name has. -/
def count (r : Registry) (name : String) : Nat := (r.endpoints name).length

/-- The cursor of a name that has a group. -/
def cursor? (r : Registry) (name : String) : Option UInt64 :=
  (r.groups.get? name).map (·.cursor)

/-- Whether no name has a group. -/
def isEmpty (r : Registry) : Bool := r.groups.isEmpty

/-- The registry of the configured endpoints, in the order of their entries. -/
def ofEntries (entries : List Entry) : Except RoutingError Registry :=
  (forEntries Entry.endpoint 0 entries).map fun es => es.foldl register empty

end Registry

end Failover
