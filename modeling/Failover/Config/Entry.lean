import Failover.RoutingError
import Failover.Text.Blank
import Failover.Value

/-!
# Configured endpoints

An entry of a configuration describes one endpoint under the name that callers
use.  Several entries may have the same name; requests are spread over them.

## Main definitions

* `Entry` — a configured endpoint.
* `Entry.check`, `Entry.endpoint` — what is asked of an entry, and the endpoint
  that it describes.
* `Entry.ofValue`, `Entry.toValue` — reading and writing.
-/

namespace Failover

/-- A configured endpoint. -/
structure Entry where
  /-- The name that callers use. -/
  name : String
  /-- The model, perhaps after a protocol and a slash. -/
  model : String
  /-- What the endpoint is reached with. -/
  credentials : Credentials := {}
  /-- How many requests a minute it tolerates. -/
  rpm : Option UInt32 := none
  /-- The request field under which the backend expects the token limit. -/
  maxTokensField : Option String := none
  deriving DecidableEq

namespace Entry

/-- The target that the model text names. -/
def target (e : Entry) : Target := Target.ofText e.model

/-- What is wrong with an entry, if anything: its name and its model have to be
more than blanks. -/
def fault? (e : Entry) : Option ConfigFault :=
  if Text.isBlankText e.name then some .nameMissing
  else if Text.isBlankText e.model then some .modelMissing
  else none

/-- Accept an entry or say what is wrong with it. -/
def check (e : Entry) : Except RoutingError Unit :=
  match e.fault? with
  | some fault => .error (.config fault none)
  | none => .ok ()

/-- The endpoint that an entry describes.  A rate of zero is no hint. -/
def endpoint (e : Entry) : Except RoutingError Endpoint := do
  e.check
  return .ofTarget e.name e.target.text e.credentials (e.rpm.filter (0 < ·)) e.maxTokensField

/-! ### Reading and writing -/

/-- The fields of an entry, in the order of their declaration. -/
def fieldNames : List String :=
  ["model_name", "model", "api_base", "api_key", "proxy", "auth_method", "connect_mode",
    "rpm", "max_tokens_field"]

/-- An entry of which the required fields may not have been seen yet. -/
structure Draft where
  /-- The name, once it has been seen. -/
  name : Option String := none
  /-- The model, once it has been seen. -/
  model : Option String := none
  /-- The credential fields so far. -/
  credentials : Credentials := {}
  /-- The rate so far. -/
  rpm : Option UInt32 := none
  /-- The token limit's field so far. -/
  maxTokensField : Option String := none

/-- Read one field into a draft. -/
def Draft.set (d : Draft) (field : String) (v : Value) : Except Refusal Draft :=
  let optional := Value.asOption Value.asText v
  match field with
  | "model_name" => return { d with name := some (← v.asText) }
  | "model" => return { d with model := some (← v.asText) }
  | "api_base" => return { d with credentials := { d.credentials with apiBase := ← optional } }
  | "api_key" => return { d with credentials := { d.credentials with apiKey := ← optional } }
  | "proxy" => return { d with credentials := { d.credentials with proxy := ← optional } }
  | "auth_method" =>
      return { d with credentials := { d.credentials with authMethod := ← optional } }
  | "connect_mode" =>
      return { d with credentials := { d.credentials with connectMode := ← optional } }
  | "rpm" => return { d with rpm := ← Value.asOption Value.asCount v }
  | "max_tokens_field" => return { d with maxTokensField := ← optional }
  | _ => return d

/-- The entry of a draft that has both required fields. -/
def Draft.entry (d : Draft) : Except Refusal Entry :=
  match d.name, d.model with
  | some name, some model => .ok ⟨name, model, d.credentials, d.rpm, d.maxTokensField⟩
  | _, _ => .error .form

/-- Read an entry. -/
def ofValue : Reader Entry := fun v => do
  (← Value.asRecord fieldNames {} Draft.set v).entry

/-- An entry as a value; what is missing is left out. -/
def toValue (e : Entry) : Value :=
  .object <|
    [("model_name", .text e.name), ("model", .text e.model)] ++
      Value.ifAny "api_base" (e.credentials.apiBase.map .text) ++
      Value.ifAny "api_key" (e.credentials.apiKey.map .text) ++
      Value.ifAny "proxy" (e.credentials.proxy.map .text) ++
      Value.ifAny "auth_method" (e.credentials.authMethod.map .text) ++
      Value.ifAny "connect_mode" (e.credentials.connectMode.map .text) ++
      Value.ifAny "rpm" (e.rpm.map fun rpm => .int rpm.toNat) ++
      Value.ifAny "max_tokens_field" (e.maxTokensField.map .text)

end Entry

end Failover
