import Failover.Value

/-!
# Selections

A selection says which name a request is for and which names to fall back on.

## Main definitions

* `Selection`, `Selection.candidates` — selections and the chain they stand for.
* `AgentDefaults`, `AgentDefaults.selection` — a selection in two parts.
-/

namespace Failover

/-- A name, and the names to fall back on. -/
structure Selection where
  /-- The name to try first. -/
  primary : String
  /-- The names to try after it, in order. -/
  fallbacks : List String := []
  deriving DecidableEq

namespace Selection

/-- The names to try, in order. -/
def candidates (s : Selection) : List String := s.primary :: s.fallbacks

/-- Read a selection: a lone name, or an object.  There is no form by
position. -/
def ofValue : Reader Selection
  | .text name => .ok { primary := name }
  | .object fields => do
      let some primary := fields.lookup "primary" | .error .form
      let primary ← primary.asText
      match fields.lookup "fallbacks" with
      | none => return { primary }
      | some v => return { primary, fallbacks := ← Value.asList Value.asText v }
  | _ => .error .form

/-- A selection as a value. -/
def toValue (s : Selection) : Value :=
  .object [("primary", .text s.primary), ("fallbacks", .ofTexts s.fallbacks)]

end Selection

/-- The model settings of an agent: a selection, and more names to fall back
on. -/
structure AgentDefaults where
  /-- The selection. -/
  model : Selection
  /-- Names to try after those of the selection. -/
  fallbacks : List String := []
  deriving DecidableEq

namespace AgentDefaults

/-- Both parts as one selection. -/
def selection (a : AgentDefaults) : Selection :=
  { a.model with fallbacks := a.model.fallbacks ++ a.fallbacks }

/-- The fields, in the order of their declaration. -/
def fieldNames : List String := ["model", "model_fallbacks"]

/-- Read the settings of an agent; the selection is required. -/
def ofValue : Reader AgentDefaults := fun v => do
  let (model, fallbacks) ← Value.asRecord fieldNames (none, [])
    (fun (model, fallbacks) field v =>
      match field with
      | "model" => return (some (← Selection.ofValue v), fallbacks)
      | "model_fallbacks" => return (model, ← Value.asList Value.asText v)
      | _ => return (model, fallbacks)) v
  match model with
  | some model => return { model, fallbacks }
  | none => .error .form

/-- The settings of an agent as a value; without more names, that field is left
out. -/
def toValue (a : AgentDefaults) : Value :=
  .object <|
    ("model", a.model.toValue) ::
      if a.fallbacks.isEmpty then [] else [("model_fallbacks", .ofTexts a.fallbacks)]

end AgentDefaults

end Failover
