/-!
# Targets

A target says which model is meant and which protocol it is spoken to with:
`protocol/model`.  Only the first slash separates the two, and a text without a
slash names a model of the default protocol.

## Main definitions

* `Target`, `Target.ofText`, `Target.text` — targets, their reading and writing.
-/

namespace Failover

/-- A model and the protocol it is spoken to with. -/
structure Target where
  /-- The protocol. -/
  protocol : String
  /-- The model, in the words of the provider. -/
  model : String
  deriving DecidableEq

namespace Target

/-- The protocol of a text that names none. -/
def defaultProtocol : String := "openai"

/-- The target that a text names. -/
def ofText (text : String) : Target :=
  let cs := text.toList
  match cs.dropWhile (· ≠ '/') with
  | [] => ⟨defaultProtocol, text⟩
  | _ :: model => ⟨String.ofList (cs.takeWhile (· ≠ '/')), String.ofList model⟩

/-- A target as a text. -/
def text (t : Target) : String := t.protocol ++ "/" ++ t.model

end Target

end Failover
