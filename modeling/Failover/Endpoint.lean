import Failover.Credentials
import Failover.Digest
import Failover.Table
import Failover.Target

/-!
# Endpoints

An endpoint is one way to reach a model.  It is registered under a name that
callers use, but its identity is that of its target and credentials alone: two
names for the same target and credentials are one endpoint, and one name may
stand for several.

The identity is the target followed by the start of a digest.  What is digested
lists the target and the credential fields, each marked as missing or preceded
by its length, so that no two lists run into the same bytes.

## Main definitions

* `EndpointId`, `EndpointId.derive` — identities.
* `EndpointId.material` — the bytes that are digested.
* `Endpoint`, `Endpoint.ofTarget` — endpoints.
-/

namespace Failover

/-! ### Identities -/

/-- The identity of an endpoint: what its cooldown and its budget belong to. -/
structure EndpointId where
  /-- The target, a number sign, and twelve hexadecimal digits. -/
  text : String
  deriving DecidableEq

namespace EndpointId

instance : LT EndpointId := ⟨fun a b => a.text < b.text⟩

instance : Key EndpointId where
  decLT a b := inferInstanceAs (Decidable (a.text < b.text))
  irrefl a := Key.irrefl a.text
  trans h₁ h₂ := Key.trans (κ := String) h₁ h₂
  eq_of_not_lt {a b} h₁ h₂ := by
    obtain ⟨a⟩ := a
    obtain ⟨b⟩ := b
    exact congrArg mk (Key.eq_of_not_lt (κ := String) h₁ h₂)

/-- The `n` lowest bytes of a number, the least significant first. -/
def littleEndian (n value : Nat) : List UInt8 :=
  (List.range n).map fun i => UInt8.ofNat (value >>> (8 * i) % 256)

/-- The bytes of a text. -/
def bytes (text : String) : List UInt8 := text.toUTF8.data.toList

/-- A field that may be missing, as bytes: a zero for a missing one, and a one,
the length in eight bytes and the text for another. -/
def fieldBytes : Option String → List UInt8
  | none => [0]
  | some text => 1 :: littleEndian 8 (bytes text).length ++ bytes text

/-- The bytes that the digest of an identity is taken of. -/
def material (target : String) (c : Credentials) : List UInt8 :=
  fieldBytes (some target) ++ fieldBytes c.apiKey ++ fieldBytes c.apiBase ++
    fieldBytes c.proxy ++ fieldBytes c.authMethod ++ fieldBytes c.connectMode

/-- The identity of a target reached with some credentials, under any digest. -/
def deriveWith (digest : List UInt8 → Digest) (target : String) (c : Credentials) :
    EndpointId :=
  ⟨target ++ "#" ++
    String.ofList (((digest (material target c)).toList.take 6).flatMap Digest.hexByte)⟩

/-- The identity of a target reached with some credentials. -/
def derive (target : String) (c : Credentials) : EndpointId :=
  deriveWith Digest.sha256 target c

/-- An identity as diagnostic output. -/
def diagnostic (id : EndpointId) : String := "EndpointId(" ++ id.text ++ ")"

end EndpointId

/-! ### Endpoints -/

/-- One way to reach a model. -/
structure Endpoint where
  /-- The name that callers use. -/
  name : String
  /-- The model and its protocol, as a text. -/
  target : String
  /-- What the endpoint is reached with. -/
  credentials : Credentials
  /-- How many requests a minute it tolerates, as far as is known. -/
  rpmHint : Option UInt32
  /-- The request field under which the backend expects the token limit. -/
  maxTokensField : Option String
  /-- The identity. -/
  id : EndpointId
  deriving DecidableEq

namespace Endpoint

/-- The endpoint of a target and credentials, under a name. -/
def ofTarget (name target : String) (credentials : Credentials)
    (rpmHint : Option UInt32 := none) (maxTokensField : Option String := none) : Endpoint :=
  { name, target, credentials, rpmHint, maxTokensField,
    id := EndpointId.derive target credentials }

/-- The protocol that the endpoint speaks. -/
def protocol (e : Endpoint) : String := (Target.ofText e.target).protocol

/-- The model in the words of the provider. -/
def model (e : Endpoint) : String := (Target.ofText e.target).model

end Endpoint

end Failover
