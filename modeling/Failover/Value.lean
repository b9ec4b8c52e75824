import Failover.Table

/-!
# Structured values

Configuration arrives as values of a data format: texts, numbers, lists, and
objects of named fields.  A record is given either by name, as an object, or by
position, as a list of its fields in the order of their declaration, and names
that a record does not have are passed over.

## Main definitions

* `Value` — the values.
* `Refusal`, `Reader` — reading a value as something of a certain type.
* `Value.fieldsOf` — the fields that a value gives to a record.
-/

namespace Failover

/-- A value of a data format. -/
inductive Value where
  /-- The absent value. -/
  | null
  /-- A truth value. -/
  | bool (b : Bool)
  /-- A number written as an integer. -/
  | int (n : Int)
  /-- A number written with a fraction or an exponent, as it is written. -/
  | real (literal : String)
  /-- A text. -/
  | text (s : String)
  /-- A list. -/
  | list (items : List Value)
  /-- An object: named fields. -/
  | object (fields : List (String × Value))

instance : Inhabited Value := ⟨.null⟩

/-- Why a value cannot be read. -/
inductive Refusal where
  /-- The value has not the form that is asked for. -/
  | form
  /-- The value holds a length of time whose last carry does not fit. -/
  | carryOverflow
  deriving DecidableEq

/-- Reading values of a type. -/
abbrev Reader (α : Type) := Value → Except Refusal α

namespace Value

/-- The object of some fields: the last one of a name counts, and the fields are
in ascending order of their names. -/
def ofFields (fields : List (String × Value)) : Value :=
  .object (fields.foldl (fun t field => t.insert field.1 field.2) (∅ : Table String Value)).rows

/-- The list of some texts. -/
def ofTexts (texts : List String) : Value := .list (texts.map .text)

/-- A field that is left out when there is nothing to put into it. -/
def ifAny (name : String) : Option Value → List (String × Value)
  | some v => [(name, v)]
  | none => []

/-! ### Readers -/

/-- Read a text. -/
def asText : Reader String
  | .text s => .ok s
  | _ => .error .form

/-- Read a truth value. -/
def asBool : Reader Bool
  | .bool b => .ok b
  | _ => .error .form

/-- Read a count that fits into 32 bits.  It has to be written as an integer. -/
def asCount : Reader UInt32
  | .int n => if 0 ≤ n ∧ n.toNat < UInt32.size then .ok (UInt32.ofNat n.toNat) else .error .form
  | _ => .error .form

/-- Read something that may be missing. -/
def asOption {α : Type} (read : Reader α) : Reader (Option α)
  | .null => .ok none
  | v => (read v).map some

/-- Read a list; the first item that is refused decides. -/
def asList {α : Type} (read : Reader α) : Reader (List α)
  | .list items => items.mapM read
  | _ => .error .form

/-- The fields that a value gives to a record with the fields `names`, in the
order in which they are to be read: that of the value for an object, that of
`names` for a list. -/
def fieldsOf (names : List String) : Value → Except Refusal (List (String × Value))
  | .object fields => .ok (fields.filter fun field => names.contains field.1)
  | .list items => .ok (names.zip items)
  | _ => .error .form

/-- Whether a value gives no more fields than `names` by position. -/
def fits (names : List String) : Value → Bool
  | .list items => items.length ≤ names.length
  | _ => true

/-- Read a record field by field, starting from `start`.  A list that is too
long is refused after its fields have been read. -/
def asRecord {α : Type} (names : List String) (start : α)
    (set : α → String → Value → Except Refusal α) : Reader α := fun v => do
  let fields ← v.fieldsOf names
  let result ← fields.foldlM (fun a field => set a field.1 field.2) start
  if v.fits names then return result else .error .form

end Value

end Failover
