import ShootMachines.Document.Dict
import ShootMachines.Number.Binary64

/-!
# Document values

Provider sections of Gardener resources travel as opaque values: nulls, flags, numbers, texts, lists
and objects. The readers of this library build objects with strictly ascending keys, so that
equal documents are equal values.
-/

namespace ShootMachines

/-- A number of a document: whole, or a finite floating-point value. -/
inductive Number where
  | whole (value : Int)
  | binary (value : Binary64)
  deriving DecidableEq, Repr

/-- A document value. -/
inductive Payload where
  | null
  | flag (value : Bool)
  | number (value : Number)
  | text (value : String)
  | list (items : List Payload)
  | object (fields : List (String × Payload))
  deriving Inhabited

namespace Payload

/-- The object with the given fields; of two fields with one key the later stays. -/
def ofFields (fields : List (String × Payload)) : Payload :=
  .object (Dict.ofList fields).entries

/-- A whole number. -/
def int (value : Int) : Payload :=
  .number (.whole value)

/-- Whether the value is null. -/
def isNull : Payload → Bool
  | .null => true
  | _ => false

/-- The field of an object with the given key. -/
def get? (payload : Payload) (key : String) : Option Payload :=
  match payload with
  | .object fields => fields.lookup key
  | _ => none

/-- The text of a text value. -/
def text? : Payload → Option String
  | .text value => some value
  | _ => none

/-- The object without the fields of the given keys; other values stay as they are. -/
def without (payload : Payload) (keys : List String) : Payload :=
  match payload with
  | .object fields => .object (fields.filter fun field => field.1 ∉ keys)
  | other => other

/-- The object with one more field; an earlier field with the key gives way. -/
def withField (payload : Payload) (key : String) (value : Payload) : Payload :=
  match payload with
  | .object fields => .object (insertEntry key value fields)
  | other => other

mutual

/-- Every object within the value has strictly ascending keys. -/
def Normal : Payload → Prop
  | .list items => NormalItems items
  | .object fields => Ascending fields ∧ NormalFields fields
  | _ => True

/-- Every item is normal. -/
def NormalItems : List Payload → Prop
  | [] => True
  | item :: rest => item.Normal ∧ NormalItems rest

/-- Every field is normal. -/
def NormalFields : List (String × Payload) → Prop
  | [] => True
  | (_, value) :: rest => value.Normal ∧ NormalFields rest

end

end Payload

end ShootMachines
