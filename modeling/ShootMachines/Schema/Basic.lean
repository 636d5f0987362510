import ShootMachines.Document.Payload
import ShootMachines.Kubernetes.Instant
import ShootMachines.Kubernetes.IntOrText
import ShootMachines.Kubernetes.Quantity
import ShootMachines.Text.Base64

/-!
# Schemas

A schema says how the values of a type are laid out in documents: which fields an object has, what
stands for a missing one, and which form every part has. Reading, writing and the search for
undeclared fields are functions of the schema, so each is defined once for all types.
-/

namespace ShootMachines

/-- What stands for a field that is not given. -/
inductive Presence (α : Type) where
  /-- The field must be given. -/
  | required
  /-- A value stands for the missing field. -/
  | default (value : α)
  /-- A value stands for the field missing from an object; a list must hold it. -/
  | named (value : α)

/-- How the object of a record may be written. -/
inductive RecordStyle where
  /-- An object, or a list of the fields in their order. -/
  | flexible
  /-- An object only. -/
  | object
  /-- An object only; a null stands for a missing field, and of two fields with one key the later
  counts. -/
  | tolerant
  deriving DecidableEq, Repr

mutual

/-- How the values of a type are laid out in documents. -/
inductive Schema : Type → Type 1 where
  | text : Schema String
  | flag : Schema Bool
  | int32 : Schema Int32
  | int64 : Schema Int64
  | uint32 : Schema UInt32
  | quantity : Schema Quantity
  | intOrText : Schema IntOrText
  | bytes : Schema Bytes
  | instant : Schema Instant
  | payload : Schema Payload
  /-- A value or null. -/
  | optional {α : Type} (item : Schema α) : Schema (Option α)
  | list {α : Type} (item : Schema α) : Schema (List α)
  | dict {α : Type} (item : Schema α) : Schema (Dict α)
  /-- An object with declared fields. -/
  | record {α β : Type} (style : RecordStyle) (fields : Fields β) (build : β → α)
      (parts : α → β) (build_parts : ∀ value, build (parts value) = value)
      (parts_build : ∀ value, parts (build value) = value) : Schema α
  /-- One of several variants, each under its tag. -/
  | choice {α β : Type} (cases : Cases β) (build : β → α) (parts : α → β)
      (build_parts : ∀ value, build (parts value) = value)
      (parts_build : ∀ value, parts (build value) = value) : Schema α
  /-- An object that also states its type. Only a checked type is compared on reading. -/
  | resource {α : Type} (apiVersion kind : String) (checked : Bool) (item : Schema α) : Schema α

/-- The declared fields of a record, in order. -/
inductive Fields : Type → Type 1 where
  | nil : Fields Unit
  | cons {α β : Type} (key : String) (presence : Presence α) (schema : Schema α)
      (rest : Fields β) : Fields (α × β)

/-- The variants of a choice, in order. -/
inductive Cases : Type → Type 1 where
  | nil : Cases Empty
  | cons {α β : Type} (tag : String) (schema : Schema α) (rest : Cases β) : Cases (α ⊕ β)

end

namespace Fields

/-- A field that must be given. -/
def required (key : String) (schema : Schema α) (rest : Fields β) : Fields (α × β) :=
  .cons key .required schema rest

/-- A field with a value that stands for it when it is missing. -/
def default (key : String) (schema : Schema α) (value : α) (rest : Fields β) : Fields (α × β) :=
  .cons key (.default value) schema rest

/-- A field that may be missing or null. -/
def optional (key : String) (schema : Schema α) (rest : Fields β) : Fields (Option α × β) :=
  .cons key (.default none) (.optional schema) rest

/-- The keys of the declared fields, in order. -/
def keys : {β : Type} → Fields β → List String
  | _, .nil => []
  | _, .cons key _ _ rest => key :: rest.keys

end Fields

namespace Schema

/-- A record whose layout is the list of its parts. -/
def ofParts {α β : Type} (style : RecordStyle) (fields : Fields β) (build : β → α)
    (parts : α → β) (build_parts : ∀ value, build (parts value) = value := by intro _; rfl)
    (parts_build : ∀ value, parts (build value) = value := by intro _; rfl) : Schema α :=
  .record style fields build parts build_parts parts_build

end Schema

end ShootMachines
