import ShootMachines.Failure
import ShootMachines.Schema.Basic

/-!
# Undeclared fields

A strict reader refuses the fields that a type does not declare. They are found by walking a document
beside what was read from it and written again: a field that is missing there was passed over. A null
is never written again, so for nulls the layout of the type decides whether there is such a field.
Nothing is looked for below an undeclared field, nor where the two documents are not both objects or
both lists.
-/

namespace ShootMachines

/-- A position in the layout of a type, or one that the layout says nothing about. -/
inductive LayoutPosition : Type 1 where
  | within {α : Type} (schema : Schema α)
  | beyond

/-- The position of a declared field. -/
def Fields.property (key : String) : {β : Type} → Fields β → LayoutPosition
  | _, .nil => .beyond
  | _, .cons declared _ schema rest =>
      if declared = key then .within schema else rest.property key

/-- The tags of the variants, in order. -/
def Cases.tags : {β : Type} → Cases β → List String
  | _, .nil => []
  | _, .cons tag _ rest => tag :: rest.tags

/-- The position of the content of a variant. -/
def Cases.property (key : String) : {β : Type} → Cases β → LayoutPosition
  | _, .nil => .beyond
  | _, .cons tag schema rest => if tag = key then .within schema else rest.property key

namespace Schema

/-- The position of the field of an object. -/
def property (key : String) : {α : Type} → Schema α → LayoutPosition
  | _, .optional item => item.property key
  | _, .dict item => .within item
  | _, .record _ fields _ _ _ _ => fields.property key
  | _, .choice cases _ _ _ _ => cases.property key
  | _, .resource _ _ _ item => item.property key
  | _, _ => .beyond

/-- The position of the items of a list. -/
def items : {α : Type} → Schema α → LayoutPosition
  | _, .optional item => item.items
  | _, .list item => .within item
  | _, .resource _ _ _ item => item.items
  | _, _ => .beyond

/-- Whether an object may have a field with a key. -/
def allows (key : String) : {α : Type} → Schema α → Bool
  | _, .optional item => item.allows key
  | _, .payload => true
  | _, .dict _ => true
  | _, .record _ fields _ _ _ _ => fields.keys.contains key
  | _, .choice cases _ _ _ _ => cases.tags.contains key
  | _, .resource _ _ _ item => item.allows key
  | _, _ => false

end Schema

namespace LayoutPosition

/-- The position of the field of an object. -/
def property (key : String) : LayoutPosition → LayoutPosition
  | within schema => schema.property key
  | beyond => beyond

/-- The position of the items of a list. -/
def items : LayoutPosition → LayoutPosition
  | within schema => schema.items
  | beyond => beyond

/-- Whether an object may have a field with a key; where the layout says nothing, it may. -/
def allows (key : String) : LayoutPosition → Bool
  | within schema => schema.allows key
  | beyond => true

end LayoutPosition

namespace Payload

mutual

/-- The positions of the fields of a document that are missing from what was written again, outer
before inner and in the order of the document. -/
def undeclared : (given written : Payload) → LayoutPosition → List DocumentPath
  | .object given, .object written, position => undeclaredFields given written position
  | .list given, .list written, position => undeclaredItems given written position.items 0
  | _, _, _ => []

/-- The undeclared fields among and below the given fields of an object. -/
def undeclaredFields :
    (given written : List (String × Payload)) → LayoutPosition → List DocumentPath
  | [], _, _ => []
  | (key, value) :: rest, written, position =>
      (if value.isNull then if position.allows key then [] else [[.key key]]
        else
          match written.lookup key with
          | some counterpart =>
              (undeclared value counterpart (position.property key)).map (.key key :: ·)
          | none => [[.key key]]) ++
        undeclaredFields rest written position

/-- The undeclared fields below the given items of a list, from an index on. -/
def undeclaredItems :
    (given written : List Payload) → LayoutPosition → (index : Nat) → List DocumentPath
  | value :: rest, counterpart :: others, position, index =>
      (undeclared value counterpart position).map (.item index :: ·) ++
        undeclaredItems rest others position (index + 1)
  | _, _, _, _ => []

end

end Payload

end ShootMachines
