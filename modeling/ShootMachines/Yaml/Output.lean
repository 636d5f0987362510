import ShootMachines.Schema.Write
import ShootMachines.Yaml.Value

/-!
# Typed values as YAML values

A schema lays out a typed value as a YAML value: fields stand in the order of their declaration, and
the variant of a choice is a tag.
-/

namespace ShootMachines

namespace Yaml.Value

/-- A number as a scalar. -/
def ofNumber : Number → Value
  | .whole value => .scalar (.whole value)
  | .binary value => .scalar (.binary value)

mutual

/-- A document value, which has no tags. -/
def ofPayload : Payload → Value
  | .null => .scalar .null
  | .flag value => .scalar (.flag value)
  | .number value => ofNumber value
  | .text value => .text value
  | .list items => .list (ofItems items)
  | .object fields => .mapping (ofFields fields)

/-- The items of a list. -/
def ofItems : List Payload → List Value
  | [] => []
  | item :: rest => ofPayload item :: ofItems rest

/-- The fields of an object. -/
def ofFields : List (String × Payload) → List (Value × Value)
  | [] => []
  | (key, value) :: rest => (.text key, ofPayload value) :: ofFields rest

end

/-- The value with further entries in front, if it is a mapping. -/
def withEntries (entries : List (Value × Value)) : Value → Value
  | .mapping others => .mapping (entries ++ others)
  | other => other

end Yaml.Value

mutual

/-- Lay out a value as its schema says. -/
def Schema.layout : {α : Type} → Schema α → α → Yaml.Value
  | _, .optional item, value =>
      match value with
      | some present => item.layout present
      | none => .scalar .null
  | _, .list item, value => .list (value.map fun element => item.layout element)
  | _, .dict item, value =>
      .mapping (value.entries.map fun entry => (.text entry.1, item.layout entry.2))
  | _, .record _ fields _ parts _ _, value => .mapping (fields.layout (parts value))
  | _, .choice cases _ parts _ _, value => cases.layout (parts value)
  | _, .resource apiVersion kind _ item, value =>
      (item.layout value).withEntries
        [(.text "apiVersion", .text apiVersion), (.text "kind", .text kind)]
  | _, schema, value => .ofPayload (schema.encode value)

/-- Lay out the declared fields. An absent optional value is left out. -/
def Fields.layout : {β : Type} → Fields β → β → List (Yaml.Value × Yaml.Value)
  | _, .nil, _ => []
  | _, .cons key _ schema rest, (value, others) =>
      if schema.omits value then rest.layout others
      else (.text key, schema.layout value) :: rest.layout others

/-- Lay out a variant under its tag. -/
def Cases.layout : {β : Type} → Cases β → β → Yaml.Value
  | _, .cons tag schema _, .inl value => .tagged tag (schema.layout value)
  | _, .cons _ _ rest, .inr value => rest.layout value

end

end ShootMachines
