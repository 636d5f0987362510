import ShootMachines.Schema.Basic

/-!
# Writing typed values

A schema writes a value as a document value. A field whose optional value is absent is left out; all
other fields are written.
-/

namespace ShootMachines

/-- Whether a value is left out as a field: an optional value that is absent. -/
def Schema.omits : {α : Type} → Schema α → α → Bool
  | _, .optional _, none => true
  | _, _, _ => false

mutual

/-- Write a value as its schema says. -/
def Schema.encode : {α : Type} → Schema α → α → Payload
  | _, .text, value => .text value
  | _, .flag, value => .flag value
  | _, .int32, value => .int value.toInt
  | _, .int64, value => .int value.toInt
  | _, .uint32, value => .int value.toNat
  | _, .quantity, value => .text value.text
  | _, .intOrText, value =>
      match value with
      | .int count => .int count.toInt
      | .text text => .text text
  | _, .bytes, value => .text (Base64.encode value)
  | _, .instant, value => .text value.text
  | _, .payload, value => value
  | _, .optional item, value =>
      match value with
      | some present => item.encode present
      | none => .null
  | _, .list item, value => .list (value.map fun element => item.encode element)
  | _, .dict item, value =>
      .object (value.entries.map fun entry => (entry.1, item.encode entry.2))
  | _, .record _ fields _ parts _ _, value => .ofFields (fields.encode (parts value))
  | _, .choice cases _ parts _ _, value =>
      let (tag, content) := cases.encode (parts value)
      .object [(tag, content)]
  | _, .resource apiVersion kind _ item, value =>
      ((item.encode value).withField "apiVersion" (.text apiVersion)).withField "kind" (.text kind)

/-- Write the declared fields. -/
def Fields.encode : {β : Type} → Fields β → β → List (String × Payload)
  | _, .nil, _ => []
  | _, .cons key _ schema rest, (value, others) =>
      if schema.omits value then rest.encode others
      else (key, schema.encode value) :: rest.encode others

/-- Write the tag and the content of a variant. -/
def Cases.encode : {β : Type} → Cases β → β → String × Payload
  | _, .cons tag schema _, .inl value => (tag, schema.encode value)
  | _, .cons _ _ rest, .inr value => rest.encode value

end

end ShootMachines
