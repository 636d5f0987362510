import ShootMachines.Proofs.Document.DictLemmas
import ShootMachines.Schema.Undeclared
import ShootMachines.Schema.Write

/-!
# Plain layouts

A plain layout writes every value in full: what it writes holds no null, and a missing field stands
for an absent optional value only. Read `encode_filled` first: documents of plain layouts are filled.
A filled document has no undeclared fields beside itself (`Payload.undeclared_self`), so a strict
reader has nothing to object to in what was written.
-/

namespace ShootMachines

/-- Whether a layout is that of an optional value. -/
def Schema.isOptional : {α : Type} → Schema α → Bool
  | _, .optional _ => true
  | _, _ => false

/-- Whether a missing field of a layout stands for the value that is left out when it is written. -/
def Presence.fits : {α : Type} → Presence α → Schema α → Bool
  | _, .required, .optional _ => false
  | _, .default value, .optional _ => value.isNone
  | _, .named value, .optional _ => value.isNone
  | _, _, _ => true

mutual

/-- Whether a layout is plain. Bytes, opaque documents, variants and typed resources are not. -/
def Schema.plain : {α : Type} → Schema α → Bool
  | _, .optional item => !item.isOptional && item.plain
  | _, .list item => !item.isOptional && item.plain
  | _, .dict item => !item.isOptional && item.plain
  | _, .record _ fields _ _ _ _ => fields.plain
  | _, .bytes => false
  | _, .payload => false
  | _, .choice _ _ _ _ _ => false
  | _, .resource _ _ _ _ => false
  | _, _ => true

/-- Whether the fields of a record are plain and have distinct keys. -/
def Fields.plain : {β : Type} → Fields β → Bool
  | _, .nil => true
  | _, .cons key presence schema rest =>
      !rest.keys.contains key && presence.fits schema && schema.plain && rest.plain

end

/-- The first field of a plain record has a key of its own, stands for what is left out when it is
missing, and is plain, as are the other fields. -/
theorem Fields.plain_cons {α β : Type} {key : String} {presence : Presence α} {schema : Schema α}
    {rest : Fields β} (h : (Fields.cons key presence schema rest).plain = true) :
    key ∉ rest.keys ∧ presence.fits schema = true ∧ schema.plain = true ∧ rest.plain = true := by
  simpa [Fields.plain, and_assoc] using h

/-- Only an optional value is left out. -/
theorem Schema.omits_eq_false {α : Type} {schema : Schema α} (h : schema.isOptional = false)
    (value : α) : schema.omits value = false := by
  cases schema with
  | optional item => cases h
  | _ => rfl

namespace Payload

mutual

/-- A document in which nothing is null and the keys of every object are ascending. -/
def Filled : Payload → Prop
  | .null => False
  | .list items => FilledItems items
  | .object fields => Ascending fields ∧ FilledFields fields
  | _ => True

/-- Every item is filled. -/
def FilledItems : List Payload → Prop
  | [] => True
  | item :: rest => item.Filled ∧ FilledItems rest

/-- Every field is filled. -/
def FilledFields : List (String × Payload) → Prop
  | [] => True
  | (_, value) :: rest => value.Filled ∧ FilledFields rest

end

/-- A filled document is not null. -/
theorem Filled.is_null_eq_false {payload : Payload} (h : payload.Filled) :
    payload.isNull = false := by
  cases payload with
  | null => exact False.elim h
  | _ => rfl

/-- Items are filled one by one. -/
theorem filled_items_iff {items : List Payload} :
    FilledItems items ↔ ∀ item ∈ items, item.Filled := by
  induction items with
  | nil => simp [FilledItems]
  | cons item rest ih => simp [FilledItems, ih]

/-- Fields are filled one by one. -/
theorem filled_fields_iff {fields : List (String × Payload)} :
    FilledFields fields ↔ ∀ field ∈ fields, field.2.Filled := by
  induction fields with
  | nil => simp [FilledFields]
  | cons field rest ih => simp [FilledFields, ih]

mutual

/-- A filled document has no undeclared fields beside itself, whatever the layout. -/
theorem undeclared_self : (payload : Payload) → payload.Filled → (position : LayoutPosition) →
    payload.undeclared payload position = []
  | .null, _, _ => rfl
  | .flag _, _, _ => rfl
  | .number _, _, _ => rfl
  | .text _, _, _ => rfl
  | .list items, h, position => undeclared_items_self items h position.items 0
  | .object fields, h, position =>
      undeclared_fields_self fields h.2 position fun _ hfield =>
        lookup_of_mem h.1.nodup hfield

/-- Filled fields that are found again are declared. -/
theorem undeclared_fields_self : (given : List (String × Payload)) → FilledFields given →
    (position : LayoutPosition) → {written : List (String × Payload)} →
    (∀ field ∈ given, written.lookup field.1 = some field.2) →
    undeclaredFields given written position = []
  | [], _, _, _, _ => rfl
  | (key, value) :: rest, h, position, written, hfound => by
      -- `written` stays whole while `given` is walked: its fields are looked up and not consumed.
      have hvalue : written.lookup key = some value := hfound (key, value) List.mem_cons_self
      have hbelow := undeclared_self value h.1 (position.property key)
      have hrest := undeclared_fields_self rest h.2 position fun field hfield =>
        hfound field (List.mem_cons_of_mem _ hfield)
      rw [undeclaredFields, h.1.is_null_eq_false, hvalue, hrest]
      simp [hbelow]

/-- Filled items have no undeclared fields beside themselves. -/
theorem undeclared_items_self : (items : List Payload) → FilledItems items →
    (position : LayoutPosition) → (index : Nat) →
    undeclaredItems items items position index = []
  | [], _, _, _ => rfl
  | item :: rest, h, position, index => by
      rw [undeclaredItems, undeclared_self item h.1 position,
        undeclared_items_self rest h.2 position (index + 1)]
      rfl

end

end Payload

mutual

/-- What a plain layout writes is filled, unless it leaves the value out. -/
theorem Schema.encode_filled : {α : Type} → (schema : Schema α) → schema.plain = true →
    (value : α) → schema.omits value = false → (schema.encode value).Filled
  | _, .text, _, _, _ => trivial
  | _, .flag, _, _, _ => trivial
  | _, .int32, _, _, _ => trivial
  | _, .int64, _, _, _ => trivial
  | _, .uint32, _, _, _ => trivial
  | _, .quantity, _, _, _ => trivial
  | _, .intOrText, _, .int _, _ => trivial
  | _, .intOrText, _, .text _, _ => trivial
  | _, .instant, _, _, _ => trivial
  | _, .optional item, hplain, some present, _ => by
      rw [Schema.plain, Bool.and_eq_true, Bool.not_eq_true'] at hplain
      exact item.encode_filled hplain.2 present (Schema.omits_eq_false hplain.1 present)
  | _, .list item, hplain, items, _ => by
      rw [Schema.plain, Bool.and_eq_true, Bool.not_eq_true'] at hplain
      refine Payload.filled_items_iff.2 fun written hwritten => ?_
      obtain ⟨value, _, rfl⟩ := List.mem_map.1 hwritten
      exact item.encode_filled hplain.2 value (Schema.omits_eq_false hplain.1 value)
  | _, .dict item, hplain, dict, _ => by
      rw [Schema.plain, Bool.and_eq_true, Bool.not_eq_true'] at hplain
      refine ⟨?_, Payload.filled_fields_iff.2 fun written hwritten => ?_⟩
      · simpa [Ascending, Function.comp_def] using dict.ascending
      · obtain ⟨entry, _, rfl⟩ := List.mem_map.1 hwritten
        exact item.encode_filled hplain.2 entry.2 (Schema.omits_eq_false hplain.1 entry.2)
  | _, .record _ fields _ parts _ _, hplain, value, _ =>
      ⟨(Dict.ofList _).ascending, Payload.filled_fields_iff.2 fun _ hfield =>
        fields.encode_filled hplain (parts value) _ (Dict.mem_of_mem_of_list hfield)⟩

/-- The fields that a plain record writes are filled. -/
theorem Fields.encode_filled : {β : Type} → (fields : Fields β) → fields.plain = true →
    (value : β) → ∀ field ∈ fields.encode value, field.2.Filled
  | _, .nil, _, _ => fun _ hfield => nomatch hfield
  | _, .cons key presence schema rest, hplain, (value, others) => by
      obtain ⟨_, _, hschema, hrest⟩ := Fields.plain_cons hplain
      intro field hfield
      rw [Fields.encode] at hfield
      split at hfield
      · exact rest.encode_filled hrest others field hfield
      · rename_i homits
        rcases List.mem_cons.1 hfield with rfl | hothers
        · exact schema.encode_filled hschema value (Bool.eq_false_iff.2 homits)
        · exact rest.encode_filled hrest others field hothers

end

end ShootMachines
