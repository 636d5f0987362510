import ShootMachines.Proofs.Schema.PlainLayout

/-!
# Faithful layouts

An opaque document may be null, and below an optional value null stands for a missing one: an optional
opaque document that is present and null is written like a missing one. A value without such a part is
legible. A faithful layout has no other way to lose what it writes: its records keep their fields apart,
and what stands for a missing field is legible itself. Plain layouts are faithful, and all of their values
are legible, since in them no part but an optional one is ever null.
-/

namespace ShootMachines

/-- Whether a layout may write a value as null. -/
def Schema.nullable : {α : Type} → Schema α → Bool
  | _, .optional _ => true
  | _, .payload => true
  | _, .resource _ _ _ item => item.nullable
  | _, _ => false

/-- Whether a layout is that of a record. -/
def Schema.isRecord : {α : Type} → Schema α → Bool
  | _, .record _ _ _ _ _ _ => true
  | _, _ => false

/-- Whether values are written as objects without some keys. -/
def Schema.avoids (keys : List String) : {α : Type} → Schema α → Bool
  | _, .record _ fields _ _ _ _ => keys.all fun key => key ∉ fields.keys
  | _, _ => false

mutual

/-- Whether a value can be read back: no optional value that is present is written as null. -/
def Schema.legible : {α : Type} → Schema α → α → Bool
  | _, .optional item, value =>
      match value with
      | some present => !(item.encode present).isNull && item.legible present
      | none => true
  | _, .list item, items => items.all fun element => item.legible element
  | _, .dict item, dict => dict.entries.all fun entry => item.legible entry.2
  | _, .record _ fields _ parts _ _, value => fields.legible (parts value)
  | _, .choice cases _ parts _ _, value => cases.legible (parts value)
  | _, .resource _ _ _ item, value => item.legible value
  | _, _, _ => true

/-- Whether the values of all fields can be read back. -/
def Fields.legible : {β : Type} → Fields β → β → Bool
  | _, .nil, _ => true
  | _, .cons _ _ schema rest, (value, others) => schema.legible value && rest.legible others

/-- Whether the content of a variant can be read back. -/
def Cases.legible : {β : Type} → Cases β → β → Bool
  | _, .cons _ schema _, .inl value => schema.legible value
  | _, .cons _ _ rest, .inr value => rest.legible value

end

/-- Whether the value that stands for a missing field can be read back. -/
def Presence.legible (presence : Presence α) (schema : Schema α) : Bool :=
  match presence with
  | .required => true
  | .default value => schema.legible value
  | .named value => schema.legible value

mutual

/-- Whether a layout reads back every legible value. -/
def Schema.faithful : {α : Type} → Schema α → Bool
  | _, .optional item => item.faithful
  | _, .list item => item.faithful
  | _, .dict item => item.faithful
  | _, .record _ fields _ _ _ _ => fields.faithful
  | _, .choice cases _ _ _ _ => cases.faithful
  | _, .resource _ _ _ item => item.avoids ["apiVersion", "kind"] && item.faithful
  | _, _ => true

/-- Whether the fields of a record are faithful and kept apart: they have distinct keys, a missing field
stands for what is left out, and only an optional field may be null. -/
def Fields.faithful : {β : Type} → Fields β → Bool
  | _, .nil => true
  | _, .cons key presence schema rest =>
      !rest.keys.contains key && presence.fits schema && presence.legible schema &&
        (schema.isOptional || !schema.nullable) && schema.faithful && rest.faithful

/-- Whether the variants of a choice are faithful records with distinct tags. -/
def Cases.faithful : {β : Type} → Cases β → Bool
  | _, .nil => true
  | _, .cons tag schema rest =>
      !rest.tags.contains tag && schema.isRecord && schema.faithful && rest.faithful

end

mutual

/-- Whether no optional part of a layout is nullable itself. -/
def Schema.definite : {α : Type} → Schema α → Bool
  | _, .optional item => !item.nullable && item.definite
  | _, .list item => item.definite
  | _, .dict item => item.definite
  | _, .record _ fields _ _ _ _ => fields.definite
  | _, .choice cases _ _ _ _ => cases.definite
  | _, .resource _ _ _ item => item.definite
  | _, _ => true

/-- Whether no optional part of a field is nullable itself. -/
def Fields.definite : {β : Type} → Fields β → Bool
  | _, .nil => true
  | _, .cons _ _ schema rest => schema.definite && rest.definite

/-- Whether no optional part of a variant is nullable itself. -/
def Cases.definite : {β : Type} → Cases β → Bool
  | _, .nil => true
  | _, .cons _ schema rest => schema.definite && rest.definite

end

/-- The first field of a faithful record has a key of its own, stands for what is left out when it is
missing, is null only if it is optional, and is faithful, as are the other fields. -/
theorem Fields.faithful_cons {α β : Type} {key : String} {presence : Presence α} {schema : Schema α}
    {rest : Fields β} (h : (Fields.cons key presence schema rest).faithful = true) :
    key ∉ rest.keys ∧ presence.fits schema = true ∧ presence.legible schema = true ∧
      (schema.isOptional = true ∨ schema.nullable = false) ∧ schema.faithful = true ∧
      rest.faithful = true := by
  simpa [Fields.faithful, and_assoc] using h

/-- The first variant of a faithful choice has a tag of its own and is a faithful record, as are the other
variants. -/
theorem Cases.faithful_cons {α β : Type} {tag : String} {schema : Schema α} {rest : Cases β}
    (h : (Cases.cons tag schema rest).faithful = true) :
    tag ∉ rest.tags ∧ schema.isRecord = true ∧ schema.faithful = true ∧ rest.faithful = true := by
  simpa [Cases.faithful, and_assoc] using h

/-! ## What is written -/

/-- Stating a type neither makes a document null nor keeps it from being null. -/
theorem Payload.is_null_with_field (payload : Payload) (key : String) (value : Payload) :
    (payload.withField key value).isNull = payload.isNull := by
  cases payload <;> rfl

/-- A layout that is not nullable writes no null. -/
theorem Schema.is_null_encode : {α : Type} → (schema : Schema α) → schema.nullable = false →
    (value : α) → (schema.encode value).isNull = false
  | _, schema, hnullable, value => by
      cases schema with
      | optional item => cases hnullable
      | payload => cases hnullable
      | intOrText => cases value <;> rfl
      | resource apiVersion kind checked item =>
          rw [Schema.encode, Payload.is_null_with_field, Payload.is_null_with_field]
          exact item.is_null_encode hnullable value
      | _ => rfl

/-- A legible value of a field is written as null only if it is left out. -/
theorem Schema.is_null_of_legible {α : Type} {schema : Schema α} {value : α}
    (hfield : schema.isOptional = true ∨ schema.nullable = false)
    (hlegible : schema.legible value = true) (homits : schema.omits value = false) :
    (schema.encode value).isNull = false := by
  rcases hfield with hoptional | hnullable
  · cases schema with
    | optional item =>
        cases value with
        | none => cases homits
        | some present =>
            rw [Schema.legible, Bool.and_eq_true, Bool.not_eq_true'] at hlegible
            exact hlegible.1
    | _ => cases hoptional
  · exact schema.is_null_encode hnullable value

/-- A record writes declared keys only. -/
theorem Fields.mem_keys_of_encode : {β : Type} → (fields : Fields β) → (value : β) →
    {key : String} → key ∈ (fields.encode value).map Prod.fst → key ∈ fields.keys
  | _, .nil, _, _, h => nomatch h
  | _, .cons declared presence schema rest, (present, others), key, h => by
      rw [Fields.encode] at h
      split at h
      · exact List.mem_cons_of_mem _ (rest.mem_keys_of_encode others h)
      · rcases List.mem_cons.1 h with rfl | hothers
        · exact List.mem_cons_self
        · exact List.mem_cons_of_mem _ (rest.mem_keys_of_encode others hothers)

/-- A faithful record writes no key twice. -/
theorem Fields.encode_distinct : {β : Type} → (fields : Fields β) → fields.faithful = true →
    (value : β) → ((fields.encode value).map Prod.fst).Nodup
  | _, .nil, _, _ => List.nodup_nil
  | _, .cons key presence schema rest, hfaithful, value => by
      obtain ⟨present, others⟩ := value
      obtain ⟨hkey, _, _, _, _, hrest⟩ := Fields.faithful_cons hfaithful
      rw [Fields.encode]
      split
      · exact rest.encode_distinct hrest others
      · rw [List.map_cons, List.nodup_cons]
        exact ⟨fun hmem => hkey (rest.mem_keys_of_encode others hmem),
          rest.encode_distinct hrest others⟩

/-- What a layout writes that avoids some keys is an object without them. -/
theorem Schema.encode_avoids {α : Type} {schema : Schema α} {keys : List String}
    (h : schema.avoids keys = true) (value : α) :
    ∃ fields, schema.encode value = .object fields ∧ ∀ field ∈ fields, field.1 ∉ keys := by
  cases schema with
  | record style fields build parts _ _ =>
      refine ⟨_, rfl, fun field hfield hkey => ?_⟩
      have hwritten := Dict.mem_of_mem_of_list hfield
      have hdeclared := fields.mem_keys_of_encode (parts value) (List.mem_map_of_mem hwritten)
      simp only [Schema.avoids, List.all_eq_true, decide_eq_true_eq] at h
      exact h field.1 hkey hdeclared
  | _ => cases h

/-- A record is written as an object. -/
theorem Schema.encode_record {α : Type} {schema : Schema α} (h : schema.isRecord = true)
    (value : α) : ∃ fields, schema.encode value = .object fields := by
  cases schema with
  | record style fields build parts _ _ => exact ⟨_, rfl⟩
  | _ => cases h

/-- A resource is written as an object if it is a record. -/
theorem Schema.encode_resource {α : Type} {apiVersion kind : String} {checked : Bool} {item : Schema α}
    (h : item.isRecord = true) (value : α) :
    ∃ fields, (Schema.resource apiVersion kind checked item).encode value = .object fields := by
  obtain ⟨fields, hfields⟩ := Schema.encode_record h value
  rw [Schema.encode, hfields]
  exact ⟨_, rfl⟩

/-- A choice writes the tag of one of its variants, which are objects. -/
theorem Cases.encode_faithful : {β : Type} → (cases : Cases β) → cases.faithful = true →
    (value : β) → ∃ tag ∈ cases.tags, ∃ fields, cases.encode value = (tag, .object fields)
  | _, .cons tag schema rest, hfaithful, .inl value => by
      obtain ⟨_, hrecord, _, _⟩ := Cases.faithful_cons hfaithful
      obtain ⟨fields, hfields⟩ := Schema.encode_record hrecord value
      refine ⟨tag, List.mem_cons_self, fields, ?_⟩
      rw [Cases.encode, hfields]
  | _, .cons _ _ rest, hfaithful, .inr value => by
      obtain ⟨_, _, _, hrest⟩ := Cases.faithful_cons hfaithful
      obtain ⟨tag, htag, fields, hfields⟩ := rest.encode_faithful hrest value
      exact ⟨tag, List.mem_cons_of_mem _ htag, fields, hfields⟩

/-! ## Definite and plain layouts -/

mutual

/-- Every value of a definite layout is legible. -/
theorem Schema.legible_of_definite : {α : Type} → (schema : Schema α) → schema.definite = true →
    (value : α) → schema.legible value = true
  | _, .optional _, _, none => rfl
  | _, .optional item, hdefinite, some present => by
      rw [Schema.definite, Bool.and_eq_true, Bool.not_eq_true'] at hdefinite
      rw [Schema.legible, item.is_null_encode hdefinite.1 present,
        item.legible_of_definite hdefinite.2 present]
      rfl
  | _, .list item, hdefinite, _ =>
      List.all_eq_true.2 fun element _ => item.legible_of_definite hdefinite element
  | _, .dict item, hdefinite, _ =>
      List.all_eq_true.2 fun entry _ => item.legible_of_definite hdefinite entry.2
  | _, .record _ fields _ parts _ _, hdefinite, value =>
      fields.legible_of_definite hdefinite (parts value)
  | _, .choice cases _ parts _ _, hdefinite, value =>
      cases.legible_of_definite hdefinite (parts value)
  | _, .resource _ _ _ item, hdefinite, value => item.legible_of_definite hdefinite value
  | _, .text, _, _ => rfl
  | _, .flag, _, _ => rfl
  | _, .int32, _, _ => rfl
  | _, .int64, _, _ => rfl
  | _, .uint32, _, _ => rfl
  | _, .quantity, _, _ => rfl
  | _, .intOrText, _, _ => rfl
  | _, .bytes, _, _ => rfl
  | _, .instant, _, _ => rfl
  | _, .payload, _, _ => rfl

/-- All values of definite fields are legible. -/
theorem Fields.legible_of_definite : {β : Type} → (fields : Fields β) → fields.definite = true →
    (value : β) → fields.legible value = true
  | _, .nil, _, _ => rfl
  | _, .cons _ _ schema rest, hdefinite, (value, others) => by
      rw [Fields.definite, Bool.and_eq_true] at hdefinite
      rw [Fields.legible, schema.legible_of_definite hdefinite.1 value,
        rest.legible_of_definite hdefinite.2 others]
      rfl

/-- The content of a definite variant is legible. -/
theorem Cases.legible_of_definite : {β : Type} → (cases : Cases β) → cases.definite = true →
    (value : β) → cases.legible value = true
  | _, .cons _ schema _, hdefinite, .inl value => by
      rw [Cases.definite, Bool.and_eq_true] at hdefinite
      exact schema.legible_of_definite hdefinite.1 value
  | _, .cons _ _ rest, hdefinite, .inr value => by
      rw [Cases.definite, Bool.and_eq_true] at hdefinite
      exact rest.legible_of_definite hdefinite.2 value

end

/-- A plain layout is nullable only if it is optional. -/
theorem Schema.nullable_of_plain {α : Type} {schema : Schema α} (hplain : schema.plain = true)
    (hoptional : schema.isOptional = false) : schema.nullable = false := by
  cases schema with
  | optional item => cases hoptional
  | payload => cases hplain
  | resource apiVersion kind checked item => cases hplain
  | _ => rfl

/-- What stands for a missing field of a definite layout is legible. -/
theorem Presence.legible_of_definite {α : Type} (presence : Presence α) {schema : Schema α}
    (hdefinite : schema.definite = true) : presence.legible schema = true := by
  cases presence with
  | required => rfl
  | default value => exact schema.legible_of_definite hdefinite value
  | named value => exact schema.legible_of_definite hdefinite value

mutual

/-- A plain layout is faithful and definite. -/
theorem Schema.faithful_of_plain : {α : Type} → (schema : Schema α) → schema.plain = true →
    schema.faithful = true ∧ schema.definite = true
  | _, schema, hplain => by
      cases schema with
      | optional item =>
          rw [Schema.plain, Bool.and_eq_true, Bool.not_eq_true'] at hplain
          obtain ⟨hfaithful, hdefinite⟩ := item.faithful_of_plain hplain.2
          refine ⟨hfaithful, ?_⟩
          rw [Schema.definite, hdefinite, Schema.nullable_of_plain hplain.2 hplain.1]
          rfl
      | list item =>
          rw [Schema.plain, Bool.and_eq_true] at hplain
          exact item.faithful_of_plain hplain.2
      | dict item =>
          rw [Schema.plain, Bool.and_eq_true] at hplain
          exact item.faithful_of_plain hplain.2
      | record style fields build parts _ _ => exact fields.faithful_of_plain hplain
      | choice cases build parts _ _ => cases hplain
      | resource apiVersion kind checked item => cases hplain
      | _ => exact ⟨rfl, rfl⟩

/-- Plain fields are faithful and definite. -/
theorem Fields.faithful_of_plain : {β : Type} → (fields : Fields β) → fields.plain = true →
    fields.faithful = true ∧ fields.definite = true
  | _, .nil, _ => ⟨rfl, rfl⟩
  | _, .cons key presence schema rest, hplain => by
      obtain ⟨hkey, hfits, hschema, hrest⟩ := Fields.plain_cons hplain
      obtain ⟨hfaithful, hdefinite⟩ := schema.faithful_of_plain hschema
      obtain ⟨hothers, hdefiniteOthers⟩ := rest.faithful_of_plain hrest
      have hnull : schema.isOptional = true ∨ schema.nullable = false := by
        cases hoptional : schema.isOptional with
        | true => exact .inl rfl
        | false => exact .inr (Schema.nullable_of_plain hschema hoptional)
      constructor
      · simp [Fields.faithful, hkey, hfits, presence.legible_of_definite hdefinite, hnull,
          hfaithful, hothers]
      · rw [Fields.definite, hdefinite, hdefiniteOthers]
        rfl

end

end ShootMachines
