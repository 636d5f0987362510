import ShootMachines.Proofs.Schema.FaithfulLayout
import ShootMachines.Proofs.Schema.ReadForms
import ShootMachines.Proofs.Text.Base64RoundTrip

/-!
# Reading back what was written

`Schema.read_encode` says that a faithful layout reads every legible value back from the document it was
written as. Records are the heart of it: their fields are sorted by key when they are written, so a
record is read back through lookups and not by position. A plain layout reads every value back
(`Schema.decode_encode`).
-/

namespace ShootMachines

/-- A 32-bit number with a sign is read back. -/
theorem read_int32_to_int (value : Int32) : readInt32 value.toInt = .ok value := by
  have hle := value.le_toInt
  have hlt := value.toInt_lt
  rw [readInt32, if_pos ⟨hle, hlt⟩, Int32.ofInt_toInt]

/-- A 64-bit number with a sign is read back. -/
theorem read_int64_to_int (value : Int64) : readInt64 value.toInt = .ok value := by
  have hle := value.le_toInt
  have hlt := value.toInt_lt
  rw [readInt64, if_pos ⟨hle, hlt⟩, Int64.ofInt_toInt]

/-- A 32-bit number without a sign is read back. -/
theorem read_uint32_to_nat (value : UInt32) : readUInt32 value.toNat = .ok value := by
  have hlt := value.toNat_lt
  rw [readUInt32, if_pos (by omega), Int.toNat_natCast, UInt32.ofNat_toNat]

/-- Bytes are read back from their base64 text. -/
theorem read_bytes_encode (bytes : Bytes) : readBytes (Base64.encode bytes) = .ok bytes := by
  rw [readBytes, Base64.decode?_encode]

/-- A field that was left out reads as the value that it was left out for. -/
theorem Presence.absent_of_omits {α : Type} {presence : Presence α} {schema : Schema α} {value : α}
    (hfits : presence.fits schema = true) (homits : schema.omits value = true) (key : String) :
    presence.absent key true = .ok value := by
  cases schema with
  | optional item =>
      cases value with
      | none => cases presence <;> simp_all [Presence.fits, Presence.absent]
      | some present => cases homits
  | _ => cases homits

/-- A field reads as its value if what is found under its key is what the value was written as: nothing if
it was left out. -/
theorem Fields.read_named_cons {α β : Type} {style : RecordStyle} {key : String}
    {presence : Presence α} {schema : Schema α} {rest : Fields β}
    {value : α} {others : β} {given : List (String × Payload)}
    (hdistinct : (given.map Prod.fst).Nodup) (hfits : presence.fits schema = true)
    (hwritten : schema.omits value = false → (schema.encode value).isNull = false)
    (hread : schema.read Payload.source (schema.encode value) = .ok value)
    (hothers : rest.readNamed Payload.source style given = .ok others)
    (hgiven : given.lookup key =
      if schema.omits value then none else some (schema.encode value)) :
    (Fields.cons key presence schema rest).readNamed Payload.source style given =
      .ok (value, others) := by
  have hfield : Fields.readField style key presence schema (given.lookup key) = .ok value := by
    rw [hgiven]
    cases homits : schema.omits value with
    | true => exact presence.absent_of_omits hfits homits key
    | false =>
        have hnull := hwritten homits
        simp [Fields.readField, hnull, hread]
  rw [Fields.read_named_cons_eq hdistinct, hfield, ok_bind, hothers, ok_bind]

/-- A resource that states its own type is read like its content, whether the type is checked or not. -/
theorem Schema.read_stated_resource {α : Type} {apiVersion kind : String} {item : Schema α}
    {given : List (String × Payload)} (hdistinct : (given.map Prod.fst).Nodup)
    (hversion : given.lookup "apiVersion" = some (.text apiVersion))
    (hkind : given.lookup "kind" = some (.text kind)) (checked : Bool) :
    (Schema.resource apiVersion kind checked item).read Payload.source (.object given) =
      item.read Payload.source (.object given) := by
  have hstated {key expected : String} (h : given.lookup key = some (.text expected)) :
      checkStated Payload.source key expected given = .ok () := by
    rw [checkStated, given_for_eq_lookup hdistinct, h]
    simp
  rw [Schema.read]
  cases checked with
  | false => rfl
  | true =>
      simp only [if_true, Payload.source_form_object, ok_bind, hstated hversion, hstated hkind]

mutual

/-- A faithful layout reads a legible value back from what it was written as. -/
theorem Schema.read_encode : {α : Type} → (schema : Schema α) → schema.faithful = true →
    (value : α) → schema.legible value = true →
    schema.read Payload.source (schema.encode value) = .ok value
  | _, .text, _, _, _ => rfl
  | _, .flag, _, _, _ => rfl
  | _, .int32, _, value, _ => by
      rw [Schema.encode, Schema.read, Payload.source_whole_int, ok_bind, read_int32_to_int]
  | _, .int64, _, value, _ => by
      rw [Schema.encode, Schema.read, Payload.source_whole_int, ok_bind, read_int64_to_int]
  | _, .uint32, _, value, _ => by
      rw [Schema.encode, Schema.read, Payload.source_natural_int, ok_bind, read_uint32_to_nat]
  | _, .quantity, _, _, _ => rfl
  | _, .intOrText, _, .int count, _ => by
      rw [Schema.encode, Schema.read, Payload.source_scalar_int, ok_bind, readIntOrText,
        read_int32_to_int]
      rfl
  | _, .intOrText, _, .text _, _ => rfl
  | _, .bytes, _, value, _ => read_bytes_encode value
  | _, .instant, _, value, _ => by
      rw [Schema.encode, Schema.read, Payload.source_text_text, ok_bind, readInstant,
        Instant.parse?_text]
  | _, .payload, _, _, _ => rfl
  | _, .optional item, _, none, _ => rfl
  | _, .optional item, hfaithful, some present, hlegible => by
      rw [Schema.legible, Bool.and_eq_true, Bool.not_eq_true'] at hlegible
      have hnull : Payload.source.isNull (item.encode present) = false := hlegible.1
      rw [Schema.encode, Schema.read, hnull, item.read_encode hfaithful present hlegible.2]
      rfl
  | _, .list item, hfaithful, items, hlegible => by
      rw [Schema.encode, Schema.read, Payload.source_form_list, ok_bind]
      exact map_m_map_eq_ok fun element helement =>
        item.read_encode hfaithful element (List.all_eq_true.1 hlegible element helement)
  | _, .dict item, hfaithful, dict, hlegible => by
      have hentries : (dict.entries.map fun entry => (entry.1, item.encode entry.2)).mapM
          (fun field => do
            let value ← item.read Payload.source field.2
            .ok (field.1, value)) = .ok dict.entries := by
        refine map_m_map_eq_ok fun entry hentry => ?_
        rw [item.read_encode hfaithful entry.2 (List.all_eq_true.1 hlegible entry hentry), ok_bind]
      rw [Schema.encode, Schema.read, Payload.source_form_object, ok_bind]
      simp only [hentries, ok_bind, Dict.ofList_entries]
  | _, .record style fields build parts build_parts _, hfaithful, value, hlegible => by
      -- The written fields are sorted by key, and distinct keys make every lookup find its field.
      have hwritten := Dict.get?_of_list (fields.encode_distinct hfaithful (parts value))
      have hfields := fields.read_named_encode hfaithful style (parts value) hlegible
        (Dict.ofList _).ascending.nodup fun key _ => hwritten key
      show (fields.readNamed Payload.source style _).map build = .ok value
      rw [hfields]
      exact congrArg Except.ok (build_parts value)
  | _, .choice cases build parts build_parts _, hfaithful, value, hlegible => by
      obtain ⟨tag, _, fields, hfields⟩ := cases.encode_faithful hfaithful (parts value)
      have hread := cases.read_encode hfaithful (parts value) hlegible
      rw [hfields] at hread
      simp only [Schema.encode, hfields, Schema.read]
      show (cases.read Payload.source tag (.object fields)).map build = .ok value
      rw [hread]
      exact congrArg Except.ok (build_parts value)
  | _, .resource apiVersion kind checked (.record style fields build parts build_parts _),
      hfaithful, value, hlegible => by
      rw [Schema.faithful, Bool.and_eq_true] at hfaithful
      obtain ⟨havoids, hrecord⟩ := hfaithful
      simp only [Schema.avoids, List.all_eq_true, decide_eq_true_eq] at havoids
      -- Two more fields state the type, under keys that none of the fields has.
      let written := Dict.ofList (fields.encode (parts value))
      let stated := (written.insert "apiVersion" (.text apiVersion)).insert "kind" (.text kind)
      have hstated (key : String) : stated.entries.lookup key = if key = "kind" then some (.text kind)
          else if key = "apiVersion" then some (.text apiVersion)
          else (fields.encode (parts value)).lookup key := by
        rw [← Dict.get?_of_list (fields.encode_distinct hrecord (parts value)), ← Dict.get?_insert,
          ← Dict.get?_insert]
        rfl
      have hfields := fields.read_named_encode hrecord style (parts value) hlegible
        stated.ascending.nodup fun key hkey => by
          have hversion : key ≠ "apiVersion" := fun hsame =>
            havoids "apiVersion" (by decide) (hsame ▸ hkey)
          have hkind : key ≠ "kind" := fun hsame => havoids "kind" (by decide) (hsame ▸ hkey)
          rw [hstated, if_neg hkind, if_neg hversion]
      show (Schema.resource apiVersion kind checked _).read Payload.source
        (.object stated.entries) = .ok value
      rw [Schema.read_stated_resource stated.ascending.nodup (hstated "apiVersion")
        (hstated "kind") checked]
      show (fields.readNamed Payload.source style stated.entries).map build = .ok value
      rw [hfields]
      exact congrArg Except.ok (build_parts value)

/-- The fields of a faithful record read back from an object in which every declared key is found with
what was written under it. -/
theorem Fields.read_named_encode : {β : Type} → (fields : Fields β) → fields.faithful = true →
    (style : RecordStyle) → (value : β) → fields.legible value = true →
    {given : List (String × Payload)} → (given.map Prod.fst).Nodup →
    (∀ key ∈ fields.keys, given.lookup key = (fields.encode value).lookup key) →
    fields.readNamed Payload.source style given = .ok value
  | _, .nil, _, _, _, _, _, _, _ => rfl
  | _, .cons key presence schema rest, hfaithful, style, (value, others), hlegible, given,
      hdistinct, hgiven => by
      obtain ⟨hkey, hfits, _, hfield, hschema, hrest⟩ := Fields.faithful_cons hfaithful
      rw [Fields.legible, Bool.and_eq_true] at hlegible
      have habsent : (rest.encode others).lookup key = none :=
        lookup_eq_none_of_not_mem fun hmem => hkey (rest.mem_keys_of_encode others hmem)
      refine Fields.read_named_cons hdistinct hfits (Schema.is_null_of_legible hfield hlegible.1)
        (schema.read_encode hschema value hlegible.1) ?_ ?_
      -- The other fields see the same object, in which the first key is none of theirs.
      · refine rest.read_named_encode hrest style others hlegible.2 hdistinct
          fun other hother => ?_
        have hne : other ≠ key := fun hsame => hkey (hsame ▸ hother)
        rw [hgiven other (List.mem_cons_of_mem _ hother), Fields.encode]
        split
        · rfl
        · rw [lookup_entry, if_neg hne]
      · rw [hgiven key List.mem_cons_self, Fields.encode]
        split
        · exact habsent
        · rw [lookup_entry, if_pos rfl]

/-- The content of a variant of a faithful choice reads back under its tag. -/
theorem Cases.read_encode : {β : Type} → (cases : Cases β) → cases.faithful = true →
    (value : β) → cases.legible value = true →
    cases.read Payload.source (cases.encode value).1 (cases.encode value).2 = .ok value
  | _, .cons tag schema _, hfaithful, .inl value, hlegible => by
      obtain ⟨_, _, hschema, _⟩ := Cases.faithful_cons hfaithful
      rw [Cases.encode, Cases.read, if_pos rfl, schema.read_encode hschema value hlegible]
      rfl
  | _, .cons tag _ rest, hfaithful, .inr value, hlegible => by
      obtain ⟨htag, _, _, hrest⟩ := Cases.faithful_cons hfaithful
      obtain ⟨other, hother, _, hencode⟩ := rest.encode_faithful hrest value
      have hread := rest.read_encode hrest value hlegible
      have hne : tag ≠ other := fun hsame => htag (hsame ▸ hother)
      rw [hencode] at hread
      rw [Cases.encode, hencode, Cases.read, if_neg hne, hread]
      rfl

end

/-- A plain layout decodes every value from the document that it was encoded as. -/
theorem Schema.decode_encode {α : Type} {schema : Schema α} (hplain : schema.plain = true)
    (value : α) : schema.decode (schema.encode value) = .ok value := by
  obtain ⟨hfaithful, hdefinite⟩ := schema.faithful_of_plain hplain
  exact schema.read_encode hfaithful value (schema.legible_of_definite hdefinite value)

end ShootMachines
