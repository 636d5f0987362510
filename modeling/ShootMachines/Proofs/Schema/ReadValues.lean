import ShootMachines.Proofs.Schema.RoundTrip

/-!
# Values that were read

A reader takes null for a missing value before it looks for a present one, so every value that a faithful
layout reads is legible (`Schema.legible_of_read`). What was read from any document therefore reads back
from what it is written as, and writing it again changes nothing (`Schema.reads_back`).
-/

namespace ShootMachines

variable {α β : Type}

/-- What was read from a document that is not null is not written as null. -/
theorem Schema.is_null_encode_of_read : {α : Type} → (schema : Schema α) → {payload : Payload} →
    {value : α} → schema.read Payload.source payload = .ok value → payload.isNull = false →
    (schema.encode value).isNull = false
  | _, .optional item, _, _, hread, hnull => by
      rw [Schema.read, Payload.source_is_null, hnull, if_neg Bool.false_ne_true] at hread
      obtain ⟨present, hpresent, rfl⟩ := map_eq_ok_iff.1 hread
      exact item.is_null_encode_of_read hpresent hnull
  | _, .payload, _, _, hread, hnull => by
      obtain rfl := Except.ok.inj hread
      exact hnull
  | _, .resource _ _ _ item, _, _, hread, hnull => by
      rw [Schema.encode, Payload.is_null_with_field, Payload.is_null_with_field]
      exact item.is_null_encode_of_read (Schema.read_resource_eq_ok hread) hnull
  | _, .text, _, _, _, _ => rfl
  | _, .flag, _, _, _, _ => rfl
  | _, .int32, _, _, _, _ => rfl
  | _, .int64, _, _, _, _ => rfl
  | _, .uint32, _, _, _, _ => rfl
  | _, .quantity, _, _, _, _ => rfl
  | _, .intOrText, _, .int _, _, _ => rfl
  | _, .intOrText, _, .text _, _, _ => rfl
  | _, .bytes, _, _, _, _ => rfl
  | _, .instant, _, _, _, _ => rfl
  | _, .list _, _, _, _, _ => rfl
  | _, .dict _, _, _, _, _ => rfl
  | _, .record _ _ _ _ _ _, _, _, _, _ => rfl
  | _, .choice _ _ _ _ _, _, _, _, _ => rfl

/-- What a missing field reads as is legible. -/
theorem Presence.legible_of_absent {presence : Presence α} {schema : Schema α} {key : String}
    {named : Bool} {value : α} (hlegible : presence.legible schema = true)
    (h : presence.absent key named = .ok value) : schema.legible value = true := by
  cases presence with
  | required => cases h
  | default standard =>
      obtain rfl := Except.ok.inj h
      exact hlegible
  | named standard =>
      cases named with
      | true =>
          obtain rfl := Except.ok.inj h
          exact hlegible
      | false => cases h

mutual

/-- What a faithful layout reads is legible. -/
theorem Schema.legible_of_read : {α : Type} → (schema : Schema α) → schema.faithful = true →
    {payload : Payload} → {value : α} → schema.read Payload.source payload = .ok value →
    schema.legible value = true
  | _, .text, _, _, _, _ => rfl
  | _, .flag, _, _, _, _ => rfl
  | _, .int32, _, _, _, _ => rfl
  | _, .int64, _, _, _, _ => rfl
  | _, .uint32, _, _, _, _ => rfl
  | _, .quantity, _, _, _, _ => rfl
  | _, .intOrText, _, _, _, _ => rfl
  | _, .bytes, _, _, _, _ => rfl
  | _, .instant, _, _, _, _ => rfl
  | _, .payload, _, _, _, _ => rfl
  | _, .optional item, hfaithful, payload, value, hread => by
      rw [Schema.read, Payload.source_is_null] at hread
      split at hread
      · obtain rfl := Except.ok.inj hread
        rfl
      · rename_i hnull
        obtain ⟨present, hpresent, rfl⟩ := map_eq_ok_iff.1 hread
        rw [Schema.legible, item.legible_of_read hfaithful hpresent,
          item.is_null_encode_of_read hpresent (Bool.eq_false_iff.2 hnull)]
        rfl
  | _, .list item, hfaithful, payload, values, hread => by
      obtain ⟨items, rfl, hitems⟩ := Schema.read_list_eq_ok hread
      refine List.all_eq_true.2 fun value hvalue => ?_
      obtain ⟨given, _, hgiven⟩ := exists_mem_of_forall₂ hitems hvalue
      exact item.legible_of_read hfaithful hgiven
  | _, .dict item, hfaithful, payload, dict, hread => by
      obtain ⟨fields, entries, rfl, rfl, hfields⟩ := Schema.read_dict_eq_ok hread
      refine List.all_eq_true.2 fun entry hentry => ?_
      obtain ⟨field, _, _, hvalue⟩ :=
        exists_mem_of_forall₂ hfields (Dict.mem_of_mem_of_list hentry)
      exact item.legible_of_read hfaithful hvalue
  | _, .record _ fields _ parts _ _, hfaithful, payload, value, hread => by
      rcases Schema.read_record_eq_ok hread with ⟨given, rfl, hgiven⟩ | ⟨items, rfl, hitems⟩
      · exact fields.legible_of_read_named hfaithful hgiven
      · exact fields.legible_of_read_positional hfaithful hitems
  | _, .choice cases _ parts _ _, hfaithful, payload, value, hread => by
      obtain ⟨tag, content, _, hcontent⟩ := Schema.read_choice_eq_ok hread
      exact cases.legible_of_read hfaithful hcontent
  | _, .resource _ _ _ item, hfaithful, payload, value, hread => by
      rw [Schema.faithful, Bool.and_eq_true] at hfaithful
      exact item.legible_of_read hfaithful.2 (Schema.read_resource_eq_ok hread)

/-- What the fields of a faithful record read from an object is legible. -/
theorem Fields.legible_of_read_named : {β : Type} → (fields : Fields β) → fields.faithful = true →
    {style : RecordStyle} → {given : List (String × Payload)} → {value : β} →
    fields.readNamed Payload.source style given = .ok value → fields.legible value = true
  | _, .nil, _, _, _, _, _ => rfl
  | _, .cons key presence schema rest, hfaithful, _, given, (value, others), hread => by
      obtain ⟨_, _, habsent, _, hschema, hrest⟩ := Fields.faithful_cons hfaithful
      obtain ⟨hvalue, hothers⟩ := Fields.read_named_cons_ok hread
      rw [Fields.legible, rest.legible_of_read_named hrest hothers, Bool.and_true]
      rcases hvalue with hmissing | ⟨payload, hpayload⟩
      · exact Presence.legible_of_absent habsent hmissing
      · exact schema.legible_of_read hschema hpayload

/-- What the fields of a faithful record read from a list is legible. -/
theorem Fields.legible_of_read_positional : {β : Type} → (fields : Fields β) →
    fields.faithful = true → {items : List Payload} → {value : β} →
    fields.readPositional Payload.source items = .ok value → fields.legible value = true
  | _, .nil, _, _, _, _ => rfl
  | _, .cons key presence schema rest, hfaithful, [], (value, others), hread => by
      obtain ⟨_, _, habsent, _, _, hrest⟩ := Fields.faithful_cons hfaithful
      obtain ⟨hpresent, hothers⟩ := pair_eq_ok_iff.1 hread
      rw [Fields.legible, rest.legible_of_read_positional hrest hothers,
        Presence.legible_of_absent habsent hpresent]
      rfl
  | _, .cons key presence schema rest, hfaithful, node :: nodes, (value, others), hread => by
      obtain ⟨_, _, _, _, hschema, hrest⟩ := Fields.faithful_cons hfaithful
      obtain ⟨hpresent, hothers⟩ := pair_eq_ok_iff.1 hread
      rw [Fields.legible, rest.legible_of_read_positional hrest hothers,
        schema.legible_of_read hschema hpresent]
      rfl

/-- What a faithful choice reads under a tag is legible. -/
theorem Cases.legible_of_read : {β : Type} → (cases : Cases β) → cases.faithful = true →
    {tag : String} → {content : Payload} → {value : β} →
    cases.read Payload.source tag content = .ok value → cases.legible value = true
  | _, .nil, _, _, _, _, hread => nomatch hread
  | _, .cons name schema rest, hfaithful, tag, content, value, hread => by
      obtain ⟨_, _, hschema, hrest⟩ := Cases.faithful_cons hfaithful
      rw [Cases.read] at hread
      split at hread
      · obtain ⟨present, hpresent, rfl⟩ := map_eq_ok_iff.1 hread
        exact schema.legible_of_read hschema hpresent
      · obtain ⟨other, hother, rfl⟩ := map_eq_ok_iff.1 hread
        exact rest.legible_of_read hrest hother

end

/-- Whether what is read from a document reads back from what it is written as, and is then written the
same way. -/
def Schema.ReadsBack (schema : Schema α) : Prop :=
  ∀ payload value, schema.decode payload = .ok value →
    schema.decode (schema.encode value) = .ok value ∧
      (schema.decode (schema.encode value)).map schema.encode = .ok (schema.encode value)

/-- A faithful layout reads back what it read. -/
theorem Schema.reads_back {schema : Schema α} (hfaithful : schema.faithful = true) :
    schema.ReadsBack := by
  intro payload value hread
  have hback : schema.decode (schema.encode value) = .ok value :=
    schema.read_encode hfaithful value (schema.legible_of_read hfaithful hread)
  refine ⟨hback, ?_⟩
  rw [hback]
  rfl

/-! ## Choices -/

/-- Only the content of a variant is read. -/
theorem Cases.mem_tags_of_read : {β : Type} → (cases : Cases β) → {tag : String} →
    {content : Payload} → {value : β} → cases.read Payload.source tag content = .ok value →
    tag ∈ cases.tags
  | _, .nil, _, _, _, hread => nomatch hread
  | _, .cons name schema rest, tag, content, value, hread => by
      rw [Cases.read] at hread
      split at hread
      · rename_i hsame
        exact hsame ▸ List.mem_cons_self
      · obtain ⟨other, hother, _⟩ := map_eq_ok_iff.1 hread
        exact List.mem_cons_of_mem _ (rest.mem_tags_of_read hother)

/-- The tags of a choice; other layouts have none. -/
def Schema.tags : {α : Type} → Schema α → List String
  | _, .choice cases _ _ _ _ => cases.tags
  | _, _ => []

/-- A choice is read from an object only if exactly one field of it has a tag of the choice. -/
theorem Schema.count_tags_of_read {schema : Schema α} {fields : List (String × Payload)} {value : α}
    (hchoice : schema.tags ≠ [])
    (hread : schema.read Payload.source (.object fields) = .ok value) :
    (fields.countP fun field => field.1 ∈ schema.tags) = 1 := by
  cases schema with
  | choice cases build parts _ _ =>
      obtain ⟨tag, content, hobject, hcontent⟩ := Schema.read_choice_eq_ok hread
      obtain rfl := Payload.object.inj hobject
      exact List.countP_eq_length.2 fun field hfield =>
        List.mem_singleton.1 hfield ▸ decide_eq_true (cases.mem_tags_of_read hcontent)
  | _ => exact absurd rfl hchoice

/-- A faithful choice writes an object with one field, under one of its tags. -/
theorem Schema.encode_choice (schema : Schema α) (hchoice : schema.tags ≠ [])
    (hfaithful : schema.faithful = true) (value : α) :
    ∃ tag ∈ schema.tags, ∃ fields, schema.encode value = .object [(tag, .object fields)] := by
  cases schema with
  | choice cases build parts _ _ =>
      obtain ⟨tag, htag, fields, hfields⟩ := cases.encode_faithful hfaithful (parts value)
      refine ⟨tag, htag, fields, ?_⟩
      rw [Schema.encode, hfields]
  | _ => exact absurd rfl hchoice

end ShootMachines
