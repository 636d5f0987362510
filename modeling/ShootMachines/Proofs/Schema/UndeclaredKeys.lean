import ShootMachines.Proofs.Schema.RoundTrip
import ShootMachines.Proofs.Yaml.NormalDocuments

/-!
# Undeclared keys

`Schema.undeclaredKeys` compares a document with a plain layout itself: a key of an object is undeclared
if the record that is read from the object has no such field. `Schema.undeclared_eq` says that these are
the fields that are found by walking the document beside what was read from it and written again, with
one exception: a record that is given as the list of its fields is written as an object, so the walk ends
there. `Schema.undeclared_keys_of_keyed` says that nothing is lost where no record is given as a list.
-/

namespace ShootMachines

namespace Payload

/-- The items of a list; other documents have none. -/
def items : Payload → List Payload
  | .list items => items
  | _ => []

/-- The fields of an object; other documents have none. -/
def fields : Payload → List (String × Payload)
  | .object fields => fields
  | _ => []

end Payload

mutual

/-- The positions of the keys in a document that a plain layout does not declare, outer before inner and
in the order of the document. Records that are given as lists may be looked into or not. -/
def Schema.undeclaredKeys (inLists : Bool) : {α : Type} → Schema α → Payload → List DocumentPath
  | _, .optional item, payload => item.undeclaredKeys inLists payload
  | _, .list item, payload =>
      payload.items.zipIdx.flatMap fun entry =>
        (item.undeclaredKeys inLists entry.1).map (.item entry.2 :: ·)
  | _, .dict item, payload =>
      payload.fields.flatMap fun field =>
        (item.undeclaredKeys inLists field.2).map (.key field.1 :: ·)
  | _, .record _ fields _ _ _ _, payload =>
      (payload.fields.flatMap fun field => fields.undeclaredUnder inLists field.1 field.2) ++
        if inLists then fields.undeclaredInOrder inLists payload.items 0 else []
  | _, _, _ => []

/-- The positions of the undeclared keys in a field of a record: the key of the field, or those below a
declared one. -/
def Fields.undeclaredUnder (inLists : Bool) (key : String) (value : Payload) :
    {β : Type} → Fields β → List DocumentPath
  | _, .nil => [[.key key]]
  | _, .cons declared _ schema rest =>
      if declared = key then (schema.undeclaredKeys inLists value).map (.key key :: ·)
      else rest.undeclaredUnder inLists key value

/-- The positions of the undeclared keys in the fields of a record, given in their order from an index
on. -/
def Fields.undeclaredInOrder (inLists : Bool) :
    {β : Type} → Fields β → List Payload → (index : Nat) → List DocumentPath
  | _, .nil, _, _ => []
  | _, .cons _ _ schema rest, given, index =>
      match given with
      | [] => []
      | value :: others =>
          (schema.undeclaredKeys inLists value).map (.item index :: ·) ++
            rest.undeclaredInOrder inLists others (index + 1)

end

mutual

/-- Whether no record in a document is given as a list of fields. -/
def Schema.keyed : {α : Type} → Schema α → Payload → Bool
  | _, .optional item, payload => item.keyed payload
  | _, .list item, payload => payload.items.all fun value => item.keyed value
  | _, .dict item, payload => payload.fields.all fun field => item.keyed field.2
  | _, .record _ fields _ _ _ _, payload =>
      payload.items.isEmpty &&
        payload.fields.all fun field => fields.keyedUnder field.1 field.2
  | _, _, _ => true

/-- Whether no record below a field of a record is given as a list of fields. -/
def Fields.keyedUnder (key : String) (value : Payload) : {β : Type} → Fields β → Bool
  | _, .nil => true
  | _, .cons declared _ schema rest =>
      if declared = key then schema.keyed value else rest.keyedUnder key value

end

variable {α : Type}

/-- Null has no keys. -/
theorem Schema.undeclared_keys_null : {α : Type} → (schema : Schema α) → (inLists : Bool) →
    schema.undeclaredKeys inLists .null = []
  | _, schema, inLists => by
      cases schema with
      | optional item => exact item.undeclared_keys_null inLists
      | record style fields _ _ _ _ =>
          cases inLists with
          | false => rfl
          | true => cases fields <;> rfl
      | _ => rfl

/-! ## Walking a document beside what was written -/

namespace Payload

/-- Beside a scalar nothing is looked for. -/
theorem undeclared_scalar {given written : Payload} (h : written.scalar?.isSome = true)
    (position : LayoutPosition) : given.undeclared written position = [] := by
  cases written with
  | list items => cases h
  | object fields => cases h
  | _ => cases given <;> rfl

/-- What is missed of a field of an object, given whether there may be one with its key, what was written
for it and its position. -/
def missed (key : String) (value : Payload) (allowed : Bool) (written : Option Payload)
    (position : LayoutPosition) : List DocumentPath :=
  if value.isNull then if allowed then [] else [[.key key]]
  else
    match written with
    | some counterpart => (value.undeclared counterpart position).map (.key key :: ·)
    | none => [[.key key]]

/-- The undeclared fields of an object are what is missed of its fields. -/
theorem undeclared_object (given written : List (String × Payload)) (position : LayoutPosition) :
    (Payload.object given).undeclared (.object written) position =
      given.flatMap fun field => missed field.1 field.2 (position.allows field.1)
        (written.lookup field.1) (position.property field.1) := by
  rw [undeclared]
  induction given with
  | nil => rfl
  | cons field rest ih =>
      rw [undeclaredFields, ih, List.flatMap_cons]
      rfl

/-- The position of an optional value is that of the value. -/
theorem undeclared_optional (given written : Payload) (item : Schema α) :
    given.undeclared written (.within item.optional) = given.undeclared written (.within item) := by
  cases given with
  | object fields =>
      cases written with
      | object others =>
          rw [undeclared_object, undeclared_object]
          rfl
      | _ => rfl
  | list items => cases written <;> rfl
  | _ => rfl

/-- What is undeclared in the items of a list is undeclared in the list, each at its place. -/
theorem undeclared_items_eq {items written : List Payload} {position : LayoutPosition}
    {report : Payload → List DocumentPath} (hnormal : NormalItems items)
    (h : List.Forall₂ (fun given counterpart => given.Normal →
      given.undeclared counterpart position = report given) items written) (index : Nat) :
    undeclaredItems items written position index =
      (items.zipIdx index).flatMap fun entry => (report entry.1).map (.item entry.2 :: ·) := by
  induction h generalizing index with
  | nil => rfl
  | cons hitem _ ih =>
      rw [undeclaredItems, List.zipIdx_cons, List.flatMap_cons, hitem hnormal.1, ih hnormal.2]

/-- Of a declared field nothing is missed but what is undeclared below it. -/
theorem missed_of_declared {key : String} {payload : Payload} {written : Option Payload}
    {schema : Schema α}
    (h : payload.isNull = false → ∃ counterpart, written = some counterpart ∧
      payload.undeclared counterpart (.within schema) = schema.undeclaredKeys false payload) :
    payload.missed key true written (.within schema) =
      (schema.undeclaredKeys false payload).map (.key key :: ·) := by
  unfold missed
  cases hnull : payload.isNull with
  | true =>
      cases payload with
      | null => rw [if_pos rfl, if_pos rfl, schema.undeclared_keys_null, List.map_nil]
      | _ => cases hnull
  | false =>
      obtain ⟨counterpart, rfl, hundeclared⟩ := h hnull
      rw [if_neg Bool.false_ne_true, ← hundeclared]

end Payload

/-- A record is looked into beside the field that is declared first only under the key of that field. -/
theorem Fields.missed_cons {β : Type} {declared key : String} {presence : Presence α}
    {schema : Schema α} {rest : Fields β} {value : α} {others : β} (hother : declared ≠ key)
    (payload : Payload) (position : LayoutPosition) :
    payload.missed key ((Fields.cons declared presence schema rest).keys.contains key)
        (((Fields.cons declared presence schema rest).encode (value, others)).lookup key) position =
      payload.missed key (rest.keys.contains key) ((rest.encode others).lookup key) position := by
  have hkeys : (Fields.cons declared presence schema rest).keys.contains key =
      rest.keys.contains key := by
    simp [keys, hother.symm]
  have hwritten : ((Fields.cons declared presence schema rest).encode (value, others)).lookup key =
      (rest.encode others).lookup key := by
    rw [encode]
    split
    · rfl
    · rw [lookup_entry, if_neg hother.symm]
  rw [hkeys, hwritten]

mutual

/-- Walking a normal document beside what was read from it and written again finds the undeclared keys,
except for those in records that are given as lists. -/
theorem Schema.undeclared_eq : {α : Type} → (schema : Schema α) → schema.plain = true →
    (payload : Payload) → payload.Normal → (value : α) →
    schema.read Payload.source payload = .ok value →
    payload.undeclared (schema.encode value) (.within schema) = schema.undeclaredKeys false payload
  | _, .text, _, _, _, _, _ => Payload.undeclared_scalar rfl _
  | _, .flag, _, _, _, _, _ => Payload.undeclared_scalar rfl _
  | _, .int32, _, _, _, _, _ => Payload.undeclared_scalar rfl _
  | _, .int64, _, _, _, _, _ => Payload.undeclared_scalar rfl _
  | _, .uint32, _, _, _, _, _ => Payload.undeclared_scalar rfl _
  | _, .quantity, _, _, _, _, _ => Payload.undeclared_scalar rfl _
  | _, .intOrText, _, _, _, .int _, _ => Payload.undeclared_scalar rfl _
  | _, .intOrText, _, _, _, .text _, _ => Payload.undeclared_scalar rfl _
  | _, .instant, _, _, _, _, _ => Payload.undeclared_scalar rfl _
  | _, .optional item, hplain, payload, hnormal, value, hread => by
      rw [Schema.plain, Bool.and_eq_true, Bool.not_eq_true'] at hplain
      rw [Payload.undeclared_optional, Schema.undeclaredKeys]
      rw [Schema.read, Payload.source_is_null] at hread
      split at hread
      · obtain rfl := Except.ok.inj hread
        cases payload with
        | null => exact (item.undeclared_keys_null false).symm
        | _ => contradiction
      · obtain ⟨present, hpresent, rfl⟩ := map_eq_ok_iff.1 hread
        exact item.undeclared_eq hplain.2 payload hnormal present hpresent
  | _, .list item, hplain, payload, hnormal, values, hread => by
      rw [Schema.plain, Bool.and_eq_true, Bool.not_eq_true'] at hplain
      obtain ⟨items, rfl, hitems⟩ := Schema.read_list_eq_ok hread
      refine Payload.undeclared_items_eq hnormal (List.forall₂_map_right_iff.2 ?_) 0
      exact hitems.imp fun given value hvalue hgiven =>
        item.undeclared_eq hplain.2 given hgiven value hvalue
  | _, .dict item, hplain, payload, hnormal, dict, hread => by
      rw [Schema.plain, Bool.and_eq_true, Bool.not_eq_true'] at hplain
      obtain ⟨fields, entries, rfl, rfl, hfields⟩ := Schema.read_dict_eq_ok hread
      -- The keys of a normal object ascend, so the map that is made of the entries holds just these.
      have hkeys : fields.map Prod.fst = entries.map Prod.fst :=
        map_eq_of_forall₂ (hfields.imp fun _ _ h => h.1)
      have hascending : Ascending entries := by
        rw [Ascending, ← hkeys]
        exact hnormal.1
      have hsame := congrArg Dict.entries (Dict.ofList_entries ⟨entries, hascending⟩)
      rw [Schema.encode, Payload.undeclared_object, Schema.undeclaredKeys]
      refine List.flatMap_congr fun field hfield => Payload.missed_of_declared fun _ => ?_
      obtain ⟨number, hnumber⟩ := List.mem_iff_getElem?.1 hfield
      obtain ⟨entry, hentry, hkey, hvalue⟩ := getElem?_of_forall₂ hfields hnumber
      have hwritten := List.mem_map_of_mem (f := fun entry => (entry.1, item.encode entry.2))
        (List.mem_of_getElem? hentry)
      refine ⟨item.encode entry.2, ?_, item.undeclared_eq hplain.2 field.2
        (Payload.normal_fields_iff.1 hnormal.2 field hfield) entry.2 hvalue⟩
      rw [hsame, hkey]
      refine lookup_of_mem ?_ hwritten
      simpa [Function.comp_def] using hascending.nodup
  | _, .record style fields build parts _ _, hplain, payload, hnormal, value, hread => by
      rcases Schema.read_record_eq_ok hread with ⟨given, rfl, hgiven⟩ | ⟨items, rfl, _⟩
      · have hdistinct := hnormal.1.nodup
        have hfaithful := (fields.faithful_of_plain hplain).1
        have hwritten := Dict.get?_of_list (fields.encode_distinct hfaithful (parts value))
        rw [Schema.encode, Payload.ofFields, Payload.undeclared_object, Schema.undeclaredKeys,
          if_neg Bool.false_ne_true, List.append_nil]
        refine List.flatMap_congr fun field hfield => ?_
        rw [← fields.missed_eq hplain given hdistinct (parts value) hgiven field.1 field.2
          (lookup_of_mem hdistinct hfield) (Payload.normal_fields_iff.1 hnormal.2 field hfield),
          ← hwritten]
        rfl
      · -- The record is written as an object, so there is no list to walk beside the given one.
        rfl

/-- What is missed of a field of a record is undeclared in it. -/
theorem Fields.missed_eq : {β : Type} → (fields : Fields β) → fields.plain = true →
    (given : List (String × Payload)) → (given.map Prod.fst).Nodup → (value : β) →
    {style : RecordStyle} → fields.readNamed Payload.source style given = .ok value →
    (key : String) → (payload : Payload) → given.lookup key = some payload → payload.Normal →
    payload.missed key (fields.keys.contains key) ((fields.encode value).lookup key)
      (fields.property key) = fields.undeclaredUnder false key payload
  | _, .nil, _, _, _, _, _, _, key, payload, _, _ => by
      cases hnull : payload.isNull <;>
        simp [Payload.missed, hnull, Fields.keys, Fields.encode, Fields.undeclaredUnder]
  | _, .cons declared presence schema rest, hplain, given, hdistinct, (value, others), _, hread,
      key, payload, hlookup, hnormal => by
      obtain ⟨_, _, hschema, hrest⟩ := Fields.plain_cons hplain
      obtain ⟨hothers, hvalue⟩ := Fields.read_named_cons_eq_ok hdistinct hread
      rw [Fields.undeclaredUnder, Fields.property]
      by_cases hsame : declared = key
      · subst hsame
        have hdeclared :
            (Fields.cons declared presence schema rest).keys.contains declared = true := by
          simp [Fields.keys]
        rw [if_pos rfl, if_pos rfl, hdeclared]
        refine Payload.missed_of_declared fun hnull => ?_
        have hpresent := hvalue payload hlookup hnull
        have homits := Schema.omits_eq_false_of_read hpresent hnull
        exact ⟨schema.encode value, by simp [Fields.encode, homits],
          schema.undeclared_eq hschema payload hnormal value hpresent⟩
      · rw [if_neg hsame, if_neg hsame, Fields.missed_cons hsame,
          rest.missed_eq hrest given hdistinct others hothers key payload hlookup hnormal]

end

/-! ## Records that are given as lists -/

/-- Finding more in every item is finding more in all of them. -/
theorem flat_map_subset {β γ : Type} {items : List β} {first second : β → List γ}
    (h : ∀ item, first item ⊆ second item) : items.flatMap first ⊆ items.flatMap second := by
  intro found hfound
  obtain ⟨item, hitem, hfound⟩ := List.mem_flatMap.1 hfound
  exact List.mem_flatMap.2 ⟨item, hitem, h item hfound⟩

mutual

/-- Looking into records that are given as lists finds all that is found without it. -/
theorem Schema.undeclared_keys_subset : {α : Type} → (schema : Schema α) → (payload : Payload) →
    schema.undeclaredKeys false payload ⊆ schema.undeclaredKeys true payload
  | _, schema, payload => by
      cases schema with
      | optional item => exact item.undeclared_keys_subset payload
      | list item =>
          exact flat_map_subset fun entry =>
            List.map_subset _ (item.undeclared_keys_subset entry.1)
      | dict item =>
          exact flat_map_subset fun field =>
            List.map_subset _ (item.undeclared_keys_subset field.2)
      | record style fields _ _ _ _ =>
          rw [Schema.undeclaredKeys, Schema.undeclaredKeys, if_neg Bool.false_ne_true,
            List.append_nil]
          refine List.Subset.trans ?_ (List.subset_append_left _ _)
          exact flat_map_subset fun field => fields.undeclared_under_subset field.1 field.2
      | _ => exact List.Subset.refl _

/-- Looking into records that are given as lists finds all that is found in a field without it. -/
theorem Fields.undeclared_under_subset : {β : Type} → (fields : Fields β) → (key : String) →
    (value : Payload) →
    fields.undeclaredUnder false key value ⊆ fields.undeclaredUnder true key value
  | _, .nil, _, _ => List.Subset.refl _
  | _, .cons declared _ schema rest, key, value => by
      rw [Fields.undeclaredUnder, Fields.undeclaredUnder]
      split
      · exact List.map_subset _ (schema.undeclared_keys_subset value)
      · exact rest.undeclared_under_subset key value

end

mutual

/-- Where no record is given as a list, nothing is missed by not looking into such records. -/
theorem Schema.undeclared_keys_of_keyed : {α : Type} → (schema : Schema α) → (payload : Payload) →
    schema.keyed payload = true →
    schema.undeclaredKeys false payload = schema.undeclaredKeys true payload
  | _, schema, payload, hkeyed => by
      cases schema with
      | optional item => exact item.undeclared_keys_of_keyed payload hkeyed
      | list item =>
          rw [Schema.keyed, List.all_eq_true] at hkeyed
          refine List.flatMap_congr fun entry hentry => ?_
          rw [item.undeclared_keys_of_keyed entry.1 (hkeyed _ (List.fst_mem_of_mem_zipIdx hentry))]
      | dict item =>
          rw [Schema.keyed, List.all_eq_true] at hkeyed
          refine List.flatMap_congr fun field hfield => ?_
          rw [item.undeclared_keys_of_keyed field.2 (hkeyed field hfield)]
      | record style fields _ _ _ _ =>
          rw [Schema.keyed, Bool.and_eq_true, List.isEmpty_iff, List.all_eq_true] at hkeyed
          obtain ⟨hitems, hfields⟩ := hkeyed
          have hnone : fields.undeclaredInOrder true [] 0 = [] := by
            cases fields <;> rfl
          rw [Schema.undeclaredKeys, Schema.undeclaredKeys, if_neg Bool.false_ne_true, if_pos rfl,
            hitems, hnone]
          refine congrArg (· ++ []) (List.flatMap_congr fun field hfield => ?_)
          exact fields.undeclared_under_of_keyed field.1 field.2 (hfields field hfield)
      | _ => rfl

/-- Where no record below a field is given as a list, nothing is missed below it. -/
theorem Fields.undeclared_under_of_keyed : {β : Type} → (fields : Fields β) → (key : String) →
    (value : Payload) → fields.keyedUnder key value = true →
    fields.undeclaredUnder false key value = fields.undeclaredUnder true key value
  | _, .nil, _, _, _ => rfl
  | _, .cons declared _ schema rest, key, value, hkeyed => by
      rw [Fields.keyedUnder] at hkeyed
      rw [Fields.undeclaredUnder, Fields.undeclaredUnder]
      split at hkeyed
      · rw [if_pos ‹_›, if_pos ‹_›, schema.undeclared_keys_of_keyed value hkeyed]
      · rw [if_neg ‹_›, if_neg ‹_›, rest.undeclared_under_of_keyed key value hkeyed]

end

end ShootMachines
