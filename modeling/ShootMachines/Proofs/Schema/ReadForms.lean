import ShootMachines.Proofs.Document.DictLemmas
import ShootMachines.Proofs.Results
import ShootMachines.Schema.Read
import ShootMachines.Schema.Write

/-!
# What values are read from

A value that was read from a document says which form the document has: lists are read from lists, maps
from objects, and records from objects or from the lists of their fields. If no key of an object is given
twice, `Fields.read_named_cons_eq` reads the declared fields one after the other.
-/

namespace ShootMachines

variable {α β : Type}

namespace Payload

@[simp]
theorem source_whole_int (value : Int) : source.whole (.int value) = .ok value := rfl

@[simp]
theorem source_natural_int (value : Int) : source.natural (.int value) = .ok value := rfl

@[simp]
theorem source_scalar_int (value : Int) : source.scalar (.int value) = .ok (.whole value) := rfl

@[simp]
theorem source_form_list (items : List Payload) : source.form (.list items) = .ok (.list items) :=
  rfl

@[simp]
theorem source_form_object (fields : List (String × Payload)) :
    source.form (.object fields) = .ok (.object fields) := rfl

@[simp]
theorem source_text_text (value : String) : source.text (.text value) = .ok value := rfl

@[simp]
theorem source_is_null (payload : Payload) : source.isNull payload = payload.isNull := rfl

end Payload

/-- Of entries with distinct keys, at most one is given for a key: the one that is looked up. -/
theorem given_for_eq_lookup {α : Type} {entries : List (String × α)}
    (hdistinct : (entries.map Prod.fst).Nodup) (key : String) :
    givenFor key entries = (entries.lookup key).toList := by
  induction entries with
  | nil => rfl
  | cons first rest ih =>
      obtain ⟨other, value⟩ := first
      rw [List.map_cons, List.nodup_cons] at hdistinct
      have hrest := ih hdistinct.2
      unfold givenFor at hrest ⊢
      rw [lookup_entry]
      by_cases hsame : key = other
      · subst hsame
        rw [lookup_eq_none_of_not_mem hdistinct.1] at hrest
        simpa using hrest
      · rw [if_neg hsame, ← hrest]
        simp [Ne.symm hsame]

namespace Schema

/-- A list is read from a list, item by item. -/
theorem read_list_eq_ok {item : Schema α} {payload : Payload} {values : List α}
    (h : item.list.read Payload.source payload = .ok values) :
    ∃ items, payload = .list items ∧
      List.Forall₂ (fun given value => item.read Payload.source given = .ok value) items values := by
  rw [read] at h
  cases payload with
  | list items => exact ⟨items, rfl, map_m_eq_ok_iff.1 h⟩
  | _ => cases h

/-- A map is read from an object, field by field. -/
theorem read_dict_eq_ok {item : Schema α} {payload : Payload} {dict : Dict α}
    (h : item.dict.read Payload.source payload = .ok dict) :
    ∃ fields entries, payload = .object fields ∧ dict = .ofList entries ∧
      List.Forall₂ (fun field entry => field.1 = entry.1 ∧
        item.read Payload.source field.2 = .ok entry.2) fields entries := by
  rw [read] at h
  cases payload with
  | object fields =>
      rw [Payload.source_form_object, ok_bind] at h
      obtain ⟨entries, hentries, h⟩ := bind_eq_ok_iff.1 h
      obtain rfl := Except.ok.inj h
      refine ⟨fields, entries, rfl, rfl, (map_m_eq_ok_iff.1 hentries).imp fun field entry h => ?_⟩
      obtain ⟨value, hvalue, h⟩ := bind_eq_ok_iff.1 h
      obtain rfl := Except.ok.inj h
      exact ⟨rfl, hvalue⟩
  | _ => cases h

/-- A record is read from an object, by the keys of its fields, or from a list, by their order. -/
theorem read_record_eq_ok {style : RecordStyle} {fields : Fields β} {build : β → α} {parts : α → β}
    {build_parts : ∀ value, build (parts value) = value}
    {parts_build : ∀ value, parts (build value) = value} {payload : Payload} {value : α}
    (h : (record style fields build parts build_parts parts_build).read Payload.source payload =
      .ok value) :
    (∃ given, payload = .object given ∧
      fields.readNamed Payload.source style given = .ok (parts value)) ∨
    ∃ items, payload = .list items ∧
      fields.readPositional Payload.source items = .ok (parts value) := by
  rw [read] at h
  cases payload with
  | object given =>
      obtain ⟨read, hread, rfl⟩ := map_eq_ok_iff.1 h
      exact .inl ⟨given, rfl, by rw [parts_build, hread]⟩
  | list items =>
      cases style with
      | flexible =>
          obtain ⟨read, hread, rfl⟩ := map_eq_ok_iff.1 h
          exact .inr ⟨items, rfl, by rw [parts_build, hread]⟩
      | _ => cases h
  | _ => cases h

/-- A choice is read from the content of the variant that the document chooses. -/
theorem read_choice_eq_ok {cases : Cases β} {build : β → α} {parts : α → β}
    {build_parts : ∀ value, build (parts value) = value}
    {parts_build : ∀ value, parts (build value) = value} {payload : Payload} {value : α}
    (h : (choice cases build parts build_parts parts_build).read Payload.source payload =
      .ok value) :
    ∃ tag fields, payload = .object [(tag, .object fields)] ∧
      cases.read Payload.source tag (.object fields) = .ok (parts value) := by
  rw [read] at h
  obtain ⟨⟨tag, content⟩, hvariant, h⟩ := bind_eq_ok_iff.1 h
  obtain ⟨read, hread, rfl⟩ := map_eq_ok_iff.1 h
  rw [parts_build]
  simp only [Payload.source] at hvariant
  split at hvariant
  · obtain ⟨rfl, rfl⟩ := Prod.mk.inj (Except.ok.inj hvariant)
    exact ⟨_, _, rfl, hread⟩
  · cases hvariant

/-- A resource is read like its content. -/
theorem read_resource_eq_ok {apiVersion kind : String} {checked : Bool} {item : Schema α}
    {payload : Payload} {value : α}
    (h : (resource apiVersion kind checked item).read Payload.source payload = .ok value) :
    item.read Payload.source payload = .ok value := by
  cases checked with
  | false => exact h
  | true =>
      rw [read, if_pos rfl] at h
      obtain ⟨form, _, h⟩ := bind_eq_ok_iff.1 h
      cases form with
      | object given =>
          obtain ⟨_, _, h⟩ := bind_eq_ok_iff.1 h
          obtain ⟨_, _, h⟩ := bind_eq_ok_iff.1 h
          exact h
      | _ => exact h

/-- Only an optional value that was read from null is left out. -/
theorem omits_eq_false_of_read {schema : Schema α} {payload : Payload} {value : α}
    (hread : schema.read Payload.source payload = .ok value) (hnull : payload.isNull = false) :
    schema.omits value = false := by
  cases schema with
  | optional item =>
      rw [read, Payload.source_is_null, hnull, if_neg Bool.false_ne_true] at hread
      obtain ⟨present, _, rfl⟩ := map_eq_ok_iff.1 hread
      rfl
  | _ => rfl

end Schema

namespace Fields

/-- Read a declared field from what is given for it: in a tolerant record a null stands for nothing. -/
def readField (style : RecordStyle) (key : String) (presence : Presence α) (schema : Schema α) :
    Option Payload → Except Mismatch α
  | none => presence.absent key true
  | some payload =>
      if style = .tolerant ∧ payload.isNull = true then presence.absent key true
      else schema.read Payload.source payload

variable {style : RecordStyle} {key : String} {presence : Presence α} {schema : Schema α}
  {rest : Fields β} {given : List (String × Payload)}

/-- If no key is given twice, the first declared field is read from what is found under its key. -/
theorem read_named_cons_eq (hdistinct : (given.map Prod.fst).Nodup) :
    (Fields.cons key presence schema rest).readNamed Payload.source style given = (do
      let value ← readField style key presence schema (given.lookup key)
      let others ← rest.readNamed Payload.source style given
      .ok (value, others)) := by
  rw [readNamed.eq_def]
  simp only [given_for_eq_lookup hdistinct]
  cases given.lookup key with
  | none => rfl
  | some payload =>
      cases style with
      | tolerant =>
          cases hnull : payload.isNull with
          | true => simp [readField, hnull]
          | false =>
              cases hread : schema.read Payload.source payload <;>
                simp [readField, hnull, hread, Except.map]
      | _ => rfl

/-- The first declared field is missing, or read from one of the nodes that are given for it, and the
others are read from the same fields. -/
theorem read_named_cons_ok {value : α} {others : β}
    (h : (Fields.cons key presence schema rest).readNamed Payload.source style given =
      .ok (value, others)) :
    (presence.absent key true = .ok value ∨
      ∃ payload, schema.read Payload.source payload = .ok value) ∧
    rest.readNamed Payload.source style given = .ok others := by
  rw [readNamed.eq_def] at h
  dsimp only at h
  split at h
  · exact (pair_eq_ok_iff.1 h).imp_left .inl
  · obtain ⟨values, hvalues, h⟩ := bind_eq_ok_iff.1 h
    split at h
    · rename_i last hlast
      refine (pair_eq_ok_iff.1 h).imp_left fun hvalue => .inr ?_
      obtain rfl := Except.ok.inj hvalue
      obtain ⟨payload, _, hpayload⟩ :=
        exists_mem_of_forall₂ (map_m_eq_ok_iff.1 hvalues) (List.mem_of_getLast? hlast)
      split at hpayload
      · cases hpayload
      · obtain ⟨_, hread, hsame⟩ := map_eq_ok_iff.1 hpayload
        obtain rfl := Option.some.inj hsame
        exact ⟨payload, hread⟩
    · exact (pair_eq_ok_iff.1 h).imp_left .inl
  · exact (pair_eq_ok_iff.1 h).imp_left fun hread => .inr ⟨_, hread⟩
  · cases h

/-- The first declared field is read from what is given for it, unless that is null, and the others are
read from the same fields. -/
theorem read_named_cons_eq_ok {value : α} {others : β} (hdistinct : (given.map Prod.fst).Nodup)
    (h : (Fields.cons key presence schema rest).readNamed Payload.source style given =
      .ok (value, others)) :
    rest.readNamed Payload.source style given = .ok others ∧
      ∀ payload, given.lookup key = some payload → payload.isNull = false →
        schema.read Payload.source payload = .ok value := by
  rw [read_named_cons_eq hdistinct] at h
  obtain ⟨hpresent, hothers⟩ := pair_eq_ok_iff.1 h
  refine ⟨hothers, fun payload hlookup hnull => ?_⟩
  simpa [readField, hlookup, hnull] using hpresent

/-- Objects in which the same is found under every declared key are read alike. -/
theorem read_named_congr : {β : Type} → (fields : Fields β) → {given other : List (String × Payload)} →
    (given.map Prod.fst).Nodup → (other.map Prod.fst).Nodup →
    (∀ key ∈ fields.keys, given.lookup key = other.lookup key) →
    fields.readNamed Payload.source style given = fields.readNamed Payload.source style other
  | _, .nil, _, _, _, _, _ => rfl
  | _, .cons key presence schema rest, given, other, hgiven, hother, hsame => by
      rw [read_named_cons_eq hgiven, read_named_cons_eq hother, hsame key List.mem_cons_self,
        rest.read_named_congr hgiven hother fun key hkey => hsame key (List.mem_cons_of_mem _ hkey)]

end Fields

end ShootMachines
