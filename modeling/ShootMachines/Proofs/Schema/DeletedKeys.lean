import ShootMachines.Proofs.Document.Deletion
import ShootMachines.Proofs.Schema.UndeclaredKeys

/-!
# Deleting undeclared keys

What a strict reader reports of a document are positions of keys that the layout does not declare, in the
order of a walk and none within another. A reader passes over such keys, so a document from which some of
them are deleted is read as before (`Schema.read_deleting`), and what is reported of it are the others
(`Schema.undeclared_keys_deleting`).
-/

namespace ShootMachines

mutual

/-- Whether a position leads through what a layout declares to a key that it does not declare. -/
def Schema.undeclares : {α : Type} → Schema α → DocumentPath → Bool
  | _, .optional item, path => item.undeclares path
  | _, .list item, path =>
      match path with
      | .item _ :: rest => item.undeclares rest
      | _ => false
  | _, .dict item, path =>
      match path with
      | .key _ :: rest => item.undeclares rest
      | _ => false
  | _, .record _ fields _ _ _ _, path =>
      match path with
      | .key key :: rest => fields.undeclares key rest
      | _ => false
  | _, _, _ => false

/-- Whether a position below a field of a record leads to a key that is not declared: the key of the field
itself, or one below a declared field. -/
def Fields.undeclares (key : String) (rest : DocumentPath) : {β : Type} → Fields β → Bool
  | _, .nil => rest.isEmpty
  | _, .cons declared _ schema others =>
      if declared = key then schema.undeclares rest else others.undeclares key rest

end

variable {α : Type}

/-- The position of a whole document is not that of a key. -/
theorem Schema.not_undeclares_nil : {α : Type} → (schema : Schema α) → schema.undeclares [] ≠ true
  | _, schema => by
      cases schema with
      | optional item => exact item.not_undeclares_nil
      | _ => exact Bool.false_ne_true

/-! ## What is reported -/

mutual

/-- A reported position is that of an entry of the document, under a key that the layout does not
declare. -/
theorem Schema.undeclares_of_mem : {α : Type} → (schema : Schema α) → (payload : Payload) →
    payload.Normal → {path : DocumentPath} → path ∈ schema.undeclaredKeys false payload →
    schema.undeclares path = true ∧ (payload.at? path).isSome = true
  | _, schema, payload, hnormal, path, hpath => by
      cases schema with
      | optional item => exact item.undeclares_of_mem payload hnormal hpath
      | list item =>
          cases payload with
          | list items =>
              obtain ⟨⟨value, index⟩, hvalue, hpath⟩ := List.mem_flatMap.1 hpath
              obtain ⟨rest, hrest, rfl⟩ := List.mem_map.1 hpath
              have hfound : items[index]? = some value := List.mem_zipIdx_iff_getElem?.1 hvalue
              have hnormalValue :=
                Payload.normal_items_iff.1 hnormal value (List.mem_of_getElem? hfound)
              obtain ⟨hundeclared, hat⟩ := item.undeclares_of_mem value hnormalValue hrest
              refine ⟨hundeclared, ?_⟩
              rwa [Payload.at?, hfound]
          | _ => cases hpath
      | dict item =>
          cases payload with
          | object fields =>
              obtain ⟨⟨key, value⟩, hvalue, hpath⟩ := List.mem_flatMap.1 hpath
              obtain ⟨rest, hrest, rfl⟩ := List.mem_map.1 hpath
              have hfound : fields.lookup key = some value := lookup_of_mem hnormal.1.nodup hvalue
              have hnormalValue := Payload.normal_fields_iff.1 hnormal.2 _ hvalue
              obtain ⟨hundeclared, hat⟩ := item.undeclares_of_mem value hnormalValue hrest
              refine ⟨hundeclared, ?_⟩
              rwa [Payload.at?, hfound]
          | _ => cases hpath
      | record style fields _ _ _ _ =>
          rw [Schema.undeclaredKeys, if_neg Bool.false_ne_true, List.append_nil] at hpath
          cases payload with
          | object given =>
              obtain ⟨⟨key, value⟩, hvalue, hpath⟩ := List.mem_flatMap.1 hpath
              have hfound : given.lookup key = some value := lookup_of_mem hnormal.1.nodup hvalue
              have hnormalValue := Payload.normal_fields_iff.1 hnormal.2 _ hvalue
              obtain ⟨rest, rfl, hundeclared, hat⟩ :=
                fields.undeclares_of_mem key value hnormalValue hpath
              refine ⟨hundeclared, ?_⟩
              rwa [Payload.at?, hfound]
          | _ => cases hpath
      | _ => cases hpath

/-- A reported position in a field of a record is below the key of the field. -/
theorem Fields.undeclares_of_mem : {β : Type} → (fields : Fields β) → (key : String) →
    (value : Payload) → value.Normal → {path : DocumentPath} →
    path ∈ fields.undeclaredUnder false key value →
    ∃ rest, path = .key key :: rest ∧ fields.undeclares key rest = true ∧
      (value.at? rest).isSome = true
  | _, .nil, key, value, _, path, hpath => by
      obtain rfl := List.mem_singleton.1 hpath
      exact ⟨[], rfl, rfl, rfl⟩
  | _, .cons declared _ schema others, key, value, hnormal, path, hpath => by
      rw [Fields.undeclaredUnder] at hpath
      simp only [Fields.undeclares]
      by_cases hsame : declared = key
      · rw [if_pos hsame] at hpath
        obtain ⟨rest, hrest, rfl⟩ := List.mem_map.1 hpath
        obtain ⟨hundeclared, hat⟩ := schema.undeclares_of_mem value hnormal hrest
        refine ⟨rest, rfl, ?_, hat⟩
        rwa [if_pos hsame]
      · rw [if_neg hsame] at hpath
        obtain ⟨rest, rfl, hundeclared, hat⟩ := others.undeclares_of_mem key value hnormal hpath
        refine ⟨rest, rfl, ?_, hat⟩
        rwa [if_neg hsame]

end

/-- Positions within steps of which one precedes the other are in order. -/
theorem DocumentPath.before_of_precedes {step other : DocumentStep} (h : step.Precedes other)
    {found others : List DocumentPath} :
    ∀ first ∈ found.map (step :: ·), ∀ second ∈ others.map (other :: ·), Before first second := by
  intro first hfirst second hsecond
  obtain ⟨rest, _, rfl⟩ := List.mem_map.1 hfirst
  obtain ⟨below, _, rfl⟩ := List.mem_map.1 hsecond
  exact .parted rest below h

/-- Positions in order are in order within a step. -/
theorem DocumentPath.pairwise_map_step {found : List DocumentPath} (h : found.Pairwise Before)
    (step : DocumentStep) : (found.map (step :: ·)).Pairwise Before :=
  List.pairwise_map.2 (h.imp (Before.within step))

mutual

/-- What is reported of a document is in the order of a walk, and no position lies within another. -/
theorem Schema.before_of_undeclared_keys : {α : Type} → (schema : Schema α) → (payload : Payload) →
    payload.Normal → (schema.undeclaredKeys false payload).Pairwise DocumentPath.Before
  | _, schema, payload, hnormal => by
      cases schema with
      | optional item => exact item.before_of_undeclared_keys payload hnormal
      | list item =>
          cases payload with
          | list items =>
              refine List.pairwise_flatMap.2 ⟨fun entry hentry => ?_, ?_⟩
              · have hvalue : entry.1 ∈ items := List.fst_mem_of_mem_zipIdx hentry
                exact DocumentPath.pairwise_map_step (item.before_of_undeclared_keys entry.1
                  (Payload.normal_items_iff.1 hnormal entry.1 hvalue)) _
              · have hindices : (items.zipIdx.map Prod.snd).Pairwise (· < ·) := by
                  rw [List.zipIdx_map_snd]
                  exact List.pairwise_lt_range'
                exact (List.pairwise_map.1 hindices).imp fun hlt =>
                  DocumentPath.before_of_precedes hlt
          | _ => exact .nil
      | dict item =>
          cases payload with
          | object fields =>
              refine List.pairwise_flatMap.2 ⟨fun field hfield => ?_, ?_⟩
              · exact DocumentPath.pairwise_map_step (item.before_of_undeclared_keys field.2
                  (Payload.normal_fields_iff.1 hnormal.2 field hfield)) _
              · exact (List.pairwise_map.1 hnormal.1).imp fun hlt =>
                  DocumentPath.before_of_precedes hlt
          | _ => exact .nil
      | record style fields _ _ _ _ =>
          rw [Schema.undeclaredKeys, if_neg Bool.false_ne_true, List.append_nil]
          cases payload with
          | object given =>
              have hfields := Payload.normal_fields_iff.1 hnormal.2
              refine List.pairwise_flatMap.2 ⟨fun field hfield => ?_, ?_⟩
              · exact fields.before_of_undeclared_under field.1 field.2 (hfields field hfield)
              · refine (List.pairwise_map.1 hnormal.1).imp_of_mem ?_
                intro field other hfield hother hlt first hfirst second hsecond
                obtain ⟨rest, rfl, _⟩ :=
                  fields.undeclares_of_mem field.1 field.2 (hfields field hfield) hfirst
                obtain ⟨below, rfl, _⟩ :=
                  fields.undeclares_of_mem other.1 other.2 (hfields other hother) hsecond
                exact .parted rest below hlt
          | _ => exact .nil
      | _ => exact .nil

/-- What is reported of a field of a record is in the order of a walk. -/
theorem Fields.before_of_undeclared_under : {β : Type} → (fields : Fields β) → (key : String) →
    (value : Payload) → value.Normal →
    (fields.undeclaredUnder false key value).Pairwise DocumentPath.Before
  | _, .nil, _, _, _ => List.pairwise_singleton _ _
  | _, .cons declared _ schema others, key, value, hnormal => by
      rw [Fields.undeclaredUnder]
      split
      · exact DocumentPath.pairwise_map_step (schema.before_of_undeclared_keys value hnormal) _
      · exact others.before_of_undeclared_under key value hnormal

end

/-! ## What is read after a deletion -/

/-- A list is read after a deletion as before if every item is. -/
theorem map_m_deleting_items {ε β : Type} {read : Payload → Except ε β} {paths : List DocumentPath}
    {items : List Payload}
    (h : ∀ item ∈ items, ∀ index, read (item.deleting (DocumentPath.below (.item index) paths)) =
      read item) (index : Nat) :
    (Payload.deletingItems paths items index).mapM read = items.mapM read := by
  induction items generalizing index with
  | nil => rfl
  | cons item rest ih =>
      have hrest := ih (fun other hother => h other (List.mem_cons_of_mem _ hother)) (index + 1)
      rw [Payload.deletingItems, List.mapM_cons, List.mapM_cons, hrest,
        h item List.mem_cons_self index]

/-- An object is read after a deletion field by field as before if no field of it is deleted and every
value is read as before. -/
theorem map_m_deleting_fields {ε β : Type} {paths : List DocumentPath}
    {fields : List (String × Payload)} (read : String × Payload → Except ε β)
    (hkept : ∀ key, [.key key] ∉ paths)
    (h : ∀ field ∈ fields,
      read (field.1, field.2.deleting (DocumentPath.below (.key field.1) paths)) = read field) :
    (Payload.deletingFields paths fields).mapM read = fields.mapM read := by
  induction fields with
  | nil => rfl
  | cons field rest ih =>
      have hrest := ih fun other hother => h other (List.mem_cons_of_mem _ hother)
      rw [Payload.deletingFields, if_neg (hkept field.1), List.mapM_cons, List.mapM_cons, hrest,
        h field List.mem_cons_self]

mutual

/-- Deleting keys that a plain layout does not declare does not change what is read. -/
theorem Schema.read_deleting : {α : Type} → (schema : Schema α) → schema.plain = true →
    (payload : Payload) → payload.Normal → (paths : List DocumentPath) →
    (∀ path ∈ paths, schema.undeclares path = true) →
    schema.read Payload.source (payload.deleting paths) = schema.read Payload.source payload
  | _, .text, _, payload, _, _, _ => by cases payload <;> rfl
  | _, .flag, _, payload, _, _, _ => by cases payload <;> rfl
  | _, .int32, _, payload, _, _, _ => by cases payload <;> rfl
  | _, .int64, _, payload, _, _, _ => by cases payload <;> rfl
  | _, .uint32, _, payload, _, _, _ => by cases payload <;> rfl
  | _, .quantity, _, payload, _, _, _ => by cases payload <;> rfl
  | _, .intOrText, _, payload, _, _, _ => by cases payload <;> rfl
  | _, .instant, _, payload, _, _, _ => by cases payload <;> rfl
  | _, .optional item, hplain, payload, hnormal, paths, hpaths => by
      rw [Schema.plain, Bool.and_eq_true] at hplain
      rw [Schema.read_optional, Schema.read_optional, Payload.source_is_null,
        Payload.source_is_null, Payload.is_null_deleting,
        item.read_deleting hplain.2 payload hnormal paths hpaths]
  | _, .list item, hplain, payload, hnormal, paths, hpaths => by
      rw [Schema.plain, Bool.and_eq_true] at hplain
      cases payload with
      | list items =>
          have hitems : (Payload.deletingItems paths items 0).mapM (item.read Payload.source) =
              items.mapM (item.read Payload.source) :=
            map_m_deleting_items (fun entry hentry index => item.read_deleting hplain.2 entry
              (Payload.normal_items_iff.1 hnormal entry hentry) _ fun path hpath =>
                hpaths (.item index :: path) (DocumentPath.mem_below.1 hpath)) 0
          rw [Schema.read, Schema.read]
          exact hitems
      | _ => rfl
  | _, .dict item, hplain, payload, hnormal, paths, hpaths => by
      rw [Schema.plain, Bool.and_eq_true] at hplain
      cases payload with
      | object fields =>
          have hkept : ∀ key, [.key key] ∉ paths :=
            fun key hkey => item.not_undeclares_nil (hpaths _ hkey)
          have hentries := map_m_deleting_fields
            (fun field => do
              let value ← item.read Payload.source field.2
              .ok (field.1, value)) hkept fun field hfield => by
                have hvalue := item.read_deleting hplain.2 field.2
                  (Payload.normal_fields_iff.1 hnormal.2 field hfield)
                  (DocumentPath.below (.key field.1) paths) fun path hpath =>
                    hpaths (.key field.1 :: path) (DocumentPath.mem_below.1 hpath)
                simp only [hvalue]
          rw [Schema.read, Schema.read]
          simp only [Payload.deleting, Payload.source_form_object, ok_bind, hentries]
      | _ => rfl
  | _, .record style fields build parts _ _, hplain, payload, hnormal, paths, hpaths => by
      cases payload with
      | object given =>
          have hfields := fields.read_named_deleting hplain style given hnormal paths
            fun key _ rest hrest => hpaths _ hrest
          rw [Schema.read, Schema.read]
          simp only [Payload.deleting, Payload.source_form_object, ok_bind, hfields]
      | list items =>
          -- A record is given as a list here, and every position in it starts with a key.
          have houtside (index : Nat) (rest : DocumentPath) : .item index :: rest ∉ paths :=
            fun hrest => by cases hpaths _ hrest
          rw [Payload.deleting, Payload.deleting_items_of_outside houtside]
      | _ => rfl

/-- Deleting keys that the layout does not declare does not change what is read of a record. -/
theorem Fields.read_named_deleting : {β : Type} → (fields : Fields β) → fields.plain = true →
    (style : RecordStyle) → (given : List (String × Payload)) → (Payload.object given).Normal →
    (paths : List DocumentPath) →
    (∀ key ∈ fields.keys, ∀ rest, .key key :: rest ∈ paths → fields.undeclares key rest = true) →
    fields.readNamed Payload.source style (Payload.deletingFields paths given) =
      fields.readNamed Payload.source style given
  | _, .nil, _, _, _, _, _, _ => rfl
  | _, .cons key presence schema rest, hplain, style, given, hnormal, paths, hpaths => by
      obtain ⟨hkey, _, hschema, hrest⟩ := Fields.plain_cons hplain
      have hbelow : ∀ path, .key key :: path ∈ paths → schema.undeclares path = true := by
        intro path hpath
        have hundeclared := hpaths key List.mem_cons_self path hpath
        rwa [Fields.undeclares, if_pos rfl] at hundeclared
      have hkept : [.key key] ∉ paths := fun hmem => schema.not_undeclares_nil (hbelow [] hmem)
      have hothers := rest.read_named_deleting hrest style given hnormal paths
        fun other hother path hpath => by
          have hne : key ≠ other := fun hsame => hkey (hsame ▸ hother)
          have hundeclared := hpaths other (List.mem_cons_of_mem _ hother) path hpath
          rwa [Fields.undeclares, if_neg hne] at hundeclared
      have hsublist := Payload.keys_deleting_sublist paths given
      rw [Fields.read_named_cons_eq hnormal.1.nodup,
        Fields.read_named_cons_eq (hnormal.1.nodup.sublist hsublist), hothers,
        Payload.lookup_deleting, if_neg hkept]
      cases hlookup : given.lookup key with
      | none => rfl
      | some value =>
          have hvalue := schema.read_deleting hschema value
            (Payload.normal_fields_iff.1 hnormal.2 _ (mem_of_lookup hlookup))
            (DocumentPath.below (.key key) paths) fun path hpath =>
              hbelow path (DocumentPath.mem_below.1 hpath)
          simp only [Option.map_some, Fields.readField, Payload.is_null_deleting, hvalue]

end

/-! ## What is reported after a deletion -/

/-- If of every item those positions are reported that are left, so they are of the list. -/
theorem flat_map_deleting_items {report : Payload → List DocumentPath} {paths : List DocumentPath}
    (h : ∀ (item : Payload) (index : Nat),
      report (item.deleting (DocumentPath.below (.item index) paths)) =
        (report item).filter fun path => path ∉ DocumentPath.below (.item index) paths)
    (items : List Payload) (index : Nat) :
    ((Payload.deletingItems paths items index).zipIdx index).flatMap
        (fun entry => (report entry.1).map (.item entry.2 :: ·)) =
      ((items.zipIdx index).flatMap fun entry =>
        (report entry.1).map (.item entry.2 :: ·)).filter fun path => path ∉ paths := by
  induction items generalizing index with
  | nil => rfl
  | cons item rest ih =>
      rw [Payload.deletingItems, List.zipIdx_cons, List.zipIdx_cons, List.flatMap_cons,
        List.flatMap_cons, List.filter_append, DocumentPath.filter_map_step, ih, h]

/-- If of every field those positions are reported that are left, so they are of the object. -/
theorem flat_map_deleting_fields (report : String → Payload → List DocumentPath)
    {paths : List DocumentPath}
    (hdeleted : ∀ key value, [.key key] ∈ paths → report key value = [[.key key]])
    (hkept : ∀ key value, [.key key] ∉ paths →
      report key (value.deleting (DocumentPath.below (.key key) paths)) =
        (report key value).filter fun path => path ∉ paths)
    (fields : List (String × Payload)) :
    (Payload.deletingFields paths fields).flatMap (fun field => report field.1 field.2) =
      (fields.flatMap fun field => report field.1 field.2).filter fun path => path ∉ paths := by
  induction fields with
  | nil => rfl
  | cons field rest ih =>
      obtain ⟨key, value⟩ := field
      rw [Payload.deletingFields, List.flatMap_cons, List.filter_append]
      by_cases hmem : [.key key] ∈ paths
      · rw [if_pos hmem, hdeleted key value hmem, ih]
        simp [hmem]
      · rw [if_neg hmem, List.flatMap_cons, hkept key value hmem, ih]

mutual

/-- Of a document from which undeclared keys are deleted, those that are left are reported. -/
theorem Schema.undeclared_keys_deleting : {α : Type} → (schema : Schema α) →
    (paths : List DocumentPath) → (∀ path ∈ paths, schema.undeclares path = true) →
    (payload : Payload) →
    schema.undeclaredKeys false (payload.deleting paths) =
      (schema.undeclaredKeys false payload).filter fun path => path ∉ paths
  | _, schema, paths, hpaths, payload => by
      cases schema with
      | optional item => exact item.undeclared_keys_deleting paths hpaths payload
      | list item =>
          cases payload with
          | list items =>
              exact flat_map_deleting_items (fun entry index =>
                item.undeclared_keys_deleting _ (fun path hpath =>
                  hpaths (.item index :: path) (DocumentPath.mem_below.1 hpath)) entry) items 0
          | _ => rfl
      | dict item =>
          cases payload with
          | object fields =>
              refine flat_map_deleting_fields
                (fun key value => (item.undeclaredKeys false value).map (.key key :: ·))
                (fun key value hmem => ?_) (fun key value _ => ?_) fields
              · exact absurd (hpaths _ hmem) item.not_undeclares_nil
              · have hvalue := item.undeclared_keys_deleting (DocumentPath.below (.key key) paths)
                  (fun path hpath => hpaths (.key key :: path) (DocumentPath.mem_below.1 hpath)) value
                rw [DocumentPath.filter_map_step, ← hvalue]
          | _ => rfl
      | record style fields _ _ _ _ =>
          simp only [Schema.undeclaredKeys, if_neg Bool.false_ne_true, List.append_nil]
          cases payload with
          | object given =>
              have hfields := fun key value => fields.undeclared_under_deleting paths key
                (fun rest hrest => hpaths (.key key :: rest) hrest) value
              exact flat_map_deleting_fields _ (fun key value => (hfields key value).1)
                (fun key value => (hfields key value).2) given
          | _ => rfl
      | _ => rfl

/-- Of a field of a record, the key is reported if it is deleted, and else what is left below it. -/
theorem Fields.undeclared_under_deleting : {β : Type} → (fields : Fields β) →
    (paths : List DocumentPath) → (key : String) →
    (∀ rest, .key key :: rest ∈ paths → fields.undeclares key rest = true) → (value : Payload) →
    ([.key key] ∈ paths → fields.undeclaredUnder false key value = [[.key key]]) ∧
      ([.key key] ∉ paths →
        fields.undeclaredUnder false key
            (value.deleting (DocumentPath.below (.key key) paths)) =
          (fields.undeclaredUnder false key value).filter fun path => path ∉ paths)
  | _, .nil, paths, key, _, value => by
      refine ⟨fun _ => rfl, fun hmem => ?_⟩
      simp [Fields.undeclaredUnder, hmem]
  | _, .cons declared _ schema others, paths, key, hpaths, value => by
      simp only [Fields.undeclares, Fields.undeclaredUnder] at hpaths ⊢
      by_cases hsame : declared = key
      · simp only [if_pos hsame] at hpaths ⊢
        refine ⟨fun hmem => ?_, fun _ => ?_⟩
        · exact absurd (hpaths [] hmem) schema.not_undeclares_nil
        · rw [DocumentPath.filter_map_step, schema.undeclared_keys_deleting _ fun path hpath =>
            hpaths path (DocumentPath.mem_below.1 hpath)]
      · simp only [if_neg hsame] at hpaths ⊢
        exact others.undeclared_under_deleting paths key hpaths value

end

end ShootMachines
