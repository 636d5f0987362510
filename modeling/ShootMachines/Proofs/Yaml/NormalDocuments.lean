import ShootMachines.Proofs.Document.DictLemmas
import ShootMachines.Proofs.Results
import ShootMachines.Yaml.Manifest

/-!
# Normal documents

What is read from a text is normal: the keys of every object are ascending, so no key occurs twice. Of a
mapping that repeats a key only the last entry is kept, at every depth and also where an alias stands for
the mapping.
-/

namespace ShootMachines

namespace Payload

/-- Items are normal one by one. -/
theorem normal_items_iff {items : List Payload} :
    NormalItems items ↔ ∀ item ∈ items, item.Normal := by
  induction items with
  | nil => simp [NormalItems]
  | cons item rest ih => simp [NormalItems, ih]

/-- Fields are normal one by one. -/
theorem normal_fields_iff {fields : List (String × Payload)} :
    NormalFields fields ↔ ∀ field ∈ fields, field.2.Normal := by
  induction fields with
  | nil => simp [NormalFields]
  | cons field rest ih => simp [NormalFields, ih]

/-- The object of normal fields is normal, whatever their order. -/
theorem normal_of_fields {fields : List (String × Payload)}
    (h : ∀ field ∈ fields, field.2.Normal) : (ofFields fields).Normal :=
  ⟨(Dict.ofList fields).ascending,
    normal_fields_iff.2 fun field hfield => h field (Dict.mem_of_mem_of_list hfield)⟩

/-- Leaving out fields keeps a document normal. -/
theorem Normal.without {payload : Payload} (h : payload.Normal) (keys : List String) :
    (payload.without keys).Normal := by
  cases payload with
  | object fields =>
      obtain ⟨hascending, hfields⟩ := h
      refine ⟨hascending.sublist (List.filter_sublist.map _), ?_⟩
      exact normal_fields_iff.2 fun field hfield =>
        normal_fields_iff.1 hfields field (List.mem_of_mem_filter hfield)
  | _ => exact h

end Payload

namespace Yaml

/-- A scalar is normal. -/
theorem Document.normal_scalar_payload (scalar : Scalar) : (scalarPayload scalar).Normal := by
  cases scalar <;> exact trivial

/-- A node is read as a normal document, however many aliases have been followed before. -/
theorem Document.normal_payload_of {document : Document} {depth : Nat} {node : Node}
    {start final : Nat} {payload : Payload}
    (h : (document.payloadOf depth node).run start = .ok (payload, final)) : payload.Normal := by
  -- An alias may stand for any node, so the induction is on the depth and not on the node.
  induction depth using Nat.strongRecOn generalizing node start final payload with
  | ind depth ih =>
      unfold payloadOf at h
      obtain ⟨resolved, middle, _, h⟩ := run_bind_eq_ok_iff.1 h
      split at h
      · obtain ⟨scalar, _, rfl⟩ := run_map_eq_ok_iff.1 h
        exact normal_scalar_payload scalar
      · obtain ⟨_, _, _, h⟩ := run_bind_eq_ok_iff.1 h
        cases depth with
        | zero => cases h
        | succ depth =>
            obtain ⟨items, hitems, rfl⟩ := run_map_eq_ok_iff.1 h
            exact Payload.normal_items_iff.2 (forall_mem_of_map_m_run Payload.Normal
              (fun item start value final => ih depth (Nat.lt_succ_self depth)) hitems)
      · obtain ⟨_, _, _, h⟩ := run_bind_eq_ok_iff.1 h
        cases depth with
        | zero => cases h
        | succ depth =>
            obtain ⟨fields, _, hfields, h⟩ := run_bind_eq_ok_iff.1 h
            obtain ⟨rfl, _⟩ := Prod.mk.inj (Except.ok.inj h)
            refine Payload.normal_of_fields
              (forall_mem_of_map_m_run (fun field => field.2.Normal) ?_ hfields)
            intro entry start field final h
            obtain ⟨_, _, _, h⟩ := run_bind_eq_ok_iff.1 h
            obtain ⟨_, _, _, h⟩ := run_bind_eq_ok_iff.1 h
            obtain ⟨value, _, hvalue, h⟩ := run_bind_eq_ok_iff.1 h
            obtain ⟨rfl, _⟩ := Prod.mk.inj (Except.ok.inj h)
            exact ih depth (Nat.lt_succ_self depth) hvalue
      · cases h

/-- What is read from a text is normal. -/
theorem normal_of_read_payload {text : String} {payload : Payload}
    (h : readPayload text = .ok payload) : payload.Normal := by
  unfold readPayload readAs at h
  obtain ⟨document, _, h⟩ := bind_eq_ok_iff.1 h
  obtain ⟨⟨value, final⟩, hrun, rfl⟩ := map_eq_ok_iff.1 (map_error_eq_ok_iff.1 h)
  exact Document.normal_payload_of hrun

end Yaml

end ShootMachines
