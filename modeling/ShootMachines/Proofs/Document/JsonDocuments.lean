import ShootMachines.Document.Json.Reader
import ShootMachines.Proofs.Yaml.NormalDocuments

/-!
# Documents of JSON texts

What is read from a JSON text is normal, since the fields of an object are put into a map while they are
read (`Json.normal_of_read`).
-/

namespace ShootMachines.Json

variable {depth : Nat} {text rest : List Char}

/-- A word is read as what it stands for. -/
theorem eq_of_read_word {α : Type} {word : List Char} {value result : α}
    (h : readWord word value text = .ok (result, rest)) : result = value := by
  unfold readWord at h
  split at h
  · exact (Prod.mk.inj (Except.ok.inj h)).1.symm
  · split at h <;> cases h

mutual

/-- A value that is read is normal. -/
theorem normal_of_read_value : (limit : Nat) → {depth : Nat} → {text rest : List Char} →
    {payload : Payload} → readValue limit depth text = .ok (payload, rest) → payload.Normal
  | 0, _, _, _, _, h => by cases h
  | limit + 1, depth, text, rest, payload, h => by
      rw [readValue] at h
      split at h
      · cases h
      · obtain ⟨⟨value, remaining⟩, _, h⟩ := bind_eq_ok_iff.1 h
        obtain ⟨rfl, _⟩ := Prod.mk.inj (Except.ok.inj h)
        trivial
      · split at h
        · cases h
        · split at h
          · obtain ⟨rfl, _⟩ := Prod.mk.inj (Except.ok.inj h)
            trivial
          · obtain ⟨⟨items, remaining⟩, hitems, h⟩ := bind_eq_ok_iff.1 h
            obtain ⟨rfl, _⟩ := Prod.mk.inj (Except.ok.inj h)
            exact Payload.normal_items_iff.2 (normal_of_read_items limit (by simp) hitems)
      · split at h
        · cases h
        · split at h
          · obtain ⟨rfl, _⟩ := Prod.mk.inj (Except.ok.inj h)
            exact ⟨.nil, trivial⟩
          · obtain ⟨⟨fields, remaining⟩, hfields, h⟩ := bind_eq_ok_iff.1 h
            obtain ⟨rfl, _⟩ := Prod.mk.inj (Except.ok.inj h)
            exact ⟨fields.ascending, Payload.normal_fields_iff.2
              (normal_of_read_fields limit (fun _ hfield => absurd hfield List.not_mem_nil) hfields)⟩
      · rw [eq_of_read_word h]
        trivial
      · rw [eq_of_read_word h]
        trivial
      · rw [eq_of_read_word h]
        trivial
      · split at h
        · obtain ⟨⟨value, remaining⟩, _, h⟩ := bind_eq_ok_iff.1 h
          obtain ⟨rfl, _⟩ := Prod.mk.inj (Except.ok.inj h)
          trivial
        · cases h

/-- The items of a list are normal if those that have been read before are. -/
theorem normal_of_read_items : (limit : Nat) → {depth : Nat} → {text rest : List Char} →
    {read items : List Payload} → (∀ item ∈ read, item.Normal) →
    readItems limit depth text read = .ok (items, rest) → ∀ item ∈ items, item.Normal
  | 0, _, _, _, _, _, _, h => by cases h
  | limit + 1, depth, text, rest, read, items, hread, h => by
      rw [readItems] at h
      obtain ⟨⟨item, remaining⟩, hitem, h⟩ := bind_eq_ok_iff.1 h
      have hall : ∀ other ∈ item :: read, other.Normal :=
        List.forall_mem_cons.2 ⟨normal_of_read_value limit hitem, hread⟩
      dsimp only at h
      split at h
      · exact normal_of_read_items limit hall h
      · obtain ⟨rfl, _⟩ := Prod.mk.inj (Except.ok.inj h)
        exact fun other hother => hall other (List.mem_reverse.1 hother)
      · cases h
      · cases h

/-- The fields of an object are normal if those that have been read before are. -/
theorem normal_of_read_fields : (limit : Nat) → {depth : Nat} → {text rest : List Char} →
    {read fields : Dict Payload} → (∀ field ∈ read.entries, field.2.Normal) →
    readFields limit depth text read = .ok (fields, rest) →
    ∀ field ∈ fields.entries, field.2.Normal
  | 0, _, _, _, _, _, _, h => by cases h
  | limit + 1, depth, text, rest, read, fields, hread, h => by
      rw [readFields] at h
      split at h
      · obtain ⟨⟨key, remaining⟩, _, h⟩ := bind_eq_ok_iff.1 h
        dsimp only at h
        split at h
        · obtain ⟨⟨value, remaining⟩, hvalue, h⟩ := bind_eq_ok_iff.1 h
          have hall : ∀ field ∈ (read.insert key value).entries, field.2.Normal := by
            intro field hfield
            rcases mem_insert_entry hfield with rfl | hold
            · exact normal_of_read_value limit hvalue
            · exact hread field hold
          dsimp only at h
          split at h
          · exact normal_of_read_fields limit hall h
          · obtain ⟨rfl, _⟩ := Prod.mk.inj (Except.ok.inj h)
            exact hall
          · cases h
          · cases h
        · cases h
        · cases h
      · cases h
      · cases h

end

/-- What is read from a JSON text is normal. -/
theorem normal_of_read {text : String} {payload : Payload} (h : read text = .ok payload) :
    payload.Normal := by
  unfold read at h
  obtain ⟨⟨value, remaining⟩, hvalue, h⟩ := bind_eq_ok_iff.1 h
  dsimp only at h
  split at h
  · obtain rfl := Except.ok.inj h
    exact normal_of_read_value _ hvalue
  · cases h

end ShootMachines.Json
