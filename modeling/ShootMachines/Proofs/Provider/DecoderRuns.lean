import ShootMachines.Proofs.Results
import ShootMachines.Provider.Section

/-!
# What decoders do

A parsed payload is decoded as a kind if it states the kind and its other fields can be read, or if it is
null and stands for an absent one (`Decoder.decode_parsed_eq_ok_iff`). What is decoded strictly is decoded
leniently as the same value.
-/

namespace ShootMachines

namespace Decoder

variable {decoder : Decoder} {document : Payload} {kind : ProviderKind}

/-- A kind is stated in the field for it. -/
theorem kind_of_stated {stated : String} (h : decoder.statedKind document = .ok stated) :
    document.get? "kind" = some (.text stated) := by
  unfold statedKind at h
  split at h
  · rename_i apiVersion kind _ hkind
    split at h
    · obtain rfl := Except.ok.inj h
      obtain ⟨value, hvalue, htext⟩ := Option.bind_eq_some_iff.1 hkind
      cases value <;> cases htext
      exact hvalue
    · cases h
  · cases h

/-- A document that has a field is not null. -/
theorem is_null_of_get? {key : String} {value : Payload} (h : document.get? key = some value) :
    document.isNull = false := by
  cases document with
  | null => cases h
  | _ => rfl

/-- A document that states a kind is decoded as that kind by its other fields. -/
theorem decode_parsed_of_stated (hstated : decoder.statedKind document = .ok kind.name) :
    decoder.decodeParsed kind document =
      decoder.decodeFields kind (document.without typeKeys) := by
  have hnull := is_null_of_get? (kind_of_stated hstated)
  unfold decodeParsed
  rw [hnull, if_neg Bool.false_ne_true, hstated, ok_bind, if_neg (not_not_intro rfl)]

/-- A document that is decoded as a kind is null, or states that kind and has readable fields. -/
theorem decode_parsed_eq_ok_iff {value : kind.Config} :
    decoder.decodeParsed kind document = .ok value ↔
      document = .null ∧ kind.absent = value ∨
      decoder.statedKind document = .ok kind.name ∧
        decoder.decodeFields kind (document.without typeKeys) = .ok value := by
  constructor
  · intro h
    unfold decodeParsed at h
    split at h
    · rename_i hnull
      cases document with
      | null => exact .inl ⟨rfl, Except.ok.inj h⟩
      | _ => cases hnull
    · obtain ⟨stated, hstated, h⟩ := bind_eq_ok_iff.1 h
      split at h
      · cases h
      · rename_i hname
        rw [not_not.1 hname] at hstated
        exact .inr ⟨hstated, h⟩
  · rintro (⟨rfl, rfl⟩ | ⟨hstated, h⟩)
    · rfl
    · rw [decode_parsed_of_stated hstated, h]

end Decoder

section Lenient

variable {scheme : Scheme} {kind : ProviderKind}

namespace Decoder

/-- Fields that are decoded strictly are decoded leniently, as the same value. -/
theorem decode_fields_lenient {fields : Payload} {value : kind.Config}
    (h : scheme.strictDecoder.decodeFields kind fields = .ok value) :
    scheme.lenientDecoder.decodeFields kind fields = .ok value := by
  unfold decodeFields at h ⊢
  cases hdecode : kind.schema.decode fields with
  | error mismatch =>
      rw [hdecode] at h
      cases h
  | ok decoded =>
      rw [hdecode] at h
      dsimp only at h ⊢
      split at h
      · cases h
      · exact h

/-- A parsed payload that is decoded strictly is decoded leniently, as the same value. -/
theorem decode_parsed_lenient {payload : Payload} {value : kind.Config}
    (h : scheme.strictDecoder.decodeParsed kind payload = .ok value) :
    scheme.lenientDecoder.decodeParsed kind payload = .ok value := by
  rw [decode_parsed_eq_ok_iff] at h ⊢
  exact h.imp_right fun ⟨hstated, hfields⟩ => ⟨hstated, decode_fields_lenient hfields⟩

/-- A payload that is decoded strictly is decoded leniently, as the same value. -/
theorem decode_lenient {payload : Option Payload} {value : kind.Config}
    (h : scheme.strictDecoder.decode? kind payload = .ok value) :
    scheme.lenientDecoder.decode? kind payload = .ok value := by
  cases payload with
  | none => exact h
  | some payload =>
      obtain ⟨parsed, hparsed, h⟩ := bind_eq_ok_iff.1 h
      exact bind_eq_ok_iff.2 ⟨parsed, hparsed, decode_parsed_lenient h⟩

end Decoder

/-- A section that is decoded strictly is decoded leniently, as the same value. -/
theorem decode_section_lenient {subject : Subject} {payload : Option Payload} {value : kind.Config}
    (h : decodeSection scheme.strictDecoder kind subject payload = .ok value) :
    decodeSection scheme.lenientDecoder kind subject payload = .ok value :=
  map_error_eq_ok_iff.2 (Decoder.decode_lenient (map_error_eq_ok_iff.1 h))

end Lenient

end ShootMachines
