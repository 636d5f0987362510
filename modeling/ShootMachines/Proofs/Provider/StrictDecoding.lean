import ShootMachines.Proofs.Provider.PayloadRoundTrip
import ShootMachines.Proofs.Schema.UndeclaredKeys

/-!
# What strict decoders refuse

A strict decoder refuses of what a lenient one decodes the payloads with undeclared keys, and says where
these are. It looks for them in every object that is reached through objects and lists of values, but not
in records that are given as the lists of their fields: `strict_misses_key_in_list` is a payload that it
accepts with an undeclared key in such a list. `Scheme.strict_decode_of_lenient` says this of all payloads.
-/

namespace ShootMachines

/-- The positions of the undeclared keys in a document of a kind. The statement of its type does not
count. -/
def ProviderKind.undeclaredKeys (kind : ProviderKind) (inLists : Bool) (document : Payload) :
    List DocumentPath :=
  kind.schema.undeclaredKeys inLists (document.without typeKeys)

/-- Whether no record in a document of a kind is given as a list. -/
def ProviderKind.keyed (kind : ProviderKind) (document : Payload) : Bool :=
  kind.schema.keyed (document.without typeKeys)

/-- The document of a normal payload is normal. -/
theorem normal_of_parse_payload {payload document : Payload} (hnormal : payload.Normal)
    (h : parsePayload payload = .ok document) : document.Normal := by
  cases payload with
  | text text => exact Yaml.normal_of_read_payload (map_error_eq_ok_iff.1 h)
  | _ =>
      obtain rfl := Except.ok.inj h
      exact hnormal

namespace Scheme

variable {scheme : Scheme} {kind : ProviderKind}

/-- What a lenient decoder reads from fields, a strict one refuses if there are undeclared keys. -/
theorem strict_decode_fields {fields : Payload} {value : kind.Config} (hnormal : fields.Normal)
    (h : scheme.lenientDecoder.decodeFields kind fields = .ok value) :
    scheme.strictDecoder.decodeFields kind fields =
      if kind.schema.undeclaredKeys false fields = [] then .ok value
      else .error (.unknownFields (kind.schema.undeclaredKeys false fields)) := by
  unfold Decoder.decodeFields at h ⊢
  cases hread : kind.schema.decode fields with
  | error mismatch =>
      rw [hread] at h
      cases h
  | ok read =>
      rw [hread] at h
      obtain rfl := Except.ok.inj h
      have hundeclared := kind.schema.undeclared_eq kind.schema_plain fields hnormal read hread
      simp only [hundeclared, strictDecoder]
      cases kind.schema.undeclaredKeys false fields <;> rfl

/-- What a lenient decoder decodes, a strict one decodes as the same value if it finds no undeclared key,
and else refuses with the positions of those it finds. -/
theorem strict_decode_eq {payload : Payload} {value : kind.Config} (hnormal : payload.Normal)
    (h : scheme.lenientDecoder.decode kind payload = .ok value) :
    ∃ document, parsePayload payload = .ok document ∧
      scheme.strictDecoder.decode kind payload =
        if kind.undeclaredKeys false document = [] then .ok value
        else .error (.unknownFields (kind.undeclaredKeys false document)) := by
  unfold Decoder.decode at h ⊢
  obtain ⟨document, hparse, h⟩ := bind_eq_ok_iff.1 h
  have hdocument := (normal_of_parse_payload hnormal hparse).without typeKeys
  refine ⟨document, hparse, ?_⟩
  rw [hparse, ok_bind]
  rcases Decoder.decode_parsed_eq_ok_iff.1 h with ⟨rfl, rfl⟩ | ⟨hstated, hfields⟩
  · have hnone : kind.undeclaredKeys false .null = [] := kind.schema.undeclared_keys_null false
    rw [hnone, if_pos rfl]
    rfl
  · have hsame : scheme.strictDecoder.statedKind document = .ok kind.name := hstated
    rw [Decoder.decode_parsed_of_stated hsame]
    exact strict_decode_fields hdocument hfields

/-- Of every payload that a lenient decoder decodes, a strict one gives the same value if it finds no
undeclared key, and else refuses the payload with the positions of those it finds. What it finds are
undeclared keys, so a payload without any is decoded; and where no record is given as a list it finds them
all, so such a payload is decoded exactly if no object in it has an undeclared key, null-valued or not. -/
theorem strict_decode_of_lenient {payload : Payload} {value : kind.Config}
    (hnormal : payload.Normal) (h : scheme.lenientDecoder.decode kind payload = .ok value) :
    ∃ document, parsePayload payload = .ok document ∧
      scheme.strictDecoder.decode kind payload =
        (if kind.undeclaredKeys false document = [] then .ok value
          else .error (.unknownFields (kind.undeclaredKeys false document))) ∧
      kind.undeclaredKeys false document ⊆ kind.undeclaredKeys true document ∧
      (kind.keyed document = true →
        kind.undeclaredKeys false document = kind.undeclaredKeys true document) := by
  obtain ⟨document, hparse, hstrict⟩ := strict_decode_eq hnormal h
  exact ⟨document, hparse, hstrict, kind.schema.undeclared_keys_subset _,
    kind.schema.undeclared_keys_of_keyed _⟩

/-- A payload of networks, with a shared network that has an undeclared field without a value. -/
def sampleMistypedNetworks : Payload :=
  .object [("apiVersion", .text providerApiVersion), ("kind", .text "InfrastructureConfig"),
    ("networks", .object [("sharedNetworks",
      .list [.object [("name", .text "uplink"), ("namespce", .null)]])])]

/-- The undeclared field of the sample network is refused, though it has no value. -/
theorem sample_mistyped_networks_refused :
    standard.lenientDecoder.decode .infrastructureConfig sampleMistypedNetworks =
        .ok ⟨⟨[⟨"uplink", none⟩], []⟩⟩ ∧
      ProviderKind.keyed .infrastructureConfig sampleMistypedNetworks = true ∧
      standard.strictDecoder.decode .infrastructureConfig sampleMistypedNetworks =
        .error (.unknownFields
          [[.key "networks", .key "sharedNetworks", .item 0, .key "namespce"]]) := by
  have hnetwork : (Payload.object [("name", .text "uplink"), ("namespce", .null)]).Normal :=
    ⟨by decide, trivial, trivial, trivial⟩
  have hnormal : sampleMistypedNetworks.Normal :=
    ⟨by decide, trivial, trivial, ⟨by decide, ⟨hnetwork, trivial⟩, trivial⟩, trivial⟩
  have hlenient : standard.lenientDecoder.decode .infrastructureConfig sampleMistypedNetworks =
      .ok ⟨⟨[⟨"uplink", none⟩], []⟩⟩ := rfl
  obtain ⟨document, hparse, hstrict, _, _⟩ := strict_decode_of_lenient hnormal hlenient
  obtain rfl := Except.ok.inj hparse
  exact ⟨hlenient, rfl, hstrict⟩

/-- A payload of networks that are given as the list of their fields, with a shared network that has an
undeclared field. -/
def sampleListedNetworks : Payload :=
  .object [("apiVersion", .text providerApiVersion), ("kind", .text "InfrastructureConfig"),
    ("networks", .list [.list [.object [("name", .text "uplink"), ("namespce", .text "edge")]]])]

/-- The undeclared field of a network in a list of fields is not refused. -/
theorem strict_misses_key_in_list :
    standard.lenientDecoder.decode .infrastructureConfig sampleListedNetworks =
        .ok ⟨⟨[⟨"uplink", none⟩], []⟩⟩ ∧
      ProviderKind.undeclaredKeys .infrastructureConfig true sampleListedNetworks =
        [[.key "networks", .item 0, .item 0, .key "namespce"]] ∧
      standard.strictDecoder.decode .infrastructureConfig sampleListedNetworks =
        .ok ⟨⟨[⟨"uplink", none⟩], []⟩⟩ :=
  ⟨rfl, rfl, rfl⟩

end Scheme

end ShootMachines
