import ShootMachines.Proofs.Provider.StrictDecoding
import ShootMachines.Proofs.Schema.DeletedKeys

/-!
# Reports of undeclared fields

A strict decoder differs from a lenient one only where it reports undeclared fields. Its report can be
acted upon: `Scheme.strict_report_repairs` says that it lists entries of the payload in the order of a
walk, none within another, and that the payload decodes strictly, as the same value, once they are deleted.
If all but one of them are deleted, that one is reported.
-/

namespace ShootMachines

namespace Scheme

variable {scheme : Scheme} {kind : ProviderKind}

/-- A lenient decoder reads fields as the layout says, and passes over all others. -/
theorem lenient_decode_fields_eq_ok_iff {fields : Payload} {value : kind.Config} :
    scheme.lenientDecoder.decodeFields kind fields = .ok value ↔
      kind.schema.decode fields = .ok value := by
  unfold Decoder.decodeFields
  cases hdecode : kind.schema.decode fields with
  | error mismatch => simp
  | ok read => simp [lenientDecoder]

/-- Fields that a lenient decoder refuses, a strict one refuses for the same reason. -/
theorem strict_decode_fields_of_error {fields : Payload} {fault : PayloadFault}
    (h : scheme.lenientDecoder.decodeFields kind fields = .error fault) :
    scheme.strictDecoder.decodeFields kind fields = .error fault := by
  unfold Decoder.decodeFields at h ⊢
  cases hdecode : kind.schema.decode fields with
  | error mismatch =>
      rw [hdecode] at h
      exact h
  | ok read =>
      rw [hdecode] at h
      cases h

/-- A payload that a lenient decoder refuses, a strict one refuses for the same reason. -/
theorem strict_decode_of_error {payload : Payload} {fault : PayloadFault}
    (h : scheme.lenientDecoder.decode kind payload = .error fault) :
    scheme.strictDecoder.decode kind payload = .error fault := by
  unfold Decoder.decode at h ⊢
  cases hparse : parsePayload payload with
  | error reason =>
      rw [hparse] at h
      exact h
  | ok document =>
      -- Both decoders look up the stated type in one scheme, so they part only at the fields.
      have hsame : scheme.lenientDecoder.statedKind document =
          scheme.strictDecoder.statedKind document := rfl
      rw [hparse, ok_bind, Decoder.decodeParsed, hsame] at h
      rw [ok_bind, Decoder.decodeParsed]
      split at h
      · cases h
      · rename_i hnull
        rw [if_neg hnull]
        cases hstated : scheme.strictDecoder.statedKind document with
        | error reason =>
            rw [hstated] at h
            exact h
        | ok stated =>
            rw [hstated, ok_bind] at h
            rw [ok_bind]
            split at h
            · rename_i hname
              rw [if_pos hname]
              exact h
            · rename_i hname
              rw [if_neg hname]
              exact strict_decode_fields_of_error h

end Scheme

/-- A document in which there are undeclared keys of a kind is an object. -/
theorem ProviderKind.object_of_undeclared {kind : ProviderKind} {document : Payload}
    {path : DocumentPath} (h : path ∈ kind.undeclaredKeys false document) :
    ∃ fields, document = .object fields := by
  cases document with
  | object fields => exact ⟨fields, rfl⟩
  | _ => cases kind <;> cases h

/-- An undeclared key of a kind in a document is that of an entry, and the type of the document is not
stated under it. -/
theorem ProviderKind.entry_of_undeclared {kind : ProviderKind} {document : Payload}
    {path : DocumentPath} (hnormal : document.Normal)
    (h : path ∈ kind.undeclaredKeys false document) :
    kind.schema.undeclares path = true ∧ (document.at? path).isSome = true ∧
      ∀ key ∈ typeKeys, ∀ rest, path ≠ .key key :: rest := by
  obtain ⟨hundeclared, hat⟩ :=
    kind.schema.undeclares_of_mem _ (hnormal.without typeKeys) h
  have hne : path ≠ [] := by
    rintro rfl
    exact kind.schema.not_undeclares_nil hundeclared
  exact ⟨hundeclared, Payload.at?_of_without hne hat⟩

namespace Scheme

variable {scheme : Scheme} {kind : ProviderKind}

/-- Deleting undeclared keys does not change what a lenient decoder decodes. -/
theorem lenient_decode_deleting {document : Payload} {value : kind.Config}
    {paths : List DocumentPath} (hnormal : document.Normal)
    (hpaths : paths ⊆ kind.undeclaredKeys false document)
    (h : scheme.lenientDecoder.decodeParsed kind document = .ok value) :
    scheme.lenientDecoder.decodeParsed kind (document.deleting paths) = .ok value := by
  rcases Decoder.decode_parsed_eq_ok_iff.1 h with ⟨rfl, rfl⟩ | ⟨hstated, hfields⟩
  · rfl
  · refine Decoder.decode_parsed_eq_ok_iff.2 (.inr ⟨?_, ?_⟩)
    · rw [← hstated]
      have hkept (key : String) (hkey : key ∈ typeKeys) :
          (document.deleting paths).get? key = document.get? key :=
        Payload.get?_deleting (fun rest hrest =>
          (kind.entry_of_undeclared hnormal (hpaths hrest)).2.2 key hkey rest rfl) document
      unfold Decoder.statedKind
      rw [hkept "apiVersion" (by decide), hkept "kind" (by decide)]
    · rw [lenient_decode_fields_eq_ok_iff] at hfields ⊢
      rw [Payload.without_deleting, ← hfields]
      exact kind.schema.read_deleting kind.schema_plain _ (hnormal.without typeKeys) paths
        fun path hpath => (kind.entry_of_undeclared hnormal (hpaths hpath)).1

/-- Of a document from which undeclared keys are deleted, a strict decoder reports those that are left. -/
theorem strict_decode_deleting {document : Payload} {value : kind.Config}
    {paths : List DocumentPath} (hnormal : document.Normal)
    (hobject : ∃ fields, document = .object fields)
    (hpaths : paths ⊆ kind.undeclaredKeys false document)
    (h : scheme.lenientDecoder.decodeParsed kind document = .ok value) :
    scheme.strictDecoder.decode kind (document.deleting paths) =
      if (kind.undeclaredKeys false document).filter (fun path => path ∉ paths) = [] then .ok value
      else .error (.unknownFields
        ((kind.undeclaredKeys false document).filter fun path => path ∉ paths)) := by
  have hparse : parsePayload (document.deleting paths) = .ok (document.deleting paths) := by
    obtain ⟨fields, rfl⟩ := hobject
    rfl
  have hlenient : scheme.lenientDecoder.decode kind (document.deleting paths) = .ok value := by
    rw [Decoder.decode, hparse, ok_bind]
    exact lenient_decode_deleting hnormal hpaths h
  obtain ⟨other, hother, hstrict⟩ := strict_decode_eq (hnormal.deleting paths) hlenient
  obtain rfl := Except.ok.inj (hparse.symm.trans hother)
  have hleft : kind.undeclaredKeys false (document.deleting paths) =
      (kind.undeclaredKeys false document).filter fun path => path ∉ paths := by
    rw [ProviderKind.undeclaredKeys, Payload.without_deleting]
    exact kind.schema.undeclared_keys_deleting paths (fun path hpath =>
      (kind.entry_of_undeclared hnormal (hpaths hpath)).1) _
  rw [hstrict, hleft]

/-- Of distinct positions, only one is left when all others are taken away. -/
theorem filter_not_mem_erase {paths : List DocumentPath} (hdistinct : paths.Nodup)
    {path : DocumentPath} (hpath : path ∈ paths) :
    paths.filter (fun other => other ∉ paths.erase path) = [path] := by
  have hsame : paths.filter (fun other => other ∉ paths.erase path) =
      paths.filter (fun other => other = path) := by
    refine List.filter_congr fun other hother => ?_
    simp [hdistinct.mem_erase_iff, hother]
  rw [hsame, List.filter_eq, List.count_eq_one_of_mem hdistinct hpath, List.replicate_one]

/-- A strict decoder decodes a payload as a lenient one does or refuses it: for the reason of the lenient
one, or with a report of undeclared fields. The report is not empty and lists distinct entries of the
payload, in the order of a walk and none within another, each under a key that the kind does not declare
there. Without these entries the payload decodes strictly, as the same value, and without all of them but
one, that one is reported. -/
theorem strict_report_repairs (scheme : Scheme) (kind : ProviderKind) :
    (∀ payload value, scheme.strictDecoder.decode kind payload = .ok value →
      scheme.lenientDecoder.decode kind payload = .ok value) ∧
    (∀ payload fault, scheme.lenientDecoder.decode kind payload = .error fault →
      scheme.strictDecoder.decode kind payload = .error fault) ∧
    (∀ payload value paths, payload.Normal →
      scheme.lenientDecoder.decode kind payload = .ok value →
      scheme.strictDecoder.decode kind payload = .error (.unknownFields paths) →
      paths ≠ [] ∧ paths.Nodup ∧ paths.Pairwise DocumentPath.Before ∧
      (∀ first ∈ paths, ∀ second ∈ paths, first <+: second → first = second) ∧
      ∃ document, parsePayload payload = .ok document ∧
        (∀ path ∈ paths, (document.at? path).isSome = true ∧ kind.schema.undeclares path = true) ∧
        scheme.strictDecoder.decode kind (document.deleting paths) = .ok value ∧
        ∀ path ∈ paths, scheme.strictDecoder.decode kind (document.deleting (paths.erase path)) =
          .error (.unknownFields [path])) := by
  refine ⟨fun payload value h => ?_, fun payload fault => strict_decode_of_error, ?_⟩
  · have hsome : scheme.strictDecoder.decode? kind (some payload) = .ok value := h
    exact Decoder.decode_lenient hsome
  · intro payload value paths hnormal hlenient hstrict
    obtain ⟨document, hparse, hreport⟩ := strict_decode_eq hnormal hlenient
    have hdocument := normal_of_parse_payload hnormal hparse
    rw [Decoder.decode, hparse, ok_bind] at hlenient
    rw [hstrict] at hreport
    -- The strict decoder has refused the payload, so its report is that of all undeclared keys.
    split at hreport
    · cases hreport
    rename_i hsome
    obtain rfl := PayloadFault.unknownFields.inj (Except.error.inj hreport)
    obtain ⟨path, hpath⟩ := List.exists_mem_of_ne_nil _ hsome
    have hobject := kind.object_of_undeclared hpath
    have hbefore : (kind.undeclaredKeys false document).Pairwise DocumentPath.Before :=
      kind.schema.before_of_undeclared_keys _ (hdocument.without typeKeys)
    have hdistinct := DocumentPath.nodup_of_before hbefore
    refine ⟨hsome, hdistinct, hbefore,
      fun first hfirst second => DocumentPath.eq_of_prefix_of_before hbefore hfirst,
      document, hparse, fun path hpath => ?_, ?_, fun path hpath => ?_⟩
    · obtain ⟨hundeclared, hat, _⟩ := kind.entry_of_undeclared hdocument hpath
      exact ⟨hat, hundeclared⟩
    · rw [strict_decode_deleting hdocument hobject (List.Subset.refl _) hlenient]
      simp
    · rw [strict_decode_deleting hdocument hobject List.erase_subset hlenient,
        filter_not_mem_erase hdistinct hpath, if_neg (List.cons_ne_nil _ _)]

/-- A payload of networks with undeclared fields at three depths, one of them without a value. -/
def sampleStrayFields : Payload :=
  .object [("apiVersion", .text providerApiVersion), ("kind", .text "InfrastructureConfig"),
    ("networks", .object [("sharedNetworks",
      .list [.object [("name", .text "uplink"), ("namespce", .null)]]), ("zone", .text "a")]),
    ("region", .text "north")]

/-- The positions of the undeclared fields of the sample. -/
def sampleStrayPaths : List DocumentPath :=
  [[.key "networks", .key "sharedNetworks", .item 0, .key "namespce"],
    [.key "networks", .key "zone"], [.key "region"]]

/-- The sample is refused with its undeclared fields; without them it is decoded, and with only one of
them it is refused for that one. -/
theorem sample_stray_fields_reported :
    standard.strictDecoder.decode .infrastructureConfig sampleStrayFields =
        .error (.unknownFields sampleStrayPaths) ∧
      standard.strictDecoder.decode .infrastructureConfig
        (sampleStrayFields.deleting sampleStrayPaths) = .ok ⟨⟨[⟨"uplink", none⟩], []⟩⟩ ∧
      standard.strictDecoder.decode .infrastructureConfig
        (sampleStrayFields.deleting (sampleStrayPaths.erase [.key "networks", .key "zone"])) =
          .error (.unknownFields [[.key "networks", .key "zone"]]) := by
  have hnetwork : (Payload.object [("name", .text "uplink"), ("namespce", .null)]).Normal :=
    ⟨by decide, trivial, trivial, trivial⟩
  have hnormal : sampleStrayFields.Normal :=
    ⟨by decide, trivial, trivial, ⟨by decide, ⟨hnetwork, trivial⟩, trivial, trivial⟩, trivial, trivial⟩
  have hlenient : standard.lenientDecoder.decode .infrastructureConfig sampleStrayFields =
      .ok ⟨⟨[⟨"uplink", none⟩], []⟩⟩ := rfl
  have hstrict : standard.strictDecoder.decode .infrastructureConfig sampleStrayFields =
      .error (.unknownFields sampleStrayPaths) := rfl
  obtain ⟨_, _, hreport⟩ := strict_report_repairs standard .infrastructureConfig
  obtain ⟨_, _, _, _, document, hparse, _, hrepaired, hsingle⟩ :=
    hreport sampleStrayFields _ _ hnormal hlenient hstrict
  obtain rfl := Except.ok.inj hparse
  exact ⟨hstrict, hrepaired, hsingle _ (by decide)⟩

end Scheme

end ShootMachines
