import ShootMachines.Proofs.Provider.DecoderRuns
import ShootMachines.Proofs.Text.Utf8RoundTrip

/-!
# Ways to decode a payload

A payload may be decoded as a kind or as the kind it states, and it may be given as a document, as a text
or as bytes. `Decoder.entries_agree` says that all these ways agree. Everything turns on the kind that a
parsed payload states: it decides which of the typed decoders can accept the payload
(`Decoder.decode_of_other`), and decoding without naming a kind is decoding as that one
(`Decoder.decode_any_eq`).
-/

namespace ShootMachines

namespace ProviderKind

/-- Kinds with one name are one kind. -/
theorem name_inj {kind other : ProviderKind} (h : kind.name = other.name) : kind = other := by
  have hsame : ofName? kind.name = ofName? other.name := congrArg ofName? h
  rw [ofName?_name, ofName?_name] at hsame
  exact Option.some.inj hsame

end ProviderKind

/-- The bytes of a text are the document of the text. -/
theorem Yaml.read_payload_bytes_encode (text : String) :
    Yaml.readPayloadBytes (Utf8.encode text) = Yaml.readPayload text := by
  rw [Yaml.readPayloadBytes, Utf8.decode?_encode]

namespace Decoder

variable {decoder : Decoder} {payload document : Payload} {kind other : ProviderKind}

/-- A payload whose document states a kind is decoded as that kind if no kind is named. -/
theorem decode_any_eq (hparse : parsePayload payload = .ok document)
    (hstated : decoder.statedKind document = .ok kind.name) :
    decoder.decodeAny payload = (decoder.decode kind payload).map (ProviderConfig.mk kind) := by
  unfold decodeAny decode
  simp only [hparse, hstated, ok_bind, ProviderKind.ofName?_name]
  cases decoder.decodeParsed kind document <;> rfl

/-- A payload whose document states one kind is not of another kind. -/
theorem decode_of_other (hparse : parsePayload payload = .ok document)
    (hstated : decoder.statedKind document = .ok kind.name) (hother : other ≠ kind) :
    decoder.decode other payload = .error (.kindMismatch other.name kind.name) := by
  have hnull := is_null_of_get? (kind_of_stated hstated)
  have hname : kind.name ≠ other.name := fun hsame => hother (ProviderKind.name_inj hsame).symm
  unfold decode decodeParsed
  rw [hparse, ok_bind, hnull, if_neg Bool.false_ne_true, hstated, ok_bind, if_pos hname]

/-- The document of a payload that is decoded as a kind states that kind, unless it is null. -/
theorem stated_of_decode {value : kind.Config} (hnull : parsePayload payload ≠ .ok .null)
    (h : decoder.decode kind payload = .ok value) :
    ∃ document, parsePayload payload = .ok document ∧
      decoder.statedKind document = .ok kind.name := by
  unfold decode at h
  obtain ⟨document, hparse, h⟩ := bind_eq_ok_iff.1 h
  rcases decode_parsed_eq_ok_iff.1 h with ⟨rfl, _⟩ | ⟨hstated, _⟩
  · exact absurd hparse hnull
  · exact ⟨document, hparse, hstated⟩

/-- What is decoded without naming a kind is decoded as some kind, and the other way round. -/
theorem decode_any_eq_ok_iff {config : ProviderConfig} (hnull : parsePayload payload ≠ .ok .null) :
    decoder.decodeAny payload = .ok config ↔
      ∃ (kind : ProviderKind) (value : kind.Config),
        decoder.decode kind payload = .ok value ∧ config = ⟨kind, value⟩ := by
  constructor
  · intro h
    unfold decodeAny at h
    obtain ⟨document, hparse, h⟩ := bind_eq_ok_iff.1 h
    obtain ⟨stated, hstated, h⟩ := bind_eq_ok_iff.1 h
    split at h
    · rename_i kind _
      obtain ⟨value, hvalue, h⟩ := bind_eq_ok_iff.1 h
      refine ⟨kind, value, ?_, (Except.ok.inj h).symm⟩
      rw [decode, hparse, ok_bind, hvalue]
    · cases h
  · rintro ⟨kind, value, hvalue, rfl⟩
    obtain ⟨document, hparse, hstated⟩ := stated_of_decode hnull hvalue
    rw [decode_any_eq hparse hstated, hvalue]
    rfl

/-- Naming the kind that a document states is like naming none, also where both are refused. -/
theorem decode_any_of_kind (hparse : parsePayload payload = .ok document)
    (hkind : document.get? "kind" = some (.text kind.name)) :
    decoder.decodeAny payload = (decoder.decode kind payload).map (ProviderConfig.mk kind) := by
  cases hstated : decoder.statedKind document with
  | error fault =>
      have hnull := is_null_of_get? hkind
      unfold decodeAny decode decodeParsed
      rw [hparse, ok_bind, ok_bind, hnull, if_neg Bool.false_ne_true, hstated]
      rfl
  | ok stated =>
      have hname := kind_of_stated hstated
      rw [hkind] at hname
      obtain rfl := Payload.text.inj (Option.some.inj hname)
      exact decode_any_eq hparse hstated

/-- A document that is not a text is its own document. -/
theorem parse_payload_of_text_eq_none (h : document.text? = none) :
    parsePayload document = .ok document := by
  cases document with
  | text text => cases h
  | _ => rfl

/-- A text is decoded as the document it is read as. -/
theorem decode_text_eq {text : String} (hparse : parseDocument text = .ok document)
    (htext : document.text? = none) :
    decoder.decode kind (.text text) = decoder.decode kind document := by
  unfold decode
  rw [parse_payload_of_text_eq_none htext, parsePayload, hparse]

/-- A text is decoded without naming a kind as the document it is read as. -/
theorem decode_any_text_eq {text : String} (hparse : parseDocument text = .ok document)
    (htext : document.text? = none) :
    decoder.decodeAny (.text text) = decoder.decodeAny document := by
  unfold decodeAny
  rw [parse_payload_of_text_eq_none htext, parsePayload, hparse]

/-- The bytes of a text are decoded like the text. -/
theorem decode_bytes_encode (text : String) :
    decoder.decodeBytes kind (Utf8.encode text) = decoder.decodeText kind text := by
  unfold decodeBytes decodeText parseDocument
  rw [Yaml.read_payload_bytes_encode]

/-- A payload of the null document is decoded as the absent value of every kind. -/
theorem decode_of_null (hparse : parsePayload payload = .ok .null) :
    decoder.decode kind payload = .ok kind.absent := by
  rw [decode, hparse]
  rfl

/-- A payload of the null document states no kind. -/
theorem decode_any_of_null (hparse : parsePayload payload = .ok .null) :
    decoder.decodeAny payload = .error .missingTypeMeta := by
  rw [decodeAny, hparse]
  rfl

/-- All ways to decode a payload agree, whatever types the scheme recognizes and whether or not undeclared
fields are refused. Of a payload that is not null at most one kind is decoded: the one it states, which is
also what it is decoded as if no kind is named. A text and its bytes are decoded as the document of the
text. A null payload is the absent value of every kind, and states none. -/
theorem entries_agree (decoder : Decoder) :
    (∀ payload, parsePayload payload ≠ .ok .null →
      (∀ config, decoder.decodeAny payload = .ok config ↔
        ∃ (kind : ProviderKind) (value : kind.Config),
          decoder.decode kind payload = .ok value ∧ config = ⟨kind, value⟩) ∧
      (∀ (kind : ProviderKind) (value : kind.Config), decoder.decode kind payload = .ok value →
        (∃ document, parsePayload payload = .ok document ∧
          document.get? "kind" = some (.text kind.name)) ∧
        ∀ other ≠ kind,
          decoder.decode other payload = .error (.kindMismatch other.name kind.name)) ∧
      (∀ (kind : ProviderKind) (document : Payload), parsePayload payload = .ok document →
        document.get? "kind" = some (.text kind.name) →
        decoder.decodeAny payload = (decoder.decode kind payload).map (ProviderConfig.mk kind))) ∧
    (∀ text document, parseDocument text = .ok document → document.text? = none →
      (∀ kind, decoder.decode kind (.text text) = decoder.decode kind document ∧
        decoder.decodeText kind text = decoder.decode kind document ∧
        decoder.decodeBytes kind (Utf8.encode text) = decoder.decode kind document) ∧
      decoder.decodeAny (.text text) = decoder.decodeAny document) ∧
    (∀ payload, parsePayload payload = .ok .null →
      (∀ kind, decoder.decode kind payload = .ok kind.absent) ∧
      decoder.decodeAny payload = .error .missingTypeMeta) := by
  refine ⟨fun payload hnull => ⟨fun config => decode_any_eq_ok_iff hnull, ?_, ?_⟩, ?_, ?_⟩
  · intro kind value hvalue
    obtain ⟨document, hparse, hstated⟩ := stated_of_decode hnull hvalue
    exact ⟨⟨document, hparse, kind_of_stated hstated⟩,
      fun other hother => decode_of_other hparse hstated hother⟩
  · intro kind document hparse hkind
    exact decode_any_of_kind hparse hkind
  · intro text document hparse htext
    have hdecode : ∀ kind, decoder.decodeText kind text = decoder.decode kind document := by
      intro kind
      rw [decodeText, hparse, ok_bind]
    refine ⟨fun kind => ⟨decode_text_eq hparse htext, hdecode kind, ?_⟩,
      decode_any_text_eq hparse htext⟩
    rw [decode_bytes_encode, hdecode]
  · intro payload hparse
    exact ⟨fun kind => decode_of_null hparse, decode_any_of_null hparse⟩

/-- A payload of a worker configuration, as a text. -/
def sampleWorkerText : String :=
  "{apiVersion: kubevirt.provider.extensions.gardener.cloud/v1alpha1, kind: WorkerConfig}"

/-- The sample text is decoded as a worker configuration in every way, and as no status of a worker; a
null payload is decoded as one if it is named. -/
theorem sample_entries_agree :
    (∃ document value,
      parseDocument sampleWorkerText = .ok document ∧ document.text? = none ∧
      Scheme.standard.strictDecoder.decode .workerConfig document = .ok value ∧
      Scheme.standard.strictDecoder.decodeBytes .workerConfig (Utf8.encode sampleWorkerText) =
        .ok value ∧
      Scheme.standard.strictDecoder.decodeAny (.text sampleWorkerText) =
        .ok ⟨.workerConfig, value⟩ ∧
      Scheme.standard.strictDecoder.decode .workerStatus (.text sampleWorkerText) =
        .error (.kindMismatch "WorkerStatus" "WorkerConfig")) ∧
    parsePayload .null = .ok .null ∧
      Scheme.standard.strictDecoder.decodeAny .null = .error .missingTypeMeta := by
  obtain ⟨hkinds, htexts, habsent⟩ := entries_agree Scheme.standard.strictDecoder
  have hread : (parseDocument sampleWorkerText).toOption.any
      (fun document => document.text?.isNone && !document.isNull) = true := by
    decide +kernel
  have hok : (Scheme.standard.strictDecoder.decode .workerConfig (.text sampleWorkerText)).isOk =
      true := by
    decide +kernel
  obtain ⟨value, hvalue⟩ := exists_eq_ok hok
  cases hparse : parseDocument sampleWorkerText with
  | error fault => rw [hparse] at hread; cases hread
  | ok document =>
      rw [hparse] at hread
      obtain ⟨htext, hisNull⟩ : document.text? = none ∧ document.isNull = false := by
        simpa [Except.toOption] using hread
      have hnull : parsePayload (.text sampleWorkerText) ≠ .ok .null := by
        intro hsame
        rw [parsePayload, hparse] at hsame
        rw [Except.ok.inj hsame] at hisNull
        cases hisNull
      obtain ⟨hagree, hany⟩ := htexts sampleWorkerText document hparse htext
      obtain ⟨hsame, _, hbytes⟩ := hagree .workerConfig
      obtain ⟨hconfigs, hothers, _⟩ := hkinds (.text sampleWorkerText) hnull
      exact ⟨⟨document, value, rfl, htext, hsame ▸ hvalue, hbytes.trans (hsame ▸ hvalue),
        (hconfigs _).2 ⟨.workerConfig, value, hvalue, rfl⟩,
        (hothers .workerConfig value hvalue).2 .workerStatus (by decide)⟩, rfl,
        (habsent .null rfl).2⟩

end Decoder

end ShootMachines
