import ShootMachines.Proofs.Provider.DecoderRuns
import ShootMachines.Proofs.Schema.RoundTrip

/-!
# Round trips of provider payloads

A value is written under the API version of the provider and with the name of its kind. Every scheme
that is reached by registering kinds recognizes that type, so what was written is decoded as the same
value, strictly and leniently, and normalizing a payload twice is normalizing it once.
-/

namespace ShootMachines

/-- A scheme that is reached from the standard one by registering kinds. -/
inductive Scheme.Reachable : Scheme → Prop where
  | standard : Scheme.standard.Reachable
  | register {scheme : Scheme} (apiVersion : String) (kinds : List String) :
      scheme.Reachable → (scheme.register apiVersion kinds).Reachable

/-- The standard scheme recognizes every kind. -/
theorem Scheme.standard_recognizes (kind : ProviderKind) :
    Scheme.standard.recognizes providerApiVersion kind.name = true := by
  cases kind <;> decide

/-- Registering kinds takes no type away. -/
theorem Scheme.register_recognizes {scheme : Scheme} {apiVersion kind : String}
    (h : scheme.recognizes apiVersion kind = true) (other : String) (kinds : List String) :
    (scheme.register other kinds).recognizes apiVersion kind = true := by
  unfold Scheme.recognizes at h ⊢
  rw [List.contains_iff_mem] at h ⊢
  exact List.mem_append_left _ h

/-- A reachable scheme recognizes every kind. -/
theorem Scheme.Reachable.recognizes {scheme : Scheme} (hreachable : scheme.Reachable)
    (kind : ProviderKind) : scheme.recognizes providerApiVersion kind.name = true := by
  induction hreachable with
  | standard => exact Scheme.standard_recognizes kind
  | register apiVersion kinds _ ih => exact Scheme.register_recognizes ih apiVersion kinds

namespace ProviderKind

/-- The layouts of the kinds are plain. -/
theorem schema_plain (kind : ProviderKind) : kind.schema.plain = true := by
  cases kind <;> decide

/-- The layouts of the kinds leave the keys alone under which a payload states its type. -/
theorem schema_avoids (kind : ProviderKind) : kind.schema.avoids typeKeys = true := by
  cases kind <;> decide

end ProviderKind

/-- A written payload is an object that states the written API version and its kind, and holds what
the value was written as besides. -/
theorem encode_config_states (kind : ProviderKind) (value : kind.Config) :
    ∃ fields, encodeConfig kind value = .object fields ∧
      fields.lookup "apiVersion" = some (.text providerApiVersion) ∧
      fields.lookup "kind" = some (.text kind.name) ∧
      (encodeConfig kind value).without typeKeys = kind.schema.encode value := by
  obtain ⟨fields, hencode, havoids⟩ := Schema.encode_avoids kind.schema_avoids value
  refine ⟨insertEntry "kind" (.text kind.name)
    (insertEntry "apiVersion" (.text providerApiVersion) fields), ?_, ?_, ?_, ?_⟩
  · rw [encodeConfig, hencode]
    rfl
  · rw [lookup_insertEntry, if_neg (by decide), lookup_insertEntry, if_pos rfl]
  · rw [lookup_insertEntry, if_pos rfl]
  -- The value has neither key, so dropping both takes away what stating the type has put there.
  · have hkept : fields.filter (fun field => field.1 ∉ typeKeys) = fields :=
      List.filter_eq_self.2 fun field hfield => decide_eq_true (havoids field hfield)
    rw [encodeConfig, hencode]
    show Payload.object ((insertEntry "kind" _ (insertEntry "apiVersion" _ fields)).filter _) = _
    rw [filter_insert_entry _ (by decide), filter_insert_entry _ (by decide), hkept]

/-- A written payload is its own document. -/
theorem parse_encode_config (kind : ProviderKind) (value : kind.Config) :
    parsePayload (encodeConfig kind value) = .ok (encodeConfig kind value) := by
  obtain ⟨fields, hobject, _⟩ := encode_config_states kind value
  rw [hobject]
  rfl

namespace Decoder

variable {decoder : Decoder} {kind : ProviderKind}

/-- A written payload states its kind to whoever recognizes it. -/
theorem stated_kind_encode_config
    (hrecognizes : decoder.scheme.recognizes providerApiVersion kind.name = true)
    (value : kind.Config) : decoder.statedKind (encodeConfig kind value) = .ok kind.name := by
  obtain ⟨fields, hobject, hversion, hkind, _⟩ := encode_config_states kind value
  rw [hobject]
  unfold statedKind Payload.get?
  simp only [hversion, hkind, Option.bind_some, Payload.text?]
  exact if_pos hrecognizes

/-- The fields of a written payload are those of its value, and nothing among them is undeclared. -/
theorem decode_fields_encode (value : kind.Config) :
    decoder.decodeFields kind (kind.schema.encode value) = .ok value := by
  have homits : kind.schema.omits value = false := by
    cases kind <;> rfl
  have hfilled := kind.schema.encode_filled kind.schema_plain value homits
  have hundeclared := Payload.undeclared_self _ hfilled (.within kind.schema)
  rw [decodeFields, Schema.decode_encode kind.schema_plain value]
  simp [hundeclared]

/-- A written payload is decoded as its value once it is parsed. -/
theorem decode_parsed_encode_config
    (hrecognizes : decoder.scheme.recognizes providerApiVersion kind.name = true)
    (value : kind.Config) : decoder.decodeParsed kind (encodeConfig kind value) = .ok value := by
  obtain ⟨_, _, _, _, hwithout⟩ := encode_config_states kind value
  rw [decode_parsed_of_stated (stated_kind_encode_config hrecognizes value), hwithout]
  exact decode_fields_encode value

/-- A written payload is decoded as its value. -/
theorem decode_encode_config
    (hrecognizes : decoder.scheme.recognizes providerApiVersion kind.name = true)
    (value : kind.Config) : decoder.decode kind (encodeConfig kind value) = .ok value := by
  rw [decode, parse_encode_config, ok_bind]
  exact decode_parsed_encode_config hrecognizes value

/-- A payload written without naming the kind is decoded without naming it. -/
theorem decode_any_encode {config : ProviderConfig}
    (hrecognizes : decoder.scheme.recognizes providerApiVersion config.kind.name = true) :
    decoder.decodeAny config.encode = .ok config := by
  obtain ⟨kind, value⟩ := config
  rw [ProviderConfig.encode, decodeAny, parse_encode_config, ok_bind,
    stated_kind_encode_config hrecognizes value, ok_bind]
  simp only [ProviderKind.ofName?_name, decode_parsed_encode_config hrecognizes value, ok_bind]

end Decoder

/-- A value is converted to itself, under the written API version and the name of its kind. -/
theorem convert_config_eq (kind : ProviderKind) (value : kind.Config) (subject : String) :
    convertConfig kind value subject = .ok ⟨providerApiVersion, kind.name, value⟩ := by
  obtain ⟨fields, hobject, hversion, hkind, hwithout⟩ := encode_config_states kind value
  have hget (key : String) : (encodeConfig kind value).get? key = fields.lookup key := by
    rw [hobject]
    rfl
  have hdecode : Versioned.decode kind.schema (encodeConfig kind value) =
      .ok ⟨providerApiVersion, kind.name, value⟩ := by
    unfold Versioned.decode
    simp only [hget, hversion, hkind, Payload.source_text_text, ok_bind, hwithout,
      Schema.decode_encode kind.schema_plain value]
  rw [convertConfig, hdecode]

/-- Decode a payload as the kind it states and write it again. -/
def Decoder.normalize (decoder : Decoder) (payload : Payload) : Except PayloadFault Payload := do
  let config ← decoder.decodeAny payload
  .ok config.encode

/-- Under every scheme that registering kinds reaches, a value of any kind is written as a payload
that states the written API version and the kind; strict and lenient decoders read the same value
back, with and without naming its kind; conversion returns the value under its type; and what a
decoder normalizes is accepted by the strict decoder and normalizes to itself. -/
theorem Scheme.Reachable.payload_round_trip {scheme : Scheme} (hreachable : scheme.Reachable) :
    (∀ (kind : ProviderKind) (value : kind.Config),
      (encodeConfig kind value).get? "apiVersion" = some (.text providerApiVersion) ∧
      (encodeConfig kind value).get? "kind" = some (.text kind.name) ∧
      (∀ strict : Bool,
        (Decoder.mk scheme strict).decode? kind (some (encodeConfig kind value)) = .ok value) ∧
      ∀ subject : String,
        convertConfig kind value subject = .ok ⟨providerApiVersion, kind.name, value⟩) ∧
    (∀ (config : ProviderConfig) (strict : Bool),
      (Decoder.mk scheme strict).decodeAny config.encode = .ok config) ∧
    (∀ (payload normal : Payload) (strict : Bool),
      (Decoder.mk scheme strict).normalize payload = .ok normal →
      (∃ config, scheme.strictDecoder.decodeAny normal = .ok config) ∧
      ∀ strictly : Bool, (Decoder.mk scheme strictly).normalize normal = .ok normal) := by
  have hany : ∀ (config : ProviderConfig) (strict : Bool),
      (Decoder.mk scheme strict).decodeAny config.encode = .ok config := fun config strict =>
    Decoder.decode_any_encode (hreachable.recognizes config.kind)
  refine ⟨fun kind value => ?_, hany, ?_⟩
  · obtain ⟨fields, hobject, hversion, hkind, _⟩ := encode_config_states kind value
    refine ⟨?_, ?_, fun strict => ?_, convert_config_eq kind value⟩
    · rw [hobject]
      exact hversion
    · rw [hobject]
      exact hkind
    · exact Decoder.decode_encode_config (hreachable.recognizes kind) value
  · intro payload normal strict hnormal
    obtain ⟨config, _, hencode⟩ := bind_eq_ok_iff.1 hnormal
    obtain rfl := Except.ok.inj hencode
    refine ⟨⟨config, hany config true⟩, fun strictly => ?_⟩
    rw [Decoder.normalize, hany config strictly, ok_bind]

/-- A status is read back strictly under the standard scheme and one more API version. -/
theorem status_round_trip_after_registration :
    ((Scheme.standard.register "kubevirt.provider.extensions.gardener.cloud/v1beta1"
      ["WorkerStatus"]).strictDecoder.decode? .workerStatus
        (some (encodeConfig .workerStatus ⟨[⟨"ubuntu", "22.04", "https://images/ubuntu"⟩]⟩))) =
      .ok ⟨[⟨"ubuntu", "22.04", "https://images/ubuntu"⟩]⟩ :=
  ((Scheme.Reachable.register _ _ .standard).payload_round_trip.1 .workerStatus _).2.2.1 true

end ShootMachines
