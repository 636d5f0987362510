import ShootMachines.Proofs.Admission.ShootUpdate
import ShootMachines.Proofs.Provider.StrictDecoding

/-!
# Cloud profiles in admission and generation

A cloud profile is admitted, and the images of shoots are checked, by its leniently decoded configuration.
Machines are generated from the strictly decoded one. `CloudProfile.admission_agrees` says that of an
admitted profile both are the same configuration, unless the strict decoder finds undeclared keys: then
there is none to generate from (`CloudProfile.admitted_not_generated`).
-/

namespace ShootMachines

variable {scheme : Scheme}

namespace CloudProfile

variable {profile : CloudProfile} {payload : Payload} {config : ProfileConfig}

/-- Where the generator fetches the disk of a machine image from. -/
def generatedImage (scheme : Scheme) (profile : CloudProfile) (image : ImageReference) :
    Except Failure String := do
  let config ← scheme.profileConfig profile
  config.imageUrl image.name image.version

/-- An accepted profile of the provider has a configuration that is decoded leniently, and that is
clean. -/
theorem clean_config_of_accepted (htype : profile.spec.type = providerType)
    (h : (profile.accept scheme).result = .ok ()) :
    ∃ payload config, profile.spec.providerConfig = some payload ∧
      profile.storedConfig scheme payload = .ok config ∧
      config.check profile.spec (FieldPath.child ⟨"spec", []⟩ "providerConfig") = [] := by
  rw [accept, if_neg (not_not_intro htype), Run.result_bind, Run.result_info, ok_bind] at h
  cases hpayload : profile.spec.providerConfig with
  | none =>
      rw [hpayload] at h
      cases h
  | some payload =>
      rw [hpayload] at h
      simp only [Run.result_bind, Run.result_lift, bind_eq_ok_iff] at h
      obtain ⟨config, hconfig, hclean⟩ := h
      exact ⟨payload, config, rfl, hconfig, of_errors_eq_ok_iff.1 hclean⟩

/-- An accepted profile of the provider has a configuration that can be decoded leniently. -/
theorem config_of_accepted (htype : profile.spec.type = providerType)
    (h : (profile.accept scheme).result = .ok ()) :
    ∃ payload config, profile.spec.providerConfig = some payload ∧
      profile.storedConfig scheme payload = .ok config := by
  obtain ⟨payload, config, hpayload, hconfig, _⟩ := clean_config_of_accepted htype h
  exact ⟨payload, config, hpayload, hconfig⟩

/-- The generator has the configuration that was decoded leniently, unless it has undeclared keys. -/
theorem profile_config_eq_of_stored (hnormal : payload.Normal)
    (hpayload : profile.spec.providerConfig = some payload)
    (hstored : profile.storedConfig scheme payload = .ok config) :
    ∃ document, parsePayload payload = .ok document ∧
      scheme.profileConfig profile =
        if ProviderKind.undeclaredKeys .profileConfig false document = [] then .ok config
        else .error (.decode (.profileConfig profile.metadata.anyName)
          (.unknownFields (ProviderKind.undeclaredKeys .profileConfig false document))) := by
  have hlenient : scheme.lenientDecoder.decode .profileConfig payload = .ok config :=
    map_error_eq_ok_iff.1 hstored
  obtain ⟨document, hparse, hstrict⟩ := Scheme.strict_decode_eq hnormal hlenient
  refine ⟨document, hparse, ?_⟩
  rw [Scheme.profileConfig, decodeSection, hpayload, Decoder.decode?, hstrict]
  split <;> rfl

end CloudProfile

/-- The images of a shoot are checked by the leniently decoded configuration of its cloud profile. -/
theorem Shoot.profile_config_of_context {lookup : Lookup} {shoot : Shoot} {context : ShootContext}
    {profile : CloudProfile} {payload : Payload} {config : ProfileConfig}
    (hfound : (lookup.cloudProfile shoot.spec.cloudProfileName).result = .ok profile)
    (hcontext : (shoot.context scheme lookup).result = .ok context)
    (hpayload : profile.spec.providerConfig = some payload)
    (hstored : profile.storedConfig scheme payload = .ok config) :
    context.profileConfig = config := by
  obtain ⟨_, _, other, otherPayload, hother, hotherPayload, hotherConfig⟩ :=
    context_eq_ok_iff.1 hcontext
  rw [hfound] at hother
  obtain rfl := Except.ok.inj hother
  rw [hpayload] at hotherPayload
  obtain rfl := Option.some.inj hotherPayload
  rw [hstored] at hotherConfig
  exact (Except.ok.inj hotherConfig).symm

namespace CloudProfile

variable {profile : CloudProfile}

/-- The configuration of an accepted cloud profile of the provider is decoded for the generator as it was
for its admission, and an image of a shoot of that profile passes its check exactly if the generator knows
where to fetch it, unless the strict decoder finds undeclared keys in the configuration. Then the generator
refuses the configuration with the positions of those keys, and knows no image. -/
theorem admission_agrees (htype : profile.spec.type = providerType)
    (hnormal : ∀ payload, profile.spec.providerConfig = some payload → payload.Normal)
    (haccepted : (profile.accept scheme).result = .ok ()) :
    ∃ payload config document,
      profile.spec.providerConfig = some payload ∧ parsePayload payload = .ok document ∧
      profile.storedConfig scheme payload = .ok config ∧
      (ProviderKind.undeclaredKeys .profileConfig false document = [] →
        scheme.profileConfig profile = .ok config ∧
        ∀ (lookup : Lookup) (shoot : Shoot) (context : ShootContext),
          (lookup.cloudProfile shoot.spec.cloudProfileName).result = .ok profile →
          (shoot.context scheme lookup).result = .ok context →
          ∀ image path, context.checkImage image path = [] ↔
            ∃ url, profile.generatedImage scheme image = .ok url) ∧
      (ProviderKind.undeclaredKeys .profileConfig false document ≠ [] →
        ∀ image, profile.generatedImage scheme image =
          .error (.decode (.profileConfig profile.metadata.anyName)
            (.unknownFields (ProviderKind.undeclaredKeys .profileConfig false document)))) := by
  obtain ⟨payload, config, hpayload, hstored⟩ := config_of_accepted htype haccepted
  obtain ⟨document, hparse, hgenerated⟩ :=
    profile_config_eq_of_stored (hnormal payload hpayload) hpayload hstored
  refine ⟨payload, config, document, hpayload, hparse, hstored, ?_, ?_⟩
  · intro hdeclared
    rw [if_pos hdeclared] at hgenerated
    refine ⟨hgenerated, fun lookup shoot context hfound hcontext image path => ?_⟩
    rw [ShootContext.check_image_eq_nil_iff, generatedImage, hgenerated, ok_bind,
      Shoot.profile_config_of_context hfound hcontext hpayload hstored]
  · intro hundeclared image
    rw [if_neg hundeclared] at hgenerated
    rw [generatedImage, hgenerated, error_bind]

/-- A cloud profile of the provider with one machine image and further fields in its configuration. -/
def sample (further : List (String × Payload)) : CloudProfile :=
  ⟨{ Metadata.empty with name := some "profile" }, providerType, [], [],
    some (.ofFields
      ([("apiVersion", .text providerApiVersion), ("kind", .text "CloudProfileConfig"),
        ("machineImages", .list [.object [("name", .text "linux"),
          ("versions", .list [.object [("sourceURL", .text "docker://images/1"),
            ("version", .text "1")]])]])] ++ further))⟩

/-- A lookup that finds the sample profile for the sample shoots. -/
def sampleLookup (further : List (String × Payload)) : Lookup :=
  (Inventory.mk [sample further] [] [] []).lookup

/-- The image of the sample profile is offered to shoots, as the generator knows where to fetch it. -/
theorem sample_image_agrees :
    ((sample []).accept .standard).result = .ok () ∧
      ∃ context, ((Shoot.sample ["a"]).context .standard (sampleLookup [])).result = .ok context ∧
        context.checkImage ⟨"linux", "1"⟩ Shoot.workersPath = [] := by
  have hok : ((sample []).accept .standard).result.isOk = true := by decide +kernel
  obtain ⟨⟨⟩, haccepted⟩ := exists_eq_ok hok
  have hnormal : ∀ payload, (sample []).spec.providerConfig = some payload → payload.Normal := by
    rintro _ ⟨⟩
    exact ⟨by decide, trivial, trivial,
      ⟨⟨by decide, trivial, ⟨⟨by decide, trivial, trivial, trivial⟩, trivial⟩, trivial⟩, trivial⟩,
      trivial⟩
  have hcontext : ((Shoot.sample ["a"]).context .standard (sampleLookup [])).result =
      .ok ⟨Shoot.sample ["a"], ⟨⟨⟨[], []⟩⟩, ⟨none⟩,
        .ofList [("pool", ⟨none, none, none, none, none, false, false⟩)]⟩,
        ⟨[⟨"linux", [⟨"1", "docker://images/1"⟩]⟩], []⟩⟩ := rfl
  obtain ⟨_, _, _, hpayload, hparse, _, hagree, _⟩ := admission_agrees rfl hnormal haccepted
  obtain rfl := Option.some.inj hpayload
  obtain rfl := Except.ok.inj hparse
  exact ⟨haccepted, _, hcontext,
    ((hagree rfl).2 (sampleLookup []) _ _ rfl hcontext ⟨"linux", "1"⟩ _).2 ⟨_, rfl⟩⟩

/-- A field that the configuration does not declare leaves the sample profile admitted and its image
offered to shoots, but the generator refuses the configuration. -/
theorem admitted_not_generated :
    ((sample [("legacyField", .text "ignored")]).accept .standard).result = .ok () ∧
      Scheme.standard.profileConfig (sample [("legacyField", .text "ignored")]) =
        .error (.decode (.profileConfig "profile") (.unknownFields [[.key "legacyField"]])) ∧
      ∃ context,
        ((Shoot.sample ["a"]).context .standard
          (sampleLookup [("legacyField", .text "ignored")])).result = .ok context ∧
        context.checkImage ⟨"linux", "1"⟩ Shoot.workersPath = [] := by
  have hok : ((sample [("legacyField", .text "ignored")]).accept .standard).result.isOk = true := by
    decide +kernel
  obtain ⟨⟨⟩, haccepted⟩ := exists_eq_ok hok
  exact ⟨haccepted, rfl, _, rfl, rfl⟩

end CloudProfile

end ShootMachines
