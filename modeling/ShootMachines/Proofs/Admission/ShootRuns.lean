import ShootMachines.Admission.Shoot
import ShootMachines.Proofs.Provider.DecoderRuns

/-!
# Runs of shoot admission

What a run of admission does, without the messages it logs: one statement for the creation of a shoot
and one for an update. The sections of an old shoot are decoded leniently; `Shoot.configs_lenient` says
that a shoot that was decoded strictly before is read as it was then.
-/

namespace ShootMachines

variable {scheme : Scheme}

/-- A run that only logs messages succeeds. -/
theorem for_each_debug_result (messages : List String) :
    ∃ values, (Run.forEach Run.debug messages : Traced (List Unit)).result = .ok values := by
  rw [Run.result_forEach]
  induction messages with
  | nil => exact ⟨[], rfl⟩
  | cons message rest ih =>
      obtain ⟨values, hvalues⟩ := ih
      refine ⟨() :: values, ?_⟩
      rw [List.mapM_cons, hvalues]
      rfl

/-- A check succeeds if it finds no violations. -/
theorem of_errors_eq_ok_iff {errors : List FieldError} :
    Failure.ofErrors errors = .ok () ↔ errors = [] := by
  cases errors with
  | nil => simp [Failure.ofErrors]
  | cons error rest => simp [Failure.ofErrors]

/-- A check fails exactly if it finds violations, and names them. -/
theorem of_errors_eq_error_iff {errors : List FieldError} {failure : Failure} :
    Failure.ofErrors errors = .error failure ↔ errors ≠ [] ∧ failure = .validation errors := by
  cases errors with
  | nil => simp [Failure.ofErrors]
  | cons error rest => simp [Failure.ofErrors, eq_comm]

/-- The result of a check tells what the check found. -/
theorem of_errors_inj {errors others : List FieldError}
    (h : Failure.ofErrors errors = Failure.ofErrors others) : errors = others := by
  cases errors with
  | nil => exact (of_errors_eq_ok_iff.1 h.symm).symm
  | cons error rest =>
      cases others with
      | nil => exact of_errors_eq_ok_iff.1 h
      | cons other others => exact Failure.validation.inj (Except.error.inj h)

namespace Shoot

variable {lookup : Lookup} {shoot old : Shoot}

/-- A shoot whose sections are decoded strictly is decoded leniently, as the same sections. -/
theorem configs_lenient {configs : ShootConfigs}
    (h : shoot.configs scheme.strictDecoder = .ok configs) :
    shoot.configs scheme.lenientDecoder = .ok configs := by
  unfold Shoot.configs at h ⊢
  obtain ⟨infrastructure, hinfrastructure, h⟩ := bind_eq_ok_iff.1 h
  obtain ⟨controlPlane, hcontrolPlane, h⟩ := bind_eq_ok_iff.1 h
  obtain ⟨pools, hpools, h⟩ := bind_eq_ok_iff.1 h
  refine bind_eq_ok_iff.2 ⟨infrastructure, decode_section_lenient hinfrastructure, ?_⟩
  refine bind_eq_ok_iff.2 ⟨controlPlane, decode_section_lenient hcontrolPlane, ?_⟩
  refine bind_eq_ok_iff.2 ⟨pools, map_m_eq_ok_of_steps ?_ hpools, h⟩
  intro worker entry hentry
  obtain ⟨config, hconfig, hentry⟩ := bind_eq_ok_iff.1 hentry
  exact bind_eq_ok_iff.2 ⟨config, decode_section_lenient hconfig, hentry⟩

/-- A context holds the shoot, its strictly decoded sections and the configuration of the cloud
profile that it names. -/
theorem context_eq_ok_iff {context : ShootContext} :
    (shoot.context scheme lookup).result = .ok context ↔
      context.shoot = shoot ∧ shoot.configs scheme.strictDecoder = .ok context.configs ∧
        ∃ profile payload, (lookup.cloudProfile shoot.spec.cloudProfileName).result = .ok profile ∧
          profile.spec.providerConfig = some payload ∧
          profile.storedConfig scheme payload = .ok context.profileConfig := by
  unfold Shoot.context
  simp only [Run.result_bind, Run.result_lift, bind_eq_ok_iff]
  constructor
  · rintro ⟨configs, hconfigs, profile, hprofile, h⟩
    split at h
    · cases h
    · rename_i payload hpayload
      simp only [Run.result_bind, Run.result_lift, bind_eq_ok_iff] at h
      obtain ⟨profileConfig, hprofileConfig, h⟩ := h
      cases h
      exact ⟨rfl, hconfigs, profile, payload, hprofile, hpayload, hprofileConfig⟩
  · rintro ⟨rfl, hconfigs, profile, payload, hprofile, hpayload, hprofileConfig⟩
    refine ⟨context.configs, hconfigs, profile, hprofile, ?_⟩
    rw [hpayload]
    simp only [Run.result_bind, Run.result_lift, bind_eq_ok_iff]
    exact ⟨context.profileConfig, hprofileConfig, rfl⟩

/-- A new shoot is accepted by its structural checks and the check of its secret. -/
theorem accept_creation_result (htype : shoot.spec.provider.type = providerType) :
    (shoot.accept scheme lookup none).result =
      (shoot.context scheme lookup).result >>= fun context =>
        Failure.ofErrors context.check >>= fun _ => (shoot.acceptSecret lookup).result := by
  rw [accept, if_neg (not_not_intro htype)]
  simp only [acceptCreation, Run.result_bind, Run.result_info, Run.result_lift,
    ok_bind]

/-- An update is accepted by the checks that compare it with the leniently decoded old shoot. -/
theorem accept_update_result (htype : shoot.spec.provider.type = providerType) :
    (shoot.accept scheme lookup (some old)).result =
      old.configs scheme.lenientDecoder >>= fun previous =>
        (shoot.context scheme lookup).result >>= fun context =>
          Failure.ofErrors (context.checkUpdate old previous) := by
  rw [accept, if_neg (not_not_intro htype)]
  simp only [acceptUpdate, Run.result_bind, Run.result_info, Run.result_lift,
    ok_bind]
  congr 1
  funext previous
  congr 1
  funext context
  -- What changed is logged between decoding and checking, which no message fails.
  obtain ⟨values, hvalues⟩ := for_each_debug_result (context.changes old previous)
  rw [hvalues, ok_bind]

end Shoot

end ShootMachines
