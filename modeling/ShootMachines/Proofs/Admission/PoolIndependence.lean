import ShootMachines.Proofs.Admission.ShootHistory

/-!
# Violations of a pool in an update

An update looks at its pools three times: as the user wrote them, beside the older pools, and with their
decoded configurations. `ShootContext.violations_within_check_update` puts together what it reports of one
pool, and that depends on the pool and on the older pool with its name alone. So a pool has the same
violations in any two updates, whatever other pools there are and wherever the pool stands:
`Shoot.pools_do_not_interfere`.
-/

namespace ShootMachines

namespace ShootWorker

variable {worker : ShootWorker} {path : FieldPath} {sought : String}

/-- A pool is reported by its zones, its bounds and its volumes only. -/
theorem violations_within_check_apart
    (h : sought ∉ ["zones", "minimum", "maximum", "volume", "dataVolumes"]) :
    violationsWithin (path.child sought) (worker.check path) = [] := by
  simp only [List.mem_cons, List.not_mem_nil, or_false, not_or] at h
  obtain ⟨hzones, hminimum, hmaximum, hvolume, hdataVolumes⟩ := h
  unfold check checkBounds checkVolumes
  simp only [violations_within_append, List.append_eq_nil_iff]
  refine ⟨⟨?_, ?_, ?_⟩, ?_, ?_⟩
  · exact worker.check_zones_relative.violations_within_sibling (Ne.symm hzones) path
  · exact (Relative.error_if _ _ _ _).violations_within_sibling (Ne.symm hminimum) path
  · exact (Relative.error_if _ _ _ _).violations_within_sibling (Ne.symm hmaximum) path
  · exact worker.check_volume_relative.violations_within_sibling (Ne.symm hvolume) path
  · exact worker.check_data_volumes_relative.violations_within_sibling (Ne.symm hdataVolumes) path

/-- A pool that lost zones is reported by its zones only. -/
theorem violations_within_check_zones_kept_apart {previous : ShootWorker} (h : sought ≠ "zones") :
    violationsWithin (path.child sought) (previous.checkZonesKept worker path) = [] := by
  have hrelative : Relative fun field => previous.zones.flatMap fun zone =>
      errorIf (!worker.zones.contains zone) (.forbidden field ("zone " ++ zone ++ " cannot be removed")) :=
    Relative.flat_map _ fun _ => Relative.error_if _ _ _ _
  exact hrelative.violations_within_sibling (Ne.symm h) path

/-- The comparison of pools looks at each pool beside the older one with its name. -/
theorem check_update_eq (old new : List ShootWorker) (path : FieldPath) :
    checkUpdate old new path =
      checkEach
        (fun _ position worker => (named? old worker.name).elim [] fun prior =>
          prior.checkZonesKept worker (path.index position))
        new := by
  unfold checkUpdate
  congr 1
  funext _ position worker
  cases named? old worker.name <;> rfl

end ShootWorker

namespace ShootContext

variable {context other : ShootContext} {old otherOld : List ShootWorker}
  {previous otherPrevious : ShootConfigs} {worker : ShootWorker}

/-- The violations of a pool that show in its decoded configuration and its machine image, under a
field. -/
def checkPoolAt (context : ShootContext) (worker : ShootWorker) (path : FieldPath) :
    List FieldError :=
  ((context.configs.pools.get? worker.name).elim [] fun config =>
      config.check worker.dataVolumes (path.child "providerConfig")) ++
    worker.machine.image.elim [] fun image =>
      context.checkImage image ((path.child "machine").child "image")

/-- All violations of a pool in an update, under a field. -/
def poolViolations (context : ShootContext) (old : List ShootWorker) (previous : ShootConfigs)
    (worker : ShootWorker) (path : FieldPath) : List FieldError :=
  worker.check path ++
    ((ShootWorker.named? old worker.name).elim [] fun prior => prior.checkZonesKept worker path) ++
    if context.poolUnchanged old previous worker then [] else context.checkPoolAt worker path

/-- The check of a machine image is relative. -/
theorem check_image_relative (image : ImageReference) : Relative (context.checkImage image) := by
  unfold checkImage
  cases context.profileConfig.imageUrl image.name image.version with
  | ok url => exact Relative.nil
  | error failure => exact Relative.single _ _ _

/-- The check of a pool in its decoded configuration and its machine image is relative. -/
theorem check_pool_at_relative (context : ShootContext) (worker : ShootWorker) :
    Relative (context.checkPoolAt worker) := by
  refine Relative.append ?_ ?_
  · exact Relative.elim (fun config => (config.check_relative worker.dataVolumes).child _) _
  · exact Relative.elim (fun image => ((check_image_relative image).child _).child _) _

/-- The check of a pool beside the older pool with its name is relative. -/
theorem check_prior_relative (old : List ShootWorker) (worker : ShootWorker) :
    Relative fun path =>
      (ShootWorker.named? old worker.name).elim [] fun prior => prior.checkZonesKept worker path :=
  Relative.elim (fun prior => worker.check_zones_kept_relative prior) _

/-- The check of a pool that changed is relative. -/
theorem check_pool_change_relative (context : ShootContext) (old : List ShootWorker)
    (previous : ShootConfigs) (worker : ShootWorker) :
    Relative fun path =>
      if context.poolUnchanged old previous worker then [] else context.checkPoolAt worker path :=
  Relative.ite _ Relative.nil (context.check_pool_at_relative worker)

/-- The violations of a pool in an update are the same under every field. -/
theorem pool_violations_relative : Relative (context.poolViolations old previous worker) :=
  ((worker.check_relative.append (check_prior_relative old worker)).append
    (context.check_pool_change_relative old previous worker))

/-- Of the violations of an update, those within a pool are the violations of the pool. -/
theorem violations_within_check_update {shoot : Shoot} {position : Nat}
    (hposition : context.shoot.spec.provider.workers[position]? = some worker) :
    violationsWithin (Shoot.workersPath.index position) (context.checkUpdate shoot previous) =
      context.poolViolations shoot.spec.provider.workers previous worker
        (Shoot.workersPath.index position) := by
  have hpool : (Shoot.workersPath.index position).isWithin Shoot.workersPath = true :=
    FieldPath.is_within_index _ _
  have hprovider : (Shoot.workersPath.index position).isWithin Shoot.providerPath = true :=
    FieldPath.is_within_trans hpool (FieldPath.is_within_child _ _)
  -- The sections stand beside the list of pools, or beside the provider section that it stands in.
  have hnetworking : violationsWithin (Shoot.workersPath.index position) context.checkNetworking = [] :=
    violations_within_eq_nil_of_wider hprovider
      (context.shoot.spec.networking.check_relative.violations_within_sibling (by decide) _)
  have hinfrastructure : violationsWithin (Shoot.workersPath.index position)
      (context.checkInfrastructureChange previous) = [] := by
    have hrelative := (Relative.ite (previous.infrastructure = context.configs.infrastructure)
      Relative.nil ((previous.infrastructure.check_update_relative context.configs.infrastructure).append
        context.configs.infrastructure.check_relative))
    exact violations_within_eq_nil_of_wider hpool
      (hrelative.violations_within_sibling (by decide) Shoot.providerPath)
  have hcontrolPlane : violationsWithin (Shoot.workersPath.index position)
      (context.checkControlPlaneChange previous) = [] := by
    have hrelative := Relative.ite (previous.controlPlane = context.configs.controlPlane)
      Relative.nil context.configs.controlPlane.check_relative
    exact violations_within_eq_nil_of_wider hpool
      (hrelative.violations_within_sibling (by decide) Shoot.providerPath)
  unfold checkUpdate
  simp only [violations_within_append, hnetworking, hinfrastructure, hcontrolPlane, List.nil_append]
  unfold poolViolations
  congr 1
  · congr 1
    · exact violations_within_check_each ShootWorker.check_relative hposition _
    · rw [ShootWorker.check_update_eq]
      exact violations_within_check_each
        (check_prior_relative shoot.spec.provider.workers) hposition _
  · exact violations_within_check_each
      (context.check_pool_change_relative shoot.spec.provider.workers previous) hposition _

/-- A pool is unchanged if machine, data volumes and configuration are those of the older pool with its
name. -/
theorem pool_unchanged_eq {prior : ShootWorker}
    (hprior : ShootWorker.named? old worker.name = some prior) :
    context.poolUnchanged old previous worker =
      (prior.machine = worker.machine && prior.dataVolumes = worker.dataVolumes &&
        previous.pools.get? worker.name = context.configs.pools.get? worker.name) := by
  unfold poolUnchanged
  rw [hprior, Option.any_some, (ShootWorker.mem_of_named hprior).2]

/-- The violations of a pool in an update depend on its configuration, on the cloud profile, and on the
older pool with its name and the configuration of that. -/
theorem pool_violations_congr
    (hname : context.shoot.spec.cloudProfileName = other.shoot.spec.cloudProfileName)
    (hprofile : context.profileConfig = other.profileConfig)
    (hconfig : context.configs.pools.get? worker.name = other.configs.pools.get? worker.name)
    (hprior : ShootWorker.named? old worker.name = ShootWorker.named? otherOld worker.name)
    (hprevious : ∀ prior, ShootWorker.named? old worker.name = some prior →
      previous.pools.get? worker.name = otherPrevious.pools.get? worker.name) :
    context.poolViolations old previous worker =
      other.poolViolations otherOld otherPrevious worker := by
  have hunchanged : context.poolUnchanged old previous worker =
      other.poolUnchanged otherOld otherPrevious worker := by
    cases hfound : ShootWorker.named? old worker.name with
    | none =>
        unfold poolUnchanged
        rw [← hprior, hfound]
        rfl
    | some prior =>
        rw [pool_unchanged_eq hfound, pool_unchanged_eq (hprior ▸ hfound), hconfig,
          hprevious prior hfound]
  have himage : context.checkImage = other.checkImage := by
    funext image path
    unfold checkImage
    rw [hprofile, hname]
  funext path
  unfold poolViolations checkPoolAt
  rw [hunchanged, hprior, hconfig, himage]

end ShootContext

namespace Shoot

variable {scheme : Scheme} {decoder : Decoder} {shoot other : Shoot}
  {configs otherConfigs : ShootConfigs} {worker : ShootWorker}

/-- The configuration of a pool depends on the pool alone. -/
theorem pool_config_unique {config otherConfig : WorkerConfig}
    (h : shoot.poolConfig decoder worker = .ok config)
    (hother : other.poolConfig decoder worker = .ok otherConfig) : config = otherConfig := by
  have hdecoded := (map_error_eq_ok_iff.1 h).symm.trans (map_error_eq_ok_iff.1 hother)
  exact Except.ok.inj hdecoded

/-- Shoots of pools with distinct names keep one configuration for a pool that both have. -/
theorem kept_config_congr (hdistinct : shoot.poolNames.Nodup) (hotherDistinct : other.poolNames.Nodup)
    (h : shoot.configs decoder = .ok configs) (hother : other.configs decoder = .ok otherConfigs)
    (hworker : worker ∈ shoot.spec.provider.workers)
    (hotherWorker : worker ∈ other.spec.provider.workers) :
    configs.pools.get? worker.name = otherConfigs.pools.get? worker.name := by
  obtain ⟨config, hconfig, hget⟩ := pool_config_of_distinct hdistinct h hworker
  obtain ⟨otherConfig, hotherConfig, hotherGet⟩ :=
    pool_config_of_distinct hotherDistinct hother hotherWorker
  rw [hget, hotherGet, pool_config_unique hconfig hotherConfig]

section Updates

variable {lookup otherLookup : Lookup} {old new otherOld otherNew : Shoot}
  {previous otherPrevious : ShootConfigs} {context otherContext : ShootContext}

/-- The result of an update whose shoots can be decoded is what its check finds. -/
theorem accept_update_of_context (htype : new.spec.provider.type = providerType)
    (hprevious : old.configs scheme.lenientDecoder = .ok previous)
    (hcontext : (new.context scheme lookup).result = .ok context) :
    (new.accept scheme lookup (some old)).result =
      Failure.ofErrors (context.checkUpdate old previous) := by
  rw [accept_update_result htype, hprevious, ok_bind, hcontext, ok_bind]

/-- A pool that is as it was has no violations in its configuration and its machine. -/
theorem violations_within_unchanged (hdistinct : old.poolNames.Nodup)
    (hnewDistinct : new.poolNames.Nodup) (hprevious : old.configs scheme.lenientDecoder = .ok previous)
    (hcontext : (new.context scheme lookup).result = .ok context) {position : Nat}
    {worker prior : ShootWorker} {config : WorkerConfig}
    (hposition : new.spec.provider.workers[position]? = some worker)
    (hprior : ShootWorker.named? old.spec.provider.workers worker.name = some prior)
    (hmachine : prior.machine = worker.machine) (hvolumes : prior.dataVolumes = worker.dataVolumes)
    (hpriorConfig : old.poolConfig scheme.lenientDecoder prior = .ok config)
    (hconfig : new.poolConfig scheme.strictDecoder worker = .ok config) {sought : String}
    (hsought : sought ∈ ["providerConfig", "machine"]) :
    violationsWithin ((workersPath.index position).child sought) (context.checkUpdate old previous) =
      [] := by
  obtain ⟨rfl, hconfigs, _⟩ := context_eq_ok_iff.1 hcontext
  obtain ⟨hmem, hpriorName⟩ := ShootWorker.mem_of_named hprior
  obtain ⟨before, hbefore, hbeforeGet⟩ := pool_config_of_distinct hdistinct hprevious hmem
  obtain ⟨after, hafter, hafterGet⟩ :=
    pool_config_of_distinct hnewDistinct hconfigs (List.mem_of_getElem? hposition)
  rw [hpriorName, pool_config_unique hbefore hpriorConfig] at hbeforeGet
  rw [pool_config_unique hafter hconfig] at hafterGet
  have hunchanged : context.poolUnchanged old.spec.provider.workers previous worker = true := by
    rw [ShootContext.pool_unchanged_eq hprior, hbeforeGet, hafterGet]
    simp [hmachine, hvolumes]
  have hapart : sought ∉ ["zones", "minimum", "maximum", "volume", "dataVolumes"] := by
    rcases List.mem_pair.1 hsought with rfl | rfl <;> decide
  have hzones : sought ≠ "zones" := by
    rintro rfl
    exact hapart List.mem_cons_self
  rw [← violations_within_of_wider (FieldPath.is_within_child (workersPath.index position) sought),
    ShootContext.violations_within_check_update hposition]
  unfold ShootContext.poolViolations
  rw [hunchanged, if_pos rfl, hprior, Option.elim_some, List.append_nil, violations_within_append,
    ShootWorker.violations_within_check_apart hapart, List.nil_append]
  exact ShootWorker.violations_within_check_zones_kept_apart hzones

/-- Two updates of shoots whose pools have distinct names, within one configuration of one cloud profile,
have the same violations of a pool that both have, if the older pools with its name are the same: those of
the first update are those of the second, in the same order, once the position of the pool is replaced.
Neither the other pools matter, nor where the pools stand. A pool that is as it was has no violation in its
configuration and its machine at all. -/
theorem pools_do_not_interfere (htype : new.spec.provider.type = providerType)
    (hotherType : otherNew.spec.provider.type = providerType)
    (hdistinct : old.poolNames.Nodup) (hnewDistinct : new.poolNames.Nodup)
    (hotherDistinct : otherOld.poolNames.Nodup) (hotherNewDistinct : otherNew.poolNames.Nodup)
    (hprevious : old.configs scheme.lenientDecoder = .ok previous)
    (hcontext : (new.context scheme lookup).result = .ok context)
    (hotherPrevious : otherOld.configs scheme.lenientDecoder = .ok otherPrevious)
    (hotherContext : (otherNew.context scheme otherLookup).result = .ok otherContext)
    (hname : new.spec.cloudProfileName = otherNew.spec.cloudProfileName)
    (hprofile : context.profileConfig = otherContext.profileConfig) :
    ∃ errors otherErrors,
      (new.accept scheme lookup (some old)).result = Failure.ofErrors errors ∧
      (otherNew.accept scheme otherLookup (some otherOld)).result = Failure.ofErrors otherErrors ∧
      (∀ position otherPosition worker,
        new.spec.provider.workers[position]? = some worker →
        otherNew.spec.provider.workers[otherPosition]? = some worker →
        ShootWorker.named? old.spec.provider.workers worker.name =
          ShootWorker.named? otherOld.spec.provider.workers worker.name →
        (violationsWithin (workersPath.index position) errors).map
            (·.moved (workersPath.index position) (workersPath.index otherPosition)) =
          violationsWithin (workersPath.index otherPosition) otherErrors) ∧
      ∀ position worker prior config,
        new.spec.provider.workers[position]? = some worker →
        ShootWorker.named? old.spec.provider.workers worker.name = some prior →
        prior.machine = worker.machine → prior.dataVolumes = worker.dataVolumes →
        old.poolConfig scheme.lenientDecoder prior = .ok config →
        new.poolConfig scheme.strictDecoder worker = .ok config →
        ∀ sought ∈ ["providerConfig", "machine"],
          violationsWithin ((workersPath.index position).child sought) errors = [] := by
  refine ⟨context.checkUpdate old previous, otherContext.checkUpdate otherOld otherPrevious,
    accept_update_of_context htype hprevious hcontext,
    accept_update_of_context hotherType hotherPrevious hotherContext, ?_, ?_⟩
  · intro position otherPosition worker hposition hotherPosition hprior
    obtain ⟨rfl, hconfigs, _⟩ := context_eq_ok_iff.1 hcontext
    obtain ⟨rfl, hotherConfigs, _⟩ := context_eq_ok_iff.1 hotherContext
    have hconfig := kept_config_congr hnewDistinct hotherNewDistinct hconfigs hotherConfigs
      (List.mem_of_getElem? hposition) (List.mem_of_getElem? hotherPosition)
    have hpriorConfig : ∀ prior,
        ShootWorker.named? old.spec.provider.workers worker.name = some prior →
        previous.pools.get? worker.name = otherPrevious.pools.get? worker.name := by
      intro prior hfound
      obtain ⟨hmem, hpriorName⟩ := ShootWorker.mem_of_named hfound
      obtain ⟨hotherMem, _⟩ := ShootWorker.mem_of_named (hprior ▸ hfound)
      rw [← hpriorName]
      exact kept_config_congr hdistinct hotherDistinct hprevious hotherPrevious hmem hotherMem
    rw [ShootContext.violations_within_check_update hposition,
      ShootContext.violations_within_check_update hotherPosition,
      ShootContext.pool_violations_congr hname hprofile hconfig hprior hpriorConfig]
    exact ShootContext.pool_violations_relative.moved _ _
  · intro position worker prior config hposition hprior hmachine hvolumes hpriorConfig hconfig sought
      hsought
    exact violations_within_unchanged hdistinct hnewDistinct hprevious hcontext hposition hprior hmachine
      hvolumes hpriorConfig hconfig hsought

end Updates

/-- A shoot with one pool that has a DNS policy. -/
def sampleAlone (policy : Option String) : Shoot :=
  sampleWithPools [samplePool "pool" policy]

/-- The sample shoot with a second pool, which asks for a DNS policy that does not exist. -/
def sampleBeside : Shoot :=
  sampleWithPools [samplePool "old" (some "Bogus"), samplePool "pool" none]

/-- The sample shoot with a third pool in front, and a wrong DNS policy for the first one. -/
def sampleGrown : Shoot :=
  sampleWithPools
    [samplePool "new" none, samplePool "pool" (some "Bogus"), samplePool "old" (some "Bogus")]

/-- The violation of the sample pool is reported where the pool stands, whether or not there are other
pools. The pool that was as bad before is not reported. -/
theorem sample_pools_apart :
    ∃ errors otherErrors,
      (sampleGrown.accept .standard sampleLookup (some sampleBeside)).result =
        Failure.ofErrors errors ∧
      ((sampleAlone (some "Bogus")).accept .standard sampleLookup (some (sampleAlone none))).result =
        Failure.ofErrors otherErrors ∧
      (violationsWithin (workersPath.index 1) errors).map
          (·.moved (workersPath.index 1) (workersPath.index 0)) =
        violationsWithin (workersPath.index 0) otherErrors ∧
      violationsWithin (workersPath.index 0) otherErrors ≠ [] ∧
      violationsWithin ((workersPath.index 2).child "providerConfig") errors = [] := by
  have hcontext : (sampleGrown.context .standard sampleLookup).result.isOk = true := by decide +kernel
  have hotherContext : ((sampleAlone (some "Bogus")).context .standard sampleLookup).result.isOk =
      true := by decide +kernel
  obtain ⟨context, hcontext⟩ := exists_eq_ok hcontext
  obtain ⟨otherContext, hotherContext⟩ := exists_eq_ok hotherContext
  have hprofile : context.profileConfig = otherContext.profileConfig := by
    refine profile_config_eq ?_ hcontext hotherContext
    rfl
  have hdistinct : sampleBeside.poolNames.Nodup := by decide
  have hnewDistinct : sampleGrown.poolNames.Nodup := by decide
  have hotherDistinct : (sampleAlone none).poolNames.Nodup := by decide
  have hotherNewDistinct : (sampleAlone (some "Bogus")).poolNames.Nodup := by decide
  obtain ⟨errors, otherErrors, herrors, hotherErrors, hsame, hunchanged⟩ :=
    pools_do_not_interfere rfl rfl hdistinct hnewDistinct hotherDistinct hotherNewDistinct rfl hcontext
      rfl hotherContext rfl hprofile
  refine ⟨errors, otherErrors, herrors, hotherErrors, hsame 1 0 _ rfl rfl rfl, ?_, ?_⟩
  · have hfound : Failure.ofErrors otherErrors = Failure.ofErrors
        [.notSupported (((workersPath.index 0).child "providerConfig").child "dnsPolicy") "Bogus"
          WorkerConfig.dnsPolicies] := hotherErrors.symm
    rw [of_errors_inj hfound]
    decide
  · exact hunchanged 2 _ _ ⟨none, none, none, some "Bogus", none, false, false⟩ rfl rfl rfl rfl rfl rfl
      "providerConfig" List.mem_cons_self

end Shoot

end ShootMachines
