import ShootMachines.Proofs.Admission.CheckedProfiles
import ShootMachines.Proofs.Machines.RootVolumes

/-!
# Sources and limits of a plan

Whatever a plan fetches is the image of one of its pools (`Setting.Plans.source_of_image`), and the limits of
a class are those of a machine type. Both are looked up in the configuration of the cloud profile, so a
cloud profile that was accepted lets no broken source and no partial limits into a plan:
`MachinePlan.accepted_sources`.
-/

namespace ShootMachines

/-- Limits are complete if they are on cpu and memory, and both are quantities. -/
def CompleteLimits (limits : Dict Quantity) : Prop :=
  ∃ cpu memory, limits.get? "cpu" = some cpu ∧ limits.get? "memory" = some memory ∧
    Quantity.parse cpu.text = .ok cpu ∧ Quantity.parse memory.text = .ok memory

/-- The text of a quantity is not empty. -/
theorem Quantity.is_empty_of_parse {quantity : Quantity} (h : parse quantity.text = .ok quantity) :
    quantity.text.isEmpty = false := by
  obtain ⟨text⟩ := quantity
  refine Bool.eq_false_iff.2 fun hempty => ?_
  rw [String.isEmpty_iff.1 hempty] at h
  cases h

/-- Limits that are quantities are all kept. -/
theorem ResourceLimits.complete_of_quantities {limits : ResourceLimits}
    (hcpu : Quantity.parse limits.cpu.text = .ok limits.cpu)
    (hmemory : Quantity.parse limits.memory.text = .ok limits.memory) :
    CompleteLimits limits.quantities := by
  have hkept : limits.quantities = .ofList [("cpu", limits.cpu), ("memory", limits.memory)] := by
    unfold quantities
    simp [Quantity.is_empty_of_parse hcpu, Quantity.is_empty_of_parse hmemory]
  have hlookup (key : String) : limits.quantities.get? key =
      [("cpu", limits.cpu), ("memory", limits.memory)].lookup key := by
    rw [hkept]
    exact Dict.get?_of_list (by simp) key
  exact ⟨limits.cpu, limits.memory, hlookup "cpu", hlookup "memory", hcpu, hmemory⟩

/-- The limits of a machine type are complete in a checked configuration, if there are any. -/
theorem ProfileConfig.Checked.complete_limits {config : ProfileConfig} (h : config.Checked)
    {type : String} {limits : Dict Quantity} (hlimits : config.limits? type = some limits) :
    CompleteLimits limits := by
  obtain ⟨hlimits, _⟩ := Option.filter_eq_some_iff.1 hlimits
  obtain ⟨written, hwritten, rfl⟩ := Option.map_eq_some_iff.1 hlimits
  obtain ⟨extension, hextension, hwritten⟩ := Option.bind_eq_some_iff.1 hwritten
  obtain ⟨hcpu, hmemory⟩ :=
    h.limits extension (List.mem_of_find?_eq_some hextension) written hwritten
  exact ResourceLimits.complete_of_quantities hcpu hmemory

/-- The volumes of a machine: its root volume and its additional ones. -/
def MachineClass.volumes (machineClass : MachineClass) : List MachineVolume :=
  machineClass.rootVolume :: machineClass.additionalVolumes.map AdditionalVolume.volume

/-- The volumes of a zone: those of its machines, and the one that its class needs. -/
def ZonePlan.volumes (zone : ZonePlan) : List MachineVolume :=
  zone.machineClass.volumes ++ zone.volume.toList

namespace ResolvedPool

variable {resolved : ResolvedPool} {url : String}

/-- A root volume that fetches an image fetches that of the pool. -/
theorem url_of_root_volume {provider : ProviderCluster} {name : String}
    (h : (resolved.rootVolume provider name).source = .image url) : resolved.imageUrl = url := by
  cases hasked : resolved.config.disablePreAllocation with
  | false =>
      rw [(root_volume_of_pre_allocation hasked provider name).1] at h
      cases h
  | true =>
      rw [(root_volume_of_no_pre_allocation hasked provider name).1] at h
      exact VolumeSource.image.inj h

/-- The volume that a class needs fetches the image of the pool. -/
theorem url_of_class_volume {volume : MachineVolume} (hvolume : resolved.classVolume = some volume)
    (h : volume.source = .image url) : resolved.imageUrl = url := by
  unfold classVolume at hvolume
  split at hvolume
  · cases hvolume
  · obtain rfl := Option.some.inj hvolume
    exact VolumeSource.image.inj h

end ResolvedPool

namespace Setting

variable {setting : Setting} {poolZone : PoolZone} {zonePlan : ZonePlan}

/-- What a volume of a planned zone fetches is the image of the pool. -/
theorem Plans.source_of_image (h : setting.Plans poolZone zonePlan) {volume : MachineVolume}
    (hvolume : volume ∈ zonePlan.volumes) {url : String} (hurl : volume.source = .image url) :
    setting.profileConfig.imageUrl poolZone.pool.machineImage.name
      poolZone.pool.machineImage.version = .ok url := by
  obtain ⟨resolved, hresolves, hclass, _, _, _, hneeds⟩ := h.inversion
  have hfetched : resolved.imageUrl = url := by
    unfold ZonePlan.volumes MachineClass.volumes at hvolume
    rw [hclass, hneeds] at hvolume
    rcases List.mem_append.1 hvolume with hmachine | hneeded
    · rcases List.mem_cons.1 hmachine with rfl | hfurther
      · exact ResolvedPool.url_of_root_volume hurl
      · obtain ⟨additional, hadditional, rfl⟩ := List.mem_map.1 hfurther
        have hblank := WorkerPool.blank_of_additional_volumes hresolves.additionalVolumes
        rw [hblank additional hadditional] at hurl
        cases hurl
    · exact ResolvedPool.url_of_class_volume (Option.mem_toList.1 hneeded) hurl
  rw [← hfetched]
  exact hresolves.imageUrl

/-- The limits of a planned zone are those of a machine type. -/
theorem Plans.limits_of_type (h : setting.Plans poolZone zonePlan) :
    ∃ type, zonePlan.machineClass.resources.limits = setting.profileConfig.limits? type := by
  obtain ⟨resolved, hresolves, hclass, _⟩ := h.inversion
  obtain ⟨type, _, hresources⟩ := hresolves.resources
  refine ⟨type.name, ?_⟩
  rw [hclass]
  show resolved.resources.limits = _
  rw [hresources]

end Setting

namespace MachinePlan

variable {scheme : Scheme} {worker : Worker} {cluster : Cluster} {provider : ProviderCluster}
  {plan : MachinePlan}

/-- All volumes of a plan: those of the machines of every class, and those that are set up once per
class. -/
def allVolumes (plan : MachinePlan) : List MachineVolume :=
  plan.classes.flatMap MachineClass.volumes ++ plan.volumes.entries.map Prod.snd

/-- The images of a plan are those that its pools resolve to. -/
theorem image_of_compile (h : (compile scheme worker cluster provider).result = .ok plan)
    {image : MachineImage} (himage : image ∈ plan.images) :
    ∃ config, scheme.profileConfig cluster.cloudProfile = .ok config ∧
      config.imageUrl image.name image.version = .ok image.sourceUrl := by
  rw [compile_result] at h
  obtain ⟨setting, hsetting, h⟩ := bind_eq_ok_iff.1 h
  obtain ⟨plans, hplans, h⟩ := bind_eq_ok_iff.1 h
  obtain rfl := Except.ok.inj h
  obtain ⟨rfl, rfl, rfl, rfl, hconfig, _⟩ := setting_of_eq_ok hsetting
  rw [foldl_add_pool] at himage
  rcases mem_of_mem_foldl_append_image himage with hnone | himage
  · cases hnone
  · obtain ⟨poolPlan, hpoolPlan, rfl⟩ := List.mem_map.1 himage
    obtain ⟨pool, _, hpool⟩ := exists_mem_of_forall₂ (map_m_eq_ok_iff.1 hplans) hpoolPlan
    obtain ⟨resolved, hresolves, _, hplanned, _⟩ := Setting.pool_plan_eq_ok hpool
    rw [hplanned]
    exact ⟨setting.profileConfig, hconfig, hresolves.imageUrl⟩

/-- A volume of a plan is one of its planned zones. -/
theorem zone_of_all_volumes {zones : List ZonePlan}
    (hclasses : plan.classes = zones.map ZonePlan.machineClass)
    (hvolumes : plan.volumes = .ofList (zones.filterMap ZonePlan.classVolume?))
    {volume : MachineVolume} (h : volume ∈ plan.allVolumes) :
    ∃ zone ∈ zones, volume ∈ zone.volumes := by
  unfold allVolumes at h
  rw [hclasses, hvolumes] at h
  rcases List.mem_append.1 h with h | h
  · obtain ⟨machineClass, hclass, hvolume⟩ := List.mem_flatMap.1 h
    obtain ⟨zone, hzone, rfl⟩ := List.mem_map.1 hclass
    exact ⟨zone, hzone, List.mem_append_left _ hvolume⟩
  · obtain ⟨entry, hentry, rfl⟩ := List.mem_map.1 h
    obtain ⟨zone, hzone, hneeds⟩ := List.mem_filterMap.1 (Dict.mem_of_mem_of_list hentry)
    obtain ⟨volume, hvolume, rfl⟩ := Option.map_eq_some_iff.1 hneeds
    exact ⟨zone, hzone, List.mem_append_right _ (Option.mem_toList.2 hvolume)⟩

/-- In every plan for a cluster whose cloud profile was accepted, every image and every volume that
fetches one has a URL that a disk can be fetched from, and the limits of every class, if it has any, are
complete. -/
theorem accepted_sources (htype : cluster.cloudProfile.spec.type = providerType)
    (haccepted : (cluster.cloudProfile.accept scheme).result = .ok ())
    (hplan : (compile scheme worker cluster provider).result = .ok plan) :
    (∀ image ∈ plan.images, Fetchable image.sourceUrl) ∧
      (∀ volume ∈ plan.allVolumes, ∀ url, volume.source = .image url → Fetchable url) ∧
      ∀ machineClass ∈ plan.classes, ∀ limits,
        machineClass.resources.limits = some limits → CompleteLimits limits := by
  obtain ⟨setting, zones, hsetting, hzones, hclasses, _, hvolumes⟩ := compile_eq_ok hplan
  obtain ⟨rfl, rfl, rfl, rfl, hconfig, _⟩ := setting_of_eq_ok hsetting
  have hchecked := CloudProfile.checked_of_accepted htype haccepted hconfig
  refine ⟨?_, ?_, ?_⟩
  · intro image himage
    obtain ⟨config, hsame, hurl⟩ := image_of_compile hplan himage
    obtain rfl := Except.ok.inj (hconfig.symm.trans hsame)
    exact hchecked.fetchable hurl
  · intro volume hvolume url hurl
    obtain ⟨zone, hzone, hvolume⟩ := zone_of_all_volumes hclasses hvolumes hvolume
    obtain ⟨poolZone, _, hplans⟩ := exists_mem_of_forall₂ hzones hzone
    exact hchecked.fetchable (hplans.source_of_image hvolume hurl)
  · intro machineClass hclass limits hlimits
    rw [hclasses] at hclass
    obtain ⟨zone, hzone, rfl⟩ := List.mem_map.1 hclass
    obtain ⟨poolZone, _, hplans⟩ := exists_mem_of_forall₂ hzones hzone
    obtain ⟨type, htypeLimits⟩ := hplans.limits_of_type
    exact hchecked.complete_limits (htypeLimits.symm.trans hlimits)

/-- The sample cluster with other sources in its cloud profile, and limits for its machine type. -/
def sampleLimitedCluster : Cluster :=
  { sampleCluster with
    cloudProfile := { sampleCluster.cloudProfile with
      spec := { sampleCluster.cloudProfile.spec with
        providerConfig := some (encodeConfig .profileConfig
          ⟨[⟨"linux", [⟨"1", "docker://images/1"⟩, ⟨"2", "docker://images/2"⟩]⟩],
            [⟨"small", some ⟨⟨"2"⟩, ⟨"4Gi"⟩⟩⟩]⟩) } } }

/-- The sample profile is accepted, so the root volumes of the second sample pool fetch its image from a URL
that a disk can be fetched from, and the limits of its class are complete. -/
theorem sample_sources :
    (sampleLimitedCluster.cloudProfile.accept .standard).result = .ok () ∧
      ∃ plan machineClass limits,
        (compile .standard sampleWorker sampleLimitedCluster sampleProvider).result = .ok plan ∧
        machineClass ∈ plan.classes ∧
        machineClass.rootVolume.source = .image "docker://images/2" ∧ Fetchable "docker://images/2" ∧
        machineClass.resources.limits = some limits ∧ CompleteLimits limits := by
  have hok : (sampleLimitedCluster.cloudProfile.accept .standard).result.isOk = true := by
    decide +kernel
  obtain ⟨⟨⟩, haccepted⟩ := exists_eq_ok hok
  have hfound :
      (compile .standard sampleWorker sampleLimitedCluster sampleProvider).result.toOption.any
        (fun plan => plan.classes.any fun machineClass =>
          machineClass.rootVolume.source = .image "docker://images/2" &&
            machineClass.resources.limits.isSome) = true := by
    decide +kernel
  cases hplan : (compile .standard sampleWorker sampleLimitedCluster sampleProvider).result with
  | error failure =>
      rw [hplan] at hfound
      cases hfound
  | ok plan =>
      rw [hplan] at hfound
      obtain ⟨machineClass, hclass, hboth⟩ := List.any_eq_true.1 hfound
      simp only [Bool.and_eq_true, decide_eq_true_eq] at hboth
      obtain ⟨hsource, hlimited⟩ := hboth
      obtain ⟨limits, hlimits⟩ := Option.isSome_iff_exists.1 hlimited
      obtain ⟨_, hfetchable, hcomplete⟩ := accepted_sources rfl haccepted hplan
      have hvolume : machineClass.rootVolume ∈ plan.allVolumes :=
        List.mem_append_left _ (List.mem_flatMap.2 ⟨machineClass, hclass, List.mem_cons_self⟩)
      exact ⟨haccepted, plan, machineClass, limits, rfl, hclass, hsource,
        hfetchable machineClass.rootVolume hvolume _ hsource, hlimits,
        hcomplete machineClass hclass limits hlimits⟩

end MachinePlan

end ShootMachines
