import ShootMachines.Proofs.Machines.PlanZones

/-!
# Root volumes of a plan

The root volumes of a class are copies of a volume that the plan sets up for the class, under its name,
or they fetch the image themselves. Class names tell the zones of a plan apart, so no zone takes the
volume of another one away (`MachinePlan.get?_class_volumes`), and no volume stands without its
class: `MachinePlan.root_volumes_backed`.
-/

namespace ShootMachines

/-- Storage has the size that was asked for. -/
theorem CloudProfile.storage_size {profile : CloudProfile} {type : Option String} {size : String}
    {storage : String × Quantity} (h : profile.storage type size = .ok storage) :
    storage.2 = ⟨size⟩ := by
  unfold CloudProfile.storage at h
  cases type with
  | none => cases h
  | some name =>
      obtain ⟨type, _, h⟩ := bind_eq_ok_iff.1 h
      unfold Quantity.parse at h
      cases hcheck : Quantity.check size.toList with
      | error fault =>
          rw [hcheck] at h
          cases h
      | ok checked =>
          rw [hcheck] at h
          obtain rfl := Except.ok.inj h
          rfl

namespace WorkerPool

/-- A quantity is the size of the root volumes of a pool: that of its volume, or else of the storage of
the machine type. -/
def SizesRoot (pool : WorkerPool) (profile : CloudProfile) (size : Quantity) : Prop :=
  match pool.volume with
  | some volume => size = ⟨volume.size⟩
  | none => ∃ type storage, profile.machineType pool.machineType = .ok type ∧
      type.storage = some storage ∧ storage.size = some size

/-- Root storage has the size of the root volumes of the pool. -/
theorem sizes_root_of_root_storage {pool : WorkerPool} {profile : CloudProfile} {type : MachineType}
    {storage : String × Quantity} (htype : profile.machineType pool.machineType = .ok type)
    (h : pool.rootStorage profile type = .ok storage) : pool.SizesRoot profile storage.2 := by
  unfold rootStorage at h
  unfold SizesRoot
  cases hvolume : pool.volume with
  | some volume =>
      rw [hvolume] at h
      exact CloudProfile.storage_size h
  | none =>
      rw [hvolume] at h
      dsimp only at h
      split at h
      · rename_i found hfound
        obtain rfl := Except.ok.inj h
        obtain ⟨offered, hoffered, hsize⟩ := Option.bind_eq_some_iff.1 hfound
        obtain ⟨size, hsize, hstorage⟩ := Option.map_eq_some_iff.1 hsize
        rw [← hstorage]
        exact ⟨type, offered, htype, hoffered, hsize⟩
      · cases h

/-- Additional volumes are blank. -/
theorem blank_of_additional_volumes {pool : WorkerPool} {profile : CloudProfile}
    {volumes : List AdditionalVolume} (h : pool.additionalVolumes profile = .ok volumes) :
    ∀ additional ∈ volumes, additional.volume.source = .blank := by
  have hblank (item : DataVolume) (additional : AdditionalVolume)
      (hvolume : additionalVolume profile item = .ok additional) :
      additional.volume.source = .blank := by
    obtain ⟨_, _, hvolume⟩ := bind_eq_ok_iff.1 hvolume
    obtain rfl := Except.ok.inj hvolume
    rfl
  intro additional hadditional
  obtain ⟨item, _, hvolume⟩ := exists_mem_of_forall₂ (map_m_eq_ok_iff.1 h) hadditional
  exact hblank item additional hvolume

end WorkerPool

namespace ResolvedPool

variable {resolved : ResolvedPool}

/-- All root volumes of a pool have one claim. -/
theorem root_volume_claim (provider : ProviderCluster) (name : String) :
    (resolved.rootVolume provider name).claim = resolved.imageVolume.claim := by
  unfold rootVolume
  split <;> rfl

/-- Root volumes ask for the size that was resolved. -/
theorem root_volume_size (provider : ProviderCluster) (name : String) :
    (resolved.rootVolume provider name).requestedSize = some resolved.rootStorage.2 := by
  unfold MachineVolume.requestedSize
  rw [root_volume_claim]
  exact MachineVolume.requestedSize_ofSize _ _ _

/-- Unless the pool asks otherwise, root volumes are copies of a volume that holds the image. -/
theorem root_volume_of_pre_allocation (h : resolved.config.disablePreAllocation = false)
    (provider : ProviderCluster) (name : String) :
    (resolved.rootVolume provider name).source = .clone provider.space name ∧
      resolved.classVolume = some resolved.imageVolume := by
  unfold rootVolume classVolume
  rw [h]
  exact ⟨rfl, rfl⟩

/-- If the pool asks for it, root volumes hold the image themselves. -/
theorem root_volume_of_no_pre_allocation (h : resolved.config.disablePreAllocation = true)
    (provider : ProviderCluster) (name : String) :
    (resolved.rootVolume provider name).source = .image resolved.imageUrl ∧
      resolved.classVolume = none := by
  unfold rootVolume classVolume
  rw [h]
  exact ⟨rfl, rfl⟩

/-- Only pools that do not ask otherwise need volumes for their classes. -/
theorem pre_allocation_of_class_volume {volume : MachineVolume}
    (h : resolved.classVolume = some volume) : resolved.config.disablePreAllocation = false := by
  unfold classVolume at h
  split at h
  · cases h
  · rename_i hallocates
    exact Bool.eq_false_iff.2 hallocates

end ResolvedPool

namespace MachinePlan

section ClassVolumes

variable {zones : List ZonePlan}

/-- The volumes of zones with different class names stand under the names of their classes, and no
others do. -/
theorem get?_class_volumes_eq_some_iff
    (hdistinct : (zones.map fun zone => zone.machineClass.name).Nodup) {key : String}
    {volume : MachineVolume} :
    (Dict.ofList (zones.filterMap ZonePlan.classVolume?)).get? key = some volume ↔
      ∃ zone ∈ zones, zone.machineClass.name = key ∧ zone.volume = some volume := by
  have hentry {entry : String × MachineVolume} {zone : ZonePlan} :
      zone.classVolume? = some entry ↔
        zone.machineClass.name = entry.1 ∧ zone.volume = some entry.2 := by
    unfold ZonePlan.classVolume?
    rw [Option.map_eq_some_iff]
    constructor
    · rintro ⟨volume, hvolume, rfl⟩
      exact ⟨rfl, hvolume⟩
    · rintro ⟨hname, hvolume⟩
      exact ⟨entry.2, hvolume, Prod.ext hname rfl⟩
  -- No entry replaces the one of another zone, so every one of them can be looked up.
  have hkeys : ((zones.filterMap ZonePlan.classVolume?).map Prod.fst).Nodup := by
    refine List.pairwise_map.2 (List.pairwise_filterMap.2 ?_)
    refine (List.pairwise_map.1 hdistinct).imp fun hne entry hfirst other hsecond hsame => hne ?_
    rw [(hentry.1 hfirst).1, (hentry.1 hsecond).1, hsame]
  rw [Dict.get?_of_list hkeys]
  constructor
  · intro h
    obtain ⟨zone, hzone, hsome⟩ := List.mem_filterMap.1 (mem_of_lookup h)
    exact ⟨zone, hzone, hentry.1 hsome⟩
  · rintro ⟨zone, hzone, hvolume⟩
    have hmem : (key, volume) ∈ zones.filterMap ZonePlan.classVolume? :=
      List.mem_filterMap.2 ⟨zone, hzone, hentry.2 hvolume⟩
    exact lookup_of_mem hkeys hmem

/-- Under the name of a class stands the volume that its zone needs, if it needs one. -/
theorem get?_class_volumes (hdistinct : (zones.map fun zone => zone.machineClass.name).Nodup)
    {zone : ZonePlan} (hzone : zone ∈ zones) :
    (Dict.ofList (zones.filterMap ZonePlan.classVolume?)).get? zone.machineClass.name =
      zone.volume := by
  refine Option.ext fun volume => ?_
  rw [get?_class_volumes_eq_some_iff hdistinct]
  constructor
  · rintro ⟨other, hother, hname, hvolume⟩
    rwa [← List.inj_on_of_nodup_map hdistinct hother hzone hname]
  · intro hvolume
    exact ⟨zone, hzone, rfl, hvolume⟩

end ClassVolumes

variable {scheme : Scheme} {worker : Worker} {cluster : Cluster} {provider : ProviderCluster}
  {plan : MachinePlan}

/-- In a plan for pools with different names, the root volume of a class is a copy of the volume that
stands under the name of the class, in the namespace of the provider; that volume holds the image of the
pool and has the same claim. If the pool asks for no such volume, there is none, and the root volume
holds the image itself. A root volume has the size of the volume of the pool, or else of the storage of
the machine type, and additional volumes are blank. Every volume of the plan stands under the name of a
class of a pool that does not ask otherwise. -/
theorem root_volumes_backed (hnames : (worker.spec.pools.map WorkerPool.name).Nodup)
    (hplan : (compile scheme worker cluster provider).result = .ok plan) :
    (∀ (number : Nat) (machineClass : MachineClass), plan.classes[number]? = some machineClass →
      ∃ poolZone config profileConfig url,
        (PoolZone.ofPools worker.spec.pools)[number]? = some poolZone ∧
        scheme.poolConfig poolZone.pool = .ok config ∧
        scheme.profileConfig cluster.cloudProfile = .ok profileConfig ∧
        profileConfig.imageUrl poolZone.pool.machineImage.name
          poolZone.pool.machineImage.version = .ok url ∧
        (config.disablePreAllocation = false →
          machineClass.rootVolume.source = .clone provider.space machineClass.name ∧
          ∃ volume, plan.volumes.get? machineClass.name = some volume ∧
            volume.source = .image url ∧ volume.claim = machineClass.rootVolume.claim) ∧
        (config.disablePreAllocation = true →
          machineClass.rootVolume.source = .image url ∧
          plan.volumes.get? machineClass.name = none) ∧
        (∃ size, machineClass.rootVolume.requestedSize = some size ∧
          poolZone.pool.SizesRoot cluster.cloudProfile size) ∧
        ∀ additional ∈ machineClass.additionalVolumes, additional.volume.source = .blank) ∧
    ∀ (key : String) (volume : MachineVolume), plan.volumes.get? key = some volume →
      ∃ (number : Nat) (machineClass : MachineClass) (poolZone : PoolZone) (config : WorkerConfig),
        plan.classes[number]? = some machineClass ∧ machineClass.name = key ∧
        (PoolZone.ofPools worker.spec.pools)[number]? = some poolZone ∧
        scheme.poolConfig poolZone.pool = .ok config ∧ config.disablePreAllocation = false := by
  obtain ⟨setting, zones, hsetting, hzones, hclasses, _, hvolumes⟩ := compile_eq_ok hplan
  obtain ⟨rfl, rfl, rfl, rfl, hprofile, _⟩ := setting_of_eq_ok hsetting
  have hdistinct := nodup_planned_classes hnames hzones
  rw [hclasses, hvolumes]
  refine ⟨fun number machineClass hclass => ?_, fun key volume hvolume => ?_⟩
  · rw [List.getElem?_map] at hclass
    obtain ⟨zonePlan, hzonePlan, rfl⟩ := Option.map_eq_some_iff.1 hclass
    obtain ⟨poolZone, hpoolZone, hplans⟩ := exists_planned_zone hzones hzonePlan
    obtain ⟨resolved, hresolves, hmade, _, _, _, hneeds⟩ := hplans.inversion
    obtain ⟨type, htype, hstorage⟩ := hresolves.rootStorage
    -- The class of the zone and the volume under its name are made of the same resolved pool.
    have hroot : zonePlan.machineClass.rootVolume =
        resolved.rootVolume setting.provider zonePlan.machineClass.name := by
      rw [hmade]
      rfl
    have hadditional : zonePlan.machineClass.additionalVolumes = resolved.additionalVolumes := by
      rw [hmade]
      rfl
    refine ⟨poolZone, resolved.config, setting.profileConfig, resolved.imageUrl, hpoolZone,
      hresolves.config, hprofile, hresolves.imageUrl, ?_, ?_, ?_, ?_⟩
    · intro hallocates
      obtain ⟨hsource, hneeded⟩ := ResolvedPool.root_volume_of_pre_allocation hallocates
        setting.provider zonePlan.machineClass.name
      rw [get?_class_volumes hdistinct (List.mem_of_getElem? hzonePlan), hneeds, hneeded, hroot,
        ResolvedPool.root_volume_claim]
      exact ⟨hsource, resolved.imageVolume, rfl, rfl, rfl⟩
    · intro hfetches
      obtain ⟨hsource, hneeded⟩ := ResolvedPool.root_volume_of_no_pre_allocation hfetches
        setting.provider zonePlan.machineClass.name
      rw [get?_class_volumes hdistinct (List.mem_of_getElem? hzonePlan), hneeds, hneeded, hroot]
      exact ⟨hsource, rfl⟩
    · rw [hroot, ResolvedPool.root_volume_size]
      exact ⟨_, rfl, WorkerPool.sizes_root_of_root_storage htype hstorage⟩
    · rw [hadditional]
      exact WorkerPool.blank_of_additional_volumes hresolves.additionalVolumes
  · obtain ⟨zonePlan, hmem, hname, hneeded⟩ :=
      (get?_class_volumes_eq_some_iff hdistinct).1 hvolume
    obtain ⟨number, hzonePlan⟩ := List.mem_iff_getElem?.1 hmem
    obtain ⟨poolZone, hpoolZone, hplans⟩ := exists_planned_zone hzones hzonePlan
    obtain ⟨resolved, hresolves, _, _, _, _, hneeds⟩ := hplans.inversion
    rw [hneeds] at hneeded
    refine ⟨number, zonePlan.machineClass, poolZone, resolved.config, ?_, hname, hpoolZone,
      hresolves.config, ResolvedPool.pre_allocation_of_class_volume hneeded⟩
    rw [List.getElem?_map, hzonePlan]
    rfl

/-- The first class of the sample plan is of a pool that has root volumes copied, so the volume to copy
stands under its name. -/
theorem sample_root_volume_backed :
    (sampleWorker.spec.pools.map WorkerPool.name).Nodup ∧
      ∃ plan machineClass volume url,
        (compile .standard sampleWorker sampleCluster sampleProvider).result = .ok plan ∧
        plan.classes[0]? = some machineClass ∧
        machineClass.rootVolume.source = .clone "machines" machineClass.name ∧
        plan.volumes.get? machineClass.name = some volume ∧ volume.source = .image url ∧
        volume.claim = machineClass.rootVolume.claim := by
  have hnames : (sampleWorker.spec.pools.map WorkerPool.name).Nodup := by decide
  have hok : (compile .standard sampleWorker sampleCluster sampleProvider).result.isOk = true := by
    decide +kernel
  obtain ⟨plan, hplan⟩ := exists_eq_ok hok
  have hwhole : ofPools .standard sampleWorker sampleCluster sampleProvider
      sampleWorker.spec.pools = .ok plan := hplan
  have hcount : plan.classes.length = 4 := (length_of_pools hwhole).1
  have hclass : plan.classes[0]? = some plan.classes[0] := List.getElem?_eq_getElem (by omega)
  obtain ⟨poolZone, config, _, url, hzone, hconfig, _, _, hcopied, _⟩ :=
    (root_volumes_backed hnames hplan).1 0 _ hclass
  have hpool : poolZone.pool = sampleCopyingPool :=
    (congrArg PoolZone.pool (Option.some.inj hzone)).symm
  have hasked : (Scheme.standard.poolConfig sampleCopyingPool).map
      WorkerConfig.disablePreAllocation = .ok false := rfl
  rw [← hpool, hconfig] at hasked
  obtain ⟨hsource, volume, hvolume, himage, hclaim⟩ := hcopied (Except.ok.inj hasked)
  exact ⟨hnames, plan, _, volume, url, hplan, hclass, hsource, hvolume, himage, hclaim⟩

end MachinePlan

end ShootMachines
