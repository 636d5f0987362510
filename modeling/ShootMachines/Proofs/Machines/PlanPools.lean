import ShootMachines.Machines.Generation
import ShootMachines.Proofs.Document.DictLemmas
import ShootMachines.Proofs.Machines.PlanImages
import ShootMachines.Proofs.Machines.PoolPlans
import ShootMachines.Proofs.Provider.PayloadRoundTrip

/-!
# Plans of pool lists

The plan of a worker is put together from the plans of its pools, and the plan of a pool depends on
nothing else of the worker than what all its pools share (`Worker.SharesBase`). So the plan of two
lists of pools, one after the other, is made of the plans of both (`MachinePlan.of_pools_append`), and
what a pool adds to a plan does not depend on the other pools: `MachinePlan.pool_lists_compose`.
-/

namespace ShootMachines

/-- The worker with other pools. -/
def Worker.withPools (worker : Worker) (pools : List WorkerPool) : Worker :=
  { worker with spec := { worker.spec with pools := pools } }

/-- Two workers are the same in all that the plan of a pool reads of a worker. -/
structure Worker.SharesBase (worker other : Worker) : Prop where
  metadata : other.metadata = worker.metadata
  region : other.spec.region = worker.spec.region
  infrastructureStatus : other.spec.infrastructureStatus = worker.spec.infrastructureStatus
  sshPublicKey : other.spec.sshPublicKey = worker.spec.sshPublicKey

/-- A worker with other pools is the same apart from them. -/
theorem Worker.shares_base_with_pools (worker : Worker) (pools : List WorkerPool) :
    worker.SharesBase (worker.withPools pools) := ⟨rfl, rfl, rfl, rfl⟩

/-- Workers with a common base have the same setting, the worker itself apart. -/
theorem Worker.SharesBase.setting_of {worker other : Worker} (h : worker.SharesBase other)
    (scheme : Scheme) (cluster : Cluster) (provider : ProviderCluster) :
    Setting.of scheme other cluster provider =
      (Setting.of scheme worker cluster provider).map fun setting =>
        { setting with worker := other } := by
  have hnetworks : scheme.infrastructureStatus other = scheme.infrastructureStatus worker := by
    unfold Scheme.infrastructureStatus Worker.objectName
    rw [h.metadata, h.infrastructureStatus]
  have hkey : other.sshKey = worker.sshKey := by
    unfold Worker.sshKey
    rw [h.metadata, h.sshPublicKey]
  unfold Setting.of
  rw [hnetworks, hkey]
  cases scheme.infrastructureStatus worker with
  | error failure => rfl
  | ok networks =>
      simp only [ok_bind, convert_config_eq]
      cases worker.sshKey with
      | error failure => rfl
      | ok sshKey => cases scheme.profileConfig cluster.cloudProfile <;> rfl

/-- Workers with a common base have the same plan of a pool. -/
theorem Worker.SharesBase.pool_plan {setting : Setting} {other : Worker}
    (h : setting.worker.SharesBase other) (pool : WorkerPool) :
    Setting.poolPlan { setting with worker := other } pool = setting.poolPlan pool := by
  obtain ⟨hmetadata, hregion, _, _⟩ := h
  obtain ⟨scheme, worker, cluster, provider, profileConfig, networks, networkTokens, sshKey⟩ := setting
  obtain ⟨metadata, spec, status⟩ := worker
  obtain ⟨otherMetadata, otherSpec, otherStatus⟩ := other
  obtain ⟨type, region, secretRef, infrastructureStatus, sshPublicKey, pools⟩ := spec
  obtain ⟨otherType, otherRegion, otherRef, otherInfrastructure, otherKey, otherPools⟩ := otherSpec
  dsimp only at hmetadata hregion
  subst hmetadata hregion
  rfl

/-- A setting holds what it was made of. -/
theorem setting_of_eq_ok {scheme : Scheme} {worker : Worker} {cluster : Cluster}
    {provider : ProviderCluster} {setting : Setting}
    (h : Setting.of scheme worker cluster provider = .ok setting) :
    setting.scheme = scheme ∧ setting.worker = worker ∧ setting.cluster = cluster ∧
      setting.provider = provider ∧
      scheme.profileConfig cluster.cloudProfile = .ok setting.profileConfig ∧
      ∃ status, scheme.infrastructureStatus worker = .ok status ∧
        setting.networkTokens = status.tokens := by
  unfold Setting.of at h
  obtain ⟨status, hstatus, h⟩ := bind_eq_ok_iff.1 h
  obtain ⟨_, _, h⟩ := bind_eq_ok_iff.1 h
  obtain ⟨_, _, h⟩ := bind_eq_ok_iff.1 h
  obtain ⟨_, hprofile, h⟩ := bind_eq_ok_iff.1 h
  obtain rfl := Except.ok.inj h
  exact ⟨rfl, rfl, rfl, rfl, hprofile, status, hstatus, rfl⟩

/-- The volume that a zone needs, under the name of its class. -/
def ZonePlan.classVolume? (zone : ZonePlan) : Option (String × MachineVolume) :=
  zone.volume.map (zone.machineClass.name, ·)

namespace MachinePlan

/-- The plan of a worker that has other pools. -/
def ofPools (scheme : Scheme) (worker : Worker) (cluster : Cluster) (provider : ProviderCluster)
    (pools : List WorkerPool) : Except Failure MachinePlan :=
  (compile scheme (worker.withPools pools) cluster provider).result

/-- Two plans put together: images are listed once, and the volumes of the second plan win. -/
def append (first second : MachinePlan) : MachinePlan where
  classes := first.classes ++ second.classes
  deployments := first.deployments ++ second.deployments
  images := first.images ++ second.images.filter fun image => !first.uses image
  volumes := first.volumes.union second.volumes

variable {scheme : Scheme} {worker : Worker} {cluster : Cluster} {provider : ProviderCluster}
  {plan : MachinePlan} {pools : List WorkerPool}

/-- The plan of a worker is put together from the plans of its pools. -/
theorem compile_result (scheme : Scheme) (worker : Worker) (cluster : Cluster)
    (provider : ProviderCluster) :
    (compile scheme worker cluster provider).result = do
      let setting ← Setting.of scheme worker cluster provider
      let pools ← worker.spec.pools.mapM fun pool => (setting.poolPlan pool).result
      return pools.foldl addPool empty := by
  unfold compile
  simp only [Run.result_bind, Run.result_lift, Run.result_forEach, Run.result_info, Run.result_pure,
    ok_bind]
  rfl

/-- Of two workers with a common base, the plan of one is put together from the plans that the other
gives to its pools. -/
theorem compile_of_shares_base {other : Worker} (h : worker.SharesBase other) :
    (compile scheme other cluster provider).result = do
      let setting ← Setting.of scheme worker cluster provider
      let pools ← other.spec.pools.mapM fun pool => (setting.poolPlan pool).result
      return pools.foldl addPool empty := by
  rw [compile_result, h.setting_of]
  cases hsetting : Setting.of scheme worker cluster provider with
  | error failure => rfl
  | ok setting =>
      obtain ⟨_, rfl, _⟩ := setting_of_eq_ok hsetting
      simp only [Except.map, ok_bind, h.pool_plan]

/-- The plan of a list of pools is put together from the plans of the pools. -/
theorem of_pools_eq (pools : List WorkerPool) :
    ofPools scheme worker cluster provider pools = do
      let setting ← Setting.of scheme worker cluster provider
      let plans ← pools.mapM fun pool => (setting.poolPlan pool).result
      return plans.foldl addPool empty :=
  compile_of_shares_base (worker.shares_base_with_pools pools)

/-- One more pool adds the classes, the deployments and the volumes of its zones, and its image. -/
theorem add_pool_eq (plan : MachinePlan) (pool : PoolPlan) :
    plan.addPool pool =
      { classes := plan.classes ++ pool.zones.map ZonePlan.machineClass
        deployments := plan.deployments ++ pool.zones.map ZonePlan.deployment
        images := appendImage plan.images pool.image
        volumes := plan.volumes.union (.ofList (pool.zones.filterMap ZonePlan.classVolume?)) } := by
  rw [← Dict.foldl_insert_eq_union, List.foldl_filterMap]
  unfold addPool
  congr 2
  funext volumes zone
  unfold ZonePlan.classVolume?
  cases zone.volume <;> rfl

/-- More pools add the classes, the deployments and the volumes of all their zones, and their images. -/
theorem foldl_add_pool (plan : MachinePlan) (pools : List PoolPlan) :
    pools.foldl addPool plan =
      { classes := plan.classes ++ (pools.flatMap PoolPlan.zones).map ZonePlan.machineClass
        deployments := plan.deployments ++ (pools.flatMap PoolPlan.zones).map ZonePlan.deployment
        images := (pools.map PoolPlan.image).foldl appendImage plan.images
        volumes := plan.volumes.union
          (.ofList ((pools.flatMap PoolPlan.zones).filterMap ZonePlan.classVolume?)) } := by
  induction pools generalizing plan with
  | nil => simp [Dict.ofList, Dict.union_empty]
  | cons pool pools ih =>
      rw [List.foldl_cons, ih, add_pool_eq]
      simp only [List.flatMap_cons, List.map_append, List.filterMap_append, List.append_assoc,
        List.map_cons, List.foldl_cons, Dict.union_of_list_append]

/-- More pools add the plan that they have by themselves. -/
theorem foldl_add_pool_eq_append (plan : MachinePlan) (pools : List PoolPlan) :
    pools.foldl addPool plan = plan.append (pools.foldl addPool empty) := by
  -- The volumes of a plan by itself are a union with the empty map.
  have hempty (dict : Dict MachineVolume) (entries : List (String × MachineVolume)) :
      dict.union ((Dict.empty : Dict MachineVolume).union (.ofList entries)) =
        dict.union (.ofList entries) := by
    rw [← Dict.foldl_insert_eq_union]
    rfl
  rw [foldl_add_pool, foldl_add_pool empty]
  unfold append empty uses
  simp only [List.nil_append, hempty, ← foldl_append_image]

/-- The plan of two lists of pools is made of the plans of both. The first failure ends the run. -/
theorem of_pools_append (pools others : List WorkerPool) :
    ofPools scheme worker cluster provider (pools ++ others) = do
      let first ← ofPools scheme worker cluster provider pools
      let second ← ofPools scheme worker cluster provider others
      return first.append second := by
  simp only [of_pools_eq]
  cases Setting.of scheme worker cluster provider with
  | error failure => rfl
  | ok setting =>
      simp only [ok_bind, List.mapM_append, bind_assoc, pure_bind]
      -- The pools of the second list are planned only after those of the first one all were.
      cases pools.mapM fun pool => (setting.poolPlan pool).result with
      | error failure => rfl
      | ok plans =>
          cases others.mapM fun pool => (setting.poolPlan pool).result with
          | error failure => rfl
          | ok otherPlans =>
              simp only [ok_bind]
              rw [List.foldl_append, foldl_add_pool_eq_append]

/-- A compiled plan consists of the plans of the zones of all pools, in order. -/
theorem compile_eq_ok (h : (compile scheme worker cluster provider).result = .ok plan) :
    ∃ setting zones, Setting.of scheme worker cluster provider = .ok setting ∧
      List.Forall₂ setting.Plans (PoolZone.ofPools worker.spec.pools) zones ∧
      plan.classes = zones.map ZonePlan.machineClass ∧
      plan.deployments = zones.map ZonePlan.deployment ∧
      plan.volumes = .ofList (zones.filterMap ZonePlan.classVolume?) := by
  rw [compile_result] at h
  obtain ⟨setting, hsetting, h⟩ := bind_eq_ok_iff.1 h
  obtain ⟨plans, hplans, h⟩ := bind_eq_ok_iff.1 h
  obtain rfl := Except.ok.inj h
  refine ⟨setting, _, hsetting, Setting.zone_plans_eq_ok hplans, ?_⟩
  rw [foldl_add_pool, ← Dict.foldl_insert_eq_union]
  exact ⟨rfl, rfl, rfl⟩

/-- A plan has a class and a deployment for every zone of its pools. -/
theorem length_of_pools (h : ofPools scheme worker cluster provider pools = .ok plan) :
    plan.classes.length = WorkerPool.zoneCount pools ∧
      plan.deployments.length = WorkerPool.zoneCount pools := by
  obtain ⟨setting, zones, _, hzones, hclasses, hdeployments, _⟩ := compile_eq_ok h
  have hlength : zones.length = WorkerPool.zoneCount pools := by
    rw [← hzones.length_eq, PoolZone.length_of_pools]
    rfl
  rw [hclasses, hdeployments, List.length_map, List.length_map]
  exact ⟨hlength, hlength⟩

/-- What a pool adds to a plan, at its place among the classes and deployments, is the plan of the pool
alone. -/
theorem of_pools_middle {before after : List WorkerPool} {pool : WorkerPool}
    (h : ofPools scheme worker cluster provider (before ++ pool :: after) = .ok plan) :
    ∃ alone, ofPools scheme worker cluster provider [pool] = .ok alone ∧
      (plan.classes.drop (WorkerPool.zoneCount before)).take pool.zones.length = alone.classes ∧
      (plan.deployments.drop (WorkerPool.zoneCount before)).take pool.zones.length =
        alone.deployments := by
  rw [← List.singleton_append, of_pools_append, of_pools_append] at h
  obtain ⟨first, hfirst, h⟩ := bind_eq_ok_iff.1 h
  obtain ⟨rest, hrest, h⟩ := bind_eq_ok_iff.1 h
  obtain ⟨alone, halone, hrest⟩ := bind_eq_ok_iff.1 hrest
  obtain ⟨last, _, hrest⟩ := bind_eq_ok_iff.1 hrest
  obtain rfl := Except.ok.inj hrest
  obtain rfl := Except.ok.inj h
  have hcount : WorkerPool.zoneCount [pool] = pool.zones.length := by
    simp [WorkerPool.zoneCount]
  obtain ⟨hclasses, hdeployments⟩ := length_of_pools hfirst
  obtain ⟨haloneClasses, haloneDeployments⟩ := length_of_pools halone
  rw [hcount] at haloneClasses haloneDeployments
  refine ⟨alone, halone, ?_, ?_⟩
  · show ((first.classes ++ (alone.classes ++ last.classes)).drop _).take _ = alone.classes
    rw [← hclasses, ← haloneClasses, List.drop_left, List.take_left]
  · show ((first.deployments ++ (alone.deployments ++ last.deployments)).drop _).take _ =
      alone.deployments
    rw [← hdeployments, ← haloneDeployments, List.drop_left, List.take_left]

/-- The plan of two lists of pools, one after the other, succeeds exactly if the plans of both do. Its
classes and deployments are those of the first and then those of the second plan, the volumes of the
second plan win, and of the images of the second plan those are added that the first one does not use.
The first failure is that of the whole. Whatever the other pools, a pool adds the same classes and
deployments at its place: those of the plan of the pool alone. -/
theorem pool_lists_compose (scheme : Scheme) (worker : Worker) (cluster : Cluster)
    (provider : ProviderCluster) :
    (∀ pools others : List WorkerPool,
      ((∃ plan, ofPools scheme worker cluster provider (pools ++ others) = .ok plan) ↔
        (∃ first, ofPools scheme worker cluster provider pools = .ok first) ∧
          ∃ second, ofPools scheme worker cluster provider others = .ok second) ∧
      (∀ first second plan, ofPools scheme worker cluster provider pools = .ok first →
        ofPools scheme worker cluster provider others = .ok second →
        ofPools scheme worker cluster provider (pools ++ others) = .ok plan →
          plan.classes = first.classes ++ second.classes ∧
          plan.deployments = first.deployments ++ second.deployments ∧
          (∀ key, plan.volumes.get? key = (second.volumes.get? key).or (first.volumes.get? key)) ∧
          plan.images = first.images ++ second.images.filter fun image =>
            !first.images.any fun used => used.name = image.name ∧ used.version = image.version) ∧
      (∀ failure, ofPools scheme worker cluster provider pools = .error failure →
        ofPools scheme worker cluster provider (pools ++ others) = .error failure) ∧
      ∀ first failure, ofPools scheme worker cluster provider pools = .ok first →
        ofPools scheme worker cluster provider others = .error failure →
          ofPools scheme worker cluster provider (pools ++ others) = .error failure) ∧
    ∀ (pool : WorkerPool) (before after otherBefore otherAfter : List WorkerPool)
      (plan otherPlan : MachinePlan),
      ofPools scheme worker cluster provider (before ++ pool :: after) = .ok plan →
      ofPools scheme worker cluster provider (otherBefore ++ pool :: otherAfter) = .ok otherPlan →
        ∃ alone, ofPools scheme worker cluster provider [pool] = .ok alone ∧
          (plan.classes.drop (WorkerPool.zoneCount before)).take pool.zones.length =
            alone.classes ∧
          (otherPlan.classes.drop (WorkerPool.zoneCount otherBefore)).take pool.zones.length =
            alone.classes ∧
          (plan.deployments.drop (WorkerPool.zoneCount before)).take pool.zones.length =
            alone.deployments ∧
          (otherPlan.deployments.drop (WorkerPool.zoneCount otherBefore)).take pool.zones.length =
            alone.deployments := by
  refine ⟨fun pools others => ⟨?_, ?_, ?_, ?_⟩, ?_⟩
  · rw [of_pools_append]
    constructor
    · rintro ⟨plan, hplan⟩
      obtain ⟨first, hfirst, hplan⟩ := bind_eq_ok_iff.1 hplan
      obtain ⟨second, hsecond, _⟩ := bind_eq_ok_iff.1 hplan
      exact ⟨⟨first, hfirst⟩, second, hsecond⟩
    · rintro ⟨⟨first, hfirst⟩, second, hsecond⟩
      rw [hfirst, hsecond]
      exact ⟨first.append second, rfl⟩
  · intro first second plan hfirst hsecond hplan
    rw [of_pools_append, hfirst, hsecond] at hplan
    obtain rfl := Except.ok.inj hplan
    refine ⟨rfl, rfl, Dict.get?_union _ _, ?_⟩
    simp only [← uses_eq]
    rfl
  · intro failure hfailure
    rw [of_pools_append, hfailure]
    rfl
  · intro first failure hfirst hfailure
    rw [of_pools_append, hfirst, hfailure]
    rfl
  · intro pool before after otherBefore otherAfter plan otherPlan hplan hother
    obtain ⟨alone, halone, hclasses, hdeployments⟩ := of_pools_middle hplan
    obtain ⟨same, hsame, hotherClasses, hotherDeployments⟩ := of_pools_middle hother
    rw [halone] at hsame
    obtain rfl := Except.ok.inj hsame
    exact ⟨alone, halone, hclasses, hotherClasses, hdeployments, hotherDeployments⟩

/-- A cluster whose cloud profile offers a machine type, a volume type and two versions of an image. -/
def sampleCluster : Cluster where
  cloudProfile := ⟨.empty, "kubevirt",
    [⟨"small", ⟨"1"⟩, ⟨"0"⟩, ⟨"1Gi"⟩, none, some ⟨"standard", some ⟨"10Gi"⟩, ""⟩⟩],
    [⟨"fast", "premium", none⟩],
    some (encodeConfig .profileConfig
      ⟨[⟨"linux", [⟨"1", "https://images/1"⟩, ⟨"2", "https://images/2"⟩]⟩], []⟩)⟩
  shoot := ⟨.empty, "profile", "region", "", ⟨"1.31.0"⟩, ⟨none, none, none, none⟩,
    ⟨"kubevirt", none, none, []⟩⟩

/-- The cluster that sample machines run in. -/
def sampleProvider : ProviderCluster := ⟨"kubeconfig", "machines"⟩

/-- A pool that spreads copied root volumes over three zones, one of them twice. -/
def sampleCopyingPool : WorkerPool :=
  ⟨"pool", "small", ⟨"linux", "1"⟩, 1, 3, .int 1, .int 0, .empty, .empty, [], none, none, [],
    ["a", "b", "a"], none, none, none⟩

/-- A pool whose root volumes fetch the image. Its name looks like that of a zone of the other pool. -/
def sampleFetchingPool : WorkerPool :=
  ⟨"pool-z1", "small", ⟨"linux", "2"⟩, 1, 1, .int 1, .int 0, .empty, .empty, [], none,
    some ⟨none, some "fast", "20Gi"⟩, [⟨"data", some "fast", "5Gi"⟩], ["a"],
    some (encodeConfig .workerConfig ⟨none, none, none, none, none, false, true⟩), none, none⟩

/-- A worker with both pools. -/
def sampleWorker : Worker where
  metadata := .empty
  spec := ⟨"kubevirt", "region", ⟨"secret", "space"⟩, none, some [0],
    [sampleCopyingPool, sampleFetchingPool]⟩
  status := none

/-- The second sample pool adds to a plan what it has by itself: a class of its zone, which fetches the image
and has an additional volume, and the deployment of the zone. -/
theorem sample_pools_compose :
    ∃ plan alone machineClass,
      ofPools .standard sampleWorker sampleCluster sampleProvider
        ([sampleCopyingPool] ++ sampleFetchingPool :: []) = .ok plan ∧
      ofPools .standard sampleWorker sampleCluster sampleProvider [sampleFetchingPool] =
        .ok alone ∧
      alone.classes = [machineClass] ∧ machineClass.zone = "a" ∧
      machineClass.rootVolume = .ofSize "premium" ⟨"20Gi"⟩ (.image "https://images/2") ∧
      machineClass.additionalVolumes = [⟨"data", .ofSize "premium" ⟨"5Gi"⟩ .blank⟩] ∧
      alone.deployments.map MachineDeployment.name = ["-pool-z1-z1"] ∧
      (plan.classes.drop 3).take 1 = alone.classes ∧
      (plan.deployments.drop 3).take 1 = alone.deployments := by
  have hok : (ofPools .standard sampleWorker sampleCluster sampleProvider
      ([sampleCopyingPool] ++ sampleFetchingPool :: [])).isOk = true := by decide +kernel
  obtain ⟨plan, hplan⟩ := exists_eq_ok hok
  obtain ⟨alone, halone, hclasses, _, hdeployments, _⟩ :=
    (pool_lists_compose .standard sampleWorker sampleCluster sampleProvider).2
      sampleFetchingPool [sampleCopyingPool] [] [sampleCopyingPool] [] plan plan hplan hplan
  have hclass : ((ofPools .standard sampleWorker sampleCluster sampleProvider
      [sampleFetchingPool]).map fun alone => alone.classes.map fun machineClass =>
        (machineClass.zone, machineClass.rootVolume, machineClass.additionalVolumes)).toOption =
      some [("a", .ofSize "premium" ⟨"20Gi"⟩ (.image "https://images/2"),
        [⟨"data", .ofSize "premium" ⟨"5Gi"⟩ .blank⟩])] := by decide +kernel
  have hdeployment : ((ofPools .standard sampleWorker sampleCluster sampleProvider
      [sampleFetchingPool]).map fun alone => alone.deployments.map MachineDeployment.name).toOption =
      some ["-pool-z1-z1"] := by decide +kernel
  rw [halone] at hclass hdeployment
  obtain ⟨machineClass, hone, hfields⟩ := List.map_eq_singleton_iff.1 (Option.some.inj hclass)
  simp only [Prod.mk.injEq] at hfields
  obtain ⟨hzone, hroot, hadditional⟩ := hfields
  exact ⟨plan, alone, machineClass, hplan, halone, hone, hzone, hroot, hadditional,
    Option.some.inj hdeployment, hclasses, hdeployments⟩

end MachinePlan

end ShootMachines
