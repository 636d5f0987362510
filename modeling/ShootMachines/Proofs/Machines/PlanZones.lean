import ShootMachines.Proofs.Machines.PlanPools
import ShootMachines.Proofs.Machines.ZoneNames

/-!
# Machines of a plan, zone by zone

A plan has one class and one deployment for every zone of every pool, in order, and both carry the names
of the zone (`Setting.Plans.inversion`). If the pools have different names, no two zones share one, so
`MachinePlan.zones_in_step` holds of every plan.
-/

namespace ShootMachines

namespace PoolZone

/-- The name of the deployment of a zone. -/
def deploymentName (worker : Worker) (poolZone : PoolZone) : String :=
  ShootMachines.deploymentName worker.metadata.anySpace poolZone.pool.name poolZone.position

/-- The name of the class of a zone, for the tokens of the networks of the worker. -/
def className (worker : Worker) (cluster : Cluster) (tokens : List String) (poolZone : PoolZone) :
    String :=
  ShootMachines.className (poolZone.deploymentName worker)
    (Pool.hash poolZone.pool worker cluster tokens)

variable {pools : List WorkerPool} {poolZone : PoolZone}

/-- The zone at a place among the zones of pools is that of one of the pools, and the zones of the pools
before that pool stand before it. -/
theorem exists_pool_of_getElem? {number : Nat} (h : (ofPools pools)[number]? = some poolZone) :
    ∃ before after, pools = before ++ poolZone.pool :: after ∧
      number = WorkerPool.zoneCount before + poolZone.position ∧
      poolZone.pool.zones[poolZone.position]? = some poolZone.zone := by
  induction pools generalizing number with
  | nil => cases h
  | cons pool pools ih =>
      have hlength : pool.poolZones.length = pool.zones.length := by
        unfold WorkerPool.poolZones
        rw [List.length_map, List.length_zipIdx]
      unfold ofPools at h ih
      rw [List.flatMap_cons] at h
      -- The place falls among the zones of the first pool, or among those of the other pools.
      by_cases hfirst : number < pool.zones.length
      · rw [List.getElem?_append_left (hlength ▸ hfirst)] at h
        unfold WorkerPool.poolZones at h
        rw [List.getElem?_map, List.getElem?_zipIdx, Option.map_map, Nat.zero_add] at h
        obtain ⟨zone, hzone, rfl⟩ := Option.map_eq_some_iff.1 h
        exact ⟨[], pools, rfl, (Nat.zero_add _).symm, hzone⟩
      · rw [List.getElem?_append_right (hlength ▸ Nat.le_of_not_lt hfirst), hlength] at h
        obtain ⟨before, after, hpools, hnumber, hzone⟩ := ih h
        refine ⟨pool :: before, after, by rw [hpools]; rfl, ?_, hzone⟩
        unfold WorkerPool.zoneCount at hnumber ⊢
        rw [List.map_cons, List.sum_cons]
        omega

/-- Zones of pools with different names differ in the name of the pool or in their position. -/
theorem pairwise_of_pools (h : (pools.map WorkerPool.name).Nodup) :
    (ofPools pools).Pairwise fun zone other =>
      ¬(zone.pool.name = other.pool.name ∧ zone.position = other.position) := by
  unfold ofPools
  -- Within a pool the positions differ, and between two pools the names do.
  rw [List.pairwise_flatMap]
  constructor
  · intro pool _
    have hpositions : (pool.zones.zipIdx.map Prod.snd).Nodup := by
      rw [List.zipIdx_map_snd]
      exact List.nodup_range'
    unfold WorkerPool.poolZones
    rw [List.pairwise_map]
    exact (List.pairwise_map.1 hpositions).imp fun hne hsame => hne hsame.2
  · refine (List.pairwise_map.1 h).imp fun {pool other} hne zone hzone another hother hsame => ?_
    unfold WorkerPool.poolZones at hzone hother
    obtain ⟨_, _, rfl⟩ := List.mem_map.1 hzone
    obtain ⟨_, _, rfl⟩ := List.mem_map.1 hother
    exact hne hsame.1

/-- Zones of pools with different names have deployments with different names. -/
theorem nodup_deployment_names (h : (pools.map WorkerPool.name).Nodup) (worker : Worker) :
    ((ofPools pools).map (deploymentName worker)).Nodup :=
  List.pairwise_map.2 ((pairwise_of_pools h).imp fun hdiffer hsame =>
    hdiffer (deployment_name_inj hsame))

/-- Zones of pools with different names have classes with different names. -/
theorem nodup_class_names (h : (pools.map WorkerPool.name).Nodup) (worker : Worker)
    (cluster : Cluster) (tokens : List String) :
    ((ofPools pools).map (className worker cluster tokens)).Nodup := by
  refine List.pairwise_map.2 ((pairwise_of_pools h).imp fun {zone other} hdiffer hsame => ?_)
  have hlength : (Pool.hash zone.pool worker cluster tokens).toList.length =
      (Pool.hash other.pool worker cluster tokens).toList.length := by
    rw [Pool.length_hash, Pool.length_hash]
  exact hdiffer (deployment_name_inj (class_name_inj hlength hsame).1)

end PoolZone

section

variable {setting : Setting} {poolZone : PoolZone} {zonePlan : ZonePlan}

/-- The plan of a zone is made of what its pool resolves to, under the names of the zone. -/
theorem Setting.Plans.inversion (h : setting.Plans poolZone zonePlan) :
    ∃ resolved, setting.Resolves poolZone.pool resolved ∧
      zonePlan.machineClass = resolved.machineClass setting poolZone.zone
        (poolZone.className setting.worker setting.cluster setting.networkTokens) ∧
      zonePlan.deployment.name = poolZone.deploymentName setting.worker ∧
      zonePlan.deployment.className = zonePlan.machineClass.name ∧
      zonePlan.deployment.secretName = zonePlan.machineClass.name ∧
      zonePlan.volume = resolved.classVolume := by
  obtain ⟨resolved, hresolves, hplan⟩ := h
  unfold ResolvedPool.zonePlan at hplan
  obtain ⟨deployment, hdeployment, hplan⟩ := bind_eq_ok_iff.1 hplan
  obtain rfl := Except.ok.inj hplan
  unfold ResolvedPool.deployment at hdeployment
  obtain ⟨_, _, hdeployment⟩ := bind_eq_ok_iff.1 hdeployment
  obtain ⟨_, _, hdeployment⟩ := bind_eq_ok_iff.1 hdeployment
  obtain rfl := Except.ok.inj hdeployment
  refine ⟨resolved, hresolves, ?_⟩
  unfold PoolZone.className PoolZone.deploymentName
  rw [hresolves.hash_eq, hresolves.pool_eq]
  exact ⟨rfl, rfl, rfl, rfl, rfl⟩

/-- The class in the plan of a zone has the class name of the zone. -/
theorem Setting.Plans.class_name (h : setting.Plans poolZone zonePlan) :
    poolZone.className setting.worker setting.cluster setting.networkTokens =
      zonePlan.machineClass.name := by
  obtain ⟨_, _, hclass, _⟩ := h.inversion
  rw [hclass]
  rfl

/-- The deployment in the plan of a zone has the deployment name of the zone. -/
theorem Setting.Plans.deployment_name (h : setting.Plans poolZone zonePlan) :
    poolZone.deploymentName setting.worker = zonePlan.deployment.name := by
  obtain ⟨_, _, _, hname, _⟩ := h.inversion
  exact hname.symm

/-- The plan of a zone at a place is that of the zone at that place. -/
theorem exists_planned_zone {pools : List WorkerPool} {zones : List ZonePlan}
    (hzones : List.Forall₂ setting.Plans (PoolZone.ofPools pools) zones) {number : Nat}
    (hzonePlan : zones[number]? = some zonePlan) :
    ∃ poolZone, (PoolZone.ofPools pools)[number]? = some poolZone ∧
      setting.Plans poolZone zonePlan :=
  getElem?_of_forall₂ (List.Forall₂.flip hzones) hzonePlan

/-- Planned zones of pools with different names have deployments with different names. -/
theorem nodup_planned_deployments {pools : List WorkerPool} {zones : List ZonePlan}
    (hnames : (pools.map WorkerPool.name).Nodup)
    (hzones : List.Forall₂ setting.Plans (PoolZone.ofPools pools) zones) :
    (zones.map fun zone => zone.deployment.name).Nodup := by
  rw [← map_eq_of_forall₂ (hzones.imp fun _ _ hplans => hplans.deployment_name)]
  exact PoolZone.nodup_deployment_names hnames _

/-- Planned zones of pools with different names have classes with different names. -/
theorem nodup_planned_classes {pools : List WorkerPool} {zones : List ZonePlan}
    (hnames : (pools.map WorkerPool.name).Nodup)
    (hzones : List.Forall₂ setting.Plans (PoolZone.ofPools pools) zones) :
    (zones.map fun zone => zone.machineClass.name).Nodup := by
  rw [← map_eq_of_forall₂ (hzones.imp fun _ _ hplans => hplans.class_name)]
  exact PoolZone.nodup_class_names hnames _ _ _

end

namespace MachinePlan

variable {scheme : Scheme} {worker : Worker} {cluster : Cluster} {provider : ProviderCluster}
  {plan : MachinePlan}

/-- The class and the deployment of a zone in a plan are those that the plan of its pool alone has at the
position of the zone. -/
theorem alone_of_getElem? {number : Nat} {poolZone : PoolZone}
    (hplan : (compile scheme worker cluster provider).result = .ok plan)
    (h : (PoolZone.ofPools worker.spec.pools)[number]? = some poolZone) :
    ∃ alone, ofPools scheme worker cluster provider [poolZone.pool] = .ok alone ∧
      alone.classes[poolZone.position]? = plan.classes[number]? ∧
      alone.deployments[poolZone.position]? = plan.deployments[number]? := by
  obtain ⟨before, after, hpools, rfl, hzone⟩ := PoolZone.exists_pool_of_getElem? h
  have hposition : poolZone.position < poolZone.pool.zones.length :=
    (List.getElem?_eq_some_iff.1 hzone).1
  have hsplit : ofPools scheme worker cluster provider (before ++ poolZone.pool :: after) =
      .ok plan := by
    rw [← hpools]
    exact hplan
  obtain ⟨alone, halone, hclasses, hdeployments⟩ := of_pools_middle hsplit
  refine ⟨alone, halone, ?_, ?_⟩
  · rw [← hclasses, List.getElem?_take_of_lt hposition, List.getElem?_drop]
  · rw [← hdeployments, List.getElem?_take_of_lt hposition, List.getElem?_drop]

/-- A plan for pools with different names has as many classes and deployments as the pools have zones.
Those at one place are of the zone at that place, in the order of the pools and of the zones of each
pool: they carry the names of the zone, the deployment refers to the class and its secret, the class is
tagged with its own name, and both are what the plan of the pool alone has for the zone. No two
deployments have the same name, and no two classes. -/
theorem zones_in_step (hnames : (worker.spec.pools.map WorkerPool.name).Nodup)
    (hplan : (compile scheme worker cluster provider).result = .ok plan) :
    plan.classes.length = WorkerPool.zoneCount worker.spec.pools ∧
      plan.deployments.length = WorkerPool.zoneCount worker.spec.pools ∧
      (∃ status, scheme.infrastructureStatus worker = .ok status ∧
        ∀ (number : Nat) (poolZone : PoolZone),
          (PoolZone.ofPools worker.spec.pools)[number]? = some poolZone →
          ∃ machineClass deployment, plan.classes[number]? = some machineClass ∧
            plan.deployments[number]? = some deployment ∧
            machineClass.zone = poolZone.zone ∧
            deployment.name = deploymentName worker.metadata.anySpace poolZone.pool.name
              poolZone.position ∧
            machineClass.name = className deployment.name
              (Pool.hash poolZone.pool worker cluster status.tokens) ∧
            deployment.className = machineClass.name ∧
            deployment.secretName = machineClass.name ∧
            machineClass.tags.get? machineClassTag = some machineClass.name ∧
            ∃ alone, ofPools scheme worker cluster provider [poolZone.pool] = .ok alone ∧
              alone.classes[poolZone.position]? = some machineClass ∧
              alone.deployments[poolZone.position]? = some deployment) ∧
      (plan.deployments.map MachineDeployment.name).Nodup ∧
      (plan.classes.map MachineClass.name).Nodup := by
  have hwhole : ofPools scheme worker cluster provider worker.spec.pools = .ok plan := hplan
  obtain ⟨hclassCount, hdeploymentCount⟩ := length_of_pools hwhole
  obtain ⟨setting, zones, hsetting, hzones, hclasses, hdeployments, _⟩ := compile_eq_ok hplan
  obtain ⟨rfl, rfl, rfl, rfl, _, status, hstatus, htokens⟩ := setting_of_eq_ok hsetting
  refine ⟨hclassCount, hdeploymentCount, ⟨status, hstatus, ?_⟩, ?_, ?_⟩
  · intro number poolZone hpoolZone
    obtain ⟨zonePlan, hzonePlan, hplans⟩ := getElem?_of_forall₂ hzones hpoolZone
    have hclass : plan.classes[number]? = some zonePlan.machineClass := by
      rw [hclasses, List.getElem?_map, hzonePlan]
      rfl
    have hdeployment : plan.deployments[number]? = some zonePlan.deployment := by
      rw [hdeployments, List.getElem?_map, hzonePlan]
      rfl
    obtain ⟨alone, halone, haloneClass, haloneDeployment⟩ := alone_of_getElem? hplan hpoolZone
    obtain ⟨resolved, _, hmade, hname, hclassName, hsecretName, _⟩ := hplans.inversion
    have hclassOf := hplans.class_name
    rw [htokens] at hclassOf
    refine ⟨zonePlan.machineClass, zonePlan.deployment, hclass, hdeployment, ?_, hname, ?_,
      hclassName, hsecretName, ?_, alone, halone, haloneClass.trans hclass,
      haloneDeployment.trans hdeployment⟩
    · rw [hmade]
      rfl
    · rw [← hclassOf, hname]
      rfl
    · rw [hmade]
      unfold ResolvedPool.machineClass MachineClass.tagsOf
      rw [Dict.get?_insert, if_pos rfl]
  · rw [hdeployments, List.map_map]
    exact nodup_planned_deployments hnames hzones
  · rw [hclasses, List.map_map]
    exact nodup_planned_classes hnames hzones

/-- The sample pools have four zones, and the classes and deployments of these have different names,
although a zone is listed twice and the name of a pool looks like that of a zone. -/
theorem sample_zones_in_step :
    (sampleWorker.spec.pools.map WorkerPool.name).Nodup ∧
      ∃ plan, (compile .standard sampleWorker sampleCluster sampleProvider).result = .ok plan ∧
        plan.classes.length = 4 ∧
        (plan.deployments.map MachineDeployment.name).Nodup ∧
        (plan.classes.map MachineClass.name).Nodup := by
  have hnames : (sampleWorker.spec.pools.map WorkerPool.name).Nodup := by decide
  have hok : (compile .standard sampleWorker sampleCluster sampleProvider).result.isOk = true := by
    decide +kernel
  obtain ⟨plan, hplan⟩ := exists_eq_ok hok
  obtain ⟨hlength, _, _, hdeployments, hclasses⟩ := zones_in_step hnames hplan
  exact ⟨hnames, plan, hplan, hlength, hdeployments, hclasses⟩

end MachinePlan

end ShootMachines
