import Mathlib.Algebra.GroupWithZero.Nat
import ShootMachines.Machines.PoolPlan
import ShootMachines.Proofs.Results

/-!
# What the plan of a pool consists of

`Setting.pool_plan_eq_ok` takes the run that plans a pool apart: the pool resolves to all that it refers
to (`Setting.Resolves`), and every zone of the pool is planned with that, in order. For a list of pools,
`Setting.zone_plans_eq_ok` says the same of all their zones. Statements on plans use these facts and do
not look into the runs again.
-/

namespace ShootMachines

/-- A zone of a worker pool, and its position among the zones of the pool. -/
structure PoolZone where
  pool : WorkerPool
  zone : String
  position : Nat

/-- The zones of a pool, in order. -/
def WorkerPool.poolZones (pool : WorkerPool) : List PoolZone :=
  pool.zones.zipIdx.map fun zone => ⟨pool, zone.1, zone.2⟩

/-- The zones of a list of pools, in the order of the pools and of the zones of each pool. -/
def PoolZone.ofPools (pools : List WorkerPool) : List PoolZone :=
  pools.flatMap WorkerPool.poolZones

/-- The number of zones of a list of pools. -/
def WorkerPool.zoneCount (pools : List WorkerPool) : Nat :=
  (pools.map fun pool => pool.zones.length).sum

/-- There are as many zones of pools as the pools count together. -/
theorem PoolZone.length_of_pools (pools : List WorkerPool) :
    (PoolZone.ofPools pools).length = WorkerPool.zoneCount pools := by
  simp [PoolZone.ofPools, WorkerPool.poolZones, WorkerPool.zoneCount, List.length_flatMap]

namespace Setting

variable {setting : Setting} {pool : WorkerPool} {resolved : ResolvedPool} {plan : PoolPlan}

/-- A pool resolves to its configuration, its hash, and what it refers to in the cloud profile. -/
structure Resolves (setting : Setting) (pool : WorkerPool) (resolved : ResolvedPool) : Prop where
  pool_eq : resolved.pool = pool
  config : setting.scheme.poolConfig pool = .ok resolved.config
  hash_eq : resolved.hash =
    Pool.hash pool setting.worker setting.cluster setting.networkTokens
  imageUrl : setting.profileConfig.imageUrl pool.machineImage.name pool.machineImage.version =
    .ok resolved.imageUrl
  rootStorage : ∃ type, setting.cluster.cloudProfile.machineType pool.machineType = .ok type ∧
    pool.rootStorage setting.cluster.cloudProfile type = .ok resolved.rootStorage
  additionalVolumes : pool.additionalVolumes setting.cluster.cloudProfile =
    .ok resolved.additionalVolumes
  resources : ∃ type, setting.cluster.cloudProfile.machineType pool.machineType = .ok type ∧
    resolved.resources = ⟨type.requests, setting.profileConfig.limits? type.name,
      resolved.config.overcommitGuestOverhead⟩

/-- Resolving a pool gives what it resolves to. -/
theorem resolves_of_resolve (h : (setting.resolve pool).result = .ok resolved) :
    setting.Resolves pool resolved := by
  unfold resolve at h
  simp only [Run.result_bind, Run.result_lift, Run.result_debug, Run.result_pure, ok_bind,
    bind_eq_ok_iff] at h
  obtain ⟨config, hconfig, type, htype, imageUrl, himage, storage, hstorage, volumes, hvolumes,
    hresolved⟩ := h
  obtain rfl := Except.ok.inj hresolved
  exact ⟨rfl, hconfig, rfl, himage, ⟨type, htype, hstorage⟩, hvolumes, ⟨type, htype, rfl⟩⟩

/-- A pool with a plan resolves, has fewer zones than a 32-bit number can count, and the plan has its
image and a plan for each of its zones, in order. -/
theorem pool_plan_eq_ok (h : (setting.poolPlan pool).result = .ok plan) :
    ∃ resolved, setting.Resolves pool resolved ∧ pool.zones.length < 0x80000000 ∧
      plan.image = pool.image resolved.imageUrl ∧
      List.Forall₂ (fun zone zonePlan => resolved.zonePlan setting zone = .ok zonePlan)
        pool.zones.zipIdx plan.zones := by
  unfold poolPlan at h
  rw [Run.result_mapFailure, map_error_eq_ok_iff] at h
  rw [Run.result_bind, bind_eq_ok_iff] at h
  obtain ⟨resolved, hresolved, h⟩ := h
  have hresolves := resolves_of_resolve hresolved
  split at h
  · rw [Run.result_bind, Run.result_fail, error_bind] at h
    cases h
  · rename_i hcount
    simp only [Run.result_bind, Run.result_lift, Run.result_debug, Run.result_pure, ok_bind,
      bind_eq_ok_iff] at h
    obtain ⟨zones, hzones, hplan⟩ := h
    obtain rfl := Except.ok.inj hplan
    have hpool := hresolves.pool_eq
    unfold ResolvedPool.zonePlans at hzones
    rw [hpool] at hzones
    exact ⟨resolved, hresolves, Nat.lt_of_not_le hcount, rfl, map_m_eq_ok_iff.1 hzones⟩

/-- A zone of a pool has a plan if the pool resolves and the zone is planned with that. -/
def Plans (setting : Setting) (poolZone : PoolZone) (plan : ZonePlan) : Prop :=
  ∃ resolved, setting.Resolves poolZone.pool resolved ∧
    resolved.zonePlan setting (poolZone.zone, poolZone.position) = .ok plan

/-- The plans of pools have a plan for every zone of the pools, in order. -/
theorem zone_plans_eq_ok {pools : List WorkerPool} {plans : List PoolPlan}
    (h : (pools.mapM fun pool => (setting.poolPlan pool).result) = .ok plans) :
    List.Forall₂ setting.Plans (PoolZone.ofPools pools) (plans.flatMap PoolPlan.zones) := by
  unfold PoolZone.ofPools
  induction map_m_eq_ok_iff.1 h with
  | nil => exact .nil
  | @cons pool plan pools plans hplan hrest ih =>
      obtain ⟨resolved, hresolves, _, _, hzones⟩ := pool_plan_eq_ok hplan
      rw [List.flatMap_cons, List.flatMap_cons]
      refine List.rel_append ?_ (ih (map_m_eq_ok_iff.2 hrest))
      unfold WorkerPool.poolZones
      rw [List.forall₂_map_left_iff]
      exact hzones.imp fun zone zonePlan hzone => ⟨resolved, hresolves, hzone⟩

end Setting

end ShootMachines
