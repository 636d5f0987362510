import ShootMachines.Proofs.Machines.PlanZones
import ShootMachines.Proofs.Pool.Percentages

/-!
# Bounds of planned deployments

The bounds of the deployment of a zone are the shares of the zone in the bounds of its pool
(`Setting.Plans.bounds`). So `MachinePlan.pool_bounds_spread` says how the deployments of a pool, at their
place in a plan, spread each of the four bounds of the pool, and how these compare within a deployment.
-/

namespace ShootMachines

open Pool

/-- The deployment of the zone at a position has the shares of that zone in the bounds of a pool, where
the bounds on surge and unavailability stand for the given counts. -/
structure WorkerPool.Bounds (pool : WorkerPool) (surge unavailable : Int) (position : Nat)
    (deployment : MachineDeployment) : Prop where
  minimum : share position pool.minimum.toInt pool.zones.length = deployment.minimum.toInt
  maximum : share position pool.maximum.toInt pool.zones.length = deployment.maximum.toInt
  maxSurge : share position surge pool.zones.length = deployment.maxSurge.toInt
  maxUnavailable : share position unavailable pool.zones.length = deployment.maxUnavailable.toInt

/-- The deployment of a planned zone has the shares of the zone. -/
theorem Setting.Plans.bounds {setting : Setting} {poolZone : PoolZone} {zonePlan : ZonePlan}
    (h : setting.Plans poolZone zonePlan)
    (hposition : poolZone.position < poolZone.pool.zones.length) :
    ∃ surge unavailable,
      resolveBound poolZone.pool.maxSurge poolZone.pool.maximum = .ok surge ∧
      resolveBound poolZone.pool.maxUnavailable poolZone.pool.minimum = .ok unavailable ∧
      poolZone.pool.Bounds surge unavailable poolZone.position zonePlan.deployment := by
  obtain ⟨resolved, hresolves, hplan⟩ := h
  unfold ResolvedPool.zonePlan at hplan
  obtain ⟨deployment, hdeployment, hplan⟩ := bind_eq_ok_iff.1 hplan
  obtain rfl := Except.ok.inj hplan
  unfold ResolvedPool.deployment boundShare at hdeployment
  rw [hresolves.pool_eq] at hdeployment
  obtain ⟨_, hsurgeShare, hdeployment⟩ := bind_eq_ok_iff.1 hdeployment
  obtain ⟨_, hunavailableShare, hdeployment⟩ := bind_eq_ok_iff.1 hdeployment
  obtain rfl := Except.ok.inj hdeployment
  obtain ⟨surge, hsurge, rfl⟩ := map_eq_ok_iff.1 hsurgeShare
  obtain ⟨unavailable, hunavailable, rfl⟩ := map_eq_ok_iff.1 hunavailableShare
  have hshare {total : Int} (htotal : Fits 32 total) :
      share poolZone.position total poolZone.pool.zones.length =
        (Int32.ofInt (share poolZone.position total poolZone.pool.zones.length)).toInt :=
    (to_int_share (by omega) (by omega) htotal).symm
  exact ⟨surge, unavailable, hsurge, hunavailable, hshare (fits_to_int _),
    hshare (fits_to_int _), hshare (resolve_bound_eq_ok hsurge).1,
    hshare (resolve_bound_eq_ok hunavailable).1⟩

namespace WorkerPool.Bounds

variable {pool : WorkerPool} {surge unavailable : Int} {position : Nat}
  {deployment : MachineDeployment}

/-- A deployment has no greater minimum than maximum if its pool has not. -/
theorem minimum_le_maximum (h : pool.Bounds surge unavailable position deployment)
    (hposition : position < pool.zones.length) (horder : pool.minimum ≤ pool.maximum) :
    deployment.minimum ≤ deployment.maximum := by
  rw [Int32.le_iff_toInt_le] at horder ⊢
  rw [← h.minimum, ← h.maximum]
  exact share_mono (by omega) (by omega) horder

/-- A deployment does not surge by more than its maximum if its pool does not. -/
theorem surge_le_maximum (h : pool.Bounds surge unavailable position deployment)
    (hposition : position < pool.zones.length) (horder : surge ≤ pool.maximum.toInt) :
    deployment.maxSurge ≤ deployment.maximum := by
  rw [Int32.le_iff_toInt_le, ← h.maxSurge, ← h.maximum]
  exact share_mono (by omega) (by omega) horder

/-- A deployment does not lack more than its minimum if its pool does not. -/
theorem unavailable_le_minimum (h : pool.Bounds surge unavailable position deployment)
    (hposition : position < pool.zones.length) (horder : unavailable ≤ pool.minimum.toInt) :
    deployment.maxUnavailable ≤ deployment.minimum := by
  rw [Int32.le_iff_toInt_le, ← h.maxUnavailable, ← h.minimum]
  exact share_mono (by omega) (by omega) horder

end WorkerPool.Bounds

namespace MachinePlan

/-- The deployments of a pool in the plan of a worker that has other pools before it. -/
def deploymentsOf (plan : MachinePlan) (before : List WorkerPool) (pool : WorkerPool) :
    List MachineDeployment :=
  (plan.deployments.drop (WorkerPool.zoneCount before)).take pool.zones.length

variable {scheme : Scheme} {worker : Worker} {cluster : Cluster} {provider : ProviderCluster}
  {plan : MachinePlan} {before after : List WorkerPool} {pool : WorkerPool}

/-- The deployments of a pool are those of its zones: each has the name of its zone, and the shares of
the zone in the bounds of the pool. -/
theorem deployments_of_pool (hplan : (compile scheme worker cluster provider).result = .ok plan)
    (hpools : worker.spec.pools = before ++ pool :: after) (hzones : pool.zones ≠ []) :
    ∃ surge unavailable, resolveBound pool.maxSurge pool.maximum = .ok surge ∧
      resolveBound pool.maxUnavailable pool.minimum = .ok unavailable ∧
      List.Forall₂ (fun position deployment =>
          deploymentName worker.metadata.anySpace pool.name position = deployment.name ∧
          pool.Bounds surge unavailable position deployment)
        (List.range pool.zones.length) (plan.deploymentsOf before pool) := by
  have hsplit : ofPools scheme worker cluster provider (before ++ pool :: after) = .ok plan := by
    rw [← hpools]
    exact hplan
  obtain ⟨alone, halone, _, hdeployments⟩ := of_pools_middle hsplit
  obtain ⟨setting, zones, hsetting, hplanned, _, haloneDeployments, _⟩ := compile_eq_ok halone
  obtain ⟨_, hworker, _⟩ := setting_of_eq_ok hsetting
  have hone : PoolZone.ofPools (worker.withPools [pool]).spec.pools = pool.poolZones :=
    List.flatMap_singleton ..
  rw [hone] at hplanned
  have hmem : ∀ poolZone ∈ pool.poolZones,
      poolZone.pool = pool ∧ poolZone.position < pool.zones.length := by
    intro poolZone hpoolZone
    obtain ⟨⟨zone, position⟩, hzone, rfl⟩ := List.mem_map.1 hpoolZone
    exact ⟨rfl, by simpa using List.snd_lt_of_mem_zipIdx hzone⟩
  have hall := (List.forall₂_and_left (R := setting.Plans) ..).2 ⟨hmem, hplanned⟩
  have hrange : List.range pool.zones.length = pool.poolZones.map PoolZone.position := by
    simp [WorkerPool.poolZones, Function.comp_def, List.range_eq_range']
  -- All zones see the same bounds of the pool, so what the first one resolves them to counts for all.
  have hfirst : pool.poolZones[0]? = some ⟨pool, pool.zones.head hzones, 0⟩ := by
    simp [WorkerPool.poolZones, List.head_eq_getElem]
  obtain ⟨_, _, ⟨_, hfirstPosition⟩, hfirstPlans⟩ := getElem?_of_forall₂ hall hfirst
  obtain ⟨surge, unavailable, hsurge, hunavailable, _⟩ := hfirstPlans.bounds hfirstPosition
  refine ⟨surge, unavailable, hsurge, hunavailable, ?_⟩
  unfold deploymentsOf
  rw [hdeployments, haloneDeployments, hrange, List.forall₂_map_left_iff,
    List.forall₂_map_right_iff]
  refine hall.imp fun poolZone zonePlan h => ?_
  obtain ⟨⟨rfl, hposition⟩, hplans⟩ := h
  obtain ⟨otherSurge, otherUnavailable, hsame, hsameUnavailable, hbounds⟩ := hplans.bounds hposition
  obtain rfl := Except.ok.inj (hsame.symm.trans hsurge)
  obtain rfl := Except.ok.inj (hsameUnavailable.symm.trans hunavailable)
  have hname := hplans.deployment_name
  rw [hworker] at hname
  exact ⟨hname, hbounds⟩

/-- The deployments of a pool with zones, in the plan of a worker with any pools, are as many as its zones
and carry their names in order. Their minimums, maximums, surges and unavailabilities each spread evenly
what the pool states: the number, or the percentage of its maximum or its minimum, rounded down. No
deployment has a greater minimum than maximum if the pool has not, nor does it surge by more than its
maximum or lack more than its minimum if the pool states a percentage up to a hundred of a count that is not
negative. For fewer zones than the greatest 32-bit number, no operation on 32 bits on the way overflows. -/
theorem pool_bounds_spread (hplan : (compile scheme worker cluster provider).result = .ok plan)
    (hpools : worker.spec.pools = before ++ pool :: after) (hzones : pool.zones ≠ []) :
    ∃ surge unavailable,
      StandsFor pool.maximum.toInt pool.maxSurge surge ∧
      StandsFor pool.minimum.toInt pool.maxUnavailable unavailable ∧
      (plan.deploymentsOf before pool).map MachineDeployment.name =
        (List.range pool.zones.length).map (deploymentName worker.metadata.anySpace pool.name) ∧
      Spreads pool.minimum.toInt ((plan.deploymentsOf before pool).map (·.minimum.toInt)) ∧
      Spreads pool.maximum.toInt ((plan.deploymentsOf before pool).map (·.maximum.toInt)) ∧
      Spreads surge ((plan.deploymentsOf before pool).map (·.maxSurge.toInt)) ∧
      Spreads unavailable ((plan.deploymentsOf before pool).map (·.maxUnavailable.toInt)) ∧
      (∀ deployment ∈ plan.deploymentsOf before pool,
        (pool.minimum ≤ pool.maximum → deployment.minimum ≤ deployment.maximum) ∧
        (∀ text percent, pool.maxSurge = .text text → Percentage percent text.toList → percent ≤ 100 →
          0 ≤ pool.maximum → deployment.maxSurge ≤ deployment.maximum) ∧
        (∀ text percent, pool.maxUnavailable = .text text → Percentage percent text.toList →
          percent ≤ 100 → 0 ≤ pool.minimum → deployment.maxUnavailable ≤ deployment.minimum)) ∧
      (pool.zones.length < 0x7FFFFFFF →
        exact32 pool.zones.length = some (pool.zones.length : Int) ∧
        (∀ position : Nat, position ≤ pool.zones.length →
          exact32 (position + 1) = some (position + 1 : Int)) ∧
        ∀ position : Nat, position < pool.zones.length →
          ∀ total ∈ [pool.minimum.toInt, pool.maximum.toInt, surge, unavailable],
            checkedShare position total pool.zones.length =
              some (share position total pool.zones.length)) := by
  obtain ⟨surge, unavailable, hsurge, hunavailable, hdeployments⟩ :=
    deployments_of_pool hplan hpools hzones
  obtain ⟨hsurgeFits, hsurgeStands⟩ := resolve_bound_eq_ok hsurge
  obtain ⟨hunavailableFits, hunavailableStands⟩ := resolve_bound_eq_ok hunavailable
  have hcount : 0 < pool.zones.length := List.length_pos_iff.2 hzones
  have hspread {total : Int} {bound : MachineDeployment → Int32}
      (h : ∀ position deployment, pool.Bounds surge unavailable position deployment →
        share position total pool.zones.length = (bound deployment).toInt) :
      Spreads total ((plan.deploymentsOf before pool).map fun deployment =>
        (bound deployment).toInt) := by
    have hsame : shares total pool.zones.length = _ :=
      map_eq_of_forall₂ (hdeployments.imp fun position deployment hbounds =>
        h position deployment hbounds.2)
    rw [← hsame]
    exact spreads_shares hcount total
  refine ⟨surge, unavailable, hsurgeStands, hunavailableStands, ?_,
    hspread fun _ _ h => h.minimum, hspread fun _ _ h => h.maximum, hspread fun _ _ h => h.maxSurge,
    hspread fun _ _ h => h.maxUnavailable, fun deployment hdeployment => ?_, fun hfew => ?_⟩
  · exact (map_eq_of_forall₂ (hdeployments.imp fun _ _ hbounds => hbounds.1)).symm
  · obtain ⟨number, hnumber⟩ := List.mem_iff_getElem?.1 hdeployment
    obtain ⟨position, hrange, _, hbounds⟩ := getElem?_of_forall₂ hdeployments.flip hnumber
    have hposition : position < pool.zones.length :=
      List.mem_range.1 (List.mem_of_getElem? hrange)
    refine ⟨hbounds.minimum_le_maximum hposition, fun text percent htext hpercent hhigh hmaximum => ?_,
      fun text percent htext hpercent hhigh hminimum => ?_⟩
    · rw [Int32.le_iff_toInt_le] at hmaximum
      rw [htext] at hsurgeStands
      exact hbounds.surge_le_maximum hposition (hsurgeStands.le_reference hpercent hhigh hmaximum)
    · rw [Int32.le_iff_toInt_le] at hminimum
      rw [htext] at hunavailableStands
      exact hbounds.unavailable_le_minimum hposition
        (hunavailableStands.le_reference hpercent hhigh hminimum)
  · have hfits (number : Nat) (hnumber : number < 0x80000000) : Fits 32 number :=
      ⟨by omega, by omega⟩
    refine ⟨if_pos (hfits _ (by omega)), fun position hposition => if_pos ?_,
      fun position hposition total htotal => ?_⟩
    · exact_mod_cast hfits (position + 1) (by omega)
    · refine checked_share_eq (by omega) (by omega) (hfits _ (by omega)) ?_
      simp only [List.mem_cons, List.not_mem_nil, or_false] at htotal
      rcases htotal with rfl | rfl | rfl | rfl
      · exact fits_to_int _
      · exact fits_to_int _
      · exact hsurgeFits
      · exact hunavailableFits

/-- A pool of four to ten machines in three zones, one of them twice, with percentages as bounds. -/
def samplePercentagePool : WorkerPool :=
  { sampleCopyingPool with
    minimum := 4, maximum := 10, maxSurge := .text "25%", maxUnavailable := .text " 50% " }

/-- In the plan for the second sample pool and the pool with percentages, the deployments of the latter
have four and ten machines together at least and at most, and two more and two less for a time, and no
deployment surges by more than its maximum or lacks more than its minimum. -/
theorem sample_bounds_spread :
    ∃ plan, (compile .standard (sampleWorker.withPools [sampleFetchingPool, samplePercentagePool])
        sampleCluster sampleProvider).result = .ok plan ∧
      samplePercentagePool.zones ≠ [] ∧
      Spreads 4 ((plan.deploymentsOf [sampleFetchingPool] samplePercentagePool).map
        (·.minimum.toInt)) ∧
      Spreads 10 ((plan.deploymentsOf [sampleFetchingPool] samplePercentagePool).map
        (·.maximum.toInt)) ∧
      Spreads 2 ((plan.deploymentsOf [sampleFetchingPool] samplePercentagePool).map
        (·.maxSurge.toInt)) ∧
      Spreads 2 ((plan.deploymentsOf [sampleFetchingPool] samplePercentagePool).map
        (·.maxUnavailable.toInt)) ∧
      ∀ deployment ∈ plan.deploymentsOf [sampleFetchingPool] samplePercentagePool,
        deployment.maxSurge ≤ deployment.maximum ∧
        deployment.maxUnavailable ≤ deployment.minimum := by
  have hzones : samplePercentagePool.zones ≠ [] := by decide
  have hok : (compile .standard (sampleWorker.withPools [sampleFetchingPool, samplePercentagePool])
      sampleCluster sampleProvider).result.isOk = true := by decide +kernel
  obtain ⟨plan, hplan⟩ := exists_eq_ok hok
  have hpools : (sampleWorker.withPools [sampleFetchingPool, samplePercentagePool]).spec.pools =
      [sampleFetchingPool] ++ samplePercentagePool :: [] := rfl
  have hquarter : Percentage 25 "25%".toList :=
    ⟨['2', '5'], .unsigned ⟨by decide, by decide⟩, .around [] [] rfl rfl⟩
  have hhalf : Percentage 50 " 50% ".toList :=
    ⟨['5', '0'], .unsigned ⟨by decide, by decide⟩, .around [' '] [' '] (by decide) (by decide)⟩
  obtain ⟨surge, unavailable, hsurge, hunavailable, _, hminimum, hmaximum, hsurges, hunavailables,
    horder, _⟩ := pool_bounds_spread hplan hpools hzones
  obtain rfl : surge = 2 := hsurge.unique (stands_for_of_percentage hquarter 10)
  obtain rfl : unavailable = 2 := hunavailable.unique (stands_for_of_percentage hhalf 4)
  refine ⟨plan, hplan, hzones, hminimum, hmaximum, hsurges, hunavailables, fun deployment hdeployment => ?_⟩
  obtain ⟨_, hsurgeLe, hunavailableLe⟩ := horder deployment hdeployment
  exact ⟨hsurgeLe _ 25 rfl hquarter (by decide) (by decide),
    hunavailableLe _ 50 rfl hhalf (by decide) (by decide)⟩

end MachinePlan

end ShootMachines
