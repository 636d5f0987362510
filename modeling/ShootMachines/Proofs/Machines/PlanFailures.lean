import ShootMachines.Proofs.Kubernetes.QuantityGrammar
import ShootMachines.Proofs.Machines.PlanPools
import ShootMachines.Proofs.Pool.Percentages
import ShootMachines.Proofs.Requirements

/-!
# When a worker has no plan

Everything that the plan of a worker needs stands in two lists of requirements, in the order of the run:
what all pools share (`Worker.requirements`) and what a pool needs (`WorkerPool.requirements`). Each step
of the run settles its part of the lists, so the whole run settles them all: a worker has a plan exactly
if all requirements are met, and otherwise the first one that is not, of the first pool that has no plan
by itself, gives the failure (`MachinePlan.compile_outcome`).
-/

namespace ShootMachines

/-- A cloud profile configuration lists a version of an image. -/
def ProfileConfig.Lists (config : ProfileConfig) (name version : String) : Prop :=
  ∃ images ∈ config.machineImages, images.name = name ∧
    ∃ image ∈ images.versions, image.version = version

namespace Requirement

/-- A provider payload decodes strictly. -/
def decodes (scheme : Scheme) (kind : ProviderKind) (subject : Subject) (payload : Option Payload) :
    Requirement where
  met := ∃ config, scheme.strictDecoder.decode? kind payload = .ok config
  fails failure := ∃ fault, scheme.strictDecoder.decode? kind payload = .error fault ∧
    failure = .decode subject fault

/-- A worker has an SSH key, and it is not empty. -/
def sshKey (worker : Worker) : Requirement :=
  .of (∃ key, worker.spec.sshPublicKey = some key ∧ key ≠ [])
    (.precondition (.missingSshKey worker.metadata.anyName))

/-- A cloud profile has a machine type. -/
def machineType (profile : CloudProfile) (name : String) : Requirement :=
  .of (∃ type ∈ profile.spec.machineTypes, type.name = name)
    (.notFound (.machineType name profile.metadata.anyName))

/-- A version of an image is listed in the configuration of a cloud profile. -/
def image (scheme : Scheme) (profile : CloudProfile) (name version : String) : Requirement :=
  .of (∃ config, scheme.strictDecoder.decode? .profileConfig profile.spec.providerConfig = .ok config ∧
      ProfileConfig.Lists config name version)
    (.notFound (.machineImage name version))

/-- A cloud profile has a volume type. -/
def volumeType (profile : CloudProfile) (name : String) : Requirement :=
  .of (∃ type ∈ profile.spec.volumeTypes, type.name = name)
    (.notFound (.volumeType name profile.metadata.anyName))

/-- A size is a quantity. -/
def quantity (size : String) : Requirement where
  met := Quantity.Written size.toList
  fails failure := ∃ fault, Quantity.Refused size.toList fault ∧
    failure = .precondition (.badVolumeSize size fault)

/-- A volume states a volume type of the cloud profile and a quantity as its size. -/
def volume (profile : CloudProfile) (type : Option String) (size : String) : List Requirement :=
  match type with
  | none => [.of False (.precondition (.volumeWithoutType size))]
  | some name => [volumeType profile name, quantity size]

/-- The volume of a pool can be had; for a pool without one, the machine type comes with storage of some
size. -/
def rootVolume (profile : CloudProfile) (pool : WorkerPool) : List Requirement :=
  match pool.volume with
  | some stated => volume profile stated.type stated.size
  | none =>
      [.of (∃ type storage size,
          profile.spec.machineTypes.find? (fun type => type.name = pool.machineType) = some type ∧
          type.storage = some storage ∧ storage.size = some size)
        (.precondition (.missingRootVolume pool.machineType))]

/-- A bound is a number, or a percentage of 64 bits whose part of a reference count fits 32 bits. -/
def bound (limit : IntOrText) (reference : Int32) : Requirement where
  met := match limit with
    | .int _ => True
    | .text text => ∃ percent, Pool.Percentage percent text.toList ∧ Pool.Fits 64 percent ∧
        Pool.Fits 32 ⌊(reference.toInt * percent : ℚ) / 100⌋
  fails failure := match limit with
    | .int _ => False
    | .text text => ∃ fault, Pool.Unresolvable reference.toInt text.toList fault ∧
        failure = .distribution text fault

end Requirement

open Requirement (AllMet FirstUnmet)

namespace WorkerPool

/-- What a pool has to refer to: its configuration, a machine type, a listed image, and volumes. -/
def references (pool : WorkerPool) (scheme : Scheme) (profile : CloudProfile) : List Requirement :=
  .decodes scheme .workerConfig (.poolConfig pool.name) pool.providerConfig ::
  .machineType profile pool.machineType ::
  .image scheme profile pool.machineImage.name pool.machineImage.version ::
  (Requirement.rootVolume profile pool ++
    pool.dataVolumes.flatMap fun stated => Requirement.volume profile stated.type stated.size)

/-- What a pool needs: all that it refers to, and bounds that can be spread over its zones. -/
def requirements (pool : WorkerPool) (scheme : Scheme) (profile : CloudProfile) : List Requirement :=
  pool.references scheme profile ++
    [.bound pool.maxSurge pool.maximum, .bound pool.maxUnavailable pool.minimum]

/-- A pool has at least one zone, and no more than a 32-bit number can count. -/
def Zoned (pool : WorkerPool) : Prop :=
  pool.zones ≠ [] ∧ pool.zones.length < 0x80000000

instance (pool : WorkerPool) : Decidable pool.Zoned := inferInstanceAs (Decidable (_ ∧ _))

end WorkerPool

/-- What all pools of a worker need: the status of the infrastructure, an SSH key, and the configuration
of the cloud profile. -/
def Worker.requirements (worker : Worker) (scheme : Scheme) (profile : CloudProfile) :
    List Requirement :=
  [.decodes scheme .infrastructureStatus (.infrastructureStatus worker.objectName)
      worker.spec.infrastructureStatus,
    .sshKey worker,
    .decodes scheme .profileConfig (.profileConfig profile.metadata.anyName)
      profile.spec.providerConfig]

/-- Decoding a section of a resource needs a payload that decodes strictly. -/
theorem decode_section_settles (scheme : Scheme) (kind : ProviderKind) (subject : Subject)
    (payload : Option Payload) :
    Settles (decodeSection scheme.strictDecoder kind subject payload)
      [.decodes scheme kind subject payload] := by
  unfold decodeSection Requirement.decodes
  cases scheme.strictDecoder.decode? kind payload with
  | error fault => constructor <;> simp [Except.mapError, eq_comm]
  | ok config => constructor <;> simp [Except.mapError]

/-- Taking the SSH key of a worker needs a key. -/
theorem Worker.ssh_key_settles (worker : Worker) : Settles worker.sshKey [.sshKey worker] := by
  unfold Worker.sshKey
  split
  · rename_i byte key hkey
    exact .of_met ⟨byte :: key, hkey, List.cons_ne_nil byte key⟩
  · rename_i hnone
    refine .of_unmet ?_
    rintro ⟨key, hkey, hne⟩
    obtain ⟨byte, rest, rfl⟩ := List.exists_cons_of_ne_nil hne
    exact hnone byte rest hkey

/-- Reading a size needs a quantity. -/
theorem quantity_settles (size storageClass : String) :
    Settles (match Quantity.parse size with
      | .ok quantity => .ok (storageClass, quantity)
      | .error fault => .error (.precondition (.badVolumeSize size fault))) [.quantity size] := by
  unfold Requirement.quantity
  simp only [← Quantity.exists_parse_eq_ok_iff, ← Quantity.parse_eq_error_iff]
  cases Quantity.parse size with
  | error fault => constructor <;> simp [eq_comm]
  | ok quantity => constructor <;> simp

namespace CloudProfile

variable (profile : CloudProfile) (name : String)

/-- Choosing a machine type needs one with the name. -/
theorem machine_type_settles : Settles (profile.machineType name) [.machineType profile name] := by
  unfold machineType
  exact .of_find (fun type hfind => ⟨type, by rw [hfind]⟩) fun hnone => by rw [hnone]

/-- Choosing a volume type needs one with the name. -/
theorem volume_type_settles : Settles (profile.volumeType name) [.volumeType profile name] := by
  unfold volumeType
  exact .of_find (fun type hfind => ⟨type, by rw [hfind]⟩) fun hnone => by rw [hnone]

/-- A chosen machine type is the first one with the name. -/
theorem find_of_machine_type {type : MachineType} (h : profile.machineType name = .ok type) :
    profile.spec.machineTypes.find? (fun type => type.name = name) = some type := by
  unfold machineType at h
  split at h
  · rename_i found hfind
    obtain rfl := Except.ok.inj h
    exact hfind
  · cases h

/-- Choosing storage needs a volume type and a size. -/
theorem storage_settles (type : Option String) (size : String) :
    Settles (profile.storage type size) (Requirement.volume profile type size) := by
  cases type with
  | none => exact .of_unmet not_false
  | some name =>
      exact (profile.volume_type_settles name).cons fun type _ =>
        quantity_settles size type.storageClass

end CloudProfile

/-- An image has a version of a name exactly if the configuration lists it. -/
theorem ProfileConfig.exists_version_iff {config : ProfileConfig} {name version : String} :
    (∃ image ∈ config.versionsOf name, image.version = version) ↔ config.Lists name version := by
  simp only [ProfileConfig.versionsOf, ProfileConfig.Lists, List.mem_flatMap, List.mem_filter,
    decide_eq_true_eq]
  constructor
  · rintro ⟨image, ⟨images, ⟨himages, hname⟩, himage⟩, hversion⟩
    exact ⟨images, himages, hname, image, himage, hversion⟩
  · rintro ⟨images, himages, hname, image, himage, hversion⟩
    exact ⟨image, ⟨images, ⟨himages, hname⟩, himage⟩, hversion⟩

/-- Choosing the image of a pool needs its version in the configuration of the cloud profile. -/
theorem image_url_settles {scheme : Scheme} {profile : CloudProfile} {config : ProfileConfig}
    (hconfig : scheme.profileConfig profile = .ok config) (name version : String) :
    Settles (config.imageUrl name version) [.image scheme profile name version] := by
  have hdecode : scheme.strictDecoder.decode? .profileConfig profile.spec.providerConfig =
      .ok config := map_error_eq_ok_iff.1 hconfig
  have hlisted : Requirement.image scheme profile name version =
      .of (∃ image ∈ config.versionsOf name, image.version = version)
        (.notFound (.machineImage name version)) := by
    unfold Requirement.image
    rw [hdecode, ProfileConfig.exists_version_iff]
    simp only [Except.ok.injEq, exists_eq_left']
  rw [hlisted]
  unfold ProfileConfig.imageUrl
  exact .of_find (fun image hfind => ⟨image.sourceUrl, by rw [hfind]⟩) fun hnone => by rw [hnone]

/-- Resolving a bound needs a number, or a percentage that can be resolved. -/
theorem resolve_bound_settles (limit : IntOrText) (reference : Int32) :
    Settles (Pool.resolveBound limit reference) [.bound limit reference] := by
  unfold Pool.resolveBound Requirement.bound
  cases limit with
  | int total => constructor <;> simp
  | text text =>
      simp only [← Pool.exists_resolve_percentage_eq_ok_iff, ← Pool.resolve_percentage_eq_error_iff]
      cases Pool.resolvePercentage text.toList reference.toInt with
      | error fault => constructor <;> simp [eq_comm]
      | ok total => constructor <;> simp

/-- The share of a zone in a bound needs what the bound needs. -/
theorem bound_share_settles (zone : Int) (limit : IntOrText) (zones : Int) (reference : Int32) :
    Settles (Pool.boundShare zone limit zones reference) [.bound limit reference] :=
  (resolve_bound_settles limit reference).bind_pure

namespace WorkerPool

variable {profile : CloudProfile} {type : MachineType}

/-- Choosing the storage of root volumes needs the volume of the pool, or else storage of its machine
type. -/
theorem root_storage_settles (pool : WorkerPool)
    (htype : profile.machineType pool.machineType = .ok type) :
    Settles (pool.rootStorage profile type) (Requirement.rootVolume profile pool) := by
  unfold rootStorage Requirement.rootVolume
  cases pool.volume with
  | some stated => exact profile.storage_settles stated.type stated.size
  | none =>
      have hfind := profile.find_of_machine_type _ htype
      have hname : type.name = pool.machineType := by
        simpa using List.find?_some hfind
      dsimp only
      split
      · rename_i found hfound
        obtain ⟨storage, hstorage, hfound⟩ := Option.bind_eq_some_iff.1 hfound
        obtain ⟨size, hsize, _⟩ := Option.map_eq_some_iff.1 hfound
        exact .of_met ⟨type, storage, size, hfind, hstorage, hsize⟩
      · rename_i hnone
        rw [hname]
        refine .of_unmet ?_
        rintro ⟨same, storage, size, hsame, hstorage, hsize⟩
        obtain rfl := Option.some.inj (hfind.symm.trans hsame)
        rw [hstorage, Option.bind_some, hsize] at hnone
        cases hnone

/-- Choosing the additional volumes of a pool needs the volume of each. -/
theorem additional_volumes_settle (pool : WorkerPool) (profile : CloudProfile) :
    Settles (pool.additionalVolumes profile)
      (pool.dataVolumes.flatMap fun stated =>
        Requirement.volume profile stated.type stated.size) :=
  .map_m fun stated _ => (profile.storage_settles stated.type stated.size).bind_pure

end WorkerPool

namespace Setting

variable {setting : Setting}

/-- Resolving a pool needs all that the pool refers to. -/
theorem resolve_settles
    (hprofile : setting.scheme.profileConfig setting.cluster.cloudProfile = .ok setting.profileConfig)
    (pool : WorkerPool) :
    Settles (setting.resolve pool).result
      (pool.references setting.scheme setting.cluster.cloudProfile) := by
  unfold resolve
  simp only [Run.result_bind, Run.result_lift, Run.result_debug, Run.result_pure, ok_bind]
  refine (decode_section_settles ..).cons fun config _ => ?_
  refine (CloudProfile.machine_type_settles ..).cons fun type htype => ?_
  refine (image_url_settles hprofile ..).cons fun url _ => ?_
  refine (pool.root_storage_settles htype).bind fun storage _ => ?_
  exact (pool.additional_volumes_settle _).bind_pure

end Setting

namespace ResolvedPool

/-- Planning a zone needs bounds that can be spread. -/
theorem zone_plan_settles (resolved : ResolvedPool) (setting : Setting) (zone : String × Nat) :
    Settles (resolved.zonePlan setting zone)
      [.bound resolved.pool.maxSurge resolved.pool.maximum,
        .bound resolved.pool.maxUnavailable resolved.pool.minimum] := by
  unfold zonePlan deployment
  rw [bind_assoc]
  refine (bound_share_settles ..).cons fun surge _ => ?_
  rw [bind_assoc]
  exact (bound_share_settles ..).bind_pure

end ResolvedPool

/-- Planning a pool with zones needs what the pool needs. -/
theorem Setting.pool_plan_settles {setting : Setting} {pool : WorkerPool}
    (hprofile : setting.scheme.profileConfig setting.cluster.cloudProfile = .ok setting.profileConfig)
    (hzoned : pool.Zoned) :
    Settles (setting.poolPlan pool).result
      ((pool.requirements setting.scheme setting.cluster.cloudProfile).map (.inPool pool.name)) := by
  unfold poolPlan
  rw [Run.result_mapFailure]
  refine Settles.in_pool ?_ pool.name
  rw [Run.result_bind]
  refine (resolve_settles hprofile pool).bind fun resolved hresolved => ?_
  have hpool := (resolves_of_resolve hresolved).pool_eq
  rw [if_neg (Nat.not_le.2 hzoned.2)]
  simp only [Run.result_bind, Run.result_lift, Run.result_debug, Run.result_pure, ok_bind]
  subst hpool
  have hzones : resolved.pool.zones.zipIdx ≠ [] := by simpa using hzoned.1
  exact (Settles.map_m_same hzones fun zone _ => resolved.zone_plan_settles setting zone).bind_pure

/-- What the pools of a worker share needs the requirements of the worker. -/
theorem Setting.of_settles (scheme : Scheme) (worker : Worker) (cluster : Cluster)
    (provider : ProviderCluster) :
    Settles (Setting.of scheme worker cluster provider)
      (worker.requirements scheme cluster.cloudProfile) := by
  unfold Setting.of
  refine (decode_section_settles ..).cons fun status _ => ?_
  rw [convert_config_eq, ok_bind]
  refine worker.ssh_key_settles.cons fun sshKey _ => ?_
  exact (decode_section_settles ..).bind_pure

namespace Requirement

variable {profile : CloudProfile}

/-- A payload that does not decode is reported without a pool. -/
theorem bare_decodes {scheme : Scheme} {kind : ProviderKind} {subject : Subject}
    {payload : Option Payload} : (decodes scheme kind subject payload).Bare := by
  rintro _ ⟨fault, _, rfl⟩
  rfl

/-- A volume is reported without a pool. -/
theorem bare_of_volume {type : Option String} {size : String} :
    ∀ requirement ∈ volume profile type size, requirement.Bare := by
  cases type with
  | none => exact List.forall_mem_singleton.2 (bare_of rfl)
  | some name =>
      refine List.forall_mem_cons.2 ⟨bare_of rfl, List.forall_mem_singleton.2 ?_⟩
      rintro _ ⟨fault, _, rfl⟩
      rfl

/-- A root volume is reported without a pool. -/
theorem bare_of_root_volume {pool : WorkerPool} :
    ∀ requirement ∈ rootVolume profile pool, requirement.Bare := by
  unfold rootVolume
  cases pool.volume with
  | none => exact List.forall_mem_singleton.2 (bare_of rfl)
  | some stated => exact bare_of_volume

/-- A bound is reported without a pool. -/
theorem bare_bound {limit : IntOrText} {reference : Int32} : (bound limit reference).Bare := by
  cases limit with
  | int value => exact fun _ => False.elim
  | text text =>
      rintro _ ⟨fault, _, rfl⟩
      rfl

end Requirement

/-- What a pool needs is reported without the pool. -/
theorem WorkerPool.bare_of_requirements {pool : WorkerPool} {scheme : Scheme}
    {profile : CloudProfile} :
    ∀ requirement ∈ pool.requirements scheme profile, requirement.Bare := by
  unfold requirements references
  simp only [List.forall_mem_append, List.forall_mem_cons, List.forall_mem_flatMap]
  exact ⟨⟨Requirement.bare_decodes, Requirement.bare_of rfl, Requirement.bare_of rfl,
      Requirement.bare_of_root_volume, fun _ _ => Requirement.bare_of_volume⟩,
    Requirement.bare_bound, Requirement.bare_bound, fun _ h => absurd h List.not_mem_nil⟩

namespace MachinePlan

variable {scheme : Scheme} {worker : Worker} {cluster : Cluster} {provider : ProviderCluster}

/-- Planning pools with zones needs what all of them share, and then what each of them needs. -/
theorem of_pools_settles {pools : List WorkerPool} (hzoned : ∀ pool ∈ pools, pool.Zoned) :
    Settles (ofPools scheme worker cluster provider pools)
      (worker.requirements scheme cluster.cloudProfile ++ pools.flatMap fun pool =>
        (pool.requirements scheme cluster.cloudProfile).map (.inPool pool.name)) := by
  rw [of_pools_eq]
  refine (Setting.of_settles ..).bind fun setting hsetting => ?_
  obtain ⟨rfl, _, rfl, _, hprofile, _⟩ := setting_of_eq_ok hsetting
  exact (Settles.map_m fun pool hpool =>
    Setting.pool_plan_settles hprofile (hzoned pool hpool)).bind_pure

/-- A pool with zones has a plan by itself exactly if what all pools share is met and what the pool
needs. -/
theorem of_pool_eq_ok_iff {pool : WorkerPool} (hzoned : pool.Zoned) :
    (∃ plan, ofPools scheme worker cluster provider [pool] = .ok plan) ↔
      AllMet (worker.requirements scheme cluster.cloudProfile) ∧
        AllMet (pool.requirements scheme cluster.cloudProfile) := by
  rw [(of_pools_settles (List.forall_mem_singleton.2 hzoned)).ok_iff]
  simp

/-- If what all pools share is met, the first thing that a pool with zones lacks is the failure of its plan
by itself, reported with the pool. -/
theorem of_pool_eq_error {pool : WorkerPool} {cause : Failure} (hzoned : pool.Zoned)
    (hshared : AllMet (worker.requirements scheme cluster.cloudProfile))
    (h : FirstUnmet (pool.requirements scheme cluster.cloudProfile) cause) :
    ofPools scheme worker cluster provider [pool] = .error (.pool pool.name cause) := by
  rw [(of_pools_settles (List.forall_mem_singleton.2 hzoned)).error_iff]
  simp [hshared, h]

/-- A worker whose pools have zones has a plan exactly if all is met that its pools share and that each
pool needs. Otherwise the first thing that is not met gives the failure. What the pools share comes first,
and then come the pools: the failure is that of the first pool that has no plan by itself, and it is
reported with that pool, the failure itself being its root. -/
theorem compile_outcome (hzoned : ∀ pool ∈ worker.spec.pools, pool.Zoned) :
    ((∃ plan, (compile scheme worker cluster provider).result = .ok plan) ↔
      AllMet (worker.requirements scheme cluster.cloudProfile) ∧
        ∀ pool ∈ worker.spec.pools, AllMet (pool.requirements scheme cluster.cloudProfile)) ∧
    ∀ failure, (compile scheme worker cluster provider).result = .error failure ↔
      FirstUnmet (worker.requirements scheme cluster.cloudProfile) failure ∨
      AllMet (worker.requirements scheme cluster.cloudProfile) ∧
        ∃ before pool after cause, worker.spec.pools = before ++ pool :: after ∧
          (∀ earlier ∈ before, ∃ plan, ofPools scheme worker cluster provider [earlier] = .ok plan) ∧
          ofPools scheme worker cluster provider [pool] = .error failure ∧
          FirstUnmet (pool.requirements scheme cluster.cloudProfile) cause ∧
          failure = .pool pool.name cause ∧ failure.root = cause := by
  have hsettles : Settles (compile scheme worker cluster provider).result _ := of_pools_settles hzoned
  refine ⟨?_, fun failure => ?_⟩
  · rw [hsettles.ok_iff, Requirement.all_met_append, Requirement.all_met_flat_map]
    simp only [Requirement.all_met_map_in_pool]
  · rw [hsettles.error_iff, Requirement.first_unmet_append, Requirement.first_unmet_flat_map]
    simp only [Requirement.all_met_map_in_pool, Requirement.first_unmet_map_in_pool]
    refine or_congr_right (and_congr_right fun hshared => ?_)
    constructor
    · rintro ⟨before, pool, after, hpools, hbefore, cause, hcause, rfl⟩
      have hmem : ∀ other ∈ before ++ pool :: after, other.Zoned := hpools ▸ hzoned
      refine ⟨before, pool, after, cause, hpools, fun earlier hearlier => ?_, ?_, hcause, rfl, ?_⟩
      · exact (of_pool_eq_ok_iff (hmem earlier (List.mem_append_left _ hearlier))).2
          ⟨hshared, hbefore earlier hearlier⟩
      · have hpool : pool.Zoned := hmem pool (List.mem_append_right _ List.mem_cons_self)
        exact of_pool_eq_error hpool hshared hcause
      · exact hcause.root_eq WorkerPool.bare_of_requirements
    · rintro ⟨before, pool, after, cause, hpools, hbefore, _, hcause, rfl, _⟩
      have hmem : ∀ other ∈ before ++ pool :: after, other.Zoned := hpools ▸ hzoned
      refine ⟨before, pool, after, hpools, fun earlier hearlier => ?_, cause, hcause, rfl⟩
      exact ((of_pool_eq_ok_iff (hmem earlier (List.mem_append_left _ hearlier))).1
        (hbefore earlier hearlier)).2

/-- A pool whose volume states no type, with a bound that is no percentage. -/
def sampleUntypedPool : WorkerPool :=
  { sampleFetchingPool with volume := some ⟨none, none, "20Gi"⟩, maxSurge := .text "some" }

/-- A worker with a pool that can be planned and two that cannot. -/
def sampleFaultyWorker : Worker :=
  sampleWorker.withPools
    [sampleCopyingPool, sampleUntypedPool, { sampleCopyingPool with machineType := "none" }]

/-- A pool with a bound that is no percentage. -/
def sampleUnboundPool : WorkerPool :=
  { sampleFetchingPool with maxSurge := .text "some" }

/-- A worker with a pool that can be planned and one whose bound cannot be spread. -/
def sampleUnboundWorker : Worker :=
  sampleWorker.withPools [sampleCopyingPool, sampleUnboundPool]

/-- The second pool of each sample worker gives the failure. That of the first worker gives it with its
volume: its bound is looked at later, and the machine type of the third pool not at all. That of the other
worker has all that it refers to and gives it with its bound. -/
theorem sample_workers_without_plan :
    ((∀ pool ∈ sampleFaultyWorker.spec.pools, pool.Zoned) ∧
      (compile .standard sampleFaultyWorker sampleCluster sampleProvider).result =
        .error (.pool "pool-z1" (.precondition (.volumeWithoutType "20Gi")))) ∧
    (∀ pool ∈ sampleUnboundWorker.spec.pools, pool.Zoned) ∧
      (compile .standard sampleUnboundWorker sampleCluster sampleProvider).result =
        .error (.pool "pool-z1" (.distribution "some" .notPercentage)) := by
  have hfaulty : ∀ pool ∈ sampleFaultyWorker.spec.pools, pool.Zoned := by decide
  have hunbound : ∀ pool ∈ sampleUnboundWorker.spec.pools, pool.Zoned := by decide
  have hcopying : ∃ plan, ofPools .standard sampleWorker sampleCluster sampleProvider
      [sampleCopyingPool] = .ok plan := exists_eq_ok (by decide +kernel)
  have hfetching : ∃ plan, ofPools .standard sampleWorker sampleCluster sampleProvider
      [sampleFetchingPool] = .ok plan := exists_eq_ok (by decide +kernel)
  -- But for a volume and a bound, the second pools are one that can be planned.
  obtain ⟨hshared, hneeds⟩ := (of_pool_eq_ok_iff (by decide)).1 hfetching
  obtain ⟨hreferences, _⟩ := Requirement.all_met_append.1 hneeds
  obtain ⟨hconfig, htype, himage, _⟩ := by
    simpa only [WorkerPool.references, Requirement.all_met_cons] using hreferences
  have huntyped : FirstUnmet (sampleUntypedPool.requirements .standard sampleCluster.cloudProfile)
      (.precondition (.volumeWithoutType "20Gi")) :=
    .later hconfig (.later htype (.later himage (.here ⟨not_false, rfl⟩)))
  have hpercentage : Pool.Unresolvable sampleUnboundPool.maximum.toInt "some".toList
      .notPercentage :=
    .notPercentage (mt Pool.drop_percent_is_some_iff.2 (by decide))
  have hbound : FirstUnmet (sampleUnboundPool.requirements .standard sampleCluster.cloudProfile)
      (.distribution "some" .notPercentage) :=
    Requirement.first_unmet_append.2 (.inr ⟨hreferences, .here ⟨_, hpercentage, rfl⟩⟩)
  refine ⟨⟨hfaulty, ((compile_outcome hfaulty).2 _).2 (.inr ⟨hshared, [sampleCopyingPool],
      sampleUntypedPool, _, _, rfl, List.forall_mem_singleton.2 hcopying, ?_, huntyped, rfl, rfl⟩)⟩,
    hunbound, ((compile_outcome hunbound).2 _).2 (.inr ⟨hshared, [sampleCopyingPool],
      sampleUnboundPool, _, _, rfl, List.forall_mem_singleton.2 hcopying, ?_, hbound, rfl, rfl⟩)⟩
  · exact of_pool_eq_error (by decide) hshared huntyped
  · exact of_pool_eq_error (by decide) hshared hbound

end MachinePlan

end ShootMachines
