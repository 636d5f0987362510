import ShootMachines.Credentials.ProviderCluster
import ShootMachines.Machines.Plan
import ShootMachines.Pool.Catalog
import ShootMachines.Pool.Distribution
import ShootMachines.Pool.Hash
import ShootMachines.Provider.Section
import ShootMachines.Trace

/-!
# Plans of worker pools

A pool is resolved against the cloud profile first. Every zone then gives one machine class and one
machine deployment, both named after namespace, pool and position of the zone; the name of the class
also carries the hash of the pool. Unless a pool asks otherwise, its image is fetched once per class
into a volume of its own, and root volumes are copies of that.
-/

namespace ShootMachines

/-- What the pools of a worker share. -/
structure Setting where
  scheme : Scheme
  worker : Worker
  cluster : Cluster
  provider : ProviderCluster
  profileConfig : ProfileConfig
  networks : List NetworkStatus
  networkTokens : List String
  sshKey : String

/-- The namespace of the worker. -/
def Setting.space (setting : Setting) : String :=
  setting.worker.metadata.anySpace

/-- A pool with all that it refers to. -/
structure ResolvedPool where
  pool : WorkerPool
  config : WorkerConfig
  hash : String
  imageUrl : String
  resources : MachineResources
  rootStorage : String × Quantity
  additionalVolumes : List AdditionalVolume

/-- The class and the deployment of a zone, and the volume that the class needs. -/
structure ZonePlan where
  machineClass : MachineClass
  deployment : MachineDeployment
  volume : Option MachineVolume
  deriving DecidableEq

/-- The zones of a pool, and the image of its machines. -/
structure PoolPlan where
  image : MachineImage
  zones : List ZonePlan
  deriving DecidableEq

namespace WorkerPool

/-- The image of the machines of a pool. -/
def image (pool : WorkerPool) (url : String) : MachineImage :=
  ⟨pool.machineImage.name, pool.machineImage.version, url⟩

/-- The storage class and the size of root volumes: of the pool's volume, else of the storage that
comes with the machine type. -/
def rootStorage (pool : WorkerPool) (profile : CloudProfile) (type : MachineType) :
    Except Failure (String × Quantity) :=
  match pool.volume with
  | some volume => profile.storage volume.type volume.size
  | none =>
      match type.storage.bind fun storage => storage.size.map (storage.storageClass, ·) with
      | some storage => .ok storage
      | none => .error (.precondition (.missingRootVolume type.name))

/-- The additional volume of a data volume: an empty one. -/
def additionalVolume (profile : CloudProfile) (volume : DataVolume) :
    Except Failure AdditionalVolume := do
  let (storageClass, size) ← profile.storage volume.type volume.size
  return ⟨volume.name, .ofSize storageClass size .blank⟩

/-- The additional volumes of a pool, one for each data volume. -/
def additionalVolumes (pool : WorkerPool) (profile : CloudProfile) :
    Except Failure (List AdditionalVolume) :=
  pool.dataVolumes.mapM (additionalVolume profile)

end WorkerPool

/-- The limits that are not empty. -/
def ResourceLimits.quantities (limits : ResourceLimits) : Dict Quantity :=
  .ofList ([("cpu", limits.cpu), ("memory", limits.memory)].filter fun limit =>
    !limit.2.text.isEmpty)

/-- The limits that the provider sets for a machine type, if there are any. -/
def ProfileConfig.limits? (config : ProfileConfig) (type : String) : Option (Dict Quantity) :=
  (((config.extension? type).bind MachineTypeExtension.limits).map ResourceLimits.quantities).filter
    fun limits => limits.size ≠ 0

/-- What the machines of a type ask for. -/
def MachineType.requests (type : MachineType) : Dict Quantity :=
  (Dict.empty.insert "cpu" type.cpu).insert "memory" type.memory

namespace Setting

/-- Resolve all that a pool refers to. -/
def resolve (setting : Setting) (pool : WorkerPool) : Traced ResolvedPool := do
  let profile := setting.cluster.cloudProfile
  let config ← setting.scheme.poolConfig pool
  let type ← profile.machineType pool.machineType
  let hash := Pool.hash pool setting.worker setting.cluster setting.networkTokens
  .debug ("Worker pool " ++ pool.name ++ " has hash " ++ hash)
  let imageUrl ← setting.profileConfig.imageUrl pool.machineImage.name pool.machineImage.version
  let rootStorage ← pool.rootStorage profile type
  let additionalVolumes ← pool.additionalVolumes profile
  return {
    pool := pool
    config := config
    hash := hash
    imageUrl := imageUrl
    resources := ⟨type.requests, setting.profileConfig.limits? type.name,
      config.overcommitGuestOverhead⟩
    rootStorage := rootStorage
    additionalVolumes := additionalVolumes }

end Setting

/-- The name of the deployment of a zone, by its position. -/
def deploymentName (space pool : String) (zone : Nat) : String :=
  space ++ "-" ++ pool ++ "-z" ++ toString (zone + 1)

/-- The name of the class of a deployment. -/
def className (deployment hash : String) : String :=
  deployment ++ "-" ++ hash

namespace ResolvedPool

/-- The root volume whose content is the image of the pool. -/
def imageVolume (resolved : ResolvedPool) : MachineVolume :=
  .ofSize resolved.rootStorage.1 resolved.rootStorage.2 (.image resolved.imageUrl)

/-- The volume that a class needs for root volumes to be copied from, unless the pool asks
otherwise. -/
def classVolume (resolved : ResolvedPool) : Option MachineVolume :=
  if resolved.config.disablePreAllocation then none else some resolved.imageVolume

/-- The root volume of the machines of a class. -/
def rootVolume (resolved : ResolvedPool) (provider : ProviderCluster) (name : String) :
    MachineVolume :=
  if resolved.config.disablePreAllocation then resolved.imageVolume
  else .ofSize resolved.rootStorage.1 resolved.rootStorage.2 (.clone provider.space name)

/-- The text that machines are set up with. -/
def cloudConfig (resolved : ResolvedPool) : String :=
  (resolved.pool.userData.map Utf8.decodeLossy).getD ""

/-- The machine class with a name for a zone. -/
def machineClass (resolved : ResolvedPool) (setting : Setting) (zone name : String) :
    MachineClass where
  name := name
  region := setting.worker.spec.region
  zone := zone
  resources := resolved.resources
  devices := resolved.config.devices
  rootVolume := resolved.rootVolume setting.provider name
  additionalVolumes := resolved.additionalVolumes
  sshKeys := [setting.sshKey]
  networks := setting.networks
  cpu := resolved.config.cpu
  memory := resolved.config.memory
  dnsPolicy := resolved.config.dnsPolicy
  dnsConfig := resolved.config.dnsConfig
  tags := MachineClass.tagsOf setting.space name
  secret := ⟨resolved.cloudConfig, setting.provider.kubeconfig⟩

/-- The machine deployment of the zone at a position, for a class. -/
def deployment (resolved : ResolvedPool) (zone : Nat) (name className : String) :
    Except Failure MachineDeployment := do
  let pool := resolved.pool
  let zones := pool.zones.length
  let maxSurge ← Pool.boundShare zone pool.maxSurge zones pool.maximum
  let maxUnavailable ← Pool.boundShare zone pool.maxUnavailable zones pool.minimum
  return {
    name := name
    className := className
    secretName := className
    minimum := Int32.ofInt (Pool.share zone pool.minimum.toInt zones)
    maximum := Int32.ofInt (Pool.share zone pool.maximum.toInt zones)
    maxSurge := maxSurge
    maxUnavailable := maxUnavailable
    labels := pool.labels
    annotations := pool.annotations
    taints := pool.taints
    configuration := pool.machineSettings.map .ofSettings }

/-- The plan of the zone at a position. -/
def zonePlan (resolved : ResolvedPool) (setting : Setting) (zone : String × Nat) :
    Except Failure ZonePlan := do
  let name := deploymentName setting.space resolved.pool.name zone.2
  let machineClass := className name resolved.hash
  let deployment ← resolved.deployment zone.2 name machineClass
  return ⟨resolved.machineClass setting zone.1 machineClass, deployment, resolved.classVolume⟩

/-- The plans of the zones of a pool, in order. -/
def zonePlans (resolved : ResolvedPool) (setting : Setting) : Except Failure (List ZonePlan) :=
  resolved.pool.zones.zipIdx.mapM (resolved.zonePlan setting)

end ResolvedPool

/-- The plan of a pool. A failure is reported with the name of the pool. -/
def Setting.poolPlan (setting : Setting) (pool : WorkerPool) : Traced PoolPlan :=
  Run.mapFailure (.pool pool.name) do
    let resolved ← setting.resolve pool
    if pool.zones.length ≥ 0x80000000 then .fail (.precondition (.tooManyZones pool.name))
    let zones ← resolved.zonePlans setting
    .debug ("Worker pool " ++ pool.name ++ " compiled into " ++ toString pool.zones.length ++
      " zones")
    return ⟨pool.image resolved.imageUrl, zones⟩

namespace MachinePlan

/-- The plan with the machines of one more pool. -/
def addPool (plan : MachinePlan) (pool : PoolPlan) : MachinePlan where
  classes := plan.classes ++ pool.zones.map ZonePlan.machineClass
  deployments := plan.deployments ++ pool.zones.map ZonePlan.deployment
  images := appendImage plan.images pool.image
  volumes := pool.zones.foldl (fun volumes zone =>
    match zone.volume with
    | some volume => volumes.insert zone.machineClass.name volume
    | none => volumes) plan.volumes

end MachinePlan

end ShootMachines
