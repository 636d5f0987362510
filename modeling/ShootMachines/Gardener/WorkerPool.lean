import ShootMachines.Gardener.Reference
import ShootMachines.Gardener.Volume
import ShootMachines.Kubernetes.Taint

/-!
# Worker pools

A worker pool is a named group of nodes that share machine type, volumes and scaling bounds, spread
over zones.
-/

namespace ShootMachines

/-- Settings handed through to the controller that manages the machines. -/
structure MachineSettings where
  drainTimeout : Option String
  healthTimeout : Option String
  creationTimeout : Option String
  maxEvictRetries : Option Int32
  nodeConditions : Option (List String)
  deriving DecidableEq, Repr

/-- Every setting may be missing. -/
def MachineSettings.schema : Schema MachineSettings :=
  .ofParts .flexible
    (.optional "machineDrainTimeout" .text <|
      .optional "machineHealthTimeout" .text <|
      .optional "machineCreationTimeout" .text <|
      .optional "maxEvictRetries" .int32 <|
      .optional "nodeConditions" (.list .text) .nil)
    (fun (drainTimeout, healthTimeout, creationTimeout, maxEvictRetries, nodeConditions, ()) =>
      ⟨drainTimeout, healthTimeout, creationTimeout, maxEvictRetries, nodeConditions⟩)
    (fun settings =>
      (settings.drainTimeout, settings.healthTimeout, settings.creationTimeout,
        settings.maxEvictRetries, settings.nodeConditions, ()))

/-- A worker pool of a worker. -/
structure WorkerPool where
  name : String
  machineType : String
  machineImage : ImageReference
  minimum : Int32
  maximum : Int32
  maxSurge : IntOrText
  maxUnavailable : IntOrText
  annotations : Dict String
  labels : Dict String
  taints : List Taint
  userData : Option Bytes
  volume : Option Volume
  dataVolumes : List DataVolume
  zones : List String
  providerConfig : Option Payload
  kubernetesVersion : Option String
  machineSettings : Option MachineSettings

/-- A pool states its machines, its bounds and its zones. -/
def WorkerPool.schema : Schema WorkerPool :=
  .ofParts .flexible
    (.required "name" .text <|
      .required "machineType" .text <|
      .required "machineImage" ImageReference.schema <|
      .required "minimum" .int32 <|
      .required "maximum" .int32 <|
      .required "maxSurge" .intOrText <|
      .required "maxUnavailable" .intOrText <|
      .default "annotations" (.dict .text) .empty <|
      .default "labels" (.dict .text) .empty <|
      .default "taints" (.list Taint.schema) [] <|
      .optional "userData" .bytes <|
      .optional "volume" Volume.schema <|
      .default "dataVolumes" (.list DataVolume.schema) [] <|
      .required "zones" (.list .text) <|
      .optional "providerConfig" .payload <|
      .optional "kubernetesVersion" .text <|
      .optional "machineControllerManagerSettings" MachineSettings.schema .nil)
    (fun (name, machineType, machineImage, minimum, maximum, maxSurge, maxUnavailable, annotations,
        labels, taints, userData, volume, dataVolumes, zones, providerConfig, kubernetesVersion,
        machineSettings, ()) =>
      ⟨name, machineType, machineImage, minimum, maximum, maxSurge, maxUnavailable, annotations,
        labels, taints, userData, volume, dataVolumes, zones, providerConfig, kubernetesVersion,
        machineSettings⟩)
    (fun pool =>
      (pool.name, pool.machineType, pool.machineImage, pool.minimum, pool.maximum, pool.maxSurge,
        pool.maxUnavailable, pool.annotations, pool.labels, pool.taints, pool.userData, pool.volume,
        pool.dataVolumes, pool.zones, pool.providerConfig, pool.kubernetesVersion,
        pool.machineSettings, ()))

end ShootMachines
