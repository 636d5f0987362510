import ShootMachines.Gardener.WorkerPool

/-!
# Machine deployments

A machine deployment bounds the number of machines of a class in a zone of a worker pool.
-/

namespace ShootMachines

/-- Settings of a deployment for the controller that manages its machines. The node conditions are
one text, separated by commas. -/
structure MachineConfiguration where
  drainTimeout : Option String
  healthTimeout : Option String
  creationTimeout : Option String
  maxEvictRetries : Option Int32
  nodeConditions : Option String
  deriving DecidableEq, Repr

namespace MachineConfiguration

/-- Every setting may be missing. -/
def schema : Schema MachineConfiguration :=
  .ofParts .flexible
    (.optional "machineDrainTimeout" .text <|
      .optional "machineHealthTimeout" .text <|
      .optional "machineCreationTimeout" .text <|
      .optional "maxEvictRetries" .int32 <|
      .optional "nodeConditions" .text .nil)
    (fun (drainTimeout, healthTimeout, creationTimeout, maxEvictRetries, nodeConditions, ()) =>
      ⟨drainTimeout, healthTimeout, creationTimeout, maxEvictRetries, nodeConditions⟩)
    (fun configuration =>
      (configuration.drainTimeout, configuration.healthTimeout, configuration.creationTimeout,
        configuration.maxEvictRetries, configuration.nodeConditions, ()))

/-- The configuration that the settings of a pool stand for. -/
def ofSettings (settings : MachineSettings) : MachineConfiguration where
  drainTimeout := settings.drainTimeout
  healthTimeout := settings.healthTimeout
  creationTimeout := settings.creationTimeout
  maxEvictRetries := settings.maxEvictRetries
  nodeConditions := settings.nodeConditions.map (",".intercalate ·)

end MachineConfiguration

/-- The machines of a zone of a worker pool. -/
structure MachineDeployment where
  name : String
  className : String
  secretName : String
  minimum : Int32
  maximum : Int32
  maxSurge : Int32
  maxUnavailable : Int32
  labels : Dict String
  annotations : Dict String
  taints : List Taint
  configuration : Option MachineConfiguration
  deriving DecidableEq

/-- Labels, annotations, taints and configuration may be missing. -/
def MachineDeployment.schema : Schema MachineDeployment :=
  .ofParts .flexible
    (.required "name" .text <|
      .required "className" .text <|
      .required "secretName" .text <|
      .required "minimum" .int32 <|
      .required "maximum" .int32 <|
      .required "maxSurge" .int32 <|
      .required "maxUnavailable" .int32 <|
      .default "labels" (.dict .text) .empty <|
      .default "annotations" (.dict .text) .empty <|
      .default "taints" (.list Taint.schema) [] <|
      .optional "machineConfiguration" MachineConfiguration.schema .nil)
    (fun (name, className, secretName, minimum, maximum, maxSurge, maxUnavailable, labels,
        annotations, taints, configuration, ()) =>
      ⟨name, className, secretName, minimum, maximum, maxSurge, maxUnavailable, labels,
        annotations, taints, configuration⟩)
    (fun deployment =>
      (deployment.name, deployment.className, deployment.secretName, deployment.minimum,
        deployment.maximum, deployment.maxSurge, deployment.maxUnavailable, deployment.labels,
        deployment.annotations, deployment.taints, deployment.configuration, ()))

end ShootMachines
