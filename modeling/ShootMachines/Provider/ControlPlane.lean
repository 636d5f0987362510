import ShootMachines.Schema.Basic

/-!
# Control plane configuration

The feature gates of the cloud controller manager of a shoot.
-/

namespace ShootMachines

/-- Settings of the cloud controller manager. -/
structure CloudControllerConfig where
  featureGates : Dict Bool
  deriving DecidableEq

/-- Missing feature gates are none. -/
def CloudControllerConfig.schema : Schema CloudControllerConfig :=
  .ofParts .flexible
    (.default "featureGates" (.dict .flag) .empty .nil)
    (fun (featureGates, ()) => ⟨featureGates⟩)
    (fun config => (config.featureGates, ()))

/-- The control plane configuration of a shoot. -/
structure ControlPlaneConfig where
  cloudController : Option CloudControllerConfig
  deriving DecidableEq

/-- The settings may be missing. -/
def ControlPlaneConfig.schema : Schema ControlPlaneConfig :=
  .ofParts .flexible
    (.optional "cloudControllerManager" CloudControllerConfig.schema .nil)
    (fun (cloudController, ()) => ⟨cloudController⟩)
    (fun config => (config.cloudController, ()))

end ShootMachines
