import ShootMachines.Gardener.CloudProfile
import ShootMachines.Gardener.Shoot

/-!
# Clusters

A cluster is the snapshot of the resources around a worker: the cloud profile and the shoot.
-/

namespace ShootMachines

/-- The cloud profile and the shoot of a worker. -/
structure Cluster where
  cloudProfile : CloudProfile
  shoot : Shoot

/-- A cluster states both. -/
def Cluster.schema : Schema Cluster :=
  .ofParts .flexible
    (.required "cloudProfile" CloudProfile.schema <|
      .required "shoot" Shoot.schema .nil)
    (fun (cloudProfile, shoot, ()) => ⟨cloudProfile, shoot⟩)
    (fun cluster => (cluster.cloudProfile, cluster.shoot, ()))

end ShootMachines
