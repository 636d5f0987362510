import ShootMachines.Machines.Class
import ShootMachines.Machines.Deployment
import ShootMachines.Provider.WorkerStatus

/-!
# Machine plans

The plan for the machines of a worker: classes and deployments in the order of pools and zones, the
images in use, and the volumes that are set up once per class for root volumes to be copied from.
-/

namespace ShootMachines

/-- The images with one more, unless there is one of the same name and version already. -/
def appendImage (images : List MachineImage) (image : MachineImage) : List MachineImage :=
  if images.any image.sameVersion then images else images ++ [image]

/-- The machines of a worker. -/
structure MachinePlan where
  classes : List MachineClass
  deployments : List MachineDeployment
  images : List MachineImage
  volumes : Dict MachineVolume
  deriving DecidableEq

namespace MachinePlan

/-- A plan states all of its fields. -/
def schema : Schema MachinePlan :=
  .ofParts .flexible
    (.required "machineClasses" (.list MachineClass.schema) <|
      .required "machineDeployments" (.list MachineDeployment.schema) <|
      .required "machineImages" (.list MachineImage.schema) <|
      .required "machineClassVolumes" (.dict MachineVolume.schema) .nil)
    (fun (classes, deployments, images, volumes, ()) => ⟨classes, deployments, images, volumes⟩)
    (fun plan => (plan.classes, plan.deployments, plan.images, plan.volumes, ()))

/-- A plan without machines. -/
def empty : MachinePlan := ⟨[], [], [], .empty⟩

end MachinePlan

end ShootMachines
