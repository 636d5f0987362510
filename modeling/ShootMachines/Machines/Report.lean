import ShootMachines.Machines.Plan
import ShootMachines.Provider.Section

/-!
# Machine reports

A machine plan is reported together with what is written back to the worker: the labels of the
volumes, the provider status that lists the images in use, and the images of the last reported status
that are out of use.
-/

namespace ShootMachines

/-- A machine plan and what is written back to the worker. -/
structure MachineReport where
  plan : MachinePlan
  volumeLabels : Dict String
  providerStatus : Versioned WorkerStatus
  retiredImages : List MachineImage

namespace MachineReport

/-- The provider status states its type. -/
def statusSchema : Schema (Versioned WorkerStatus) :=
  .ofParts .object
    (.required "apiVersion" .text <|
      .required "kind" .text <|
      .default "machineImages" (.list MachineImage.schema) [] .nil)
    (fun (apiVersion, kind, images, ()) => ⟨apiVersion, kind, ⟨images⟩⟩)
    (fun status => (status.apiVersion, status.kind, status.object.machineImages, ()))

/-- A report states the fields of the plan and its own. -/
def schema : Schema MachineReport :=
  .ofParts .object
    (.required "machineClasses" (.list MachineClass.schema) <|
      .required "machineDeployments" (.list MachineDeployment.schema) <|
      .required "machineImages" (.list MachineImage.schema) <|
      .required "machineClassVolumes" (.dict MachineVolume.schema) <|
      .required "volumeLabels" (.dict .text) <|
      .required "providerStatus" statusSchema <|
      .required "retiredMachineImages" (.list MachineImage.schema) .nil)
    (fun (classes, deployments, images, volumes, volumeLabels, providerStatus, retiredImages, ()) =>
      ⟨⟨classes, deployments, images, volumes⟩, volumeLabels, providerStatus, retiredImages⟩)
    (fun report =>
      (report.plan.classes, report.plan.deployments, report.plan.images, report.plan.volumes,
        report.volumeLabels, report.providerStatus, report.retiredImages, ()))

end MachineReport

namespace MachinePlan

/-- The provider status that lists the images in use. -/
def status (plan : MachinePlan) : WorkerStatus := ⟨plan.images⟩

/-- The labels of the volumes of a namespace. -/
def volumeLabels (space : String) : Dict String :=
  Dict.empty.insert "kubevirt.provider.extensions.gardener.cloud/cluster" space

/-- The images of an earlier status that are out of use. -/
def retiredImages (plan : MachinePlan) (earlier : WorkerStatus) : List MachineImage :=
  earlier.machineImages.filter fun image => !plan.images.any image.sameVersion

/-- The report of a plan for a worker. -/
def report (plan : MachinePlan) (scheme : Scheme) (worker : Worker) :
    Except Failure MachineReport := do
  let earlier ← scheme.workerStatus worker
  let providerStatus ← convertConfig .workerStatus plan.status "worker status"
  return ⟨plan, volumeLabels worker.metadata.anySpace, providerStatus, plan.retiredImages earlier⟩

end MachinePlan

end ShootMachines
