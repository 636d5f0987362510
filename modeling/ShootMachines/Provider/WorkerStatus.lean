import ShootMachines.Schema.Basic

/-!
# Provider status of workers

The status of a worker lists the machine images that its machines use.
-/

namespace ShootMachines

/-- A machine image in use. -/
structure MachineImage where
  name : String
  version : String
  sourceUrl : String
  deriving DecidableEq, Repr

/-- A missing field is the empty text. -/
def MachineImage.schema : Schema MachineImage :=
  .ofParts .flexible
    (.default "name" .text "" <|
      .default "version" .text "" <|
      .default "sourceURL" .text "" .nil)
    (fun (name, version, sourceUrl, ()) => ⟨name, version, sourceUrl⟩)
    (fun image => (image.name, image.version, image.sourceUrl, ()))

/-- Whether two images have one name and version. -/
def MachineImage.sameVersion (image other : MachineImage) : Bool :=
  image.name = other.name && image.version = other.version

/-- The provider status of a worker. -/
structure WorkerStatus where
  machineImages : List MachineImage
  deriving DecidableEq, Repr

/-- Missing images are none. -/
def WorkerStatus.schema : Schema WorkerStatus :=
  .ofParts .flexible
    (.default "machineImages" (.list MachineImage.schema) [] .nil)
    (fun (machineImages, ()) => ⟨machineImages⟩)
    (fun status => (status.machineImages, ()))

end ShootMachines
