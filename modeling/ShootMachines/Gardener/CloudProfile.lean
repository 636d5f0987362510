import ShootMachines.Kubernetes.Metadata

/-!
# Cloud profiles

A cloud profile is the catalog of machine types and volume types that shoots choose from.
-/

namespace ShootMachines

/-- Storage that comes with a machine type. -/
structure MachineStorage where
  storageClass : String
  size : Option Quantity
  type : String
  deriving DecidableEq, Repr

/-- Storage states at least its class. -/
def MachineStorage.schema : Schema MachineStorage :=
  .ofParts .flexible
    (.required "class" .text <|
      .optional "storageSize" .quantity <|
      .default "type" .text "" .nil)
    (fun (storageClass, size, type, ()) => ⟨storageClass, size, type⟩)
    (fun storage => (storage.storageClass, storage.size, storage.type, ()))

/-- A machine type of the catalog. -/
structure MachineType where
  name : String
  cpu : Quantity
  gpu : Quantity
  memory : Quantity
  usable : Option Bool
  storage : Option MachineStorage
  deriving DecidableEq, Repr

/-- A machine type states at least its name, cpu and memory. -/
def MachineType.schema : Schema MachineType :=
  .ofParts .flexible
    (.required "name" .text <|
      .required "cpu" .quantity <|
      .default "gpu" .quantity ⟨""⟩ <|
      .required "memory" .quantity <|
      .optional "usable" .flag <|
      .optional "storage" MachineStorage.schema .nil)
    (fun (name, cpu, gpu, memory, usable, storage, ()) => ⟨name, cpu, gpu, memory, usable, storage⟩)
    (fun type => (type.name, type.cpu, type.gpu, type.memory, type.usable, type.storage, ()))

/-- A volume type of the catalog. -/
structure VolumeType where
  name : String
  storageClass : String
  usable : Option Bool
  deriving DecidableEq, Repr

/-- A volume type states at least its name and class. -/
def VolumeType.schema : Schema VolumeType :=
  .ofParts .flexible
    (.required "name" .text <|
      .required "class" .text <|
      .optional "usable" .flag .nil)
    (fun (name, storageClass, usable, ()) => ⟨name, storageClass, usable⟩)
    (fun type => (type.name, type.storageClass, type.usable, ()))

/-- The catalog of a cloud profile. -/
structure CloudProfileSpec where
  type : String
  machineTypes : List MachineType
  volumeTypes : List VolumeType
  providerConfig : Option Payload

/-- A catalog states its provider type. -/
def CloudProfileSpec.schema : Schema CloudProfileSpec :=
  .ofParts .flexible
    (.required "type" .text <|
      .default "machineTypes" (.list MachineType.schema) [] <|
      .default "volumeTypes" (.list VolumeType.schema) [] <|
      .optional "providerConfig" .payload .nil)
    (fun (type, machineTypes, volumeTypes, providerConfig, ()) =>
      ⟨type, machineTypes, volumeTypes, providerConfig⟩)
    (fun spec => (spec.type, spec.machineTypes, spec.volumeTypes, spec.providerConfig, ()))

/-- A cloud profile. -/
structure CloudProfile where
  metadata : Metadata
  spec : CloudProfileSpec

/-- A cloud profile states metadata and spec. -/
def CloudProfile.schema : Schema CloudProfile :=
  .resource "core.gardener.cloud/v1beta1" "CloudProfile" false <|
    .ofParts .flexible
      (.required "metadata" Metadata.schema <|
        .required "spec" CloudProfileSpec.schema .nil)
      (fun (metadata, spec, ()) => ⟨metadata, spec⟩)
      (fun profile => (profile.metadata, profile.spec, ()))

end ShootMachines
