import ShootMachines.Schema.Basic

/-!
# Provider configuration of cloud profiles

The provider keeps the sources of machine images, and limits for machine types, in the provider
section of a cloud profile.
-/

namespace ShootMachines

/-- A version of a machine image and where its disk is fetched from. -/
structure ImageVersion where
  version : String
  sourceUrl : String
  deriving DecidableEq, Repr

/-- A missing field is the empty text. -/
def ImageVersion.schema : Schema ImageVersion :=
  .ofParts .flexible
    (.default "version" .text "" <|
      .default "sourceURL" .text "" .nil)
    (fun (version, sourceUrl, ()) => ⟨version, sourceUrl⟩)
    (fun image => (image.version, image.sourceUrl, ()))

/-- The versions of a machine image. -/
structure MachineImages where
  name : String
  versions : List ImageVersion
  deriving DecidableEq, Repr

/-- A missing field is empty. -/
def MachineImages.schema : Schema MachineImages :=
  .ofParts .flexible
    (.default "name" .text "" <|
      .default "versions" (.list ImageVersion.schema) [] .nil)
    (fun (name, versions, ()) => ⟨name, versions⟩)
    (fun images => (images.name, images.versions, ()))

/-- The most cpu and memory that machines of a type may use. -/
structure ResourceLimits where
  cpu : Quantity
  memory : Quantity
  deriving DecidableEq, Repr

/-- A missing field is the empty quantity. -/
def ResourceLimits.schema : Schema ResourceLimits :=
  .ofParts .flexible
    (.default "cpu" .quantity ⟨""⟩ <|
      .default "memory" .quantity ⟨""⟩ .nil)
    (fun (cpu, memory, ()) => ⟨cpu, memory⟩)
    (fun limits => (limits.cpu, limits.memory, ()))

/-- What the provider adds to a machine type of the catalog. -/
structure MachineTypeExtension where
  name : String
  limits : Option ResourceLimits
  deriving DecidableEq, Repr

/-- A missing name is empty; the limits may be missing. -/
def MachineTypeExtension.schema : Schema MachineTypeExtension :=
  .ofParts .flexible
    (.default "name" .text "" <|
      .optional "limits" ResourceLimits.schema .nil)
    (fun (name, limits, ()) => ⟨name, limits⟩)
    (fun extension => (extension.name, extension.limits, ()))

/-- The provider configuration of a cloud profile. -/
structure ProfileConfig where
  machineImages : List MachineImages
  machineTypes : List MachineTypeExtension
  deriving DecidableEq, Repr

/-- A missing field is empty. -/
def ProfileConfig.schema : Schema ProfileConfig :=
  .ofParts .flexible
    (.default "machineImages" (.list MachineImages.schema) [] <|
      .default "machineTypes" (.list MachineTypeExtension.schema) [] .nil)
    (fun (machineImages, machineTypes, ()) => ⟨machineImages, machineTypes⟩)
    (fun config => (config.machineImages, config.machineTypes, ()))

end ShootMachines
