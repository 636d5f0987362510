import ShootMachines.Failure
import ShootMachines.Gardener.CloudProfile
import ShootMachines.Provider.ProfileConfig

/-!
# Choosing from a cloud profile

Worker pools name machine types, volume types and machine images of a cloud profile. Of several
entries with one name the first counts.
-/

namespace ShootMachines

namespace CloudProfile

/-- The machine type with a name. -/
def machineType (profile : CloudProfile) (name : String) : Except Failure MachineType :=
  match profile.spec.machineTypes.find? fun type => type.name = name with
  | some type => .ok type
  | none => .error (.notFound (.machineType name profile.metadata.anyName))

/-- The volume type with a name. -/
def volumeType (profile : CloudProfile) (name : String) : Except Failure VolumeType :=
  match profile.spec.volumeTypes.find? fun type => type.name = name with
  | some type => .ok type
  | none => .error (.notFound (.volumeType name profile.metadata.anyName))

/-- The storage class and the size of a volume of a type and a written size. -/
def storage (profile : CloudProfile) (type : Option String) (size : String) :
    Except Failure (String × Quantity) :=
  match type with
  | none => .error (.precondition (.volumeWithoutType size))
  | some name => do
      let type ← profile.volumeType name
      match Quantity.parse size with
      | .ok quantity => .ok (type.storageClass, quantity)
      | .error fault => .error (.precondition (.badVolumeSize size fault))

end CloudProfile

namespace ProfileConfig

/-- What the provider adds to a machine type. -/
def extension? (config : ProfileConfig) (name : String) : Option MachineTypeExtension :=
  config.machineTypes.find? fun type => type.name = name

/-- The versions of all images with a name, in order. -/
def versionsOf (config : ProfileConfig) (name : String) : List ImageVersion :=
  (config.machineImages.filter fun image => image.name = name).flatMap MachineImages.versions

/-- Where the disk of a version of an image is fetched from. -/
def imageUrl (config : ProfileConfig) (name version : String) : Except Failure String :=
  match (config.versionsOf name).find? fun image => image.version = version with
  | some image => .ok image.sourceUrl
  | none => .error (.notFound (.machineImage name version))

end ProfileConfig

end ShootMachines
