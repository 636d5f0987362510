import ShootMachines.Admission.Pools
import ShootMachines.Gardener.CloudProfile
import ShootMachines.Net.Url
import ShootMachines.Provider.ProfileConfig
import ShootMachines.Provider.Section
import ShootMachines.Trace

/-!
# Admission of cloud profiles

A cloud profile of the provider has to carry a provider configuration with machine images that can
be fetched, and it may limit only machine types of its catalog. The configuration is decoded
leniently, since profiles live long.
-/

namespace ShootMachines

/-- The provider type of the resources that are looked at. -/
def providerType : String := "kubevirt"

/-- The violations of the source of a machine image. -/
def checkSourceUrl (url : String) (path : FieldPath) : List FieldError :=
  if url.isEmpty then [.required path "must provide a source URL"]
  else
    match Net.Url.check url with
    | .ok () => []
    | .error fault => [.invalid path url ("must be a valid URL: " ++ fault.message)]

/-- The violations of a version of a machine image. -/
def ImageVersion.check (image : ImageVersion) (path : FieldPath) : List FieldError :=
  errorIf image.version.isEmpty (.required (path.child "version") "must provide a version") ++
    checkSourceUrl image.sourceUrl (path.child "sourceURL")

/-- The violations of a machine image. -/
def MachineImages.check (image : MachineImages) (path : FieldPath) : List FieldError :=
  errorIf image.name.isEmpty (.required (path.child "name") "must provide a name") ++
    errorIf image.versions.isEmpty
      (.required (path.child "versions")
        ("must provide at least one version for machine image " ++ quoted image.name)) ++
    checkEach (fun _ position version => version.check ((path.child "versions").index position))
      image.versions

/-- The violations of the limits of a machine type. -/
def ResourceLimits.check (limits : ResourceLimits) (path : FieldPath) : List FieldError :=
  checkSize limits.cpu.text (path.child "cpu") ++ checkSize limits.memory.text (path.child "memory")

/-- The violations of what the provider adds to a machine type. -/
def MachineTypeExtension.check (spec : CloudProfileSpec) (extension : MachineTypeExtension)
    (path : FieldPath) : List FieldError :=
  errorIf (!spec.machineTypes.any (·.name = extension.name))
      (.invalid (path.child "name") extension.name
        "must reference a machine type of the cloud profile") ++
    extension.limits.elim [] fun limits => limits.check (path.child "limits")

/-- The violations of the provider configuration of a cloud profile. -/
def ProfileConfig.check (spec : CloudProfileSpec) (config : ProfileConfig) (path : FieldPath) :
    List FieldError :=
  let images := path.child "machineImages"
  let types := path.child "machineTypes"
  errorIf config.machineImages.isEmpty
      (.required images "at least one machine image must be configured") ++
    checkEach (fun _ position image => image.check (images.index position)) config.machineImages ++
    checkEach (fun _ position extension => extension.check spec (types.index position))
      config.machineTypes

namespace CloudProfile

/-- The provider configuration of a cloud profile, decoded leniently. -/
def storedConfig (scheme : Scheme) (profile : CloudProfile) (payload : Payload) :
    Except Failure ProfileConfig :=
  decodeSection scheme.lenientDecoder .profileConfig (.profileConfig profile.metadata.anyName)
    (some payload)

/-- Accept a cloud profile. Profiles of other providers are not looked at. -/
def accept (scheme : Scheme) (profile : CloudProfile) : Traced Unit := do
  if profile.spec.type ≠ providerType then
    .debug ("Skipping cloud profile " ++ profile.metadata.anyName ++ " with provider type " ++
      profile.spec.type)
  else
    .info ("Validating cloud profile " ++ profile.metadata.anyName)
    let path := FieldPath.child ⟨"spec", []⟩ "providerConfig"
    match profile.spec.providerConfig with
    | none =>
        .fail (.validation
          [.required path "providerConfig must be set for KubeVirt cloud profiles"])
    | some payload =>
        let config ← profile.storedConfig scheme payload
        Failure.ofErrors (config.check profile.spec path)

end CloudProfile

end ShootMachines
