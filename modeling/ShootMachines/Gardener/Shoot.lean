import ShootMachines.Gardener.Reference
import ShootMachines.Gardener.Volume
import ShootMachines.Kubernetes.Metadata

/-!
# Shoots

A shoot is a Kubernetes cluster as its user specifies it.
-/

namespace ShootMachines

/-- The Kubernetes settings of a shoot. -/
structure KubernetesSettings where
  version : String
  deriving DecidableEq, Repr

/-- The settings state the version. -/
def KubernetesSettings.schema : Schema KubernetesSettings :=
  .ofParts .flexible
    (.required "version" .text .nil)
    (fun (version, ()) => ⟨version⟩)
    (fun settings => (settings.version, ()))

/-- The networking settings of a shoot. -/
structure Networking where
  type : Option String
  nodes : Option String
  pods : Option String
  services : Option String
  deriving DecidableEq, Repr

/-- Every networking setting may be missing. -/
def Networking.schema : Schema Networking :=
  .ofParts .flexible
    (.optional "type" .text <|
      .optional "nodes" .text <|
      .optional "pods" .text <|
      .optional "services" .text .nil)
    (fun (type, nodes, pods, services, ()) => ⟨type, nodes, pods, services⟩)
    (fun networking => (networking.type, networking.nodes, networking.pods, networking.services, ()))

/-- The machines a shoot worker asks for. -/
structure ShootMachine where
  type : String
  image : Option ImageReference
  deriving DecidableEq, Repr

/-- The machines state at least their type. -/
def ShootMachine.schema : Schema ShootMachine :=
  .ofParts .flexible
    (.required "type" .text <|
      .optional "image" ImageReference.schema .nil)
    (fun (type, image, ()) => ⟨type, image⟩)
    (fun machine => (machine.type, machine.image, ()))

/-- A worker pool as the user of a shoot writes it. -/
structure ShootWorker where
  name : String
  machine : ShootMachine
  minimum : Int32
  maximum : Int32
  maxSurge : Option IntOrText
  maxUnavailable : Option IntOrText
  volume : Option Volume
  dataVolumes : List DataVolume
  zones : List String
  providerConfig : Option Payload

/-- A pool states its name, its machines and its bounds. -/
def ShootWorker.schema : Schema ShootWorker :=
  .ofParts .flexible
    (.required "name" .text <|
      .required "machine" ShootMachine.schema <|
      .required "minimum" .int32 <|
      .required "maximum" .int32 <|
      .optional "maxSurge" .intOrText <|
      .optional "maxUnavailable" .intOrText <|
      .optional "volume" Volume.schema <|
      .default "dataVolumes" (.list DataVolume.schema) [] <|
      .default "zones" (.list .text) [] <|
      .optional "providerConfig" .payload .nil)
    (fun (name, machine, minimum, maximum, maxSurge, maxUnavailable, volume, dataVolumes, zones,
        providerConfig, ()) =>
      ⟨name, machine, minimum, maximum, maxSurge, maxUnavailable, volume, dataVolumes, zones,
        providerConfig⟩)
    (fun worker =>
      (worker.name, worker.machine, worker.minimum, worker.maximum, worker.maxSurge,
        worker.maxUnavailable, worker.volume, worker.dataVolumes, worker.zones,
        worker.providerConfig, ()))

/-- The provider section of a shoot. -/
structure ShootProvider where
  type : String
  infrastructureConfig : Option Payload
  controlPlaneConfig : Option Payload
  workers : List ShootWorker

/-- The provider section states the provider type. -/
def ShootProvider.schema : Schema ShootProvider :=
  .ofParts .flexible
    (.required "type" .text <|
      .optional "infrastructureConfig" .payload <|
      .optional "controlPlaneConfig" .payload <|
      .default "workers" (.list ShootWorker.schema) [] .nil)
    (fun (type, infrastructureConfig, controlPlaneConfig, workers, ()) =>
      ⟨type, infrastructureConfig, controlPlaneConfig, workers⟩)
    (fun provider =>
      (provider.type, provider.infrastructureConfig, provider.controlPlaneConfig,
        provider.workers, ()))

/-- What a shoot asks for. -/
structure ShootSpec where
  cloudProfileName : String
  region : String
  secretBindingName : String
  kubernetes : KubernetesSettings
  networking : Networking
  provider : ShootProvider

/-- A shoot states its cloud profile, region, Kubernetes version and provider section. -/
def ShootSpec.schema : Schema ShootSpec :=
  .ofParts .flexible
    (.required "cloudProfileName" .text <|
      .required "region" .text <|
      .default "secretBindingName" .text "" <|
      .required "kubernetes" KubernetesSettings.schema <|
      .default "networking" Networking.schema ⟨none, none, none, none⟩ <|
      .required "provider" ShootProvider.schema .nil)
    (fun (cloudProfileName, region, secretBindingName, kubernetes, networking, provider, ()) =>
      ⟨cloudProfileName, region, secretBindingName, kubernetes, networking, provider⟩)
    (fun spec =>
      (spec.cloudProfileName, spec.region, spec.secretBindingName, spec.kubernetes, spec.networking,
        spec.provider, ()))

/-- A shoot. -/
structure Shoot where
  metadata : Metadata
  spec : ShootSpec

/-- A shoot states metadata and spec. -/
def Shoot.schema : Schema Shoot :=
  .resource "core.gardener.cloud/v1beta1" "Shoot" false <|
    .ofParts .flexible
      (.required "metadata" Metadata.schema <|
        .required "spec" ShootSpec.schema .nil)
      (fun (metadata, spec, ()) => ⟨metadata, spec⟩)
      (fun shoot => (shoot.metadata, shoot.spec, ()))

end ShootMachines
