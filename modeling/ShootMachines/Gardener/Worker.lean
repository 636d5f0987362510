import ShootMachines.Gardener.WorkerPool
import ShootMachines.Kubernetes.Metadata

/-!
# Workers

A worker hands the worker pools of one shoot to the provider. Its namespace is the technical
namespace of the shoot.
-/

namespace ShootMachines

/-- What a worker asks for. -/
structure WorkerSpec where
  type : String
  region : String
  secretRef : SecretReference
  infrastructureStatus : Option Payload
  sshPublicKey : Option Bytes
  pools : List WorkerPool

/-- A worker states its provider type, its region and the secret of the provider cluster. -/
def WorkerSpec.schema : Schema WorkerSpec :=
  .ofParts .flexible
    (.required "type" .text <|
      .required "region" .text <|
      .required "secretRef" SecretReference.schema <|
      .optional "infrastructureProviderStatus" .payload <|
      .optional "sshPublicKey" .bytes <|
      .default "pools" (.list WorkerPool.schema) [] .nil)
    (fun (type, region, secretRef, infrastructureStatus, sshPublicKey, pools, ()) =>
      ⟨type, region, secretRef, infrastructureStatus, sshPublicKey, pools⟩)
    (fun spec =>
      (spec.type, spec.region, spec.secretRef, spec.infrastructureStatus, spec.sshPublicKey,
        spec.pools, ()))

/-- What was reported of a worker. -/
structure WorkerReport where
  providerStatus : Option Payload

/-- The report may be empty. -/
def WorkerReport.schema : Schema WorkerReport :=
  .ofParts .flexible
    (.optional "providerStatus" .payload .nil)
    (fun (providerStatus, ()) => ⟨providerStatus⟩)
    (fun report => (report.providerStatus, ()))

/-- A worker. -/
structure Worker where
  metadata : Metadata
  spec : WorkerSpec
  status : Option WorkerReport

namespace Worker

/-- A worker states metadata and spec. -/
def schema : Schema Worker :=
  .resource "extensions.gardener.cloud/v1alpha1" "Worker" false <|
    .ofParts .flexible
      (.required "metadata" Metadata.schema <|
        .required "spec" WorkerSpec.schema <|
        .cons "status" (.named none) (.optional WorkerReport.schema) .nil)
      (fun (metadata, spec, status, ()) => ⟨metadata, spec, status⟩)
      (fun worker => (worker.metadata, worker.spec, worker.status, ()))

/-- The provider status reported of a worker. -/
def providerStatus (worker : Worker) : Option Payload :=
  worker.status.bind WorkerReport.providerStatus

/-- The name of a worker in messages; the namespace stands before it if there is one. -/
def objectName (worker : Worker) : String :=
  match worker.metadata.space with
  | some space => space ++ "/" ++ worker.metadata.anyName
  | none => worker.metadata.anyName

end Worker

end ShootMachines
