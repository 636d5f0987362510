import ShootMachines.Gardener.CloudProfile
import ShootMachines.Gardener.Worker
import ShootMachines.Provider.Scheme

/-!
# Provider sections of resources

Worker pools, workers and cloud profiles carry provider payloads. A payload that cannot be decoded is
reported with the resource that carries it.
-/

namespace ShootMachines

/-- Decode the provider payload of a resource, which failures name. -/
def decodeSection (decoder : Decoder) (kind : ProviderKind) (subject : Subject)
    (payload : Option Payload) : Except Failure kind.Config :=
  (decoder.decode? kind payload).mapError (.decode subject)

namespace Scheme

/-- The provider configuration of a worker pool. -/
def poolConfig (scheme : Scheme) (pool : WorkerPool) : Except Failure WorkerConfig :=
  decodeSection scheme.strictDecoder .workerConfig (.poolConfig pool.name) pool.providerConfig

/-- The networks that were set up for a worker. -/
def infrastructureStatus (scheme : Scheme) (worker : Worker) :
    Except Failure InfrastructureStatus :=
  decodeSection scheme.strictDecoder .infrastructureStatus
    (.infrastructureStatus worker.objectName) worker.spec.infrastructureStatus

/-- The provider status that was reported of a worker. -/
def workerStatus (scheme : Scheme) (worker : Worker) : Except Failure WorkerStatus :=
  decodeSection scheme.strictDecoder .workerStatus (.workerStatus worker.objectName)
    worker.providerStatus

/-- The provider configuration of a cloud profile. -/
def profileConfig (scheme : Scheme) (profile : CloudProfile) : Except Failure ProfileConfig :=
  decodeSection scheme.strictDecoder .profileConfig (.profileConfig profile.metadata.anyName)
    profile.spec.providerConfig

end Scheme

end ShootMachines
