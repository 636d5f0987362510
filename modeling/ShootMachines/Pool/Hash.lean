import ShootMachines.Digest.Sha256
import ShootMachines.Document.Json.Writer
import ShootMachines.Gardener.Cluster
import ShootMachines.Gardener.Worker
import ShootMachines.Schema.Write
import ShootMachines.Text.Utf8

/-!
# Pool hashes

The hash of a worker pool changes with everything that its machines depend on, so that machines are
replaced exactly when they have to be. It digests a text: the canonical JSON of the pool, which holds
no line break, and then one line each for the Kubernetes version, the namespace, the region and
further texts.
-/

namespace ShootMachines.Pool

/-- The Kubernetes version of the nodes of a pool: its own one, else that of the shoot. -/
def kubernetesVersion (pool : WorkerPool) (cluster : Cluster) : String :=
  pool.kubernetesVersion.getD cluster.shoot.spec.kubernetes.version

/-- The lines of the hashed text after the first one. -/
def hashedLines (pool : WorkerPool) (worker : Worker) (cluster : Cluster) (extra : List String) :
    List String :=
  [kubernetesVersion pool cluster, worker.metadata.anySpace, worker.spec.region] ++ extra

/-- The text that is hashed. -/
def hashedText (pool : WorkerPool) (worker : Worker) (cluster : Cluster) (extra : List String) :
    List Char :=
  Json.writeChars (WorkerPool.schema.encode pool) ++
    (hashedLines pool worker cluster extra).flatMap fun line => '\n' :: line.toList

/-- The bytes that are hashed. -/
def hashedBytes (pool : WorkerPool) (worker : Worker) (cluster : Cluster) (extra : List String) :
    Bytes :=
  Utf8.encode (String.ofList (hashedText pool worker cluster extra))

/-- The number of hexadecimal digits of a pool hash. -/
def hashLength : Nat := 5

/-- The hash of a pool: the first digits of the SHA-256 digest. -/
def hash (pool : WorkerPool) (worker : Worker) (cluster : Cluster) (extra : List String) : String :=
  String.ofList ((Sha256.hexDigest (hashedBytes pool worker cluster extra)).take hashLength)

end ShootMachines.Pool
