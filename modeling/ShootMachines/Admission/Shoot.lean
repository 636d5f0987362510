import ShootMachines.Admission.Networking
import ShootMachines.Admission.Pools
import ShootMachines.Admission.Profile
import ShootMachines.Admission.Secret
import ShootMachines.Lookup.Basic
import ShootMachines.Pool.Catalog
import ShootMachines.Provider.Section

/-!
# Admission of shoots

A new shoot is checked as a whole, and the secret that it binds has to hold a kubeconfig. A changed
shoot is compared with the last one: only provider sections whose decoded value changed are checked
again, so that an edit of one pool does not bring up an unrelated one. Pools are told apart by name.
-/

namespace ShootMachines

/-- The decoded provider sections of a shoot. The configurations of pools are kept by name; of two
pools with one name the later counts. -/
structure ShootConfigs where
  infrastructure : InfrastructureConfig
  controlPlane : ControlPlaneConfig
  pools : Dict WorkerConfig
  deriving DecidableEq

/-- What the structural checks of a shoot look at. -/
structure ShootContext where
  shoot : Shoot
  configs : ShootConfigs
  profileConfig : ProfileConfig

namespace Shoot

/-- The field of the networking section. -/
def networkingPath : FieldPath := FieldPath.child ⟨"spec", []⟩ "networking"

/-- The field of the provider section. -/
def providerPath : FieldPath := FieldPath.child ⟨"spec", []⟩ "provider"

/-- The field of the infrastructure configuration. -/
def infrastructurePath : FieldPath := providerPath.child "infrastructureConfig"

/-- The field of the control plane configuration. -/
def controlPlanePath : FieldPath := providerPath.child "controlPlaneConfig"

/-- The field of the worker pools. -/
def workersPath : FieldPath := providerPath.child "workers"

/-- The decoded provider configuration of a pool. -/
def poolConfig (decoder : Decoder) (shoot : Shoot) (worker : ShootWorker) :
    Except Failure WorkerConfig :=
  decodeSection decoder .workerConfig (.shootPoolConfig worker.name shoot.metadata.key)
    worker.providerConfig

/-- The decoded provider sections of a shoot. -/
def configs (decoder : Decoder) (shoot : Shoot) : Except Failure ShootConfigs := do
  let provider := shoot.spec.provider
  let infrastructure ← decodeSection decoder .infrastructureConfig
    (.shootInfrastructure shoot.metadata.key) provider.infrastructureConfig
  let controlPlane ← decodeSection decoder .controlPlaneConfig
    (.shootControlPlane shoot.metadata.key) provider.controlPlaneConfig
  let pools ← provider.workers.mapM fun worker => do
    let config ← shoot.poolConfig decoder worker
    return (worker.name, config)
  return ⟨infrastructure, controlPlane, .ofList pools⟩

/-- Decode a shoot strictly, and the configuration of its cloud profile leniently. -/
def context (scheme : Scheme) (lookup : Lookup) (shoot : Shoot) : Traced ShootContext := do
  let configs ← shoot.configs scheme.strictDecoder
  let profile ← lookup.cloudProfile shoot.spec.cloudProfileName
  match profile.spec.providerConfig with
  | none =>
      .fail (.precondition
        (.profileWithoutConfig profile.metadata.anyName shoot.metadata.key))
  | some payload =>
      let profileConfig ← profile.storedConfig scheme payload
      return ⟨shoot, configs, profileConfig⟩

end Shoot

namespace ShootContext

/-- The violations of the networking section. -/
def checkNetworking (context : ShootContext) : List FieldError :=
  context.shoot.spec.networking.check Shoot.networkingPath

/-- The violations of the infrastructure configuration. -/
def checkInfrastructure (context : ShootContext) : List FieldError :=
  context.configs.infrastructure.check Shoot.infrastructurePath

/-- The violations of the control plane configuration. -/
def checkControlPlane (context : ShootContext) : List FieldError :=
  context.configs.controlPlane.check Shoot.controlPlanePath

/-- The violations of the pools as the user wrote them. -/
def checkWorkers (context : ShootContext) : List FieldError :=
  ShootWorker.checkAll context.shoot.spec.provider.workers Shoot.workersPath

/-- The violation of a machine image that the cloud profile does not offer. -/
def checkImage (context : ShootContext) (image : ImageReference) (path : FieldPath) :
    List FieldError :=
  match context.profileConfig.imageUrl image.name image.version with
  | .ok _ => []
  | .error _ =>
      [.invalid path (image.name ++ ":" ++ image.version)
        ("machine image is not configured in the providerConfig of cloud profile " ++
          quoted context.shoot.spec.cloudProfileName)]

/-- The violations of a pool that show in its decoded configuration and its machine image. -/
def checkPool (context : ShootContext) (position : Nat) (worker : ShootWorker) :
    List FieldError :=
  let path := Shoot.workersPath.index position
  ((context.configs.pools.get? worker.name).elim [] fun config =>
      config.check worker.dataVolumes (path.child "providerConfig")) ++
    worker.machine.image.elim [] fun image =>
      context.checkImage image ((path.child "machine").child "image")

/-- The violations of a new shoot. -/
def check (context : ShootContext) : List FieldError :=
  context.checkNetworking ++ context.checkInfrastructure ++ context.checkControlPlane ++
    context.checkWorkers ++
    checkEach (fun _ position worker => context.checkPool position worker)
      context.shoot.spec.provider.workers

/-- Whether a pool is as it was: machine, data volumes and decoded configuration. -/
def poolUnchanged (context : ShootContext) (old : List ShootWorker) (previous : ShootConfigs)
    (worker : ShootWorker) : Bool :=
  (ShootWorker.named? old worker.name).any fun prior =>
    prior.machine = worker.machine && prior.dataVolumes = worker.dataVolumes &&
      previous.pools.get? prior.name = context.configs.pools.get? worker.name

/-- The violations of a changed infrastructure configuration. -/
def checkInfrastructureChange (context : ShootContext) (previous : ShootConfigs) :
    List FieldError :=
  if previous.infrastructure = context.configs.infrastructure then []
  else
    previous.infrastructure.checkUpdate context.configs.infrastructure Shoot.infrastructurePath ++
      context.checkInfrastructure

/-- The violations of a changed control plane configuration. -/
def checkControlPlaneChange (context : ShootContext) (previous : ShootConfigs) :
    List FieldError :=
  if previous.controlPlane = context.configs.controlPlane then [] else context.checkControlPlane

/-- The violations of the pools that changed. -/
def checkPoolChanges (context : ShootContext) (old : List ShootWorker) (previous : ShootConfigs) :
    List FieldError :=
  checkEach
    (fun _ position worker =>
      if context.poolUnchanged old previous worker then [] else context.checkPool position worker)
    context.shoot.spec.provider.workers

/-- The violations of the change from an old shoot with decoded sections. -/
def checkUpdate (context : ShootContext) (old : Shoot) (previous : ShootConfigs) :
    List FieldError :=
  let workers := old.spec.provider.workers
  context.checkNetworking ++ context.checkInfrastructureChange previous ++
    context.checkControlPlaneChange previous ++ context.checkWorkers ++
    ShootWorker.checkUpdate workers context.shoot.spec.provider.workers Shoot.workersPath ++
    context.checkPoolChanges workers previous

/-- What a log says of the sections that changed. -/
def changes (context : ShootContext) (old : Shoot) (previous : ShootConfigs) : List String :=
  let key := context.shoot.metadata.key
  (if previous.infrastructure = context.configs.infrastructure then []
    else ["infrastructureConfig of shoot " ++ key ++ " changed"]) ++
  (if previous.controlPlane = context.configs.controlPlane then []
    else ["controlPlaneConfig of shoot " ++ key ++ " changed"]) ++
  ((context.shoot.spec.provider.workers.filter fun worker =>
      !context.poolUnchanged old.spec.provider.workers previous worker).map fun worker =>
    "Worker pool " ++ worker.name ++ " of shoot " ++ key ++ " changed")

end ShootContext

namespace Shoot

/-- Check the secret that a new shoot binds. -/
def acceptSecret (lookup : Lookup) (shoot : Shoot) : Traced Unit := do
  if shoot.spec.secretBindingName.isEmpty then
    .debug ("Shoot " ++ shoot.metadata.key ++ " has no secret binding")
  else
    let binding ← lookup.secretBinding shoot.metadata.anySpace shoot.spec.secretBindingName
    let secret ← lookup.secret binding.secretRef.space binding.secretRef.name
    Failure.ofErrors secret.check

/-- Accept a new shoot. -/
def acceptCreation (scheme : Scheme) (lookup : Lookup) (shoot : Shoot) : Traced Unit := do
  .info ("Validating creation of shoot " ++ shoot.metadata.key)
  let context ← shoot.context scheme lookup
  Failure.ofErrors context.check
  shoot.acceptSecret lookup

/-- Accept the change of a shoot. -/
def acceptUpdate (scheme : Scheme) (lookup : Lookup) (shoot old : Shoot) : Traced Unit := do
  .info ("Validating update of shoot " ++ shoot.metadata.key)
  let previous ← old.configs scheme.lenientDecoder
  let context ← shoot.context scheme lookup
  let _ ← Run.forEach Run.debug (context.changes old previous)
  Failure.ofErrors (context.checkUpdate old previous)

/-- Accept a shoot, or the change of one. Shoots of other providers are not looked at. -/
def accept (scheme : Scheme) (lookup : Lookup) (shoot : Shoot) (old : Option Shoot) :
    Traced Unit :=
  if shoot.spec.provider.type ≠ providerType then
    .debug ("Skipping shoot " ++ shoot.metadata.key ++ " with provider type " ++
      shoot.spec.provider.type)
  else
    match old with
    | none => shoot.acceptCreation scheme lookup
    | some old => shoot.acceptUpdate scheme lookup old

end Shoot

end ShootMachines
