import ShootMachines.Provider.ControlPlane
import ShootMachines.Provider.Infrastructure
import ShootMachines.Provider.ProfileConfig
import ShootMachines.Provider.WorkerConfig
import ShootMachines.Provider.WorkerStatus

/-!
# Kinds of provider payloads

The provider keeps six kinds of payloads in the resources of others. Each kind has a name, a type of
values, a schema, and a value that an absent payload stands for.
-/

namespace ShootMachines

/-- A kind of provider payload. -/
inductive ProviderKind where
  | profileConfig
  | infrastructureConfig
  | infrastructureStatus
  | controlPlaneConfig
  | workerConfig
  | workerStatus
  deriving DecidableEq, Repr

namespace ProviderKind

/-- The kinds. -/
def all : List ProviderKind :=
  [profileConfig, infrastructureConfig, infrastructureStatus, controlPlaneConfig, workerConfig,
    workerStatus]

/-- The name of a kind, as payloads state it. -/
def name : ProviderKind → String
  | profileConfig => "CloudProfileConfig"
  | infrastructureConfig => "InfrastructureConfig"
  | infrastructureStatus => "InfrastructureStatus"
  | controlPlaneConfig => "ControlPlaneConfig"
  | workerConfig => "WorkerConfig"
  | workerStatus => "WorkerStatus"

/-- The kind with a name. -/
def ofName? (name : String) : Option ProviderKind :=
  all.find? fun kind => kind.name = name

/-- The values of a kind. -/
@[reducible]
def Config : ProviderKind → Type
  | profileConfig => ProfileConfig
  | infrastructureConfig => InfrastructureConfig
  | infrastructureStatus => InfrastructureStatus
  | controlPlaneConfig => ControlPlaneConfig
  | workerConfig => WorkerConfig
  | workerStatus => WorkerStatus

/-- The layout of a kind. -/
def schema : (kind : ProviderKind) → Schema kind.Config
  | profileConfig => ProfileConfig.schema
  | infrastructureConfig => InfrastructureConfig.schema
  | infrastructureStatus => InfrastructureStatus.schema
  | controlPlaneConfig => ControlPlaneConfig.schema
  | workerConfig => WorkerConfig.schema
  | workerStatus => WorkerStatus.schema

/-- What an absent payload stands for: nothing is set. -/
def absent : (kind : ProviderKind) → kind.Config
  | profileConfig => ⟨[], []⟩
  | infrastructureConfig => ⟨⟨[], []⟩⟩
  | infrastructureStatus => ⟨[]⟩
  | controlPlaneConfig => ⟨none⟩
  | workerConfig => ⟨none, none, none, none, none, false, false⟩
  | workerStatus => ⟨[]⟩

/-- Looking up the name of a kind finds the kind. -/
@[simp]
theorem ofName?_name (kind : ProviderKind) : ofName? kind.name = some kind := by
  cases kind <;> decide

end ProviderKind

/-- A value of any kind. -/
structure ProviderConfig where
  kind : ProviderKind
  value : kind.Config

end ShootMachines
