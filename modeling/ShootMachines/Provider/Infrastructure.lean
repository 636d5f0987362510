import ShootMachines.Schema.Basic

/-!
# Networks of a shoot

The networks that the machines of a shoot are attached to: as asked for, and as set up.
-/

namespace ShootMachines

/-- A network that exists outside the shoot. -/
structure SharedNetwork where
  name : String
  space : Option String
  deriving DecidableEq, Repr

/-- A missing name is empty; the namespace may be missing. -/
def SharedNetwork.schema : Schema SharedNetwork :=
  .ofParts .flexible
    (.default "name" .text "" <|
      .optional "namespace" .text .nil)
    (fun (name, space, ()) => ⟨name, space⟩)
    (fun network => (network.name, network.space, ()))

/-- A network that is set up for the shoot. Its configuration is JSON text. -/
structure TenantNetwork where
  name : String
  config : String
  isDefault : Bool
  deriving DecidableEq, Repr

/-- A missing text is empty, and a network is no default unless it says so. -/
def TenantNetwork.schema : Schema TenantNetwork :=
  .ofParts .flexible
    (.default "name" .text "" <|
      .default "config" .text "" <|
      .default "default" .flag false .nil)
    (fun (name, config, isDefault, ()) => ⟨name, config, isDefault⟩)
    (fun network => (network.name, network.config, network.isDefault, ()))

/-- The networks a shoot asks for. -/
structure Networks where
  shared : List SharedNetwork
  tenant : List TenantNetwork
  deriving DecidableEq, Repr

/-- A missing list is empty. -/
def Networks.schema : Schema Networks :=
  .ofParts .flexible
    (.default "sharedNetworks" (.list SharedNetwork.schema) [] <|
      .default "tenantNetworks" (.list TenantNetwork.schema) [] .nil)
    (fun (shared, tenant, ()) => ⟨shared, tenant⟩)
    (fun networks => (networks.shared, networks.tenant, ()))

/-- The infrastructure configuration of a shoot. -/
structure InfrastructureConfig where
  networks : Networks
  deriving DecidableEq, Repr

/-- Missing networks are none. -/
def InfrastructureConfig.schema : Schema InfrastructureConfig :=
  .ofParts .flexible
    (.default "networks" Networks.schema ⟨[], []⟩ .nil)
    (fun (networks, ()) => ⟨networks⟩)
    (fun config => (config.networks, ()))

/-- A network that has been set up. The digest changes with its configuration. -/
structure NetworkStatus where
  name : String
  isDefault : Bool
  sha : String
  deriving DecidableEq, Repr

/-- A missing text is empty, and a network is no default unless it says so. -/
def NetworkStatus.schema : Schema NetworkStatus :=
  .ofParts .flexible
    (.default "name" .text "" <|
      .default "default" .flag false <|
      .default "sha" .text "" .nil)
    (fun (name, isDefault, sha, ()) => ⟨name, isDefault, sha⟩)
    (fun network => (network.name, network.isDefault, network.sha, ()))

/-- The networks that have been set up. -/
structure InfrastructureStatus where
  networks : List NetworkStatus
  deriving DecidableEq, Repr

/-- Missing networks are none. -/
def InfrastructureStatus.schema : Schema InfrastructureStatus :=
  .ofParts .flexible
    (.default "networks" (.list NetworkStatus.schema) [] .nil)
    (fun (networks, ()) => ⟨networks⟩)
    (fun status => (status.networks, ()))

/-- The texts that stand for the networks where a change of them has to be noticed: name, default
and digest of each, in order. -/
def InfrastructureStatus.tokens (status : InfrastructureStatus) : List String :=
  status.networks.flatMap fun network =>
    [network.name, if network.isDefault then "true" else "false", network.sha]

end ShootMachines
