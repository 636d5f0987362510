import ShootMachines.Admission.EachItem
import ShootMachines.Document.Json.Reader
import ShootMachines.Gardener.Shoot
import ShootMachines.Net.Cidr
import ShootMachines.Provider.ControlPlane
import ShootMachines.Provider.Infrastructure

/-!
# Checks of networks

Machines are attached to the node network of a shoot, so it has to be given. Shared networks and
tenant networks have to be named, tenant networks by names of their own, and at most one tenant
network is the default. Networks do not change once they are set up.
-/

namespace ShootMachines

/-- The violations of the networking section of a shoot. -/
def Networking.check (networking : Networking) (path : FieldPath) : List FieldError :=
  let nodes := networking.nodes.getD ""
  if nodes.isEmpty then
    [.required (path.child "nodes") "a nodes CIDR must be provided for KubeVirt shoots"]
  else
    errorIf (!Net.isCidr nodes.toList) (.invalid (path.child "nodes") nodes "must be a valid CIDR")

/-- The violations of a shared network. -/
def SharedNetwork.check (network : SharedNetwork) (path : FieldPath) : List FieldError :=
  errorIf network.name.isEmpty (.required (path.child "name") "name of the shared network is required")

namespace TenantNetwork

/-- The violations of the name of a tenant network. -/
def checkName (earlier : List TenantNetwork) (network : TenantNetwork) (path : FieldPath) :
    List FieldError :=
  if network.name.isEmpty then
    [.required (path.child "name") "name of the tenant network is required"]
  else
    errorIf (earlier.any (·.name = network.name)) (.duplicate (path.child "name") network.name)

/-- The violations of the configuration of a tenant network. -/
def checkConfig (network : TenantNetwork) (path : FieldPath) : List FieldError :=
  if network.config.isEmpty then
    [.required (path.child "config") "network configuration is required"]
  else
    match Json.read network.config with
    | .ok _ => []
    | .error fault =>
        [.invalid (path.child "config") network.config ("must be valid JSON: " ++ fault.reason)]

/-- The violation of a second default network. -/
def checkDefault (earlier : List TenantNetwork) (network : TenantNetwork) (path : FieldPath) :
    List FieldError :=
  errorIf (network.isDefault && earlier.any (·.isDefault))
    (.forbidden (path.child "default") "only one tenant network can be the default network")

/-- The violations of a tenant network after the networks before it. -/
def check (earlier : List TenantNetwork) (network : TenantNetwork) (path : FieldPath) :
    List FieldError :=
  checkName earlier network path ++ checkConfig network path ++ checkDefault earlier network path

end TenantNetwork

namespace InfrastructureConfig

/-- The violations of an infrastructure configuration, shared networks first. -/
def check (config : InfrastructureConfig) (path : FieldPath) : List FieldError :=
  let path := path.child "networks"
  checkEach (fun _ position network => network.check ((path.child "sharedNetworks").index position))
      config.networks.shared ++
    checkEach
      (fun earlier position network =>
        network.check earlier ((path.child "tenantNetworks").index position))
      config.networks.tenant

/-- The violation of a change of the networks. -/
def checkUpdate (old new : InfrastructureConfig) (path : FieldPath) : List FieldError :=
  errorIf (old.networks ≠ new.networks) (.forbidden (path.child "networks") "field is immutable")

end InfrastructureConfig

/-- Whether a text is a feature gate: letters and digits only. -/
def isFeatureGate (name : String) : Bool :=
  !name.isEmpty && name.toList.all Char.isAlphanum

/-- The violations of a control plane configuration. -/
def ControlPlaneConfig.check (config : ControlPlaneConfig) (path : FieldPath) : List FieldError :=
  match config.cloudController with
  | none => []
  | some settings =>
      let path := (path.child "cloudControllerManager").child "featureGates"
      settings.featureGates.keys.flatMap fun name =>
        errorIf (!isFeatureGate name)
          (.invalid (path.key name) name "feature gate names consist of letters and digits only")

end ShootMachines
