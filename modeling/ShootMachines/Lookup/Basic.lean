import ShootMachines.Gardener.CloudProfile
import ShootMachines.Gardener.SecretBinding
import ShootMachines.Gardener.Shoot
import ShootMachines.Kubernetes.Secret
import ShootMachines.Trace

/-!
# Looking up objects

Admission looks at other objects than the submitted one, and generation at the secret of the provider
cluster. Where they come from is up to the caller.
-/

namespace ShootMachines

/-- How to look up the objects around a submitted one. -/
structure Lookup where
  cloudProfile : (name : String) → Traced CloudProfile
  secretBinding : (space name : String) → Traced SecretBinding
  secret : (space name : String) → Traced Secret
  secretBindings : Traced (List SecretBinding)
  shoots : (space : String) → Traced (List Shoot)

/-- How to look up the data of a secret. -/
structure CredentialSource where
  secretData : SecretReference → Traced (Dict Bytes)

/-- The key of the kubeconfig in the data of a secret. -/
def kubeconfigKey : String := "kubeconfig"

/-- The kubeconfig that a secret holds. -/
def CredentialSource.kubeconfig (source : CredentialSource) (reference : SecretReference) :
    Traced Bytes := do
  let data ← source.secretData reference
  match data.get? kubeconfigKey with
  | some kubeconfig => return kubeconfig
  | none => .fail (.notFound (.secretKey kubeconfigKey reference.space reference.name))

end ShootMachines
