import ShootMachines.Credentials.Kubeconfig
import ShootMachines.Text.Utf8

/-!
# The provider cluster

The machines of a shoot run in the provider cluster, in the namespace of its kubeconfig.
-/

namespace ShootMachines

/-- The cluster that the machines run in. -/
structure ProviderCluster where
  kubeconfig : String
  space : String
  deriving DecidableEq, Repr

/-- The cluster of a kubeconfig. -/
def ProviderCluster.ofKubeconfig (bytes : Bytes) : Except Failure ProviderCluster :=
  match Utf8.decode? bytes with
  | none => .error (.decode .kubeconfig (.malformed "invalid UTF-8"))
  | some kubeconfig => do
      let space ← Kubeconfig.spaceOf kubeconfig
      .ok ⟨kubeconfig, space⟩

end ShootMachines
