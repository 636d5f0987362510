import ShootMachines.Admission.EachItem
import ShootMachines.Admission.Profile
import ShootMachines.Lookup.Basic
import ShootMachines.Text.Quoted

/-!
# Admission of secrets

A secret that a shoot of the provider uses through a secret binding has to hold a kubeconfig. Other
secrets are not looked at, nor is a change that leaves the data as it was.
-/

namespace ShootMachines

namespace Secret

/-- The violations of the secret of a provider cluster. -/
def check (secret : Secret) : List FieldError :=
  let path := FieldPath.key ⟨"data", []⟩ kubeconfigKey
  match secret.entries.get? kubeconfigKey with
  | none => [.required path ("missing " ++ quoted kubeconfigKey ++ " field in secret")]
  | some kubeconfig =>
      errorIf kubeconfig.isEmpty
        (.required path (quoted kubeconfigKey ++ " field in secret must not be empty"))

/-- Whether a binding makes a secret usable with a provider type. -/
def isBoundBy (secret : Secret) (type : String) (binding : SecretBinding) : Bool :=
  binding.secretRef.name = secret.metadata.anyName &&
    binding.secretRef.space = secret.metadata.anySpace && binding.supports type

/-- Whether a shoot of a provider type uses a binding of its namespace. -/
def uses (binding : SecretBinding) (type : String) (shoot : Shoot) : Bool :=
  shoot.spec.secretBindingName = binding.metadata.name.getD "" && shoot.spec.provider.type = type

/-- Whether a shoot of a provider type uses a secret through one of the bindings. -/
def inUseThrough (lookup : Lookup) (secret : Secret) (type : String) :
    List SecretBinding → Traced Bool
  | [] => pure false
  | binding :: rest => do
      if secret.isBoundBy type binding then
        let shoots ← lookup.shoots binding.metadata.anySpace
        if shoots.any (uses binding type) then
          .debug ("Secret " ++ secret.metadata.key ++ " is used by a " ++ type ++
            " shoot through binding " ++ binding.metadata.anySpace ++ "/" ++
            binding.metadata.name.getD "")
          return true
      inUseThrough lookup secret type rest

/-- Whether a shoot of a provider type uses a secret. -/
def inUse (lookup : Lookup) (secret : Secret) (type : String) : Traced Bool := do
  let bindings ← lookup.secretBindings
  inUseThrough lookup secret type bindings

/-- Accept a secret, or the change of one. -/
def accept (lookup : Lookup) (secret : Secret) (old : Option Secret) : Traced Unit := do
  if old.any fun old => old.data = secret.data then
    .debug ("Data of secret " ++ secret.metadata.key ++ " unchanged, skipping validation")
  else if ← secret.inUse lookup providerType then
    Failure.ofErrors secret.check
  else
    .debug ("Secret " ++ secret.metadata.key ++ " is not used by any KubeVirt shoot")

end Secret

end ShootMachines
