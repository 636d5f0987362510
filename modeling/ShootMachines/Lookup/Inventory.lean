import ShootMachines.Lookup.Basic

/-!
# Inventories

An inventory holds given objects and looks them up. Of several objects with one name the first is
found.
-/

namespace ShootMachines

/-- Objects to look up. -/
structure Inventory where
  cloudProfiles : List CloudProfile := []
  secretBindings : List SecretBinding := []
  secrets : List Secret := []
  shoots : List Shoot := []

namespace Inventory

/-- The inventory with one more cloud profile. -/
def addCloudProfile (inventory : Inventory) (profile : CloudProfile) : Inventory :=
  { inventory with cloudProfiles := inventory.cloudProfiles ++ [profile] }

/-- The inventory with one more secret binding. -/
def addSecretBinding (inventory : Inventory) (binding : SecretBinding) : Inventory :=
  { inventory with secretBindings := inventory.secretBindings ++ [binding] }

/-- The inventory with one more secret. -/
def addSecret (inventory : Inventory) (secret : Secret) : Inventory :=
  { inventory with secrets := inventory.secrets ++ [secret] }

/-- The inventory with one more shoot. -/
def addShoot (inventory : Inventory) (shoot : Shoot) : Inventory :=
  { inventory with shoots := inventory.shoots ++ [shoot] }

/-- What was found, or else what is missing. -/
def found (found : Option α) (missing : Missing) : Traced α :=
  .ofResult (found.elim (.error (.notFound missing)) .ok)

/-- Look up the objects of an inventory. Cloud profiles and secrets answer to the name they ask for
if they have none; secret bindings do not. -/
def lookup (inventory : Inventory) : Lookup where
  cloudProfile name :=
    found (inventory.cloudProfiles.find? fun profile => profile.metadata.anyName = name)
      (.cloudProfile name)
  secretBinding space name :=
    found
      (inventory.secretBindings.find? fun binding =>
        binding.metadata.name = some name ∧ binding.metadata.anySpace = space)
      (.secretBinding space name)
  secret space name :=
    found
      (inventory.secrets.find? fun secret =>
        secret.metadata.anyName = name ∧ secret.metadata.anySpace = space)
      (.secret space name)
  secretBindings := pure inventory.secretBindings
  shoots space :=
    pure (inventory.shoots.filter fun shoot => shoot.metadata.anySpace = space)

end Inventory

/-- The data of given secrets, by namespace and name. -/
structure SecretStore where
  secrets : List ((String × String) × Dict Bytes) := []

namespace SecretStore

/-- The store with one more secret; an earlier one with the same namespace and name gives way. -/
def add (store : SecretStore) (space name : String) (data : Dict Bytes) : SecretStore :=
  ⟨((space, name), data) :: store.secrets⟩

/-- The store with one more secret that holds only a kubeconfig. -/
def addKubeconfig (store : SecretStore) (space name : String) (kubeconfig : Bytes) : SecretStore :=
  store.add space name (Dict.empty.insert kubeconfigKey kubeconfig)

/-- Look up the secrets of a store. -/
def source (store : SecretStore) : CredentialSource where
  secretData reference :=
    Inventory.found (store.secrets.lookup (reference.space, reference.name))
      (.secret reference.space reference.name)

end SecretStore

end ShootMachines
