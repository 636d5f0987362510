import Mathlib
import ShootMachines.Machines.Generation
import ShootMachines.Proofs.Admission.ShootRuns
import ShootMachines.Proofs.Lookup.DocumentTables
import ShootMachines.Proofs.Machines.PlanPools
import ShootMachines.Proofs.Text.Utf8RoundTrip

/-!
# Inventories and APIs are interchangeable

Admission and generation see other objects through lookups only, and an API that serves an inventory is
looked up like it. So a shoot or a secret is accepted, or refused for the same reasons, with either of
them, and a worker has the same machine plan (`Api.Serves.interchangeable`). Early ends of a run need no
care: the run with the other lookup ends at the same step.
-/

namespace ShootMachines

/-- Whether the names by which a shoot refers to objects of an inventory are safe in paths: its cloud
profile, its secret binding, and the secret of that binding. -/
def Shoot.RefersSafely (shoot : Shoot) (inventory : Inventory) : Prop :=
  PathSafe shoot.spec.cloudProfileName ∧
    (shoot.spec.secretBindingName ≠ "" →
      (Resource.secretBinding shoot.metadata.anySpace shoot.spec.secretBindingName).Safe) ∧
    ∀ binding ∈ inventory.secretBindings,
      binding.metadata.name = some shoot.spec.secretBindingName →
      binding.metadata.anySpace = shoot.metadata.anySpace →
      (Resource.secret binding.secretRef.space binding.secretRef.name).Safe

/-- Whether a store holds the data of secrets, and nothing else. -/
structure SecretStore.Holds (store : SecretStore) (secrets : List Secret) : Prop where
  held : ∀ secret ∈ secrets,
    store.secrets.lookup (secret.metadata.anySpace, secret.metadata.anyName) = some secret.entries
  missing : ∀ space name,
    (∀ secret ∈ secrets, ¬(secret.metadata.anyName = name ∧ secret.metadata.anySpace = space)) →
    store.secrets.lookup (space, name) = none

namespace Shoot

variable {scheme : Scheme} {shoot : Shoot} {lookup other : Lookup}

/-- A context depends on the lookup of the cloud profile only. -/
theorem context_result_congr
    (h : (lookup.cloudProfile shoot.spec.cloudProfileName).result =
      (other.cloudProfile shoot.spec.cloudProfileName).result) :
    (shoot.context scheme lookup).result = (shoot.context scheme other).result := by
  unfold context
  simp only [Run.result_bind, Run.result_lift, h]

/-- Admission depends on the context and the check of the secret only. -/
theorem accept_result_congr {old : Option Shoot}
    (hcontext : (shoot.context scheme lookup).result = (shoot.context scheme other).result)
    (hsecret : (shoot.acceptSecret lookup).result = (shoot.acceptSecret other).result) :
    (shoot.accept scheme lookup old).result = (shoot.accept scheme other old).result := by
  by_cases htype : shoot.spec.provider.type = providerType
  · cases old with
    | none => rw [accept_creation_result htype, accept_creation_result htype, hcontext, hsecret]
    | some old => rw [accept_update_result htype, accept_update_result htype, hcontext]
  · unfold accept
    rw [if_pos htype, if_pos htype]

end Shoot

/-- A secret binding that an inventory finds is one of its own, with the name that was looked for. -/
theorem Inventory.mem_of_secret_binding {inventory : Inventory} {space name : String}
    {binding : SecretBinding}
    (h : (inventory.lookup.secretBinding space name).result = .ok binding) :
    binding ∈ inventory.secretBindings ∧ binding.metadata.name = some name ∧
      binding.metadata.anySpace = space := by
  unfold lookup found at h
  cases hfind : inventory.secretBindings.find? fun binding =>
      binding.metadata.name = some name ∧ binding.metadata.anySpace = space with
  | none =>
      simp only [hfind] at h
      cases h
  | some present =>
      simp only [hfind] at h
      obtain rfl := Except.ok.inj h
      have hsought := List.find?_some hfind
      exact ⟨List.mem_of_find?_eq_some hfind, of_decide_eq_true hsought⟩

namespace Api.Serves

variable {api : Api} {inventory : Inventory}

/-- The secret that a shoot binds is checked alike. -/
theorem accept_secret_result (hserves : api.Serves inventory) (hsafe : inventory.Safe)
    {shoot : Shoot} (hrefers : shoot.RefersSafely inventory) :
    (shoot.acceptSecret api.lookup).result = (shoot.acceptSecret inventory.lookup).result := by
  obtain ⟨_, hbinding, hsecret⟩ := hrefers
  unfold Shoot.acceptSecret
  split
  · rfl
  · rename_i hname
    rw [Run.result_bind, Run.result_bind,
      hserves.secret_binding_result hsafe (hbinding (by simpa using hname))]
    cases hfound : (inventory.lookup.secretBinding shoot.metadata.anySpace
        shoot.spec.secretBindingName).result with
    | error failure => rfl
    | ok binding =>
        obtain ⟨hmem, hstated, hspace⟩ := Inventory.mem_of_secret_binding hfound
        rw [ok_bind, ok_bind, Run.result_bind, Run.result_bind,
          hserves.secret_result hsafe (hsecret binding hmem hstated hspace)]

/-- The bindings of an inventory are searched alike for one through which a secret is used. -/
theorem in_use_through_result (hserves : api.Serves inventory) (hsafe : inventory.Safe)
    (secret : Secret) (type : String) {bindings : List SecretBinding}
    (hbindings : ∀ binding ∈ bindings, binding ∈ inventory.secretBindings) :
    (secret.inUseThrough api.lookup type bindings).result =
      (secret.inUseThrough inventory.lookup type bindings).result := by
  induction bindings with
  | nil => rfl
  | cons binding rest ih =>
      obtain ⟨hbinding, hrest⟩ := List.forall_mem_cons.1 hbindings
      have hobject : binding.resource ∈ inventory.objects := by
        have hmem := List.mem_map_of_mem (f := SecretBinding.resource) hbinding
        simp only [Inventory.objects, List.mem_append, hmem, true_or, or_true]
      have hspace : binding.metadata.anySpace ∈ inventory.spaces :=
        List.mem_filterMap.2 ⟨_, hobject, rfl⟩
      have hshoots := hserves.shoots_result hsafe hspace
      have hothers := ih hrest
      unfold Secret.inUseThrough
      split
      · rw [Run.result_bind, Run.result_bind, hshoots]
        congr 1
        funext shoots
        split
        · rfl
        · exact hothers
      · exact hothers

/-- The data of a secret is looked up like in a store that holds the secrets of the inventory. -/
theorem secret_data_result (hserves : api.Serves inventory) (hsafe : inventory.Safe)
    {store : SecretStore} (hholds : store.Holds inventory.secrets) {reference : SecretReference}
    (hreference : (Resource.secret reference.space reference.name).Safe) :
    (api.credentials.secretData reference).result = (store.source.secretData reference).result := by
  have hsecret := hserves.secret_result hsafe hreference
  simp only [credentials, Run.result_bind, Run.result_debug, ok_bind, hsecret]
  unfold Inventory.lookup SecretStore.source
  cases hfind : inventory.secrets.find? fun secret =>
      secret.metadata.anyName = reference.name ∧ secret.metadata.anySpace = reference.space with
  | none =>
      have hmissing := hholds.missing reference.space reference.name fun secret hsecret hsame =>
        List.find?_eq_none.1 hfind secret hsecret (decide_eq_true hsame)
      simp only [hfind, hmissing]
      rfl
  | some secret =>
      have hsought := List.find?_some hfind
      obtain ⟨hname, hspace⟩ := of_decide_eq_true hsought
      have hheld := hholds.held secret (List.mem_of_find?_eq_some hfind)
      rw [hname, hspace] at hheld
      simp only [hfind, hheld]
      rfl

/-- With an API that serves an inventory, admission has the same result as with the inventory, and the
machine plan of a worker is the same as with a store that holds the secrets of the inventory. -/
theorem interchangeable (hserves : api.Serves inventory) (hsafe : inventory.Safe)
    (scheme : Scheme) :
    (∀ (shoot : Shoot) (old : Option Shoot), shoot.RefersSafely inventory →
      (shoot.accept scheme api.lookup old).result =
        (shoot.accept scheme inventory.lookup old).result) ∧
    (∀ (secret : Secret) (old : Option Secret),
      (secret.accept api.lookup old).result = (secret.accept inventory.lookup old).result) ∧
    ∀ (store : SecretStore) (worker : Worker) (cluster : Cluster), store.Holds inventory.secrets →
      (Resource.secret worker.spec.secretRef.space worker.spec.secretRef.name).Safe →
      (MachinePlan.generate scheme api.credentials worker cluster).result =
        (MachinePlan.generate scheme store.source worker cluster).result := by
  refine ⟨fun shoot old hrefers => ?_, fun secret old => ?_,
    fun store worker cluster hholds hreference => ?_⟩
  · exact Shoot.accept_result_congr
      (Shoot.context_result_congr (hserves.cloud_profile_result hsafe hrefers.1))
      (hserves.accept_secret_result hsafe hrefers)
  · unfold Secret.accept
    split
    · rfl
    · have hused : (secret.inUse api.lookup providerType).result =
          (secret.inUse inventory.lookup providerType).result := by
        unfold Secret.inUse
        rw [Run.result_bind, Run.result_bind, hserves.secret_bindings_result]
        exact hserves.in_use_through_result hsafe secret providerType fun _ hbinding => hbinding
      rw [Run.result_bind, Run.result_bind, hused]
  · have hkubeconfig : (api.credentials.kubeconfig worker.spec.secretRef).result =
        (store.source.kubeconfig worker.spec.secretRef).result := by
      unfold CredentialSource.kubeconfig
      rw [Run.result_bind, Run.result_bind, hserves.secret_data_result hsafe hholds hreference]
    unfold MachinePlan.generate
    simp only [Run.result_bind, hkubeconfig]

end Api.Serves

/-- A kubeconfig whose current context works in a namespace. -/
def sampleKubeconfig : String :=
  "apiVersion: v1\nkind: Config\ncontexts:\n- name: c\n  context:\n    cluster: k\n    " ++
    "namespace: machines\ncurrent-context: c\n"

/-- The machines of the sample run in that namespace. -/
theorem sample_kubeconfig_cluster :
    ProviderCluster.ofKubeconfig (Utf8.encode sampleKubeconfig) = .ok ⟨sampleKubeconfig, "machines"⟩ := by
  have hspace : Kubeconfig.spaceOf sampleKubeconfig = .ok "machines" :=
    eq_ok_of_to_option_eq_some (by decide +kernel)
  unfold ProviderCluster.ofKubeconfig
  rw [Utf8.decode?_encode]
  dsimp only
  rw [hspace, ok_bind]

/-- The metadata of an object in the namespace of the sample. -/
def sampleMetadata (name : String) : Metadata :=
  { Metadata.empty with name := some name, space := some "space" }

/-- The secret that the sample worker refers to, with the kubeconfig. -/
def sampleSecret : Secret :=
  ⟨some (Dict.empty.insert kubeconfigKey (Utf8.encode sampleKubeconfig)), none, sampleMetadata "secret",
    none, none⟩

/-- A shoot of the sample cloud profile with a pool, whose machines start from an image of the profile. -/
def sampleShoot (name binding : String) : Shoot :=
  ⟨sampleMetadata name, ⟨"profile", "region", binding, ⟨"1.31.0"⟩, ⟨none, some "10.0.0.0/16", none, none⟩,
    ⟨providerType, none, none,
      [⟨"pool", ⟨"small", some ⟨"linux", "1"⟩⟩, 1, 3, none, none, none, [], ["a"], none⟩]⟩⟩⟩

/-- An inventory with the sample cloud profile, the secret, two bindings of the secret, and two shoots, of
which the second one uses the second binding. -/
def sampleInventory : Inventory where
  cloudProfiles :=
    [{ MachinePlan.sampleCluster.cloudProfile with
      metadata := { Metadata.empty with name := some "profile" } }]
  secretBindings :=
    [⟨sampleMetadata "spare", ⟨"secret", "space"⟩, none⟩,
      ⟨sampleMetadata "binding", ⟨"secret", "space"⟩, some ⟨"other, kubevirt"⟩⟩]
  secrets := [sampleSecret]
  shoots := [sampleShoot "idle" "", sampleShoot "busy" "binding"]

/-- The API that gives the documents of the sample inventory. -/
def sampleApi : Api :=
  Api.ofTable (documentTable sampleInventory.documents)

/-- The sample inventory is served by its documents. -/
theorem sample_documented : sampleInventory.Documented where
  safe := by decide +kernel
  distinct := by decide +kernel
  plain := by decide +kernel
  cloudProfile := by decide +kernel
  secretBinding := by decide +kernel
  secret := by decide +kernel
  shoot := by decide +kernel

/-- The sample secret without its data. -/
def sampleEmptied : Secret := { sampleSecret with data := none }

/-- The store of the sample secret. -/
def sampleStore : SecretStore := SecretStore.add ⟨[]⟩ "space" "secret" sampleSecret.entries

/-- The store holds the secrets of the sample inventory. -/
theorem sample_store_holds : sampleStore.Holds sampleInventory.secrets where
  held := by
    intro secret hsecret
    obtain rfl := List.mem_singleton.1 hsecret
    rfl
  missing := by
    intro space name hother
    have hne : (space, name) ≠ ("space", "secret") := fun hsame => by
      obtain ⟨rfl, rfl⟩ := Prod.mk.inj hsame
      exact hother sampleSecret (.head _) ⟨rfl, rfl⟩
    simp [sampleStore, SecretStore.add, List.lookup_cons, beq_false_of_ne hne]

/-- With the API that gives the documents of the sample inventory, a new shoot is accepted as with the
inventory. The secret may not lose its data, as the second shoot uses it through the second binding. The
sample worker has the machine plan that it has with a store of the secret: the plan in the namespace of the
kubeconfig. -/
theorem sample_inventory_interchangeable :
    ((sampleShoot "new" "spare").accept .standard sampleApi.lookup none).result =
        ((sampleShoot "new" "spare").accept .standard sampleInventory.lookup none).result ∧
      ((sampleShoot "new" "spare").accept .standard sampleInventory.lookup none).result = .ok () ∧
      (sampleEmptied.accept sampleApi.lookup (some sampleSecret)).result =
        (sampleEmptied.accept sampleInventory.lookup (some sampleSecret)).result ∧
      (sampleEmptied.accept sampleInventory.lookup (some sampleSecret)).result =
        .error (.validation [.required (FieldPath.key ⟨"data", []⟩ "kubeconfig")
          "missing \"kubeconfig\" field in secret"]) ∧
      (MachinePlan.generate .standard sampleApi.credentials MachinePlan.sampleWorker
          MachinePlan.sampleCluster).result =
        (MachinePlan.generate .standard sampleStore.source MachinePlan.sampleWorker
          MachinePlan.sampleCluster).result ∧
      ∃ plan, (MachinePlan.generate .standard sampleStore.source MachinePlan.sampleWorker
          MachinePlan.sampleCluster).result = .ok plan ∧
        (MachinePlan.compile .standard MachinePlan.sampleWorker MachinePlan.sampleCluster
          ⟨sampleKubeconfig, "machines"⟩).result = .ok plan := by
  have hrefers : (sampleShoot "new" "spare").RefersSafely sampleInventory := by
    have hsafe : ∀ binding ∈ sampleInventory.secretBindings,
        (Resource.secret binding.secretRef.space binding.secretRef.name).Safe := by decide +kernel
    exact ⟨by decide +kernel, fun _ => by decide +kernel,
      fun binding hbinding _ _ => hsafe binding hbinding⟩
  obtain ⟨⟨⟩, haccepted⟩ := exists_eq_ok
    (show ((sampleShoot "new" "spare").accept .standard sampleInventory.lookup none).result.isOk = true by
      decide +kernel)
  obtain ⟨plan, hcompiled⟩ := exists_eq_ok
    (show (MachinePlan.compile .standard MachinePlan.sampleWorker MachinePlan.sampleCluster
      ⟨sampleKubeconfig, "machines"⟩).result.isOk = true by decide +kernel)
  have hgenerated : (MachinePlan.generate .standard sampleStore.source MachinePlan.sampleWorker
      MachinePlan.sampleCluster).result = .ok plan := by
    have hkubeconfig : (sampleStore.source.kubeconfig MachinePlan.sampleWorker.spec.secretRef).result =
        .ok (Utf8.encode sampleKubeconfig) := rfl
    unfold MachinePlan.generate
    simp only [Run.result_bind, Run.result_info, Run.result_debug, Run.result_lift, ok_bind, hkubeconfig,
      sample_kubeconfig_cluster]
    exact hcompiled
  obtain ⟨hshoot, hsecret, hplan⟩ :=
    sample_documented.serves.interchangeable sample_documented.safe .standard
  exact ⟨hshoot (sampleShoot "new" "spare") none hrefers, haccepted,
    hsecret sampleEmptied (some sampleSecret), rfl,
    hplan sampleStore MachinePlan.sampleWorker MachinePlan.sampleCluster sample_store_holds
      (by decide +kernel),
    plan, hgenerated, hcompiled⟩

end ShootMachines
