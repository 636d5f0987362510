import ShootMachines.Admission.Secret
import ShootMachines.Lookup.Inventory
import ShootMachines.Proofs.Admission.ShootRuns
import ShootMachines.Proofs.Text.TextLemmas

/-!
# Secrets in use

A shoot uses a secret through a binding if the binding refers to the secret and may be used with the
provider, and the shoot names the binding in its namespace. The search for such a pair walks through the
bindings and stops at the first one that a shoot uses; it finds one exactly if there is one. So a secret
is refused exactly if its data is new, a pair exists and the kubeconfig is missing or empty, whatever the
order of the bindings and shoots and whatever else is there.
-/

namespace ShootMachines

/-- A provider section lists a type: one of the parts between its commas is the type with blanks around
it. -/
def BindingProvider.Lists (provider : BindingProvider) (type : String) : Prop :=
  ∃ parts : List (List Char), provider.type.toList = [','].intercalate parts ∧
    (∀ part ∈ parts, ',' ∉ part) ∧ ∃ part ∈ parts, BlanksAround type.toList part

/-- A type that neither starts nor ends with a blank is listed exactly if it is a trimmed part. -/
theorem BindingProvider.lists_iff {provider : BindingProvider} {type : String}
    (hfirst : StartsOutside isBlank type.toList)
    (hlast : StartsOutside isBlank type.toList.reverse) :
    provider.Lists type ↔
      ∃ part ∈ SecretBinding.commaParts provider.type.toList, trimChars part = type.toList := by
  unfold SecretBinding.commaParts
  constructor
  · rintro ⟨parts, htext, hparts, part, hpart, haround⟩
    refine ⟨part, ?_, haround.trim_chars_eq hfirst hlast⟩
    rw [htext, List.splitOn_intercalate ',' hparts (List.ne_nil_of_mem hpart)]
    exact hpart
  · rintro ⟨part, hpart, htrim⟩
    exact ⟨_, (List.intercalate_splitOn ',').symm, fun _ hother => not_mem_of_mem_split_on hother,
      part, hpart, htrim ▸ blanks_around_trim_chars part⟩

/-- A binding may be used with the provider exactly if it has no provider section or lists it. -/
theorem SecretBinding.supports_iff {binding : SecretBinding} :
    binding.supports providerType = true ↔
      ∀ provider ∈ binding.provider, provider.Lists providerType := by
  have hfirst : StartsOutside isBlank providerType.toList := .cons (by decide) _
  have hlast : StartsOutside isBlank providerType.toList.reverse := .cons (by decide) _
  unfold supports
  cases binding.provider with
  | none => simp
  | some provider => simp [BindingProvider.lists_iff hfirst hlast]

namespace Secret

/-- A shoot of the provider uses a secret through a binding. Missing names and namespaces are empty; the
name that the secret asks for stands for a missing one. -/
structure UsedThrough (secret : Secret) (binding : SecretBinding) (shoot : Shoot) : Prop where
  name_eq : binding.secretRef.name =
    (secret.metadata.name.or secret.metadata.generateName).getD ""
  space_eq : binding.secretRef.space = secret.metadata.space.getD ""
  supported : ∀ provider ∈ binding.provider, provider.Lists providerType
  same_space : shoot.metadata.space.getD "" = binding.metadata.space.getD ""
  bound : shoot.spec.secretBindingName = binding.metadata.name.getD ""
  type_eq : shoot.spec.provider.type = providerType

/-- Some shoot of the provider uses a secret through some binding. -/
def UsedIn (secret : Secret) (inventory : Inventory) : Prop :=
  ∃ binding ∈ inventory.secretBindings, ∃ shoot ∈ inventory.shoots,
    secret.UsedThrough binding shoot

/-- The data of a secret has a kubeconfig that is not empty. -/
def HasKubeconfig (secret : Secret) : Prop :=
  ∃ data ∈ secret.data, ∃ kubeconfig ∈ data.get? kubeconfigKey, kubeconfig ≠ []

/-- What makes a secret refused: its data is not that of before, it is in use, and it has no
kubeconfig. -/
structure Refused (secret : Secret) (inventory : Inventory) (old : Option Secret) : Prop where
  changed : ∀ earlier ∈ old, earlier.data ≠ secret.data
  used : secret.UsedIn inventory
  bare : ¬ secret.HasKubeconfig

/-- A larger inventory has the bindings and the shoots of another one, in any order, and none of the
further ones takes part in a use of the secret. -/
structure UnusedBeyond (secret : Secret) (inventory larger : Inventory) : Prop where
  bindings : ∃ further, larger.secretBindings.Perm (inventory.secretBindings ++ further) ∧
    ∀ binding ∈ further, ∀ shoot ∈ larger.shoots, ¬ secret.UsedThrough binding shoot
  shoots : ∃ further, larger.shoots.Perm (inventory.shoots ++ further) ∧
    ∀ shoot ∈ further, ∀ binding ∈ larger.secretBindings, ¬ secret.UsedThrough binding shoot

variable {secret : Secret} {inventory larger : Inventory} {old : Option Secret}

/-! ## The search for a pair -/

/-- The search through bindings finds out whether a shoot of the namespace of one of them uses it. -/
theorem in_use_through_result (inventory : Inventory) (secret : Secret) (type : String)
    (bindings : List SecretBinding) :
    (secret.inUseThrough inventory.lookup type bindings).result =
      .ok (bindings.any fun binding => secret.isBoundBy type binding &&
        inventory.shoots.any fun shoot =>
          shoot.metadata.anySpace = binding.metadata.anySpace && uses binding type shoot) := by
  induction bindings with
  | nil => rfl
  | cons binding rest ih =>
      unfold inUseThrough
      rw [List.any_cons]
      cases hbound : secret.isBoundBy type binding with
      | false => simpa using ih
      | true =>
          have hshoots : (inventory.lookup.shoots binding.metadata.anySpace).result =
              .ok (inventory.shoots.filter fun shoot =>
                shoot.metadata.anySpace = binding.metadata.anySpace) := rfl
          rw [if_pos rfl, Run.result_bind, hshoots, ok_bind, List.any_filter, Bool.true_and]
          -- The first binding that a shoot uses ends the search.
          cases hused : inventory.shoots.any fun shoot =>
              decide (shoot.metadata.anySpace = binding.metadata.anySpace) &&
                uses binding type shoot with
          | false => simpa using ih
          | true => rfl

/-- The conditions of the search on a binding and a shoot are those of a use. -/
theorem used_through_iff {binding : SecretBinding} {shoot : Shoot} :
    (secret.isBoundBy providerType binding &&
      (shoot.metadata.anySpace = binding.metadata.anySpace && uses binding providerType shoot)) =
        true ↔ secret.UsedThrough binding shoot := by
  simp only [isBoundBy, uses, Bool.and_eq_true, decide_eq_true_eq, SecretBinding.supports_iff]
  constructor
  · rintro ⟨⟨⟨hname, hspace⟩, hsupported⟩, hsame, hbound, htype⟩
    exact ⟨hname, hspace, hsupported, hsame, hbound, htype⟩
  · rintro ⟨hname, hspace, hsupported, hsame, hbound, htype⟩
    exact ⟨⟨⟨hname, hspace⟩, hsupported⟩, hsame, hbound, htype⟩

instance (secret : Secret) (binding : SecretBinding) (shoot : Shoot) :
    Decidable (secret.UsedThrough binding shoot) :=
  decidable_of_iff _ used_through_iff

instance (secret : Secret) (inventory : Inventory) : Decidable (secret.UsedIn inventory) :=
  inferInstanceAs (Decidable (∃ binding ∈ _, ∃ shoot ∈ _, secret.UsedThrough binding shoot))

/-- The search in an inventory finds out whether the secret is in use. -/
theorem in_use_result (inventory : Inventory) (secret : Secret) :
    (secret.inUse inventory.lookup providerType).result =
      .ok (decide (secret.UsedIn inventory)) := by
  have hresult := in_use_through_result inventory secret providerType inventory.secretBindings
  have hfound : (inventory.secretBindings.any fun binding =>
      secret.isBoundBy providerType binding && inventory.shoots.any fun shoot =>
        shoot.metadata.anySpace = binding.metadata.anySpace && uses binding providerType shoot) =
      decide (secret.UsedIn inventory) := by
    rw [Bool.eq_iff_iff, decide_eq_true_iff, List.any_eq_true]
    refine exists_congr fun binding => and_congr_right fun _ => ?_
    simp only [← used_through_iff, Bool.and_eq_true, List.any_eq_true]
    exact ⟨fun ⟨hbound, shoot, hshoot, huses⟩ => ⟨shoot, hshoot, hbound, huses⟩,
      fun ⟨shoot, hshoot, hbound, huses⟩ => ⟨hbound, shoot, hshoot, huses⟩⟩
  rw [← hfound, ← hresult]
  rfl

/-- Whether a secret is in use does not depend on the order of the bindings and shoots, nor on further
ones that take no part in a use. -/
theorem UnusedBeyond.used_in_iff (h : secret.UnusedBeyond inventory larger) :
    secret.UsedIn larger ↔ secret.UsedIn inventory := by
  obtain ⟨bindings, hbindings, hnobinding⟩ := h.bindings
  obtain ⟨shoots, hshoots, hnoshoot⟩ := h.shoots
  constructor
  · rintro ⟨binding, hbinding, shoot, hshoot, hused⟩
    refine ⟨binding, ?_, shoot, ?_, hused⟩
    · exact (List.mem_append.1 (hbindings.mem_iff.1 hbinding)).resolve_right fun hfurther =>
        hnobinding binding hfurther shoot hshoot hused
    · exact (List.mem_append.1 (hshoots.mem_iff.1 hshoot)).resolve_right fun hfurther =>
        hnoshoot shoot hfurther binding hbinding hused
  · rintro ⟨binding, hbinding, shoot, hshoot, hused⟩
    exact ⟨binding, hbindings.mem_iff.2 (List.mem_append_left _ hbinding),
      shoot, hshoots.mem_iff.2 (List.mem_append_left _ hshoot), hused⟩

/-! ## The verdict -/

/-- The check of a secret finds nothing exactly if the secret has a kubeconfig. -/
theorem check_eq_nil_iff : secret.check = [] ↔ secret.HasKubeconfig := by
  unfold check HasKubeconfig entries errorIf
  cases secret.data with
  | none => simp [Dict.get?, Dict.empty]
  | some data => cases hkubeconfig : data.get? kubeconfigKey <;> simp [hkubeconfig]

instance (secret : Secret) : Decidable secret.HasKubeconfig :=
  decidable_of_iff _ check_eq_nil_iff

/-- Acceptance looks at the use and at the kubeconfig of changed data only. -/
theorem accept_result (inventory : Inventory) (secret : Secret) (old : Option Secret) :
    (secret.accept inventory.lookup old).result =
      if (∀ earlier ∈ old, earlier.data ≠ secret.data) ∧ secret.UsedIn inventory then
        Failure.ofErrors secret.check
      else .ok () := by
  have hchanged : (old.any fun earlier => earlier.data = secret.data) = true ↔
      ¬ ∀ earlier ∈ old, earlier.data ≠ secret.data := by
    cases old <;> simp
  unfold accept
  by_cases hsame : (old.any fun earlier => earlier.data = secret.data) = true
  · rw [if_pos hsame, if_neg fun h => hchanged.1 hsame h.1, Run.result_debug]
  · have hnew : ∀ earlier ∈ old, earlier.data ≠ secret.data :=
      not_not.1 (mt hchanged.2 hsame)
    rw [if_neg hsame, Run.result_bind, in_use_result, ok_bind]
    by_cases hused : secret.UsedIn inventory
    · rw [if_pos (decide_eq_true hused), if_pos ⟨hnew, hused⟩, Run.result_lift]
    · rw [if_neg (by simpa using hused), if_neg fun h => hused h.2, Run.result_debug]

/-- Acceptance fails exactly if the data of the secret is not that of before, a shoot uses the secret
through a binding and the kubeconfig is missing or empty; then it names the violations. The result is the
same in every inventory with the bindings and shoots in another order, and with further objects that take
no part in a use. -/
theorem accept_verdict (inventory : Inventory) (secret : Secret) (old : Option Secret) :
    (∀ failure, (secret.accept inventory.lookup old).result = .error failure ↔
      secret.Refused inventory old ∧ failure = .validation secret.check) ∧
    ∀ larger, secret.UnusedBeyond inventory larger →
      (secret.accept larger.lookup old).result = (secret.accept inventory.lookup old).result := by
  refine ⟨fun failure => ?_, fun larger hlarger => ?_⟩
  · rw [accept_result]
    constructor
    · intro h
      split at h
      · rename_i hlooked
        obtain ⟨hviolations, hfailure⟩ := of_errors_eq_error_iff.1 h
        exact ⟨⟨hlooked.1, hlooked.2, mt check_eq_nil_iff.2 hviolations⟩, hfailure⟩
      · cases h
    · rintro ⟨hrefused, hfailure⟩
      rw [if_pos ⟨hrefused.changed, hrefused.used⟩]
      exact of_errors_eq_error_iff.2 ⟨mt check_eq_nil_iff.1 hrefused.bare, hfailure⟩
  · rw [accept_result, accept_result, if_congr (and_congr_right fun _ => hlarger.used_in_iff) rfl rfl]

/-- A secret with a kubeconfig that asks for a name. -/
def cloudSecret (kubeconfig : Bytes) : Secret where
  data := some (Dict.empty.insert kubeconfigKey kubeconfig)
  immutable := none
  metadata := { Metadata.empty with generateName := some "cloud", space := some "keys" }
  stringData := none
  type := none

/-- A binding of a namespace to the secret, for given types. -/
def cloudBinding (space name types : String) : SecretBinding where
  metadata := { Metadata.empty with name := some name, space := some space }
  secretRef := ⟨"cloud", "keys"⟩
  provider := some ⟨types⟩

/-- A shoot of a type that names a binding of its namespace. -/
def boundShoot (space binding type : String) : Shoot where
  metadata := { Metadata.empty with name := some "shoot", space := some space }
  spec := ⟨"profile", "region", binding, ⟨"1"⟩, ⟨none, none, none, none⟩, ⟨type, none, none, []⟩⟩

/-- Of three bindings to the secret only the last one is used, and by a shoot outside the namespace of
the secret. -/
def crowdedInventory : Inventory where
  secretBindings := [cloudBinding "garden" "first" "aws", cloudBinding "garden" "second" "kubevirt",
    cloudBinding "field" "third" "aws, kubevirt "]
  shoots := [boundShoot "garden" "first" providerType, boundShoot "field" "third" providerType]

/-- The inventory in reverse, with a shoot of another type and a binding that nothing uses. -/
def overgrownInventory : Inventory where
  secretBindings := cloudBinding "field" "fourth" "kubevirt" :: crowdedInventory.secretBindings.reverse
  shoots := boundShoot "garden" "second" "aws" :: crowdedInventory.shoots.reverse

/-- A secret whose kubeconfig was emptied is refused for the use through the last binding, also among
objects that do not use it. -/
theorem emptied_secret_refused :
    ((cloudSecret []).accept crowdedInventory.lookup (some (cloudSecret [97]))).result =
      .error (.validation (cloudSecret []).check) ∧
    (cloudSecret []).UnusedBeyond crowdedInventory overgrownInventory ∧
    ((cloudSecret []).accept overgrownInventory.lookup (some (cloudSecret [97]))).result =
      .error (.validation (cloudSecret []).check) := by
  obtain ⟨hfails, hsame⟩ :=
    accept_verdict crowdedInventory (cloudSecret []) (some (cloudSecret [97]))
  have hrefused : (cloudSecret []).Refused crowdedInventory (some (cloudSecret [97])) :=
    ⟨by decide, by decide, by decide⟩
  have hunused : (cloudSecret []).UnusedBeyond crowdedInventory overgrownInventory := by
    refine ⟨⟨[cloudBinding "field" "fourth" "kubevirt"], ?_, by decide⟩,
      ⟨[boundShoot "garden" "second" "aws"], ?_, by decide⟩⟩
    · exact ((List.reverse_perm _).cons _).trans (List.perm_append_singleton _ _).symm
    · exact ((List.reverse_perm _).cons _).trans (List.perm_append_singleton _ _).symm
  have hfailed := (hfails _).2 ⟨hrefused, rfl⟩
  exact ⟨hfailed, hunused, (hsame _ hunused).trans hfailed⟩

end Secret

end ShootMachines
