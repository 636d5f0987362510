import Mathlib.Data.List.Flatten
import Mathlib.Data.List.Induction
import Mathlib.Data.List.Perm.Basic
import ShootMachines.Proofs.Admission.ListedNames
import ShootMachines.Proofs.Admission.OncePerField
import ShootMachines.Proofs.Admission.ShootFields

/-!
# The violations of networks

`InfrastructureConfig.Violation` says what is wrong with the networks of a shoot, rule by rule, and
`InfrastructureConfig.fields` lists the fields that can be reported, shared networks first. The check finds
exactly those violations (`InfrastructureConfig.mem_check_iff`), in the order of the fields
(`InfrastructureConfig.check_sublist_fields`). Of the tenant networks before it a network sees the names and
whether one is a default, so repetitions can be counted as the list grows by one network:
`TenantNetwork.count_repeated` and `TenantNetwork.count_forbidden`.
-/

namespace ShootMachines

/-- A violation of a field is reported of this field. -/
theorem error_if_sublist_field (condition : Bool) (error : FieldError) :
    ((errorIf condition error).map FieldError.path).Sublist [error.path] := by
  cases condition with
  | false => exact List.nil_sublist _
  | true => exact .refl _

/-- The items of a list are reported in the order of their fields if every item is. -/
theorem check_each_sublist_fields {α : Type} {check : List α → Nat → α → List FieldError}
    {fields : Nat → List FieldPath} {items : List α}
    (h : ∀ earlier position item,
      ((check earlier position item).map FieldError.path).Sublist (fields position)) :
    ((checkEach check items).map FieldError.path).Sublist
      ((List.range items.length).flatMap fields) := by
  have hpositions : (List.range items.length).flatMap fields =
      items.zipIdx.flatMap fun entry => fields entry.2 := by
    rw [List.range_eq_range', ← List.zipIdx_map_snd, List.flatMap_map]
  unfold checkEach
  rw [hpositions, List.map_flatMap]
  exact List.Sublist.flatMap_right _ fun entry _ => h _ entry.2 entry.1

/-- What is wrong with tenant networks. -/
inductive TenantNetwork.Violation (networks : List TenantNetwork) (path : FieldPath) : FieldError → Prop
  | name {error : FieldError}
      (h : NameViolation "name of the tenant network is required" (networks.map TenantNetwork.name) path
        error) :
      Violation networks path error
  | noConfig {position : Nat} {network : TenantNetwork} (h : networks[position]? = some network)
      (hconfig : network.config = "") :
      Violation networks path
        (.required ((path.index position).child "config") "network configuration is required")
  | badConfig {position : Nat} {network : TenantNetwork} {fault : Json.Fault}
      (h : networks[position]? = some network) (hconfig : network.config ≠ "")
      (hfault : Json.read network.config = .error fault) :
      Violation networks path
        (.invalid ((path.index position).child "config") network.config
          ("must be valid JSON: " ++ fault.reason))
  | secondDefault {position number : Nat} {network other : TenantNetwork}
      (h : networks[position]? = some network) (hdefault : network.isDefault = true)
      (hnumber : number < position) (hother : networks[number]? = some other)
      (hotherDefault : other.isDefault = true) :
      Violation networks path
        (.forbidden ((path.index position).child "default")
          "only one tenant network can be the default network")

/-- Tenant networks have names of their own and configurations that are JSON, and one is the default at
most. -/
structure TenantNetwork.Sound (networks : List TenantNetwork) : Prop where
  names_ne : ∀ network ∈ networks, network.name ≠ ""
  names_nodup : (networks.map TenantNetwork.name).Nodup
  configs_ne : ∀ network ∈ networks, network.config ≠ ""
  configs : ∀ network ∈ networks, ∃ document, Json.read network.config = .ok document
  default_le_one : networks.countP TenantNetwork.isDefault ≤ 1

namespace InfrastructureConfig

/-- The field of the shared networks. -/
def sharedField (path : FieldPath) : FieldPath :=
  (path.child "networks").child "sharedNetworks"

/-- The field of the tenant networks. -/
def tenantField (path : FieldPath) : FieldPath :=
  (path.child "networks").child "tenantNetworks"

/-- What is wrong with the networks of a shoot. -/
inductive Violation (config : InfrastructureConfig) (path : FieldPath) : FieldError → Prop
  | shared {position : Nat} {network : SharedNetwork} (h : config.networks.shared[position]? = some network)
      (hname : network.name = "") :
      Violation config path
        (.required (((sharedField path).index position).child "name")
          "name of the shared network is required")
  | tenant {error : FieldError}
      (h : TenantNetwork.Violation config.networks.tenant (tenantField path) error) :
      Violation config path error

/-- The fields that can be reported, in order: the names of the shared networks, and name, configuration and
default of each tenant network. -/
def fields (config : InfrastructureConfig) (path : FieldPath) : List FieldPath :=
  ((List.range config.networks.shared.length).map fun position =>
      ((sharedField path).index position).child "name") ++
    (List.range config.networks.tenant.length).flatMap fun position =>
      ["name", "config", "default"].map ((tenantField path).index position).child

/-- Networks that can be set up. -/
structure Sound (config : InfrastructureConfig) : Prop where
  shared : ∀ network ∈ config.networks.shared, network.name ≠ ""
  tenant : TenantNetwork.Sound config.networks.tenant

end InfrastructureConfig

namespace TenantNetwork

/-- The violations of tenant networks. -/
def checkAll (networks : List TenantNetwork) (path : FieldPath) : List FieldError :=
  checkEach (fun earlier position network => network.check earlier (path.index position)) networks

/-- The names of tenant networks that have one. -/
def statedNames (networks : List TenantNetwork) : List String :=
  (networks.map TenantNetwork.name).filter fun name => name ≠ ""

variable {networks earlier : List TenantNetwork} {network : TenantNetwork} {path : FieldPath}
  {error : FieldError}

/-- The check of a name finds a missing one, or else a repeated one. -/
theorem mem_check_name_iff : error ∈ checkName earlier network path ↔
    network.name = "" ∧
        error = .required (path.child "name") "name of the tenant network is required" ∨
      network.name ≠ "" ∧ (earlier.any fun other => other.name = network.name) = true ∧
        error = .duplicate (path.child "name") network.name := by
  unfold checkName
  by_cases hname : network.name = ""
  · simp [hname]
  · simp [hname]

/-- The check of a configuration finds a missing one, or else one that is not JSON. -/
theorem mem_check_config_iff : error ∈ checkConfig network path ↔
    network.config = "" ∧
        error = .required (path.child "config") "network configuration is required" ∨
      ∃ fault, network.config ≠ "" ∧ Json.read network.config = .error fault ∧
        error = .invalid (path.child "config") network.config
          ("must be valid JSON: " ++ fault.reason) := by
  unfold checkConfig
  by_cases hconfig : network.config = ""
  · simp [hconfig]
  · cases hread : Json.read network.config with
    | ok document => simp [hconfig]
    | error fault => simp [hconfig]

/-- The check of a default finds one after another one. -/
theorem mem_check_default_iff : error ∈ checkDefault earlier network path ↔
    network.isDefault = true ∧ (∃ other ∈ earlier, other.isDefault = true) ∧
      error = .forbidden (path.child "default")
        "only one tenant network can be the default network" := by
  unfold checkDefault
  rw [mem_error_if, Bool.and_eq_true, List.any_eq_true, and_assoc]

/-- The check of the tenant networks finds what is wrong with them. -/
theorem mem_check_all_iff : error ∈ checkAll networks path ↔ Violation networks path error := by
  unfold checkAll check
  simp only [mem_check_each, List.mem_append, mem_check_name_iff, mem_check_config_iff,
    mem_check_default_iff, any_take_iff, mem_take_iff]
  constructor
  · rintro ⟨position, network, h, ((⟨hname, rfl⟩ | ⟨hname, ⟨number, hnumber, hsame⟩, rfl⟩) |
      ⟨hconfig, rfl⟩ | ⟨fault, hconfig, hfault, rfl⟩) |
      ⟨hdefault, ⟨other, ⟨number, hnumber, hother⟩, hotherDefault⟩, rfl⟩⟩
    · exact .name (.missing (getElem?_map_name.2 ⟨network, h, hname⟩))
    · exact .name (.repeated (getElem?_map_name.2 ⟨network, h, rfl⟩) hname hnumber hsame)
    · exact .noConfig h hconfig
    · exact .badConfig h hconfig hfault
    · exact .secondDefault h hdefault hnumber hother hotherDefault
  · intro h
    cases h with
    | name h =>
        cases h with
        | missing h =>
            obtain ⟨network, hnetwork, hname⟩ := getElem?_map_name.1 h
            exact ⟨_, network, hnetwork, .inl (.inl (.inl ⟨hname, rfl⟩))⟩
        | repeated h hname hnumber hsame =>
            obtain ⟨network, hnetwork, rfl⟩ := getElem?_map_name.1 h
            exact ⟨_, network, hnetwork, .inl (.inl (.inr ⟨hname, ⟨_, hnumber, hsame⟩, rfl⟩))⟩
    | noConfig h hconfig => exact ⟨_, _, h, .inl (.inr (.inl ⟨hconfig, rfl⟩))⟩
    | badConfig h hconfig hfault => exact ⟨_, _, h, .inl (.inr (.inr ⟨_, hconfig, hfault, rfl⟩))⟩
    | secondDefault h hdefault hnumber hother hotherDefault =>
        exact ⟨_, _, h, .inr ⟨hdefault, ⟨_, ⟨_, hnumber, hother⟩, hotherDefault⟩, rfl⟩⟩

/-- One more network is checked after all others. -/
theorem check_all_append_singleton (networks : List TenantNetwork) (network : TenantNetwork)
    (path : FieldPath) :
    checkAll (networks ++ [network]) path =
      checkAll networks path ++ network.check networks (path.index networks.length) :=
  check_each_append_singleton networks network

/-- A configuration is missing or invalid, and nothing else is wrong with it. -/
theorem count_check_config {kind : FieldErrorKind} (hrequired : kind ≠ .required)
    (hinvalid : kind ≠ .invalid) (network : TenantNetwork) (path : FieldPath) :
    (checkConfig network path).countP (fun error => error.kind = kind) = 0 := by
  refine List.countP_eq_zero.2 fun error herror => ?_
  rw [decide_eq_true_eq]
  rcases mem_check_config_iff.1 herror with ⟨_, rfl⟩ | ⟨_, _, _, rfl⟩
  · exact hrequired.symm
  · exact hinvalid.symm

/-- A default after another one is the only thing of a network that is forbidden. -/
theorem count_forbidden_check (earlier : List TenantNetwork) (network : TenantNetwork)
    (path : FieldPath) :
    (network.check earlier path).countP (fun error => error.kind = .forbidden) =
      if network.isDefault && earlier.any TenantNetwork.isDefault then 1 else 0 := by
  have hname : (checkName earlier network path).countP (fun error => error.kind = .forbidden) = 0 := by
    refine List.countP_eq_zero.2 fun error herror => ?_
    rcases mem_check_name_iff.1 herror with ⟨_, rfl⟩ | ⟨_, _, rfl⟩
    · exact Bool.false_ne_true
    · exact Bool.false_ne_true
  unfold check checkDefault
  rw [List.countP_append, List.countP_append, hname, count_check_config (by decide) (by decide)]
  cases network.isDefault && earlier.any TenantNetwork.isDefault <;> rfl

/-- A name after the same one is the only thing of a network that is a duplicate. -/
theorem count_repeated_check (earlier : List TenantNetwork) (network : TenantNetwork)
    (path : FieldPath) :
    (network.check earlier path).countP (fun error => error.kind = .duplicate) =
      if network.name ∈ statedNames earlier then 1 else 0 := by
  have hdefault : (checkDefault earlier network path).countP
      (fun error => error.kind = .duplicate) = 0 := by
    refine List.countP_eq_zero.2 fun error herror => ?_
    obtain ⟨_, _, rfl⟩ := mem_check_default_iff.1 herror
    exact Bool.false_ne_true
  unfold check checkName
  rw [List.countP_append, List.countP_append, count_check_config (by decide) (by decide), hdefault]
  by_cases hname : network.name = ""
  · simp [statedNames, hname, FieldError.required]
  · have hseen : network.name ∈ statedNames earlier ↔
        (earlier.any fun other => other.name = network.name) = true := by
      simp [statedNames, hname]
    rw [if_neg (mt String.isEmpty_iff.1 hname)]
    simp only [hseen]
    cases earlier.any fun other => other.name = network.name <;> rfl

/-- All defaults but the first one are forbidden. -/
theorem count_forbidden (networks : List TenantNetwork) (path : FieldPath) :
    (checkAll networks path).countP (fun error => error.kind = .forbidden) =
      networks.countP TenantNetwork.isDefault - 1 := by
  induction networks using List.reverseRecOn with
  | nil => rfl
  | append_singleton networks network ih =>
      rw [check_all_append_singleton, List.countP_append, List.countP_append, ih,
        count_forbidden_check, List.countP_singleton]
      -- The first default is let through, so one more is forbidden only from the second one on.
      have hseen : networks.any TenantNetwork.isDefault = true ↔
          0 < networks.countP TenantNetwork.isDefault := by
        rw [List.any_eq_true, List.countP_pos_iff]
      cases network.isDefault with
      | false => rfl
      | true =>
          simp only [Bool.true_and, hseen, if_true]
          split <;> omega

/-- Every stated name is reported but for the first time that it occurs. -/
theorem count_repeated (networks : List TenantNetwork) (path : FieldPath) :
    (checkAll networks path).countP (fun error => error.kind = .duplicate) +
      (statedNames networks).eraseDups.length = (statedNames networks).length := by
  induction networks using List.reverseRecOn with
  | nil => rfl
  | append_singleton networks network ih =>
      have hstated : statedNames (networks ++ [network]) =
          statedNames networks ++ if network.name = "" then [] else [network.name] := by
        unfold statedNames
        rw [List.map_append, List.filter_append]
        by_cases hname : network.name = ""
        · simp [hname]
        · simp [hname]
      rw [check_all_append_singleton, List.countP_append, count_repeated_check, hstated]
      by_cases hname : network.name = ""
      · have hunnamed : network.name ∉ statedNames networks := by
          simp [statedNames, hname]
        rw [if_neg hunnamed, if_pos hname, List.append_nil]
        exact ih
      · rw [if_neg hname, erase_dups_append_singleton, List.length_append, List.length_singleton]
        split
        · omega
        · rw [List.length_append, List.length_singleton]
          omega

/-- Nothing is wrong with tenant networks exactly if they are sound. -/
theorem sound_iff : (∀ error, ¬Violation networks path error) ↔ Sound networks := by
  constructor
  · intro h
    obtain ⟨hnames, hnodup⟩ := name_violation_free_iff.1 fun error herror => h error (.name herror)
    have hconfig : ∀ network ∈ networks, network.config ≠ "" := by
      intro network hnetwork hempty
      obtain ⟨position, hposition⟩ := List.getElem?_of_mem hnetwork
      exact h _ (.noConfig hposition hempty)
    refine ⟨hnames, hnodup, hconfig, fun network hnetwork => ?_, ?_⟩
    · obtain ⟨position, hposition⟩ := List.getElem?_of_mem hnetwork
      cases hread : Json.read network.config with
      | ok document => exact ⟨document, rfl⟩
      | error fault => exact absurd (.badConfig hposition (hconfig network hnetwork) hread) (h _)
    · have hclean : checkAll networks path = [] :=
        List.eq_nil_iff_forall_not_mem.2 fun error herror => h error (mem_check_all_iff.1 herror)
      have hcount := count_forbidden networks path
      rw [hclean, List.countP_nil] at hcount
      omega
  · rintro ⟨hnames, hnodup, hconfig, hread, hdefault⟩ error herror
    cases herror with
    | name h => exact name_violation_free_iff.2 ⟨hnames, hnodup⟩ error h
    | noConfig h hempty => exact hconfig _ (List.mem_of_getElem? h) hempty
    | badConfig h _ hfault =>
        obtain ⟨document, hdocument⟩ := hread _ (List.mem_of_getElem? h)
        cases hdocument.symm.trans hfault
    | secondDefault h hthis hnumber hother hotherDefault =>
        -- A second default would be counted.
        have hviolation : Violation networks path _ :=
          .secondDefault h hthis hnumber hother hotherDefault
        have hreported := mem_check_all_iff.2 hviolation
        have hcount := count_forbidden networks path
        have hpos : 0 < (checkAll networks path).countP fun error => error.kind = .forbidden :=
          List.countP_pos_iff.2 ⟨_, hreported, rfl⟩
        omega

/-- Tenant networks stay sound in another order. -/
theorem Sound.of_perm {shuffled : List TenantNetwork} (h : Sound networks)
    (hnetworks : shuffled.Perm networks) : Sound shuffled where
  names_ne network hnetwork := h.names_ne network (hnetworks.mem_iff.1 hnetwork)
  names_nodup := (hnetworks.map TenantNetwork.name).nodup_iff.2 h.names_nodup
  configs_ne network hnetwork := h.configs_ne network (hnetworks.mem_iff.1 hnetwork)
  configs network hnetwork := h.configs network (hnetworks.mem_iff.1 hnetwork)
  default_le_one := by
    rw [hnetworks.countP_eq]
    exact h.default_le_one

/-- A network is reported of its name, its configuration and its default, in this order. -/
theorem check_sublist_fields (earlier : List TenantNetwork) (network : TenantNetwork)
    (path : FieldPath) :
    ((network.check earlier path).map FieldError.path).Sublist
      (["name", "config", "default"].map path.child) := by
  have hname : ((checkName earlier network path).map FieldError.path).Sublist [path.child "name"] := by
    unfold checkName
    split
    · exact .refl _
    · exact error_if_sublist_field _ _
  have hconfig : ((checkConfig network path).map FieldError.path).Sublist [path.child "config"] := by
    unfold checkConfig
    split
    · exact .refl _
    · split
      · exact List.nil_sublist _
      · exact .refl _
  have hdefault : ((checkDefault earlier network path).map FieldError.path).Sublist
      [path.child "default"] :=
    error_if_sublist_field _ _
  unfold check
  rw [List.map_append, List.map_append]
  exact (hname.append hconfig).append hdefault

end TenantNetwork

namespace InfrastructureConfig

variable {config : InfrastructureConfig} {path : FieldPath} {error : FieldError}

/-- The shared networks are checked before the tenant networks. -/
theorem check_eq (config : InfrastructureConfig) (path : FieldPath) :
    config.check path =
      checkEach (fun _ position network => network.check ((sharedField path).index position))
        config.networks.shared ++
      TenantNetwork.checkAll config.networks.tenant (tenantField path) := rfl

/-- The check of the networks finds exactly what is wrong with them. -/
theorem mem_check_iff : error ∈ config.check path ↔ config.Violation path error := by
  rw [check_eq, List.mem_append, TenantNetwork.mem_check_all_iff]
  unfold SharedNetwork.check
  simp only [mem_check_each, mem_error_if, String.isEmpty_iff]
  constructor
  · rintro (⟨position, network, h, hname, rfl⟩ | h)
    · exact .shared h hname
    · exact .tenant h
  · intro h
    cases h with
    | shared h hname => exact .inl ⟨_, _, h, hname, rfl⟩
    | tenant h => exact .inr h

/-- The networks are reported in the order of their fields. -/
theorem check_sublist_fields (config : InfrastructureConfig) (path : FieldPath) :
    ((config.check path).map FieldError.path).Sublist (config.fields path) := by
  rw [check_eq, List.map_append]
  unfold fields
  refine .append ?_ ?_
  · have hnames : (List.range config.networks.shared.length).map (fun position =>
          ((sharedField path).index position).child "name") =
        (List.range config.networks.shared.length).flatMap fun position =>
          [((sharedField path).index position).child "name"] := List.map_eq_flatMap
    rw [hnames]
    exact check_each_sublist_fields fun _ _ network =>
      error_if_sublist_field network.name.isEmpty _
  · exact check_each_sublist_fields fun earlier position network =>
      network.check_sublist_fields earlier _

/-- No field is listed twice. -/
theorem fields_nodup (config : InfrastructureConfig) (path : FieldPath) : (config.fields path).Nodup := by
  unfold fields
  refine List.nodup_append.2 ⟨?_, ?_, ?_⟩
  · refine List.nodup_range.map fun position number hsame => ?_
    simpa [FieldPath.child, FieldPath.index, FieldPath.push] using hsame
  · refine List.nodup_flatMap.2 ⟨fun position _ => ?_, ?_⟩
    · have hnames : ["name", "config", "default"].Nodup := by decide
      refine hnames.map fun name other hsame => ?_
      simpa [FieldPath.child, FieldPath.push] using hsame
    · refine List.nodup_range.imp fun {position number} hne field hfield hother => ?_
      obtain ⟨name, _, rfl⟩ := List.mem_map.1 hfield
      obtain ⟨other, _, hsame⟩ := List.mem_map.1 hother
      have hpositions : number = position ∧ other = name := by
        simpa [FieldPath.child, FieldPath.index, FieldPath.push] using hsame
      exact hne hpositions.1.symm
  · intro field hfield other hother hsame
    obtain ⟨position, _, rfl⟩ := List.mem_map.1 hfield
    obtain ⟨number, _, hother⟩ := List.mem_flatMap.1 hother
    obtain ⟨name, _, rfl⟩ := List.mem_map.1 hother
    simp [sharedField, tenantField, FieldPath.child, FieldPath.index, FieldPath.push] at hsame

/-- Shared networks are reported for missing names only, so any other kind of violation is that of a tenant
network. -/
theorem count_check {kind : FieldErrorKind} (h : kind ≠ .required) (config : InfrastructureConfig)
    (path : FieldPath) :
    (config.check path).countP (fun error => error.kind = kind) =
      (TenantNetwork.checkAll config.networks.tenant (tenantField path)).countP
        fun error => error.kind = kind := by
  have hshared : (checkEach (fun _ position network =>
      SharedNetwork.check network ((sharedField path).index position))
      config.networks.shared).countP (fun error => error.kind = kind) = 0 := by
    refine List.countP_eq_zero.2 fun error herror => ?_
    obtain ⟨position, network, _, herror⟩ := mem_check_each.1 herror
    obtain ⟨_, rfl⟩ := mem_error_if.1 herror
    rw [decide_eq_true_eq]
    exact h.symm
  rw [check_eq, List.countP_append, hshared, Nat.zero_add]

/-- Nothing is wrong with the networks exactly if they are sound. -/
theorem sound_iff : (∀ error, ¬config.Violation path error) ↔ config.Sound := by
  constructor
  · intro h
    refine ⟨fun network hnetwork hname => ?_, ?_⟩
    · obtain ⟨position, hposition⟩ := List.getElem?_of_mem hnetwork
      exact h _ (.shared hposition hname)
    · exact TenantNetwork.sound_iff.1 fun error herror => h error (.tenant herror)
  · intro hsound error herror
    cases herror with
    | shared h hname => exact hsound.shared _ (List.mem_of_getElem? h) hname
    | tenant h => exact TenantNetwork.sound_iff.2 hsound.tenant _ h

/-- The networks are clean exactly if they are sound. -/
theorem check_eq_nil_iff : config.check path = [] ↔ config.Sound := by
  simp only [List.eq_nil_iff_forall_not_mem, mem_check_iff, sound_iff]

/-- Networks stay sound in another order. -/
theorem Sound.of_perm {shuffled : InfrastructureConfig} (h : config.Sound)
    (hshared : shuffled.networks.shared.Perm config.networks.shared)
    (htenant : shuffled.networks.tenant.Perm config.networks.tenant) : shuffled.Sound where
  shared network hnetwork := h.shared network (hshared.mem_iff.1 hnetwork)
  tenant := h.tenant.of_perm htenant

/-- The check of the networks finds exactly what is wrong with them, in the order of the fields, of which none
has two violations. Of the tenant networks that are defaults, all but the first one are forbidden, and of
those that have a name, all are duplicates but the first one of each name. Whether anything is found does not
depend on the order of the networks. -/
theorem check_in_order (config : InfrastructureConfig) (path : FieldPath) :
    (∀ error, error ∈ config.check path ↔ config.Violation path error) ∧
    ((config.check path).map FieldError.path).Sublist (config.fields path) ∧
    OncePerField (config.check path) ∧
    (config.check path).countP (fun error => error.kind = .forbidden) =
      config.networks.tenant.countP TenantNetwork.isDefault - 1 ∧
    (config.check path).countP (fun error => error.kind = .duplicate) +
        (TenantNetwork.statedNames config.networks.tenant).eraseDups.length =
      (TenantNetwork.statedNames config.networks.tenant).length ∧
    ∀ shuffled : InfrastructureConfig, shuffled.networks.shared.Perm config.networks.shared →
      shuffled.networks.tenant.Perm config.networks.tenant →
      (shuffled.check path = [] ↔ config.check path = []) := by
  have hordered := config.check_sublist_fields path
  refine ⟨fun error => mem_check_iff, hordered, (config.fields_nodup path).sublist hordered, ?_, ?_, ?_⟩
  · rw [count_check (by decide), TenantNetwork.count_forbidden]
  · rw [count_check (by decide)]
    exact TenantNetwork.count_repeated _ _
  · intro shuffled hshared htenant
    rw [check_eq_nil_iff, check_eq_nil_iff]
    exact ⟨fun h => h.of_perm hshared.symm htenant.symm, fun h => h.of_perm hshared htenant⟩

/-- A tenant network with an empty configuration. -/
def sampleTenant (name : String) (isDefault : Bool) : TenantNetwork := ⟨name, "{}", isDefault⟩

/-- A shared network and two tenant networks, of which the second one is the default. -/
def sampleNetworks : InfrastructureConfig :=
  ⟨⟨[⟨"lan", none⟩], [sampleTenant "blue" false, sampleTenant "red" true]⟩⟩

/-- The sample networks with the default first. -/
def sampleDefaultFirst : InfrastructureConfig :=
  ⟨⟨[⟨"lan", none⟩], [sampleTenant "red" true, sampleTenant "blue" false]⟩⟩

/-- The sample networks are clean, and so they are with the default first. -/
theorem sample_networks_reordered :
    sampleDefaultFirst.networks.tenant.Perm sampleNetworks.networks.tenant ∧
      sampleNetworks.check ⟨"", []⟩ = [] ∧ sampleDefaultFirst.check ⟨"", []⟩ = [] := by
  have htenant : sampleDefaultFirst.networks.tenant.Perm sampleNetworks.networks.tenant := by decide
  have hclean : sampleNetworks.check ⟨"", []⟩ = [] := by decide +kernel
  obtain ⟨_, _, _, _, _, hreordered⟩ := check_in_order sampleNetworks ⟨"", []⟩
  exact ⟨htenant, hclean, (hreordered sampleDefaultFirst (.refl _) htenant).2 hclean⟩

end InfrastructureConfig

end ShootMachines
