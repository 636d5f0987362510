import ShootMachines.Lookup.Inventory
import ShootMachines.Proofs.Admission.ShootFields
import ShootMachines.Proofs.Admission.ShootRuns
import ShootMachines.Proofs.Admission.UpdateOnly

/-!
# Updates of accepted shoots

An update checks again only what changed. `ShootContext.without_update_only_check_update` says that
nothing is missed: beside an older shoot without violations, the violations of an update that do not
come from the comparison are those of a new shoot, in the same order. Read `check_pool_of_unchanged`
first: a pool that is left out was clean before, at whatever position it stood.
-/

namespace ShootMachines

/-- Violations are taken out of both parts of a list. -/
theorem without_update_only_append (errors others : List FieldError) :
    withoutUpdateOnly (errors ++ others) = withoutUpdateOnly errors ++ withoutUpdateOnly others :=
  List.filter_append _ _

/-- A change of the networks is all that the comparison of infrastructure configurations finds. -/
theorem InfrastructureConfig.without_update_only_check_update (old new : InfrastructureConfig) :
    withoutUpdateOnly (old.checkUpdate new Shoot.infrastructurePath) = [] := by
  unfold checkUpdate
  by_cases hsame : old.networks = new.networks
  · simp [hsame, withoutUpdateOnly]
  · simp only [ne_eq, hsame, not_false_eq_true, decide_true, errorIf_true]
    rfl

/-- Networks may be updated to the same networks only. -/
theorem InfrastructureConfig.check_update_eq_nil_iff {old new : InfrastructureConfig}
    {path : FieldPath} : old.checkUpdate new path = [] ↔ old.networks = new.networks := by
  rw [checkUpdate, errorIf_eq_nil_iff, decide_eq_false_iff_not, not_not]

namespace ShootWorker

/-- No pool lost a zone of the first older pool with its name. -/
def ZonesKept (old new : List ShootWorker) : Prop :=
  ∀ worker ∈ new, ∀ previous, named? old worker.name = some previous →
    ∀ zone ∈ previous.zones, zone ∈ worker.zones

/-- A pool that lost no zone has no violation. -/
theorem check_zones_kept_eq_nil_iff {previous worker : ShootWorker} {path : FieldPath} :
    previous.checkZonesKept worker path = [] ↔ ∀ zone ∈ previous.zones, zone ∈ worker.zones := by
  unfold checkZonesKept
  rw [List.flatMap_eq_nil_iff]
  simp

/-- Pools may be updated as long as none loses a zone. -/
theorem check_update_eq_nil_iff {old new : List ShootWorker} {path : FieldPath} :
    checkUpdate old new path = [] ↔ ZonesKept old new := by
  unfold checkUpdate
  rw [check_each_eq_nil_iff]
  constructor
  · intro hclean worker hworker previous hprevious
    obtain ⟨position, hposition⟩ := List.getElem?_of_mem hworker
    have hkept := hclean position worker hposition
    rw [hprevious] at hkept
    exact check_zones_kept_eq_nil_iff.1 hkept
  · intro hkept position worker hposition
    split
    · rename_i previous hprevious
      exact check_zones_kept_eq_nil_iff.2
        (hkept worker (List.mem_of_getElem? hposition) previous hprevious)
    · rfl

/-- Lost zones are all that the comparison of pools finds. -/
theorem without_update_only_check_update (old new : List ShootWorker) :
    withoutUpdateOnly (checkUpdate old new Shoot.workersPath) = [] := by
  refine List.filter_eq_nil_iff.2 fun error herror => ?_
  obtain ⟨position, worker, _, herror⟩ := mem_check_each.1 herror
  split at herror
  · obtain ⟨zone, _, herror⟩ := List.mem_flatMap.1 herror
    cases hlost : !worker.zones.contains zone with
    | false =>
        rw [hlost] at herror
        cases herror
    | true =>
        rw [hlost, errorIf_true, List.mem_singleton] at herror
        subst herror
        simp [FieldError.isUpdateOnly, FieldError.forbidden, FieldPath.isPoolZones,
          Shoot.workersPath, Shoot.providerPath, FieldPath.child, FieldPath.index, FieldPath.push]
  · cases herror

/-- The pool with a name is one of the pools and has the name. -/
theorem mem_of_named {workers : List ShootWorker} {name : String} {worker : ShootWorker}
    (h : named? workers name = some worker) : worker ∈ workers ∧ worker.name = name := by
  unfold named? at h
  have hname := List.find?_some h
  exact ⟨List.mem_of_find?_eq_some h, of_decide_eq_true hname⟩

end ShootWorker

namespace ShootContext

variable {context before after : ShootContext}

/-- A shoot is clean if each of its sections and pools is. -/
theorem check_eq_nil_iff :
    context.check = [] ↔
      context.checkNetworking = [] ∧ context.checkInfrastructure = [] ∧
        context.checkControlPlane = [] ∧ context.checkWorkers = [] ∧
          ∀ position worker, context.shoot.spec.provider.workers[position]? = some worker →
            context.checkPool position worker = [] := by
  unfold check
  simp only [List.append_eq_nil_iff, check_each_eq_nil_iff, and_assoc]

/-- An image is clean if the configuration of the cloud profile offers it. -/
theorem check_image_eq_nil_iff {image : ImageReference} {path : FieldPath} :
    context.checkImage image path = [] ↔
      ∃ url, context.profileConfig.imageUrl image.name image.version = .ok url := by
  unfold checkImage
  cases context.profileConfig.imageUrl image.name image.version with
  | ok url => simp
  | error failure => simp

/-- A machine image that a cloud profile offers is clean under every field and in every shoot of the
profile. -/
theorem check_image_elsewhere {image : ImageReference} {path : FieldPath}
    (hprofile : before.profileConfig = after.profileConfig)
    (h : before.checkImage image path = []) (other : FieldPath) :
    after.checkImage image other = [] := by
  rw [check_image_eq_nil_iff, ← hprofile]
  exact check_image_eq_nil_iff.1 h

/-- A pool is clean if its decoded configuration is clean and its machine image is offered. -/
theorem check_pool_eq_nil_iff {position : Nat} {worker : ShootWorker} :
    context.checkPool position worker = [] ↔
      (∀ config, context.configs.pools.get? worker.name = some config →
        config.check worker.dataVolumes
          ((Shoot.workersPath.index position).child "providerConfig") = []) ∧
      ∀ image, worker.machine.image = some image →
        context.checkImage image
          (((Shoot.workersPath.index position).child "machine").child "image") = [] := by
  unfold checkPool
  rw [List.append_eq_nil_iff]
  refine and_congr ?_ ?_
  · cases context.configs.pools.get? worker.name <;> simp
  · cases worker.machine.image <;> simp

/-- A clean pool stays clean under another position and name if its machine, its data volumes and its
decoded configuration are the same. -/
theorem check_pool_elsewhere {position : Nat} {prior worker : ShootWorker}
    (hprofile : before.profileConfig = after.profileConfig)
    (hmachine : prior.machine = worker.machine) (hvolumes : prior.dataVolumes = worker.dataVolumes)
    (hconfig : before.configs.pools.get? prior.name = after.configs.pools.get? worker.name)
    (h : before.checkPool position prior = []) (other : Nat) :
    after.checkPool other worker = [] := by
  rw [check_pool_eq_nil_iff, hconfig, hmachine, hvolumes] at h
  obtain ⟨hclean, himage⟩ := h
  refine check_pool_eq_nil_iff.2 ⟨fun config hget => ?_, fun image hoffered => ?_⟩
  · exact (config.check_relative _).clean (hclean config hget) _
  · exact check_image_elsewhere hprofile (himage image hoffered) _

/-- A pool that an update leaves out has the name, the machine, the data volumes and the configuration of
an older pool, which may have stood at another position. -/
theorem prior_of_pool_unchanged {old : List ShootWorker} {previous : ShootConfigs}
    {worker : ShootWorker} (h : context.poolUnchanged old previous worker = true) :
    ∃ (position : Nat) (prior : ShootWorker), old[position]? = some prior ∧
      prior.name = worker.name ∧ prior.machine = worker.machine ∧
      prior.dataVolumes = worker.dataVolumes ∧
      previous.pools.get? prior.name = context.configs.pools.get? worker.name := by
  obtain ⟨prior, hprior, hsame⟩ := (Option.any_eq_true _ _).1 h
  simp only [Bool.and_eq_true, decide_eq_true_eq] at hsame
  obtain ⟨⟨hmachine, hvolumes⟩, hconfig⟩ := hsame
  obtain ⟨hmem, hname⟩ := ShootWorker.mem_of_named hprior
  obtain ⟨position, hposition⟩ := List.getElem?_of_mem hmem
  exact ⟨position, prior, hposition, hname, hmachine, hvolumes, hconfig⟩

/-- A pool of a clean update is clean, or it is as an older pool of its name was. -/
theorem check_pool_or_prior {old : List ShootWorker} {previous : ShootConfigs} {position : Nat}
    {worker : ShootWorker} (h : context.checkPoolChanges old previous = [])
    (hposition : context.shoot.spec.provider.workers[position]? = some worker) :
    context.checkPool position worker = [] ∨
      ∃ (earlier : Nat) (prior : ShootWorker), old[earlier]? = some prior ∧
        prior.name = worker.name ∧ prior.machine = worker.machine ∧
        prior.dataVolumes = worker.dataVolumes ∧
        previous.pools.get? prior.name = context.configs.pools.get? worker.name := by
  have hpool := check_each_eq_nil_iff.1 h position worker hposition
  split at hpool
  · rename_i hunchanged
    exact .inr (prior_of_pool_unchanged hunchanged)
  · exact .inl hpool

/-- A pool that an update leaves out is clean if the older shoot was. -/
theorem check_pool_of_unchanged {worker : ShootWorker}
    (hprofile : before.profileConfig = after.profileConfig) (hclean : before.check = [])
    (hunchanged : after.poolUnchanged before.shoot.spec.provider.workers before.configs worker = true)
    (position : Nat) : after.checkPool position worker = [] := by
  obtain ⟨earlier, prior, hearlier, _, hmachine, hvolumes, hconfig⟩ :=
    prior_of_pool_unchanged hunchanged
  obtain ⟨_, _, _, _, hpools⟩ := check_eq_nil_iff.1 hclean
  exact check_pool_elsewhere hprofile hmachine hvolumes hconfig (hpools earlier prior hearlier)
    position

/-- The pools that an update checks have all violations of pools. -/
theorem check_pool_changes_eq (hprofile : before.profileConfig = after.profileConfig)
    (hclean : before.check = []) :
    after.checkPoolChanges before.shoot.spec.provider.workers before.configs =
      checkEach (fun _ position worker => after.checkPool position worker)
        after.shoot.spec.provider.workers := by
  unfold checkPoolChanges
  refine check_each_congr fun position worker _ => ?_
  split
  · rename_i hunchanged
    exact (check_pool_of_unchanged hprofile hclean hunchanged position).symm
  · rfl

/-- An infrastructure configuration may be updated to itself, or to a clean one with its networks. -/
theorem check_infrastructure_change_eq_nil_iff {previous : ShootConfigs} :
    context.checkInfrastructureChange previous = [] ↔
      previous.infrastructure = context.configs.infrastructure ∨
        (previous.infrastructure.networks = context.configs.infrastructure.networks ∧
          context.checkInfrastructure = []) := by
  unfold checkInfrastructureChange
  by_cases hsame : previous.infrastructure = context.configs.infrastructure
  · simp [hsame]
  · simp only [hsame, if_false, false_or, List.append_eq_nil_iff,
      InfrastructureConfig.check_update_eq_nil_iff]

/-- An update misses no violation of the infrastructure configuration. -/
theorem without_update_only_infrastructure (hclean : before.check = []) :
    withoutUpdateOnly (after.checkInfrastructureChange before.configs) =
      after.checkInfrastructure := by
  obtain ⟨_, hinfrastructure, _, _, _⟩ := check_eq_nil_iff.1 hclean
  unfold checkInfrastructureChange
  split
  · rename_i hsame
    unfold checkInfrastructure at hinfrastructure ⊢
    rw [← hsame, hinfrastructure]
    rfl
  · rw [without_update_only_append, InfrastructureConfig.without_update_only_check_update,
      List.nil_append, after.check_infrastructure_standing.without_update_only]

/-- An update misses no violation of the control plane configuration. -/
theorem check_control_plane_change_eq (hclean : before.check = []) :
    after.checkControlPlaneChange before.configs = after.checkControlPlane := by
  obtain ⟨_, _, hcontrolPlane, _, _⟩ := check_eq_nil_iff.1 hclean
  unfold checkControlPlaneChange
  split
  · rename_i hsame
    unfold checkControlPlane at hcontrolPlane ⊢
    rw [← hsame, hcontrolPlane]
  · rfl

/-- Beside an older shoot without violations, an update has the violations of a new shoot, in the same
order, and those of the comparison. -/
theorem without_update_only_check_update (hprofile : before.profileConfig = after.profileConfig)
    (hclean : before.check = []) :
    withoutUpdateOnly (after.checkUpdate before.shoot before.configs) = after.check := by
  -- Filtering `check` changes none of its parts, so both sides are compared part by part.
  have hstanding := after.check_standing.without_update_only
  unfold check at hstanding
  simp only [without_update_only_append] at hstanding
  unfold checkUpdate check
  simp only [without_update_only_append, without_update_only_infrastructure hclean,
    check_control_plane_change_eq hclean, ShootWorker.without_update_only_check_update,
    check_pool_changes_eq hprofile hclean, List.append_nil]
  rw [after.check_infrastructure_standing.without_update_only] at hstanding
  exact hstanding

/-- Beside an older shoot without violations, an update is clean exactly if the shoot would be clean as
a new one, its networks stay, and no pool lost a zone. -/
theorem check_update_eq_nil_iff (hprofile : before.profileConfig = after.profileConfig)
    (hclean : before.check = []) :
    after.checkUpdate before.shoot before.configs = [] ↔
      after.check = [] ∧
        before.configs.infrastructure.networks = after.configs.infrastructure.networks ∧
        ShootWorker.ZonesKept before.shoot.spec.provider.workers
          after.shoot.spec.provider.workers := by
  constructor
  · intro hupdate
    have hcheck : after.check = [] := by
      rw [← without_update_only_check_update hprofile hclean, hupdate]
      rfl
    unfold checkUpdate at hupdate
    simp only [List.append_eq_nil_iff] at hupdate
    obtain ⟨⟨⟨⟨⟨_, hinfrastructure⟩, _⟩, _⟩, hzones⟩, _⟩ := hupdate
    refine ⟨hcheck, ?_, ShootWorker.check_update_eq_nil_iff.1 hzones⟩
    rcases check_infrastructure_change_eq_nil_iff.1 hinfrastructure with hsame | ⟨hnetworks, _⟩
    · rw [hsame]
    · exact hnetworks
  · rintro ⟨hcheck, hnetworks, hzones⟩
    obtain ⟨hnetworking, hinfrastructure, hcontrolPlane, hworkers, hpools⟩ :=
      check_eq_nil_iff.1 hcheck
    have hchange : after.checkInfrastructureChange before.configs = [] :=
      check_infrastructure_change_eq_nil_iff.2 (.inr ⟨hnetworks, hinfrastructure⟩)
    unfold checkUpdate
    simp only [hnetworking, hchange, check_control_plane_change_eq hclean, hcontrolPlane,
      hworkers, ShootWorker.check_update_eq_nil_iff.2 hzones, check_pool_changes_eq hprofile hclean,
      List.nil_append]
    exact check_each_eq_nil_iff.2 hpools

end ShootContext

namespace Shoot

variable {scheme : Scheme} {lookup : Lookup} {old new : Shoot}

/-- A shoot that is accepted as a new one has a context without violations. -/
theorem context_of_accepted (htype : new.spec.provider.type = providerType)
    (haccepted : (new.accept scheme lookup none).result = .ok ()) :
    ∃ context, (new.context scheme lookup).result = .ok context ∧ context.check = [] := by
  rw [accept_creation_result htype] at haccepted
  obtain ⟨context, hcontext, haccepted⟩ := bind_eq_ok_iff.1 haccepted
  obtain ⟨_, hchecked, _⟩ := bind_eq_ok_iff.1 haccepted
  exact ⟨context, hcontext, of_errors_eq_ok_iff.1 hchecked⟩

/-- A shoot that is accepted as an update has a context without violations beside the older shoot. -/
theorem update_of_accepted {previous : ShootConfigs} (htype : new.spec.provider.type = providerType)
    (hprevious : old.configs scheme.strictDecoder = .ok previous)
    (haccepted : (new.accept scheme lookup (some old)).result = .ok ()) :
    ∃ context, (new.context scheme lookup).result = .ok context ∧
      context.checkUpdate old previous = [] := by
  rw [accept_update_result htype, configs_lenient hprevious, ok_bind] at haccepted
  obtain ⟨context, hcontext, hchecked⟩ := bind_eq_ok_iff.1 haccepted
  exact ⟨context, hcontext, of_errors_eq_ok_iff.1 hchecked⟩

/-- Shoots of one cloud profile are checked against one configuration of it. -/
theorem profile_config_eq {before after : ShootContext}
    (hprofile : old.spec.cloudProfileName = new.spec.cloudProfileName)
    (hbefore : (old.context scheme lookup).result = .ok before)
    (hafter : (new.context scheme lookup).result = .ok after) :
    before.profileConfig = after.profileConfig := by
  obtain ⟨_, _, profile, payload, hfound, hpayload, hconfig⟩ := context_eq_ok_iff.1 hbefore
  obtain ⟨_, _, other, otherPayload, hother, hotherPayload, hotherConfig⟩ :=
    context_eq_ok_iff.1 hafter
  rw [hprofile, hother] at hfound
  cases hfound
  rw [hpayload] at hotherPayload
  cases hotherPayload
  rw [hconfig] at hotherConfig
  exact Except.ok.inj hotherConfig

/-- An update of an accepted shoot within its cloud profile is checked like a new shoot. If a section
of the new shoot or its cloud profile cannot be had, both fail with the same failure. Otherwise the
violations of the update, those of the comparison left out, are the structural violations of a new
shoot, in the same order; and the update is accepted exactly if there are none, the networks are those
of the old shoot, and no pool lost a zone of the first old pool with its name. -/
theorem update_checks_like_creation (hold : old.spec.provider.type = providerType)
    (hnew : new.spec.provider.type = providerType)
    (hprofile : old.spec.cloudProfileName = new.spec.cloudProfileName)
    (haccepted : (old.accept scheme lookup none).result = .ok ()) :
    (∀ failure, (new.context scheme lookup).result = .error failure →
      (new.accept scheme lookup (some old)).result = .error failure ∧
      (new.accept scheme lookup none).result = .error failure) ∧
    (∀ context, (new.context scheme lookup).result = .ok context →
      ∃ previous errors,
        old.configs scheme.strictDecoder = .ok previous ∧
        (new.accept scheme lookup (some old)).result = Failure.ofErrors errors ∧
        (new.accept scheme lookup none).result =
          (Failure.ofErrors context.check >>= fun _ => (new.acceptSecret lookup).result) ∧
        withoutUpdateOnly errors = context.check ∧
        ((new.accept scheme lookup (some old)).result = .ok () ↔
          context.check = [] ∧
          previous.infrastructure.networks = context.configs.infrastructure.networks ∧
          ShootWorker.ZonesKept old.spec.provider.workers new.spec.provider.workers)) := by
  obtain ⟨before, hbefore, hclean⟩ := context_of_accepted hold haccepted
  obtain ⟨hshoot, hconfigs, _⟩ := context_eq_ok_iff.1 hbefore
  have hupdate := @accept_update_result scheme lookup new old hnew
  rw [configs_lenient hconfigs, ok_bind] at hupdate
  constructor
  · intro failure hfailure
    rw [hupdate, accept_creation_result hnew, hfailure]
    exact ⟨rfl, rfl⟩
  · intro context hcontext
    obtain ⟨hnewShoot, _, _⟩ := context_eq_ok_iff.1 hcontext
    have hconfig := profile_config_eq hprofile hbefore hcontext
    rw [hcontext, ok_bind] at hupdate
    refine ⟨before.configs, context.checkUpdate old before.configs, hconfigs, hupdate, ?_, ?_, ?_⟩
    · rw [accept_creation_result hnew, hcontext, ok_bind]
    · rw [← hshoot]
      exact ShootContext.without_update_only_check_update hconfig hclean
    · rw [hupdate, of_errors_eq_ok_iff, ← hshoot, ← hnewShoot]
      exact ShootContext.check_update_eq_nil_iff hconfig hclean

/-- A shoot with one pool in given zones. -/
def sample (zones : List String) : Shoot :=
  ⟨.empty, "profile", "region", "", ⟨"1.31.0"⟩, ⟨none, some "10.0.0.0/16", none, none⟩,
    ⟨providerType, none, none, [⟨"pool", ⟨"small", none⟩, 1, 2, none, none, none, [], zones, none⟩]⟩⟩

/-- A lookup that finds the cloud profile of the sample shoots. -/
def sampleLookup : Lookup :=
  (Inventory.mk
    [⟨{ Metadata.empty with name := some "profile" },
      ⟨providerType, [], [], some (encodeConfig .profileConfig ⟨[], []⟩)⟩⟩] [] [] []).lookup

/-- The pool of the sample shoot cannot lose a zone. -/
theorem sample_update_keeps_zones :
    ((sample ["a"]).accept .standard sampleLookup (some (sample ["a", "b"]))).result ≠ .ok () := by
  intro haccepted
  have hcontext : ((sample ["a"]).context .standard sampleLookup).result =
      .ok ⟨sample ["a"], ⟨⟨⟨[], []⟩⟩, ⟨none⟩,
        .ofList [("pool", ⟨none, none, none, none, none, false, false⟩)]⟩, ⟨[], []⟩⟩ := rfl
  obtain ⟨_, _, _, _, _, _, hiff⟩ :=
    (@update_checks_like_creation .standard sampleLookup (sample ["a", "b"]) (sample ["a"])
      rfl rfl rfl rfl).2 _ hcontext
  obtain ⟨_, _, hzones⟩ := hiff.1 haccepted
  have hlost : "b" ∈ ["a"] := hzones _ List.mem_cons_self _ rfl "b" (by decide)
  exact absurd hlost (by decide)

end Shoot

end ShootMachines
