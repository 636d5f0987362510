import ShootMachines.Proofs.Admission.ProfileAgreement
import ShootMachines.Proofs.Admission.ShootHistory

/-!
# Machine images along histories of shoots

The image of a pool is checked when the pool is new or changes, against the cloud profile that the shoot
names then. A pool that is carried along unchanged keeps its image, also when the shoot turns to another
cloud profile, which need not have the image (`Shoot.carried_image_not_offered`). So what holds in every
state is that each image was offered in the state since which its pool has been carried along:
`Shoot.history_images_offered`.
-/

namespace ShootMachines

/-- A cloud profile offers a machine image if its configuration is found and decoded, and knows where to
fetch the image. -/
def Lookup.Offers (lookup : Lookup) (scheme : Scheme) (profileName : String)
    (image : ImageReference) : Prop :=
  ∃ profile payload config url,
    (lookup.cloudProfile profileName).result = .ok profile ∧
    profile.spec.providerConfig = some payload ∧
    profile.storedConfig scheme payload = .ok config ∧
    config.imageUrl image.name image.version = .ok url

namespace Shoot

/-- A shoot carries a pool if one of its pools has the name, the machine and the data volumes of the pool,
and the configuration that is kept for the name is that of the pool. -/
structure Carries (scheme : Scheme) (shoot : Shoot) (worker : ShootWorker) (config : WorkerConfig) :
    Prop where
  pool : ∃ pool ∈ shoot.spec.provider.workers, pool.name = worker.name ∧
    pool.machine = worker.machine ∧ pool.dataVolumes = worker.dataVolumes
  config : ∃ configs, shoot.configs scheme.strictDecoder = .ok configs ∧
    configs.pools.get? worker.name = some config

variable {scheme : Scheme} {lookup : Lookup} {shoot start current proposed : Shoot}
  {configs : ShootConfigs} {proposals : List Proposal} {worker : ShootWorker} {config : WorkerConfig}
  {image : ImageReference}

/-- A decoded shoot carries its own pools. -/
theorem carries_of_mem (hdecoded : shoot.configs scheme.strictDecoder = .ok configs)
    (hworker : worker ∈ shoot.spec.provider.workers) :
    ∃ config, shoot.Carries scheme worker config := by
  obtain ⟨last, hlast⟩ := ShootWorker.exists_last_named hworker
  obtain ⟨config, _, hget⟩ := pool_config_of_last hdecoded hlast
  exact ⟨config, ⟨worker, hworker, rfl, rfl, rfl⟩, configs, hdecoded, hget⟩

/-- The image of a clean pool is offered by the cloud profile of the shoot. -/
theorem offers_of_check_pool {context : ShootContext}
    (hcontext : (shoot.context scheme lookup).result = .ok context) {position : Nat}
    (hclean : context.checkPool position worker = []) (himage : worker.machine.image = some image) :
    lookup.Offers scheme shoot.spec.cloudProfileName image := by
  obtain ⟨_, _, profile, payload, hprofile, hpayload, hconfig⟩ := context_eq_ok_iff.1 hcontext
  obtain ⟨url, hurl⟩ := ShootContext.check_image_eq_nil_iff.1
    ((ShootContext.check_pool_eq_nil_iff.1 hclean).2 image himage)
  exact ⟨profile, payload, context.profileConfig, url, hprofile, hpayload, hconfig, hurl⟩

/-- The images of a new shoot that is accepted are offered by its cloud profile. -/
theorem offers_of_accepted (htype : shoot.spec.provider.type = providerType)
    (haccepted : (shoot.accept scheme lookup none).result = .ok ())
    (hcarries : shoot.Carries scheme worker config) (himage : worker.machine.image = some image) :
    lookup.Offers scheme shoot.spec.cloudProfileName image := by
  obtain ⟨context, hcontext, hclean⟩ := context_of_accepted htype haccepted
  obtain ⟨rfl, _, _⟩ := context_eq_ok_iff.1 hcontext
  obtain ⟨_, _, _, _, hpools⟩ := ShootContext.check_eq_nil_iff.1 hclean
  obtain ⟨pool, hpool, _, hmachine, _⟩ := hcarries.pool
  obtain ⟨position, hposition⟩ := List.getElem?_of_mem hpool
  exact offers_of_check_pool hcontext (hpools position pool hposition) (hmachine ▸ himage)

/-- The image of a pool that an accepted update leaves in a shoot is offered by the cloud profile of the
shoot, or the shoot carried the pool before. -/
theorem offers_or_carries_of_update (hdecoded : current.configs scheme.strictDecoder = .ok configs)
    (htype : proposed.spec.provider.type = providerType)
    (haccepted : (proposed.accept scheme lookup (some current)).result = .ok ())
    (hcarries : proposed.Carries scheme worker config) (himage : worker.machine.image = some image) :
    lookup.Offers scheme proposed.spec.cloudProfileName image ∨
      current.Carries scheme worker config := by
  obtain ⟨context, hcontext, hclean⟩ := update_of_accepted htype hdecoded haccepted
  obtain ⟨rfl, hproposed, _⟩ := context_eq_ok_iff.1 hcontext
  unfold ShootContext.checkUpdate at hclean
  obtain ⟨_, hpools⟩ := List.append_eq_nil_iff.1 hclean
  obtain ⟨⟨pool, hpool, hname, hmachine, hvolumes⟩, proposedConfigs, hsame, hget⟩ := hcarries
  obtain rfl := Except.ok.inj (hproposed.symm.trans hsame)
  obtain ⟨position, hposition⟩ := List.getElem?_of_mem hpool
  rcases ShootContext.check_pool_or_prior hpools hposition with hchecked | hprior
  · exact .inl (offers_of_check_pool hcontext hchecked (hmachine ▸ himage))
  · obtain ⟨_, prior, hearlier, hpriorName, hpriorMachine, hpriorVolumes, hconfig⟩ := hprior
    rw [hpriorName, hname, hget] at hconfig
    exact .inr ⟨⟨prior, List.mem_of_getElem? hearlier, hpriorName.trans hname,
      hpriorMachine.trans hmachine, hpriorVolumes.trans hvolumes⟩, configs, hdecoded, hconfig⟩

/-- The image of a pool that a proposal leaves in a shoot is offered by the cloud profile of the shoot, or
the shoot carried the pool before. -/
theorem offers_or_carries_of_resolve {proposal : Proposal}
    (hdecoded : current.configs scheme.strictDecoder = .ok configs)
    (htype : proposal.shoot.spec.provider.type = providerType)
    (hcarries : (proposal.resolve scheme current).Carries scheme worker config)
    (himage : worker.machine.image = some image) :
    proposal.lookup.Offers scheme (proposal.resolve scheme current).spec.cloudProfileName image ∨
      current.Carries scheme worker config := by
  unfold Proposal.resolve at hcarries ⊢
  split at hcarries
  · rename_i haccepted
    exact offers_or_carries_of_update hdecoded htype haccepted hcarries himage
  · exact .inr hcarries

/-- The image of a pool of any state was offered in the state since which the pool has been carried along. -/
theorem offered_since_carried (htype : start.spec.provider.type = providerType)
    (haccepted : (start.accept scheme lookup none).result = .ok ())
    (htypes : ∀ proposal ∈ proposals, proposal.shoot.spec.provider.type = providerType)
    (hlookups : ∀ proposal ∈ proposals, proposal.lookup = lookup)
    (himage : worker.machine.image = some image) {number : Nat}
    (hcarries : (start.after scheme (proposals.take number)).Carries scheme worker config) :
    ∃ first ≤ number,
      lookup.Offers scheme (start.after scheme (proposals.take first)).spec.cloudProfileName image ∧
      ∀ between, first ≤ between → between ≤ number →
        (start.after scheme (proposals.take between)).Carries scheme worker config := by
  obtain ⟨created, hcreated⟩ := Consistent.of_accepted htype haccepted
  -- By induction on the state: either the last step checked the image, or it carried the pool along.
  induction number with
  | zero =>
      refine ⟨0, Nat.le_refl 0, offers_of_accepted htype haccepted hcarries himage, ?_⟩
      intro between _ hlast
      rw [Nat.le_zero.1 hlast]
      exact hcarries
  | succ number ih =>
      have hstep : lookup.Offers scheme
            (start.after scheme (proposals.take (number + 1))).spec.cloudProfileName image ∨
          (start.after scheme (proposals.take number)).Carries scheme worker config := by
        obtain ⟨reached, hreached, _⟩ := hcreated.after htypes number
        rw [after_take_succ] at hcarries ⊢
        cases hproposal : proposals[number]? with
        | none =>
            rw [hproposal] at hcarries
            exact .inr hcarries
        | some proposal =>
            have hmem := List.mem_of_getElem? hproposal
            rw [hproposal] at hcarries
            rw [← hlookups proposal hmem]
            exact offers_or_carries_of_resolve hreached.decoded (htypes proposal hmem) hcarries himage
      rcases hstep with hoffers | hbefore
      · refine ⟨number + 1, Nat.le_refl _, hoffers, fun between hfirst hlast => ?_⟩
        rw [Nat.le_antisymm hlast hfirst]
        exact hcarries
      · obtain ⟨first, hfirst, hoffers, hcarried⟩ := ih hbefore
        refine ⟨first, Nat.le_succ_of_le hfirst, hoffers, fun between hlow hhigh => ?_⟩
        rcases Nat.lt_or_eq_of_le hhigh with hless | rfl
        · exact hcarried between hlow (Nat.le_of_lt_succ hless)
        · exact hcarries

/-- In every history of a shoot that is created and changed by accepted updates, with lookups that always
find the same: the image of a pool of any state is offered by the cloud profile that an earlier state names,
or the state itself, and since then every state carries the pool, with its name, machine, data volumes and
configuration. If these states name one cloud profile, the state itself thus names one that offers the
image. -/
theorem history_images_offered (htype : start.spec.provider.type = providerType)
    (haccepted : (start.accept scheme lookup none).result = .ok ())
    (htypes : ∀ proposal ∈ proposals, proposal.shoot.spec.provider.type = providerType)
    (hlookups : ∀ proposal ∈ proposals, proposal.lookup = lookup) :
    ∀ number, ∀ worker ∈ (start.after scheme (proposals.take number)).spec.provider.workers,
      ∀ image, worker.machine.image = some image →
        ∃ config first, first ≤ number ∧
          lookup.Offers scheme (start.after scheme (proposals.take first)).spec.cloudProfileName
            image ∧
          (∀ between, first ≤ between → between ≤ number →
            (start.after scheme (proposals.take between)).Carries scheme worker config) ∧
          ((∀ between, first ≤ between → between ≤ number →
            (start.after scheme (proposals.take between)).spec.cloudProfileName =
              (start.after scheme (proposals.take number)).spec.cloudProfileName) →
            lookup.Offers scheme
              (start.after scheme (proposals.take number)).spec.cloudProfileName image) := by
  intro number worker hworker image himage
  obtain ⟨created, hcreated⟩ := Consistent.of_accepted htype haccepted
  obtain ⟨reached, hreached, _⟩ := hcreated.after htypes number
  obtain ⟨config, hcarries⟩ := carries_of_mem hreached.decoded hworker
  obtain ⟨first, hfirst, hoffers, hcarried⟩ :=
    offered_since_carried htype haccepted htypes hlookups himage hcarries
  refine ⟨config, first, hfirst, hoffers, hcarried, fun hsame => ?_⟩
  rw [← hsame first (Nat.le_refl first) hfirst]
  exact hoffers

/-- A cloud profile with one version of an image. -/
def sampleOffering (profileName version : String) : CloudProfile :=
  ⟨{ Metadata.empty with name := some profileName },
    ⟨providerType, [], [], some (encodeConfig .profileConfig
      ⟨[⟨"linux", [⟨version, "docker://images/" ++ version⟩]⟩], []⟩)⟩⟩

/-- A lookup that finds two cloud profiles, with one version of an image each. -/
def sampleOfferings : Lookup :=
  (Inventory.mk [sampleOffering "profile" "1", sampleOffering "other" "2"] [] [] []).lookup

/-- A shoot of a cloud profile with one pool, whose machines start from version 1 of the image. -/
def sampleStarting (profileName : String) : Shoot :=
  { sample [] with
    spec := { (sample []).spec with
      cloudProfileName := profileName
      provider := ⟨providerType, none, none,
        [{ samplePool "pool" none with machine := ⟨"small", some ⟨"linux", "1"⟩⟩ }]⟩ } }

/-- The image of the sample shoot was offered when its pool was new, also after the shoot turned to the
other cloud profile. -/
theorem sample_image_once_offered :
    ∃ first ≤ 1, sampleOfferings.Offers .standard
      ((sampleStarting "profile").after .standard
        ([⟨sampleOfferings, sampleStarting "other"⟩].take first)).spec.cloudProfileName
      ⟨"linux", "1"⟩ := by
  have hok : ((sampleStarting "profile").accept .standard sampleOfferings none).result.isOk = true := by
    decide +kernel
  obtain ⟨⟨⟩, haccepted⟩ := exists_eq_ok hok
  obtain ⟨_, first, hfirst, hoffers, _⟩ :=
    @history_images_offered .standard sampleOfferings (sampleStarting "profile")
      [⟨sampleOfferings, sampleStarting "other"⟩] rfl haccepted
      (List.forall_mem_singleton.2 rfl) (List.forall_mem_singleton.2 rfl) 1 _
      List.mem_cons_self _ rfl
  exact ⟨first, hfirst, hoffers⟩

/-- The sample shoot is accepted with the one cloud profile, and to turn to the other one is accepted as
well, although that does not have the image of the pool: the pool is carried along unchanged, and so it is
not checked again. -/
theorem carried_image_not_offered :
    ((sampleStarting "profile").accept .standard sampleOfferings none).result = .ok () ∧
      ((sampleStarting "other").accept .standard sampleOfferings
        (some (sampleStarting "profile"))).result = .ok () ∧
      ∃ worker ∈ (sampleStarting "other").spec.provider.workers,
        ∃ image, worker.machine.image = some image ∧
          ¬ sampleOfferings.Offers .standard (sampleStarting "other").spec.cloudProfileName image := by
  refine ⟨rfl, rfl, _, List.mem_cons_self, ⟨"linux", "1"⟩, rfl, ?_⟩
  rintro ⟨profile, payload, config, url, hprofile, hpayload, hconfig, hurl⟩
  obtain rfl : sampleOffering "other" "2" = profile := Except.ok.inj hprofile
  obtain rfl := Option.some.inj hpayload
  obtain rfl : ⟨[⟨"linux", [⟨"2", "docker://images/2"⟩]⟩], []⟩ = config := Except.ok.inj hconfig
  cases hurl

end Shoot

end ShootMachines
