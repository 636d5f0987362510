import ShootMachines.Proofs.Admission.NamedConfigs

/-!
# Histories of shoots

A shoot is created once and changed by proposals, each of which takes effect only if it is accepted
as an update of the shoot before it. Most updates check little, so what holds of the shoot is carried
from one state to the next: `Shoot.Consistent` is the invariant, `Consistent.update` the step, and
`Shoot.history_keeps` the statement on whole histories.
-/

namespace ShootMachines

/-- A change that is proposed of a shoot, at a time when lookups find what they find. -/
structure Proposal where
  lookup : Lookup
  shoot : Shoot

/-- The shoot after a proposal: the proposed one if it is accepted, or else the shoot as it was. -/
def Proposal.resolve (scheme : Scheme) (current : Shoot) (proposal : Proposal) : Shoot :=
  match (proposal.shoot.accept scheme proposal.lookup (some current)).result with
  | .ok () => proposal.shoot
  | .error _ => current

namespace Shoot

/-- The shoot after some proposals, one after the other. -/
def after (scheme : Scheme) (start : Shoot) (proposals : List Proposal) : Shoot :=
  proposals.foldl (Proposal.resolve scheme) start

/-- The names of the pools, in order. -/
def poolNames (shoot : Shoot) : List String :=
  shoot.spec.provider.workers.map ShootWorker.name

/-- A pool that both of two shoots have keeps its zones from the one to the other. -/
def KeepsZones (earlier later : Shoot) (name : String) : Prop :=
  ∀ before after, ShootWorker.named? earlier.spec.provider.workers name = some before →
    ShootWorker.named? later.spec.provider.workers name = some after →
      ∀ zone ∈ before.zones, zone ∈ after.zones

/-- A shoot is consistent if its sections are decoded strictly and have no violations, images apart:
which images there are depends on the cloud profile of the day. -/
structure Consistent (scheme : Scheme) (shoot : Shoot) (configs : ShootConfigs) : Prop where
  decoded : shoot.configs scheme.strictDecoder = .ok configs
  networking : shoot.spec.networking.check networkingPath = []
  infrastructure : configs.infrastructure.check infrastructurePath = []
  controlPlane : configs.controlPlane.check controlPlanePath = []
  workers : ShootWorker.checkAll shoot.spec.provider.workers workersPath = []
  pools : ∀ position worker, shoot.spec.provider.workers[position]? = some worker →
    ∀ config, configs.pools.get? worker.name = some config →
      config.check worker.dataVolumes ((workersPath.index position).child "providerConfig") = []

variable {scheme : Scheme} {lookup : Lookup} {shoot start current proposed : Shoot}
  {configs : ShootConfigs} {proposals : List Proposal}

/-- A pool that has a name is found by it. -/
theorem named_of_mem_pool_names {name : String} (h : name ∈ shoot.poolNames) :
    ∃ worker, ShootWorker.named? shoot.spec.provider.workers name = some worker := by
  obtain ⟨worker, hworker, rfl⟩ := List.mem_map.1 h
  exact ShootWorker.exists_named hworker

/-- A pool keeps its zones as long as the shoot stays. -/
theorem KeepsZones.refl (shoot : Shoot) (name : String) : KeepsZones shoot shoot name := by
  intro before after hbefore hafter zone hzone
  rw [hbefore] at hafter
  obtain rfl := Option.some.inj hafter
  exact hzone

/-- A pool that two changes leave its zones keeps them, if it is there in between. -/
theorem KeepsZones.trans {earlier middle later : Shoot} {name : String}
    (hfirst : KeepsZones earlier middle name) (hsecond : KeepsZones middle later name)
    (hpresent : name ∈ middle.poolNames) : KeepsZones earlier later name := by
  intro before after hbefore hafter zone hzone
  obtain ⟨between, hbetween⟩ := named_of_mem_pool_names hpresent
  exact hsecond between after hbetween hafter zone (hfirst before between hbefore hbetween zone hzone)

/-- A shoot that is accepted as a new one is consistent. -/
theorem Consistent.of_accepted (htype : shoot.spec.provider.type = providerType)
    (haccepted : (shoot.accept scheme lookup none).result = .ok ()) :
    ∃ configs, shoot.Consistent scheme configs := by
  obtain ⟨context, hcontext, hclean⟩ := context_of_accepted htype haccepted
  obtain ⟨rfl, hdecoded, _⟩ := context_eq_ok_iff.1 hcontext
  obtain ⟨hnetworking, hinfrastructure, hcontrolPlane, hworkers, hpools⟩ :=
    ShootContext.check_eq_nil_iff.1 hclean
  refine ⟨context.configs, hdecoded, hnetworking, hinfrastructure, hcontrolPlane, hworkers, ?_⟩
  intro position worker hposition
  exact (ShootContext.check_pool_eq_nil_iff.1 (hpools position worker hposition)).1

/-- An infrastructure configuration that is not checked again was clean before, and its networks never
change. -/
theorem Consistent.infrastructure_update {context : ShootContext}
    (hconsistent : current.Consistent scheme configs)
    (h : context.checkInfrastructureChange configs = []) :
    context.configs.infrastructure.check infrastructurePath = [] ∧
      context.configs.infrastructure.networks = configs.infrastructure.networks := by
  rcases ShootContext.check_infrastructure_change_eq_nil_iff.1 h with hsame | ⟨hnetworks, hclean⟩
  · rw [← hsame]
    exact ⟨hconsistent.infrastructure, rfl⟩
  · exact ⟨hclean, hnetworks.symm⟩

/-- A control plane configuration that is not checked again was clean before. -/
theorem Consistent.control_plane_update {context : ShootContext}
    (hconsistent : current.Consistent scheme configs)
    (h : context.checkControlPlaneChange configs = []) :
    context.configs.controlPlane.check controlPlanePath = [] := by
  unfold ShootContext.checkControlPlaneChange at h
  split at h
  · rename_i hsame
    rw [← hsame]
    exact hconsistent.controlPlane
  · exact h

/-- A pool that is not checked again has a configuration that was clean before, under its name and for
the same data volumes. -/
theorem Consistent.pool_update {context : ShootContext}
    (hconsistent : current.Consistent scheme configs)
    (h : context.checkPoolChanges current.spec.provider.workers configs = [])
    {position : Nat} {worker : ShootWorker}
    (hposition : context.shoot.spec.provider.workers[position]? = some worker)
    {config : WorkerConfig} (hget : context.configs.pools.get? worker.name = some config) :
    config.check worker.dataVolumes ((workersPath.index position).child "providerConfig") = [] := by
  rcases ShootContext.check_pool_or_prior h hposition with hpool | hprior
  · exact (ShootContext.check_pool_eq_nil_iff.1 hpool).1 config hget
  · obtain ⟨earlier, prior, hearlier, _, _, hvolumes, hconfig⟩ := hprior
    have hclean := hconsistent.pools earlier prior hearlier config (hconfig.trans hget)
    rw [hvolumes] at hclean
    exact (config.check_relative _).clean hclean _

/-- An accepted update of a consistent shoot is consistent, has the same networks, and keeps the zones
of every pool. -/
theorem Consistent.update (hconsistent : current.Consistent scheme configs)
    (htype : proposed.spec.provider.type = providerType)
    (haccepted : (proposed.accept scheme lookup (some current)).result = .ok ()) :
    ∃ changed, proposed.Consistent scheme changed ∧
      changed.infrastructure.networks = configs.infrastructure.networks ∧
      ShootWorker.ZonesKept current.spec.provider.workers proposed.spec.provider.workers := by
  obtain ⟨context, hcontext, hclean⟩ := update_of_accepted htype hconsistent.decoded haccepted
  obtain ⟨rfl, hdecoded, _⟩ := context_eq_ok_iff.1 hcontext
  unfold ShootContext.checkUpdate at hclean
  simp only [List.append_eq_nil_iff] at hclean
  obtain ⟨⟨⟨⟨⟨hnetworking, hinfrastructure⟩, hcontrolPlane⟩, hworkers⟩, hzones⟩, hpools⟩ := hclean
  obtain ⟨hinfrastructure, hnetworks⟩ := hconsistent.infrastructure_update hinfrastructure
  refine ⟨context.configs, ?_, hnetworks, ShootWorker.check_update_eq_nil_iff.1 hzones⟩
  exact {
    decoded := hdecoded
    networking := hnetworking
    infrastructure := hinfrastructure
    controlPlane := hconsistent.control_plane_update hcontrolPlane
    workers := hworkers
    pools := fun position worker hposition config hget =>
      hconsistent.pool_update hpools hposition hget }

/-- A proposal leaves a consistent shoot consistent, with the same networks and with the zones of every
pool, whether or not it is accepted. -/
theorem Consistent.resolve (hconsistent : current.Consistent scheme configs) {proposal : Proposal}
    (htype : proposal.shoot.spec.provider.type = providerType) :
    ∃ changed, (proposal.resolve scheme current).Consistent scheme changed ∧
      changed.infrastructure.networks = configs.infrastructure.networks ∧
      ∀ name, KeepsZones current (proposal.resolve scheme current) name := by
  unfold Proposal.resolve
  split
  · rename_i haccepted
    obtain ⟨changed, hchanged, hnetworks, hkept⟩ := hconsistent.update htype haccepted
    refine ⟨changed, hchanged, hnetworks, fun name before after hbefore hafter => ?_⟩
    obtain ⟨hmem, rfl⟩ := ShootWorker.mem_of_named hafter
    exact hkept after hmem before hbefore
  · exact ⟨configs, hconsistent, rfl, KeepsZones.refl current⟩

/-- One more proposal takes the shoot one step further; after the last one it stays. -/
theorem after_take_succ (number : Nat) :
    start.after scheme (proposals.take (number + 1)) =
      proposals[number]?.elim (start.after scheme (proposals.take number))
        (Proposal.resolve scheme (start.after scheme (proposals.take number))) :=
  foldl_take_succ _ start proposals number

/-- What holds of the first shoot and of every proposed one holds of every state. -/
theorem after_of_forall {property : Shoot → Prop} (hstart : property start)
    (hproposals : ∀ proposal ∈ proposals, property proposal.shoot) (number : Nat) :
    property (start.after scheme (proposals.take number)) := by
  refine List.foldlRecOn (motive := property) _ _ hstart ?_
  intro current hcurrent proposal hproposal
  unfold Proposal.resolve
  split
  · exact hproposals proposal (List.mem_of_mem_take hproposal)
  · exact hcurrent

/-- Every state of a history that starts consistent is consistent and has the networks of the start. -/
theorem Consistent.after (hstart : start.Consistent scheme configs)
    (htypes : ∀ proposal ∈ proposals, proposal.shoot.spec.provider.type = providerType)
    (number : Nat) :
    ∃ changed, (start.after scheme (proposals.take number)).Consistent scheme changed ∧
      changed.infrastructure.networks = configs.infrastructure.networks := by
  -- The networks are those of the start and not of the state before: the invariant of the run.
  refine List.foldlRecOn
    (motive := fun shoot : Shoot => ∃ changed, shoot.Consistent scheme changed ∧
      changed.infrastructure.networks = configs.infrastructure.networks)
    _ _ ⟨configs, hstart, rfl⟩ ?_
  intro current hcurrent proposal hproposal
  obtain ⟨reached, hreached, hnetworks⟩ := hcurrent
  obtain ⟨changed, hchanged, hsame, _⟩ :=
    hreached.resolve (htypes proposal (List.mem_of_mem_take hproposal))
  exact ⟨changed, hchanged, hsame.trans hnetworks⟩

/-- No pool loses a zone from one state to the next one. -/
theorem Consistent.keeps_zones_succ (hstart : start.Consistent scheme configs)
    (htypes : ∀ proposal ∈ proposals, proposal.shoot.spec.provider.type = providerType)
    (number : Nat) (name : String) :
    KeepsZones (start.after scheme (proposals.take number))
      (start.after scheme (proposals.take (number + 1))) name := by
  obtain ⟨reached, hreached, _⟩ := hstart.after htypes number
  rw [after_take_succ]
  cases hproposal : proposals[number]? with
  | none => exact KeepsZones.refl _ name
  | some proposal =>
      obtain ⟨_, _, _, hkept⟩ :=
        hreached.resolve (htypes proposal (List.mem_of_getElem? hproposal))
      exact hkept name

/-- A pool that is in every state from one to another loses no zone between them. -/
theorem Consistent.keeps_zones (hstart : start.Consistent scheme configs)
    (htypes : ∀ proposal ∈ proposals, proposal.shoot.spec.provider.type = providerType)
    {name : String} {first last : Nat} (hle : first ≤ last)
    (hpresent : ∀ number, first ≤ number → number ≤ last →
      name ∈ (start.after scheme (proposals.take number)).poolNames) :
    KeepsZones (start.after scheme (proposals.take first))
      (start.after scheme (proposals.take last)) name := by
  -- By induction on the distance: a pool that is away for a state would lose its zones unseen.
  induction hle with
  | refl => exact KeepsZones.refl _ name
  | @step reached hle ih =>
      have hkept := ih fun number hfirst hlast => hpresent number hfirst (Nat.le_succ_of_le hlast)
      exact hkept.trans (hstart.keeps_zones_succ htypes reached name)
        (hpresent reached hle (Nat.le_succ reached))

/-- In every history of a shoot that is created and changed by accepted updates, whatever lookups find
meanwhile: every state is decoded strictly, has the networks of the created shoot, and passes the checks
of its networking section, its infrastructure and control plane configurations, its pools and the
configuration of every pool; and a pool that is in every state from one to another keeps its zones. -/
theorem history_keeps (htype : start.spec.provider.type = providerType)
    (haccepted : (start.accept scheme lookup none).result = .ok ())
    (htypes : ∀ proposal ∈ proposals, proposal.shoot.spec.provider.type = providerType)
    (hdistinct : start.poolNames.Nodup)
    (hdistincts : ∀ proposal ∈ proposals, proposal.shoot.poolNames.Nodup) :
    (∃ created, start.configs scheme.strictDecoder = .ok created ∧
      ∀ number, ∃ configs,
        (start.after scheme (proposals.take number)).Consistent scheme configs ∧
        configs.infrastructure.networks = created.infrastructure.networks ∧
        ∀ position worker,
          (start.after scheme (proposals.take number)).spec.provider.workers[position]? =
            some worker →
          ∃ config,
            (start.after scheme (proposals.take number)).poolConfig scheme.strictDecoder worker =
              .ok config ∧
            config.check worker.dataVolumes
              ((workersPath.index position).child "providerConfig") = []) ∧
    (∀ name first last, first ≤ last →
      (∀ number, first ≤ number → number ≤ last →
        name ∈ (start.after scheme (proposals.take number)).poolNames) →
      ∀ before ∈ (start.after scheme (proposals.take first)).spec.provider.workers,
        ∀ after ∈ (start.after scheme (proposals.take last)).spec.provider.workers,
          before.name = name → after.name = name → ∀ zone ∈ before.zones, zone ∈ after.zones) := by
  obtain ⟨created, hcreated⟩ := Consistent.of_accepted htype haccepted
  have hnames := @after_of_forall scheme start proposals (fun shoot => shoot.poolNames.Nodup)
    hdistinct hdistincts
  refine ⟨⟨created, hcreated.decoded, fun number => ?_⟩, ?_⟩
  · obtain ⟨configs, hconsistent, hnetworks⟩ := hcreated.after htypes number
    refine ⟨configs, hconsistent, hnetworks, fun position worker hposition => ?_⟩
    obtain ⟨config, hconfig, hget⟩ := pool_config_of_distinct (hnames number) hconsistent.decoded
      (List.mem_of_getElem? hposition)
    exact ⟨config, hconfig, hconsistent.pools position worker hposition config hget⟩
  · rintro name first last hle hpresent before hbefore after hafter rfl hname
    have hfirst := ShootWorker.named_of_distinct (hnames first) hbefore
    have hlast := ShootWorker.named_of_distinct (hnames last) hafter
    rw [hname] at hlast
    exact hcreated.keeps_zones htypes hle hpresent before after hfirst hlast

/-- Proposals of the sample shoot: to leave its zone for another one, and to take that zone as well. -/
def sampleProposals : List Proposal :=
  [⟨sampleLookup, sample ["b"]⟩, ⟨sampleLookup, sample ["a", "b"]⟩]

/-- The pool of the sample shoot is still in its first zone after both proposals. -/
theorem sample_history_keeps_zone :
    (((sample ["a"]).after .standard sampleProposals).spec.provider.workers.all fun worker =>
      worker.zones.contains "a") = true := by
  have hnames := @after_of_forall .standard (sample ["a"]) sampleProposals
    (fun shoot => shoot.poolNames = ["pool"]) rfl (by simp [sampleProposals, sample, poolNames])
  have hkept := (@history_keeps .standard sampleLookup (sample ["a"]) sampleProposals rfl rfl
    (by simp [sampleProposals, sample]) (by decide)
    (by simp [sampleProposals, sample, poolNames])).2
  refine List.all_eq_true.2 fun worker hworker => ?_
  have hname : worker.name ∈ ((sample ["a"]).after .standard sampleProposals).poolNames :=
    List.mem_map_of_mem hworker
  have hpool : worker.name = "pool" := List.mem_singleton.1 (hnames 2 ▸ hname)
  rw [List.contains_iff_mem]
  exact hkept "pool" 0 2 (by decide) (fun number _ _ => hnames number ▸ List.mem_cons_self) _
    List.mem_cons_self worker hworker rfl hpool "a" List.mem_cons_self

end Shoot

end ShootMachines
