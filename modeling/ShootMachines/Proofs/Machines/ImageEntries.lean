import Mathlib.Data.List.Forall2
import Mathlib.Data.List.Induction
import ShootMachines.Proofs.Machines.PlanSources

/-!
# The image entries of a plan

An image of a plan answers a reference (`MachineImage.reference`). Appending images one by one keeps the
first one for every reference (`map_reference_foldl_append_image`), so a plan has one image for each reference
of its pools, in the order in which they occur first. Its URL is the first one that the cloud profile states
for the reference (`ProfileConfig.FirstSource`), and nothing that the machines of a pool fetch comes from
elsewhere: `MachinePlan.images_listed_once`.
-/

namespace ShootMachines

namespace MachineImage

/-- The reference that an image answers. -/
def reference (image : MachineImage) : ImageReference := ⟨image.name, image.version⟩

variable {image other : MachineImage}

/-- Images have one name and version if they answer the same reference. -/
theorem same_version_iff_reference :
    image.sameVersion other = true ↔ other.reference = image.reference := by
  rw [same_version_comm, same_version_iff]
  unfold reference
  rw [ImageReference.mk.injEq]

end MachineImage

section AppendedImages

variable {images others : List MachineImage} {image : MachineImage}

/-- A list has an image of a name and version if one of its images answers the reference to it. -/
theorem any_same_version_iff :
    images.any image.sameVersion = true ↔ image.reference ∈ images.map MachineImage.reference := by
  simp only [List.any_eq_true, List.mem_map, MachineImage.same_version_iff_reference]

/-- One more image adds its reference, unless it is answered already. -/
theorem map_reference_append_image (images : List MachineImage) (image : MachineImage) :
    (appendImage images image).map MachineImage.reference =
      if image.reference ∈ images.map MachineImage.reference then images.map MachineImage.reference
      else images.map MachineImage.reference ++ [image.reference] := by
  unfold appendImage
  simp only [any_same_version_iff]
  split
  · rfl
  · rw [List.map_append, List.map_singleton]

/-- Images that are appended one by one answer every reference once, in the order in which they occur
first. -/
theorem map_reference_foldl_append_image (others : List MachineImage) :
    (others.foldl appendImage []).map MachineImage.reference =
      (others.map MachineImage.reference).eraseDups := by
  induction others using List.reverseRecOn with
  | nil => rfl
  | append_singleton others image ih =>
      rw [List.foldl_append, List.map_append, List.map_singleton, erase_dups_append_singleton]
      rw [List.foldl_cons, List.foldl_nil, map_reference_append_image, ih]
      simp only [List.mem_eraseDups]

/-- Appending an image adds the reference that it answers, and no other. -/
theorem mem_map_reference_append_image {reference : ImageReference} :
    reference ∈ (appendImage images image).map MachineImage.reference ↔
      reference ∈ images.map MachineImage.reference ∨ reference = image.reference := by
  rw [map_reference_append_image]
  split
  · rename_i hlisted
    exact ⟨.inl, fun h => h.elim id fun h => h ▸ hlisted⟩
  · rw [List.mem_append, List.mem_singleton]

/-- Appending images adds the references that they answer, and no others. -/
theorem mem_map_reference_foldl_append_image {reference : ImageReference} :
    reference ∈ (others.foldl appendImage images).map MachineImage.reference ↔
      reference ∈ (images ++ others).map MachineImage.reference := by
  induction others generalizing images with
  | nil => rw [List.foldl_nil, List.append_nil]
  | cons image others ih =>
      rw [List.foldl_cons, ih, List.map_append, List.mem_append, mem_map_reference_append_image]
      rw [List.map_append, List.map_cons, List.mem_append, List.mem_cons, or_assoc]

/-- Appending images keeps the images distinct. -/
theorem DistinctImages.foldl_append (h : DistinctImages images) (others : List MachineImage) :
    DistinctImages (others.foldl appendImage images) := by
  induction others generalizing images with
  | nil => exact h
  | cons image others ih => exact ih (h.append image)

/-- Appending an image leaves a list as it is exactly if the reference to the image is answered. -/
theorem append_image_eq_self_iff :
    appendImage images image = images ↔ image.reference ∈ images.map MachineImage.reference := by
  rw [← any_same_version_iff]
  unfold appendImage
  split
  · rename_i hlisted
    exact ⟨fun _ => hlisted, fun _ => rfl⟩
  · rename_i hnew
    exact ⟨fun h => absurd h (by simp), fun h => absurd h hnew⟩

end AppendedImages

namespace ProfileConfig

/-- The first entry of a version among those of all images of a name, in the order of the configuration, has
this source. -/
def FirstSource (config : ProfileConfig) (reference : ImageReference) (url : String) : Prop :=
  ∃ before entry after,
    (config.machineImages.filter fun images => images.name = reference.name).flatMap
        MachineImages.versions = before ++ entry :: after ∧
      entry.version = reference.version ∧ entry.sourceUrl = url ∧
      ∀ earlier ∈ before, earlier.version ≠ reference.version

/-- The URL of an image is its first source. -/
theorem image_url_eq_ok_iff {config : ProfileConfig} {reference : ImageReference} {url : String} :
    config.imageUrl reference.name reference.version = .ok url ↔ config.FirstSource reference url := by
  have hfind : config.imageUrl reference.name reference.version = .ok url ↔
      ∃ entry, ((config.versionsOf reference.name).find? fun image =>
        image.version = reference.version) = some entry ∧ entry.sourceUrl = url := by
    unfold imageUrl
    cases (config.versionsOf reference.name).find? fun image => image.version = reference.version with
    | none => simp
    | some entry => simp
  rw [hfind]
  simp only [List.find?_eq_some_iff_append, decide_eq_true_eq, Bool.not_eq_true',
    decide_eq_false_iff_not]
  unfold FirstSource versionsOf
  constructor
  · rintro ⟨entry, ⟨hversion, before, after, hentries, hearlier⟩, hurl⟩
    exact ⟨before, entry, after, hentries, hversion, hurl, hearlier⟩
  · rintro ⟨before, entry, after, hentries, hversion, hurl, hearlier⟩
    exact ⟨entry, ⟨hversion, before, after, hentries, hearlier⟩, hurl⟩

end ProfileConfig

/-- A zone of pools is one of a pool of the list. -/
theorem PoolZone.pool_mem_of_mem {pools : List WorkerPool} {poolZone : PoolZone}
    (h : poolZone ∈ ofPools pools) : poolZone.pool ∈ pools := by
  obtain ⟨pool, hpool, hzone⟩ := List.mem_flatMap.1 h
  obtain ⟨_, _, rfl⟩ := List.mem_map.1 hzone
  exact hpool

/-- Volumes of a planned zone that fetch an image fetch this one. -/
def ZonePlan.FetchesOnly (zone : ZonePlan) (image : MachineImage) : Prop :=
  ∀ volume ∈ zone.volumes, ∀ url, volume.source = .image url → url = image.sourceUrl

namespace MachinePlan

variable {scheme : Scheme} {worker : Worker} {cluster : Cluster} {provider : ProviderCluster}
  {plan : MachinePlan}

/-- A plan has one image for each reference of its pools, in the order in which they occur first. -/
theorem map_reference_images (h : (compile scheme worker cluster provider).result = .ok plan) :
    plan.images.map MachineImage.reference =
      (worker.spec.pools.map WorkerPool.machineImage).eraseDups := by
  rw [compile_result] at h
  obtain ⟨setting, _, h⟩ := bind_eq_ok_iff.1 h
  obtain ⟨plans, hplans, h⟩ := bind_eq_ok_iff.1 h
  obtain rfl := Except.ok.inj h
  have hreferences : worker.spec.pools.map WorkerPool.machineImage =
      plans.map fun poolPlan => poolPlan.image.reference := by
    refine map_eq_of_forall₂ ((map_m_eq_ok_iff.1 hplans).imp fun pool poolPlan hpool => ?_)
    obtain ⟨resolved, _, _, hplanned, _⟩ := Setting.pool_plan_eq_ok hpool
    rw [hplanned]
    rfl
  rw [foldl_add_pool, hreferences]
  exact (map_reference_foldl_append_image _).trans (by rw [List.map_map]; rfl)

/-- What the volumes of a planned zone fetch is the image that answers the reference of the pool. -/
theorem fetches_only_image (h : (compile scheme worker cluster provider).result = .ok plan)
    {setting : Setting} (hsetting : Setting.of scheme worker cluster provider = .ok setting)
    {poolZone : PoolZone} (hpool : poolZone.pool ∈ worker.spec.pools) {zone : ZonePlan}
    (hzone : setting.Plans poolZone zone) :
    ∃ image ∈ plan.images, image.reference = poolZone.pool.machineImage ∧ zone.FetchesOnly image := by
  have hlisted : poolZone.pool.machineImage ∈ plan.images.map MachineImage.reference := by
    rw [map_reference_images h, List.mem_eraseDups]
    exact List.mem_map_of_mem hpool
  obtain ⟨image, himage, hreference⟩ := List.mem_map.1 hlisted
  refine ⟨image, himage, hreference, fun volume hvolume url hurl => ?_⟩
  obtain ⟨config, hconfig, hsource⟩ := image_of_compile h himage
  obtain ⟨rfl, rfl, rfl, rfl, hprofile, _⟩ := setting_of_eq_ok hsetting
  obtain rfl := Except.ok.inj (hprofile.symm.trans hconfig)
  have hfetched := hzone.source_of_image hvolume hurl
  rw [← hreference] at hfetched
  exact Except.ok.inj (hfetched.symm.trans hsource)

/-- A plan has one image for each reference of its pools, in the order in which they occur first, with the
first source of the reference in the cloud profile, and what the volumes of a zone fetch is the image of the
pool. Images that are appended to others one by one leave these in place, do not repeat any, and change
nothing where one is listed already. -/
theorem images_listed_once (scheme : Scheme) (worker : Worker) (cluster : Cluster)
    (provider : ProviderCluster) :
    (∀ plan, (compile scheme worker cluster provider).result = .ok plan →
      plan.images.map MachineImage.reference =
          (worker.spec.pools.map WorkerPool.machineImage).eraseDups ∧
        (∃ config, scheme.profileConfig cluster.cloudProfile = .ok config ∧
          ∀ image ∈ plan.images, config.FirstSource image.reference image.sourceUrl) ∧
        ∃ zones : List ZonePlan,
          plan.classes = zones.map ZonePlan.machineClass ∧
          plan.volumes = .ofList (zones.filterMap ZonePlan.classVolume?) ∧
          List.Forall₂ (fun poolZone zone => ∃ image ∈ plan.images,
              image.reference = poolZone.pool.machineImage ∧ zone.FetchesOnly image)
            (PoolZone.ofPools worker.spec.pools) zones) ∧
    ∀ images others,
      (DistinctImages images → DistinctImages (others.foldl appendImage images)) ∧
      images <+: others.foldl appendImage images ∧
      ∀ image, appendImage (others.foldl appendImage images) image = others.foldl appendImage images ↔
        image.reference ∈ (images ++ others).map MachineImage.reference := by
  refine ⟨fun plan hplan => ?_, fun images others => ⟨fun h => h.foldl_append others, ?_, ?_⟩⟩
  · obtain ⟨setting, zones, hsetting, hzones, hclasses, _, hvolumes⟩ := compile_eq_ok hplan
    refine ⟨map_reference_images hplan, ⟨setting.profileConfig, ?_⟩, zones, hclasses, hvolumes, ?_⟩
    · obtain ⟨_, _, _, _, hconfig, _⟩ := setting_of_eq_ok hsetting
      refine ⟨hconfig, fun image himage => ProfileConfig.image_url_eq_ok_iff.1 ?_⟩
      obtain ⟨config, hsame, hurl⟩ := image_of_compile hplan himage
      obtain rfl := Except.ok.inj (hconfig.symm.trans hsame)
      exact hurl
    · have hpools := (List.forall₂_and_left _ _).2 ⟨fun _ => PoolZone.pool_mem_of_mem, hzones⟩
      exact hpools.imp fun poolZone zone hzone =>
        fetches_only_image hplan hsetting hzone.1 hzone.2
  · rw [foldl_append_image]
    exact List.prefix_append _ _
  · intro image
    rw [append_image_eq_self_iff, mem_map_reference_foldl_append_image]

/-- The sample cluster with a cloud profile that lists an image twice, and versions of it more than once. -/
def sampleListingCluster : Cluster :=
  { sampleCluster with
    cloudProfile := { sampleCluster.cloudProfile with
      spec := { sampleCluster.cloudProfile.spec with
        providerConfig := some (encodeConfig .profileConfig
          ⟨[⟨"linux", [⟨"2", "https://images/2"⟩]⟩, ⟨"other", [⟨"1", "https://other/1"⟩]⟩,
              ⟨"linux", [⟨"2", "https://mirror/2"⟩, ⟨"1", "https://images/1"⟩, ⟨"1", "https://mirror/1"⟩]⟩],
            []⟩) } } }

/-- A worker of which the first and the last pool have one image. -/
def sampleSharingWorker : Worker :=
  sampleWorker.withPools
    [sampleFetchingPool, sampleCopyingPool, { sampleFetchingPool with name := "third" }]

/-- The sample worker has two images, each with the first of the URLs that the sample profile lists for it.
Appended to another image of a name and version that the worker has too, they do not repeat it. -/
theorem sample_images_listed :
    ∃ plan config,
      (compile .standard sampleSharingWorker sampleListingCluster sampleProvider).result = .ok plan ∧
      Scheme.standard.profileConfig sampleListingCluster.cloudProfile = .ok config ∧
      plan.images.map MachineImage.reference = [⟨"linux", "2"⟩, ⟨"linux", "1"⟩] ∧
      config.FirstSource ⟨"linux", "2"⟩ "https://images/2" ∧
      config.FirstSource ⟨"linux", "1"⟩ "https://images/1" ∧
      DistinctImages (plan.images.foldl appendImage [⟨"linux", "1", "https://mirror/1"⟩]) := by
  have hfound :
      (compile .standard sampleSharingWorker sampleListingCluster sampleProvider).result.toOption.map
        MachinePlan.images =
        some [⟨"linux", "2", "https://images/2"⟩, ⟨"linux", "1", "https://images/1"⟩] := by
    decide +kernel
  obtain ⟨hlisted, happended⟩ :=
    images_listed_once .standard sampleSharingWorker sampleListingCluster sampleProvider
  cases hplan : (compile .standard sampleSharingWorker sampleListingCluster sampleProvider).result with
  | error failure =>
      rw [hplan] at hfound
      cases hfound
  | ok plan =>
      rw [hplan] at hfound
      have himages := Option.some.inj hfound
      obtain ⟨hreferences, ⟨config, hconfig, hsources⟩, _⟩ := hlisted plan hplan
      obtain ⟨hdistinct, _⟩ := happended [⟨"linux", "1", "https://mirror/1"⟩] plan.images
      refine ⟨plan, config, rfl, hconfig, hreferences.trans (by decide), ?_, ?_,
        hdistinct (List.pairwise_singleton _ _)⟩
      · exact hsources ⟨"linux", "2", "https://images/2"⟩ (by rw [himages]; decide)
      · exact hsources ⟨"linux", "1", "https://images/1"⟩ (by rw [himages]; decide)

end MachinePlan

end ShootMachines
