import Mathlib.Data.List.Induction
import ShootMachines.Machines.Generation
import ShootMachines.Proofs.Results

/-!
# Images of machine plans

A generated plan lists an image once, whatever pools use it, and an image is told by name and
version. `MachinePlan.count_retired` follows: of the images that were in use before, each one that the
plan does not use is retired once, and no other.
-/

namespace ShootMachines

namespace MachineImage

variable {image other third : MachineImage}

/-- Two images have one name and version if both are equal. -/
theorem same_version_iff :
    image.sameVersion other = true ↔ image.name = other.name ∧ image.version = other.version := by
  simp [sameVersion]

/-- Images of one name and version have it in common with the same images. -/
theorem same_version_congr (h : image.sameVersion other = true) (third : MachineImage) :
    image.sameVersion third = other.sameVersion third := by
  obtain ⟨hname, hversion⟩ := same_version_iff.1 h
  rw [sameVersion, sameVersion, hname, hversion]

/-- Names and versions are compared both ways alike. -/
theorem same_version_comm (image other : MachineImage) :
    image.sameVersion other = other.sameVersion image := by
  rw [Bool.eq_iff_iff, same_version_iff, same_version_iff]
  exact ⟨fun h => ⟨h.1.symm, h.2.symm⟩, fun h => ⟨h.1.symm, h.2.symm⟩⟩

end MachineImage

/-- No two images of a list have one name and version. -/
def DistinctImages (images : List MachineImage) : Prop :=
  images.Pairwise fun image other => image.sameVersion other = false

/-- Appending an image keeps the images distinct. -/
theorem DistinctImages.append {images : List MachineImage} (h : DistinctImages images)
    (image : MachineImage) : DistinctImages (appendImage images image) := by
  unfold appendImage
  split
  · exact h
  · rename_i hnew
    refine List.pairwise_append.2 ⟨h, List.pairwise_singleton _ _, ?_⟩
    intro listed hlisted other hother
    rw [List.mem_singleton.1 hother, MachineImage.same_version_comm]
    rw [List.any_eq_true, not_exists] at hnew
    exact Bool.eq_false_iff.2 fun hsame => hnew listed ⟨hlisted, hsame⟩

/-- Among distinct images, one at most has the name and version of an image. -/
theorem DistinctImages.count_same_version {images : List MachineImage} (h : DistinctImages images)
    (image : MachineImage) :
    images.countP image.sameVersion = if images.any image.sameVersion then 1 else 0 := by
  induction images with
  | nil => rfl
  | cons first rest ih =>
      obtain ⟨hfirst, hrest⟩ := List.pairwise_cons.1 h
      rw [List.countP_cons, List.any_cons, ih hrest]
      cases hsame : image.sameVersion first with
      | false => simp
      | true =>
          have hother : rest.any image.sameVersion = false := by
            refine List.any_eq_false.2 fun other hother => ?_
            rw [MachineImage.same_version_congr hsame, hfirst other hother]
            exact Bool.false_ne_true
          simp [hother]

/-- An image is appended to the images of two lists, of the second those that the first one lacks, as it
is to the second list. -/
theorem append_image_append (images others : List MachineImage) (image : MachineImage) :
    appendImage (images ++ others.filter fun other => !images.any other.sameVersion) image =
      images ++ (appendImage others image).filter fun other => !images.any other.sameVersion := by
  have hfilter : (others.filter fun other => !images.any other.sameVersion).any image.sameVersion =
      (!images.any image.sameVersion && others.any image.sameVersion) := by
    rw [List.any_filter, Bool.eq_iff_iff, Bool.and_eq_true, List.any_eq_true, List.any_eq_true]
    simp only [Bool.and_eq_true]
    constructor
    · rintro ⟨other, hother, hlacks, hsame⟩
      rw [← funext (MachineImage.same_version_congr hsame)] at hlacks
      exact ⟨hlacks, other, hother, hsame⟩
    · rintro ⟨hlacks, other, hother, hsame⟩
      rw [funext (MachineImage.same_version_congr hsame)] at hlacks
      exact ⟨other, hother, hlacks, hsame⟩
  unfold appendImage
  rw [List.any_append, hfilter]
  cases hfirst : images.any image.sameVersion with
  | true => cases others.any image.sameVersion <;> simp [hfirst]
  | false => cases others.any image.sameVersion <;> simp [hfirst]

/-- Images are appended to a list as far as the list lacks them. -/
theorem foldl_append_image (images others : List MachineImage) :
    others.foldl appendImage images =
      images ++ (others.foldl appendImage []).filter fun other => !images.any other.sameVersion := by
  induction others using List.reverseRecOn with
  | nil => simp
  | append_singleton others image ih =>
      rw [List.foldl_append, List.foldl_append, ih]
      exact append_image_append images (others.foldl appendImage []) image

/-- Appending images adds no others. -/
theorem mem_of_mem_foldl_append_image {images others : List MachineImage} {image : MachineImage}
    (h : image ∈ others.foldl appendImage images) : image ∈ images ∨ image ∈ others := by
  induction others generalizing images with
  | nil => exact .inl h
  | cons other others ih =>
      rcases ih h with happended | hothers
      · unfold appendImage at happended
        split at happended
        · exact .inl happended
        · rcases List.mem_append.1 happended with himages | hother
          · exact .inl himages
          · exact .inr (List.mem_singleton.1 hother ▸ List.mem_cons_self)
      · exact .inr (List.mem_cons_of_mem other hothers)

namespace MachinePlan

/-- Whether a plan uses an image of a name and version. -/
def uses (plan : MachinePlan) (image : MachineImage) : Bool :=
  plan.images.any image.sameVersion

variable {scheme : Scheme} {credentials : CredentialSource} {worker : Worker} {cluster : Cluster}
  {provider : ProviderCluster} {plan : MachinePlan}

/-- A plan uses an image if it lists one of that name and version. -/
theorem uses_eq (plan : MachinePlan) (image : MachineImage) :
    plan.uses image =
      plan.images.any fun used => used.name = image.name ∧ used.version = image.version := by
  unfold uses
  congr 1
  funext used
  rw [MachineImage.same_version_comm, Bool.eq_iff_iff, MachineImage.same_version_iff,
    decide_eq_true_iff]

/-- A plan uses images of one name and version alike. -/
theorem uses_congr {image other : MachineImage} (h : image.sameVersion other = true) :
    plan.uses image = plan.uses other := by
  unfold uses
  rw [funext (MachineImage.same_version_congr h)]

/-- Adding pools keeps the images of a plan distinct. -/
theorem distinct_images_add_pools (pools : List PoolPlan) (h : DistinctImages plan.images) :
    DistinctImages (pools.foldl addPool plan).images := by
  induction pools generalizing plan with
  | nil => exact h
  | cons pool rest ih => exact ih (h.append pool.image)

/-- A compiled plan lists every image once. -/
theorem distinct_images_of_compile
    (h : (compile scheme worker cluster provider).result = .ok plan) :
    DistinctImages plan.images := by
  unfold compile at h
  simp only [Run.result_bind, Run.result_lift, bind_eq_ok_iff] at h
  obtain ⟨setting, _, pools, _, _, _, hplan⟩ := h
  obtain rfl := Except.ok.inj hplan
  exact distinct_images_add_pools pools List.Pairwise.nil

/-- A generated plan lists every image once. -/
theorem distinct_images_of_generate
    (h : (generate scheme credentials worker cluster).result = .ok plan) :
    DistinctImages plan.images := by
  unfold generate at h
  simp only [Run.result_bind, Run.result_lift, bind_eq_ok_iff] at h
  obtain ⟨_, _, kubeconfig, _, provider, _, _, _, hcompile⟩ := h
  exact distinct_images_of_compile hcompile

/-- The retired images are those of an earlier status that the plan does not use. -/
theorem mem_retired_iff {earlier : WorkerStatus} {image : MachineImage} :
    image ∈ plan.retiredImages earlier ↔
      image ∈ earlier.machineImages ∧ plan.uses image = false := by
  unfold retiredImages uses
  rw [List.mem_filter, Bool.not_eq_true']

/-- Of distinct images that were in use before, an image is retired once if it was among them and the
plan does not use it, and not at all otherwise. -/
theorem count_retired {earlier : WorkerStatus} (h : DistinctImages earlier.machineImages)
    (image : MachineImage) :
    (plan.retiredImages earlier).countP image.sameVersion =
      if earlier.machineImages.any image.sameVersion && !plan.uses image then 1 else 0 := by
  -- Whether a listed image is kept does not depend on its URL, so it can be asked of `image` instead.
  have hkept : ∀ listed ∈ earlier.machineImages,
      (image.sameVersion listed && !plan.uses listed) = true ↔
        (image.sameVersion listed && !plan.uses image) = true := by
    intro listed _
    cases hsame : image.sameVersion listed with
    | false => simp
    | true => rw [uses_congr hsame]
  unfold retiredImages
  rw [List.countP_filter]
  refine (List.countP_congr hkept).trans ?_
  cases plan.uses image with
  | true => simp
  | false => simpa using h.count_same_version image

end MachinePlan

end ShootMachines
