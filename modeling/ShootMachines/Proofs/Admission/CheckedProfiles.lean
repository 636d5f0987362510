import ShootMachines.Proofs.Admission.EachItemLemmas
import ShootMachines.Proofs.Admission.ProfileAgreement

/-!
# What admission says of cloud profiles

The configuration of an accepted cloud profile is checked entry by entry, whatever names repeat in it. So
whichever entry a search by name finds first, it has passed its check: `ProfileConfig.Checked` holds all
that generation relies on. The configuration is decoded leniently for the check and strictly for
generation, but where the strict decoder succeeds both have the same (`CloudProfile.checked_of_accepted`).
-/

namespace ShootMachines

/-- A disk can be fetched from a URL that is not empty and that is valid. -/
structure Fetchable (url : String) : Prop where
  stated : url ≠ ""
  valid : Net.Url.check url = .ok ()

/-- A source is clean exactly if a disk can be fetched from it. -/
theorem check_source_url_eq_nil_iff {url : String} {path : FieldPath} :
    checkSourceUrl url path = [] ↔ Fetchable url := by
  unfold checkSourceUrl
  constructor
  · intro h
    split at h
    · cases h
    · rename_i hstated
      cases hcheck : Net.Url.check url with
      | ok checked => exact ⟨fun hempty => hstated (String.isEmpty_iff.2 hempty), hcheck⟩
      | error fault =>
          rw [hcheck] at h
          cases h
  · rintro ⟨hstated, hvalid⟩
    rw [if_neg (mt String.isEmpty_iff.1 hstated), hvalid]

/-- A size is clean exactly if it is a quantity. -/
theorem check_size_eq_nil_iff {size : String} {path : FieldPath} :
    checkSize size path = [] ↔ Quantity.parse size = .ok ⟨size⟩ := by
  unfold checkSize Quantity.parse
  cases Quantity.check size.toList with
  | ok checked => exact ⟨fun _ => rfl, fun _ => rfl⟩
  | error fault => constructor <;> intro h <;> cases h

/-- What generation relies on in the configuration of a cloud profile: every listed version has a source
that can be fetched, and all limits are quantities. -/
structure ProfileConfig.Checked (config : ProfileConfig) : Prop where
  sources : ∀ image ∈ config.machineImages, ∀ version ∈ image.versions, Fetchable version.sourceUrl
  limits : ∀ extension ∈ config.machineTypes, ∀ limits, extension.limits = some limits →
    Quantity.parse limits.cpu.text = .ok limits.cpu ∧
      Quantity.parse limits.memory.text = .ok limits.memory

/-- The versions of a clean image have sources that can be fetched. -/
theorem MachineImages.fetchable_of_check {image : MachineImages} {path : FieldPath}
    (h : image.check path = []) : ∀ version ∈ image.versions, Fetchable version.sourceUrl := by
  intro version hversion
  obtain ⟨_, hversions⟩ := List.append_eq_nil_iff.1 h
  obtain ⟨position, hposition⟩ := List.getElem?_of_mem hversion
  have hclean := check_each_eq_nil_iff.1 hversions position version hposition
  obtain ⟨_, hsource⟩ := List.append_eq_nil_iff.1 hclean
  exact check_source_url_eq_nil_iff.1 hsource

/-- The limits of a clean machine type are quantities. -/
theorem MachineTypeExtension.quantities_of_check {spec : CloudProfileSpec}
    {extension : MachineTypeExtension} {path : FieldPath} {limits : ResourceLimits}
    (h : extension.check spec path = []) (hlimits : extension.limits = some limits) :
    Quantity.parse limits.cpu.text = .ok limits.cpu ∧
      Quantity.parse limits.memory.text = .ok limits.memory := by
  obtain ⟨_, hclean⟩ := List.append_eq_nil_iff.1 h
  rw [hlimits, Option.elim_some] at hclean
  obtain ⟨hcpu, hmemory⟩ := List.append_eq_nil_iff.1 hclean
  exact ⟨check_size_eq_nil_iff.1 hcpu, check_size_eq_nil_iff.1 hmemory⟩

namespace ProfileConfig

variable {config : ProfileConfig}

/-- A clean configuration is checked throughout. -/
theorem checked_of_check {spec : CloudProfileSpec} {path : FieldPath}
    (h : config.check spec path = []) : config.Checked := by
  unfold check at h
  obtain ⟨h, htypes⟩ := List.append_eq_nil_iff.1 h
  obtain ⟨_, himages⟩ := List.append_eq_nil_iff.1 h
  constructor
  · intro image himage
    obtain ⟨position, hposition⟩ := List.getElem?_of_mem himage
    exact MachineImages.fetchable_of_check (check_each_eq_nil_iff.1 himages position image hposition)
  · intro extension hextension limits hlimits
    obtain ⟨position, hposition⟩ := List.getElem?_of_mem hextension
    exact MachineTypeExtension.quantities_of_check
      (check_each_eq_nil_iff.1 htypes position extension hposition) hlimits

/-- Every image that is found has a source that can be fetched. -/
theorem Checked.fetchable (h : config.Checked) {name version url : String}
    (hurl : config.imageUrl name version = .ok url) : Fetchable url := by
  unfold imageUrl at hurl
  split at hurl
  · rename_i found hfound
    obtain rfl := Except.ok.inj hurl
    obtain ⟨image, himage, hversion⟩ := List.mem_flatMap.1 (List.mem_of_find?_eq_some hfound)
    exact h.sources image (List.mem_of_mem_filter himage) found hversion
  · cases hurl

end ProfileConfig

/-- The configuration that is decoded for generation is checked, if the profile was accepted. -/
theorem CloudProfile.checked_of_accepted {scheme : Scheme} {profile : CloudProfile}
    {config : ProfileConfig} (htype : profile.spec.type = providerType)
    (haccepted : (profile.accept scheme).result = .ok ())
    (hconfig : scheme.profileConfig profile = .ok config) : config.Checked := by
  obtain ⟨payload, stored, hpayload, hstored, hclean⟩ := clean_config_of_accepted htype haccepted
  -- What is decoded strictly is decoded leniently as the same configuration.
  have hlenient := decode_section_lenient hconfig
  rw [hpayload] at hlenient
  obtain rfl := Except.ok.inj (hstored.symm.trans hlenient)
  exact ProfileConfig.checked_of_check hclean

end ShootMachines
