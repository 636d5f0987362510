import Mathlib.Data.List.Perm.Basic
import ShootMachines.Proofs.Admission.ListedNames
import ShootMachines.Proofs.Admission.OncePerField
import ShootMachines.Proofs.Admission.ShootFields

/-!
# The violations of pool configurations

`WorkerConfig.Violation` says what is wrong with the provider configuration of a pool beside its data
volumes, rule by rule, and `WorkerConfig.Sound` what a configuration without any violation is like. The check
finds exactly those violations (`WorkerConfig.mem_check_iff`), one for a disk at most, and whether it finds
any does not depend on the order of the disks and of the data volumes: `WorkerConfig.check_exact`.
-/

namespace ShootMachines

/-- What is wrong with the disks of a pool with data volumes. A disk whose name is missing or repeated is not
sought among the data volumes. -/
inductive Disk.Violation (volumes : List DataVolume) (disks : List Disk) (path : FieldPath) :
    FieldError → Prop
  | name {error : FieldError}
      (h : NameViolation "disk name is required" (disks.map Disk.name) path error) :
      Violation volumes disks path error
  | noVolume {position : Nat} {name : String} (h : (disks.map Disk.name)[position]? = some name)
      (hname : name ≠ "") (hfirst : ∀ number < position, (disks.map Disk.name)[number]? ≠ some name)
      (hnone : ∀ volume ∈ volumes, volume.name ≠ name) :
      Violation volumes disks path
        (.invalid ((path.index position).child "name") name
          "must reference a data volume of the worker pool")

/-- The disks have names of their own, and each is the name of a data volume. -/
structure Disk.Backed (volumes : List DataVolume) (disks : List Disk) : Prop where
  names_ne : ∀ disk ∈ disks, disk.name ≠ ""
  names_nodup : (disks.map Disk.name).Nodup
  volume : ∀ disk ∈ disks, ∃ volume ∈ volumes, volume.name = disk.name

namespace WorkerConfig

/-- The disks of a configuration; without devices there are none. -/
def disks (config : WorkerConfig) : List Disk :=
  (config.devices.map Devices.disks).getD []

/-- The configuration with other disks, if it has devices at all. -/
def withDisks (config : WorkerConfig) (disks : List Disk) : WorkerConfig :=
  { config with devices := config.devices.map fun devices => { devices with disks := disks } }

/-- The name servers of a configuration. -/
def nameservers (config : WorkerConfig) : List String :=
  (config.dnsConfig.bind DnsConfig.nameservers).getD []

/-- The huge memory pages of a configuration. -/
def hugepages (config : WorkerConfig) : Option Hugepages :=
  config.memory.bind Memory.hugepages

/-- The field of the disks. -/
def disksField (path : FieldPath) : FieldPath :=
  (path.child "devices").child "disks"

/-- What is wrong with the configuration of a pool with data volumes. -/
inductive Violation (config : WorkerConfig) (volumes : List DataVolume) (path : FieldPath) :
    FieldError → Prop
  | policy {policy : String} (h : config.dnsPolicy = some policy)
      (hother : policy ∉ ["ClusterFirstWithHostNet", "ClusterFirst", "Default", "None"]) :
      Violation config volumes path
        (.notSupported (path.child "dnsPolicy") policy
          ["ClusterFirstWithHostNet", "ClusterFirst", "Default", "None"])
  | nameservers (h : config.dnsPolicy = some "None") (hnone : config.nameservers = []) :
      Violation config volumes path
        (.required ((path.child "dnsConfig").child "nameservers")
          "at least one nameserver is required when dnsPolicy is None")
  | disks {error : FieldError} (h : Disk.Violation volumes config.disks (disksField path) error) :
      Violation config volumes path error
  | emulator {cpu : Cpu} (h : config.cpu = some cpu) (hisolate : cpu.isolateEmulatorThread = some true)
      (hshared : cpu.dedicatedPlacement ≠ some true) :
      Violation config volumes path
        (.forbidden ((path.child "cpu").child "isolateEmulatorThread") "requires dedicatedCpuPlacement")
  | pageSize {hugepages : Hugepages} (h : config.hugepages = some hugepages)
      (hsize : hugepages.pageSize ∉ ["2Mi", "1Gi"]) :
      Violation config volumes path
        (.notSupported (((path.child "memory").child "hugepages").child "pageSize")
          hugepages.pageSize ["2Mi", "1Gi"])

/-- A configuration that agrees with itself and with the data volumes of the pool. -/
structure Sound (config : WorkerConfig) (volumes : List DataVolume) : Prop where
  policy : ∀ policy, config.dnsPolicy = some policy →
    policy ∈ ["ClusterFirstWithHostNet", "ClusterFirst", "Default", "None"]
  nameservers : config.dnsPolicy = some "None" → config.nameservers ≠ []
  disks : Disk.Backed volumes config.disks
  emulator : ∀ cpu, config.cpu = some cpu → cpu.isolateEmulatorThread = some true →
    cpu.dedicatedPlacement = some true
  page_size : ∀ hugepages, config.hugepages = some hugepages → hugepages.pageSize ∈ ["2Mi", "1Gi"]

variable {config : WorkerConfig} {volumes : List DataVolume} {disks : List Disk} {path : FieldPath}
  {error : FieldError}

/-- The check of a disk finds a missing name, else a repeated one, else one that no data volume has. -/
theorem mem_check_disk_iff {earlier : List Disk} {disk : Disk} :
    error ∈ checkDisk volumes earlier disk path ↔
      disk.name = "" ∧ error = .required path "disk name is required" ∨
      disk.name ≠ "" ∧ (earlier.any fun other => other.name = disk.name) = true ∧
        error = .duplicate path disk.name ∨
      disk.name ≠ "" ∧ ¬(earlier.any fun other => other.name = disk.name) = true ∧
        (∀ volume ∈ volumes, volume.name ≠ disk.name) ∧
        error = .invalid path disk.name "must reference a data volume of the worker pool" := by
  unfold checkDisk
  by_cases hname : disk.name = ""
  · simp [hname]
  · by_cases hrepeated : (earlier.any fun other => other.name = disk.name) = true
    · simp [hname, hrepeated]
    · simp [hname, hrepeated]

end WorkerConfig

/-- The check of the disks finds what is wrong with them. -/
theorem Disk.mem_check_each_iff {volumes : List DataVolume} {disks : List Disk} {path : FieldPath}
    {error : FieldError} :
    error ∈ checkEach (fun earlier position disk =>
        WorkerConfig.checkDisk volumes earlier disk ((path.index position).child "name")) disks ↔
      Disk.Violation volumes disks path error := by
  simp only [mem_check_each, WorkerConfig.mem_check_disk_iff, any_take_iff, not_exists, not_and]
  constructor
  · rintro ⟨position, disk, h, ⟨hname, rfl⟩ | ⟨hname, ⟨number, hnumber, hsame⟩, rfl⟩ |
      ⟨hname, hfirst, hnone, rfl⟩⟩
    · exact .name (.missing (getElem?_map_name.2 ⟨disk, h, hname⟩))
    · exact .name (.repeated (getElem?_map_name.2 ⟨disk, h, rfl⟩) hname hnumber hsame)
    · exact .noVolume (getElem?_map_name.2 ⟨disk, h, rfl⟩) hname hfirst hnone
  · intro h
    cases h with
    | name h =>
        cases h with
        | missing h =>
            obtain ⟨disk, hdisk, hname⟩ := getElem?_map_name.1 h
            exact ⟨_, disk, hdisk, .inl ⟨hname, rfl⟩⟩
        | repeated h hname hnumber hsame =>
            obtain ⟨disk, hdisk, rfl⟩ := getElem?_map_name.1 h
            exact ⟨_, disk, hdisk, .inr (.inl ⟨hname, ⟨_, hnumber, hsame⟩, rfl⟩)⟩
    | noVolume h hname hfirst hnone =>
        obtain ⟨disk, hdisk, rfl⟩ := getElem?_map_name.1 h
        exact ⟨_, disk, hdisk, .inr (.inr ⟨hname, hfirst, hnone, rfl⟩)⟩

/-- What is wrong with disks is reported of the name of a disk. -/
theorem Disk.Violation.path_of_name {volumes : List DataVolume} {disks : List Disk} {path : FieldPath}
    {error : FieldError} (h : Disk.Violation volumes disks path error) :
    ∃ position : Nat, error.path = (path.index position).child "name" := by
  cases h with
  | name h => cases h <;> exact ⟨_, rfl⟩
  | noVolume => exact ⟨_, rfl⟩

/-- Nothing is wrong with the disks exactly if they have names of their own that data volumes have. -/
theorem Disk.backed_iff {volumes : List DataVolume} {disks : List Disk} {path : FieldPath} :
    (∀ error, ¬Disk.Violation volumes disks path error) ↔ Disk.Backed volumes disks := by
  constructor
  · intro h
    obtain ⟨hnames, hnodup⟩ := name_violation_free_iff.1 fun error herror => h error (.name herror)
    refine ⟨hnames, hnodup, fun disk hdisk => ?_⟩
    obtain ⟨position, hposition⟩ := List.getElem?_of_mem hdisk
    by_contra hnone
    rw [not_exists] at hnone
    refine h _ (.noVolume (getElem?_map_name.2 ⟨disk, hposition, rfl⟩) (hnames disk hdisk) ?_
      fun volume hvolume hsame => hnone volume ⟨hvolume, hsame⟩)
    -- Names of their own: no earlier disk has the name of this one.
    intro number hnumber hother
    obtain ⟨other, hother, hsame⟩ := getElem?_map_name.1 hother
    exact nodup_map_iff.1 hnodup position disk hposition other
      (mem_take_iff.2 ⟨number, hnumber, hother⟩) hsame
  · rintro ⟨hnames, hnodup, hvolume⟩ error herror
    cases herror with
    | name h => exact name_violation_free_iff.2 ⟨hnames, hnodup⟩ error h
    | noVolume h _ _ hnone =>
        obtain ⟨disk, hdisk, rfl⟩ := getElem?_map_name.1 h
        obtain ⟨volume, hmem, hsame⟩ := hvolume disk (List.mem_of_getElem? hdisk)
        exact hnone volume hmem hsame

/-- Disks stay backed in another order, by data volumes in another order. -/
theorem Disk.Backed.of_perm {volumes others : List DataVolume} {disks shuffled : List Disk}
    (h : Disk.Backed volumes disks) (hdisks : shuffled.Perm disks) (hvolumes : others.Perm volumes) :
    Disk.Backed others shuffled where
  names_ne disk hdisk := h.names_ne disk (hdisks.mem_iff.1 hdisk)
  names_nodup := (hdisks.map Disk.name).nodup_iff.2 h.names_nodup
  volume disk hdisk := by
    obtain ⟨volume, hvolume, hname⟩ := h.volume disk (hdisks.mem_iff.1 hdisk)
    exact ⟨volume, hvolumes.mem_iff.2 hvolume, hname⟩

/-- The names of backed disks are some of those of the data volumes, each at most once. -/
theorem Disk.Backed.names_subperm {volumes : List DataVolume} {disks : List Disk}
    (h : Disk.Backed volumes disks) :
    (disks.map Disk.name).Subperm (volumes.map DataVolume.name) := by
  refine List.subperm_of_subset h.names_nodup fun name hname => ?_
  obtain ⟨disk, hdisk, rfl⟩ := List.mem_map.1 hname
  obtain ⟨volume, hvolume, hsame⟩ := h.volume disk hdisk
  exact List.mem_map.2 ⟨volume, hvolume, hsame⟩

namespace WorkerConfig

variable {config : WorkerConfig} {volumes : List DataVolume} {path : FieldPath} {error : FieldError}

/-- A configuration has the disks that it is given, if these are a reordering of its own. -/
theorem disks_with_disks {shuffled : List Disk} (h : shuffled.Perm config.disks) :
    (config.withDisks shuffled).disks = shuffled := by
  unfold disks at h
  unfold withDisks disks
  cases hdevices : config.devices with
  | none =>
      rw [hdevices] at h
      exact h.eq_nil.symm
  | some devices => rfl

/-- A configuration is the same again with its own disks. -/
theorem with_disks_twice (config : WorkerConfig) (shuffled : List Disk) :
    (config.withDisks shuffled).withDisks config.disks = config := by
  obtain ⟨devices, cpu, memory, dnsPolicy, dnsConfig, overcommits, allocates⟩ := config
  cases devices <;> rfl

/-- The DNS settings are checked field by field: a policy that is not supported needs no name servers. -/
theorem check_dns_eq (config : WorkerConfig) (path : FieldPath) :
    config.checkDns path =
      (config.dnsPolicy.elim [] fun policy => errorIf (!dnsPolicies.contains policy)
        (.notSupported (path.child "dnsPolicy") policy dnsPolicies)) ++
      errorIf (config.dnsPolicy = some "None" && config.nameservers.isEmpty)
        (.required ((path.child "dnsConfig").child "nameservers")
          "at least one nameserver is required when dnsPolicy is None") := by
  unfold checkDns nameservers
  cases config.dnsPolicy with
  | none => rfl
  | some policy =>
      by_cases hsupported : policy ∈ dnsPolicies
      · simp [hsupported]
      · have hother : policy ≠ "None" := by
          rintro rfl
          exact hsupported (by decide)
        simp [hsupported, hother]

/-- The disks are checked one by one. -/
theorem check_disks_eq (config : WorkerConfig) (volumes : List DataVolume) (path : FieldPath) :
    config.checkDisks volumes path = checkEach (fun earlier position disk =>
      checkDisk volumes earlier disk (((disksField path).index position).child "name"))
      config.disks := by
  unfold checkDisks disks disksField
  cases config.devices <;> rfl

/-- The checks of the fields of a configuration. -/
def fieldChecks (config : WorkerConfig) (volumes : List DataVolume) :
    List (String × (FieldPath → List FieldError)) :=
  [("dnsPolicy", fun path => config.dnsPolicy.elim [] fun policy =>
      errorIf (!dnsPolicies.contains policy) (.notSupported path policy dnsPolicies)),
    ("dnsConfig", fun path =>
      errorIf (config.dnsPolicy = some "None" && config.nameservers.isEmpty)
        (.required (path.child "nameservers")
          "at least one nameserver is required when dnsPolicy is None")),
    ("devices", fun path => checkEach (fun earlier position disk =>
      checkDisk volumes earlier disk (((path.child "disks").index position).child "name"))
      config.disks),
    ("cpu", fun path => config.cpu.elim [] fun cpu =>
      errorIf (cpu.isolateEmulatorThread = some true && cpu.dedicatedPlacement ≠ some true)
        (.forbidden (path.child "isolateEmulatorThread") "requires dedicatedCpuPlacement")),
    ("memory", fun path => config.hugepages.elim [] fun hugepages =>
      errorIf (!hugepageSizes.contains hugepages.pageSize)
        (.notSupported ((path.child "hugepages").child "pageSize") hugepages.pageSize
          hugepageSizes))]

/-- A configuration is checked field by field. -/
theorem check_eq (config : WorkerConfig) (volumes : List DataVolume) :
    config.check volumes = fun path =>
      (config.fieldChecks volumes).flatMap fun entry => entry.2 (path.child entry.1) := by
  funext path
  have hcpu : config.checkCpu path = config.cpu.elim [] fun cpu =>
      errorIf (cpu.isolateEmulatorThread = some true && cpu.dedicatedPlacement ≠ some true)
        (.forbidden ((path.child "cpu").child "isolateEmulatorThread")
          "requires dedicatedCpuPlacement") := by
    unfold checkCpu
    cases config.cpu <;> rfl
  have hmemory : config.checkMemory path = config.hugepages.elim [] fun hugepages =>
      errorIf (!hugepageSizes.contains hugepages.pageSize)
        (.notSupported (((path.child "memory").child "hugepages").child "pageSize")
          hugepages.pageSize hugepageSizes) := by
    unfold checkMemory hugepages
    cases config.memory.bind Memory.hugepages <;> rfl
  unfold check
  rw [check_dns_eq, check_disks_eq, hcpu, hmemory]
  simp [fieldChecks, disksField]

/-- The check of a configuration finds exactly what is wrong with it. -/
theorem mem_check_iff : error ∈ config.check volumes path ↔ config.Violation volumes path error := by
  rw [check_eq]
  simp only [fieldChecks, List.flatMap_cons, List.flatMap_nil, List.append_nil, List.mem_append,
    mem_elim, mem_error_if, Bool.and_eq_true, Bool.not_eq_true', decide_eq_true_eq,
    List.contains_eq_mem, decide_eq_false_iff_not, List.isEmpty_iff]
  constructor
  · rintro (⟨policy, h, hother, rfl⟩ | ⟨⟨h, hnone⟩, rfl⟩ | h | ⟨cpu, h, ⟨hisolate, hshared⟩, rfl⟩ |
      ⟨hugepages, h, hsize, rfl⟩)
    · exact .policy h hother
    · exact .nameservers h hnone
    · exact .disks (Disk.mem_check_each_iff.1 h)
    · exact .emulator h hisolate hshared
    · exact .pageSize h hsize
  · intro h
    cases h with
    | policy h hother => exact .inl ⟨_, h, hother, rfl⟩
    | nameservers h hnone => exact .inr (.inl ⟨⟨h, hnone⟩, rfl⟩)
    | disks h => exact .inr (.inr (.inl (Disk.mem_check_each_iff.2 h)))
    | emulator h hisolate hshared =>
        exact .inr (.inr (.inr (.inl ⟨_, h, ⟨hisolate, hshared⟩, rfl⟩)))
    | pageSize h hsize => exact .inr (.inr (.inr (.inr ⟨_, h, hsize, rfl⟩)))

/-- Nothing is wrong with a configuration exactly if it is sound. -/
theorem sound_iff : (∀ error, ¬config.Violation volumes path error) ↔ config.Sound volumes := by
  constructor
  · intro h
    constructor
    · intro policy hpolicy
      by_contra hother
      exact h _ (.policy hpolicy hother)
    · exact fun hpolicy hnone => h _ (.nameservers hpolicy hnone)
    · exact Disk.backed_iff.1 fun error herror => h error (.disks herror)
    · intro cpu hcpu hisolate
      by_contra hshared
      exact h _ (.emulator hcpu hisolate hshared)
    · intro hugepages hhugepages
      by_contra hsize
      exact h _ (.pageSize hhugepages hsize)
  · intro hsound error herror
    cases herror with
    | policy h hother => exact hother (hsound.policy _ h)
    | nameservers h hnone => exact hsound.nameservers h hnone
    | disks h => exact Disk.backed_iff.2 hsound.disks _ h
    | emulator h hisolate hshared => exact hshared (hsound.emulator _ h hisolate)
    | pageSize h hsize => exact hsize (hsound.page_size _ h)

/-- A configuration is clean exactly if it is sound. -/
theorem check_eq_nil_iff : config.check volumes path = [] ↔ config.Sound volumes := by
  simp only [List.eq_nil_iff_forall_not_mem, mem_check_iff, sound_iff]

/-- A configuration stays sound with its disks in another order, beside data volumes in another order. -/
theorem Sound.of_perm {others : List DataVolume} {shuffled : List Disk} (h : config.Sound volumes)
    (hdisks : shuffled.Perm config.disks) (hvolumes : others.Perm volumes) :
    (config.withDisks shuffled).Sound others where
  policy := h.policy
  nameservers := h.nameservers
  disks := by
    rw [disks_with_disks hdisks]
    exact h.disks.of_perm hdisks hvolumes
  emulator := h.emulator
  page_size := h.page_size

/-- The check of a configuration reports every field once. -/
theorem check_reports_once (config : WorkerConfig) (volumes : List DataVolume) :
    ReportsOnce (config.check volumes) := by
  have hnames : ["dnsPolicy", "dnsConfig", "devices", "cpu", "memory"].Nodup := by decide
  have hdisk (earlier : List Disk) (disk : Disk) : ReportsOnce (checkDisk volumes earlier disk) :=
    .ite _ (.single _ _ _) (.ite _ (.single _ _ _) (.error_if _ _ _ _))
  have hdisks : ReportsOnce fun path => checkEach
      (fun earlier position disk => checkDisk volumes earlier disk ((path.index position).child "name"))
      config.disks :=
    .items _ fun earlier _ disk => (hdisk earlier disk).child _
  rw [check_eq]
  refine .fields hnames ?_
  simp only [fieldChecks, List.forall_mem_cons]
  exact ⟨.elim (fun policy => .error_if _ _ _ _) _, (ReportsOnce.error_if _ _ _ _).child _,
    hdisks.child _, .elim (fun cpu => (ReportsOnce.error_if _ _ _ _).child _) _,
    .elim (fun hugepages => ((ReportsOnce.error_if _ _ _ _).child _).child _) _, nofun⟩

/-- What is reported within a disk is reported of its name. -/
theorem Violation.path_of_disk {position : Nat} (h : config.Violation volumes path error)
    (hwithin : error.path.isWithin ((disksField path).index position) = true) :
    error.path = ((disksField path).index position).child "name" := by
  cases h with
  | disks h =>
      obtain ⟨number, hpath⟩ := h.path_of_name
      rw [hpath] at hwithin
      by_cases hsame : number = position
      · rw [hpath, hsame]
      · rcases FieldPath.prefix_of_is_within hwithin (FieldPath.is_within_child _ "name") with hle | hle
        · exact absurd hle (FieldPath.index_not_prefix (Ne.symm hsame))
        · exact absurd hle (FieldPath.index_not_prefix hsame)
  | policy | nameservers | emulator | pageSize =>
      simp [disksField, FieldPath.isWithin, FieldPath.child, FieldPath.index, FieldPath.push,
        FieldError.notSupported, FieldError.required, FieldError.forbidden,
        List.isPrefixOf_iff_prefix, List.prefix_append_right_inj] at hwithin

/-- A disk has one violation at most. -/
theorem disk_violations_le_one (config : WorkerConfig) (volumes : List DataVolume) (path : FieldPath)
    (position : Nat) :
    (violationsWithin ((disksField path).index position) (config.check volumes path)).length ≤ 1 := by
  have hfield : ∀ error ∈ violationsWithin ((disksField path).index position)
      (config.check volumes path),
      error.path = ((disksField path).index position).child "name" := by
    intro error herror
    obtain ⟨herror, hwithin⟩ := List.mem_filter.1 herror
    exact (mem_check_iff.1 herror).path_of_disk hwithin
  exact (((config.check_reports_once volumes).once path).filter _).length_le_one hfield

/-- The check of a configuration finds exactly what is wrong with it, and no field has two violations, nor a
disk. It finds nothing exactly if the configuration is sound; then the disks have names of their own, which
are some of those of the data volumes. Whether it finds anything depends neither on the order of the disks
nor on that of the data volumes. -/
theorem check_exact (config : WorkerConfig) (volumes : List DataVolume) (path : FieldPath) :
    (∀ error, error ∈ config.check volumes path ↔ config.Violation volumes path error) ∧
    OncePerField (config.check volumes path) ∧
    (∀ position,
      (violationsWithin ((disksField path).index position) (config.check volumes path)).length ≤ 1) ∧
    (config.check volumes path = [] ↔ config.Sound volumes) ∧
    (config.check volumes path = [] → (∀ disk ∈ config.disks, disk.name ≠ "") ∧
      (config.disks.map Disk.name).Nodup ∧
      (config.disks.map Disk.name).Subperm (volumes.map DataVolume.name)) ∧
    ∀ shuffled others, shuffled.Perm config.disks → others.Perm volumes →
      ((config.withDisks shuffled).check others path = [] ↔ config.check volumes path = []) := by
  refine ⟨fun error => mem_check_iff, (config.check_reports_once volumes).once path,
    config.disk_violations_le_one volumes path, check_eq_nil_iff, fun hclean => ?_,
    fun shuffled others hdisks hvolumes => ?_⟩
  · have hsound := check_eq_nil_iff.1 hclean
    exact ⟨hsound.disks.names_ne, hsound.disks.names_nodup, hsound.disks.names_subperm⟩
  · rw [check_eq_nil_iff, check_eq_nil_iff]
    constructor
    · intro hsound
      rw [← config.with_disks_twice shuffled]
      refine hsound.of_perm ?_ hvolumes.symm
      rw [disks_with_disks hdisks]
      exact hdisks.symm
    · exact fun hsound => hsound.of_perm hdisks hvolumes

/-- A disk with a name and no settings. -/
def sampleDisk (name : String) : Disk := ⟨name, none, none, none, none, none⟩

/-- A data volume with a name. -/
def sampleVolume (name : String) : DataVolume := ⟨name, some "fast", "5Gi"⟩

/-- A configuration with two disks. -/
def sampleDisks : WorkerConfig :=
  ⟨some ⟨[sampleDisk "data", sampleDisk "logs"], none, none, none⟩, none, none, none, none, false, false⟩

-- The second disk is not sought among the data volumes: its name is that of the first one, which was.
example :
    ((sampleDisks.withDisks [sampleDisk "data", sampleDisk "data"]).check [] ⟨"", []⟩).map
      FieldError.kind = [.invalid, .duplicate] := by decide

/-- Two disks that are backed by three data volumes are, the other way round, backed by the data volumes in
another order. -/
theorem sample_disks_reordered :
    [sampleDisk "logs", sampleDisk "data"].Perm sampleDisks.disks ∧
      sampleDisks.check [sampleVolume "data", sampleVolume "cache", sampleVolume "logs"] ⟨"", []⟩ = [] ∧
      (sampleDisks.withDisks [sampleDisk "logs", sampleDisk "data"]).check
        [sampleVolume "logs", sampleVolume "data", sampleVolume "cache"] ⟨"", []⟩ = [] := by
  have hdisks : [sampleDisk "logs", sampleDisk "data"].Perm sampleDisks.disks := by decide
  have hvolumes : [sampleVolume "logs", sampleVolume "data", sampleVolume "cache"].Perm
      [sampleVolume "data", sampleVolume "cache", sampleVolume "logs"] := by decide
  have hclean : sampleDisks.check [sampleVolume "data", sampleVolume "cache", sampleVolume "logs"]
      ⟨"", []⟩ = [] := by decide
  obtain ⟨_, _, _, _, _, hreordered⟩ := check_exact sampleDisks
    [sampleVolume "data", sampleVolume "cache", sampleVolume "logs"] ⟨"", []⟩
  exact ⟨hdisks, hclean, (hreordered _ _ hdisks hvolumes).2 hclean⟩

end WorkerConfig

end ShootMachines
