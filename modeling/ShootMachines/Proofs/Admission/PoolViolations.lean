import ShootMachines.Proofs.Admission.CheckedProfiles
import ShootMachines.Proofs.Admission.OncePerField
import ShootMachines.Proofs.Admission.ShootFields

/-!
# The violations of worker pools

`ShootWorker.Violation` says what is wrong with a pool, rule by rule and with the field that each rule
reports, and `ShootWorker.Sound` what a pool without any violation is like. The check of a pool finds exactly
those violations (`ShootWorker.mem_check_iff`), and none of them twice, since no two rules report one field
(`ShootWorker.check_reports_once`). `ShootWorker.check_all_exact` says so for a list of pools, where every
pool is checked as if it were alone.
-/

namespace ShootMachines

/-- What is wrong with the type and the size of a volume. A missing type is reported with a text of its
own. -/
inductive StorageViolation (untyped : String) (type : Option String) (size : String)
    (path : FieldPath) : FieldError → Prop
  | type (h : type = none ∨ type = some "") :
      StorageViolation untyped type size path (.required (path.child "type") untyped)
  | size {fault : Quantity.Fault} (h : Quantity.parse size = .error fault) :
      StorageViolation untyped type size path
        (.invalid (path.child "size") size ("must be a quantity: " ++ fault.message))

/-- What is wrong with the data volumes of a pool. -/
inductive DataVolume.Violation (volumes : List DataVolume) (path : FieldPath) : FieldError → Prop
  | noName {position : Nat} {volume : DataVolume} (h : volumes[position]? = some volume)
      (hname : volume.name = "") :
      Violation volumes path
        (.required ((path.index position).child "name") "data volume name is required")
  | repeatedName {position number : Nat} {volume other : DataVolume}
      (h : volumes[position]? = some volume) (hname : volume.name ≠ "") (hnumber : number < position)
      (hother : volumes[number]? = some other) (hsame : other.name = volume.name) :
      Violation volumes path (.duplicate ((path.index position).child "name") volume.name)
  | storage {position : Nat} {volume : DataVolume} {error : FieldError}
      (h : volumes[position]? = some volume)
      (herror : StorageViolation "data volume type is required" volume.type volume.size
        (path.index position) error) :
      Violation volumes path error

/-- What is wrong with a pool. -/
inductive ShootWorker.Violation (worker : ShootWorker) (path : FieldPath) : FieldError → Prop
  | noZone (h : worker.zones = []) :
      Violation worker path (.required (path.child "zones") "at least one zone must be configured")
  | repeatedZone {position number : Nat} {zone : String} (h : worker.zones[position]? = some zone)
      (hnumber : number < position) (hsame : worker.zones[number]? = some zone) :
      Violation worker path (.duplicate ((path.child "zones").index position) zone)
  | minimum (h : worker.minimum.toInt < 0) :
      Violation worker path
        (.invalid (path.child "minimum") (toString worker.minimum.toInt) "must not be negative")
  | maximum (h : worker.maximum.toInt < worker.minimum.toInt) :
      Violation worker path
        (.invalid (path.child "maximum") (toString worker.maximum.toInt)
          "must not be less than minimum")
  | volume {volume : Volume} {error : FieldError} (h : worker.volume = some volume)
      (herror : StorageViolation "volume type is required" volume.type volume.size
        (path.child "volume") error) :
      Violation worker path error
  | dataVolumes {error : FieldError}
      (h : DataVolume.Violation worker.dataVolumes (path.child "dataVolumes") error) :
      Violation worker path error

/-- A volume states a type and a size that is a quantity. -/
structure SoundStorage (type : Option String) (size : String) : Prop where
  typed : ∃ name, type = some name ∧ name ≠ ""
  sized : ∃ quantity, Quantity.parse size = .ok quantity

/-- A pool has zones without repetition, ordered bounds, and complete volumes with names of their own. -/
structure ShootWorker.Sound (worker : ShootWorker) : Prop where
  zones_ne : worker.zones ≠ []
  zones_nodup : worker.zones.Nodup
  minimum_nonneg : 0 ≤ worker.minimum.toInt
  minimum_le_maximum : worker.minimum.toInt ≤ worker.maximum.toInt
  volume : ∀ volume, worker.volume = some volume → SoundStorage volume.type volume.size
  data_volumes : ∀ volume ∈ worker.dataVolumes, SoundStorage volume.type volume.size
  names_ne : ∀ volume ∈ worker.dataVolumes, volume.name ≠ ""
  names_nodup : (worker.dataVolumes.map DataVolume.name).Nodup

/-- A size is reported with the fault that it is refused for. -/
theorem mem_check_size_iff {size : String} {path : FieldPath} {error : FieldError} :
    error ∈ checkSize size path ↔ ∃ fault, Quantity.parse size = .error fault ∧
      error = .invalid path size ("must be a quantity: " ++ fault.message) := by
  unfold checkSize
  cases Quantity.parse size with
  | ok quantity => simp
  | error fault => simp

/-- The checks of a type and of a size find what is wrong with them. -/
theorem mem_check_storage_iff {untyped : String} {type : Option String} {size : String}
    {path : FieldPath} {error : FieldError} :
    error ∈ errorIf (type.getD "").isEmpty (.required (path.child "type") untyped) ++
        checkSize size (path.child "size") ↔ StorageViolation untyped type size path error := by
  have htype : (type.getD "").isEmpty = true ↔ type = none ∨ type = some "" := by
    cases type <;> simp
  rw [List.mem_append, mem_error_if, mem_check_size_iff, htype]
  constructor
  · rintro (⟨h, rfl⟩ | ⟨fault, h, rfl⟩)
    · exact .type h
    · exact .size h
  · intro h
    cases h with
    | type h => exact .inl ⟨h, rfl⟩
    | size h => exact .inr ⟨_, h, rfl⟩

/-- The check of a root volume finds what is wrong with its type and its size. -/
theorem Volume.mem_check_iff {volume : Volume} {path : FieldPath} {error : FieldError} :
    error ∈ volume.check path ↔
      StorageViolation "volume type is required" volume.type volume.size path error :=
  mem_check_storage_iff

/-- The check of the name of a data volume finds a missing name, or else a repeated one. -/
theorem DataVolume.mem_check_name_iff {earlier : List DataVolume} {volume : DataVolume}
    {path : FieldPath} {error : FieldError} :
    error ∈ volume.checkName earlier path ↔
      volume.name = "" ∧ error = .required (path.child "name") "data volume name is required" ∨
      volume.name ≠ "" ∧ (∃ other ∈ earlier, other.name = volume.name) ∧
        error = .duplicate (path.child "name") volume.name := by
  unfold checkName
  by_cases hname : volume.name = ""
  · simp [hname]
  · simp [hname]

/-- The check of a data volume finds what is wrong with its name, its type and its size. -/
theorem DataVolume.mem_check_iff {earlier : List DataVolume} {volume : DataVolume} {path : FieldPath}
    {error : FieldError} :
    error ∈ volume.check earlier path ↔ error ∈ volume.checkName earlier path ∨
      StorageViolation "data volume type is required" volume.type volume.size path error := by
  unfold check
  rw [List.append_assoc, List.mem_append, mem_check_storage_iff]

/-- The check of the data volumes finds what is wrong with them. -/
theorem DataVolume.mem_check_each_iff {volumes : List DataVolume} {path : FieldPath}
    {error : FieldError} :
    error ∈ checkEach
        (fun earlier position volume => volume.check earlier (path.index position)) volumes ↔
      DataVolume.Violation volumes path error := by
  simp only [mem_check_each, mem_check_iff, mem_check_name_iff, mem_take_iff]
  constructor
  · rintro ⟨position, volume, h, (⟨hname, rfl⟩ | ⟨hname, ⟨other, ⟨number, hnumber, hother⟩, hsame⟩, rfl⟩) |
      herror⟩
    · exact .noName h hname
    · exact .repeatedName h hname hnumber hother hsame
    · exact .storage h herror
  · intro h
    cases h with
    | noName h hname => exact ⟨_, _, h, .inl (.inl ⟨hname, rfl⟩)⟩
    | repeatedName h hname hnumber hother hsame =>
        exact ⟨_, _, h, .inl (.inr ⟨hname, ⟨_, ⟨_, hnumber, hother⟩, hsame⟩, rfl⟩)⟩
    | storage h herror => exact ⟨_, _, h, .inr herror⟩

/-- Nothing is wrong with the type and the size of a volume exactly if they are sound. -/
theorem sound_storage_iff {untyped : String} {type : Option String} {size : String} {path : FieldPath} :
    (∀ error, ¬StorageViolation untyped type size path error) ↔ SoundStorage type size := by
  constructor
  · intro h
    constructor
    · cases type with
      | none => exact absurd (.type (.inl rfl)) (h _)
      | some name => exact ⟨name, rfl, fun hname => h _ (.type (.inr (congrArg some hname)))⟩
    · cases hsize : Quantity.parse size with
      | ok quantity => exact ⟨quantity, rfl⟩
      | error fault => exact absurd (.size hsize) (h _)
  · rintro ⟨⟨name, rfl, hname⟩, ⟨quantity, hquantity⟩⟩ error herror
    cases herror with
    | type h =>
        rcases h with h | h
        · cases h
        · exact hname (Option.some.inj h)
    | size h => cases hquantity.symm.trans h

/-- Nothing is wrong with the data volumes of a pool exactly if they are complete and have names of their
own. -/
theorem DataVolume.sound_iff {volumes : List DataVolume} {path : FieldPath} :
    (∀ error, ¬DataVolume.Violation volumes path error) ↔
      (∀ volume ∈ volumes, SoundStorage volume.type volume.size) ∧
        (∀ volume ∈ volumes, volume.name ≠ "") ∧ (volumes.map DataVolume.name).Nodup := by
  constructor
  · intro h
    have hname : ∀ volume ∈ volumes, volume.name ≠ "" := by
      intro volume hvolume hempty
      obtain ⟨position, hposition⟩ := List.getElem?_of_mem hvolume
      exact h _ (.noName hposition hempty)
    refine ⟨fun volume hvolume => ?_, hname, ?_⟩
    · obtain ⟨position, hposition⟩ := List.getElem?_of_mem hvolume
      exact sound_storage_iff.1 fun error herror => h error (.storage hposition herror)
    · refine nodup_map_iff.2 fun position volume hposition other hother hsame => ?_
      obtain ⟨number, hnumber, hother⟩ := mem_take_iff.1 hother
      exact h _ (.repeatedName hposition (hname volume (List.mem_of_getElem? hposition)) hnumber hother
        hsame)
  · rintro ⟨hstorage, hname, hnodup⟩ error herror
    cases herror with
    | noName h hempty => exact hname _ (List.mem_of_getElem? h) hempty
    | repeatedName h _ hnumber hother hsame =>
        exact nodup_map_iff.1 hnodup _ _ h _ (mem_take_iff.2 ⟨_, hnumber, hother⟩) hsame
    | storage h herror => exact sound_storage_iff.2 (hstorage _ (List.mem_of_getElem? h)) _ herror

namespace ShootWorker

variable {worker : ShootWorker} {path : FieldPath} {error : FieldError}

/-- The check of the zones finds that there are none, and every zone that occurs before. -/
theorem mem_check_zones_iff : error ∈ worker.checkZones path ↔
    worker.zones = [] ∧ error = .required path "at least one zone must be configured" ∨
      ∃ position zone, worker.zones[position]? = some zone ∧
        (∃ number < position, worker.zones[number]? = some zone) ∧
        error = .duplicate (path.index position) zone := by
  unfold checkZones
  rw [List.mem_append, mem_error_if, List.isEmpty_iff, mem_check_each]
  simp only [mem_error_if, List.contains_iff_mem, mem_take_iff]

/-- The check of the bounds finds a negative minimum and a maximum below the minimum. -/
theorem mem_check_bounds_iff : error ∈ worker.checkBounds path ↔
    worker.minimum.toInt < 0 ∧ error =
        .invalid (path.child "minimum") (toString worker.minimum.toInt) "must not be negative" ∨
      worker.maximum.toInt < worker.minimum.toInt ∧ error =
        .invalid (path.child "maximum") (toString worker.maximum.toInt)
          "must not be less than minimum" := by
  unfold checkBounds
  rw [List.mem_append, mem_error_if, mem_error_if, decide_eq_true_eq, decide_eq_true_eq,
    Int32.lt_iff_toInt_lt, Int32.lt_iff_toInt_lt]
  rfl

/-- The check of the volumes finds what is wrong with the root volume and with the data volumes. -/
theorem mem_check_volumes_iff : error ∈ worker.checkVolumes path ↔
    (∃ volume, worker.volume = some volume ∧
      StorageViolation "volume type is required" volume.type volume.size (path.child "volume") error) ∨
      DataVolume.Violation worker.dataVolumes (path.child "dataVolumes") error := by
  unfold checkVolumes
  rw [List.mem_append, DataVolume.mem_check_each_iff]
  cases worker.volume with
  | none => simp
  | some volume => simp [Volume.mem_check_iff]

/-- The check of a pool finds exactly what is wrong with it. -/
theorem mem_check_iff : error ∈ worker.check path ↔ worker.Violation path error := by
  unfold check
  rw [List.mem_append, List.mem_append, mem_check_zones_iff, mem_check_bounds_iff,
    mem_check_volumes_iff]
  constructor
  · rintro (((⟨h, rfl⟩ | ⟨position, zone, h, ⟨number, hnumber, hsame⟩, rfl⟩) | ⟨h, rfl⟩ | ⟨h, rfl⟩) |
      ⟨volume, h, herror⟩ | h)
    · exact .noZone h
    · exact .repeatedZone h hnumber hsame
    · exact .minimum h
    · exact .maximum h
    · exact .volume h herror
    · exact .dataVolumes h
  · intro h
    cases h with
    | noZone h => exact .inl (.inl (.inl ⟨h, rfl⟩))
    | repeatedZone h hnumber hsame => exact .inl (.inl (.inr ⟨_, _, h, ⟨_, hnumber, hsame⟩, rfl⟩))
    | minimum h => exact .inl (.inr (.inl ⟨h, rfl⟩))
    | maximum h => exact .inl (.inr (.inr ⟨h, rfl⟩))
    | volume h herror => exact .inr (.inl ⟨_, h, herror⟩)
    | dataVolumes h => exact .inr (.inr h)

/-- Nothing is wrong with a pool exactly if it is sound. -/
theorem sound_iff : (∀ error, ¬worker.Violation path error) ↔ worker.Sound := by
  constructor
  · intro h
    obtain ⟨hstorage, hnames, hnodup⟩ :=
      DataVolume.sound_iff.1 fun error herror => h error (.dataVolumes herror)
    refine ⟨fun hzones => h _ (.noZone hzones), ?_, ?_, ?_, fun volume hvolume => ?_, hstorage, hnames,
      hnodup⟩
    · refine List.nodup_iff_getElem?_ne_getElem?.2 fun number position hnumber hposition hsame => ?_
      have hzone := List.getElem?_eq_getElem hposition
      exact h _ (.repeatedZone hzone hnumber (hsame.trans hzone))
    · exact Int.not_lt.1 fun hminimum => h _ (.minimum hminimum)
    · exact Int.not_lt.1 fun hmaximum => h _ (.maximum hmaximum)
    · exact sound_storage_iff.1 fun error herror => h error (.volume hvolume herror)
  · intro hsound error herror
    cases herror with
    | noZone h => exact hsound.zones_ne h
    | repeatedZone h hnumber hsame =>
        exact List.nodup_iff_getElem?_ne_getElem?.1 hsound.zones_nodup _ _ hnumber
          (List.getElem?_eq_some_iff.1 h).1 (hsame.trans h.symm)
    | minimum h => exact Int.not_lt.2 hsound.minimum_nonneg h
    | maximum h => exact Int.not_lt.2 hsound.minimum_le_maximum h
    | volume h herror => exact sound_storage_iff.2 (hsound.volume _ h) _ herror
    | dataVolumes h =>
        exact DataVolume.sound_iff.2 ⟨hsound.data_volumes, hsound.names_ne, hsound.names_nodup⟩ _ h

/-- A pool is clean exactly if it is sound. -/
theorem check_eq_nil_iff : worker.check path = [] ↔ worker.Sound := by
  simp only [List.eq_nil_iff_forall_not_mem, mem_check_iff, sound_iff]

end ShootWorker

/-- The check of a size reports it once. -/
theorem check_size_reports_once (size : String) : ReportsOnce (checkSize size) := by
  unfold checkSize
  cases Quantity.parse size with
  | ok quantity => exact .nil
  | error fault => exact .single _ _ _

/-- The checks of the type and the size of a volume. -/
def storageChecks (untyped : String) (type : Option String) (size : String) :
    List (String × (FieldPath → List FieldError)) :=
  [("type", fun path => errorIf (type.getD "").isEmpty (.required path untyped)),
    ("size", checkSize size)]

/-- The checks of the type and the size of a volume report each of them once. -/
theorem storage_checks_report_once (untyped : String) (type : Option String) (size : String) :
    ∀ entry ∈ storageChecks untyped type size, ReportsOnce entry.2 := by
  simp only [storageChecks, List.forall_mem_cons]
  exact ⟨.error_if _ _ _ _, check_size_reports_once size, nofun⟩

/-- The check of a root volume reports every field once. -/
theorem Volume.check_reports_once (volume : Volume) : ReportsOnce volume.check := by
  have hcheck : volume.check = fun path =>
      (storageChecks "volume type is required" volume.type volume.size).flatMap
        fun entry => entry.2 (path.child entry.1) := by
    funext path
    simp [check, storageChecks]
  have hnames : ["type", "size"].Nodup := by decide
  rw [hcheck]
  exact .fields hnames (storage_checks_report_once _ _ _)

/-- The check of a data volume reports every field once. -/
theorem DataVolume.check_reports_once (earlier : List DataVolume) (volume : DataVolume) :
    ReportsOnce (volume.check earlier) := by
  have hcheck : volume.check earlier = fun path =>
      (("name", fun path =>
          if volume.name.isEmpty then [.required path "data volume name is required"]
          else errorIf (earlier.any (·.name = volume.name)) (.duplicate path volume.name)) ::
        storageChecks "data volume type is required" volume.type volume.size).flatMap
        fun entry => entry.2 (path.child entry.1) := by
    funext path
    simp [check, checkName, storageChecks]
  have hnames : ["name", "type", "size"].Nodup := by decide
  rw [hcheck]
  refine .fields hnames (List.forall_mem_cons.2 ⟨?_, storage_checks_report_once _ _ _⟩)
  exact .ite _ (.single _ _ _) (.error_if _ _ _ _)

namespace ShootWorker

/-- The check of the zones of a pool reports every field once. -/
theorem check_zones_reports_once (worker : ShootWorker) : ReportsOnce worker.checkZones := by
  unfold checkZones
  -- A pool without zones has none that could be repeated.
  cases worker.zones with
  | nil => exact .single _ _ _
  | cons zone rest =>
      simp only [List.isEmpty_cons, errorIf_false, List.nil_append]
      exact .items _ fun _ _ _ => .error_if _ _ _ _

/-- The checks of the fields of a pool. -/
def fieldChecks (worker : ShootWorker) : List (String × (FieldPath → List FieldError)) :=
  [("zones", worker.checkZones),
    ("minimum", fun path => errorIf (worker.minimum < 0)
      (.invalid path (toString worker.minimum.toInt) "must not be negative")),
    ("maximum", fun path => errorIf (worker.maximum < worker.minimum)
      (.invalid path (toString worker.maximum.toInt) "must not be less than minimum")),
    ("volume", fun path => worker.volume.elim [] fun volume => volume.check path),
    ("dataVolumes", fun path => checkEach
      (fun earlier position volume => volume.check earlier (path.index position))
      worker.dataVolumes)]

/-- The check of a pool reports every field once. -/
theorem check_reports_once (worker : ShootWorker) : ReportsOnce worker.check := by
  have hcheck : worker.check = fun path =>
      worker.fieldChecks.flatMap fun entry => entry.2 (path.child entry.1) := by
    funext path
    simp [check, checkBounds, checkVolumes, fieldChecks]
  have hnames : ["zones", "minimum", "maximum", "volume", "dataVolumes"].Nodup := by decide
  rw [hcheck]
  refine .fields hnames ?_
  simp only [fieldChecks, List.forall_mem_cons]
  exact ⟨worker.check_zones_reports_once, .error_if _ _ _ _, .error_if _ _ _ _,
    .elim (fun volume => volume.check_reports_once) _,
    .items _ fun earlier _ volume => volume.check_reports_once earlier, nofun⟩

/-- A single pool is checked as the first item of the list. -/
theorem check_all_singleton (worker : ShootWorker) (path : FieldPath) :
    checkAll [worker] path = worker.check (path.index 0) := by
  simp [checkAll, checkEach]

/-- The violations of a list of pools are those of each pool in order, as if it were alone, at its place in
the list. They are exactly what is wrong with some pool, and no field has two of them. There are none
exactly if all pools are sound. -/
theorem check_all_exact (workers : List ShootWorker) (path : FieldPath) :
    (checkAll workers path = workers.zipIdx.flatMap fun (worker, position) =>
      (checkAll [worker] path).map (·.moved (path.index 0) (path.index position))) ∧
    (∀ error, error ∈ checkAll workers path ↔
      ∃ (position : Nat) (worker : ShootWorker), workers[position]? = some worker ∧
        worker.Violation (path.index position) error) ∧
    OncePerField (checkAll workers path) ∧
    (checkAll workers path = [] ↔ ∀ worker ∈ workers, worker.Sound) := by
  refine ⟨List.flatMap_congr fun (worker, position) _ => ?_, fun error => ?_, ?_, ?_⟩
  · dsimp only
    rw [check_all_singleton, worker.check_relative.moved]
  · unfold checkAll
    simp only [mem_check_each, mem_check_iff]
  · exact (ReportsOnce.items workers fun _ _ worker => worker.check_reports_once).once path
  · unfold checkAll
    simp only [check_each_eq_nil_iff, check_eq_nil_iff]
    constructor
    · intro h worker hworker
      obtain ⟨position, hposition⟩ := List.getElem?_of_mem hworker
      exact h position worker hposition
    · exact fun h position worker hposition => h worker (List.mem_of_getElem? hposition)

end ShootWorker

end ShootMachines
