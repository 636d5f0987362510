import ShootMachines.Admission.Shoot
import ShootMachines.Proofs.Admission.EachItemLemmas

/-!
# Violations that only an update has

Comparing a shoot with an older one finds two kinds of violations: networks that changed and pools
that lost a zone. `ShootContext.check_standing` says that the checks of a shoot by itself find neither:
what they forbid lies deeper in the shoot. `FieldError.isUpdateOnly` thus takes the violations of a
comparison out of a list that has both.
-/

namespace ShootMachines

/-- Whether a field is the zones of a pool. -/
def FieldPath.isPoolZones (path : FieldPath) : Bool :=
  match path.steps with
  | [_, _, .index position, _] => path = (Shoot.workersPath.index position).child "zones"
  | _ => false

/-- Whether a violation is that of networks that changed or of a pool that lost a zone. -/
def FieldError.isUpdateOnly (error : FieldError) : Bool :=
  error.kind = .forbidden &&
    (error.path = Shoot.infrastructurePath.child "networks" || error.path.isPoolZones)

/-- The violations without those that only an update has. -/
def withoutUpdateOnly (errors : List FieldError) : List FieldError :=
  errors.filter fun error => !error.isUpdateOnly

/-- Violations that a shoot has by itself. -/
def Standing (errors : List FieldError) : Prop := ∀ error ∈ errors, error.isUpdateOnly = false

namespace FieldPath

@[simp]
theorem length_child (path : FieldPath) (name : String) :
    (path.child name).steps.length = path.steps.length + 1 := by
  simp [child, push]

@[simp]
theorem length_index (path : FieldPath) (position : Nat) :
    (path.index position).steps.length = path.steps.length + 1 := by
  simp [index, push]

end FieldPath

namespace FieldError

/-- What is forbidden below the networks and the zones can be forbidden without an older shoot. -/
theorem is_update_only_forbidden {path : FieldPath} (hdeep : 4 < path.steps.length)
    (detail : String) : (forbidden path detail).isUpdateOnly = false := by
  -- The networks lie three steps below the root, and the zones of a pool four.
  have hnetworks : path ≠ Shoot.infrastructurePath.child "networks" := by
    rintro rfl
    exact absurd hdeep (by decide)
  have hzones : path.isPoolZones = false := by
    unfold FieldPath.isPoolZones
    split
    · rename_i hsteps
      rw [hsteps] at hdeep
      exact absurd hdeep (by simp)
    · rfl
  simp [isUpdateOnly, forbidden, hnetworks, hzones]

end FieldError

/-- No violations stand. -/
theorem standing_nil : Standing [] := by
  intro error herror
  cases herror

/-- A single violation stands. -/
theorem standing_singleton {error : FieldError} (h : error.isUpdateOnly = false) :
    Standing [error] := by
  intro other hother
  rw [List.mem_singleton.1 hother]
  exact h

/-- Violations stand together. -/
theorem Standing.append {errors others : List FieldError} (herrors : Standing errors)
    (hothers : Standing others) : Standing (errors ++ others) := by
  intro error herror
  rcases List.mem_append.1 herror with h | h
  · exact herrors error h
  · exact hothers error h

/-- A violation stands whether or not its condition holds. -/
theorem standing_error_if {condition : Bool} {error : FieldError}
    (h : error.isUpdateOnly = false) : Standing (errorIf condition error) := by
  cases condition with
  | false => exact standing_nil
  | true => exact standing_singleton h

/-- The violations of items stand if those of every item do. -/
theorem standing_flat_map {α : Type} {check : α → List FieldError} {items : List α}
    (h : ∀ item, Standing (check item)) : Standing (items.flatMap check) := by
  intro error herror
  obtain ⟨item, _, herror⟩ := List.mem_flatMap.1 herror
  exact h item error herror

/-- The violations of a list stand if those of every item do. -/
theorem standing_check_each {α : Type} {check : List α → Nat → α → List FieldError}
    {items : List α} (h : ∀ earlier position item, Standing (check earlier position item)) :
    Standing (checkEach check items) :=
  standing_flat_map fun entry => h _ entry.2 entry.1

/-- The violations of something that may be missing stand if they do where it is given. -/
theorem standing_elim {α : Type} {check : α → List FieldError} {item : Option α}
    (h : ∀ present, Standing (check present)) : Standing (item.elim [] check) := by
  cases item with
  | none => exact standing_nil
  | some present => exact h present

/-- Violations that stand are kept. -/
theorem Standing.without_update_only {errors : List FieldError} (h : Standing errors) :
    withoutUpdateOnly errors = errors :=
  List.filter_eq_self.2 fun error herror => by rw [h error herror, Bool.not_false]

/-- The violations of sizes stand. -/
theorem check_size_standing (size : String) (path : FieldPath) : Standing (checkSize size path) := by
  unfold checkSize
  split
  · exact standing_nil
  · exact standing_singleton rfl

/-- The violations of the networking section stand. -/
theorem Networking.check_standing (networking : Networking) (path : FieldPath) :
    Standing (networking.check path) := by
  unfold Networking.check
  dsimp only
  split
  · exact standing_singleton rfl
  · exact standing_error_if rfl

/-- The violations of a tenant network stand. -/
theorem TenantNetwork.check_standing (earlier : List TenantNetwork) (network : TenantNetwork)
    {path : FieldPath} (hdeep : 4 ≤ path.steps.length) :
    Standing (network.check earlier path) := by
  have hname : Standing (checkName earlier network path) := by
    unfold checkName
    split
    · exact standing_singleton rfl
    · exact standing_error_if rfl
  have hconfig : Standing (checkConfig network path) := by
    unfold checkConfig
    split
    · exact standing_singleton rfl
    · split
      · exact standing_nil
      · exact standing_singleton rfl
  -- A second default network is forbidden as well, but below its own entry of the list.
  have hdefault : Standing (checkDefault earlier network path) :=
    standing_error_if (FieldError.is_update_only_forbidden (by simp; omega) _)
  exact (hname.append hconfig).append hdefault

/-- The violations of an infrastructure configuration stand. -/
theorem InfrastructureConfig.check_standing (config : InfrastructureConfig) {path : FieldPath}
    (hdeep : 1 ≤ path.steps.length) : Standing (config.check path) := by
  refine Standing.append ?_ ?_
  · exact standing_check_each fun _ _ _ => standing_error_if rfl
  · exact standing_check_each fun earlier _ network =>
      network.check_standing earlier (by simp; omega)

/-- The violations of a control plane configuration stand. -/
theorem ControlPlaneConfig.check_standing (config : ControlPlaneConfig) (path : FieldPath) :
    Standing (config.check path) := by
  unfold ControlPlaneConfig.check
  split
  · exact standing_nil
  · exact standing_flat_map fun _ => standing_error_if rfl

/-- The violations of a pool stand. -/
theorem ShootWorker.check_standing (worker : ShootWorker) (path : FieldPath) :
    Standing (worker.check path) := by
  have hzones : Standing (worker.checkZones (path.child "zones")) :=
    (standing_error_if rfl).append (standing_check_each fun _ _ _ => standing_error_if rfl)
  have hbounds : Standing (worker.checkBounds path) :=
    (standing_error_if rfl).append (standing_error_if rfl)
  have hvolumes : Standing (worker.checkVolumes path) := by
    refine Standing.append (standing_elim fun volume => ?_) (standing_check_each ?_)
    · exact (standing_error_if rfl).append (check_size_standing _ _)
    · intro earlier position volume
      refine Standing.append (Standing.append ?_ (standing_error_if rfl)) (check_size_standing _ _)
      unfold DataVolume.checkName
      split
      · exact standing_singleton rfl
      · exact standing_error_if rfl
  exact (hzones.append hbounds).append hvolumes

/-- The violations of the provider configuration of a pool stand. -/
theorem WorkerConfig.check_standing (config : WorkerConfig) (volumes : List DataVolume)
    {path : FieldPath} (hdeep : 3 ≤ path.steps.length) :
    Standing (config.check volumes path) := by
  have hdns : Standing (config.checkDns path) := by
    unfold checkDns
    split
    · exact standing_nil
    · split
      · exact standing_singleton rfl
      · exact standing_error_if rfl
  have hdisks : Standing (config.checkDisks volumes path) := by
    unfold checkDisks
    split
    · exact standing_nil
    · refine standing_check_each fun earlier position disk => ?_
      unfold checkDisk
      split
      · exact standing_singleton rfl
      · split
        · exact standing_singleton rfl
        · exact standing_error_if rfl
  have hcpu : Standing (config.checkCpu path) := by
    unfold checkCpu
    split
    · exact standing_nil
    · exact standing_error_if (FieldError.is_update_only_forbidden (by simp; omega) _)
  have hmemory : Standing (config.checkMemory path) := by
    unfold checkMemory
    split
    · exact standing_nil
    · exact standing_error_if rfl
  exact ((hdns.append hdisks).append hcpu).append hmemory

namespace ShootContext

variable (context : ShootContext)

/-- The violations of a pool in its decoded configuration and its machine image stand. -/
theorem check_pool_standing (position : Nat) (worker : ShootWorker) :
    Standing (context.checkPool position worker) := by
  refine Standing.append ?_ ?_
  · refine standing_elim fun config => config.check_standing worker.dataVolumes ?_
    rw [FieldPath.length_child, FieldPath.length_index]
    exact Nat.le_add_left _ _
  · refine standing_elim fun image => ?_
    unfold checkImage
    split
    · exact standing_nil
    · exact standing_singleton rfl

/-- The violations of the infrastructure configuration of a shoot stand. -/
theorem check_infrastructure_standing : Standing context.checkInfrastructure :=
  context.configs.infrastructure.check_standing (by decide)

/-- The violations of the pools of a shoot as the user wrote them stand. -/
theorem check_workers_standing : Standing context.checkWorkers := by
  unfold checkWorkers ShootWorker.checkAll
  exact standing_check_each fun _ _ worker => worker.check_standing _

/-- The checks of a new shoot find nothing that only an update has. -/
theorem check_standing : Standing context.check :=
  ((((context.shoot.spec.networking.check_standing _).append
    context.check_infrastructure_standing).append
      (context.configs.controlPlane.check_standing _)).append
        context.check_workers_standing).append
          (standing_check_each fun _ => context.check_pool_standing)

end ShootContext

end ShootMachines
