import ShootMachines.Proofs.Admission.RelativeChecks

/-!
# The fields that checks of shoots report

Every check of a shoot reports within the field it is told, and what it finds does not depend on that
field. A section or a pool that is clean thus stays clean wherever it stands, and the violations of a
pool that moves within the list of pools move with it.
-/

namespace ShootMachines

/-- The check of a size is relative. -/
theorem check_size_relative (size : String) : Relative (checkSize size) := by
  unfold checkSize
  cases Quantity.parse size with
  | ok quantity => exact Relative.nil
  | error fault => exact Relative.single _ _ _

/-- The check of the networking section is relative. -/
theorem Networking.check_relative (networking : Networking) : Relative networking.check :=
  Relative.ite _ ((Relative.single _ _ _).child _) ((Relative.error_if _ _ _ _).child _)

/-- The check of a tenant network is relative. -/
theorem TenantNetwork.check_relative (earlier : List TenantNetwork) (network : TenantNetwork) :
    Relative (network.check earlier) := by
  have hname : Relative (checkName earlier network) :=
    Relative.ite _ ((Relative.single _ _ _).child _) ((Relative.error_if _ _ _ _).child _)
  have hconfig : Relative (checkConfig network) := by
    refine Relative.ite _ ((Relative.single _ _ _).child _) ?_
    cases Json.read network.config with
    | ok document => exact Relative.nil
    | error fault => exact (Relative.single _ _ _).child _
  exact (hname.append hconfig).append ((Relative.error_if _ _ _ _).child _)

namespace InfrastructureConfig

/-- The check of an infrastructure configuration is relative. -/
theorem check_relative (config : InfrastructureConfig) : Relative config.check := by
  refine Relative.append ?_ ?_
  · refine Relative.check_each _ fun _ position network => ?_
    exact ((((Relative.error_if _ _ _ _).child _).index position).child _).child _
  · refine Relative.check_each _ fun earlier position network => ?_
    exact (((network.check_relative earlier).index position).child _).child _

/-- The check of a changed infrastructure configuration is relative. -/
theorem check_update_relative (old new : InfrastructureConfig) : Relative (old.checkUpdate new) :=
  (Relative.error_if _ _ _ _).child _

end InfrastructureConfig

/-- The check of a control plane configuration is relative. -/
theorem ControlPlaneConfig.check_relative (config : ControlPlaneConfig) : Relative config.check := by
  unfold check
  cases config.cloudController with
  | none => exact Relative.nil
  | some settings =>
      refine Relative.flat_map _ fun name => ?_
      exact (((Relative.error_if _ _ _ _).key name).child _).child _

/-- The check of a data volume is relative. -/
theorem DataVolume.check_relative (earlier : List DataVolume) (volume : DataVolume) :
    Relative (volume.check earlier) := by
  have hname : Relative (checkName earlier volume) :=
    Relative.ite _ ((Relative.single _ _ _).child _) ((Relative.error_if _ _ _ _).child _)
  exact (hname.append ((Relative.error_if _ _ _ _).child _)).append
    ((check_size_relative _).child _)

namespace ShootWorker

variable (worker : ShootWorker)

/-- The check of the zones of a pool is relative. -/
theorem check_zones_relative : Relative worker.checkZones :=
  (Relative.error_if _ _ _ _).append
    (Relative.check_each _ fun _ position _ => (Relative.error_if _ _ _ _).index position)

/-- The check of the root volume of a pool is relative. -/
theorem check_volume_relative :
    Relative fun path => worker.volume.elim [] fun volume => volume.check path := by
  refine Relative.elim (fun volume => ?_) worker.volume
  exact ((Relative.error_if _ _ _ _).child _).append ((check_size_relative _).child _)

/-- The check of the data volumes of a pool is relative. -/
theorem check_data_volumes_relative : Relative fun path => checkEach
    (fun earlier position volume => volume.check earlier (path.index position)) worker.dataVolumes :=
  Relative.check_each _ fun earlier position volume => (volume.check_relative earlier).index position

/-- The check of a pool is relative. -/
theorem check_relative : Relative worker.check := by
  have hbounds : Relative worker.checkBounds :=
    ((Relative.error_if _ _ _ _).child _).append ((Relative.error_if _ _ _ _).child _)
  have hvolumes : Relative worker.checkVolumes :=
    (worker.check_volume_relative.child _).append (worker.check_data_volumes_relative.child _)
  exact ((worker.check_zones_relative.child _).append hbounds).append hvolumes

/-- The check of lost zones is relative. -/
theorem check_zones_kept_relative (previous : ShootWorker) :
    Relative (previous.checkZonesKept worker) :=
  Relative.flat_map _ fun _ => (Relative.error_if _ _ _ _).child _

end ShootWorker

/-- The check of the provider configuration of a pool is relative. -/
theorem WorkerConfig.check_relative (config : WorkerConfig) (volumes : List DataVolume) :
    Relative (config.check volumes) := by
  have hdns : Relative config.checkDns := by
    unfold checkDns
    cases config.dnsPolicy with
    | none => exact Relative.nil
    | some policy =>
        exact Relative.ite _ ((Relative.single _ _ _).child _)
          (((Relative.error_if _ _ _ _).child _).child _)
  have hdisk (earlier : List Disk) (disk : Disk) : Relative (checkDisk volumes earlier disk) :=
    Relative.ite _ (Relative.single _ _ _)
      (Relative.ite _ (Relative.single _ _ _) (Relative.error_if _ _ _ _))
  have hdisks : Relative (config.checkDisks volumes) := by
    unfold checkDisks
    cases config.devices with
    | none => exact Relative.nil
    | some devices =>
        refine Relative.check_each _ fun earlier position disk => ?_
        exact ((((hdisk earlier disk).child _).index position).child _).child _
  have hcpu : Relative config.checkCpu := by
    unfold checkCpu
    cases config.cpu with
    | none => exact Relative.nil
    | some cpu => exact ((Relative.error_if _ _ _ _).child _).child _
  have hmemory : Relative config.checkMemory := by
    unfold checkMemory
    cases config.memory.bind Memory.hugepages with
    | none => exact Relative.nil
    | some hugepages => exact (((Relative.error_if _ _ _ _).child _).child _).child _
  exact ((hdns.append hdisks).append hcpu).append hmemory

end ShootMachines
