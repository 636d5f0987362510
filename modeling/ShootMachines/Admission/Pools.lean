import ShootMachines.Admission.EachItem
import ShootMachines.Gardener.Shoot
import ShootMachines.Kubernetes.Quantity
import ShootMachines.Provider.WorkerConfig

/-!
# Checks of worker pools

A pool needs zones, sensible bounds and complete volumes. Its provider configuration has to agree
with itself and with the data volumes of the pool. Zones of a pool cannot be taken away later.
-/

namespace ShootMachines

/-- The violation of a size that is no quantity. -/
def checkSize (size : String) (path : FieldPath) : List FieldError :=
  match Quantity.parse size with
  | .ok _ => []
  | .error fault => [.invalid path size ("must be a quantity: " ++ fault.message)]

/-- The violations of a root volume. -/
def Volume.check (volume : Volume) (path : FieldPath) : List FieldError :=
  errorIf (volume.type.getD "").isEmpty (.required (path.child "type") "volume type is required") ++
    checkSize volume.size (path.child "size")

namespace DataVolume

/-- The violations of the name of a data volume. -/
def checkName (earlier : List DataVolume) (volume : DataVolume) (path : FieldPath) :
    List FieldError :=
  if volume.name.isEmpty then [.required (path.child "name") "data volume name is required"]
  else errorIf (earlier.any (·.name = volume.name)) (.duplicate (path.child "name") volume.name)

/-- The violations of a data volume after the data volumes before it. -/
def check (earlier : List DataVolume) (volume : DataVolume) (path : FieldPath) : List FieldError :=
  checkName earlier volume path ++
    errorIf (volume.type.getD "").isEmpty
      (.required (path.child "type") "data volume type is required") ++
    checkSize volume.size (path.child "size")

end DataVolume

namespace ShootWorker

/-- The violations of the zones of a pool. -/
def checkZones (worker : ShootWorker) (path : FieldPath) : List FieldError :=
  errorIf worker.zones.isEmpty (.required path "at least one zone must be configured") ++
    checkEach
      (fun earlier position zone =>
        errorIf (earlier.contains zone) (.duplicate (path.index position) zone))
      worker.zones

/-- The violations of the bounds of a pool. -/
def checkBounds (worker : ShootWorker) (path : FieldPath) : List FieldError :=
  errorIf (worker.minimum < 0)
      (.invalid (path.child "minimum") (toString worker.minimum.toInt) "must not be negative") ++
    errorIf (worker.maximum < worker.minimum)
      (.invalid (path.child "maximum") (toString worker.maximum.toInt)
        "must not be less than minimum")

/-- The violations of the volumes of a pool. -/
def checkVolumes (worker : ShootWorker) (path : FieldPath) : List FieldError :=
  (worker.volume.elim [] fun volume => volume.check (path.child "volume")) ++
    checkEach
      (fun earlier position volume =>
        volume.check earlier ((path.child "dataVolumes").index position))
      worker.dataVolumes

/-- The violations of a pool. -/
def check (worker : ShootWorker) (path : FieldPath) : List FieldError :=
  worker.checkZones (path.child "zones") ++ worker.checkBounds path ++ worker.checkVolumes path

/-- The violations of the pools of a shoot. -/
def checkAll (workers : List ShootWorker) (path : FieldPath) : List FieldError :=
  checkEach (fun _ position worker => worker.check (path.index position)) workers

/-- The pool with a name. -/
def named? (workers : List ShootWorker) (name : String) : Option ShootWorker :=
  workers.find? fun worker => worker.name = name

/-- The violations of a pool that lost zones. -/
def checkZonesKept (previous worker : ShootWorker) (path : FieldPath) : List FieldError :=
  previous.zones.flatMap fun zone =>
    errorIf (!worker.zones.contains zone)
      (.forbidden (path.child "zones") ("zone " ++ zone ++ " cannot be removed"))

/-- The violations of a change of the pools. Pools are told apart by name; new pools and removed
ones are not looked at. -/
def checkUpdate (old new : List ShootWorker) (path : FieldPath) : List FieldError :=
  checkEach
    (fun _ position worker =>
      match named? old worker.name with
      | some previous => previous.checkZonesKept worker (path.index position)
      | none => [])
    new

end ShootWorker

namespace WorkerConfig

/-- The DNS policies that machines support. -/
def dnsPolicies : List String := ["ClusterFirstWithHostNet", "ClusterFirst", "Default", "None"]

/-- The sizes of huge memory pages that machines support. -/
def hugepageSizes : List String := ["2Mi", "1Gi"]

/-- The violations of the DNS settings. Without a policy of the cluster, name servers have to be
given. -/
def checkDns (config : WorkerConfig) (path : FieldPath) : List FieldError :=
  match config.dnsPolicy with
  | none => []
  | some policy =>
      if !dnsPolicies.contains policy then
        [.notSupported (path.child "dnsPolicy") policy dnsPolicies]
      else
        errorIf
          (policy = "None" && ((config.dnsConfig.bind DnsConfig.nameservers).getD []).isEmpty)
          (.required ((path.child "dnsConfig").child "nameservers")
            "at least one nameserver is required when dnsPolicy is None")

/-- The violation of the name of a disk after the disks before it. -/
def checkDisk (volumes : List DataVolume) (earlier : List Disk) (disk : Disk) (path : FieldPath) :
    List FieldError :=
  if disk.name.isEmpty then [.required path "disk name is required"]
  else if earlier.any (·.name = disk.name) then [.duplicate path disk.name]
  else
    errorIf (!volumes.any (·.name = disk.name))
      (.invalid path disk.name "must reference a data volume of the worker pool")

/-- The violations of the disks. -/
def checkDisks (config : WorkerConfig) (volumes : List DataVolume) (path : FieldPath) :
    List FieldError :=
  match config.devices with
  | none => []
  | some devices =>
      let path := (path.child "devices").child "disks"
      checkEach
        (fun earlier position disk =>
          checkDisk volumes earlier disk ((path.index position).child "name"))
        devices.disks

/-- The violation of the processor settings. -/
def checkCpu (config : WorkerConfig) (path : FieldPath) : List FieldError :=
  match config.cpu with
  | none => []
  | some cpu =>
      errorIf (cpu.isolateEmulatorThread = some true && cpu.dedicatedPlacement ≠ some true)
        (.forbidden ((path.child "cpu").child "isolateEmulatorThread")
          "requires dedicatedCpuPlacement")

/-- The violation of the memory settings. -/
def checkMemory (config : WorkerConfig) (path : FieldPath) : List FieldError :=
  match config.memory.bind Memory.hugepages with
  | none => []
  | some hugepages =>
      errorIf (!hugepageSizes.contains hugepages.pageSize)
        (.notSupported (((path.child "memory").child "hugepages").child "pageSize")
          hugepages.pageSize hugepageSizes)

/-- The violations of the provider configuration of a pool with data volumes. -/
def check (config : WorkerConfig) (volumes : List DataVolume) (path : FieldPath) :
    List FieldError :=
  config.checkDns path ++ config.checkDisks volumes path ++ config.checkCpu path ++
    config.checkMemory path

end WorkerConfig

end ShootMachines
