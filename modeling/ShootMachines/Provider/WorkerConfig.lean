import ShootMachines.Kubernetes.DnsConfig

/-!
# Provider configuration of worker pools

Devices, processor, memory and DNS settings of the machines of a pool.
-/

namespace ShootMachines

/-- A disk, by the name of its volume. -/
structure Disk where
  name : String
  cache : Option String
  io : Option String
  dedicatedIoThread : Option Bool
  serial : Option String
  bootOrder : Option UInt32
  deriving DecidableEq, Repr

/-- A missing name is empty; all other fields may be missing. -/
def Disk.schema : Schema Disk :=
  .ofParts .flexible
    (.default "name" .text "" <|
      .optional "cache" .text <|
      .optional "io" .text <|
      .optional "dedicatedIOThread" .flag <|
      .optional "serial" .text <|
      .optional "bootOrder" .uint32 .nil)
    (fun (name, cache, io, dedicatedIoThread, serial, bootOrder, ()) =>
      ⟨name, cache, io, dedicatedIoThread, serial, bootOrder⟩)
    (fun disk =>
      (disk.name, disk.cache, disk.io, disk.dedicatedIoThread, disk.serial, disk.bootOrder, ()))

/-- The devices of a machine. -/
structure Devices where
  disks : List Disk
  interfaceMultiqueue : Option Bool
  blockMultiqueue : Option Bool
  virtioTransitional : Option Bool
  deriving DecidableEq, Repr

/-- Missing disks are none; all other fields may be missing. -/
def Devices.schema : Schema Devices :=
  .ofParts .flexible
    (.default "disks" (.list Disk.schema) [] <|
      .optional "networkInterfaceMultiqueue" .flag <|
      .optional "blockMultiQueue" .flag <|
      .optional "useVirtioTransitional" .flag .nil)
    (fun (disks, interfaceMultiqueue, blockMultiqueue, virtioTransitional, ()) =>
      ⟨disks, interfaceMultiqueue, blockMultiqueue, virtioTransitional⟩)
    (fun devices =>
      (devices.disks, devices.interfaceMultiqueue, devices.blockMultiqueue,
        devices.virtioTransitional, ()))

/-- The processor of a machine. -/
structure Cpu where
  cores : Option UInt32
  sockets : Option UInt32
  threads : Option UInt32
  model : Option String
  dedicatedPlacement : Option Bool
  isolateEmulatorThread : Option Bool
  deriving DecidableEq, Repr

/-- Every field may be missing. -/
def Cpu.schema : Schema Cpu :=
  .ofParts .flexible
    (.optional "cores" .uint32 <|
      .optional "sockets" .uint32 <|
      .optional "threads" .uint32 <|
      .optional "model" .text <|
      .optional "dedicatedCpuPlacement" .flag <|
      .optional "isolateEmulatorThread" .flag .nil)
    (fun (cores, sockets, threads, model, dedicatedPlacement, isolateEmulatorThread, ()) =>
      ⟨cores, sockets, threads, model, dedicatedPlacement, isolateEmulatorThread⟩)
    (fun cpu =>
      (cpu.cores, cpu.sockets, cpu.threads, cpu.model, cpu.dedicatedPlacement,
        cpu.isolateEmulatorThread, ()))

/-- Huge memory pages. -/
structure Hugepages where
  pageSize : String
  deriving DecidableEq, Repr

/-- A missing size is empty. -/
def Hugepages.schema : Schema Hugepages :=
  .ofParts .flexible
    (.default "pageSize" .text "" .nil)
    (fun (pageSize, ()) => ⟨pageSize⟩)
    (fun hugepages => (hugepages.pageSize, ()))

/-- The memory of a machine. -/
structure Memory where
  hugepages : Option Hugepages
  guest : Option Quantity
  deriving DecidableEq, Repr

/-- Every field may be missing. -/
def Memory.schema : Schema Memory :=
  .ofParts .flexible
    (.optional "hugepages" Hugepages.schema <|
      .optional "guest" .quantity .nil)
    (fun (hugepages, guest, ()) => ⟨hugepages, guest⟩)
    (fun memory => (memory.hugepages, memory.guest, ()))

/-- The provider configuration of a worker pool. -/
structure WorkerConfig where
  devices : Option Devices
  cpu : Option Cpu
  memory : Option Memory
  dnsPolicy : Option String
  dnsConfig : Option DnsConfig
  overcommitGuestOverhead : Bool
  disablePreAllocation : Bool
  deriving DecidableEq, Repr

/-- Every setting may be missing; a missing flag is false. -/
def WorkerConfig.schema : Schema WorkerConfig :=
  .ofParts .flexible
    (.optional "devices" Devices.schema <|
      .optional "cpu" Cpu.schema <|
      .optional "memory" Memory.schema <|
      .optional "dnsPolicy" .text <|
      .optional "dnsConfig" DnsConfig.schema <|
      .default "overcommitGuestOverhead" .flag false <|
      .default "disablePreAllocatedDataVolumes" .flag false .nil)
    (fun (devices, cpu, memory, dnsPolicy, dnsConfig, overcommitGuestOverhead,
        disablePreAllocation, ()) =>
      ⟨devices, cpu, memory, dnsPolicy, dnsConfig, overcommitGuestOverhead, disablePreAllocation⟩)
    (fun config =>
      (config.devices, config.cpu, config.memory, config.dnsPolicy, config.dnsConfig,
        config.overcommitGuestOverhead, config.disablePreAllocation, ()))

end ShootMachines
