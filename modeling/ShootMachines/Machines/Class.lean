import ShootMachines.Machines.Volume
import ShootMachines.Provider.Infrastructure
import ShootMachines.Provider.WorkerConfig

/-!
# Machine classes

A machine class says everything that is needed to create a machine of a zone of a worker pool.
-/

namespace ShootMachines

/-- What a machine asks for and what it may use at most. -/
structure MachineResources where
  requests : Dict Quantity
  limits : Option (Dict Quantity)
  overcommitGuestOverhead : Bool
  deriving DecidableEq

/-- The limits may be missing. -/
def MachineResources.schema : Schema MachineResources :=
  .ofParts .flexible
    (.required "requests" (.dict .quantity) <|
      .optional "limits" (.dict .quantity) <|
      .required "overcommitGuestOverhead" .flag .nil)
    (fun (requests, limits, overcommitGuestOverhead, ()) =>
      ⟨requests, limits, overcommitGuestOverhead⟩)
    (fun resources =>
      (resources.requests, resources.limits, resources.overcommitGuestOverhead, ()))

/-- A volume that a machine has besides its root volume. -/
structure AdditionalVolume where
  name : String
  volume : MachineVolume
  deriving DecidableEq

/-- An additional volume states name and volume. -/
def AdditionalVolume.schema : Schema AdditionalVolume :=
  .ofParts .flexible
    (.required "name" .text <|
      .required "dataVolume" MachineVolume.schema .nil)
    (fun (name, volume, ()) => ⟨name, volume⟩)
    (fun additional => (additional.name, additional.volume, ()))

/-- What is kept secret about a machine class: how a machine is set up, and the access to the
provider cluster. -/
structure MachineClassSecret where
  cloudConfig : String
  kubeconfig : String
  deriving DecidableEq, Repr

/-- A secret states both texts. -/
def MachineClassSecret.schema : Schema MachineClassSecret :=
  .ofParts .flexible
    (.required "cloudConfig" .text <|
      .required "kubeconfig" .text .nil)
    (fun (cloudConfig, kubeconfig, ()) => ⟨cloudConfig, kubeconfig⟩)
    (fun secret => (secret.cloudConfig, secret.kubeconfig, ()))

/-- The class of the machines of a zone of a worker pool. -/
structure MachineClass where
  name : String
  region : String
  zone : String
  resources : MachineResources
  devices : Option Devices
  rootVolume : MachineVolume
  additionalVolumes : List AdditionalVolume
  sshKeys : List String
  networks : List NetworkStatus
  cpu : Option Cpu
  memory : Option Memory
  dnsPolicy : Option String
  dnsConfig : Option DnsConfig
  tags : Dict String
  secret : MachineClassSecret
  deriving DecidableEq

/-- The provider settings of a class may be missing, and additional volumes too. -/
def MachineClass.schema : Schema MachineClass :=
  .ofParts .flexible
    (.required "name" .text <|
      .required "region" .text <|
      .required "zone" .text <|
      .required "resources" MachineResources.schema <|
      .optional "devices" Devices.schema <|
      .required "rootVolume" MachineVolume.schema <|
      .default "additionalVolumes" (.list AdditionalVolume.schema) [] <|
      .required "sshKeys" (.list .text) <|
      .required "networks" (.list NetworkStatus.schema) <|
      .optional "cpu" Cpu.schema <|
      .optional "memory" Memory.schema <|
      .optional "dnsPolicy" .text <|
      .optional "dnsConfig" DnsConfig.schema <|
      .required "tags" (.dict .text) <|
      .required "secret" MachineClassSecret.schema .nil)
    (fun (name, region, zone, resources, devices, rootVolume, additionalVolumes, sshKeys, networks,
        cpu, memory, dnsPolicy, dnsConfig, tags, secret, ()) =>
      ⟨name, region, zone, resources, devices, rootVolume, additionalVolumes, sshKeys, networks,
        cpu, memory, dnsPolicy, dnsConfig, tags, secret⟩)
    (fun machineClass =>
      (machineClass.name, machineClass.region, machineClass.zone, machineClass.resources,
        machineClass.devices, machineClass.rootVolume, machineClass.additionalVolumes,
        machineClass.sshKeys, machineClass.networks, machineClass.cpu, machineClass.memory,
        machineClass.dnsPolicy, machineClass.dnsConfig, machineClass.tags, machineClass.secret, ()))

/-- The tag with the namespace of the shoot. -/
def clusterTag : String := "mcm.gardener.cloud/cluster"

/-- The tag with the role of the machine. -/
def roleTag : String := "mcm.gardener.cloud/role"

/-- The tag with the name of the class that a machine is created from. -/
def machineClassTag : String := "mcm.gardener.cloud/machineclass"

/-- The tags of a class: the machines of worker pools are nodes. -/
def MachineClass.tagsOf (space className : String) : Dict String :=
  ((Dict.empty.insert clusterTag space).insert roleTag "node").insert machineClassTag className

end ShootMachines
