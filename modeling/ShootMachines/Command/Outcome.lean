import ShootMachines.Admission.Shoot
import ShootMachines.Command.Failure
import ShootMachines.Command.Invocation
import ShootMachines.Lookup.Api
import ShootMachines.Lookup.Inventory
import ShootMachines.Machines.Generation
import ShootMachines.Yaml.Output

/-!
# Outcomes of commands

A command reads its inputs in the order of the calls below, works on them, and gives an output or
fails. What it reads is handed in, so a command is a function of its surroundings.
-/

namespace ShootMachines

/-- What a command reads: files, and the API of the current cluster. -/
structure Surroundings where
  /-- The bytes of a file, or why it cannot be read. -/
  readFile : (path : String) → Except String Bytes
  /-- The API, or why there is none. -/
  connect : Except String Api

namespace Surroundings

/-- The bytes of a file. -/
def bytes (around : Surroundings) (path : String) : Except Failure Bytes :=
  (around.readFile path).mapError (.unreadable path)

/-- The text of a file. -/
def text (around : Surroundings) (path : String) : Except Failure String := do
  let bytes ← around.bytes path
  match Utf8.decode? bytes with
  | some text => .ok text
  | none => .error (.unreadable path "stream did not contain valid UTF-8")

/-- The value that a manifest holds. -/
def manifest (around : Surroundings) (schema : Schema α) (path : String) : Traced α := do
  .debug ("Loading manifest " ++ path)
  let text ← around.text path
  .ofResult ((Yaml.readAs schema text).mapError fun reason =>
    .decode (.manifest path) (.malformed reason))

/-- The value that a manifest holds, if there is a manifest. -/
def manifest? (around : Surroundings) (schema : Schema α) : Option String → Traced (Option α)
  | none => pure none
  | some path => do
      let value ← around.manifest schema path
      return some value

/-- The API of the current cluster. -/
def api (around : Surroundings) : Traced Api := do
  .debug "Initializing Kubernetes client"
  .ofResult (around.connect.mapError .api)

/-- Where the objects around a submitted one are looked up. -/
def lookup (around : Surroundings) : ObjectSource → Traced Lookup
  | .cluster => do
      let api ← around.api
      return api.lookup
  | .files cloudProfiles secretBindings secrets shoots => do
      let cloudProfiles ← Run.forEach (around.manifest CloudProfile.schema) cloudProfiles
      let secretBindings ← Run.forEach (around.manifest SecretBinding.schema) secretBindings
      let secrets ← Run.forEach (around.manifest Secret.schema) secrets
      let shoots ← Run.forEach (around.manifest Shoot.schema) shoots
      return (Inventory.mk cloudProfiles secretBindings secrets shoots).lookup

/-- Where the kubeconfig of a worker is looked up: in a given file, or else in the cluster. -/
def credentials (around : Surroundings) (reference : SecretReference) :
    Option String → Traced CredentialSource
  | some path => do
      let kubeconfig ← around.bytes path
      let store : SecretStore := {}
      return (store.addKubeconfig reference.space reference.name kubeconfig).source
  | none => do
      let api ← around.api
      return api.credentials

end Surroundings

namespace Command

/-- A run that gives an output of the program, or none. -/
abbrev Work := Run CommandFailure (Option Yaml.Value)

/-- A run on the inputs of a command. -/
def onInput (run : Traced α) : Run CommandFailure α := run.mapFailure .input

/-- Print the machine report of a worker. -/
def generateWork (around : Surroundings) (workerFile clusterFile : String)
    (kubeconfigFile : Option String) : Work := do
  let worker ← onInput (around.manifest Worker.schema workerFile)
  let cluster ← onInput (around.manifest Cluster.schema clusterFile)
  let credentials ← onInput (around.credentials worker.spec.secretRef kubeconfigFile)
  let report ← Run.mapFailure (.generation workerFile)
    (MachineReport.generate .standard credentials worker cluster)
  let _ ← Run.forEach (fun image => .info ("Machine image " ++ image.name ++ " " ++
    image.version ++ " is no longer in use")) report.retiredImages
  return some (MachineReport.schema.layout report)

/-- Print a provider payload. -/
def decodeWork (around : Surroundings) (file : String) (lenient : Bool) : Work := do
  let payload ← onInput (around.manifest .payload file)
  let decoder : Decoder := ⟨.standard, !lenient⟩
  let config ← Run.ofResult ((decoder.decodeAny payload).mapError (CommandFailure.payload file))
  .info ("Decoded " ++ config.kind.name ++ " from " ++ file)
  return some (.ofPayload config.encode)

/-- Accept a shoot. -/
def shootWork (around : Surroundings) (file : String) (oldFile : Option String)
    (objects : ObjectSource) : Work := do
  let shoot ← onInput (around.manifest Shoot.schema file)
  let old ← onInput (around.manifest? Shoot.schema oldFile)
  let lookup ← onInput (around.lookup objects)
  Run.mapFailure (.shoot file) (shoot.accept .standard lookup old)
  .info ("Shoot " ++ file ++ " is valid")
  return none

/-- Accept a cloud profile. -/
def cloudProfileWork (around : Surroundings) (file : String) : Work := do
  let profile ← onInput (around.manifest CloudProfile.schema file)
  Run.mapFailure (.cloudProfile file) (profile.accept .standard)
  .info ("Cloud profile " ++ file ++ " is valid")
  return none

/-- Accept a secret. -/
def secretWork (around : Surroundings) (file : String) (oldFile : Option String)
    (objects : ObjectSource) : Work := do
  let secret ← onInput (around.manifest Secret.schema file)
  let old ← onInput (around.manifest? Secret.schema oldFile)
  let lookup ← onInput (around.lookup objects)
  Run.mapFailure (.secret file) (secret.accept lookup old)
  .info ("Secret " ++ file ++ " is valid")
  return none

/-- Run a command. -/
def work (around : Surroundings) (command : Command) : Work := do
  .debug "Logging initialized with file and line number tracking"
  match command with
  | .generate worker cluster kubeconfig => generateWork around worker cluster kubeconfig
  | .decode file lenient => decodeWork around file lenient
  | .acceptShoot shoot old objects => shootWork around shoot old objects
  | .acceptCloudProfile profile => cloudProfileWork around profile
  | .acceptSecret secret old objects => secretWork around secret old objects

/-- The files that a command may read. -/
def files : Command → List String
  | .generate worker cluster kubeconfig => worker :: cluster :: kubeconfig.toList
  | .decode file _ => [file]
  | .acceptShoot shoot old objects => shoot :: old.toList ++ objectFiles objects
  | .acceptCloudProfile profile => [profile]
  | .acceptSecret secret old objects => secret :: old.toList ++ objectFiles objects
where
  objectFiles : ObjectSource → List String
    | .cluster => []
    | .files cloudProfiles secretBindings secrets shoots =>
        cloudProfiles ++ secretBindings ++ secrets ++ shoots

end Command

/-- How the program ends. -/
inductive Outcome where
  /-- The arguments make no command. -/
  | refused (fault : Command.UsageFault)
  /-- The program speaks of itself. -/
  | answered (lines : List String)
  | done (events : List Event) (output : Option Yaml.Value)
  | failed (events : List Event) (failure : CommandFailure)

namespace Outcome

/-- The outcome of a command. -/
def ofWork (work : Command.Work) : Outcome :=
  match work.result with
  | .ok output => .done work.events output
  | .error failure => .failed work.events failure

/-- The outcome of an invocation. -/
def ofInvocation (around : Surroundings) : Except Command.UsageFault Invocation → Outcome
  | .error fault => .refused fault
  | .ok .help => .answered Command.helpLines
  | .ok .version => .answered [Command.versionText]
  | .ok (.run command) => .ofWork (command.work around)

/-- The exit code. -/
def code : Outcome → Nat
  | .refused _ => 2
  | .answered _ => 0
  | .done _ _ => 0
  | .failed _ _ => 1

/-- The events on the way. -/
def events : Outcome → List Event
  | .done events _ => events
  | .failed events _ => events
  | _ => []

end Outcome

end ShootMachines
