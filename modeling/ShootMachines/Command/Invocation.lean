import ShootMachines.Command.Arguments

/-!
# Invocations

The arguments of the program name one command and what it works on. Every command is a form: its
name, the grammar of its arguments, and what it makes of them.
-/

namespace ShootMachines

/-- Where admission finds the objects around a submitted one. -/
inductive ObjectSource where
  /-- The API of the current cluster. -/
  | cluster
  /-- Manifests, by their paths. -/
  | files (cloudProfiles secretBindings secrets shoots : List String)
  deriving DecidableEq, Repr

/-- What the program does. Manifests and payloads are given by their paths. -/
inductive Command where
  /-- Print the machine report of a worker in its cluster. -/
  | generate (worker cluster : String) (kubeconfig : Option String)
  /-- Print a provider payload as the provider writes it. -/
  | decode (file : String) (lenient : Bool)
  /-- Accept a shoot, or the change of one. -/
  | acceptShoot (shoot : String) (old : Option String) (objects : ObjectSource)
  /-- Accept a cloud profile. -/
  | acceptCloudProfile (profile : String)
  /-- Accept a secret, or the change of one. -/
  | acceptSecret (secret : String) (old : Option String) (objects : ObjectSource)
  deriving DecidableEq, Repr

namespace Command

/-- A command as it is called: its name, its arguments, and what it makes of them. -/
structure Form where
  name : String
  synopsis : String
  grammar : Grammar
  build : Arguments → Except UsageFault Command

/-- The option that looks objects up in the current cluster. -/
def clusterOption : String := "from-cluster"

/-- The options that name manifests of objects. -/
def objectOptions : List String := ["cloud-profile", "secret-binding", "secret", "existing-shoot"]

/-- The options that say where objects are found. -/
def sourceOptions : List (String × Arity) :=
  (clusterOption, .flag) :: objectOptions.map fun option => (option, .many)

/-- Where objects are found: in the cluster or in manifests, not in both. -/
def objectSource (given : Arguments) : Except UsageFault ObjectSource :=
  if given.flags.contains clusterOption then
    match objectOptions.find? fun option => (given.value? option).isSome with
    | some option => .error (.conflict clusterOption option)
    | none => .ok .cluster
  else
    .ok (.files (given.all "cloud-profile") (given.all "secret-binding") (given.all "secret")
      (given.all "existing-shoot"))

/-- Print the machine report of a worker. -/
def generateForm : Form where
  name := "generate"
  synopsis := "generate --worker FILE --cluster FILE [--kubeconfig FILE]"
  grammar := ⟨[("worker", .single), ("cluster", .single), ("kubeconfig", .single)], 0⟩
  build given := do
    let worker ← given.value "worker"
    let cluster ← given.value "cluster"
    return .generate worker cluster (given.value? "kubeconfig")

/-- Print a provider payload. -/
def decodeForm : Form where
  name := "decode"
  synopsis := "decode FILE [--lenient]"
  grammar := ⟨[("lenient", .flag)], 1⟩
  build given := do
    let file ← given.operand "FILE"
    return .decode file (given.flags.contains "lenient")

/-- Accept a shoot. -/
def shootForm : Form where
  name := "validate-shoot"
  synopsis := "validate-shoot --shoot FILE [--old FILE] [OBJECTS]"
  grammar := ⟨[("shoot", .single), ("old", .single)] ++ sourceOptions, 0⟩
  build given := do
    let shoot ← given.value "shoot"
    let objects ← objectSource given
    return .acceptShoot shoot (given.value? "old") objects

/-- Accept a cloud profile. -/
def cloudProfileForm : Form where
  name := "validate-cloud-profile"
  synopsis := "validate-cloud-profile --cloud-profile FILE"
  grammar := ⟨[("cloud-profile", .single)], 0⟩
  build given := do
    let profile ← given.value "cloud-profile"
    return .acceptCloudProfile profile

/-- Accept a secret. -/
def secretForm : Form where
  name := "validate-secret"
  synopsis := "validate-secret FILE [--old FILE] [OBJECTS]"
  grammar := ⟨("old", .single) :: sourceOptions, 1⟩
  build given := do
    let secret ← given.operand "FILE"
    let objects ← objectSource given
    return .acceptSecret secret (given.value? "old") objects

/-- The commands. -/
def forms : List Form :=
  [generateForm, decodeForm, shootForm, cloudProfileForm, secretForm]

/-- The command with a name. -/
def form? (name : String) : Option Form :=
  forms.find? fun form => form.name = name

end Command

/-- What the program is asked for. -/
inductive Invocation where
  | run (command : Command)
  | help
  | version
  deriving DecidableEq, Repr

namespace Invocation

open Command

/-- The command that explains the others. -/
def helpCommand : String := "help"

/-- Explain a command, if there is one with the name. -/
def readHelp : List String → Except UsageFault Invocation
  | [] => .ok .help
  | [name] =>
      if name = helpCommand ∨ (form? name).isSome then .ok .help else .error (.unknownCommand name)
  | _ :: other :: _ => .error (.unknownCommand other)

/-- Read the arguments behind the name of a command. -/
def readCommand (name : String) (arguments : List String) : Except UsageFault Invocation :=
  match form? name with
  | none => .error (.unknownCommand name)
  | some form => do
      match ← Arguments.read form.grammar {} arguments with
      | none => return .help
      | some given =>
          let command ← form.build given
          return .run command

/-- Read the arguments of the program. -/
def read : List String → Except UsageFault Invocation
  | [] => .error .noCommand
  | first :: rest =>
      match Word.of first with
      | .operand name => if name = helpCommand then readHelp rest else readCommand name rest
      | .long "help" none => .ok .help
      | .long "version" none => .ok .version
      | .short 'h' _ => .ok .help
      | .short 'V' _ => .ok .version
      | .separator => .error .noCommand
      | _ => .error (.unknownOption first)

end Invocation

namespace Command

/-- The name of the program. -/
def programName : String := "kubevirt-worker"

/-- What the program says of its version. -/
def versionText : String := programName ++ " 0.3.0"

/-- How the program is called. -/
def helpLines : List String :=
  ["Compiles worker pools into machines and checks the resources of the provider.", "",
    "Usage: " ++ programName ++ " COMMAND", "", "Commands:"] ++
    (forms.map fun form => "  " ++ form.synopsis) ++
    ["  help [COMMAND]", "",
      "OBJECTS: --from-cluster, or any of --cloud-profile FILE, --secret-binding FILE,",
      "  --secret FILE and --existing-shoot FILE, each any number of times", "",
      "Options:", "  -h, --help", "  -V, --version"]

end Command

end ShootMachines
