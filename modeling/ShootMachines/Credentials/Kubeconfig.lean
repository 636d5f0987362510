import ShootMachines.Failure
import ShootMachines.Schema.Basic
import ShootMachines.Yaml.Value

/-!
# Kubeconfigs

A kubeconfig names clusters, users and contexts, and says which context is the current one. It may be
spread over several documents, of which the first to say something counts. Only the contexts are
used here; everything else is checked for its form.
-/

namespace ShootMachines

/-- A context: the cluster, and the namespace to work in. -/
structure KubeContext where
  name : String
  space : Option String
  deriving DecidableEq, Repr

/-- A kubeconfig, as far as it is used. -/
structure Kubeconfig where
  kind : Option String
  apiVersion : Option String
  currentContext : Option String
  contexts : List KubeContext
  deriving DecidableEq, Repr

namespace Kubeconfig

/-- A kubeconfig that says nothing. -/
def empty : Kubeconfig := ⟨none, none, none, []⟩

/-- The fields of a mapping, of which none is kept under a name of its own. -/
def entry (fields : Fields β) : Schema β :=
  .ofParts .flexible fields id id

/-- A list that may be missing or null. -/
def listField (key : String) (item : Schema α) (rest : Fields β) :
    Fields (Option (List α) × β) :=
  .optional key (.list item) rest

/-- An extension holds any value. -/
def extension := entry <|
  .required "name" .text <|
  .required "extension" .payload .nil

/-- Settings of a user interface. -/
def preferences := entry <|
  .optional "colors" .flag <|
  listField "extensions" extension .nil

/-- Where a cluster is, and how to trust it. -/
def cluster := entry <|
  .optional "server" .text <|
  .optional "insecure-skip-tls-verify" .flag <|
  .optional "certificate-authority" .text <|
  .optional "certificate-authority-data" .text <|
  .optional "proxy-url" .text <|
  .optional "disable-compression" .flag <|
  .optional "tls-server-name" .text <|
  listField "extensions" extension .nil

/-- The interaction that a command needs, by name. -/
def interactiveModes : List String := ["Never", "IfAvailable", "Always"]

/-- A command that issues credentials. -/
def command := entry <|
  .optional "apiVersion" .text <|
  .optional "command" .text <|
  listField "args" .text <|
  listField "env" (.dict .text) <|
  .optional "interactiveMode" .text <|
  .default "provideClusterInfo" .flag false .nil

/-- A plugin that issues credentials. -/
def authProvider := entry <|
  .required "name" .text <|
  .default "config" (.dict .text) .empty .nil

/-- The credentials of a user. -/
def user := entry <|
  .optional "username" .text <|
  .optional "password" .text <|
  .optional "token" .text <|
  .optional "tokenFile" .text <|
  .optional "client-certificate" .text <|
  .optional "client-certificate-data" .text <|
  .optional "client-key" .text <|
  .optional "client-key-data" .text <|
  .optional "as" .text <|
  listField "as-groups" .text <|
  .optional "auth-provider" authProvider <|
  .optional "exec" command .nil

/-- The cluster, the user and the namespace of a context. -/
def context := entry <|
  .required "cluster" .text <|
  .optional "user" .text <|
  .optional "namespace" .text <|
  listField "extensions" extension .nil

/-- Something with a name. -/
def named (key : String) (item : Schema α) : Schema (String × Option α × Unit) :=
  entry <|
    .required "name" .text <|
    .optional key item .nil

/-- The fields of a document. -/
def fields := entry <|
  .optional "preferences" preferences <|
  listField "clusters" (named "cluster" cluster) <|
  listField "users" (named "user" user) <|
  listField "contexts" (named "context" context) <|
  .optional "current-context" .text <|
  listField "extensions" extension <|
  .optional "kind" .text <|
  .optional "apiVersion" .text .nil

/-- The kubeconfig of one document. -/
def ofDocument (document : Yaml.Document) : Except Mismatch Kubeconfig := do
  let value ← document.value
  let (_, _, users, contexts, currentContext, _, kind, apiVersion, ()) ←
    fields.read Yaml.Value.source value
  for (_, user, ()) in users.getD [] do
    if let some (_, _, _, _, _, _, _, _, _, _, _, some (_, _, _, _, some mode, _), ()) := user then
      if !interactiveModes.contains mode then throw (.unknownVariant mode)
  return {
    kind := kind
    apiVersion := apiVersion
    currentContext := currentContext
    contexts := (contexts.getD []).map fun (name, context, ()) =>
      ⟨name, context.bind fun (_, _, space, _) => space⟩ }

/-- Whether two statements of a type agree; one that is not made agrees with any. -/
def agree (stated other : Option String) : Bool :=
  stated.isNone || other.isNone || stated = other

/-- Both kubeconfigs. The first one wins; documents of different types do not go together. -/
def merge (config next : Kubeconfig) : Except String Kubeconfig :=
  if !agree config.kind next.kind then .error "the kinds differ"
  else if !agree config.apiVersion next.apiVersion then .error "the API versions differ"
  else
    .ok {
      kind := config.kind.or next.kind
      apiVersion := config.apiVersion.or next.apiVersion
      currentContext := config.currentContext.or next.currentContext
      contexts := config.contexts ++
        next.contexts.filter fun context => config.contexts.all (·.name ≠ context.name) }

/-- Read a kubeconfig. -/
def parse (text : String) : Except String Kubeconfig := do
  let documents ← (Yaml.documents text).mapError Yaml.Fault.reason
  let configs ← (documents.mapM ofDocument).mapError Mismatch.reason
  configs.foldlM merge empty

/-- The namespace used where the current context states none. -/
def defaultSpace : String := "default"

/-- The namespace of the current context. -/
def currentSpace (config : Kubeconfig) : String :=
  let context := config.currentContext.bind fun current =>
    config.contexts.find? fun context => context.name = current
  ((context.bind KubeContext.space).filter fun space => !space.isEmpty).getD defaultSpace

/-- The namespace of the current context of a kubeconfig text. -/
def spaceOf (text : String) : Except Failure String :=
  match parse text with
  | .ok config => .ok config.currentSpace
  | .error reason => .error (.decode .kubeconfig (.malformed reason))

end Kubeconfig

end ShootMachines
