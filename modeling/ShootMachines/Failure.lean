import ShootMachines.Admission.Field
import ShootMachines.Kubernetes.Quantity

/-!
# Failures

A run of generation or admission either succeeds or ends with one failure. Failures are causes; the
wording of each stands in one function.
-/

namespace ShootMachines

/-- One step from a document value to a value within it. -/
inductive DocumentStep where
  | key (name : String)
  | item (position : Nat)
  deriving DecidableEq, Repr

/-- A position in a document, by the steps from its root. -/
abbrev DocumentPath := List DocumentStep

/-- The written position: keys joined by points, positions in brackets. -/
def DocumentPath.text (path : DocumentPath) : String :=
  path.foldl (fun written step =>
    match step with
    | .key name => if written.isEmpty then name else written ++ "." ++ name
    | .item position => written ++ "[" ++ toString position ++ "]") ""

/-- Why a provider payload could not be decoded. -/
inductive PayloadFault where
  /-- Neither JSON nor YAML, or not of the shape of its kind. -/
  | malformed (reason : String)
  | missingTypeMeta
  | unrecognized (apiVersion kind : String)
  | kindMismatch (expected found : String)
  | unknownFields (paths : List DocumentPath)
  deriving DecidableEq, Repr

/-- The fault in words. -/
def PayloadFault.message : PayloadFault → String
  | .malformed reason => "malformed payload: " ++ reason
  | .missingTypeMeta => "payload is missing apiVersion or kind"
  | .unrecognized apiVersion kind =>
      "no kind \"" ++ kind ++ "\" is registered for version \"" ++ apiVersion ++ "\""
  | .kindMismatch expected found =>
      "expected kind \"" ++ expected ++ "\" but payload has kind \"" ++ found ++ "\""
  | .unknownFields paths =>
      "unknown fields: " ++ ", ".intercalate (paths.map DocumentPath.text)

/-- What was looked up in vain. -/
inductive Missing where
  | machineType (name profile : String)
  | volumeType (name profile : String)
  | machineImage (name version : String)
  | cloudProfile (name : String)
  | secretBinding (space name : String)
  | secret (space name : String)
  | secretKey (key space name : String)
  deriving DecidableEq, Repr

/-- The missing thing in words. -/
def Missing.message : Missing → String
  | .machineType name profile => found "machine type" name ("cloud profile \"" ++ profile ++ "\"")
  | .volumeType name profile => found "volume type" name ("cloud profile \"" ++ profile ++ "\"")
  | .machineImage name version => found "machine image" (name ++ ":" ++ version) "cloud profile config"
  | .cloudProfile name => found "cloud profile" name "cluster"
  | .secretBinding space name => found "secret binding" name ("namespace " ++ space)
  | .secret space name => found "secret" name ("namespace " ++ space)
  | .secretKey key space name => found "secret key" key ("secret " ++ space ++ "/" ++ name)
where
  found (kind name scope : String) : String :=
    kind ++ " \"" ++ name ++ "\" not found in " ++ scope

/-- The document that could not be decoded. -/
inductive Subject where
  | manifest (origin : String)
  | kubeconfig
  | secretBinding (name : String)
  | poolConfig (pool : String)
  | infrastructureStatus (worker : String)
  | workerStatus (worker : String)
  | profileConfig (profile : String)
  | shootInfrastructure (shoot : String)
  | shootControlPlane (shoot : String)
  | shootPoolConfig (pool shoot : String)
  deriving DecidableEq, Repr

/-- The document in words. -/
def Subject.text : Subject → String
  | .manifest origin => "manifest " ++ origin
  | .kubeconfig => "provider cluster kubeconfig"
  | .secretBinding name => "secret binding \"" ++ name ++ "\""
  | .poolConfig pool => "providerConfig of worker pool \"" ++ pool ++ "\""
  | .infrastructureStatus worker => "infrastructureProviderStatus of worker \"" ++ worker ++ "\""
  | .workerStatus worker => "providerStatus of worker \"" ++ worker ++ "\""
  | .profileConfig profile => "providerConfig of cloud profile \"" ++ profile ++ "\""
  | .shootInfrastructure shoot => "infrastructureConfig of shoot " ++ shoot
  | .shootControlPlane shoot => "controlPlaneConfig of shoot " ++ shoot
  | .shootPoolConfig pool shoot => "providerConfig of worker \"" ++ pool ++ "\" in shoot " ++ shoot

/-- An input that is missing or unusable. -/
inductive Precondition where
  | missingSshKey (worker : String)
  | volumeWithoutType (size : String)
  | badVolumeSize (size : String) (fault : Quantity.Fault)
  | missingRootVolume (machineType : String)
  | tooManyZones (pool : String)
  | profileWithoutConfig (profile shoot : String)
  deriving DecidableEq, Repr

/-- The precondition in words. -/
def Precondition.message : Precondition → String
  | .missingSshKey worker => "missing sshPublicKey in worker " ++ worker
  | .volumeWithoutType size => "volume of size " ++ size ++ " does not specify a volume type"
  | .badVolumeSize size fault =>
      "could not parse volume size " ++ quoted size ++ " as quantity: " ++ fault.message
  | .missingRootVolume machineType =>
      "missing volume in worker pool and storage in machine type \"" ++ machineType ++ "\""
  | .tooManyZones pool => "too many zones in worker pool " ++ pool
  | .profileWithoutConfig profile shoot =>
      "cloud profile \"" ++ profile ++ "\" of shoot " ++ shoot ++ " has no providerConfig"

/-- Why a scaling bound could not be spread over zones. -/
inductive BoundFault where
  | notPercentage
  | notInteger
  | overflow
  deriving DecidableEq, Repr

/-- The fault in words. -/
def BoundFault.message : BoundFault → String
  | .notPercentage => "expected an integer or a percentage"
  | .notInteger => "percentage is not an integer"
  | .overflow => "resolved value overflows"

/-- How a run fails. -/
inductive Failure where
  | notFound (missing : Missing)
  | decode (subject : Subject) (fault : PayloadFault)
  | precondition (cause : Precondition)
  | conversion (subject reason : String)
  | distribution (value : String) (fault : BoundFault)
  | pool (name : String) (cause : Failure)
  | validation (errors : List FieldError)
  | unreadable (path reason : String)
  | api (reason : String)
  deriving Repr

namespace Failure

/-- The failure in words. -/
def message : Failure → String
  | .notFound missing => missing.message
  | .decode subject fault => "could not decode " ++ subject.text ++ ": " ++ fault.message
  | .precondition cause => cause.message
  | .conversion subject reason => "could not convert " ++ subject ++ ": " ++ reason
  | .distribution value fault =>
      "could not distribute " ++ value ++ " over zones: " ++ fault.message
  | .pool name cause => "worker pool \"" ++ name ++ "\": " ++ cause.message
  | .validation errors => FieldError.listMessage errors
  | .unreadable path reason => "could not read " ++ path ++ ": " ++ reason
  | .api reason => "kubernetes API request failed: " ++ reason

/-- The failure itself, without the worker pools it is wrapped in. -/
def root : Failure → Failure
  | .pool _ cause => cause.root
  | other => other

/-- Whether something was looked up in vain. -/
def isNotFound (failure : Failure) : Bool :=
  match failure.root with
  | .notFound _ => true
  | _ => false

/-- The messages of the failure and of the causes below it, outermost first. -/
def chain : Failure → List String
  | .pool name cause => message (.pool name cause) :: cause.chain
  | .decode subject fault => [message (.decode subject fault), fault.message]
  | .unreadable path reason => [message (.unreadable path reason), reason]
  | .api reason => [message (.api reason), reason]
  | other => [other.message]

/-- A check that found violations fails with them; one that found none succeeds. -/
def ofErrors : List FieldError → Except Failure Unit
  | [] => .ok ()
  | errors => .error (.validation errors)

end Failure

end ShootMachines
