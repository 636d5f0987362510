import ShootMachines.Document.Json.Reader
import ShootMachines.Document.Json.Writer
import ShootMachines.Lookup.Basic
import ShootMachines.Schema.Read
import ShootMachines.Schema.Write

/-!
# Looking up objects through an API

The Kubernetes API answers a request for a path with a status and a body. An answer that says so
stands for a missing object; every other failing answer, and a body that is no object of the wanted
kind, is a failure of the API. A name that makes no path is refused without a request.
-/

namespace ShootMachines

/-- An answer of the API. -/
structure ApiAnswer where
  status : Nat
  body : String

/-- The API, as the answers it gives. -/
structure Api where
  answer : (path : String) → ApiAnswer

/-- What the API says of a request that fails. -/
structure ApiStatus where
  status : Option String
  code : UInt32
  message : String
  reason : String

/-- Every field of a status may be missing. -/
def ApiStatus.schema : Schema ApiStatus :=
  .ofParts .flexible
    (.optional "status" .text <|
      .default "code" .uint32 0 <|
      .default "message" .text "" <|
      .default "reason" .text "" .nil)
    (fun (status, code, message, reason, ()) => ⟨status, code, message, reason⟩)
    (fun answer => (answer.status, answer.code, answer.message, answer.reason, ()))

/-- The answer to a path that holds nothing. -/
def ApiAnswer.notFound : ApiAnswer where
  status := 404
  body := String.ofList (Json.writeChars (.ofFields [("code", .int 404), ("kind", .text "Status"),
    ("reason", .text "NotFound"), ("status", .text "Failure")]))

namespace Api

/-- The API that gives the answers of a table, and nothing else. -/
def ofTable (table : List (String × ApiAnswer)) : Api where
  answer path := (table.lookup path).getD .notFound

/-- The characters that a path may hold. -/
def isPathCharacter (character : Char) : Bool :=
  let code := character.toNat
  code = 0x21 || code = 0x22 || (0x24 ≤ code && code ≤ 0x3B) || code = 0x3D ||
    (0x40 ≤ code && code ≤ 0x5F) || (0x61 ≤ code && code ≤ 0x7E) || 0x7F ≤ code

/-- The path up to a query or a fragment, if it holds no other character than paths do. -/
def pathOf? (text : String) : Option String :=
  let path := text.toList.takeWhile fun character => character ≠ '?' ∧ character ≠ '#'
  if path.all isPathCharacter then some (String.ofList path) else none

/-- The document that the API holds at a path, or what it says instead. -/
def get (api : Api) (text : String) : Traced (Except ApiStatus Payload) := do
  match pathOf? text with
  | none => .fail (.api "invalid path")
  | some path => do
      .note (.request path)
      let answer := api.answer path
      match Json.read answer.body with
      | .ok body =>
          if answer.status < 400 then return .ok body
          else
            match ApiStatus.schema.decode body with
            | .ok status => return .error status
            | .error mismatch => .fail (.api mismatch.reason)
      | .error fault => .fail (.api fault.reason)

/-- Read a document of the API. -/
def read (schema : Schema α) (body : Payload) : Traced α :=
  .ofResult ((schema.decode body).mapError fun mismatch => .api mismatch.reason)

/-- The object that the API holds under a name below a path. -/
def getObject (api : Api) (path name : String) (schema : Schema α) (missing : Missing) :
    Traced α := do
  if name.isEmpty then .fail (.api "a name is required")
  else
    match ← api.get (path ++ "/" ++ name) with
    | .ok body => read schema body
    | .error status =>
        if status.reason = "NotFound" then .fail (.notFound missing) else .fail (.api status.message)

/-- What the API says of a list of objects. -/
structure ListMetadata where
  continuation : Option String
  remainingItemCount : Option Int64
  resourceVersion : Option String
  selfLink : Option String

/-- Every field may be missing. -/
def ListMetadata.schema : Schema ListMetadata :=
  .ofParts .tolerant
    (.optional "continue" .text <|
      .optional "remainingItemCount" .int64 <|
      .optional "resourceVersion" .text <|
      .optional "selfLink" .text .nil)
    (fun (continuation, remainingItemCount, resourceVersion, selfLink, ()) =>
      ⟨continuation, remainingItemCount, resourceVersion, selfLink⟩)
    (fun metadata => (metadata.continuation, metadata.remainingItemCount,
      metadata.resourceVersion, metadata.selfLink, ()))

/-- A list of objects as the API gives it. The items may be null. -/
def listSchema (item : Schema α) : Schema (ListMetadata × Option (List α) × Unit) :=
  .ofParts .object
    (.default "metadata" ListMetadata.schema ⟨none, none, none, none⟩ <|
      .required "items" (.optional (.list item)) .nil)
    id id

/-- The objects that the API lists at a path. A list is never missing: what the API says instead of one is a
failure. -/
def getList (api : Api) (path : String) (schema : Schema α) : Traced (List α) := do
  match ← api.get path with
  | .ok body =>
      let (_, items, ()) ← read (listSchema schema) body
      return items.getD []
  | .error status => .fail (.api status.message)

/-- An object of any kind: its metadata, and all that it holds. -/
structure AnyObject where
  metadata : Metadata
  content : Payload

/-- An object of any kind, if the document is one. -/
def anyObject (content : Payload) : Traced AnyObject := do
  let schema : Schema (Metadata × Unit) :=
    .ofParts .object (.default "metadata" Metadata.schema .empty .nil) id id
  let (metadata, ()) ← read schema content
  return ⟨metadata, content.withField "metadata" (Metadata.schema.encode metadata)⟩

/-- The secret binding that an object holds. -/
def secretBindingOf (object : AnyObject) : Traced SecretBinding :=
  .ofResult ((SecretBinding.schema.decode object.content).mapError fun mismatch =>
    .decode (.secretBinding object.metadata.anyName) (.malformed mismatch.reason))

/-- The path of the core resources of Gardener. -/
def corePath : String := "/apis/core.gardener.cloud/v1beta1"

/-- The path of a namespace below another path. -/
def spacePath (path space : String) : String := path ++ "/namespaces/" ++ space

/-- Look up objects through the API. Secret bindings are read as objects of any kind first. -/
def lookup (api : Api) : Lookup where
  cloudProfile name :=
    api.getObject (corePath ++ "/cloudprofiles") name CloudProfile.schema (.cloudProfile name)
  secretBinding space name := do
    let content ← api.getObject (spacePath corePath space ++ "/secretbindings") name .payload
      (.secretBinding space name)
    let object ← anyObject content
    secretBindingOf object
  secret space name :=
    api.getObject (spacePath "/api/v1" space ++ "/secrets") name Secret.schema (.secret space name)
  secretBindings := do
    let items ← api.getList (corePath ++ "/secretbindings") .payload
    let objects ← Run.forEach anyObject items
    Run.forEach secretBindingOf objects
  shoots space := api.getList (spacePath corePath space ++ "/shoots") Shoot.schema

/-- Look up the data of secrets through the API. -/
def credentials (api : Api) : CredentialSource where
  secretData reference := do
    .debug ("Reading secret " ++ reference.space ++ "/" ++ reference.name)
    let secret ← api.lookup.secret reference.space reference.name
    return secret.entries

end Api

end ShootMachines
