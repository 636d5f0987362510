import ShootMachines.Schema.Basic

/-!
# Object metadata

Every Kubernetes object carries its name, its namespace and the bookkeeping of the API server.
-/

namespace ShootMachines

/-- An owner of an object. -/
structure OwnerReference where
  apiVersion : String
  blockOwnerDeletion : Option Bool
  controller : Option Bool
  kind : String
  name : String
  uid : String
  deriving DecidableEq, Repr

/-- What one manager has written of an object. -/
structure ManagedFields where
  apiVersion : Option String
  fieldsType : Option String
  fields : Option Payload
  manager : Option String
  operation : Option String
  subresource : Option String
  time : Option Instant

/-- The metadata of an object. -/
structure Metadata where
  annotations : Option (Dict String)
  creationTimestamp : Option Instant
  deletionGracePeriodSeconds : Option Int64
  deletionTimestamp : Option Instant
  finalizers : Option (List String)
  generateName : Option String
  generation : Option Int64
  labels : Option (Dict String)
  managedFields : Option (List ManagedFields)
  name : Option String
  space : Option String
  ownerReferences : Option (List OwnerReference)
  resourceVersion : Option String
  selfLink : Option String
  uid : Option String

/-- An owner is an object; its texts default to the empty one. -/
def OwnerReference.schema : Schema OwnerReference :=
  .ofParts .tolerant
    (.default "apiVersion" .text "" <|
      .optional "blockOwnerDeletion" .flag <|
      .optional "controller" .flag <|
      .default "kind" .text "" <|
      .default "name" .text "" <|
      .default "uid" .text "" .nil)
    (fun (apiVersion, blockOwnerDeletion, controller, kind, name, uid, ()) =>
      ⟨apiVersion, blockOwnerDeletion, controller, kind, name, uid⟩)
    (fun owner => (owner.apiVersion, owner.blockOwnerDeletion, owner.controller, owner.kind,
      owner.name, owner.uid, ()))

/-- The entry of a manager is an object; every field may be missing. -/
def ManagedFields.schema : Schema ManagedFields :=
  .ofParts .tolerant
    (.optional "apiVersion" .text <|
      .optional "fieldsType" .text <|
      .optional "fieldsV1" .payload <|
      .optional "manager" .text <|
      .optional "operation" .text <|
      .optional "subresource" .text <|
      .optional "time" .instant .nil)
    (fun (apiVersion, fieldsType, fields, manager, operation, subresource, time, ()) =>
      ⟨apiVersion, fieldsType, fields, manager, operation, subresource, time⟩)
    (fun entry => (entry.apiVersion, entry.fieldsType, entry.fields, entry.manager,
      entry.operation, entry.subresource, entry.time, ()))

namespace Metadata

/-- Metadata is an object; every field may be missing. -/
def schema : Schema Metadata :=
  .ofParts .tolerant
    (.optional "annotations" (.dict .text) <|
      .optional "creationTimestamp" .instant <|
      .optional "deletionGracePeriodSeconds" .int64 <|
      .optional "deletionTimestamp" .instant <|
      .optional "finalizers" (.list .text) <|
      .optional "generateName" .text <|
      .optional "generation" .int64 <|
      .optional "labels" (.dict .text) <|
      .optional "managedFields" (.list ManagedFields.schema) <|
      .optional "name" .text <|
      .optional "namespace" .text <|
      .optional "ownerReferences" (.list OwnerReference.schema) <|
      .optional "resourceVersion" .text <|
      .optional "selfLink" .text <|
      .optional "uid" .text .nil)
    (fun (annotations, creationTimestamp, deletionGracePeriodSeconds, deletionTimestamp,
        finalizers, generateName, generation, labels, managedFields, name, space, ownerReferences,
        resourceVersion, selfLink, uid, ()) =>
      ⟨annotations, creationTimestamp, deletionGracePeriodSeconds, deletionTimestamp, finalizers,
        generateName, generation, labels, managedFields, name, space, ownerReferences,
        resourceVersion, selfLink, uid⟩)
    (fun metadata =>
      (metadata.annotations, metadata.creationTimestamp, metadata.deletionGracePeriodSeconds,
        metadata.deletionTimestamp, metadata.finalizers, metadata.generateName, metadata.generation,
        metadata.labels, metadata.managedFields, metadata.name, metadata.space,
        metadata.ownerReferences, metadata.resourceVersion, metadata.selfLink, metadata.uid, ()))

/-- Metadata without any field. -/
def empty : Metadata :=
  ⟨none, none, none, none, none, none, none, none, none, none, none, none, none, none, none⟩

instance : Inhabited Metadata := ⟨empty⟩

/-- The name by which messages call an object: its name, else the start of the name it asks for. -/
def anyName (metadata : Metadata) : String :=
  (metadata.name.or metadata.generateName).getD ""

/-- The namespace of an object, the empty text if it has none. -/
def anySpace (metadata : Metadata) : String :=
  metadata.space.getD ""

/-- The namespace and the name of an object, as messages write them. -/
def key (metadata : Metadata) : String :=
  metadata.anySpace ++ "/" ++ metadata.anyName

end Metadata

end ShootMachines
