import ShootMachines.Schema.Basic

/-!
# Volumes of machines

Every disk of a machine is backed by a claim on storage together with the source that its content
comes from. All claims are made alike: they differ only in storage class and size.
-/

namespace ShootMachines

/-- Where the content of a volume comes from. -/
inductive VolumeSource where
  /-- A copy of an existing claim. -/
  | clone (space name : String)
  /-- A disk image fetched from a URL. -/
  | image (url : String)
  | blank
  deriving DecidableEq, Repr

/-- A source is one of three variants, each an object under its own tag. -/
def VolumeSource.schema : Schema VolumeSource :=
  .choice
    (.cons "pvc" clone <| .cons "http" image <| .cons "blank" blank .nil)
    (fun
      | .inl (space, name) => .clone space name
      | .inr (.inl url) => .image url
      | .inr (.inr (.inl ())) => .blank)
    (fun
      | .clone space name => .inl (space, name)
      | .image url => .inr (.inl url)
      | .blank => .inr (.inr (.inl ())))
    (by intro source; cases source <;> rfl)
    (by
      rintro (_ | _ | _ | nothing)
      · rfl
      · rfl
      · rfl
      · exact nothing.elim)
where
  /-- A copy states the claim it is made of. -/
  clone : Schema (String × String) :=
    .ofParts .object (.required "namespace" .text <| .required "name" .text .nil)
      (fun (space, name, ()) => (space, name))
      (fun (space, name) => (space, name, ()))
  /-- An image states its URL. -/
  image : Schema String :=
    .ofParts .object (.required "url" .text .nil) (fun (url, ()) => url) (fun url => (url, ()))
  /-- An empty disk states nothing. -/
  blank : Schema Unit :=
    .ofParts .object .nil id id

/-- The resources that a claim asks for. -/
structure VolumeResources where
  requests : Dict Quantity
  deriving DecidableEq

/-- The resources state the requests. -/
def VolumeResources.schema : Schema VolumeResources :=
  .ofParts .flexible
    (.required "requests" (.dict .quantity) .nil)
    (fun (requests, ()) => ⟨requests⟩)
    (fun resources => (resources.requests, ()))

/-- A claim on storage. -/
structure VolumeClaim where
  accessModes : List String
  resources : VolumeResources
  storageClass : String
  deriving DecidableEq

/-- A claim states all of its fields. -/
def VolumeClaim.schema : Schema VolumeClaim :=
  .ofParts .flexible
    (.required "accessModes" (.list .text) <|
      .required "resources" VolumeResources.schema <|
      .required "storageClassName" .text .nil)
    (fun (accessModes, resources, storageClass, ()) => ⟨accessModes, resources, storageClass⟩)
    (fun claim => (claim.accessModes, claim.resources, claim.storageClass, ()))

/-- The name of storage among the resources of a claim. -/
def storageResource : String := "storage"

/-- The claim on storage of a class and a size, for one node to read and write. -/
def VolumeClaim.ofSize (storageClass : String) (size : Quantity) : VolumeClaim where
  accessModes := ["ReadWriteOnce"]
  resources := ⟨Dict.empty.insert storageResource size⟩
  storageClass := storageClass

/-- A volume of a machine. -/
structure MachineVolume where
  claim : VolumeClaim
  source : VolumeSource
  deriving DecidableEq

namespace MachineVolume

/-- A volume states claim and source. -/
def schema : Schema MachineVolume :=
  .ofParts .flexible
    (.required "pvc" VolumeClaim.schema <|
      .required "source" VolumeSource.schema .nil)
    (fun (claim, source, ()) => ⟨claim, source⟩)
    (fun volume => (volume.claim, volume.source, ()))

/-- The volume of a class and a size whose content comes from a source. -/
def ofSize (storageClass : String) (size : Quantity) (source : VolumeSource) : MachineVolume :=
  ⟨.ofSize storageClass size, source⟩

/-- The size that a volume asks for. -/
def requestedSize (volume : MachineVolume) : Option Quantity :=
  volume.claim.resources.requests.get? storageResource

/-- A volume made for a size asks for that size. -/
@[simp]
theorem requestedSize_ofSize (storageClass : String) (size : Quantity) (source : VolumeSource) :
    (ofSize storageClass size source).requestedSize = some size := by
  simp [requestedSize, ofSize, VolumeClaim.ofSize]

end MachineVolume

end ShootMachines
