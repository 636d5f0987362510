import ShootMachines.Schema.Basic

/-!
# Volumes of worker pools

A pool may set the root volume of its machines and add data volumes. The type of a volume is looked
up in the cloud profile, its size is a quantity.
-/

namespace ShootMachines

/-- The root volume of a pool. -/
structure Volume where
  name : Option String
  type : Option String
  size : String
  deriving DecidableEq, Repr

/-- A root volume states at least its size. -/
def Volume.schema : Schema Volume :=
  .ofParts .flexible
    (.optional "name" .text <|
      .optional "type" .text <|
      .required "size" .text .nil)
    (fun (name, type, size, ()) => ⟨name, type, size⟩)
    (fun volume => (volume.name, volume.type, volume.size, ()))

/-- A data volume of a pool. -/
structure DataVolume where
  name : String
  type : Option String
  size : String
  deriving DecidableEq, Repr

/-- A data volume states at least its name and size. -/
def DataVolume.schema : Schema DataVolume :=
  .ofParts .flexible
    (.required "name" .text <|
      .optional "type" .text <|
      .required "size" .text .nil)
    (fun (name, type, size, ()) => ⟨name, type, size⟩)
    (fun volume => (volume.name, volume.type, volume.size, ()))

end ShootMachines
