import ShootMachines.Schema.Basic

/-!
# References

Resources refer to secrets by namespace and name, and to machine images by name and version.
-/

namespace ShootMachines

/-- A reference to a secret. -/
structure SecretReference where
  name : String
  space : String
  deriving DecidableEq, Repr

/-- A reference states name and namespace. -/
def SecretReference.schema : Schema SecretReference :=
  .ofParts .flexible
    (.required "name" .text <|
      .required "namespace" .text .nil)
    (fun (name, space, ()) => ⟨name, space⟩)
    (fun reference => (reference.name, reference.space, ()))

/-- A reference to a machine image. -/
structure ImageReference where
  name : String
  version : String
  deriving DecidableEq, Repr

/-- A reference states name and version. -/
def ImageReference.schema : Schema ImageReference :=
  .ofParts .flexible
    (.required "name" .text <|
      .required "version" .text .nil)
    (fun (name, version, ()) => ⟨name, version⟩)
    (fun reference => (reference.name, reference.version, ()))

end ShootMachines
