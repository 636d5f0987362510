import ShootMachines.Kubernetes.Metadata

/-!
# Secrets

A secret holds named byte sequences.
-/

namespace ShootMachines

/-- A secret. -/
structure Secret where
  data : Option (Dict Bytes)
  immutable : Option Bool
  metadata : Metadata
  stringData : Option (Dict String)
  type : Option String

namespace Secret

/-- A secret is an object; a stated type other than its own is refused. -/
def schema : Schema Secret :=
  .resource "v1" "Secret" true <|
    .ofParts .tolerant
      (.optional "data" (.dict .bytes) <|
        .optional "immutable" .flag <|
        .default "metadata" Metadata.schema .empty <|
        .optional "stringData" (.dict .text) <|
        .optional "type" .text .nil)
      (fun (data, immutable, metadata, stringData, type, ()) =>
        ⟨data, immutable, metadata, stringData, type⟩)
      (fun secret =>
        (secret.data, secret.immutable, secret.metadata, secret.stringData, secret.type, ()))

/-- The data of a secret; none is the same as empty. -/
def entries (secret : Secret) : Dict Bytes :=
  secret.data.getD .empty

end Secret

end ShootMachines
