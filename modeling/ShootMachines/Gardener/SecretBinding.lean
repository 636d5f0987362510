import ShootMachines.Gardener.Reference
import ShootMachines.Kubernetes.Metadata
import ShootMachines.Text.Blank

/-!
# Secret bindings

A secret binding makes a secret usable by the shoots of a namespace, for all providers or for those
it lists.
-/

namespace ShootMachines

/-- The provider types of a secret binding, separated by commas. -/
structure BindingProvider where
  type : String
  deriving DecidableEq, Repr

/-- The provider section states the types. -/
def BindingProvider.schema : Schema BindingProvider :=
  .ofParts .flexible
    (.required "type" .text .nil)
    (fun (type, ()) => ⟨type⟩)
    (fun provider => (provider.type, ()))

/-- A secret binding. -/
structure SecretBinding where
  metadata : Metadata
  secretRef : SecretReference
  provider : Option BindingProvider

namespace SecretBinding

/-- A secret binding states the secret. -/
def schema : Schema SecretBinding :=
  .ofParts .flexible
    (.default "metadata" Metadata.schema .empty <|
      .required "secretRef" SecretReference.schema <|
      .optional "provider" BindingProvider.schema .nil)
    (fun (metadata, secretRef, provider, ()) => ⟨metadata, secretRef, provider⟩)
    (fun binding => (binding.metadata, binding.secretRef, binding.provider, ()))

/-- The parts of a text between commas. -/
def commaParts (text : List Char) : List (List Char) :=
  text.splitOn ','

/-- Whether a binding may be used with a provider type: it has no provider section, or one of the
listed types is that type up to blanks around it. -/
def supports (binding : SecretBinding) (providerType : String) : Bool :=
  match binding.provider with
  | none => true
  | some provider =>
      (commaParts provider.type.toList).any fun part => trimChars part = providerType.toList

end SecretBinding

end ShootMachines
