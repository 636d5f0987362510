import ShootMachines.Lookup.Api
import ShootMachines.Proofs.Text.TextLemmas

/-!
# Paths of resources

Whatever is looked up through the API is asked for under a path that its names are put into. Names that
are safe in paths come out of it again, so different resources have different paths
(`Resource.path_inj`), and the path is sent as it is (`Resource.path_of_path`).
-/

namespace ShootMachines

/-- Whether a name may stand between the slashes of a path as it is. -/
def PathSafe (name : String) : Prop :=
  name ≠ "" ∧ ∀ character ∈ name.toList, Api.isPathCharacter character = true ∧ character ≠ '/'

-- The characters of the name are looked at, not all characters there are.
instance (name : String) : Decidable (PathSafe name) :=
  @instDecidableAnd _ _ _ (List.decidableBAll _ _)

/-- What may be asked for: an object by its names, or the list of the objects of a kind. -/
inductive Resource where
  | cloudProfile (name : String)
  | secretBinding (space name : String)
  | secret (space name : String)
  | shoot (space name : String)
  | secretBindings
  | shoots (space : String)
  deriving DecidableEq

namespace Resource

/-- The path of a resource. -/
def path : Resource → String
  | cloudProfile name => Api.corePath ++ "/cloudprofiles" ++ "/" ++ name
  | secretBinding space name =>
      Api.spacePath Api.corePath space ++ "/secretbindings" ++ "/" ++ name
  | secret space name => Api.spacePath "/api/v1" space ++ "/secrets" ++ "/" ++ name
  | shoot space name => Api.spacePath Api.corePath space ++ "/shoots" ++ "/" ++ name
  | secretBindings => Api.corePath ++ "/secretbindings"
  | shoots space => Api.spacePath Api.corePath space ++ "/shoots"

/-- The parts of the path of a resource, each of which stands after a slash. -/
def segments : Resource → List String
  | cloudProfile name => ["apis", "core.gardener.cloud", "v1beta1", "cloudprofiles", name]
  | secretBinding space name =>
      ["apis", "core.gardener.cloud", "v1beta1", "namespaces", space, "secretbindings", name]
  | secret space name => ["api", "v1", "namespaces", space, "secrets", name]
  | shoot space name =>
      ["apis", "core.gardener.cloud", "v1beta1", "namespaces", space, "shoots", name]
  | secretBindings => ["apis", "core.gardener.cloud", "v1beta1", "secretbindings"]
  | shoots space => ["apis", "core.gardener.cloud", "v1beta1", "namespaces", space, "shoots"]

/-- The names in the path of a resource. -/
def names : Resource → List String
  | cloudProfile name => [name]
  | secretBinding space name => [space, name]
  | secret space name => [space, name]
  | shoot space name => [space, name]
  | secretBindings => []
  | shoots space => [space]

/-- Whether all names in the path of a resource are safe. -/
def Safe (resource : Resource) : Prop := ∀ name ∈ resource.names, PathSafe name

instance (resource : Resource) : Decidable resource.Safe :=
  inferInstanceAs (Decidable (∀ name ∈ resource.names, PathSafe name))

/-- The path of a resource is put together from its parts. -/
theorem path_eq (resource : Resource) :
    resource.path.toList = resource.segments.flatMap fun segment => '/' :: segment.toList := by
  cases resource <;> simp [path, segments, Api.corePath, Api.spacePath]

/-- The parts of paths that are not names. -/
def fixedSegments : List String :=
  ["api", "apis", "core.gardener.cloud", "v1", "v1beta1", "namespaces", "cloudprofiles",
    "secretbindings", "secrets", "shoots"]

/-- The parts of the path of a resource are safe if its names are. -/
theorem Safe.segments {resource : Resource} (h : resource.Safe) :
    ∀ segment ∈ resource.segments, PathSafe segment := by
  have hfixed : ∀ segment ∈ fixedSegments, PathSafe segment := by decide +kernel
  intro segment hsegment
  have hpart : segment ∈ resource.names ∨ segment ∈ fixedSegments := by
    cases resource <;> grind [Resource.segments, names, fixedSegments]
  exact hpart.elim (h segment) (hfixed segment)

/-- Different resources have different parts. -/
theorem segments_inj {resource other : Resource} (h : resource.segments = other.segments) :
    resource = other := by
  cases resource <;> cases other <;> simp_all [segments]

/-- Resources with the same path are the same if their names are safe. -/
theorem path_inj {resource other : Resource} (hresource : resource.Safe) (hother : other.Safe)
    (h : resource.path = other.path) : resource = other := by
  have hslash {resource : Resource} (h : resource.Safe) :
      ∀ segment ∈ resource.segments, '/' ∉ segment.toList :=
    fun segment hsegment hmem => ((h.segments segment hsegment).2 '/' hmem).2 rfl
  have hparts := congrArg String.toList h
  rw [path_eq, path_eq] at hparts
  exact segments_inj (separated_inj (hslash hresource) (hslash hother) hparts)

/-- The path of a resource with safe names is sent as it is. -/
theorem path_of_path {resource : Resource} (h : resource.Safe) :
    Api.pathOf? resource.path = some resource.path := by
  have hcharacters : ∀ character ∈ resource.path.toList, Api.isPathCharacter character = true := by
    rw [path_eq]
    intro character hcharacter
    obtain ⟨segment, hsegment, hcharacter⟩ := List.mem_flatMap.1 hcharacter
    rcases List.mem_cons.1 hcharacter with rfl | hpart
    · decide
    · exact ((h.segments segment hsegment).2 character hpart).1
  -- Neither of the characters that end a path is one that a path may hold.
  have hwhole : resource.path.toList.takeWhile
      (fun character => character ≠ '?' ∧ character ≠ '#') = resource.path.toList := by
    have hinside : (resource.path.toList.all fun character =>
        character ≠ '?' ∧ character ≠ '#') = true := by
      refine List.all_eq_true.2 fun character hcharacter => decide_eq_true ?_
      have hallowed := hcharacters character hcharacter
      constructor <;> rintro rfl <;> exact absurd hallowed (by decide)
    simpa using take_while_run hinside .nil
  unfold Api.pathOf?
  rw [hwhole, if_pos (List.all_eq_true.2 hcharacters), String.ofList_toList]

end Resource

end ShootMachines
