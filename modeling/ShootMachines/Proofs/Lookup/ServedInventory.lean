import ShootMachines.Lookup.Inventory
import ShootMachines.Proofs.Document.JsonDocuments
import ShootMachines.Proofs.Lookup.ResourcePaths
import ShootMachines.Proofs.Schema.ReadValues

/-!
# APIs that serve an inventory

An API serves an inventory if it gives every object at its path, lists the secret bindings and the shoots
of every namespace in the order of the inventory, and says of every other path that nothing is there. It
may list the shoots of namespaces that the inventory does not know, or not. Such an API is looked up like
the inventory: for names that are safe in paths, every lookup has the same result.
-/

namespace ShootMachines

/-- The path that a cloud profile is found at. -/
def CloudProfile.resource (profile : CloudProfile) : Resource :=
  .cloudProfile profile.metadata.anyName

/-- The path that a secret binding is found at. -/
def SecretBinding.resource (binding : SecretBinding) : Resource :=
  .secretBinding binding.metadata.anySpace (binding.metadata.name.getD "")

/-- The path that a secret is found at. -/
def Secret.resource (secret : Secret) : Resource :=
  .secret secret.metadata.anySpace secret.metadata.anyName

/-- The path that a shoot is found at. -/
def Shoot.resource (shoot : Shoot) : Resource :=
  .shoot shoot.metadata.anySpace shoot.metadata.anyName

/-- Whether a path is that of an object, not of a list. -/
def Resource.isObject : Resource → Bool
  | secretBindings => false
  | shoots _ => false
  | _ => true

/-- The namespace of an object, if its kind has namespaces. -/
def Resource.space? : Resource → Option String
  | secretBinding space _ => some space
  | secret space _ => some space
  | shoot space _ => some space
  | _ => none

namespace Inventory

/-- The objects of an inventory. -/
def objects (inventory : Inventory) : List Resource :=
  inventory.cloudProfiles.map CloudProfile.resource ++
    inventory.secretBindings.map SecretBinding.resource ++ inventory.secrets.map Secret.resource ++
    inventory.shoots.map Shoot.resource

/-- The namespaces of the objects of an inventory. -/
def spaces (inventory : Inventory) : List String :=
  inventory.objects.filterMap Resource.space?

/-- The shoots of a namespace. -/
def shootsOf (inventory : Inventory) (space : String) : List Shoot :=
  inventory.shoots.filter fun shoot => shoot.metadata.anySpace = space

/-- Whether the names and namespaces of all objects are safe in paths. -/
def Safe (inventory : Inventory) : Prop := ∀ object ∈ inventory.objects, object.Safe

instance (inventory : Inventory) : Decidable inventory.Safe :=
  inferInstanceAs (Decidable (∀ object ∈ inventory.objects, object.Safe))

end Inventory

namespace Api

/-- Whether the API gives an object at a path. -/
def Gives (api : Api) (path : String) (schema : Schema α) (value : α) : Prop :=
  (api.answer path).status < 400 ∧
    ∃ fields, Json.read (api.answer path).body = .ok (.object fields) ∧
      schema.decode (.object fields) = .ok value

/-- Whether the API gives a list of objects at a path. -/
def GivesList (api : Api) (path : String) (schema : Schema α) (values : List α) : Prop :=
  (api.answer path).status < 400 ∧
    ∃ body metadata items, Json.read (api.answer path).body = .ok body ∧
      (listSchema .payload).decode body = .ok (metadata, items, ()) ∧
      List.Forall₂ (fun item value => (∃ fields, item = .object fields) ∧
        schema.decode item = .ok value) (items.getD []) values

/-- Whether the API says that nothing is at a path. -/
def SaysMissing (api : Api) (path : String) : Prop :=
  400 ≤ (api.answer path).status ∧
    ∃ body status, Json.read (api.answer path).body = .ok body ∧
      ApiStatus.schema.decode body = .ok status ∧ status.reason = "NotFound"

/-- Whether the API serves the objects and lists of an inventory, and nothing else. -/
structure Serves (api : Api) (inventory : Inventory) : Prop where
  cloudProfile : ∀ profile ∈ inventory.cloudProfiles,
    api.Gives profile.resource.path CloudProfile.schema profile
  secretBinding : ∀ binding ∈ inventory.secretBindings,
    api.Gives binding.resource.path SecretBinding.schema binding
  secret : ∀ secret ∈ inventory.secrets, api.Gives secret.resource.path Secret.schema secret
  shoot : ∀ shoot ∈ inventory.shoots, api.Gives shoot.resource.path Shoot.schema shoot
  secretBindings :
    api.GivesList Resource.secretBindings.path SecretBinding.schema inventory.secretBindings
  shoots : ∀ space ∈ inventory.spaces,
    api.GivesList (Resource.shoots space).path Shoot.schema (inventory.shootsOf space)
  missing : ∀ path, (∀ object ∈ inventory.objects, object.path ≠ path) →
    Resource.secretBindings.path ≠ path →
    (∀ space, PathSafe space → (Resource.shoots space).path ≠ path) → api.SaysMissing path

variable {α : Type} {api : Api} {resource : Resource} {schema : Schema α}

/-! ## Answers -/

/-- A document that is given at the path of a resource is what the API holds there. -/
theorem get_of_status {body : Payload} (hsafe : resource.Safe)
    (hstatus : (api.answer resource.path).status < 400)
    (hbody : Json.read (api.answer resource.path).body = .ok body) :
    (api.get resource.path).result = .ok (.ok body) := by
  unfold get
  simp only [Resource.path_of_path hsafe, Run.result_bind, Run.result_note, ok_bind, hbody,
    if_pos hstatus, Run.result_pure]

/-- Where the API says that nothing is, it gives a status with that reason. -/
theorem get_of_missing (hsafe : resource.Safe) (h : api.SaysMissing resource.path) :
    ∃ status, (api.get resource.path).result = .ok (.error status) ∧ status.reason = "NotFound" := by
  obtain ⟨hstatus, body, status, hbody, hdecode, hreason⟩ := h
  refine ⟨status, ?_, hreason⟩
  unfold get
  simp only [Resource.path_of_path hsafe, Run.result_bind, Run.result_note, ok_bind, hbody,
    if_neg (Nat.not_lt.2 hstatus), hdecode, Run.result_pure]

section Object

variable {path name : String} {missing : Missing}

/-- An object that is given at the path of a resource is looked up by its name. -/
theorem get_object_of_gives {value : α} (hpath : resource.path = path ++ "/" ++ name)
    (hname : name ≠ "") (hsafe : resource.Safe) (hgives : api.Gives resource.path schema value) :
    (api.getObject path name schema missing).result = .ok value := by
  obtain ⟨hstatus, fields, hbody, hdecode⟩ := hgives
  have hget := get_of_status hsafe hstatus hbody
  unfold getObject
  rw [if_neg (by simpa using hname), ← hpath]
  simp only [Run.result_bind, hget, ok_bind, read, hdecode, Run.result_ofResult]
  rfl

/-- An object is missing if the API says that nothing is at its path. -/
theorem get_object_of_missing (hpath : resource.path = path ++ "/" ++ name) (hname : name ≠ "")
    (hsafe : resource.Safe) (hmissing : api.SaysMissing resource.path) :
    (api.getObject path name schema missing).result = .error (.notFound missing) := by
  obtain ⟨status, hget, hreason⟩ := get_of_missing hsafe hmissing
  unfold getObject
  rw [if_neg (by simpa using hname), ← hpath]
  simp only [Run.result_bind, hget, ok_bind, if_pos hreason, Run.result_fail]

end Object

/-! ## Secret bindings -/

/-- Metadata that was read of an object, or stands for missing metadata, reads back from what it is written
as. -/
theorem read_metadata_encode {metadata : Metadata} {found : Option Payload}
    (h : Fields.readField .flexible "metadata" (.default .empty) Metadata.schema found =
      .ok metadata) :
    Metadata.schema.read Payload.source (Metadata.schema.encode metadata) = .ok metadata := by
  have hfaithful : Metadata.schema.faithful = true := by decide
  refine Metadata.schema.read_encode hfaithful metadata ?_
  cases found with
  | none =>
      obtain rfl := Except.ok.inj h
      decide
  | some payload => exact Metadata.schema.legible_of_read hfaithful h

/-- An object of any kind has the metadata that its object is read with. -/
theorem any_object_of_metadata {given : List (String × Payload)} {metadata : Metadata}
    (hdistinct : (given.map Prod.fst).Nodup)
    (h : Fields.readField .flexible "metadata" (.default .empty) Metadata.schema
      (given.lookup "metadata") = .ok metadata) :
    (anyObject (.object given)).result = .ok ⟨metadata,
      .object (insertEntry "metadata" (Metadata.schema.encode metadata) given)⟩ := by
  have hfield : Fields.readField .object "metadata" (.default .empty) Metadata.schema
      (given.lookup "metadata") = .ok metadata := by
    rw [← h]
    cases given.lookup "metadata" <;> simp [Fields.readField]
  have hread : Fields.readNamed Payload.source .object
      (.default "metadata" Metadata.schema .empty .nil) given = .ok (metadata, ()) := by
    rw [Fields.default, Fields.read_named_cons_eq hdistinct, hfield]
    rfl
  have hdecode : (Schema.ofParts .object (.default "metadata" Metadata.schema .empty .nil) id id :
      Schema (Metadata × Unit)).decode (.object given) = .ok (metadata, ()) := by
    show (Fields.readNamed Payload.source .object _ given).map id = _
    rw [hread]
    rfl
  unfold anyObject
  simp only [Run.result_bind, read, Run.result_ofResult]
  rw [hdecode]
  rfl

/-- An object that is read as a secret binding is read as an object of any kind first, and as the same
binding again after its metadata was written anew. -/
theorem any_object_of_binding {given : List (String × Payload)} {binding : SecretBinding}
    (hascending : Ascending given)
    (h : SecretBinding.schema.decode (.object given) = .ok binding) :
    ∃ object, (anyObject (.object given)).result = .ok object ∧
      (secretBindingOf object).result = .ok binding := by
  have hdistinct := hascending.nodup
  -- The metadata is read alike in both layouts, and the other fields are not touched.
  rcases Schema.read_record_eq_ok h with ⟨_, hobject, hgiven⟩ | ⟨_, hobject, _⟩
  · obtain rfl := Payload.object.inj hobject
    rw [Fields.default, Fields.read_named_cons_eq hdistinct] at hgiven
    obtain ⟨hmetadata, hothers⟩ := pair_eq_ok_iff.1 hgiven
    refine ⟨_, any_object_of_metadata hdistinct hmetadata, ?_⟩
    have hinserted := (ascending_insertEntry "metadata"
      (Metadata.schema.encode binding.metadata) hascending).nodup
    have hsame := hothers
    rw [Fields.read_named_congr _ hdistinct hinserted fun key hkey => by
      have hne : key ≠ "metadata" := by
        rintro rfl
        revert hkey
        decide
      rw [lookup_insertEntry, if_neg hne]] at hsame
    have hread : Schema.decode SecretBinding.schema
        (.object (insertEntry "metadata" (Metadata.schema.encode binding.metadata) given)) =
          .ok binding := by
      show (Fields.readNamed Payload.source .flexible _ _).map _ = _
      rw [Fields.default, Fields.read_named_cons_eq hinserted, hsame, lookup_insertEntry, if_pos rfl]
      have hback := read_metadata_encode hmetadata
      simp only [Fields.readField, hback]
      rfl
    unfold secretBindingOf
    simp only [Run.result_ofResult, hread]
    rfl
  · cases hobject

/-! ## Lists -/

/-- A list is read from an object field by field: what is said of the list, and the items. -/
theorem decode_list_eq (schema : Schema α) {given : List (String × Payload)}
    (hdistinct : (given.map Prod.fst).Nodup) :
    (listSchema schema).decode (.object given) = (do
      let metadata ← Fields.readField .object "metadata" (.default ⟨none, none, none, none⟩)
        ListMetadata.schema (given.lookup "metadata")
      let items ← Fields.readField .object "items" .required (.optional (.list schema))
        (given.lookup "items")
      .ok (metadata, items, ())) := by
  show (Fields.readNamed Payload.source .object _ given).map id = _
  rw [Fields.default, Fields.required, Fields.read_named_cons_eq hdistinct,
    Fields.read_named_cons_eq hdistinct]
  cases Fields.readField .object "metadata" (.default ⟨none, none, none, none⟩)
    ListMetadata.schema (given.lookup "metadata") with
  | error mismatch => rfl
  | ok metadata =>
      cases Fields.readField .object "items" .required (.optional (.list schema))
        (given.lookup "items") <;> rfl

/-- A list of documents that are read one by one is read as the list of what is read from them. -/
theorem decode_list_of_items {body : Payload} {metadata : ListMetadata}
    {items : Option (List Payload)} {values : List α} (hnormal : body.Normal)
    (hbody : (listSchema .payload).decode body = .ok (metadata, items, ()))
    (hvalues : List.Forall₂ (fun item value => schema.decode item = .ok value) (items.getD [])
      values) :
    (∀ item ∈ items.getD [], item.Normal) ∧
      ∃ found, (listSchema schema).decode body = .ok (metadata, found, ()) ∧
        found.getD [] = values := by
  cases body with
  | object given =>
      have hdistinct := hnormal.1.nodup
      rw [decode_list_eq _ hdistinct] at hbody
      obtain ⟨_, hmetadata, hbody⟩ := bind_eq_ok_iff.1 hbody
      obtain ⟨_, hitems, hbody⟩ := bind_eq_ok_iff.1 hbody
      obtain ⟨rfl, hrest⟩ := Prod.mk.inj (Except.ok.inj hbody)
      obtain ⟨rfl, _⟩ := Prod.mk.inj hrest
      rw [decode_list_eq _ hdistinct, hmetadata, ok_bind]
      cases hfound : given.lookup "items" with
      | none =>
          rw [hfound] at hitems
          cases hitems
      | some payload =>
          rw [hfound] at hitems
          cases payload with
          | null =>
              obtain rfl := Except.ok.inj hitems
              cases hvalues
              exact ⟨fun _ hitem => absurd hitem List.not_mem_nil, none, rfl, rfl⟩
          | list nodes =>
              obtain ⟨read, hread, rfl⟩ := map_eq_ok_iff.1 hitems
              obtain ⟨_, hnodes, hsame⟩ := Schema.read_list_eq_ok hread
              obtain rfl := Payload.list.inj hnodes
              obtain rfl : nodes = read := by
                rw [← List.forall₂_eq_eq_eq]
                exact hsame.imp fun _ _ h => Except.ok.inj h
              have hlist : (Schema.list schema).read Payload.source (.list nodes) = .ok values :=
                map_m_eq_ok_iff.2 hvalues
              have hnormalNodes := Payload.normal_fields_iff.1 hnormal.2 _ (mem_of_lookup hfound)
              refine ⟨Payload.normal_items_iff.1 hnormalNodes, some values, ?_, rfl⟩
              rw [Fields.readField, if_neg (by simp), Schema.read_optional, hlist]
              rfl
          | _ => cases hitems
  | _ => cases hbody

/-- A list that is given at the path of a resource is what the API lists there, read as documents or as
what the documents are read as. -/
theorem get_list_of_gives {values : List α} (hsafe : resource.Safe)
    (hgives : api.GivesList resource.path schema values) :
    (api.getList resource.path schema).result = .ok values ∧
      ∃ items, (api.getList resource.path .payload).result = .ok items ∧
        (∀ item ∈ items, item.Normal) ∧
        List.Forall₂ (fun item value => (∃ fields, item = .object fields) ∧
          schema.decode item = .ok value) items values := by
  obtain ⟨hstatus, body, metadata, items, hbody, hdecode, hvalues⟩ := hgives
  obtain ⟨hnormal, found, hfound, hsame⟩ := decode_list_of_items (Json.normal_of_read hbody) hdecode
    (hvalues.imp fun _ _ h => h.2)
  have hget := get_of_status hsafe hstatus hbody
  refine ⟨?_, items.getD [], ?_, hnormal, hvalues⟩
  · unfold getList
    simp only [Run.result_bind, hget, ok_bind, read, hfound, Run.result_ofResult]
    exact congrArg Except.ok hsame
  · unfold getList
    simp only [Run.result_bind, hget, ok_bind, read, hdecode, Run.result_ofResult]
    rfl

/-- Documents that are read as secret bindings are read as objects of any kind first, and as the same
bindings again. -/
theorem any_objects_of_bindings {items : List Payload} {bindings : List SecretBinding}
    (hnormal : ∀ item ∈ items, item.Normal)
    (h : List.Forall₂ (fun item binding => (∃ fields, item = .object fields) ∧
      SecretBinding.schema.decode item = .ok binding) items bindings) :
    ∃ objects, (items.mapM fun item => (anyObject item).result) = .ok objects ∧
      (objects.mapM fun object => (secretBindingOf object).result) = .ok bindings := by
  induction h with
  | nil => exact ⟨[], rfl, rfl⟩
  | cons hitem _ ih =>
      obtain ⟨⟨fields, rfl⟩, hdecode⟩ := hitem
      obtain ⟨hfirst, hrest⟩ := List.forall_mem_cons.1 hnormal
      obtain ⟨object, hobject, hbinding⟩ := any_object_of_binding hfirst.1 hdecode
      obtain ⟨objects, hobjects, hbindings⟩ := ih hrest
      refine ⟨object :: objects, ?_, ?_⟩
      · rw [List.mapM_cons, hobject, ok_bind, hobjects]
        rfl
      · rw [List.mapM_cons, hbinding, ok_bind, hbindings]
        rfl

end Api

/-- A run finds what an inventory finds among its items if it gives every item that is looked for, and says
so if there is none. -/
theorem Inventory.result_eq_found {α : Type} {items : List α} {sought : α → Bool}
    {missing : Missing} {run : Traced α}
    (hgiven : ∀ item ∈ items, sought item = true → run.result = .ok item)
    (hmissing : (∀ item ∈ items, sought item = false) → run.result = .error (.notFound missing)) :
    run.result = (found (items.find? sought) missing).result := by
  cases hfind : items.find? sought with
  | none =>
      refine hmissing fun item hitem => ?_
      simpa using List.find?_eq_none.1 hfind item hitem
  | some item => exact hgiven item (List.mem_of_find?_eq_some hfind) (List.find?_some hfind)

namespace Api.Serves

variable {api : Api} {inventory : Inventory} {space name : String}

/-- The namespaces of an inventory with safe names are safe. -/
theorem safe_of_mem_spaces (hsafe : inventory.Safe) (h : space ∈ inventory.spaces) :
    PathSafe space := by
  obtain ⟨object, hobject, hspace⟩ := List.mem_filterMap.1 h
  refine hsafe object hobject space ?_
  cases object <;> simp_all [Resource.space?, Resource.names]

/-- The API says of the path of every object with safe names that nothing is there if the inventory does not
hold the object. -/
theorem says_missing (hserves : api.Serves inventory) (hsafe : inventory.Safe)
    {resource : Resource} (hresource : resource.Safe) (hobject : resource.isObject = true)
    (h : resource ∉ inventory.objects) : api.SaysMissing resource.path := by
  refine hserves.missing _ (fun other hother hpath => h ?_) (fun hpath => ?_)
    fun space hspace hpath => ?_
  · rwa [← Resource.path_inj (hsafe other hother) hresource hpath]
  · have hbindings : Resource.secretBindings.Safe := fun _ hname => absurd hname List.not_mem_nil
    rw [← Resource.path_inj hbindings hresource hpath] at hobject
    cases hobject
  · have hshoots : (Resource.shoots space).Safe := List.forall_mem_singleton.2 hspace
    rw [← Resource.path_inj hshoots hresource hpath] at hobject
    cases hobject

/-- Cloud profiles are looked up alike. -/
theorem cloud_profile_result (hserves : api.Serves inventory) (hsafe : inventory.Safe)
    (hname : PathSafe name) :
    (api.lookup.cloudProfile name).result = (inventory.lookup.cloudProfile name).result := by
  have hresource : (Resource.cloudProfile name).Safe := List.forall_mem_singleton.2 hname
  refine Inventory.result_eq_found (fun profile hprofile hsought => ?_) fun hnone => ?_
  · have hsame : profile.resource = .cloudProfile name := by
      rw [CloudProfile.resource, of_decide_eq_true hsought]
    exact get_object_of_gives rfl hname.1 hresource (hsame ▸ hserves.cloudProfile profile hprofile)
  · refine get_object_of_missing rfl hname.1 hresource (hserves.says_missing hsafe hresource rfl ?_)
    simpa [Inventory.objects, CloudProfile.resource, SecretBinding.resource,
      Secret.resource, Shoot.resource] using hnone

/-- Secrets are looked up alike. -/
theorem secret_result (hserves : api.Serves inventory) (hsafe : inventory.Safe)
    (hresource : (Resource.secret space name).Safe) :
    (api.lookup.secret space name).result = (inventory.lookup.secret space name).result := by
  have hname : name ≠ "" := (hresource name (by simp [Resource.names])).1
  refine Inventory.result_eq_found (fun secret hsecret hsought => ?_) fun hnone => ?_
  · obtain ⟨hfound, hspace⟩ := of_decide_eq_true hsought
    have hsame : secret.resource = .secret space name := by
      rw [Secret.resource, hfound, hspace]
    exact get_object_of_gives rfl hname hresource (hsame ▸ hserves.secret secret hsecret)
  · refine get_object_of_missing rfl hname hresource (hserves.says_missing hsafe hresource rfl ?_)
    simpa [Inventory.objects, CloudProfile.resource, SecretBinding.resource,
      Secret.resource, Shoot.resource, and_comm] using hnone

/-- A secret binding that the API gives is looked up as the binding. -/
theorem secret_binding_of_gives {binding : SecretBinding}
    (hresource : (Resource.secretBinding space name).Safe)
    (hgives : api.Gives (Resource.secretBinding space name).path SecretBinding.schema binding) :
    (api.lookup.secretBinding space name).result = .ok binding := by
  have hname : name ≠ "" := (hresource name (by simp [Resource.names])).1
  obtain ⟨hstatus, fields, hbody, hdecode⟩ := hgives
  obtain ⟨object, hobject, hbinding⟩ :=
    any_object_of_binding (Json.normal_of_read hbody).1 hdecode
  have hcontent : ∀ missing : Missing,
      (api.getObject (spacePath corePath space ++ "/secretbindings") name .payload missing).result =
        .ok (.object fields) := fun missing =>
    get_object_of_gives rfl hname hresource ⟨hstatus, fields, hbody, rfl⟩
  simp only [lookup, Run.result_bind, hcontent, ok_bind, hobject, hbinding]

/-- Secret bindings are looked up alike. -/
theorem secret_binding_result (hserves : api.Serves inventory) (hsafe : inventory.Safe)
    (hresource : (Resource.secretBinding space name).Safe) :
    (api.lookup.secretBinding space name).result =
      (inventory.lookup.secretBinding space name).result := by
  have hname : name ≠ "" := (hresource name (by simp [Resource.names])).1
  refine Inventory.result_eq_found (fun binding hbinding hsought => ?_) fun hnone => ?_
  · obtain ⟨hfound, hspace⟩ := of_decide_eq_true hsought
    have hsame : binding.resource = .secretBinding space name := by
      rw [SecretBinding.resource, hfound, hspace]
      rfl
    exact secret_binding_of_gives hresource (hsame ▸ hserves.secretBinding binding hbinding)
  · have hmissing : ∀ missing : Missing,
        (api.getObject (spacePath corePath space ++ "/secretbindings") name .payload missing).result =
          .error (.notFound missing) := fun missing => by
      refine get_object_of_missing rfl hname hresource
        (hserves.says_missing hsafe hresource rfl fun hmem => ?_)
      obtain ⟨binding, hbinding, hspace, hsame⟩ : ∃ binding ∈ inventory.secretBindings,
          binding.metadata.anySpace = space ∧ binding.metadata.name.getD "" = name := by
        simpa [Inventory.objects, CloudProfile.resource, SecretBinding.resource,
          Secret.resource, Shoot.resource] using hmem
      -- The name is not empty, so the binding has it, and does not just lack one.
      cases hstated : binding.metadata.name with
      | none =>
          rw [hstated] at hsame
          exact hname hsame.symm
      | some stated =>
          rw [hstated] at hsame
          exact of_decide_eq_false (hnone binding hbinding)
            ⟨hstated.trans (congrArg some hsame), hspace⟩
    simp only [lookup, Run.result_bind, hmissing, error_bind]

/-- The secret bindings are listed alike. -/
theorem secret_bindings_result (hserves : api.Serves inventory) :
    api.lookup.secretBindings.result = .ok inventory.secretBindings := by
  have hresource : Resource.secretBindings.Safe := fun _ hname => absurd hname List.not_mem_nil
  obtain ⟨_, items, hitems, hnormal, hvalues⟩ :=
    get_list_of_gives hresource hserves.secretBindings
  obtain ⟨objects, hobjects, hbindings⟩ := any_objects_of_bindings hnormal hvalues
  have hlist : (api.getList (corePath ++ "/secretbindings") .payload).result = .ok items := hitems
  simp only [lookup, Run.result_bind, hlist, ok_bind, Run.result_forEach, hobjects, hbindings]

/-- The shoots of a namespace of the inventory are listed alike. -/
theorem shoots_result (hserves : api.Serves inventory) (hsafe : inventory.Safe)
    (hspace : space ∈ inventory.spaces) :
    (api.lookup.shoots space).result = (inventory.lookup.shoots space).result := by
  have hresource : (Resource.shoots space).Safe :=
    List.forall_mem_singleton.2 (safe_of_mem_spaces hsafe hspace)
  exact (get_list_of_gives hresource (hserves.shoots space hspace)).1

end Api.Serves

end ShootMachines
