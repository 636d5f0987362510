import Mathlib.Data.List.Dedup
import ShootMachines.Proofs.Document.WrittenDocuments
import ShootMachines.Proofs.Lookup.ServedInventory

/-!
# Tables of documents

An inventory is served by the table of its documents: every object at its path, and the lists of secret
bindings and of the shoots of each namespace (`Inventory.Documented.serves`). It is enough that no two objects
have one path and that each object reads back from its document.
-/

namespace ShootMachines

/-- The answer that gives a document. -/
def ApiAnswer.given (document : Payload) : ApiAnswer :=
  ⟨200, Json.write document⟩

/-- The table that has documents at the paths of resources. -/
def documentTable (documents : List (Resource × Payload)) : List (String × ApiAnswer) :=
  documents.map fun entry => (entry.1.path, .given entry.2)

/-- The document that lists items. -/
def listDocument (items : List Payload) : Payload :=
  .object [("items", .list items)]

namespace Inventory

/-- The documents of an inventory: every object at its path, the list of the secret bindings, and the lists
of the shoots of each namespace. -/
def documents (inventory : Inventory) : List (Resource × Payload) :=
  inventory.cloudProfiles.map (fun profile => (profile.resource, CloudProfile.schema.encode profile)) ++
  inventory.secretBindings.map (fun binding => (binding.resource, SecretBinding.schema.encode binding)) ++
  inventory.secrets.map (fun secret => (secret.resource, Secret.schema.encode secret)) ++
  inventory.shoots.map (fun shoot => (shoot.resource, Shoot.schema.encode shoot)) ++
  (.secretBindings, listDocument (inventory.secretBindings.map SecretBinding.schema.encode)) ::
    inventory.spaces.dedup.map fun space =>
      (.shoots space, listDocument ((inventory.shootsOf space).map Shoot.schema.encode))

/-- An inventory whose objects have paths of their own and read back from their documents. -/
structure Documented (inventory : Inventory) : Prop where
  safe : inventory.Safe
  distinct : inventory.objects.Nodup
  plain : ∀ entry ∈ inventory.documents, entry.2.isPlain 127 = true
  cloudProfile : ∀ profile ∈ inventory.cloudProfiles, CloudProfile.schema.legible profile = true
  secretBinding : ∀ binding ∈ inventory.secretBindings, SecretBinding.schema.legible binding = true
  secret : ∀ secret ∈ inventory.secrets, Secret.schema.legible secret = true
  shoot : ∀ shoot ∈ inventory.shoots, Shoot.schema.legible shoot = true

/-- The documents of an inventory stand at the paths of its objects and lists. -/
theorem resources_of_documents (inventory : Inventory) :
    inventory.documents.map Prod.fst =
      inventory.objects ++ .secretBindings :: inventory.spaces.dedup.map .shoots := by
  simp [documents, objects, Function.comp_def]

/-- The path of an object is none of a list. -/
theorem is_object_of_mem {inventory : Inventory} {resource : Resource}
    (h : resource ∈ inventory.objects) : resource.isObject = true := by
  simp only [objects, List.mem_append, List.mem_map] at h
  rcases h with ((⟨_, _, rfl⟩ | ⟨_, _, rfl⟩) | ⟨_, _, rfl⟩) | ⟨_, _, rfl⟩ <;> rfl

/-- The namespaces of objects with safe paths are safe. -/
theorem Safe.space {inventory : Inventory} (h : inventory.Safe) {space : String}
    (hspace : space ∈ inventory.spaces) : PathSafe space := by
  obtain ⟨resource, hresource, hsame⟩ := List.mem_filterMap.1 hspace
  have hsafe := h resource hresource
  cases resource <;> cases hsame <;> exact hsafe _ List.mem_cons_self

end Inventory

namespace Api

section Table

variable {documents : List (Resource × Payload)} {resource : Resource} {document : Payload}

/-- A table of documents with distinct paths gives the document of a path, if the document is read back. -/
theorem answer_of_mem (hdistinct : (documents.map fun entry => entry.1.path).Nodup)
    (hplain : ∀ entry ∈ documents, entry.2.isPlain 127 = true) (h : (resource, document) ∈ documents) :
    ((ofTable (documentTable documents)).answer resource.path).status = 200 ∧
      Json.read ((ofTable (documentTable documents)).answer resource.path).body = .ok document := by
  have hpaths : ((documentTable documents).map Prod.fst).Nodup := by
    simpa [documentTable, Function.comp_def] using hdistinct
  have hentry : (resource.path, ApiAnswer.given document) ∈ documentTable documents :=
    List.mem_map.2 ⟨_, h, rfl⟩
  have hfound : (documentTable documents).lookup resource.path = some (.given document) :=
    lookup_of_mem hpaths hentry
  have hanswer : (ofTable (documentTable documents)).answer resource.path = .given document :=
    congrArg (Option.getD · ApiAnswer.notFound) hfound
  rw [hanswer]
  exact ⟨rfl, Json.read_write (hplain _ h)⟩

/-- A table of documents says of every other path that nothing is there. -/
theorem says_missing_of_not_mem {path : String} (h : ∀ entry ∈ documents, entry.1.path ≠ path) :
    (ofTable (documentTable documents)).SaysMissing path := by
  have hnone : (documentTable documents).lookup path = none :=
    lookup_eq_none_of_not_mem (by simpa [documentTable] using h)
  have hanswer : (ofTable (documentTable documents)).answer path = .notFound :=
    congrArg (Option.getD · ApiAnswer.notFound) hnone
  have hread : Json.read ApiAnswer.notFound.body = .ok (.object [("code", .int 404),
      ("kind", .text "Status"), ("reason", .text "NotFound"), ("status", .text "Failure")]) :=
    Json.read_write (by decide)
  rw [SaysMissing, hanswer]
  exact ⟨by decide, _, ⟨some "Failure", 404, "", "NotFound"⟩, hread, rfl, rfl⟩

end Table

end Api

namespace Inventory.Documented

variable {inventory : Inventory} {resource : Resource}

/-- The paths of the documents of an inventory are safe. -/
theorem safe_of_mem (h : inventory.Documented) (hmem : resource ∈ inventory.documents.map Prod.fst) :
    resource.Safe := by
  rw [resources_of_documents, List.mem_append, List.mem_cons, List.mem_map] at hmem
  rcases hmem with hobject | rfl | ⟨space, hspace, rfl⟩
  · exact h.safe resource hobject
  · exact fun name hname => absurd hname List.not_mem_nil
  · exact List.forall_mem_singleton.2 (h.safe.space (List.mem_dedup.1 hspace))

/-- The paths of the documents of an inventory are distinct. -/
theorem paths_nodup (h : inventory.Documented) :
    (inventory.documents.map fun entry => entry.1.path).Nodup := by
  have hlists : (Resource.secretBindings :: inventory.spaces.dedup.map Resource.shoots).Nodup := by
    rw [List.nodup_cons]
    exact ⟨by simp, (List.nodup_dedup _).map fun _ _ => Resource.shoots.inj⟩
  have hresources : (inventory.documents.map Prod.fst).Nodup := by
    rw [resources_of_documents]
    refine h.distinct.append hlists fun resource hobject hlist => ?_
    have hresource := is_object_of_mem hobject
    rcases List.mem_cons.1 hlist with rfl | hlist
    · cases hresource
    · obtain ⟨space, _, rfl⟩ := List.mem_map.1 hlist
      cases hresource
  have hpaths := hresources.map_on (f := Resource.path) fun resource hresource other hother =>
    Resource.path_inj (h.safe_of_mem hresource) (h.safe_of_mem hother)
  rwa [List.map_map] at hpaths

section Serving

variable {α : Type} {schema : Schema α}

/-- The table of the documents gives an object at its path. -/
theorem gives (h : inventory.Documented) {value : α}
    (hmem : (resource, schema.encode value) ∈ inventory.documents)
    (hobject : ∃ fields, schema.encode value = .object fields) (hfaithful : schema.faithful = true)
    (hlegible : schema.legible value = true) :
    (Api.ofTable (documentTable inventory.documents)).Gives resource.path schema value := by
  obtain ⟨hstatus, hread⟩ := Api.answer_of_mem h.paths_nodup h.plain hmem
  obtain ⟨fields, hfields⟩ := hobject
  have hdecode : schema.decode (schema.encode value) = .ok value :=
    schema.read_encode hfaithful value hlegible
  rw [hfields] at hread hdecode
  exact ⟨by rw [hstatus]; decide, fields, hread, hdecode⟩

/-- The table of the documents gives a list at its path. -/
theorem gives_list (h : inventory.Documented) {values : List α}
    (hmem : (resource, listDocument (values.map schema.encode)) ∈ inventory.documents)
    (hobject : ∀ value, ∃ fields, schema.encode value = .object fields)
    (hfaithful : schema.faithful = true) (hlegible : ∀ value ∈ values, schema.legible value = true) :
    (Api.ofTable (documentTable inventory.documents)).GivesList resource.path schema values := by
  obtain ⟨hstatus, hread⟩ := Api.answer_of_mem h.paths_nodup h.plain hmem
  have hpayloads : (values.map schema.encode).mapM (Schema.payload.read Payload.source) =
      .ok (values.map schema.encode) :=
    map_m_eq_ok_iff.2 (List.forall₂_same.2 fun _ _ => rfl)
  have hlist : (Schema.list .payload).read Payload.source (.list (values.map schema.encode)) =
      .ok (values.map schema.encode) := hpayloads
  have hfield : Fields.readField .object "items" .required (.optional (.list .payload))
      (some (.list (values.map schema.encode))) = .ok (some (values.map schema.encode)) := by
    rw [Fields.readField, if_neg (by simp), Schema.read_optional, hlist]
    rfl
  have hdecode : (Api.listSchema .payload).decode (listDocument (values.map schema.encode)) =
      .ok (⟨none, none, none, none⟩, some (values.map schema.encode), ()) := by
    unfold listDocument
    rw [Api.decode_list_eq _ (by simp), lookup_entry, lookup_entry, if_neg (by decide), if_pos rfl,
      hfield]
    rfl
  refine ⟨by rw [hstatus]; decide, _, _, _, hread, hdecode, ?_⟩
  rw [Option.getD_some, List.forall₂_map_left_iff, List.forall₂_same]
  exact fun value hvalue => ⟨hobject value, schema.read_encode hfaithful value (hlegible value hvalue)⟩

end Serving

/-- The table of the documents of an inventory serves it. -/
theorem serves (h : inventory.Documented) :
    (Api.ofTable (documentTable inventory.documents)).Serves inventory := by
  refine ⟨fun profile hprofile => ?_, fun binding hmem => ?_, fun secret hsecret => ?_,
    fun shoot hmem => ?_, ?_, fun space hspace => ?_, fun path hobjects hbindings hshoots => ?_⟩
  · refine h.gives ?_ (Schema.encode_resource rfl profile) (by decide) (h.cloudProfile profile hprofile)
    simp only [documents, List.mem_append, List.mem_map]
    exact .inl (.inl (.inl (.inl ⟨profile, hprofile, rfl⟩)))
  · refine h.gives ?_ (Schema.encode_record rfl binding) (by decide) (h.secretBinding binding hmem)
    simp only [documents, List.mem_append, List.mem_map]
    exact .inl (.inl (.inl (.inr ⟨binding, hmem, rfl⟩)))
  · refine h.gives ?_ (Schema.encode_resource rfl secret) (by decide) (h.secret secret hsecret)
    simp only [documents, List.mem_append, List.mem_map]
    exact .inl (.inl (.inr ⟨secret, hsecret, rfl⟩))
  · refine h.gives ?_ (Schema.encode_resource rfl shoot) (by decide) (h.shoot shoot hmem)
    simp only [documents, List.mem_append, List.mem_map]
    exact .inl (.inr ⟨shoot, hmem, rfl⟩)
  · refine h.gives_list ?_ (Schema.encode_record rfl) (by decide) h.secretBinding
    simp only [documents, List.mem_append]
    exact .inr List.mem_cons_self
  · refine h.gives_list ?_ (Schema.encode_resource rfl) (by decide) fun shoot hmem =>
      h.shoot shoot (List.mem_filter.1 hmem).1
    simp only [documents, List.mem_append]
    exact .inr (List.mem_cons_of_mem _ (List.mem_map.2 ⟨space, List.mem_dedup.2 hspace, rfl⟩))
  · refine Api.says_missing_of_not_mem fun entry hentry => ?_
    have hresource := List.mem_map_of_mem (f := Prod.fst) hentry
    rw [resources_of_documents, List.mem_append, List.mem_cons, List.mem_map] at hresource
    rcases hresource with hobject | hlist | ⟨space, hspace, hlist⟩
    · exact hobjects _ hobject
    · exact hlist ▸ hbindings
    · exact hlist ▸ hshoots space (h.safe.space (List.mem_dedup.1 hspace))

end Inventory.Documented

end ShootMachines
