import ShootMachines.Proofs.Admission.EachItemLemmas

/-!
# Names of listed items

Where items are listed by name, an item without a name is reported, and so is one that has the name of an
item before it. `NameViolation` says what is wrong with a list of names, and `name_violation_free_iff` what
a list is like in which nothing is.
-/

namespace ShootMachines

/-- What is wrong with the names of listed items: an item has none, or that of an item before it. A missing
name is reported with a text of its own. -/
inductive NameViolation (unnamed : String) (names : List String) (path : FieldPath) : FieldError → Prop
  | missing {position : Nat} (h : names[position]? = some "") :
      NameViolation unnamed names path (.required ((path.index position).child "name") unnamed)
  | repeated {position number : Nat} {name : String} (h : names[position]? = some name)
      (hname : name ≠ "") (hnumber : number < position) (hsame : names[number]? = some name) :
      NameViolation unnamed names path (.duplicate ((path.index position).child "name") name)

variable {α : Type} {name : α → String} {items : List α} {unnamed : String} {path : FieldPath}

/-- The name at a position is that of the item there. -/
theorem getElem?_map_name {position : Nat} {sought : String} :
    (items.map name)[position]? = some sought ↔
      ∃ item, items[position]? = some item ∧ name item = sought := by
  rw [List.getElem?_map, Option.map_eq_some_iff]

/-- Some item before a position has a name exactly if the name stands at a lesser position. -/
theorem any_take_iff {position : Nat} {sought : String} :
    ((items.take position).any fun item => name item = sought) = true ↔
      ∃ number < position, (items.map name)[number]? = some sought := by
  simp only [List.any_eq_true, mem_take_iff, decide_eq_true_eq, getElem?_map_name]
  constructor
  · rintro ⟨item, ⟨number, hnumber, hitem⟩, hname⟩
    exact ⟨number, hnumber, item, hitem, hname⟩
  · rintro ⟨number, hnumber, item, hitem, hname⟩
    exact ⟨item, ⟨number, hnumber, hitem⟩, hname⟩

/-- Nothing is wrong with the names of listed items exactly if all are stated and no two are the same. -/
theorem name_violation_free_iff :
    (∀ error, ¬NameViolation unnamed (items.map name) path error) ↔
      (∀ item ∈ items, name item ≠ "") ∧ (items.map name).Nodup := by
  constructor
  · intro h
    have hstated : ∀ item ∈ items, name item ≠ "" := by
      intro item hitem hempty
      obtain ⟨position, hposition⟩ := List.getElem?_of_mem hitem
      exact h _ (.missing (getElem?_map_name.2 ⟨item, hposition, hempty⟩))
    refine ⟨hstated, nodup_map_iff.2 fun position item hposition earlier hearlier hsame => ?_⟩
    obtain ⟨number, hnumber, hother⟩ := mem_take_iff.1 hearlier
    exact h _ (.repeated (getElem?_map_name.2 ⟨item, hposition, rfl⟩)
      (hstated item (List.mem_of_getElem? hposition)) hnumber
      (getElem?_map_name.2 ⟨earlier, hother, hsame⟩))
  · rintro ⟨hstated, hnodup⟩ error herror
    cases herror with
    | missing h =>
        obtain ⟨item, hitem, hname⟩ := getElem?_map_name.1 h
        exact hstated item (List.mem_of_getElem? hitem) hname
    | repeated h _ hnumber hsame =>
        obtain ⟨item, hitem, rfl⟩ := getElem?_map_name.1 h
        obtain ⟨other, hother, hsame⟩ := getElem?_map_name.1 hsame
        exact nodup_map_iff.1 hnodup _ _ hitem _ (mem_take_iff.2 ⟨_, hnumber, hother⟩) hsame

end ShootMachines
