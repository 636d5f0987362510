import Mathlib.Data.List.Nodup
import ShootMachines.Admission.EachItem

/-!
# Laws of checks of lists

A check of a list is clean if it is clean at every position, and it is filtered and exchanged item by
item. The positions are those of the list, so an item is always checked after the items before it.
-/

namespace ShootMachines

variable {α : Type} {check other : List α → Nat → α → List FieldError} {items : List α}

/-- A violation is reported under a condition exactly if the condition holds. -/
@[simp]
theorem mem_error_if {condition : Bool} {error reported : FieldError} :
    error ∈ errorIf condition reported ↔ condition = true ∧ error = reported := by
  cases condition <;> simp

/-- A violation of something that may be missing is one of what is given. -/
theorem mem_elim {item : Option α} {check : α → List FieldError} {error : FieldError} :
    error ∈ item.elim [] check ↔ ∃ present, item = some present ∧ error ∈ check present := by
  cases item <;> simp

/-- A violation of a list is a violation of one of its items. -/
theorem mem_check_each {error : FieldError} :
    error ∈ checkEach check items ↔
      ∃ position item, items[position]? = some item ∧
        error ∈ check (items.take position) position item := by
  unfold checkEach
  rw [List.mem_flatMap]
  constructor
  · rintro ⟨⟨item, position⟩, hitem, herror⟩
    exact ⟨position, item, List.mem_zipIdx_iff_getElem?.1 hitem, herror⟩
  · rintro ⟨position, item, hitem, herror⟩
    exact ⟨(item, position), List.mem_zipIdx_iff_getElem?.2 hitem, herror⟩

/-- What stands before a position are the items at lesser positions. -/
theorem mem_take_iff {item : α} {position : Nat} :
    item ∈ items.take position ↔ ∃ number < position, items[number]? = some item := by
  rw [List.mem_iff_getElem?]
  constructor
  · rintro ⟨number, h⟩
    rw [List.getElem?_take] at h
    split at h
    · rename_i hnumber
      exact ⟨number, hnumber, h⟩
    · cases h
  · rintro ⟨number, hnumber, h⟩
    exact ⟨number, by rwa [List.getElem?_take, if_pos hnumber]⟩

/-- Items have different keys exactly if no item has the key of an item before it. -/
theorem nodup_map_iff {κ : Type} {key : α → κ} :
    (items.map key).Nodup ↔ ∀ position item, items[position]? = some item →
      ∀ earlier ∈ items.take position, key earlier ≠ key item := by
  constructor
  · intro hnodup position item hitem earlier hearlier hsame
    obtain ⟨number, hnumber, hother⟩ := mem_take_iff.1 hearlier
    have hposition : position < (items.map key).length := by
      rw [List.length_map]
      exact (List.getElem?_eq_some_iff.1 hitem).1
    refine List.nodup_iff_getElem?_ne_getElem?.1 hnodup number position hnumber hposition ?_
    rw [List.getElem?_map, List.getElem?_map, hother, hitem, Option.map_some, Option.map_some, hsame]
  · intro h
    refine List.nodup_iff_getElem?_ne_getElem?.2 fun number position hnumber hposition hsame => ?_
    rw [List.length_map] at hposition
    have hitem := List.getElem?_eq_getElem hposition
    rw [List.getElem?_map, List.getElem?_map, hitem] at hsame
    obtain ⟨other, hother, hsame⟩ := Option.map_eq_some_iff.1 hsame
    exact h position _ hitem other (mem_take_iff.2 ⟨number, hnumber, hother⟩) hsame

/-- An item after all others is checked after them. -/
theorem check_each_append_singleton (items : List α) (item : α) :
    checkEach check (items ++ [item]) = checkEach check items ++ check items items.length item := by
  have hbefore : ∀ entry ∈ items.zipIdx,
      check ((items ++ [item]).take entry.2) entry.2 entry.1 =
        check (items.take entry.2) entry.2 entry.1 := by
    intro entry hentry
    have hposition := (List.mem_zipIdx hentry).2.1
    rw [List.take_append_of_le_length (by omega)]
  unfold checkEach
  rw [List.zipIdx_append, List.flatMap_append, List.flatMap_congr hbefore]
  simp

/-- A list is clean if every item is. -/
theorem check_each_eq_nil_iff :
    checkEach check items = [] ↔
      ∀ position item, items[position]? = some item →
        check (items.take position) position item = [] := by
  rw [List.eq_nil_iff_forall_not_mem]
  constructor
  · intro hclean position item hitem
    refine List.eq_nil_iff_forall_not_mem.2 fun error herror => hclean error ?_
    exact mem_check_each.2 ⟨position, item, hitem, herror⟩
  · intro hclean error herror
    obtain ⟨position, item, hitem, herror⟩ := mem_check_each.1 herror
    rw [hclean position item hitem] at herror
    cases herror

/-- Checks that agree on every item agree on the list. -/
theorem check_each_congr
    (h : ∀ position item, items[position]? = some item →
      check (items.take position) position item = other (items.take position) position item) :
    checkEach check items = checkEach other items := by
  unfold checkEach
  refine List.flatMap_congr fun entry hentry => ?_
  obtain ⟨item, position⟩ := entry
  exact h position item (List.mem_zipIdx_iff_getElem?.1 hentry)

end ShootMachines
