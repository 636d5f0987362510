import Mathlib.Data.List.Pairwise
import ShootMachines.Failure
import ShootMachines.Proofs.Yaml.NormalDocuments

/-!
# Positions and deletion

A walk through a document visits the keys of an object in ascending order and the items of a list in
theirs. `DocumentPath.Before` is the order in which it comes to positions that lie apart. Fields are
deleted by their positions, which leaves the other positions as they are.
-/

namespace ShootMachines

/-- Keys precede each other as texts, items by their places. -/
def DocumentStep.Precedes : DocumentStep → DocumentStep → Prop
  | .key first, .key second => first < second
  | .item first, .item second => first < second
  | _, _ => False

/-- No step precedes itself. -/
theorem DocumentStep.not_precedes_self (step : DocumentStep) : ¬step.Precedes step := by
  cases step with
  | key name => exact String.lt_irrefl name
  | item position => exact Nat.lt_irrefl position

namespace DocumentPath

/-- A walk comes to the first position before the second one, and neither lies within the other: where
they part, the step of the first precedes that of the second. -/
inductive Before : DocumentPath → DocumentPath → Prop where
  | parted {first second : DocumentStep} (below other : DocumentPath) :
      first.Precedes second → Before (first :: below) (second :: other)
  | within (step : DocumentStep) {first second : DocumentPath} :
      Before first second → Before (step :: first) (step :: second)

/-- Neither of two positions lies within the other. -/
def Apart (first second : DocumentPath) : Prop :=
  ¬first <+: second ∧ ¬second <+: first

instance : Std.Symm Apart := ⟨fun _ _ h => h.symm⟩

/-- Positions of which one comes before the other lie apart. -/
theorem Before.apart {first second : DocumentPath} (h : Before first second) :
    Apart first second := by
  unfold Apart
  induction h with
  | @parted step other _ _ hstep =>
      have hne : step ≠ other := by
        rintro rfl
        exact step.not_precedes_self hstep
      simp [List.cons_prefix_cons, hne, hne.symm]
  | within step _ ih => simpa [List.cons_prefix_cons] using ih

/-- Positions in the order of a walk are distinct. -/
theorem nodup_of_before {paths : List DocumentPath} (h : paths.Pairwise Before) : paths.Nodup := by
  refine List.Pairwise.imp ?_ h
  rintro first second hbefore rfl
  exact hbefore.apart.1 (List.prefix_refl first)

/-- Of positions in the order of a walk, none lies within another. -/
theorem eq_of_prefix_of_before {paths : List DocumentPath} (h : paths.Pairwise Before)
    {first second : DocumentPath} (hfirst : first ∈ paths) (hsecond : second ∈ paths)
    (hbegins : first <+: second) : first = second := by
  by_contra hne
  have happart : Apart first second := (h.imp Before.apart).forall hfirst hsecond hne
  exact happart.1 hbegins

/-- The positions within a step, from there on. -/
def below (step : DocumentStep) (paths : List DocumentPath) : List DocumentPath :=
  paths.filterMap fun
    | first :: rest => if first = step then some rest else none
    | [] => none

/-- A position is below a step if it is one of the positions after that step. -/
@[simp]
theorem mem_below {step : DocumentStep} {paths : List DocumentPath} {path : DocumentPath} :
    path ∈ below step paths ↔ step :: path ∈ paths := by
  rw [below, List.mem_filterMap]
  constructor
  · rintro ⟨_ | ⟨first, rest⟩, hmem, hrest⟩
    · cases hrest
    · by_cases hsame : first = step
      · obtain rfl := Option.some.inj ((if_pos hsame).symm.trans hrest)
        exact hsame ▸ hmem
      · cases (if_neg hsame).symm.trans hrest
  · intro hmem
    exact ⟨step :: path, hmem, if_pos rfl⟩

/-- Leaving out positions below a step is leaving them out in full. -/
theorem filter_map_step (step : DocumentStep) (paths found : List DocumentPath) :
    (found.map (step :: ·)).filter (fun path => path ∉ paths) =
      (found.filter fun path => path ∉ below step paths).map (step :: ·) := by
  rw [List.filter_map]
  simp only [Function.comp_def, mem_below]

end DocumentPath

namespace Payload

/-- The value at a position. -/
def at? : DocumentPath → Payload → Option Payload
  | [], payload => some payload
  | .key key :: rest, .object fields => (fields.lookup key).bind (at? rest)
  | .item position :: rest, .list items => items[position]?.bind (at? rest)
  | _ :: _, _ => none

mutual

/-- The document without the fields at some positions. -/
def deleting (paths : List DocumentPath) : Payload → Payload
  | .list items => .list (deletingItems paths items 0)
  | .object fields => .object (deletingFields paths fields)
  | other => other

/-- The fields of an object without those at some positions. -/
def deletingFields (paths : List DocumentPath) :
    List (String × Payload) → List (String × Payload)
  | [] => []
  | (key, value) :: rest =>
      if [.key key] ∈ paths then deletingFields paths rest
      else (key, value.deleting (DocumentPath.below (.key key) paths)) :: deletingFields paths rest

/-- The items of a list, from an index on, without the fields at some positions. -/
def deletingItems (paths : List DocumentPath) : List Payload → (index : Nat) → List Payload
  | [], _ => []
  | item :: rest, index =>
      item.deleting (DocumentPath.below (.item index) paths) ::
        deletingItems paths rest (index + 1)

end

/-- Deletion leaves nulls null, and nothing else. -/
@[simp]
theorem is_null_deleting (paths : List DocumentPath) (payload : Payload) :
    (payload.deleting paths).isNull = payload.isNull := by
  cases payload <;> rfl

mutual

/-- Deleting nothing leaves a document as it is. -/
@[simp]
theorem deleting_nil : (payload : Payload) → payload.deleting [] = payload
  | .null => rfl
  | .flag _ => rfl
  | .number _ => rfl
  | .text _ => rfl
  | .list items => congrArg Payload.list (deleting_items_nil items 0)
  | .object fields => congrArg Payload.object (deleting_fields_nil fields)

/-- Deleting nothing leaves fields as they are. -/
theorem deleting_fields_nil : (fields : List (String × Payload)) → deletingFields [] fields = fields
  | [] => rfl
  | (key, value) :: rest => by
      rw [deletingFields, if_neg List.not_mem_nil, deleting_fields_nil rest]
      exact congrArg (fun value => (key, value) :: rest) (deleting_nil value)

/-- Deleting nothing leaves items as they are. -/
theorem deleting_items_nil : (items : List Payload) → (index : Nat) →
    deletingItems [] items index = items
  | [], _ => rfl
  | item :: rest, index => by
      rw [deletingItems, deleting_items_nil rest]
      exact congrArg (· :: rest) (deleting_nil item)

end

/-- Items in which no position lies are left as they are. -/
theorem deleting_items_of_outside {paths : List DocumentPath}
    (h : ∀ (index : Nat) (rest : DocumentPath), .item index :: rest ∉ paths)
    (items : List Payload) (index : Nat) : deletingItems paths items index = items := by
  induction items generalizing index with
  | nil => rfl
  | cons item rest ih =>
      have hbelow : DocumentPath.below (.item index) paths = [] := by
        refine List.eq_nil_iff_forall_not_mem.2 fun path hpath => ?_
        exact h index path (DocumentPath.mem_below.1 hpath)
      rw [deletingItems, hbelow, deleting_nil, ih]

/-- A field is found after a deletion as it was, unless it is deleted itself. -/
theorem lookup_deleting (paths : List DocumentPath) (fields : List (String × Payload))
    (key : String) :
    (deletingFields paths fields).lookup key =
      if [.key key] ∈ paths then none
      else (fields.lookup key).map (deleting (DocumentPath.below (.key key) paths)) := by
  induction fields with
  | nil => simp [deletingFields]
  | cons field rest ih =>
      obtain ⟨other, value⟩ := field
      rw [deletingFields]
      by_cases hsame : key = other
      · subst hsame
        by_cases hdeleted : [.key key] ∈ paths
        · simp [hdeleted, ih]
        · simp [hdeleted]
      · by_cases hdeleted : [.key other] ∈ paths
        · simp [hdeleted, ih, lookup_entry, hsame]
        · simp [hdeleted, ih, lookup_entry, hsame]

/-- A field in which no position lies is left as it is. -/
theorem get?_deleting {paths : List DocumentPath} {key : String}
    (h : ∀ rest, .key key :: rest ∉ paths) (payload : Payload) :
    (payload.deleting paths).get? key = payload.get? key := by
  cases payload with
  | object fields =>
      have hbelow : DocumentPath.below (.key key) paths = [] := by
        refine List.eq_nil_iff_forall_not_mem.2 fun path hpath => ?_
        exact h path (DocumentPath.mem_below.1 hpath)
      have hsame : deleting [] = id := funext deleting_nil
      rw [deleting, get?, lookup_deleting, if_neg (h []), hbelow, hsame, Option.map_id_fun]
      rfl
  | _ => rfl

/-- The keys that are left after a deletion are in their order. -/
theorem keys_deleting_sublist (paths : List DocumentPath) (fields : List (String × Payload)) :
    ((deletingFields paths fields).map Prod.fst).Sublist (fields.map Prod.fst) := by
  induction fields with
  | nil => exact .refl _
  | cons field rest ih =>
      obtain ⟨key, value⟩ := field
      rw [deletingFields]
      split
      · exact ih.cons key
      · exact ih.cons_cons key

mutual

/-- Deletion keeps a document normal. -/
theorem Normal.deleting : {payload : Payload} → payload.Normal → (paths : List DocumentPath) →
    (payload.deleting paths).Normal
  | .null, _, _ => trivial
  | .flag _, _, _ => trivial
  | .number _, _, _ => trivial
  | .text _, _, _ => trivial
  | .list _, h, paths => normal_items_deleting h paths 0
  | .object fields, h, paths =>
      ⟨h.1.sublist (keys_deleting_sublist paths fields), normal_fields_deleting h.2 paths⟩

/-- Deletion keeps fields normal. -/
theorem normal_fields_deleting : {fields : List (String × Payload)} → NormalFields fields →
    (paths : List DocumentPath) → NormalFields (deletingFields paths fields)
  | [], _, _ => trivial
  | (key, value) :: rest, h, paths => by
      rw [deletingFields]
      split
      · exact normal_fields_deleting h.2 paths
      · exact ⟨h.1.deleting _, normal_fields_deleting h.2 paths⟩

/-- Deletion keeps items normal. -/
theorem normal_items_deleting : {items : List Payload} → NormalItems items →
    (paths : List DocumentPath) → (index : Nat) → NormalItems (deletingItems paths items index)
  | [], _, _, _ => trivial
  | _ :: _, h, paths, index => ⟨h.1.deleting _, normal_items_deleting h.2 paths (index + 1)⟩

end

/-- What stands at a position once some fields are left out stood there before, and the position does not
start with a key of theirs. -/
theorem at?_of_without {payload : Payload} {keys : List String} {path : DocumentPath}
    (hpath : path ≠ []) (h : ((payload.without keys).at? path).isSome = true) :
    (payload.at? path).isSome = true ∧ ∀ key ∈ keys, ∀ rest, path ≠ .key key :: rest := by
  cases payload with
  | object fields =>
      cases path with
      | nil => exact absurd rfl hpath
      | cons step rest =>
          cases step with
          | item position => cases h
          | key key =>
              rw [without, at?, lookup_filter_keys] at h
              by_cases hkey : key ∈ keys
              · rw [if_pos hkey] at h
                cases h
              · rw [if_neg hkey] at h
                refine ⟨h, ?_⟩
                rintro other hother below heq
                obtain ⟨hsame, rfl⟩ := List.cons.inj heq
                obtain rfl := DocumentStep.key.inj hsame
                exact hkey hother
  | list items =>
      refine ⟨h, ?_⟩
      rintro key _ rest rfl
      cases h
  | _ =>
      cases path with
      | nil => exact absurd rfl hpath
      | cons step rest => cases step <;> cases h

/-- Leaving out fields by their keys and deleting others can be done in either order. -/
theorem without_deleting (payload : Payload) (paths : List DocumentPath) (keys : List String) :
    (payload.deleting paths).without keys = (payload.without keys).deleting paths := by
  cases payload with
  | object fields =>
      refine congrArg Payload.object ?_
      induction fields with
      | nil => rfl
      | cons field rest ih =>
          obtain ⟨key, value⟩ := field
          simp only [decide_not] at ih ⊢
          by_cases hdeleted : [.key key] ∈ paths <;> by_cases hkey : key ∈ keys <;>
            simp [deletingFields, hdeleted, hkey, ih]
  | _ => rfl

end Payload

end ShootMachines
