import ShootMachines.Admission.Shoot
import ShootMachines.Proofs.Admission.EachItemLemmas
import ShootMachines.Proofs.Results

/-!
# Where checks report

A check is told the field it looks at, and what it reports lies within that field. `Relative` says that
the field decides nothing but that: under another field, a check reports the same violations there
(`Relative.moved`), or none as well (`Relative.clean`). The violations of fields that lie apart can thus
be told by their paths, and `violations_within_check_each` finds those of one item of a list.
-/

namespace ShootMachines

namespace FieldPath

/-- The path with the same steps, taken below a field. -/
def below (path field : FieldPath) : FieldPath :=
  ⟨field.root, field.steps ++ path.steps⟩

/-- Whether a path leads to a field or to something within it. -/
def isWithin (path field : FieldPath) : Bool :=
  path.root = field.root && field.steps.isPrefixOf path.steps

/-- The path to the same place within another field. -/
def moved (path field other : FieldPath) : FieldPath :=
  ⟨other.root, other.steps ++ path.steps.drop field.steps.length⟩

variable {path field other : FieldPath}

@[simp]
theorem child_below (path field : FieldPath) (name : String) :
    (path.below field).child name = (path.child name).below field := by
  simp [below, child, push]

@[simp]
theorem index_below (path field : FieldPath) (position : Nat) :
    (path.below field).index position = (path.index position).below field := by
  simp [below, index, push]

@[simp]
theorem key_below (path field : FieldPath) (name : String) :
    (path.below field).key name = (path.key name).below field := by
  simp [below, key, push]

@[simp]
theorem below_nil (root : String) (field : FieldPath) : (⟨root, []⟩ : FieldPath).below field = field := by
  simp [below]

@[simp]
theorem is_within_below (path field : FieldPath) : (path.below field).isWithin field = true := by
  simp [isWithin, below]

@[simp]
theorem moved_below (path field other : FieldPath) :
    (path.below field).moved field other = path.below other := by
  simp [moved, below]

/-- A field of an object lies within the object. -/
@[simp]
theorem is_within_child (field : FieldPath) (name : String) :
    (field.child name).isWithin field = true := by
  simp [isWithin, child, push]

/-- An item of a list lies within the list. -/
@[simp]
theorem is_within_index (field : FieldPath) (position : Nat) :
    (field.index position).isWithin field = true := by
  simp [isWithin, index, push]

/-- What lies within a field lies within all that the field lies within. -/
theorem is_within_trans (h : path.isWithin field = true) (hfield : field.isWithin other = true) :
    path.isWithin other = true := by
  simp only [isWithin, Bool.and_eq_true, decide_eq_true_eq, List.isPrefixOf_iff_prefix] at h hfield ⊢
  exact ⟨h.1.trans hfield.1, hfield.2.trans h.2⟩

/-- Of two fields with a common place, one lies on the way to the other. -/
theorem prefix_of_is_within (h : path.isWithin field = true) (hother : path.isWithin other = true) :
    field.steps <+: other.steps ∨ other.steps <+: field.steps := by
  simp only [isWithin, Bool.and_eq_true, List.isPrefixOf_iff_prefix] at h hother
  exact List.prefix_or_prefix_of_prefix h.2 hother.2

/-- Different items of a list lie apart. -/
theorem index_not_prefix {position number : Nat} (h : position ≠ number) :
    ¬ (field.index position).steps <+: (field.index number).steps := by
  simp [index, push, List.prefix_append_right_inj, h]

/-- Different fields of an object lie apart. -/
theorem child_not_prefix {name sought : String} (h : name ≠ sought) :
    ¬ (field.child name).steps <+: (field.child sought).steps := by
  simp [child, push, List.prefix_append_right_inj, h]

end FieldPath

namespace FieldError

/-- The violation at the same place below a field. -/
def below (error : FieldError) (field : FieldPath) : FieldError :=
  { error with path := error.path.below field }

/-- The violation at the same place within another field. -/
def moved (error : FieldError) (field other : FieldPath) : FieldError :=
  { error with path := error.path.moved field other }

@[simp]
theorem moved_below (error : FieldError) (field other : FieldPath) :
    (error.below field).moved field other = error.below other := by
  simp [moved, below]

end FieldError

/-- The violations of a list that lie within a field. -/
def violationsWithin (field : FieldPath) (errors : List FieldError) : List FieldError :=
  errors.filter fun error => error.path.isWithin field

/-- The violations of two lists within a field are those of both. -/
theorem violations_within_append (field : FieldPath) (errors others : List FieldError) :
    violationsWithin field (errors ++ others) =
      violationsWithin field errors ++ violationsWithin field others :=
  List.filter_append _ _

/-- Violations within a field can be sought among those within a wider one. -/
theorem violations_within_of_wider {field wider : FieldPath} (h : field.isWithin wider = true)
    (errors : List FieldError) :
    violationsWithin field (violationsWithin wider errors) = violationsWithin field errors := by
  unfold violationsWithin
  rw [List.filter_filter]
  refine List.filter_congr fun error _ => ?_
  rw [Bool.and_eq_left_iff_imp]
  exact fun hwithin => FieldPath.is_within_trans hwithin h

/-- Where a wider field has no violations, a field has none. -/
theorem violations_within_eq_nil_of_wider {field wider : FieldPath} {errors : List FieldError}
    (h : field.isWithin wider = true) (hwider : violationsWithin wider errors = []) :
    violationsWithin field errors = [] := by
  rw [← violations_within_of_wider h, hwider]
  rfl

/-- A check is relative if it uses the field it is told only as the place of its violations. -/
def Relative (check : FieldPath → List FieldError) : Prop :=
  ∀ path field : FieldPath, check (path.below field) = (check path).map (·.below field)

namespace Relative

variable {check other : FieldPath → List FieldError}

/-- A relative check reports what it does under the path without steps, below its field. -/
theorem eq_map_below (h : Relative check) (field : FieldPath) :
    check field = (check ⟨"", []⟩).map (·.below field) := by
  rw [← h, FieldPath.below_nil]

/-- A relative check reports the same violations under every field. -/
theorem moved (h : Relative check) (field other : FieldPath) :
    (check field).map (·.moved field other) = check other := by
  rw [h.eq_map_below field, h.eq_map_below other, List.map_map]
  congr 1
  funext error
  exact error.moved_below field other

/-- A relative check that is clean under one field is clean under every field. -/
theorem clean (h : Relative check) {field : FieldPath} (hclean : check field = [])
    (other : FieldPath) : check other = [] := by
  rw [← h.moved field other, hclean]
  rfl

/-- What a relative check reports lies within its field. -/
theorem is_within (h : Relative check) {field : FieldPath} {error : FieldError}
    (herror : error ∈ check field) : error.path.isWithin field = true := by
  rw [h.eq_map_below field] at herror
  obtain ⟨error, _, rfl⟩ := List.mem_map.1 herror
  exact FieldPath.is_within_below _ _

/-- All violations of a relative check lie within its field. -/
theorem violations_within (h : Relative check) (field : FieldPath) :
    violationsWithin field (check field) = check field :=
  List.filter_eq_self.2 fun _ herror => h.is_within herror

/-- No violation of a relative check lies within a field apart from its own. -/
theorem violations_within_apart (h : Relative check) {field apart : FieldPath}
    (hfield : ¬ field.steps <+: apart.steps) (hapart : ¬ apart.steps <+: field.steps) :
    violationsWithin apart (check field) = [] := by
  refine List.filter_eq_nil_iff.2 fun error herror hwithin => ?_
  rcases FieldPath.prefix_of_is_within (h.is_within herror) hwithin with hprefix | hprefix
  · exact hfield hprefix
  · exact hapart hprefix

/-- What a relative check reports of a field lies within no other field of the object. -/
theorem violations_within_sibling (h : Relative check) {name sought : String} (hne : name ≠ sought)
    (field : FieldPath) : violationsWithin (field.child sought) (check (field.child name)) = [] :=
  h.violations_within_apart (FieldPath.child_not_prefix hne) (FieldPath.child_not_prefix hne.symm)

/-- A check that reports nothing is relative. -/
theorem nil : Relative fun _ => [] := fun _ _ => rfl

/-- Checks are relative together. -/
theorem append (h : Relative check) (hother : Relative other) :
    Relative fun path => check path ++ other path := by
  intro path field
  show check (path.below field) ++ other (path.below field) = _
  rw [h, hother, List.map_append]

/-- A relative check is relative within a field of its object. -/
theorem child (h : Relative check) (name : String) : Relative fun path => check (path.child name) := by
  intro path field
  show check ((path.below field).child name) = _
  rw [FieldPath.child_below, h]

/-- A relative check is relative for an item of its list. -/
theorem index (h : Relative check) (position : Nat) :
    Relative fun path => check (path.index position) := by
  intro path field
  show check ((path.below field).index position) = _
  rw [FieldPath.index_below, h]

/-- A relative check is relative for an entry of its map. -/
theorem key (h : Relative check) (name : String) : Relative fun path => check (path.key name) := by
  intro path field
  show check ((path.below field).key name) = _
  rw [FieldPath.key_below, h]

/-- A single violation of the field itself is relative. -/
theorem single (kind : FieldErrorKind) (value : Option String) (detail : String) :
    Relative fun path => [⟨kind, path, value, detail⟩] := fun _ _ => rfl

/-- A violation of the field itself is relative, whether or not its condition holds. -/
theorem error_if (condition : Bool) (kind : FieldErrorKind) (value : Option String)
    (detail : String) : Relative fun path => errorIf condition ⟨kind, path, value, detail⟩ := by
  cases condition with
  | false => exact nil
  | true => exact single kind value detail

/-- The check of something that may be missing is relative if it is where that is given. -/
theorem elim {α : Type} {check : α → FieldPath → List FieldError} (h : ∀ item, Relative (check item))
    (item : Option α) : Relative fun path => item.elim [] fun present => check present path := by
  cases item with
  | none => exact nil
  | some present => exact h present

/-- A check that is relative either way is relative. -/
theorem ite (condition : Prop) [Decidable condition] (h : Relative check) (hother : Relative other) :
    Relative fun path => if condition then check path else other path := by
  by_cases hcondition : condition
  · simp only [hcondition, if_true]
    exact h
  · simp only [hcondition, if_false]
    exact hother

/-- Checks of several things are relative together. -/
theorem flat_map {α : Type} {check : α → FieldPath → List FieldError} (items : List α)
    (h : ∀ item, Relative (check item)) :
    Relative fun path => items.flatMap fun item => check item path := by
  intro path field
  rw [List.map_flatMap]
  exact List.flatMap_congr fun item _ => h item path field

/-- The check of an object is relative if those of its fields are. -/
theorem fields {checks : List (String × (FieldPath → List FieldError))}
    (h : ∀ entry ∈ checks, Relative entry.2) :
    Relative fun path => checks.flatMap fun entry => entry.2 (path.child entry.1) := by
  induction checks with
  | nil => exact nil
  | cons entry rest ih =>
      obtain ⟨hentry, hrest⟩ := List.forall_mem_cons.1 h
      exact (hentry.child entry.1).append (ih hrest)

/-- The check of a list is relative if that of every item is. -/
theorem check_each {α : Type} {check : List α → Nat → α → FieldPath → List FieldError}
    (items : List α) (h : ∀ earlier position item, Relative (check earlier position item)) :
    Relative fun path =>
      checkEach (fun earlier position item => check earlier position item path) items :=
  flat_map items.zipIdx fun entry => h _ entry.2 entry.1

end Relative

/-- Of the violations of a list, those within an item are what the item is checked with. -/
theorem violations_within_check_each {α : Type} {check : α → FieldPath → List FieldError}
    (h : ∀ item, Relative (check item)) {items : List α} {number : Nat} {item : α}
    (hitem : items[number]? = some item) (field : FieldPath) :
    violationsWithin (field.index number)
        (checkEach (fun _ position item => check item (field.index position)) items) =
      check item (field.index number) := by
  obtain ⟨before, after, rfl, rfl⟩ := exists_append_of_getElem? hitem
  -- Items before and after the one at `number` report under other positions.
  have hapart : ∀ (others : List α) (start : Nat),
      before.length < start ∨ start + others.length ≤ before.length →
      violationsWithin (field.index before.length)
        ((others.zipIdx start).flatMap fun entry => check entry.1 (field.index entry.2)) = [] := by
    intro others start hstart
    unfold violationsWithin
    rw [List.filter_flatMap, List.flatMap_eq_nil_iff]
    rintro ⟨other, position⟩ hentry
    obtain ⟨hle, hlt, _⟩ := List.mem_zipIdx hentry
    have hposition : position ≠ before.length := by omega
    exact (h other).violations_within_apart (FieldPath.index_not_prefix hposition)
      (FieldPath.index_not_prefix hposition.symm)
  show violationsWithin _ ((before ++ item :: after).zipIdx.flatMap fun entry =>
    check entry.1 (field.index entry.2)) = _
  rw [List.zipIdx_append, List.zipIdx_cons, List.flatMap_append, List.flatMap_cons,
    violations_within_append, violations_within_append, hapart before 0 (by omega),
    hapart after _ (by omega), Nat.zero_add, (h item).violations_within, List.nil_append,
    List.append_nil]

end ShootMachines
