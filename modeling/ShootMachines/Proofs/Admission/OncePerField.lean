import Mathlib.Data.List.Nodup
import ShootMachines.Proofs.Admission.RelativeChecks

/-!
# Fields that are reported once

A check reports a field once if no two of its violations have the same path (`OncePerField`). What is
reported of fields that lie apart never meets, so a check of an object reports every field once if those of
its fields do (`ReportsOnce.fields`), and a check of a list if those of its items do (`ReportsOnce.items`).
-/

namespace ShootMachines

/-- Neither of two fields lies on the way to the other. -/
def FieldPath.Apart (field other : FieldPath) : Prop :=
  ¬ field.steps <+: other.steps ∧ ¬ other.steps <+: field.steps

/-- No field has two violations. -/
def OncePerField (errors : List FieldError) : Prop :=
  (errors.map FieldError.path).Nodup

namespace OncePerField

/-- Where nothing is reported, no field is reported twice. -/
theorem nil : OncePerField [] := List.nodup_nil

/-- A single violation is reported once. -/
theorem single (error : FieldError) : OncePerField [error] := List.nodup_singleton _

/-- Some of the violations are reported once if all are. -/
theorem filter {errors : List FieldError} (h : OncePerField errors) (keep : FieldError → Bool) :
    OncePerField (errors.filter keep) :=
  h.sublist (List.filter_sublist.map FieldError.path)

/-- A single field has one violation at most. -/
theorem length_le_one {errors : List FieldError} (h : OncePerField errors) {field : FieldPath}
    (hfield : ∀ error ∈ errors, error.path = field) : errors.length ≤ 1 := by
  have hpaths : errors.map FieldError.path = List.replicate errors.length field := by
    rw [List.eq_replicate_iff, List.length_map, List.forall_mem_map]
    exact ⟨rfl, hfield⟩
  unfold OncePerField at h
  rw [hpaths] at h
  exact List.nodup_replicate.1 h

/-- Violations of parts that lie apart are reported once if those of each part are. -/
theorem flat_map {α : Type} {check : α → List FieldError} {parts : List α} (field : α → FieldPath)
    (hparts : parts.Pairwise fun part other => (field part).Apart (field other))
    (hwithin : ∀ part ∈ parts, ∀ error ∈ check part, error.path.isWithin (field part) = true)
    (honce : ∀ part ∈ parts, OncePerField (check part)) : OncePerField (parts.flatMap check) := by
  unfold OncePerField
  rw [List.map_flatMap, List.nodup_flatMap]
  refine ⟨honce, hparts.imp_of_mem fun {part other} hpart hother hapart path hpath hsame => ?_⟩
  obtain ⟨error, herror, rfl⟩ := List.mem_map.1 hpath
  obtain ⟨twin, htwin, htwinPath⟩ := List.mem_map.1 hsame
  have hwithinOther := hwithin other hother twin htwin
  rw [htwinPath] at hwithinOther
  rcases FieldPath.prefix_of_is_within (hwithin part hpart error herror) hwithinOther with h | h
  · exact hapart.1 h
  · exact hapart.2 h

end OncePerField

/-- A check is relative to its field and reports no field within it twice. -/
structure ReportsOnce (check : FieldPath → List FieldError) : Prop where
  relative : Relative check
  once : ∀ field, OncePerField (check field)

namespace ReportsOnce

variable {check other : FieldPath → List FieldError}

/-- A check that reports nothing reports nothing twice. -/
theorem nil : ReportsOnce fun _ => [] :=
  ⟨.nil, fun _ => .nil⟩

/-- A single violation of the field itself is reported once. -/
theorem single (kind : FieldErrorKind) (value : Option String) (detail : String) :
    ReportsOnce fun path => [⟨kind, path, value, detail⟩] :=
  ⟨.single kind value detail, fun _ => .single _⟩

/-- A violation of the field itself is reported once, if at all. -/
theorem error_if (condition : Bool) (kind : FieldErrorKind) (value : Option String)
    (detail : String) : ReportsOnce fun path => errorIf condition ⟨kind, path, value, detail⟩ := by
  cases condition with
  | false => exact nil
  | true => exact single kind value detail

/-- A check that reports once either way reports once. -/
theorem ite (condition : Prop) [Decidable condition] (h : ReportsOnce check)
    (hother : ReportsOnce other) :
    ReportsOnce fun path => if condition then check path else other path := by
  refine ⟨.ite condition h.relative hother.relative, fun field => ?_⟩
  split
  · exact h.once field
  · exact hother.once field

/-- The check of something that may be missing reports once if it does where that is given. -/
theorem elim {α : Type} {check : α → FieldPath → List FieldError} (h : ∀ item, ReportsOnce (check item))
    (item : Option α) : ReportsOnce fun path => item.elim [] fun present => check present path := by
  cases item with
  | none => exact nil
  | some present => exact h present

/-- A check that reports once does so within a field of its object. -/
theorem child (h : ReportsOnce check) (name : String) :
    ReportsOnce fun path => check (path.child name) :=
  ⟨h.relative.child name, fun field => h.once (field.child name)⟩

/-- The check of an object reports once if the checks of its fields do. -/
theorem fields {checks : List (String × (FieldPath → List FieldError))}
    (hnames : (checks.map Prod.fst).Nodup) (h : ∀ entry ∈ checks, ReportsOnce entry.2) :
    ReportsOnce fun path => checks.flatMap fun entry => entry.2 (path.child entry.1) := by
  refine ⟨.fields fun entry hentry => (h entry hentry).relative, fun field => ?_⟩
  refine .flat_map (fun entry => field.child entry.1) ?_ ?_ ?_
  · refine (List.pairwise_map.1 hnames).imp fun hname => ?_
    exact ⟨FieldPath.child_not_prefix hname, FieldPath.child_not_prefix hname.symm⟩
  · exact fun entry hentry error herror => (h entry hentry).relative.is_within herror
  · exact fun entry hentry => (h entry hentry).once _

/-- The check of a list reports once if those of its items do. -/
theorem items {α : Type} {check : List α → Nat → α → FieldPath → List FieldError} (items : List α)
    (h : ∀ earlier position item, ReportsOnce (check earlier position item)) :
    ReportsOnce fun path =>
      checkEach (fun earlier position item => check earlier position item (path.index position))
        items := by
  refine ⟨.check_each items fun earlier position item => (h earlier position item).relative.index _,
    fun field => ?_⟩
  refine .flat_map (fun entry => field.index entry.2) ?_ ?_ ?_
  · have hpositions : (items.zipIdx.map Prod.snd).Nodup := by
      rw [List.zipIdx_map_snd]
      exact List.nodup_range'
    refine (List.pairwise_map.1 hpositions).imp fun hposition => ?_
    exact ⟨FieldPath.index_not_prefix hposition, FieldPath.index_not_prefix hposition.symm⟩
  · exact fun entry _ error herror => (h _ entry.2 entry.1).relative.is_within herror
  · exact fun entry _ => (h _ entry.2 entry.1).once _

end ReportsOnce

end ShootMachines
