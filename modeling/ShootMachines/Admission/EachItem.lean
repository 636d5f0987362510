import ShootMachines.Admission.Field

/-!
# Checks of lists

A check of a list reports the violations of its items, in order. The check of an item may look at the
items before it, so that repetitions are reported where they occur the second time.
-/

namespace ShootMachines

/-- The violations of the items of a list. A check sees the items before its own, the position and
the item. -/
def checkEach (check : (earlier : List α) → (position : Nat) → α → List FieldError)
    (items : List α) : List FieldError :=
  items.zipIdx.flatMap fun (item, position) => check (items.take position) position item

/-- A violation if a condition holds. -/
def errorIf (condition : Bool) (error : FieldError) : List FieldError :=
  if condition then [error] else []

@[simp]
theorem errorIf_true (error : FieldError) : errorIf true error = [error] := rfl

@[simp]
theorem errorIf_false (error : FieldError) : errorIf false error = [] := rfl

/-- No violation is reported exactly if the condition does not hold. -/
@[simp]
theorem errorIf_eq_nil_iff {condition : Bool} {error : FieldError} :
    errorIf condition error = [] ↔ condition = false := by
  cases condition <;> simp

/-- An empty list has no violations. -/
@[simp]
theorem checkEach_nil (check : List α → Nat → α → List FieldError) : checkEach check [] = [] := rfl

end ShootMachines
