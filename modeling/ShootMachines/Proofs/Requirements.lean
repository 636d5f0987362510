import ShootMachines.Failure
import ShootMachines.Proofs.Results

/-!
# Requirements of runs

What a run needs is a list of requirements, in the order in which the run comes upon them. A run settles
its requirements (`Settles`) if it succeeds exactly when all of them are met and otherwise fails with the
failure of the first one that is not. Runs that settle their requirements compose like the lists:
`Settles.bind` for two steps, `Settles.map_m` for a step that is taken for every item of a list.
-/

namespace ShootMachines

/-- Something that a run needs, and the failures that it ends with otherwise. -/
structure Requirement where
  met : Prop
  fails : Failure → Prop

namespace Requirement

/-- The requirement of a condition that is always reported alike. -/
def of (condition : Prop) (failure : Failure) : Requirement where
  met := condition
  fails other := ¬condition ∧ other = failure

/-- The requirement within a worker pool, with which its failures are reported. -/
def inPool (name : String) (requirement : Requirement) : Requirement where
  met := requirement.met
  fails failure := ∃ cause, requirement.fails cause ∧ failure = .pool name cause

/-- The failures of a requirement name no worker pool. -/
def Bare (requirement : Requirement) : Prop :=
  ∀ failure, requirement.fails failure → failure.root = failure

/-- All requirements of a list are met. -/
def AllMet (requirements : List Requirement) : Prop :=
  ∀ requirement ∈ requirements, requirement.met

/-- The first requirement of a list that is not met ends a run with a failure. -/
inductive FirstUnmet : List Requirement → Failure → Prop
  | here {requirement : Requirement} {rest : List Requirement} {failure : Failure}
      (h : requirement.fails failure) : FirstUnmet (requirement :: rest) failure
  | later {requirement : Requirement} {rest : List Requirement} {failure : Failure}
      (hmet : requirement.met) (h : FirstUnmet rest failure) :
      FirstUnmet (requirement :: rest) failure

variable {requirement : Requirement} {requirements others : List Requirement} {failure : Failure}

@[simp]
theorem all_met_nil : AllMet [] := fun _ h => absurd h List.not_mem_nil

@[simp]
theorem all_met_cons :
    AllMet (requirement :: requirements) ↔ requirement.met ∧ AllMet requirements :=
  List.forall_mem_cons

@[simp]
theorem all_met_append : AllMet (requirements ++ others) ↔ AllMet requirements ∧ AllMet others :=
  List.forall_mem_append

@[simp]
theorem first_unmet_nil : ¬FirstUnmet [] failure := fun h => nomatch h

@[simp]
theorem first_unmet_cons :
    FirstUnmet (requirement :: requirements) failure ↔
      requirement.fails failure ∨ requirement.met ∧ FirstUnmet requirements failure := by
  constructor
  · intro h
    cases h with
    | here h => exact .inl h
    | later hmet h => exact .inr ⟨hmet, h⟩
  · rintro (h | ⟨hmet, h⟩)
    · exact .here h
    · exact .later hmet h

/-- Of two lists of requirements, the second one counts if all of the first are met. -/
@[simp]
theorem first_unmet_append :
    FirstUnmet (requirements ++ others) failure ↔
      FirstUnmet requirements failure ∨ AllMet requirements ∧ FirstUnmet others failure := by
  induction requirements with
  | nil => simp
  | cons requirement rest ih =>
      rw [List.cons_append, first_unmet_cons, first_unmet_cons, all_met_cons, ih]
      tauto

/-- A condition names no worker pool if the failure that it is reported with does not. -/
theorem bare_of {condition : Prop} (h : failure.root = failure) : (of condition failure).Bare := by
  rintro _ ⟨_, rfl⟩
  exact h

/-- If no requirement names a worker pool, the failure of the first unmet one does not. -/
theorem FirstUnmet.root_eq (h : FirstUnmet requirements failure)
    (hbare : ∀ requirement ∈ requirements, requirement.Bare) : failure.root = failure := by
  induction h with
  | here h => exact hbare _ List.mem_cons_self _ h
  | later _ _ ih =>
      exact ih fun requirement hrequirement => hbare requirement (List.mem_cons_of_mem _ hrequirement)

/-- Requirements are met within a worker pool as they are outside. -/
@[simp]
theorem all_met_map_in_pool (name : String) :
    AllMet (requirements.map (inPool name)) ↔ AllMet requirements := by
  unfold AllMet
  rw [List.forall_mem_map]
  rfl

/-- Within a worker pool, the failure of the first unmet requirement is reported with the pool. -/
@[simp]
theorem first_unmet_map_in_pool (name : String) :
    FirstUnmet (requirements.map (inPool name)) failure ↔
      ∃ cause, FirstUnmet requirements cause ∧ failure = .pool name cause := by
  induction requirements with
  | nil => simp
  | cons requirement rest ih =>
      rw [List.map_cons, first_unmet_cons, ih]
      simp only [first_unmet_cons]
      constructor
      · rintro (⟨cause, hcause, h⟩ | ⟨hmet, cause, hcause, h⟩)
        · exact ⟨cause, .inl hcause, h⟩
        · exact ⟨cause, .inr ⟨hmet, hcause⟩, h⟩
      · rintro ⟨cause, hcause | ⟨hmet, hcause⟩, h⟩
        · exact .inl ⟨cause, hcause, h⟩
        · exact .inr ⟨hmet, cause, hcause, h⟩

section Items

variable {α : Type} {needs : α → List Requirement} {items : List α}

/-- The requirements of all items are met if those of each are. -/
theorem all_met_flat_map : AllMet (items.flatMap needs) ↔ ∀ item ∈ items, AllMet (needs item) := by
  unfold AllMet
  simp only [List.mem_flatMap]
  exact ⟨fun h item hitem requirement hneeds => h requirement ⟨item, hitem, hneeds⟩,
    fun h requirement ⟨item, hitem, hneeds⟩ => h item hitem requirement hneeds⟩

/-- The first unmet requirement of all items is that of an item after others that have all of theirs
met. -/
theorem first_unmet_flat_map :
    FirstUnmet (items.flatMap needs) failure ↔
      ∃ before item after, items = before ++ item :: after ∧
        (∀ earlier ∈ before, AllMet (needs earlier)) ∧ FirstUnmet (needs item) failure := by
  induction items with
  | nil => simp
  | cons first rest ih =>
      rw [List.flatMap_cons, first_unmet_append, ih]
      constructor
      · rintro (h | ⟨hmet, before, item, after, rfl, hbefore, h⟩)
        · exact ⟨[], first, rest, rfl, fun _ h => absurd h List.not_mem_nil, h⟩
        · exact ⟨first :: before, item, after, rfl, List.forall_mem_cons.2 ⟨hmet, hbefore⟩, h⟩
      · rintro ⟨before, item, after, hitems, hbefore, h⟩
        rcases List.cons_eq_append_iff.1 hitems with ⟨rfl, hsame⟩ | ⟨before, rfl, rfl⟩
        · obtain ⟨rfl, rfl⟩ := List.cons.inj hsame
          exact .inl h
        · obtain ⟨hmet, hbefore⟩ := List.forall_mem_cons.1 hbefore
          exact .inr ⟨hmet, before, item, after, rfl, hbefore, h⟩

end Items

end Requirement

open Requirement

/-- A run succeeds exactly if all requirements are met, and otherwise it fails with the failure of the
first one that is not. -/
structure Settles {α : Type} (run : Except Failure α) (requirements : List Requirement) : Prop where
  ok_iff : (∃ value, run = .ok value) ↔ AllMet requirements
  error_iff : ∀ failure, run = .error failure ↔ FirstUnmet requirements failure

namespace Settles

variable {α β : Type} {run : Except Failure α} {requirements others : List Requirement}

/-- A run that is done needs nothing more. -/
theorem pure (value : α) : Settles (.ok value) [] where
  ok_iff := by simp
  error_iff failure := by simp

/-- A run may succeed if its condition is met. -/
theorem of_met {condition : Prop} {failure : Failure} {value : α} (h : condition) :
    Settles (.ok value) [.of condition failure] where
  ok_iff := by simp [Requirement.of, h]
  error_iff other := by simp [Requirement.of, h]

/-- A run has to fail if its condition is not met. -/
theorem of_unmet {condition : Prop} {failure : Failure} (h : ¬condition) :
    Settles (.error failure : Except Failure α) [.of condition failure] where
  ok_iff := by simp [Requirement.of, h]
  error_iff other := by simp [Requirement.of, h, eq_comm]

/-- A choice among entries needs an entry that may be chosen. -/
theorem of_find {γ : Type} {entries : List γ} {chosen : γ → Prop} [DecidablePred chosen]
    {failure : Failure}
    (hsome : ∀ entry, entries.find? (fun entry => chosen entry) = some entry →
      ∃ value, run = .ok value)
    (hnone : entries.find? (fun entry => chosen entry) = none → run = .error failure) :
    Settles run [.of (∃ entry ∈ entries, chosen entry) failure] := by
  cases hfind : entries.find? fun entry => chosen entry with
  | none =>
      rw [hnone hfind]
      refine of_unmet ?_
      rintro ⟨entry, hentry, hchosen⟩
      exact List.find?_eq_none.1 hfind entry hentry (decide_eq_true hchosen)
  | some entry =>
      obtain ⟨value, rfl⟩ := hsome entry hfind
      have hchosen : decide (chosen entry) = true := List.find?_some (p := fun entry => chosen entry) hfind
      exact of_met ⟨entry, List.mem_of_find?_eq_some hfind, of_decide_eq_true hchosen⟩

/-- Two steps, the second one with the value of the first, need what both need, in order. -/
theorem bind {next : α → Except Failure β} (h : Settles run requirements)
    (hnext : ∀ value, run = .ok value → Settles (next value) others) :
    Settles (run >>= next) (requirements ++ others) := by
  cases hrun : run with
  | error failure =>
      have hunmet : ¬AllMet requirements := by
        rw [← h.ok_iff, hrun]
        rintro ⟨value, hvalue⟩
        cases hvalue
      constructor
      · simp [hunmet]
      · intro other
        simp [hunmet, ← h.error_iff, hrun]
  | ok value =>
      have hmet : AllMet requirements := h.ok_iff.1 ⟨value, hrun⟩
      constructor
      · rw [all_met_append, ok_bind, (hnext value hrun).ok_iff]
        exact (and_iff_right hmet).symm
      · intro failure
        rw [first_unmet_append, ok_bind, (hnext value hrun).error_iff, ← h.error_iff, hrun]
        simp [hmet]

/-- A step after one with a single requirement. -/
theorem cons {requirement : Requirement} {next : α → Except Failure β} (h : Settles run [requirement])
    (hnext : ∀ value, run = .ok value → Settles (next value) others) :
    Settles (run >>= next) (requirement :: others) :=
  h.bind hnext

/-- What is made of the value of a run needs nothing more. -/
theorem bind_pure {change : α → β} (h : Settles run requirements) :
    Settles (run >>= fun value => .ok (change value)) requirements := by
  rw [← List.append_nil requirements]
  exact h.bind fun value _ => .pure (change value)

/-- A run for a worker pool, with which its failure is reported, needs the same within the pool. -/
theorem in_pool (h : Settles run requirements) (name : String) :
    Settles (run.mapError (.pool name)) (requirements.map (inPool name)) where
  ok_iff := by simp only [map_error_eq_ok_iff, h.ok_iff, all_met_map_in_pool]
  error_iff failure := by
    rw [first_unmet_map_in_pool]
    simp only [← h.error_iff]
    cases run with
    | error cause => simp [Except.mapError, eq_comm]
    | ok value => simp [Except.mapError]

/-- A step that is taken for every item of a list needs what it needs for each, in order. -/
theorem map_m {step : α → Except Failure β} {needs : α → List Requirement} {items : List α}
    (h : ∀ item ∈ items, Settles (step item) (needs item)) :
    Settles (items.mapM step) (items.flatMap needs) := by
  induction items with
  | nil => exact .pure []
  | cons item rest ih =>
      obtain ⟨hitem, hrest⟩ := List.forall_mem_cons.1 h
      rw [List.mapM_cons, List.flatMap_cons]
      exact hitem.bind fun value _ => (ih hrest).bind_pure

/-- A step that needs the same for every item of a list needs it once, if there is an item. -/
theorem map_m_same {step : α → Except Failure β} {items : List α} (hitems : items ≠ [])
    (h : ∀ item ∈ items, Settles (step item) requirements) :
    Settles (items.mapM step) requirements := by
  have hall := map_m h
  obtain ⟨first, rest, rfl⟩ := List.exists_cons_of_ne_nil hitems
  have hfirst := h first List.mem_cons_self
  -- What is met for the first item is met for all of them.
  have hmet : AllMet ((first :: rest).flatMap fun _ => requirements) ↔ AllMet requirements := by
    rw [all_met_flat_map]
    exact ⟨fun h => h first List.mem_cons_self, fun h _ _ => h⟩
  refine ⟨by rw [hall.ok_iff, hmet], fun failure => ?_⟩
  rw [hall.error_iff]
  constructor
  · intro hunmet
    obtain ⟨_, _, _, _, _, hunmet⟩ := first_unmet_flat_map.1 hunmet
    exact hunmet
  · intro hunmet
    exact first_unmet_flat_map.2
      ⟨[], first, rest, rfl, fun _ h => absurd h List.not_mem_nil, hunmet⟩

end Settles

end ShootMachines
