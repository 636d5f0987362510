import Mathlib.Data.List.Forall2

/-!
# Laws of results and runs

How a result passes through `>>=` and `mapError`, and what a run over a list gives. Every reader,
decoder and check of the library ends with a result, so these laws take runs apart step by step.
-/

namespace ShootMachines

variable {ε ζ α β : Type}

@[simp]
theorem ok_bind (value : α) (next : α → Except ε β) : (Except.ok value >>= next) = next value := rfl

@[simp]
theorem error_bind (failure : ε) (next : α → Except ε β) :
    (Except.error failure >>= next) = .error failure := rfl

/-- Two steps succeed exactly if the first one does and the second one does with its value. -/
theorem bind_eq_ok_iff {first : Except ε α} {next : α → Except ε β} {result : β} :
    first >>= next = .ok result ↔ ∃ value, first = .ok value ∧ next value = .ok result := by
  cases first with
  | error failure => simp
  | ok value => simp

/-- A step whose failure is renamed succeeds as before. -/
theorem map_error_eq_ok_iff {rename : ε → ζ} {step : Except ε α} {value : α} :
    step.mapError rename = .ok value ↔ step = .ok value := by
  cases step with
  | error failure => constructor <;> intro h <;> cases h
  | ok present =>
      constructor
      · intro h
        rw [Except.ok.inj h]
      · intro h
        rw [Except.ok.inj h]
        rfl

/-- A step whose value is changed succeeds exactly if it did, with the changed value. -/
theorem map_eq_ok_iff {change : α → β} {step : Except ε α} {result : β} :
    step.map change = .ok result ↔ ∃ value, step = .ok value ∧ change value = result := by
  cases step with
  | error failure => simp [Except.map]
  | ok value => simp [Except.map]

/-- Two steps whose values are paired succeed exactly if both do. -/
theorem pair_eq_ok_iff {first : Except ε α} {second : Except ε β} {value : α} {other : β} :
    (do
      let value ← first
      let other ← second
      .ok (value, other) : Except ε (α × β)) = .ok (value, other) ↔
      first = .ok value ∧ second = .ok other := by
  cases first with
  | error failure => simp
  | ok present => cases second <;> simp

/-- A list is read back from what it was written as if every item is. -/
theorem map_m_map_eq_ok {write : α → β} {read : β → Except ε α} {items : List α}
    (h : ∀ item ∈ items, read (write item) = .ok item) :
    (items.map write).mapM read = .ok items := by
  induction items with
  | nil => rfl
  | cons item rest ih =>
      have hitem := h item List.mem_cons_self
      have hrest := ih fun other hother => h other (List.mem_cons_of_mem _ hother)
      rw [List.map_cons, List.mapM_cons, hitem, hrest]
      rfl

/-- A run over a list gives the values of another one if it repeats every step that succeeds there. -/
theorem map_m_eq_ok_of_steps {first second : α → Except ε β} {items : List α} {values : List β}
    (hsteps : ∀ item value, first item = .ok value → second item = .ok value)
    (h : items.mapM first = .ok values) : items.mapM second = .ok values := by
  induction items generalizing values with
  | nil => exact h
  | cons item rest ih =>
      simp only [List.mapM_cons, bind_eq_ok_iff] at h ⊢
      obtain ⟨value, hvalue, others, hothers, hvalues⟩ := h
      exact ⟨value, hsteps item value hvalue, others, ih hothers, hvalues⟩

/-- A step that is known to succeed has a value. -/
theorem exists_eq_ok {step : Except ε α} (h : step.isOk = true) : ∃ value, step = .ok value := by
  cases step with
  | error failure => cases h
  | ok value => exact ⟨value, rfl⟩

/-- A step with a value succeeds with it. -/
theorem eq_ok_of_to_option_eq_some {step : Except ε α} {value : α} (h : step.toOption = some value) :
    step = .ok value := by
  cases step with
  | error failure => cases h
  | ok present => rw [Option.some.inj h]

/-- A run over a list succeeds exactly if every step does, with the values of the steps in order. -/
theorem map_m_eq_ok_iff {step : α → Except ε β} {items : List α} {values : List β} :
    items.mapM step = .ok values ↔
      List.Forall₂ (fun item value => step item = .ok value) items values := by
  induction items generalizing values with
  | nil =>
      rw [List.forall₂_nil_left_iff]
      exact ⟨fun h => (Except.ok.inj h).symm, fun h => h ▸ rfl⟩
  | cons item items ih =>
      rw [List.mapM_cons, List.forall₂_cons_left_iff]
      simp only [bind_eq_ok_iff, ih]
      constructor
      · rintro ⟨value, hvalue, others, hothers, hvalues⟩
        exact ⟨value, others, hvalue, hothers, (Except.ok.inj hvalues).symm⟩
      · rintro ⟨value, others, hvalue, hothers, rfl⟩
        exact ⟨value, hvalue, others, hothers, rfl⟩

/-- What two lists have in common item by item holds of the items at every place. -/
theorem getElem?_of_forall₂ {R : α → β → Prop} {items : List α} {values : List β}
    (h : List.Forall₂ R items values) {number : Nat} {item : α} (hitem : items[number]? = some item) :
    ∃ value, values[number]? = some value ∧ R item value := by
  induction h generalizing number with
  | nil => cases hitem
  | cons hfirst _ ih =>
      cases number with
      | zero =>
          obtain rfl := Option.some.inj hitem
          exact ⟨_, rfl, hfirst⟩
      | succ number => exact ih hitem

/-- What two lists have in common item by item, every value has in common with some item. -/
theorem exists_mem_of_forall₂ {R : α → β → Prop} {items : List α} {values : List β}
    (h : List.Forall₂ R items values) {value : β} (hvalue : value ∈ values) :
    ∃ item ∈ items, R item value := by
  obtain ⟨number, hnumber⟩ := List.getElem?_of_mem hvalue
  obtain ⟨item, hitem, hrelated⟩ := getElem?_of_forall₂ (List.Forall₂.flip h) hnumber
  exact ⟨item, List.mem_of_getElem? hitem, hrelated⟩

/-- Two lists that agree item by item on what is taken of the items agree on the whole. -/
theorem map_eq_of_forall₂ {γ : Type} {first : α → γ} {second : β → γ} {items : List α}
    {values : List β}
    (h : List.Forall₂ (fun item value => first item = second value) items values) :
    items.map first = values.map second := by
  rw [← List.forall₂_eq_eq_eq, List.forall₂_map_left_iff, List.forall₂_map_right_iff]
  exact h

/-- A run over a list that keeps each value under the key of its item gives one entry for every item,
in order. -/
theorem map_m_keyed_eq_ok {κ : Type} {key : α → κ} {step : α → Except ε β} {items : List α}
    {entries : List (κ × β)}
    (h : (items.mapM fun item => do
      let value ← step item
      return (key item, value)) = .ok entries) :
    List.Forall₂ (fun item entry => entry.1 = key item ∧ step item = .ok entry.2) items entries := by
  refine (map_m_eq_ok_iff.1 h).imp fun item entry hentry => ?_
  obtain ⟨value, hvalue, hentry⟩ := bind_eq_ok_iff.1 hentry
  obtain rfl := Except.ok.inj hentry
  exact ⟨rfl, hvalue⟩

/-- A list is what stands before the item at a place, the item, and what stands after it. -/
theorem exists_append_of_getElem? {items : List α} {number : Nat} {item : α}
    (h : items[number]? = some item) :
    ∃ before after, items = before ++ item :: after ∧ before.length = number := by
  obtain ⟨hnumber, rfl⟩ := List.getElem?_eq_some_iff.1 h
  refine ⟨items.take number, items.drop (number + 1), ?_,
    List.length_take_of_le (Nat.le_of_lt hnumber)⟩
  rw [List.getElem_cons_drop, List.take_append_drop]

/-- A state after one more item is that before it, taken one step further if there is such an item. -/
theorem foldl_take_succ {σ : Type} (step : σ → α → σ) (start : σ) (items : List α) (number : Nat) :
    (items.take (number + 1)).foldl step start =
      items[number]?.elim ((items.take number).foldl step start)
        (step ((items.take number).foldl step start)) := by
  rw [List.take_add_one, List.foldl_append]
  cases items[number]? <;> rfl

/-- An item after all others is one more distinct item, unless it is among them. -/
theorem erase_dups_append_singleton [DecidableEq α] (items : List α) (item : α) :
    (items ++ [item]).eraseDups =
      if item ∈ items then items.eraseDups else items.eraseDups ++ [item] := by
  rw [List.eraseDups_append, List.removeAll, List.filter_singleton]
  by_cases h : item ∈ items
  · simp [h]
  · simp [h, List.eraseDups_cons]

section State

variable {σ : Type}

/-- Two steps with a state succeed exactly if the first one does and the second one does with its value,
from the state that the first one leaves. -/
theorem run_bind_eq_ok_iff {first : StateT σ (Except ε) α} {next : α → StateT σ (Except ε) β}
    {start final : σ} {result : β} :
    (first >>= next).run start = .ok (result, final) ↔
      ∃ value middle, first.run start = .ok (value, middle) ∧
        (next value).run middle = .ok (result, final) := by
  rw [StateT.run_bind, bind_eq_ok_iff]
  exact ⟨fun ⟨(value, middle), h⟩ => ⟨value, middle, h⟩,
    fun ⟨value, middle, h⟩ => ⟨(value, middle), h⟩⟩

/-- A step with a state whose value is changed succeeds exactly if it did, with the changed value. -/
theorem run_map_eq_ok_iff {change : α → β} {step : StateT σ (Except ε) α} {start final : σ}
    {result : β} :
    (change <$> step).run start = .ok (result, final) ↔
      ∃ value, step.run start = .ok (value, final) ∧ change value = result := by
  rw [← bind_pure_comp, run_bind_eq_ok_iff]
  constructor
  · rintro ⟨value, middle, hvalue, h⟩
    obtain ⟨rfl, rfl⟩ := Prod.mk.inj (Except.ok.inj h)
    exact ⟨value, hvalue, rfl⟩
  · rintro ⟨value, hvalue, rfl⟩
    exact ⟨value, final, hvalue, rfl⟩

/-- What every step of a run over a list gives, whatever the state, holds of all values of the run. -/
theorem forall_mem_of_map_m_run {step : α → StateT σ (Except ε) β} (holds : β → Prop)
    (hstep : ∀ item start value final, (step item).run start = .ok (value, final) → holds value)
    {items : List α} {start final : σ} {values : List β}
    (h : (items.mapM step).run start = .ok (values, final)) : ∀ value ∈ values, holds value := by
  induction items generalizing start values with
  | nil =>
      obtain ⟨rfl, _⟩ := Prod.mk.inj (Except.ok.inj h)
      exact fun value hvalue => nomatch hvalue
  | cons item rest ih =>
      rw [List.mapM_cons, run_bind_eq_ok_iff] at h
      obtain ⟨value, middle, hvalue, h⟩ := h
      obtain ⟨others, last, hothers, h⟩ := run_bind_eq_ok_iff.1 h
      obtain ⟨rfl, rfl⟩ := Prod.mk.inj (Except.ok.inj h)
      exact List.forall_mem_cons.2 ⟨hstep item start value middle hvalue, ih hothers⟩

end State

end ShootMachines
