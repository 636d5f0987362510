/-!
# Maps with text keys

A map keeps its entries in strictly ascending key order, so two maps with the same entries are
equal and every walk over a map visits the keys in one order. The main statements say what a
lookup sees after an insertion and that reading the entries of a map back gives the same map.
-/

namespace ShootMachines

/-- The keys stand in strictly ascending order, by code points. -/
abbrev Ascending (entries : List (String × α)) : Prop :=
  (entries.map Prod.fst).Pairwise (· < ·)

/-- Put an entry at its place among ascending entries; an entry with the same key gives way. -/
def insertEntry (key : String) (value : α) : List (String × α) → List (String × α)
  | [] => [(key, value)]
  | (other, present) :: rest =>
      if key < other then (key, value) :: (other, present) :: rest
      else if key = other then (key, value) :: rest
      else (other, present) :: insertEntry key value rest

/-- The keys after an insertion are the keys before it and the new one. -/
theorem mem_keys_insertEntry {key sought : String} {value : α} {entries : List (String × α)} :
    sought ∈ (insertEntry key value entries).map Prod.fst ↔
      sought = key ∨ sought ∈ entries.map Prod.fst := by
  induction entries with
  | nil => simp [insertEntry]
  | cons entry rest ih =>
      obtain ⟨other, present⟩ := entry
      unfold insertEntry
      split
      · simp
      · split
        · rename_i h
          subst h
          simp
        · simp only [List.map_cons, List.mem_cons, ih]
          exact or_left_comm

/-- Insertion keeps the entries ascending. -/
theorem ascending_insertEntry (key : String) (value : α) {entries : List (String × α)}
    (ascending : Ascending entries) : Ascending (insertEntry key value entries) := by
  induction entries with
  | nil => simp [insertEntry, Ascending]
  | cons entry rest ih =>
      obtain ⟨other, present⟩ := entry
      simp only [Ascending, List.map_cons, List.pairwise_cons] at ascending
      unfold insertEntry
      split
      · rename_i before
        simp only [Ascending, List.map_cons, List.pairwise_cons, List.mem_cons]
        refine ⟨?_, ascending⟩
        rintro sought (rfl | member)
        · exact before
        · exact String.lt_trans before (ascending.1 sought member)
      · split
        · rename_i same
          subst same
          simpa only [Ascending, List.map_cons, List.pairwise_cons] using ascending
        · rename_i notBefore different
          simp only [Ascending, List.map_cons, List.pairwise_cons]
          refine ⟨?_, ih ascending.2⟩
          intro sought member
          rcases mem_keys_insertEntry.1 member with rfl | member
          · rcases Std.lt_trichotomy sought other with h | h | h
            · exact absurd h notBefore
            · exact absurd h different
            · exact h
          · exact ascending.1 sought member

/-- A lookup looks at the first entry, then at the rest. -/
theorem lookup_entry (key sought : String) (value : α) (rest : List (String × α)) :
    ((key, value) :: rest).lookup sought =
      if sought = key then some value else rest.lookup sought := by
  by_cases same : sought = key
  · simp [same]
  · have differs : (sought == key) = false := beq_false_of_ne same
    simp [List.lookup_cons, differs, same]

/-- A lookup after an insertion sees the new value at its key and the old ones elsewhere. -/
theorem lookup_insertEntry (key sought : String) (value : α) (entries : List (String × α)) :
    (insertEntry key value entries).lookup sought =
      if sought = key then some value else entries.lookup sought := by
  induction entries with
  | nil => exact lookup_entry key sought value []
  | cons entry rest ih =>
      obtain ⟨other, present⟩ := entry
      unfold insertEntry
      split
      · exact lookup_entry key sought value _
      · split
        · rename_i same
          subst same
          simp only [lookup_entry]
          split <;> rfl
        · rename_i different
          simp only [lookup_entry, ih]
          by_cases first : sought = other
          · subst first
            simp [Ne.symm different]
          · simp [first]

/-- A finite map from text keys, its entries in strictly ascending key order. -/
structure Dict (α : Type) where
  entries : List (String × α)
  ascending : Ascending entries

namespace Dict

variable {α : Type}

/-- Maps with the same entries are equal. -/
@[ext]
theorem ext {left right : Dict α} (same : left.entries = right.entries) : left = right := by
  cases left
  cases right
  cases same
  rfl

instance [DecidableEq α] : DecidableEq (Dict α) := fun left right =>
  decidable_of_iff (left.entries = right.entries) ⟨ext, fun same => same ▸ rfl⟩

/-- The map without entries. -/
def empty : Dict α := ⟨[], List.Pairwise.nil⟩

instance : EmptyCollection (Dict α) := ⟨empty⟩

instance : Inhabited (Dict α) := ⟨empty⟩

/-- The map with one more entry; an entry with the same key gives way. -/
def insert (dict : Dict α) (key : String) (value : α) : Dict α :=
  ⟨insertEntry key value dict.entries, ascending_insertEntry key value dict.ascending⟩

/-- The value at a key. -/
def get? (dict : Dict α) (key : String) : Option α :=
  dict.entries.lookup key

/-- The map of all entries of a list; of two entries with one key the later stays. -/
def ofList (entries : List (String × α)) : Dict α :=
  entries.foldl (fun dict entry => dict.insert entry.1 entry.2) empty

/-- The keys, ascending. -/
def keys (dict : Dict α) : List String :=
  dict.entries.map Prod.fst

/-- The number of entries. -/
def size (dict : Dict α) : Nat :=
  dict.entries.length

/-- The entries of both maps; the second map wins where both have a key. -/
def union (dict other : Dict α) : Dict α :=
  other.entries.foldl (fun joined entry => joined.insert entry.1 entry.2) dict

@[simp]
theorem get?_empty (key : String) : (empty : Dict α).get? key = none := rfl

/-- A lookup after an insertion sees the new value at its key and the old ones elsewhere. -/
@[simp]
theorem get?_insert (dict : Dict α) (key sought : String) (value : α) :
    (dict.insert key value).get? sought = if sought = key then some value else dict.get? sought :=
  lookup_insertEntry key sought value dict.entries

/-- Folding the insertions of ascending entries onto a map whose keys all lie below them appends
the entries. -/
theorem entries_foldl_insert (entries : List (String × α)) (dict : Dict α)
    (ascending : Ascending (dict.entries ++ entries)) :
    (entries.foldl (fun dict entry => dict.insert entry.1 entry.2) dict).entries =
      dict.entries ++ entries := by
  induction entries generalizing dict with
  | nil => simp
  | cons entry rest ih =>
      have appended : (dict.insert entry.1 entry.2).entries = dict.entries ++ [entry] := by
        have lower : ∀ (prior : List (String × α)), Ascending (prior ++ entry :: rest) →
            insertEntry entry.1 entry.2 prior = prior ++ [entry] := by
          intro prior
          induction prior with
          | nil => intro _; rfl
          | cons first others inner =>
              intro sorted
              have before : first.1 < entry.1 := by
                simp only [Ascending, List.cons_append, List.map_cons, List.pairwise_cons,
                  List.map_append, List.mem_append, List.mem_cons] at sorted
                exact sorted.1 entry.1 (Or.inr (Or.inl rfl))
              have notAfter : ¬entry.1 < first.1 := String.lt_asymm before
              have different : ¬entry.1 = first.1 := fun same =>
                String.lt_irrefl _ (same ▸ before)
              simp only [Ascending, List.cons_append, List.map_cons, List.pairwise_cons] at sorted
              simp [insertEntry, notAfter, different, inner sorted.2]
        exact lower dict.entries ascending
      rw [List.foldl_cons, ih]
      · simp [appended]
      · simpa [appended] using ascending

/-- Reading the entries of a map back gives the same map. -/
@[simp]
theorem ofList_entries (dict : Dict α) : ofList dict.entries = dict := by
  apply ext
  have appended := entries_foldl_insert dict.entries (empty : Dict α) (by
    simpa [empty] using dict.ascending)
  simpa [ofList, empty] using appended

end Dict

end ShootMachines
