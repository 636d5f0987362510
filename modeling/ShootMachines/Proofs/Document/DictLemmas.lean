import Mathlib.Data.List.Induction
import Mathlib.Data.List.Nodup
import ShootMachines.Document.Dict

/-!
# Laws of maps with text keys

What `Dict.ofList` keeps of a list of entries, and how entries with distinct keys are looked up.
Documents are written by `Dict.ofList` and read by key, so the round trips of schemas rest on these
laws. Maps are equal if lookups find the same in them, which gives the laws of unions.
-/

namespace ShootMachines

variable {α : Type}

/-- Among entries with distinct keys, an entry is what a lookup of its key finds. -/
theorem lookup_of_mem {entries : List (String × α)} (hdistinct : (entries.map Prod.fst).Nodup)
    {entry : String × α} (h : entry ∈ entries) : entries.lookup entry.1 = some entry.2 := by
  induction entries with
  | nil => cases h
  | cons first rest ih =>
      obtain ⟨key, value⟩ := first
      rw [List.map_cons, List.nodup_cons] at hdistinct
      rw [lookup_entry]
      rcases List.mem_cons.1 h with rfl | hrest
      · exact if_pos rfl
      · have hkey : entry.1 ∈ rest.map Prod.fst := List.mem_map_of_mem hrest
        have hne : entry.1 ≠ key := fun hsame => hdistinct.1 (hsame ▸ hkey)
        rw [if_neg hne]
        exact ih hdistinct.2 hrest

/-- A lookup finds an entry. -/
theorem mem_of_lookup {entries : List (String × α)} {key : String} {value : α}
    (h : entries.lookup key = some value) : (key, value) ∈ entries := by
  obtain ⟨before, after, rfl, _⟩ := List.lookup_eq_some_iff.1 h
  exact List.mem_append_right _ List.mem_cons_self

/-- A key that no entry has is looked up in vain. -/
theorem lookup_eq_none_of_not_mem {entries : List (String × α)} {key : String}
    (h : key ∉ entries.map Prod.fst) : entries.lookup key = none := by
  cases hlookup : entries.lookup key with
  | none => rfl
  | some value => exact absurd (List.mem_map_of_mem (mem_of_lookup hlookup)) h

/-- A lookup after dropping some keys finds nothing under these, and what it found before elsewhere. -/
theorem lookup_filter_keys (dropped : List String) (entries : List (String × α)) (key : String) :
    (entries.filter fun entry => entry.1 ∉ dropped).lookup key =
      if key ∈ dropped then none else entries.lookup key := by
  induction entries with
  | nil => simp
  | cons first rest ih =>
      obtain ⟨other, value⟩ := first
      by_cases hother : other ∈ dropped
      · rw [List.filter_cons_of_neg (by simpa using hother), ih]
        by_cases hsame : key = other
        · subst hsame
          rw [if_pos hother, if_pos hother]
        · rw [lookup_entry, if_neg hsame]
      · rw [List.filter_cons_of_pos (by simpa using hother), lookup_entry, lookup_entry, ih]
        by_cases hsame : key = other
        · subst hsame
          rw [if_pos rfl, if_pos rfl, if_neg hother]
        · rw [if_neg hsame, if_neg hsame]

/-- Ascending keys are distinct. -/
theorem Ascending.nodup {entries : List (String × α)} (h : Ascending entries) :
    (entries.map Prod.fst).Nodup := by
  refine List.Pairwise.imp ?_ h
  rintro first second hlt rfl
  exact String.lt_irrefl first hlt

/-- Dropping the keys of an inserted entry leaves what dropping them leaves without it. -/
theorem filter_insert_entry {dropped : List String} {key : String} (value : α)
    (h : key ∈ dropped) (entries : List (String × α)) :
    (insertEntry key value entries).filter (fun entry => entry.1 ∉ dropped) =
      entries.filter fun entry => entry.1 ∉ dropped := by
  induction entries with
  | nil => simp [insertEntry, h]
  | cons first rest ih =>
      obtain ⟨other, present⟩ := first
      unfold insertEntry
      split
      · simp [h]
      · split
        · rename_i hsame
          subst hsame
          simp [h]
        · simp only [List.filter_cons, ih]

/-- An inserted entry is the new one or an old one. -/
theorem mem_insert_entry {key : String} {value : α} {entries : List (String × α)}
    {entry : String × α} (h : entry ∈ insertEntry key value entries) :
    entry = (key, value) ∨ entry ∈ entries := by
  induction entries with
  | nil => exact Or.inl (by simpa [insertEntry] using h)
  | cons first rest ih =>
      obtain ⟨other, present⟩ := first
      unfold insertEntry at h
      split at h
      · simpa using h
      · split at h
        · rcases List.mem_cons.1 h with heq | hrest
          · exact Or.inl heq
          · exact Or.inr (List.mem_cons_of_mem _ hrest)
        · rcases List.mem_cons.1 h with heq | hrest
          · exact Or.inr (heq ▸ List.mem_cons_self)
          · rcases ih hrest with heq | hold
            · exact Or.inl heq
            · exact Or.inr (List.mem_cons_of_mem _ hold)

namespace Dict

/-- A lookup after inserting entries with distinct keys sees them first, then the map before. -/
theorem get?_foldl_insert {entries : List (String × α)}
    (hdistinct : (entries.map Prod.fst).Nodup) (dict : Dict α) (key : String) :
    (entries.foldl (fun dict entry => dict.insert entry.1 entry.2) dict).get? key =
      (entries.lookup key).or (dict.get? key) := by
  induction entries generalizing dict with
  | nil => rfl
  | cons first rest ih =>
      obtain ⟨other, present⟩ := first
      rw [List.map_cons, List.nodup_cons] at hdistinct
      rw [List.foldl_cons, ih hdistinct.2, get?_insert, lookup_entry]
      by_cases hsame : key = other
      · subst hsame
        rw [if_pos rfl, if_pos rfl, lookup_eq_none_of_not_mem hdistinct.1]
        rfl
      · rw [if_neg hsame, if_neg hsame]

/-- The map of entries with distinct keys is looked up like the entries. -/
theorem get?_of_list {entries : List (String × α)} (hdistinct : (entries.map Prod.fst).Nodup)
    (key : String) : (ofList entries).get? key = entries.lookup key := by
  unfold ofList
  rw [get?_foldl_insert hdistinct, get?_empty, Option.or_none]

/-- The map of a list with one more entry has that entry inserted. -/
theorem of_list_append_singleton (entries : List (String × α)) (entry : String × α) :
    ofList (entries ++ [entry]) = (ofList entries).insert entry.1 entry.2 := by
  unfold ofList
  rw [List.foldl_append]
  rfl

/-- The map of a list is looked up like the list from its end: of entries with one key the last counts. -/
theorem get?_of_list_reverse (entries : List (String × α)) (key : String) :
    (ofList entries).get? key = entries.reverse.lookup key := by
  induction entries using List.reverseRecOn with
  | nil => rfl
  | append_singleton entries entry ih =>
      rw [of_list_append_singleton, get?_insert, ih, List.reverse_append]
      exact (lookup_entry entry.1 key entry.2 entries.reverse).symm

/-- The map of a list has no entries but those of the list. -/
theorem mem_of_mem_of_list {entries : List (String × α)} {entry : String × α}
    (h : entry ∈ (ofList entries).entries) : entry ∈ entries := by
  -- The map grows while the list is consumed, so the induction is for any map to start with.
  have hfold : ∀ (rest : List (String × α)) (dict : Dict α),
      entry ∈ (rest.foldl (fun dict entry => dict.insert entry.1 entry.2) dict).entries →
        entry ∈ dict.entries ∨ entry ∈ rest := by
    intro rest
    induction rest with
    | nil => exact fun _ h => Or.inl h
    | cons first rest ih =>
        intro dict h
        rcases ih _ h with hdict | hrest
        · rcases mem_insert_entry hdict with heq | hold
          · exact Or.inr (heq ▸ List.mem_cons_self)
          · exact Or.inl hold
        · exact Or.inr (List.mem_cons_of_mem _ hrest)
  rcases hfold entries empty h with hempty | hentries
  · cases hempty
  · exact hentries

/-- Maps that are looked up alike are equal. -/
theorem ext_get? {dict other : Dict α} (h : ∀ key, dict.get? key = other.get? key) :
    dict = other := by
  have hmem {entry : String × α} {first second : Dict α}
      (hsame : ∀ key, first.get? key = second.get? key) (hentry : entry ∈ first.entries) :
      entry ∈ second.entries := by
    have hfound : first.get? entry.1 = some entry.2 := lookup_of_mem first.ascending.nodup hentry
    exact mem_of_lookup ((hsame entry.1).symm.trans hfound)
  have hperm : dict.entries.Perm other.entries := by
    refine (List.perm_ext_iff_of_nodup (dict.ascending.nodup.of_map _)
      (other.ascending.nodup.of_map _)).2 fun entry => ?_
    exact ⟨hmem h, hmem fun key => (h key).symm⟩
  refine ext (hperm.eq_of_pairwise (fun first second _ _ hlt hgt => ?_)
    (List.pairwise_map.1 dict.ascending) (List.pairwise_map.1 other.ascending))
  exact absurd hgt (String.lt_asymm hlt)

/-- A lookup in a union sees the second map first. -/
theorem get?_union (dict other : Dict α) (key : String) :
    (dict.union other).get? key = (other.get? key).or (dict.get? key) :=
  get?_foldl_insert other.ascending.nodup dict key

/-- A union with the empty map is the map. -/
theorem union_empty (dict : Dict α) : dict.union empty = dict := rfl

/-- A union with a map that has one more entry has that entry. -/
theorem union_insert (dict other : Dict α) (key : String) (value : α) :
    dict.union (other.insert key value) = (dict.union other).insert key value := by
  refine ext_get? fun sought => ?_
  rw [get?_union, get?_insert, get?_insert, get?_union]
  split <;> rfl

/-- Inserting entries one after the other is a union with the map of the entries. -/
theorem foldl_insert_eq_union (entries : List (String × α)) (dict : Dict α) :
    entries.foldl (fun dict entry => dict.insert entry.1 entry.2) dict =
      dict.union (ofList entries) := by
  -- The last entry is inserted last on both sides, so the induction is from the end.
  induction entries using List.reverseRecOn with
  | nil => rfl
  | append_singleton entries entry ih =>
      rw [List.foldl_append, ih, of_list_append_singleton, union_insert]
      rfl

/-- Unions with the maps of two lists are one with the map of both. -/
theorem union_of_list_append (dict : Dict α) (entries others : List (String × α)) :
    dict.union (ofList (entries ++ others)) =
      (dict.union (ofList entries)).union (ofList others) := by
  rw [← foldl_insert_eq_union, ← foldl_insert_eq_union, ← foldl_insert_eq_union, List.foldl_append]

end Dict

end ShootMachines
