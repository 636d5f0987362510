import ShootMachines.Proofs.Admission.ShootUpdate
import ShootMachines.Proofs.Document.DictLemmas

/-!
# Configurations of pools with one name

The decoded configurations of a shoot are kept by the names of its pools, and of two pools with one name
the configuration of the later counts (`Shoot.pool_config_of_last`). What an accepted shoot is known to
have is therefore a clean configuration of the last pool of every name, whichever pool of that name it was
checked for: `Shoot.last_configs_clean`. The configuration of an earlier pool of the name is decoded, but
not looked at (`Shoot.shadowed_config_unchecked`).
-/

namespace ShootMachines

/-- An item that is found by its key has its value among the entries that were made of the items. -/
theorem lookup_of_forall₂ {ε α β : Type} {key : α → String} {step : α → Except ε β} {items : List α}
    {entries : List (String × β)}
    (h : List.Forall₂ (fun item entry => entry.1 = key item ∧ step item = .ok entry.2) items entries)
    {name : String} {item : α} (hfound : items.find? (fun item => key item = name) = some item) :
    ∃ value, step item = .ok value ∧ entries.lookup name = some value := by
  induction h with
  | nil => cases hfound
  | @cons first entry items entries hfirst _ ih =>
      obtain ⟨entryKey, value⟩ := entry
      obtain ⟨rfl, hvalue⟩ := hfirst
      rw [List.find?_cons] at hfound
      rw [lookup_entry]
      by_cases hname : key first = name
      · rw [decide_eq_true hname] at hfound
        obtain rfl := Option.some.inj hfound
        exact ⟨value, hvalue, if_pos hname.symm⟩
      · rw [decide_eq_false hname] at hfound
        obtain ⟨other, hother, hlookup⟩ := ih hfound
        exact ⟨other, hother, (if_neg (Ne.symm hname)).trans hlookup⟩

namespace ShootWorker

variable {workers : List ShootWorker} {worker : ShootWorker} {name : String}

/-- The last pool with a name. -/
def lastNamed? (workers : List ShootWorker) (name : String) : Option ShootWorker :=
  named? workers.reverse name

/-- There is a pool with the name of a pool. -/
theorem exists_named (h : worker ∈ workers) : ∃ first, named? workers worker.name = some first := by
  refine Option.isSome_iff_exists.1 ?_
  unfold named?
  rw [List.find?_isSome]
  exact ⟨worker, h, decide_eq_true rfl⟩

/-- There is a last pool with the name of a pool. -/
theorem exists_last_named (h : worker ∈ workers) :
    ∃ last, lastNamed? workers worker.name = some last :=
  exists_named (List.mem_reverse.2 h)

/-- Among pools with distinct names, a pool is found by its name. -/
theorem named_of_distinct (hdistinct : (workers.map ShootWorker.name).Nodup) (h : worker ∈ workers) :
    named? workers worker.name = some worker := by
  obtain ⟨found, hfound⟩ := exists_named h
  obtain ⟨hmem, hname⟩ := mem_of_named hfound
  rw [hfound, List.inj_on_of_nodup_map hdistinct hmem h hname]

/-- Among pools with distinct names, a pool is the last one with its name. -/
theorem last_named_of_distinct (hdistinct : (workers.map ShootWorker.name).Nodup)
    (h : worker ∈ workers) : lastNamed? workers worker.name = some worker := by
  refine named_of_distinct ?_ (List.mem_reverse.2 h)
  rw [List.map_reverse, List.nodup_reverse]
  exact hdistinct

/-- A pool is the last one with its name if no later pool has the name. -/
theorem last_named_of_no_later {position : Nat} (hposition : workers[position]? = some worker)
    (hlater : ∀ later ∈ workers.drop (position + 1), later.name ≠ worker.name) :
    lastNamed? workers worker.name = some worker := by
  obtain ⟨before, after, rfl, rfl⟩ := exists_append_of_getElem? hposition
  rw [List.drop_append, List.drop_eq_nil_of_le (Nat.le_succ _), List.nil_append,
    Nat.add_sub_cancel_left] at hlater
  have hnone : after.reverse.find? (fun later => later.name = worker.name) = none := by
    rw [List.find?_eq_none]
    intro later hmem
    rw [decide_eq_true_eq]
    exact hlater later (List.mem_reverse.1 hmem)
  unfold lastNamed? named?
  rw [List.reverse_append, List.reverse_cons, List.append_assoc, List.find?_append, hnone,
    List.singleton_append, List.find?_cons, decide_eq_true rfl]
  rfl

end ShootWorker

namespace Shoot

variable {scheme : Scheme} {lookup : Lookup} {shoot : Shoot} {decoder : Decoder}
  {configs : ShootConfigs}

/-- The configurations of a decoded shoot are those of its pools, each under the name of its pool. -/
theorem pool_configs_of_configs (h : shoot.configs decoder = .ok configs) :
    ∃ entries, configs.pools = .ofList entries ∧
      List.Forall₂ (fun worker entry => entry.1 = worker.name ∧
        shoot.poolConfig decoder worker = .ok entry.2) shoot.spec.provider.workers entries := by
  unfold Shoot.configs at h
  obtain ⟨_, _, h⟩ := bind_eq_ok_iff.1 h
  obtain ⟨_, _, h⟩ := bind_eq_ok_iff.1 h
  obtain ⟨entries, hentries, h⟩ := bind_eq_ok_iff.1 h
  obtain rfl := Except.ok.inj h
  exact ⟨entries, rfl, map_m_keyed_eq_ok hentries⟩

/-- Every pool of a decoded shoot has a configuration of its own. -/
theorem pool_config_of_mem (h : shoot.configs decoder = .ok configs) {position : Nat}
    {worker : ShootWorker} (hposition : shoot.spec.provider.workers[position]? = some worker) :
    ∃ config, shoot.poolConfig decoder worker = .ok config := by
  obtain ⟨entries, _, hentries⟩ := pool_configs_of_configs h
  obtain ⟨entry, _, _, hconfig⟩ := getElem?_of_forall₂ hentries hposition
  exact ⟨entry.2, hconfig⟩

/-- The configuration that is kept for a name is that of the last pool with the name. -/
theorem pool_config_of_last (h : shoot.configs decoder = .ok configs) {name : String}
    {last : ShootWorker} (hlast : ShootWorker.lastNamed? shoot.spec.provider.workers name = some last) :
    ∃ config, shoot.poolConfig decoder last = .ok config ∧
      configs.pools.get? name = some config := by
  obtain ⟨entries, hpools, hentries⟩ := pool_configs_of_configs h
  rw [hpools, Dict.get?_of_list_reverse]
  exact lookup_of_forall₂ (List.rel_reverse hentries) hlast

/-- Among pools with distinct names, the configuration that is kept for a name is that of the pool. -/
theorem pool_config_of_distinct
    (hdistinct : (shoot.spec.provider.workers.map ShootWorker.name).Nodup)
    (h : shoot.configs decoder = .ok configs) {worker : ShootWorker}
    (hworker : worker ∈ shoot.spec.provider.workers) :
    ∃ config, shoot.poolConfig decoder worker = .ok config ∧
      configs.pools.get? worker.name = some config :=
  pool_config_of_last h (ShootWorker.last_named_of_distinct hdistinct hworker)

/-- Every pool of an accepted new shoot has a configuration that is decoded strictly, and the configuration
of the last pool with its name is clean beside the data volumes of the pool. So the configuration of the
pool is clean itself if no later pool has its name. -/
theorem last_configs_clean (htype : shoot.spec.provider.type = providerType)
    (haccepted : (shoot.accept scheme lookup none).result = .ok ()) {position : Nat}
    {worker : ShootWorker} (hposition : shoot.spec.provider.workers[position]? = some worker) :
    ∃ config last kept,
      shoot.poolConfig scheme.strictDecoder worker = .ok config ∧
      ShootWorker.lastNamed? shoot.spec.provider.workers worker.name = some last ∧
      shoot.poolConfig scheme.strictDecoder last = .ok kept ∧
      kept.check worker.dataVolumes ((workersPath.index position).child "providerConfig") = [] ∧
      ((∀ later ∈ shoot.spec.provider.workers.drop (position + 1), later.name ≠ worker.name) →
        config.check worker.dataVolumes ((workersPath.index position).child "providerConfig") = []) := by
  obtain ⟨context, hcontext, hclean⟩ := context_of_accepted htype haccepted
  obtain ⟨rfl, hconfigs, _⟩ := context_eq_ok_iff.1 hcontext
  obtain ⟨_, _, _, _, hpools⟩ := ShootContext.check_eq_nil_iff.1 hclean
  obtain ⟨config, hconfig⟩ := pool_config_of_mem hconfigs hposition
  obtain ⟨last, hlast⟩ := ShootWorker.exists_last_named (List.mem_of_getElem? hposition)
  obtain ⟨kept, hkept, hget⟩ := pool_config_of_last hconfigs hlast
  have hchecked := (ShootContext.check_pool_eq_nil_iff.1 (hpools position worker hposition)).1 kept hget
  refine ⟨config, last, kept, hconfig, hlast, hkept, hchecked, fun hlater => ?_⟩
  rw [ShootWorker.last_named_of_no_later hposition hlater] at hlast
  obtain rfl := Option.some.inj hlast
  rw [hconfig] at hkept
  rw [Except.ok.inj hkept]
  exact hchecked

/-- A shoot with given pools. -/
def sampleWithPools (workers : List ShootWorker) : Shoot :=
  { sample [] with
    spec := { (sample []).spec with provider := ⟨providerType, none, none, workers⟩ } }

/-- A pool with a name and a DNS policy. -/
def samplePool (name : String) (policy : Option String) : ShootWorker :=
  ⟨name, ⟨"small", none⟩, 1, 2, none, none, none, [], ["a"], policy.map fun policy =>
    encodeConfig .workerConfig ⟨none, none, none, some policy, none, false, false⟩⟩

/-- Two pools of one name, the first of which asks for a DNS policy that does not exist. -/
def sampleTwins : List ShootWorker :=
  [samplePool "pool" (some "Bogus"), samplePool "pool" none]

/-- The configuration of the second sample pool is clean, as no later pool has its name. -/
theorem sample_last_config_clean :
    ((sampleWithPools sampleTwins).accept .standard sampleLookup none).result = .ok () ∧
      ∃ worker config, sampleTwins[1]? = some worker ∧
        (sampleWithPools sampleTwins).poolConfig Scheme.standard.strictDecoder worker = .ok config ∧
        config.check worker.dataVolumes ((workersPath.index 1).child "providerConfig") = [] := by
  have haccepted : ((sampleWithPools sampleTwins).accept .standard sampleLookup none).result = .ok () :=
    rfl
  obtain ⟨config, _, _, hconfig, _, _, _, hclean⟩ :=
    @last_configs_clean .standard sampleLookup (sampleWithPools sampleTwins) rfl haccepted 1 _ rfl
  exact ⟨haccepted, _, config, rfl, hconfig, hclean (fun later hlater => nomatch hlater)⟩

/-- The sample shoot is accepted, although the configuration of its first pool is decoded strictly and has
a violation: the second pool has the same name, and its configuration is checked in place of the first. -/
theorem shadowed_config_unchecked :
    ((sampleWithPools sampleTwins).accept .standard sampleLookup none).result = .ok () ∧
      ∃ worker config, sampleTwins[0]? = some worker ∧
        (sampleWithPools sampleTwins).poolConfig Scheme.standard.strictDecoder worker = .ok config ∧
        config.check worker.dataVolumes ((workersPath.index 0).child "providerConfig") ≠ [] :=
  ⟨rfl, _, ⟨none, none, none, some "Bogus", none, false, false⟩, rfl, rfl, by decide⟩

end Shoot

end ShootMachines
