import ShootMachines.Pool.Hash
import ShootMachines.Proofs.Document.CanonicalText
import ShootMachines.Provider.Infrastructure

/-!
# Hashed bytes tell pools apart

The bytes that the hash of a pool digests start with the canonical JSON of the pool, up to the first
line break, so pools with different JSON have different bytes. What follows are lines, and as long as
none of them holds a line break itself, equal bytes have equal lines: `Pool.hashed_bytes_tell_apart`.
Networks are told apart by their tokens (`InfrastructureStatus.tokens_inj`).
-/

namespace ShootMachines

/-- Networks with the same tokens are the same, in order. -/
theorem InfrastructureStatus.tokens_inj {status other : InfrastructureStatus}
    (h : status.tokens = other.tokens) : status.networks = other.networks := by
  obtain ⟨networks⟩ := status
  obtain ⟨others⟩ := other
  have hflag {flag same : Bool} (hflag : (if flag then "true" else "false") =
      if same then "true" else "false") : flag = same := by
    cases flag <;> cases same <;> first | rfl | exact absurd hflag (by decide)
  unfold InfrastructureStatus.tokens at h
  dsimp only at h ⊢
  induction networks generalizing others with
  | nil =>
      cases others with
      | nil => rfl
      | cons other others => cases h
  | cons network networks ih =>
      cases others with
      | nil => cases h
      | cons other others =>
          obtain ⟨name, isDefault, sha⟩ := network
          obtain ⟨otherName, otherDefault, otherSha⟩ := other
          simp only [List.flatMap_cons, List.cons_append, List.nil_append, List.cons.injEq] at h
          obtain ⟨rfl, hdefault, rfl, hrest⟩ := h
          rw [hflag hdefault, ih others hrest]

namespace Pool

open Payload (Alike)

variable {pool other : WorkerPool} {worker otherWorker : Worker} {cluster otherCluster : Cluster}
  {extra otherExtra : List String}

/-- The hashed bytes start with the canonical JSON of the pool and a line break. -/
theorem hashed_bytes_eq (pool : WorkerPool) (worker : Worker) (cluster : Cluster)
    (extra : List String) :
    ∃ rest, hashedBytes pool worker cluster extra =
      Utf8.encode (Json.write (WorkerPool.schema.encode pool)) ++ 10 :: rest := by
  unfold hashedBytes hashedText hashedLines Json.write
  rw [String.ofList_append, Utf8.encode_append, List.cons_append, List.flatMap_cons, List.cons_append,
    Utf8.encode_newline]
  exact ⟨_, rfl⟩

/-- Equal hashed bytes are those of alike pools, with the same text after the JSON. -/
theorem alike_of_hashed_bytes (h : hashedBytes pool worker cluster extra =
      hashedBytes other otherWorker otherCluster otherExtra) :
    Alike (WorkerPool.schema.encode pool) (WorkerPool.schema.encode other) ∧
      ((hashedLines pool worker cluster extra).flatMap fun line => '\n' :: line.toList) =
        (hashedLines other otherWorker otherCluster otherExtra).flatMap fun line =>
          '\n' :: line.toList := by
  have htext : hashedText pool worker cluster extra =
      hashedText other otherWorker otherCluster otherExtra :=
    String.ofList_inj.1 (Utf8.encode_inj h)
  have hbreak (version : String) (lines : List String) :
      StartsOutside Json.isNumeral
        ((version :: lines).flatMap fun line => '\n' :: line.toList) :=
    .cons (by decide) _
  exact Json.write_chars_append_inj (hbreak _ _) (hbreak _ _) _ _ htext

/-- If no line after the JSON holds a line break, hashed bytes are equal exactly for alike pools with
the same lines. -/
theorem hashed_bytes_eq_iff
    (hlines : ∀ line ∈ hashedLines pool worker cluster extra, OneLine line)
    (hothers : ∀ line ∈ hashedLines other otherWorker otherCluster otherExtra, OneLine line) :
    hashedBytes pool worker cluster extra =
        hashedBytes other otherWorker otherCluster otherExtra ↔
      Alike (WorkerPool.schema.encode pool) (WorkerPool.schema.encode other) ∧
        hashedLines pool worker cluster extra =
          hashedLines other otherWorker otherCluster otherExtra := by
  constructor
  · intro h
    obtain ⟨halike, hrest⟩ := alike_of_hashed_bytes h
    exact ⟨halike, separated_inj hlines hothers hrest⟩
  · rintro ⟨halike, hsame⟩
    unfold hashedBytes hashedText
    rw [Json.write_chars_eq_of_alike halike, hsame]

/-- Whatever else is hashed, the hashed bytes up to the first line break are the canonical JSON of the
pool, so pools whose JSON is not alike have different bytes. If no version, namespace, region or further
text holds a line break, bytes are equal exactly if the pools have alike JSON and all of these are the
same, the further texts in order. With the tokens of networks as further texts, other networks have
other bytes. -/
theorem hashed_bytes_tell_apart (pool other : WorkerPool) (worker otherWorker : Worker)
    (cluster otherCluster : Cluster) (extra otherExtra : List String) :
    (∃ rest, hashedBytes pool worker cluster extra =
        Utf8.encode (Json.write (WorkerPool.schema.encode pool)) ++ 10 :: rest) ∧
      10 ∉ Utf8.encode (Json.write (WorkerPool.schema.encode pool)) ∧
      (¬Alike (WorkerPool.schema.encode pool) (WorkerPool.schema.encode other) →
        hashedBytes pool worker cluster extra ≠
          hashedBytes other otherWorker otherCluster otherExtra) ∧
      ((∀ line ∈ hashedLines pool worker cluster extra, OneLine line) →
        (∀ line ∈ hashedLines other otherWorker otherCluster otherExtra, OneLine line) →
          (hashedBytes pool worker cluster extra =
              hashedBytes other otherWorker otherCluster otherExtra ↔
            Alike (WorkerPool.schema.encode pool) (WorkerPool.schema.encode other) ∧
              pool.kubernetesVersion.getD cluster.shoot.spec.kubernetes.version =
                other.kubernetesVersion.getD otherCluster.shoot.spec.kubernetes.version ∧
              worker.metadata.space.getD "" = otherWorker.metadata.space.getD "" ∧
              worker.spec.region = otherWorker.spec.region ∧
              extra = otherExtra)) ∧
      ∀ status otherStatus : InfrastructureStatus,
        (∀ line ∈ hashedLines pool worker cluster status.tokens, OneLine line) →
        (∀ line ∈ hashedLines other otherWorker otherCluster otherStatus.tokens, OneLine line) →
        status.networks ≠ otherStatus.networks →
          hashedBytes pool worker cluster status.tokens ≠
            hashedBytes other otherWorker otherCluster otherStatus.tokens := by
  have hlines_eq_iff {texts otherTexts : List String} :
      hashedLines pool worker cluster texts =
          hashedLines other otherWorker otherCluster otherTexts ↔
        pool.kubernetesVersion.getD cluster.shoot.spec.kubernetes.version =
            other.kubernetesVersion.getD otherCluster.shoot.spec.kubernetes.version ∧
          worker.metadata.space.getD "" = otherWorker.metadata.space.getD "" ∧
          worker.spec.region = otherWorker.spec.region ∧ texts = otherTexts := by
    unfold hashedLines
    simp only [List.cons_append, List.nil_append, List.cons.injEq]
    rfl
  refine ⟨hashed_bytes_eq pool worker cluster extra,
    Utf8.newline_not_mem_encode (Json.one_line_write _), ?_, ?_, ?_⟩
  · intro hdifferent hsame
    exact hdifferent (alike_of_hashed_bytes hsame).1
  · intro hlines hothers
    rw [hashed_bytes_eq_iff hlines hothers, hlines_eq_iff]
  · intro status otherStatus hlines hothers hdifferent hsame
    obtain ⟨_, hrest⟩ := (hashed_bytes_eq_iff hlines hothers).1 hsame
    obtain ⟨_, _, _, htokens⟩ := hlines_eq_iff.1 hrest
    exact hdifferent (InfrastructureStatus.tokens_inj htokens)

/-- A pool without anything that may be missing. -/
def samplePool : WorkerPool :=
  ⟨"pool", "small", ⟨"linux", "1"⟩, 1, 1, .int 1, .int 0, .empty, .empty, [], none, none, [], ["a"],
    none, none, none⟩

/-- A worker in a region. -/
def sampleWorker : Worker :=
  ⟨.empty, ⟨"kubevirt", "region", ⟨"secret", "space"⟩, none, none, [samplePool]⟩, none⟩

/-- A cluster with a Kubernetes version. -/
def sampleCluster : Cluster :=
  ⟨⟨.empty, "kubevirt", [], [], none⟩,
    ⟨.empty, "profile", "region", "", ⟨"1.31.0"⟩, ⟨none, none, none, none⟩,
      ⟨"kubevirt", none, none, []⟩⟩⟩

/-- Two networks in the other order have other hashed bytes. -/
theorem sample_networks_told_apart :
    hashedBytes samplePool sampleWorker sampleCluster
        (InfrastructureStatus.tokens ⟨[⟨"front", true, "1"⟩, ⟨"back", false, "2"⟩]⟩) ≠
      hashedBytes samplePool sampleWorker sampleCluster
        (InfrastructureStatus.tokens ⟨[⟨"back", false, "2"⟩, ⟨"front", true, "1"⟩]⟩) :=
  (hashed_bytes_tell_apart samplePool samplePool sampleWorker sampleWorker sampleCluster
    sampleCluster [] []).2.2.2.2 ⟨[⟨"front", true, "1"⟩, ⟨"back", false, "2"⟩]⟩
    ⟨[⟨"back", false, "2"⟩, ⟨"front", true, "1"⟩]⟩ (by decide) (by decide) (by decide)

end Pool

end ShootMachines
