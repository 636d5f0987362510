import ShootMachines.Gardener.SecretBinding
import ShootMachines.Machines.Plan
import ShootMachines.Proofs.Pool.HashedBytes
import ShootMachines.Proofs.Schema.ReadValues

/-!
# Round trips of resources

The layouts of the resources and of machine plans are faithful, so what was read of a resource reads back
from what it is written as, and a pool keeps its hash on the way. A machine plan holds no opaque document,
so every plan reads back, also one that was compiled and never read.
-/

namespace ShootMachines

/-- The tags of the sources of volumes. -/
def VolumeSource.tags : List String := ["pvc", "http", "blank"]

/-- What is read of a worker, a pool, a cloud profile, a shoot, a cluster, a secret binding or a machine
plan reads back from what it is written as and is then written the same way; a pool that is read back has
the hash that it had before. Every machine plan, and so every compiled one, reads back. The source of a
volume is written as an object with one of its tags; an object with none or several of them is refused. -/
theorem resources_read_back :
    (Worker.schema.ReadsBack ∧ WorkerPool.schema.ReadsBack ∧ CloudProfile.schema.ReadsBack ∧
      Shoot.schema.ReadsBack ∧ Cluster.schema.ReadsBack ∧ SecretBinding.schema.ReadsBack ∧
      MachinePlan.schema.ReadsBack) ∧
    (∀ (payload : Payload) (pool : WorkerPool) (worker : Worker) (cluster : Cluster)
        (extra : List String), WorkerPool.schema.decode payload = .ok pool →
      (WorkerPool.schema.decode (WorkerPool.schema.encode pool)).map
        (fun pool => Pool.hash pool worker cluster extra) =
          .ok (Pool.hash pool worker cluster extra)) ∧
    (∀ plan : MachinePlan, MachinePlan.schema.decode (MachinePlan.schema.encode plan) = .ok plan) ∧
    (∀ source : VolumeSource, ∃ tag ∈ VolumeSource.tags, ∃ fields,
      VolumeSource.schema.encode source = .object [(tag, .object fields)]) ∧
    ∀ fields : List (String × Payload),
      (fields.countP fun field => field.1 ∈ VolumeSource.tags) ≠ 1 →
      ∃ mismatch, VolumeSource.schema.decode (.object fields) = .error mismatch := by
  have hpool : WorkerPool.schema.ReadsBack := Schema.reads_back (by decide)
  have hplan : MachinePlan.schema.faithful = true := by decide
  refine ⟨⟨Schema.reads_back (by decide), hpool, Schema.reads_back (by decide),
    Schema.reads_back (by decide), Schema.reads_back (by decide), Schema.reads_back (by decide),
    Schema.reads_back hplan⟩, ?_, ?_, ?_, ?_⟩
  · intro payload pool worker cluster extra hread
    rw [(hpool payload pool hread).1]
    rfl
  · exact fun plan => MachinePlan.schema.read_encode hplan plan
      (MachinePlan.schema.legible_of_definite (by decide) plan)
  · exact VolumeSource.schema.encode_choice (by decide) (by decide)
  · intro fields hcount
    cases hread : VolumeSource.schema.decode (.object fields) with
    | ok source => exact absurd (Schema.count_tags_of_read (by decide) hread) hcount
    | error mismatch => exact ⟨mismatch, rfl⟩

/-- A pool that is given as the list of its fields, with nulls for what it leaves out. -/
def positionalPool : Payload :=
  .list [.text "pool", .text "small", .list [.text "linux", .text "1"], .int 1, .int 3, .int 1,
    .text "25%", .object [], .object [("role", .text "web")], .list [], .text "aGk=", .null,
    .list [.list [.text "data", .null, .text "10Gi"]], .list [.text "a"], .null]

/-- The pool that the list stands for. -/
def positionalPoolValue : WorkerPool :=
  ⟨"pool", "small", ⟨"linux", "1"⟩, 1, 3, .int 1, .text "25%", .empty, Dict.empty.insert "role" "web",
    [], some [104, 105], none, [⟨"data", none, "10Gi"⟩], ["a"], none, none, none⟩

/-- The pool reads back from the object that it is written as, with the hash that it had; a volume without
a source and one with two are refused. -/
theorem positional_pool_reads_back :
    WorkerPool.schema.decode positionalPool = .ok positionalPoolValue ∧
      WorkerPool.schema.decode (WorkerPool.schema.encode positionalPoolValue) =
        .ok positionalPoolValue ∧
      (WorkerPool.schema.decode (WorkerPool.schema.encode positionalPoolValue)).map
        (fun pool => Pool.hash pool Pool.sampleWorker Pool.sampleCluster []) =
          .ok (Pool.hash positionalPoolValue Pool.sampleWorker Pool.sampleCluster []) ∧
      (∃ mismatch, VolumeSource.schema.decode (.object []) = .error mismatch) ∧
      ∃ mismatch, VolumeSource.schema.decode
        (.object [("blank", .object []), ("http", .object [("url", .text "https://images/1")])]) =
          .error mismatch := by
  have hread : WorkerPool.schema.decode positionalPool = .ok positionalPoolValue := rfl
  obtain ⟨⟨_, hpool, _⟩, hhash, _, _, hrefused⟩ := resources_read_back
  exact ⟨hread, (hpool _ _ hread).1, hhash _ _ _ _ [] hread,
    hrefused [] (by decide), hrefused _ (by decide)⟩

end ShootMachines
