import ShootMachines.Machines.PoolPlan
import ShootMachines.Proofs.Text.TextLemmas

/-!
# Names of zones

The names of deployments and classes are put together from texts that may hold anything, and still they
come apart again. The position of a zone is read from the end of a name: it is the last run of digits,
after a letter. The hash at the end of a class name has always the same length. So different zones have
different names, whatever the pools are called: `deployment_name_inj`, `class_name_inj`.
-/

namespace ShootMachines

namespace Sha256

/-- A digest has 32 bytes. -/
theorem length_digest (message : Bytes) : (digest message).length = 32 := rfl

/-- A digest is written in 64 digits. -/
theorem length_hex_digest (message : Bytes) : (hexDigest message).length = 64 := by
  have hbyte (byte : UInt8) : (hexByte byte).length = 2 := rfl
  unfold hexDigest
  simp only [List.length_flatMap, hbyte, List.map_const', List.sum_replicate_nat, length_digest]

end Sha256

/-- A pool hash has a fixed number of digits. -/
theorem Pool.length_hash (pool : WorkerPool) (worker : Worker) (cluster : Cluster)
    (extra : List String) : (Pool.hash pool worker cluster extra).toList.length = hashLength := by
  unfold hash
  rw [String.toList_ofList, List.length_take, Sha256.length_hex_digest]
  rfl

/-- Deployments of one namespace with the same name are those of one zone of one pool. -/
theorem deployment_name_inj {space pool other : String} {zone position : Nat}
    (h : deploymentName space pool zone = deploymentName space other position) :
    pool = other ∧ zone = position := by
  have hdigits (number : Nat) : number.repr.toList.reverse.all Char.isDigit = true := by
    rw [List.all_reverse]
    exact all_is_digit_repr number
  -- Reversed, a name starts with the digits of the position, and a letter ends them.
  have hreversed (pool : String) (zone : Nat) :
      (deploymentName space pool zone).toList.reverse =
        (zone + 1).repr.toList.reverse ++ 'z' :: '-' :: (space ++ "-" ++ pool).toList.reverse := by
    unfold deploymentName
    rw [String.toList_append, String.toList_append, List.reverse_append, List.reverse_append]
    rfl
  have hsame : (deploymentName space pool zone).toList.reverse =
      (deploymentName space other position).toList.reverse := by rw [h]
  rw [hreversed, hreversed] at hsame
  obtain ⟨hzone, hpool⟩ := run_append_inj (hdigits _) (hdigits _) (.cons (by decide) _)
    (.cons (by decide) _) hsame
  simp only [List.cons.injEq, true_and, List.reverse_inj, String.toList_append,
    List.append_cancel_left_eq] at hpool
  have hnumber := repr_inj (String.toList_inj.1 (List.reverse_inj.1 hzone))
  exact ⟨String.toList_inj.1 hpool, Nat.succ.inj hnumber⟩

/-- Classes with the same name, and hashes of one length, are those of one deployment and hash. -/
theorem class_name_inj {deployment other hash otherHash : String}
    (hlength : hash.toList.length = otherHash.toList.length)
    (h : className deployment hash = className other otherHash) :
    deployment = other ∧ hash = otherHash := by
  have hsame := congrArg String.toList h
  unfold className at hsame
  simp only [String.toList_append] at hsame
  -- The hash is cut off from the end, by its length.
  obtain ⟨hdeployment, hhash⟩ := List.append_inj' hsame hlength
  exact ⟨String.toList_inj.1 (List.append_cancel_right hdeployment), String.toList_inj.1 hhash⟩

end ShootMachines
