import Mathlib.Data.Fintype.BigOperators

/-!
# Queues in buckets

Entries wait in a pending list until they are filed into buckets, and are then taken
from the buckets. How often an entry occurs in the list and the buckets taken together
is what pushing, replacing a bucket and filing are described by (`count_push`,
`count_setBucket`, `count_file`).
-/

namespace Otserv.Foundation

structure BucketQueue (Bucket Entry : Type*) where
  pending : List Entry
  buckets : Bucket → List Entry

namespace BucketQueue

variable {Bucket Entry : Type*} [DecidableEq Bucket] (queue : BucketQueue Bucket Entry)

def push (entry : Entry) : BucketQueue Bucket Entry :=
  { queue with pending := entry :: queue.pending }

def setBucket (bucket : Bucket) (entries : List Entry) : BucketQueue Bucket Entry :=
  { queue with buckets := Function.update queue.buckets bucket entries }

/-- File each pending entry at the end of the bucket it belongs in. -/
def file (place : Entry → Bucket) : BucketQueue Bucket Entry where
  pending := []
  buckets := queue.pending.foldl (fun buckets entry =>
    Function.update buckets (place entry) (buckets (place entry) ++ [entry])) queue.buckets

variable [Fintype Bucket] [DecidableEq Entry]

/-- How often the entry occurs, in the pending list and the buckets taken together. -/
def count (entry : Entry) : Nat :=
  queue.pending.count entry + ∑ bucket, (queue.buckets bucket).count entry

omit [DecidableEq Bucket] in
theorem count_push (entry other : Entry) :
    (queue.push entry).count other = queue.count other + if other = entry then 1 else 0 := by
  rw [count, count, push, List.count_cons]
  by_cases same : other = entry
  · simp [same, Nat.add_right_comm]
  · simp [same, Ne.symm same]

theorem count_bucket_le (bucket : Bucket) (entry : Entry) :
    (queue.buckets bucket).count entry ≤ queue.count entry := by
  have total := Finset.add_sum_erase Finset.univ
    (fun other => (queue.buckets other).count entry) (Finset.mem_univ bucket)
  rw [count]
  omega

/-- What a bucket held is exchanged for what it holds now. -/
theorem count_setBucket (bucket : Bucket) (entries : List Entry) (entry : Entry) :
    (queue.setBucket bucket entries).count entry + (queue.buckets bucket).count entry =
      queue.count entry + entries.count entry := by
  have others : ∀ other, other ∈ Finset.univ.erase bucket →
      (Function.update queue.buckets bucket entries other).count entry =
        (queue.buckets other).count entry := by
    intro other member
    rw [Function.update_of_ne (Finset.ne_of_mem_erase member)]
  have before := Finset.add_sum_erase Finset.univ
    (fun other => (queue.buckets other).count entry) (Finset.mem_univ bucket)
  have after := Finset.add_sum_erase Finset.univ
    (fun other => (Function.update queue.buckets bucket entries other).count entry)
    (Finset.mem_univ bucket)
  rw [Finset.sum_congr rfl others, Function.update_self] at after
  simp only [count, setBucket]
  omega

theorem count_append (bucket : Bucket) (entry other : Entry) :
    (queue.setBucket bucket (queue.buckets bucket ++ [entry])).count other =
      queue.count other + if other = entry then 1 else 0 := by
  have exchanged := queue.count_setBucket bucket (queue.buckets bucket ++ [entry]) other
  rw [List.count_append, List.count_singleton] at exchanged
  by_cases same : other = entry
  · subst same
    simp only [beq_self_eq_true, if_true] at exchanged ⊢
    omega
  · have apart : (entry == other) = false := by simpa using Ne.symm same
    simp only [apart, Bool.false_eq_true, if_false] at exchanged
    rw [if_neg same]
    omega

/-- Filing loses no entry and adds none. -/
theorem count_file (place : Entry → Bucket) (entry : Entry) :
    (queue.file place).count entry = queue.count entry := by
  obtain ⟨pending, buckets⟩ := queue
  induction pending generalizing buckets with
  | nil => rfl
  | cons first pending ih =>
    have step := ih (Function.update buckets (place first) (buckets (place first) ++ [first]))
    have filed := count_append ⟨pending, buckets⟩ (place first) first entry
    have pushed := count_push ⟨pending, buckets⟩ first entry
    calc (file ⟨first :: pending, buckets⟩ place).count entry
        = count ⟨pending, Function.update buckets (place first)
            (buckets (place first) ++ [first])⟩ entry := step
      _ = count ⟨first :: pending, buckets⟩ entry := filed.trans pushed.symm

end BucketQueue

end Otserv.Foundation
