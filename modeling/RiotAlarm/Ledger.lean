import Mathlib.Data.List.Nodup
import Mathlib.Data.List.Perm.Subperm
import Mathlib.Data.List.Range

/-! An account of the blocks that one call site allocates and releases, kept beside
whatever points to them. Blocks are numbered in the order of their allocation. -/
namespace Ledger

/-- Block 0 up to `limit` have been allocated; `released` keeps every release, newest first. -/
structure Account where
  limit : Nat
  released : List Nat

namespace Account
variable {acc : Account} {reach reach' : List Nat}

def malloc (acc : Account) : Account := { acc with limit := acc.limit + 1 }

def free (acc : Account) (a : Nat) : Account := { acc with released := a :: acc.released }

def unreleased (acc : Account) : List Nat := (List.range acc.limit).filter (· ∉ acc.released)

/-- No block is released twice, and every block that is not released is within reach. -/
structure Balanced (acc : Account) (reach : List Nat) : Prop where
  once : acc.released.Nodup
  held : ∀ a ∈ acc.unreleased, a ∈ reach

/-- The conservation law: each allocated block is either released or within reach, once. -/
def Exact (acc : Account) (reach : List Nat) : Prop := (acc.released ++ reach).Perm (List.range acc.limit)

theorem Exact.malloc (law : acc.Exact reach) : acc.malloc.Exact (acc.limit :: reach) := by
  have first : (acc.released ++ acc.limit :: reach).Perm (acc.limit :: (acc.released ++ reach)) := List.perm_middle
  have last : (acc.limit :: List.range acc.limit).Perm (List.range (acc.limit + 1)) := by
    rw [List.range_succ]
    exact (List.perm_append_singleton _ _).symm
  exact (first.trans (law.cons _)).trans last

theorem Exact.free (law : acc.Exact (a :: reach)) : (acc.free a).Exact reach :=
  List.perm_middle.symm.trans law

theorem Exact.reorder (law : acc.Exact reach) (same : reach.Perm reach') : acc.Exact reach' :=
  (same.symm.append_left acc.released).trans law

theorem Exact.distinct (law : acc.Exact reach) : (acc.released ++ reach).Nodup :=
  law.nodup_iff.mpr List.nodup_range

theorem Exact.mem_unreleased (law : acc.Exact reach) : a ∈ acc.unreleased ↔ a ∈ reach := by
  obtain ⟨-, -, apart⟩ := List.nodup_append.mp law.distinct
  have allocated : a < acc.limit ↔ a ∈ acc.released ∨ a ∈ reach := by
    rw [← List.mem_range, ← law.mem_iff, List.mem_append]
  simp only [unreleased, List.mem_filter, List.mem_range, decide_eq_true_eq, allocated]
  constructor
  · rintro ⟨gone | held, kept⟩
    · exact absurd gone kept
    · exact held
  · intro held
    exact ⟨.inr held, fun gone => apart a gone a held rfl⟩

theorem Exact.balanced (law : acc.Exact reach) : acc.Balanced reach where
  once := (List.nodup_append.mp law.distinct).1
  held _ := law.mem_unreleased.mp

/-- A block that goes out of reach without being released unbalances the account. -/
theorem Exact.forgotten (law : acc.Exact reach) (held : a ∈ reach) (lost : a ∉ reach') : ¬ acc.Balanced reach' :=
  fun balanced => lost (balanced.held a (law.mem_unreleased.mpr held))

theorem Exact.length_unreleased (law : acc.Exact reach) : acc.unreleased.length = reach.length := by
  have distinct : acc.unreleased.Nodup := List.nodup_range.filter _
  have same := (List.perm_ext_iff_of_nodup distinct (List.nodup_append.mp law.distinct).2.1).mpr fun _ => law.mem_unreleased
  exact same.length_eq

/-- So does an allocation whose result is not kept. -/
theorem Exact.malloc_lost (law : acc.Exact reach) : ¬ acc.malloc.Balanced reach := by
  refine law.malloc.forgotten (List.mem_cons_self) ?_
  exact (List.nodup_cons.mp (List.nodup_append.mp law.malloc.distinct).2.1).1

/-- A second release of one block. -/
theorem not_balanced_twice (twice : acc.released = a :: a :: rest) : ¬ acc.Balanced reach := by
  intro balanced
  have once := balanced.once
  simp [twice] at once

theorem Balanced.length_le (balanced : acc.Balanced reach) : acc.unreleased.length ≤ reach.length := by
  have distinct : acc.unreleased.Nodup := List.nodup_range.filter _
  exact (List.subperm_of_subset distinct balanced.held).length_le

/-- Fewer blocks are within reach than there should be. -/
theorem Exact.shrunk (law : acc.Exact reach) (fewer : reach'.length < reach.length) : ¬ acc.Balanced reach' := by
  intro balanced
  have enough := balanced.length_le
  rw [law.length_unreleased] at enough
  omega

end Account

end Ledger
