import Mathlib.Data.Finset.Lattice.Fold
import Mathlib.Order.Lattice.Nat

/-!
# Sampled rows

`dedupe_sampled_rows` of `crates/dbx-core/src/data/data_compare.rs:1869`. The branches of a sampling
query can pick the same row of the table, so that the rows it gives, each with the marker of its
branch as last value, hold a row more often than the table does. A row is kept as often as in the
branch that has it most often.
-/

namespace DbxSpec.Compare

open List Function

variable {V : Type} [DecidableEq V]

/-- The counters of a row: how often each branch had it, and how often it was kept. -/
structure SampleCounts (V : Type) where
  branchCounts : V → Nat := fun _ => 0
  retainedCount : Nat := 0

/-- The loop of `data_compare.rs:1872`. Counters that have not been written are 0. -/
def dedupeLoop (counts : List V → SampleCounts V) : List (List V) → List (List V)
  | [] => []
  | tagged :: rows =>
    match tagged.getLast? with
    | none => tagged :: dedupeLoop counts rows
    | some branch =>
      let row := tagged.dropLast
      let retainedCount := (counts row).retainedCount
      let branchCount := (counts row).branchCounts branch + 1
      let sampled := dedupeLoop (update counts row
        ⟨update (counts row).branchCounts branch branchCount,
          if retainedCount < branchCount then branchCount else retainedCount⟩) rows
      if retainedCount < branchCount then row :: sampled else sampled

/-- `data_compare.rs:1869`. -/
def dedupeSampledRows (rows : List (List V)) : List (List V) := dedupeLoop (fun _ => {}) rows

/-- A row with the marker of its branch. -/
def tagged (sample : List V × V) : List V := sample.1 ++ [sample.2]

/-- How often a row is in the branch that has it most often. -/
def maxBranchCount (samples : List (List V × V)) (row : List V) : Nat :=
  (samples.map Prod.snd).toFinset.sup fun branch => samples.count (row, branch)

variable {samples : List (List V × V)} {row : List V}

private theorem maxBranchCount_le_iff {n : Nat} :
    maxBranchCount samples row ≤ n ↔ ∀ branch, samples.count (row, branch) ≤ n := by
  rw [maxBranchCount, Finset.sup_le_iff]
  constructor
  · intro h branch
    by_cases hmem : (row, branch) ∈ samples
    · exact h branch (mem_toFinset.mpr (mem_map_of_mem hmem))
    · rw [count_eq_zero_of_not_mem hmem]
      exact Nat.zero_le n
  · intro h branch _
    exact h branch

/-- The counters after some samples. -/
structure Counted (samples : List (List V × V)) (counts : List V → SampleCounts V) : Prop where
  branch : ∀ row branch, (counts row).branchCounts branch = samples.count (row, branch)
  retained : ∀ row n, (counts row).retainedCount ≤ n ↔ ∀ branch, samples.count (row, branch) ≤ n

variable {counts : List V → SampleCounts V}

private theorem Counted.step (h : Counted samples counts) (row : List V) (branch : V) :
    Counted (samples ++ [(row, branch)]) (update counts row
      ⟨update (counts row).branchCounts branch ((counts row).branchCounts branch + 1),
        max (counts row).retainedCount ((counts row).branchCounts branch + 1)⟩) := by
  have hcount : ∀ other marker, (samples ++ [(row, branch)]).count (other, marker) =
      samples.count (other, marker) + if row = other ∧ branch = marker then 1 else 0 := by
    intro other marker
    simp [count_append, count_singleton]
  constructor
  · intro other marker
    rw [hcount, ← h.branch]
    by_cases hrow : row = other
    · subst hrow
      by_cases hbranch : branch = marker
      · subst hbranch
        simp
      · simp [hbranch, Ne.symm hbranch]
    · simp [hrow, Ne.symm hrow]
  · intro other n
    by_cases hrow : row = other
    · subst hrow
      simp only [update_self, max_le_iff, h.retained, h.branch, hcount, true_and]
      constructor
      · rintro ⟨hbefore, hbranch⟩ marker
        split
        · next hmarker => exact hmarker ▸ hbranch
        · exact hbefore marker
      · intro hall
        refine ⟨fun marker => (Nat.le_add_right _ _).trans (hall marker), ?_⟩
        simpa using hall branch
    · simp [h.retained, hcount, hrow, Ne.symm hrow]

private theorem count_dedupeLoop (h : Counted samples counts) (rest : List (List V × V)) (n : Nat) :
    (dedupeLoop counts (rest.map tagged)).count row + (counts row).retainedCount ≤ n ↔
      ∀ branch, (samples ++ rest).count (row, branch) ≤ n := by
  induction rest generalizing samples counts with
  | nil => simp [dedupeLoop, h.retained]
  | cons sample rest ih =>
    obtain ⟨own, branch⟩ := sample
    have hbound : (counts own).branchCounts branch ≤ (counts own).retainedCount := by
      rw [h.branch]
      exact (h.retained own _).mp le_rfl branch
    have hlater := ih (h.step own branch)
    rw [append_assoc, singleton_append] at hlater
    rw [← hlater, map_cons, dedupeLoop, tagged, getLast?_concat]
    simp only [dropLast_concat, ← max_def_lt]
    by_cases hrow : row = own
    · subst hrow
      simp only [update_self]
      split
      · rw [count_cons_self]
        omega
      · omega
    · rw [update_of_ne hrow]
      split
      · rw [count_cons_of_ne (Ne.symm hrow)]
      · rfl

/-- Among sampled rows, in whatever order the branches gave them, each is kept as often as it is in
the branch that has it most often. -/
theorem count_dedupeSampledRows (samples : List (List V × V)) (row : List V) :
    (dedupeSampledRows (samples.map tagged)).count row = maxBranchCount samples row := by
  have hnone : Counted [] (fun _ : List V => ({} : SampleCounts V)) := ⟨by simp, by simp⟩
  apply eq_of_forall_ge_iff
  intro n
  rw [maxBranchCount_le_iff]
  exact count_dedupeLoop hnone samples n

end DbxSpec.Compare
