import Mathlib.Data.List.Basic

/-!
# Tables under SQL

The truth values of SQL with `unknown`, conditions on the rows of a table, and the statements that
change the rows for which a condition is true. A table is a list of rows; the last section cuts a
list into batches of a size.
-/

namespace DbxSpec.Base

/-! ### Truth -/

/-- True, false, or unknown. -/
abbrev Truth := Option Bool

namespace Truth

/-- `AND`. -/
def and : Truth → Truth → Truth
  | some false, _ => some false
  | _, some false => some false
  | some true, some true => some true
  | _, _ => none

/-- `OR`. -/
def or : Truth → Truth → Truth
  | some true, _ => some true
  | _, some true => some true
  | some false, some false => some false
  | _, _ => none

variable (conditions : List Truth)

/-- Conditions joined by `AND`. -/
def all : Truth := conditions.foldr and (some true)

/-- Conditions joined by `OR`. -/
def any : Truth := conditions.foldr or (some false)

@[simp]
private theorem and_eq_true_iff (a b : Truth) :
    a.and b = some true ↔ a = some true ∧ b = some true := by
  rcases a with _ | _ | _ <;> rcases b with _ | _ | _ <;> simp [and]

@[simp]
private theorem or_eq_true_iff (a b : Truth) :
    a.or b = some true ↔ a = some true ∨ b = some true := by
  rcases a with _ | _ | _ <;> rcases b with _ | _ | _ <;> simp [or]

/-- A conjunction is true if all conditions are. -/
@[simp]
theorem all_eq_true_iff : all conditions = some true ↔ ∀ t ∈ conditions, t = some true := by
  induction conditions with
  | nil => simp [all]
  | cons t conditions ih =>
    rw [all] at ih
    rw [all, List.foldr_cons, and_eq_true_iff, ih, List.forall_mem_cons]

/-- A disjunction is true if a condition is. -/
@[simp]
theorem any_eq_true_iff : any conditions = some true ↔ ∃ t ∈ conditions, t = some true := by
  induction conditions with
  | nil => simp [any]
  | cons t conditions ih =>
    rw [any] at ih
    rw [any, List.foldr_cons, or_eq_true_iff, ih, List.exists_mem_cons_iff]

end Truth

section

variable {V : Type} [DecidableEq V]

/-- `a = b`, which is unknown if one of them is null. -/
def sqlEq (null a b : V) : Truth := if a = null ∨ b = null then none else some (decide (a = b))

/-- Equal values that are not null. -/
theorem sqlEq_eq_true_iff (null a b : V) : sqlEq null a b = some true ↔ a = b ∧ b ≠ null := by
  unfold sqlEq
  split
  · next h =>
    constructor
    · intro hnone
      cases hnone
    · rintro ⟨rfl, hb⟩
      exact absurd h (by simp [hb])
  · next h =>
    rw [not_or] at h
    simp [h.2]

/-- `a > b`, which is unknown if one of them is null. -/
def sqlGt [LT V] [DecidableLT V] (null a b : V) : Truth :=
  if a = null ∨ b = null then none else some (decide (b < a))

/-- Values that are not null, in order. -/
theorem sqlGt_eq_true_iff [LT V] [DecidableLT V] (null a b : V) :
    sqlGt null a b = some true ↔ a ≠ null ∧ b ≠ null ∧ b < a := by
  unfold sqlGt
  split
  · next h =>
    constructor
    · intro hnone
      cases hnone
    · rintro ⟨ha, hb, -⟩
      exact absurd h (by simp [ha, hb])
  · next h =>
    rw [not_or] at h
    simp [h.1, h.2]

end

/-! ### Statements -/

section

variable {ρ : Type}

/-- `UPDATE`: the rows for which the condition is true are changed. -/
def updateWhere (condition : ρ → Truth) (change : ρ → ρ) (rows : List ρ) : List ρ :=
  rows.map fun row => if condition row = some true then change row else row

/-- `DELETE`: the rows for which the condition is true are dropped. -/
def deleteWhere (condition : ρ → Truth) (rows : List ρ) : List ρ :=
  rows.filter fun row => condition row != some true

end

/-! ### Batches -/

section

variable {α : Type}

/-- The loop of `chunks`: one batch a round. -/
def chunksLoop (size : Nat) : Nat → List α → List (List α)
  | 0, _ => []
  | _ + 1, [] => []
  | rounds + 1, a :: l => (a :: l).take size :: chunksLoop size rounds ((a :: l).drop size)

/-- `slice::chunks`: batches of a size, the last of them with what is left. -/
def chunks (size : Nat) (l : List α) : List (List α) := chunksLoop size l.length l

/-- Chunks hold the list in order. -/
theorem flatten_chunks {size : Nat} (hsize : 0 < size) (l : List α) :
    (chunks size l).flatten = l := by
  have hloop : ∀ rounds (l : List α), l.length ≤ rounds →
      (chunksLoop size rounds l).flatten = l := by
    intro rounds
    induction rounds with
    | zero =>
      intro l hl
      rw [List.length_eq_zero_iff.mp (Nat.le_zero.mp hl)]
      rfl
    | succ rounds ih =>
      intro l hl
      rcases l with _ | ⟨a, l⟩
      · rfl
      have hrest : ((a :: l).drop size).length ≤ rounds := by
        rw [List.length_drop]
        omega
      rw [chunksLoop, List.flatten_cons, ih _ hrest, List.take_append_drop]
  exact hloop l.length l (Nat.le_refl _)

end

end DbxSpec.Base
