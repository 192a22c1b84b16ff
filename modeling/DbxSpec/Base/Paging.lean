import Mathlib.Data.List.Perm.Subperm
import Mathlib.Data.List.Sort

/-!
# Paged reading

A table that is read page after page. A page is a window of the table in the order of a key; rows
with the same key may stand in another order in every page. `readPages` is the loop of a reader with
a state between the pages; its rules follow what holds of the state and the rows so far.
-/

namespace DbxSpec.Base

open List List.Perm

/-! ### Arrangements -/

section

variable {ρ κ β : Type} [LinearOrder κ] {key : ρ → κ} {table arr other : List ρ}

/-- The rows of a table in ascending order of their keys. -/
structure Arrangement (key : ρ → κ) (table arr : List ρ) : Prop where
  perm : arr.Perm table
  sorted : arr.Pairwise fun a b => key a ≤ key b

/-- An arrangement of a table. -/
def arranged (key : ρ → κ) (table : List ρ) : List ρ :=
  table.insertionSort fun a b => key a ≤ key b

/-- A table can be arranged by its keys. -/
theorem arrangement_arranged (key : ρ → κ) (table : List ρ) :
    Arrangement key table (arranged key table) where
  perm := perm_insertionSort _ table
  sorted := by
    exact pairwise_insertionSort _ table

/-- How many rows have a smaller key. -/
def rowsBefore (key : ρ → κ) (table : List ρ) (c : κ) : Nat := table.countP (key · < c)

/-- How many rows have that key or a smaller one. -/
def rowsUpTo (key : ρ → κ) (table : List ρ) (c : κ) : Nat := table.countP (key · ≤ c)

/-- A row of the table is among those up to its key. -/
theorem rowsBefore_lt_rowsUpTo {a : ρ} (ha : a ∈ table) :
    rowsBefore key table (key a) < rowsUpTo key table (key a) := by
  obtain ⟨front, back, rfl⟩ := append_of_mem ha
  have hmono : ∀ rows : List ρ,
      rows.countP (key · < key a) ≤ rows.countP (key · ≤ key a) := fun rows =>
    countP_mono_left fun b _ hb => by simpa using (of_decide_eq_true hb).le
  have hfront := hmono front
  have hback := hmono back
  unfold rowsBefore rowsUpTo
  rw [countP_append, countP_append, countP_cons_of_neg (by simp), countP_cons_of_pos (by simp)]
  omega

/-- The last row of rows in order has the greatest key. -/
theorem key_le_getLast (hsorted : arr.Pairwise fun a b => key a ≤ key b) {last : ρ}
    (hlast : arr.getLast? = some last) {a : ρ} (ha : a ∈ arr) : key a ≤ key last := by
  obtain ⟨front, rfl⟩ := getLast?_eq_some_iff.mp hlast
  rw [mem_append, mem_singleton] at ha
  rcases ha with ha | rfl
  · exact (pairwise_append.mp hsorted).2.2 a ha last mem_cons_self
  · exact le_refl _

namespace Arrangement

private theorem map_key_eq (h : Arrangement key table arr) (h' : Arrangement key table other) :
    arr.map key = other.map key := by
  apply eq_of_pairwise (fun a b _ _ => le_antisymm)
  · exact pairwise_map.mpr h.sorted
  · exact pairwise_map.mpr h'.sorted
  · exact (h.perm.trans h'.perm.symm).map key

/-- A table with distinct keys has one arrangement. -/
theorem eq_of_nodup (h : Arrangement key table arr) (h' : Arrangement key table other)
    (hkeys : (table.map key).Nodup) : arr = other := by
  apply eq_of_pairwise _ h.sorted h'.sorted (h.perm.trans h'.perm.symm)
  intro a b ha hb hab hba
  exact inj_on_of_nodup_map hkeys (h.perm.mem_iff.mp ha) (h'.perm.mem_iff.mp hb)
    (le_antisymm hab hba)

section

variable {p : Nat} {c : κ}

section

variable (h : Arrangement key table arr)

include h

section

variable (hc : (arr.map key)[p]? = some c)

include hc

private theorem le_of_mem_take {a : ρ} (ha : a ∈ arr.take p) :
    key a ≤ c := by
  have hsorted : (arr.map key).Pairwise (· ≤ ·) := pairwise_map.mpr h.sorted
  rw [← take_append_drop p (arr.map key), pairwise_append] at hsorted
  apply hsorted.2.2
  · rw [← map_take]
    exact mem_map_of_mem ha
  · apply mem_of_getElem? (i := 0)
    rw [getElem?_drop, Nat.add_zero, hc]

private theorem le_of_mem_drop {a : ρ} (ha : a ∈ arr.drop p) :
    c ≤ key a := by
  have hsorted : ((arr.map key).drop p).Pairwise (· ≤ ·) :=
    (pairwise_map.mpr h.sorted).sublist (drop_sublist p _)
  have hmem : key a ∈ (arr.map key).drop p := by
    rw [← map_drop]
    exact mem_map_of_mem ha
  obtain ⟨hp, hget⟩ := List.getElem?_eq_some_iff.mp hc
  rw [drop_eq_getElem_cons hp, hget] at hsorted hmem
  rcases mem_cons.mp hmem with heq | hrest
  · exact heq.ge
  · exact (pairwise_cons.mp hsorted).1 _ hrest

private theorem take_perm_filter :
    (arr.take p).Perm (table.filter (key · < c) ++
      (arr.take p).filter fun a => !decide (key a < c)) := by
  have hdrop : (arr.drop p).filter (key · < c) = [] := by
    rw [filter_eq_nil_iff]
    intro a ha
    simpa using h.le_of_mem_drop hc ha
  have hlow : arr.filter (key · < c) = (arr.take p).filter (key · < c) := by
    conv_lhs => rw [← take_append_drop p arr]
    rw [filter_append, hdrop, append_nil]
  calc arr.take p
    _ |>.Perm ((arr.take p).filter (key · < c) ++
        (arr.take p).filter fun a => !decide (key a < c)) := (filter_append_perm _ _).symm
    _ |>.Perm (table.filter (key · < c) ++ (arr.take p).filter fun a => !decide (key a < c)) := by
      rw [← hlow]
      exact (h.perm.filter _).append_right _

private theorem rowsBefore_add_length : rowsBefore key table c +
    ((arr.take p).filter fun a => !decide (key a < c)).length = p := by
  obtain ⟨hp, -⟩ := List.getElem?_eq_some_iff.mp hc
  rw [length_map] at hp
  have hlength := (h.take_perm_filter hc).length_eq
  rw [length_append, length_take, Nat.min_eq_left hp.le, ← countP_eq_length_filter] at hlength
  exact hlength.symm

private theorem straddles (hrest : (arr.take p).filter (fun a => !decide (key a < c)) ≠ []) :
    rowsBefore key table c < p ∧ p < rowsUpTo key table c := by
  obtain ⟨hp, hget⟩ := List.getElem?_eq_some_iff.mp hc
  rw [length_map] at hp
  have hlength := h.rowsBefore_add_length hc
  have hpos := length_pos_iff.mpr hrest
  have hupTo : p + 1 ≤ arr.countP (key · ≤ c) := by
    have htake : (arr.take (p + 1)).countP (key · ≤ c) = p + 1 := by
      rw [countP_eq_length.mpr, length_take, Nat.min_eq_left hp]
      intro a ha
      rw [take_succ_eq_append_getElem hp, mem_append, mem_singleton] at ha
      rcases ha with ha | rfl
      · simpa using h.le_of_mem_take hc ha
      · simpa using hget.le
    calc p + 1
      _ = (arr.take (p + 1)).countP (key · ≤ c) := htake.symm
      _ ≤ arr.countP (key · ≤ c) := (take_sublist _ _).countP_le
  rw [rowsUpTo, ← h.perm.countP_eq (key · ≤ c)]
  omega

private theorem map_take_perm_replicate {shown : ρ → β} {z : β}
    (hz : rowsBefore key table c < p → p < rowsUpTo key table c →
      ∀ a ∈ table, key a = c → shown a = z) :
    ((arr.take p).map shown).Perm ((table.filter (key · < c)).map shown ++
      replicate (p - rowsBefore key table c) z) := by
  have hlength := h.rowsBefore_add_length hc
  have hrest : ((arr.take p).filter fun a => !decide (key a < c)).map shown =
      replicate (p - rowsBefore key table c) z := by
    rw [eq_replicate_iff]
    constructor
    · rw [length_map]
      omega
    · intro b hb
      obtain ⟨a, ha, rfl⟩ := mem_map.mp hb
      obtain ⟨hbefore, hupTo⟩ := h.straddles hc (ne_nil_of_mem ha)
      rw [mem_filter] at ha
      have hge : c ≤ key a := by simpa using ha.2
      exact hz hbefore hupTo a (h.perm.mem_iff.mp (mem_of_mem_take ha.1))
        (le_antisymm (h.le_of_mem_take hc ha.1) hge)
  rw [← hrest, ← map_append]
  exact (h.take_perm_filter hc).map shown

end

end

end

/-- Rows before a place look the same in all arrangements, if rows whose key straddles the place
look the same. -/
theorem map_take_perm (h : Arrangement key table arr) (h' : Arrangement key table other)
    (shown : ρ → β) {p : Nat}
    (hties : ∀ a ∈ table, ∀ b ∈ table, key a = key b → rowsBefore key table (key a) < p →
      p < rowsUpTo key table (key a) → shown a = shown b) :
    ((arr.take p).map shown).Perm ((other.take p).map shown) := by
  have hlength : arr.length = other.length := (h.perm.trans h'.perm.symm).length_eq
  by_cases hp : p < arr.length
  · have hc : (arr.map key)[p]? = some (key arr[p]) := by
      rw [getElem?_map, getElem?_eq_getElem hp]
      rfl
    have hplace : arr[p] ∈ table := h.perm.mem_iff.mp (getElem_mem hp)
    have hz : rowsBefore key table (key arr[p]) < p → p < rowsUpTo key table (key arr[p]) →
        ∀ a ∈ table, key a = key arr[p] → shown a = shown arr[p] := by
      intro hbefore hupTo a ha hkey
      rw [← hkey] at hbefore hupTo
      exact hties a ha _ hplace hkey hbefore hupTo
    have hc' := h.map_key_eq h' ▸ hc
    exact (h.map_take_perm_replicate hc hz).trans (h'.map_take_perm_replicate hc' hz).symm
  · rw [take_of_length_le (by omega), take_of_length_le (by omega)]
    exact (h.perm.trans h'.perm.symm).map shown

private theorem le_of_mem_take_rowsUpTo (h : Arrangement key table arr) {p : Nat} {c : κ}
    (hp : p ≤ rowsUpTo key table c) {a : ρ} (ha : a ∈ arr.take p) : key a ≤ c := by
  by_contra hover
  have hsorted := h.sorted
  rw [← take_append_drop p arr, pairwise_append] at hsorted
  have hdrop : (arr.drop p).countP (key · ≤ c) = 0 := by
    rw [countP_eq_zero]
    intro b hb
    simpa using (lt_of_not_ge hover).trans_le (hsorted.2.2 a ha b hb)
  have htake : (arr.take p).countP (key · ≤ c) < (arr.take p).length :=
    countP_le_length.lt_of_ne fun hall => hover (by simpa using countP_eq_length.mp hall a ha)
  rw [rowsUpTo, ← h.perm.countP_eq, ← take_append_drop p arr, countP_append, hdrop] at hp
  rw [length_take] at htake
  omega

private theorem le_of_mem_drop_rowsBefore (h : Arrangement key table arr) {p : Nat} {c : κ}
    (hp : rowsBefore key table c ≤ p) {a : ρ} (ha : a ∈ arr.drop p) : c ≤ key a := by
  by_contra hunder
  have hsorted := h.sorted
  rw [← take_append_drop p arr, pairwise_append] at hsorted
  have htake : (arr.take p).countP (key · < c) = (arr.take p).length := by
    rw [countP_eq_length]
    intro b hb
    simpa using (hsorted.2.2 b hb a ha).trans_lt (lt_of_not_ge hunder)
  have hdrop : 0 < (arr.drop p).countP (key · < c) :=
    countP_pos_iff.mpr ⟨a, ha, by simpa using hunder⟩
  have hlength := length_pos_of_mem ha
  rw [rowsBefore, ← h.perm.countP_eq, ← take_append_drop p arr, countP_append, htake] at hp
  rw [length_take] at hp
  rw [length_drop] at hlength
  omega

/-- Two rows with a key that straddles a place can stand on both sides of it, in either order. -/
theorem exists_swapped {x y : ρ} (hx : x ∈ table) (hy : y ∈ table) (hkey : key x = key y)
    (hne : x ≠ y) {p : Nat} (hbefore : rowsBefore key table (key x) < p)
    (hupTo : p < rowsUpTo key table (key x)) :
    ∃ front back, front.length + 1 = p ∧ Arrangement key table (front ++ x :: y :: back) ∧
      Arrangement key table (front ++ y :: x :: back) := by
  have hpair : [x, y] <+~ table := subperm_of_subset (by simpa using hne) (by simp [hx, hy])
  obtain ⟨l, hl, hsub⟩ := subperm_iff.mp hpair
  obtain ⟨rest, hrest⟩ := hsub.exists_perm_append
  have htable : ([x, y] ++ rest).Perm table := hrest.symm.trans hl
  -- The two rows are put back among the others, which are in order.
  have h := arrangement_arranged key rest
  have hlow : rowsBefore key rest (key x) ≤ p - 1 := by
    rw [rowsBefore, ← htable.countP_eq] at hbefore
    simp [← hkey] at hbefore
    rw [rowsBefore]
    omega
  have hhigh : p - 1 ≤ rowsUpTo key rest (key x) := by
    rw [rowsUpTo, ← htable.countP_eq] at hupTo
    simp [← hkey] at hupTo
    rw [rowsUpTo]
    omega
  have horder : ∀ a b, [a, b].Perm [x, y] → Arrangement key table
      ((arranged key rest).take (p - 1) ++ a :: b :: (arranged key rest).drop (p - 1)) := by
    intro a b hab
    have hkeys : ∀ row ∈ [a, b], key row = key x := by
      intro row hrow
      rcases mem_pair.mp (hab.subset hrow) with rfl | rfl
      · rfl
      · exact hkey.symm
    have hback : ∀ row ∈ [a, b] ++ (arranged key rest).drop (p - 1), key x ≤ key row := by
      intro row hrow
      rcases mem_append.mp hrow with hrow | hrow
      · exact (hkeys row hrow).ge
      · exact h.le_of_mem_drop_rowsBefore hlow hrow
    constructor
    · have hperm := (perm_append_comm_assoc ((arranged key rest).take (p - 1)) [a, b]
        ((arranged key rest).drop (p - 1))).trans (hab.append_right _)
      rw [take_append_drop] at hperm
      exact (hperm.trans (h.perm.append_left _)).trans htable
    · rw [pairwise_append, pairwise_cons, pairwise_cons]
      refine ⟨h.sorted.sublist (take_sublist _ _), ⟨fun row hrow => ?_, fun row hrow => ?_,
        h.sorted.sublist (drop_sublist _ _)⟩, fun row hrow later hlater => ?_⟩
      · exact (hkeys a (by simp)).trans_le (hback row (mem_cons_of_mem a hrow))
      · exact (hkeys b (by simp)).trans_le (hback row (by simp [hrow]))
      · exact (h.le_of_mem_take_rowsUpTo hhigh hrow).trans (hback later hlater)
  refine ⟨_, _, ?_, horder x y (List.Perm.refl _), horder y x (swap x y [])⟩
  have hlength := hhigh.trans countP_le_length
  rw [length_take, h.perm.length_eq]
  omega

end Arrangement

end

/-! ### The loop of a reader -/

section

variable {σ α ε : Type} (page : Nat → σ → Except ε (List α)) (advance : σ → List α → Option σ)
  (batchSize budget : Nat)

/-- Pages are read until one is not full or there are as many rows as wanted. The state says where
the next page starts; without a next state the reader gives up. The first number bounds the
rounds. -/
def readPages : Nat → σ → List α → Except ε (Option (List α))
  | 0, _, rows => .ok (some rows)
  | rounds + 1, state, rows =>
    if rows.length < budget then
      let size := min batchSize (budget - rows.length)
      match page size state with
      | .error e => .error e
      | .ok fetched =>
        if fetched.isEmpty then .ok (some rows)
        else if fetched.length < size then .ok (some (rows ++ fetched))
        else match advance state fetched with
          | none => .ok none
          | some next => readPages rounds next (rows ++ fetched)
    else .ok (some rows)

variable {page advance batchSize budget} {rounds : Nat} {rows : List α} {state : σ}

private theorem readPages_round {fetched : List α} (hbatch : 0 < batchSize)
    (hmore : rows.length < budget)
    (hpage : page (min batchSize (budget - rows.length)) state = .ok fetched) :
    readPages page advance batchSize budget (rounds + 1) state rows =
      if fetched.length < min batchSize (budget - rows.length) then .ok (some (rows ++ fetched))
      else match advance state fetched with
        | none => .ok none
        | some next => readPages page advance batchSize budget rounds next (rows ++ fetched) := by
  rw [readPages, if_pos hmore]
  dsimp only
  rw [hpage]
  dsimp only
  by_cases hempty : fetched.isEmpty
  · rw [if_pos hempty, isEmpty_iff.mp hempty, append_nil, if_pos (by rw [length_nil]; omega)]
  · rw [if_neg hempty]

/-- What every page keeps, and what holds of every outcome if this does. -/
theorem readPages_rule (Inv : σ → List α → Prop) (Good : Except ε (Option (List α)) → Prop)
    (hbatch : 0 < batchSize)
    (hdone : ∀ state rows, Inv state rows → budget ≤ rows.length → Good (.ok (some rows)))
    (hround : ∀ state rows, Inv state rows → rows.length < budget →
      match page (min batchSize (budget - rows.length)) state with
      | .error e => Good (.error e)
      | .ok fetched =>
        if fetched.length < min batchSize (budget - rows.length) then
          Good (.ok (some (rows ++ fetched)))
        else match advance state fetched with
          | none => Good (.ok none)
          | some next => Inv next (rows ++ fetched))
    (hrounds : budget ≤ rows.length + rounds) (hinv : Inv state rows) :
    Good (readPages page advance batchSize budget rounds state rows) := by
  induction rounds generalizing state rows with
  | zero => exact hdone state rows hinv hrounds
  | succ rounds ih =>
    by_cases hmore : rows.length < budget
    · have hnow := hround state rows hinv hmore
      split at hnow
      · next e hpage =>
        rw [readPages, if_pos hmore]
        simpa only [hpage] using hnow
      · next fetched hpage =>
        rw [readPages_round hbatch hmore hpage]
        split at hnow
        · next hshort => rwa [if_pos hshort]
        · next hfull =>
          rw [if_neg hfull]
          split at hnow
          · exact hnow
          · exact ih (by rw [length_append]; omega) hnow
    · rw [readPages, if_neg hmore]
      exact hdone state rows hinv (not_lt.mp hmore)

end

end DbxSpec.Base
