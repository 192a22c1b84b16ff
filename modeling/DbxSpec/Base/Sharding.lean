import Mathlib.Data.List.Perm.Basic
import Mathlib.Data.List.Find

/-!
# Work split over the parts of a list

A list whose elements are dealt out to parts, and a loop run on one part only: when every element
belongs to exactly one part, the parts together are the list, and a loop on a part simulates the
loop on the whole list whenever the elements outside leave the relation between them alone.
-/

namespace DbxSpec.Base

open List

variable {ι α β γ : Type} (belongs : ι → α → Bool)

section

variable (parts : List ι)

private theorem flatMap_ite_singleton (x : α) :
    (parts.flatMap fun part => if belongs part x then [x] else []) =
      replicate (parts.countP (belongs · x)) x := by
  induction parts with
  | nil => rfl
  | cons part parts ih =>
    by_cases hb : belongs part x <;> simp [hb, ih, replicate_succ]

variable {δ : Type} {l : List α} (h : ∀ x ∈ l, parts.countP (belongs · x) = 1)

include h

private theorem flatMap_filter_perm :
    (parts.flatMap fun part => l.filter (belongs part)).Perm l := by
  induction l with
  | nil => simp
  | cons x l ih =>
    have hx := h x mem_cons_self
    have htail := ih fun y hy => h y (mem_cons_of_mem x hy)
    -- the head is contributed by the one part it belongs to
    have hsplit : (parts.flatMap fun part => (x :: l).filter (belongs part)).Perm
        ((parts.flatMap fun part => if belongs part x then [x] else []) ++
          parts.flatMap fun part => l.filter (belongs part)) := by
      refine List.Perm.trans ?_ (flatMap_append_perm parts _ _).symm
      apply List.Perm.of_eq
      congr 1
      funext part
      by_cases hb : belongs part x <;> simp [hb]
    have hhead : (parts.flatMap fun part => if belongs part x then [x] else []) = [x] := by
      rw [flatMap_ite_singleton, hx, replicate_one]
    rw [hhead] at hsplit
    exact hsplit.trans (htail.cons x)

/-- What is computed element by element is computed once among the parts. -/
theorem flatMap_filterMap_perm (f : α → Option δ) :
    (parts.flatMap fun part => (l.filter (belongs part)).filterMap f).Perm (l.filterMap f) := by
  have hperm := (flatMap_filter_perm belongs parts h).filterMap f
  rw [filterMap_flatMap] at hperm
  exact hperm

/-- The parts have the images of the list. -/
theorem flatMap_map_perm (f : α → δ) :
    (parts.flatMap fun part => (l.filter (belongs part)).map f).Perm (l.map f) := by
  have hperm := (flatMap_filter_perm belongs parts h).map f
  rw [map_flatMap] at hperm
  exact hperm

end

/-- Two results per part make up the two results of the whole. -/
theorem flatMap_append_perm_of {δ : Type} {parts : List ι} {f g : ι → List δ} {a b : List δ}
    (hf : (parts.flatMap f).Perm a) (hg : (parts.flatMap g).Perm b) :
    (parts.flatMap fun part => f part ++ g part).Perm (a ++ b) :=
  (flatMap_append_perm parts f g).symm.trans (hf.append hg)

/-- An element of parts that share none is in exactly one of them. -/
theorem countP_contains_of_nodup [BEq α] [LawfulBEq α] (parts : List (List α))
    (hnodup : parts.flatten.Nodup) (x : α) (hx : x ∈ parts.flatten) :
    parts.countP (·.contains x) = 1 := by
  induction parts with
  | nil => simp at hx
  | cons part parts ih =>
    rw [flatten_cons, nodup_append] at hnodup
    rw [flatten_cons, mem_append] at hx
    by_cases hpart : x ∈ part
    · have hrest : parts.countP (·.contains x) = 0 := by
        rw [countP_eq_zero]
        intro other hother hcontains
        rw [contains_iff_mem] at hcontains
        exact hnodup.2.2 x hpart x (mem_flatten_of_mem hother hcontains) rfl
      rw [countP_cons_of_pos (by simpa using hpart), hrest]
    · rw [countP_cons_of_neg (by simpa using hpart)]
      exact ih hnodup.2.1 (hx.resolve_left hpart)

/-- A search that only accepts kept elements finds the same among them. -/
theorem find?_filter_of_imp (l : List α) (keep accept : α → Bool) (h : ∀ a ∈ l, accept a → keep a) :
    (l.filter keep).find? accept = l.find? accept := by
  rw [find?_filter]
  apply find?_congr
  intro a ha
  cases haccept : accept a <;> simp [haccept, h a ha]

/-- A relation between a loop and the same loop on the elements that are kept. -/
theorem foldl_restrict {step : β → α → β} {step' : γ → α → γ} (keep : α → Bool)
    (R : β → γ → Prop) (l : List α)
    (hstep : ∀ b c, ∀ a ∈ l, R b c → R (step b a) (if keep a then step' c a else c)) (b : β)
    (c : γ) (h : R b c) : R (l.foldl step b) ((l.filter keep).foldl step' c) := by
  induction l generalizing b c with
  | nil => exact h
  | cons a l ih =>
    have hrest := ih fun b c x hx => hstep b c x (mem_cons_of_mem a hx)
    have hhead := hstep b c a mem_cons_self h
    by_cases hk : keep a
    · rw [if_pos hk] at hhead
      rw [filter_cons_of_pos hk]
      exact hrest _ _ hhead
    · rw [if_neg hk] at hhead
      rw [filter_cons_of_neg hk]
      exact hrest _ _ hhead

/-- Adding to one part adds to the whole. -/
theorem flatten_modify_perm (parts : List (List α)) (k : Nat) (hk : k < parts.length)
    (l : List α) : (parts.modify k (· ++ l)).flatten.Perm (parts.flatten ++ l) := by
  induction parts generalizing k with
  | nil => simp at hk
  | cons part parts ih =>
    cases k with
    | zero =>
      simp only [modify_zero_cons, flatten_cons, append_assoc]
      exact (perm_append_comm).append_left part
    | succ k =>
      simp only [modify_succ_cons, flatten_cons, append_assoc]
      exact (ih k (by simpa using hk)).append_left part

end DbxSpec.Base
