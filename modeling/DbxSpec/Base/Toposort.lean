import Mathlib.Data.Set.Finite.Basic

/-!
# Ordering by a dependency relation

A run that again and again takes the first node all of whose predecessors are taken. What such a
run takes and in which order, for every relation, cyclic ones included; and Kahn's loop over an
edge list, which is such a run.
-/

namespace DbxSpec.Base.Toposort

open Relation List Function

variable {α : Type}

/-! ### Greedy runs -/

/-- A node that is not taken yet and waits for nothing. -/
def Available (E : α → α → Prop) (done : List α) (a : α) : Prop :=
  a ∉ done ∧ ∀ b, E b a → b ∈ done

/-- `a` comes before `b`. -/
def Precedes (l : List α) (a b : α) : Prop := [a, b].Sublist l

/-- A run from the nodes already taken: each step takes the first available node, and the run
ends where there is none. -/
inductive Greedy (nodes : List α) (E : α → α → Prop) : List α → List α → Prop where
  | stop {done : List α} (h : ∀ a ∈ nodes, ¬Available E done a) : Greedy nodes E done []
  | pick {done rest : List α} {a : α} (ha : a ∈ nodes) (havailable : Available E done a)
      (hfirst : ∀ b ∈ nodes, Available E done b → b ≠ a → Precedes nodes a b)
      (hrest : Greedy nodes E (done ++ [a]) rest) : Greedy nodes E done (a :: rest)

/-- A node that a cycle leads to. -/
def Stuck (E : α → α → Prop) (a : α) : Prop := ∃ k, TransGen E k k ∧ ReflTransGen E k a

variable {nodes : List α} {E : α → α → Prop} {done order : List α} {a : α} {l : List α} {b : α}

/-! ### Coming first -/

private theorem precedes_iff : Precedes l a b ↔ ∃ l₁ l₂, l = l₁ ++ l₂ ∧ a ∈ l₁ ∧ b ∈ l₂ := by
  have hpair : Precedes l a b ↔ ([a] ++ [b]).Sublist l := Iff.rfl
  simp only [hpair, append_sublist_iff, singleton_sublist]

private theorem Precedes.of_mem {l₁ l₂ : List α} (ha : a ∈ l₁) (hb : b ∈ l₂) :
    Precedes (l₁ ++ l₂) a b :=
  precedes_iff.mpr ⟨l₁, l₂, rfl, ha, hb⟩

/-- Both are in the list. -/
theorem Precedes.mem (h : Precedes l a b) : a ∈ l ∧ b ∈ l := by
  obtain ⟨l₁, l₂, rfl, ha, hb⟩ := precedes_iff.mp h
  exact ⟨mem_append_left _ ha, mem_append_right _ hb⟩

private theorem Precedes.asymm (hl : l.Nodup) (h : Precedes l a b) : ¬Precedes l b a := by
  intro hback
  obtain ⟨l₁, l₂, rfl, ha, hb⟩ := precedes_iff.mp h
  obtain ⟨m₁, m₂, heq, hb', ha'⟩ := precedes_iff.mp hback
  have hdisjoint := disjoint_of_nodup_append hl
  rcases append_eq_append_iff.mp heq with ⟨c, rfl, rfl⟩ | ⟨c, rfl, rfl⟩
  · exact hdisjoint ha (mem_append_right _ ha')
  · exact hdisjoint (mem_append_left _ hb') hb

private theorem precedes_or (ha : a ∈ l) (hb : b ∈ l) (hne : a ≠ b) :
    Precedes l a b ∨ Precedes l b a := by
  obtain ⟨pre, post, rfl⟩ := append_of_mem ha
  rcases mem_append.mp hb with hb | hb
  · exact .inr (.of_mem hb (by simp))
  · rcases mem_cons.mp hb with rfl | hb
    · exact absurd rfl hne
    · rw [append_cons]
      exact .inl (.of_mem (by simp) hb)

/-! ### One run -/

section

variable (h : Greedy nodes E done order)

include h

private theorem Greedy.nodup (hdone : done.Nodup) :
    (done ++ order).Nodup := by
  induction h with
  | stop => simpa using hdone
  | pick ha havailable hfirst hrest ih =>
    have hnext := ih (hdone.append (nodup_singleton _) (by simpa using havailable.1))
    simpa using hnext

/-- Only nodes are placed. -/
theorem Greedy.subset : order ⊆ nodes := by
  induction h with
  | stop => simp
  | pick ha _ _ _ ih => exact cons_subset.mpr ⟨ha, ih⟩

private theorem Greedy.at {pre post : List α}
    (hsplit : order = pre ++ a :: post) :
    Available E (done ++ pre) a ∧
      ∀ b ∈ nodes, Available E (done ++ pre) b → b ≠ a → Precedes nodes a b := by
  induction h generalizing pre with
  | stop => simp at hsplit
  | @pick done rest c ha havailable hfirst hrest ih =>
    cases pre with
    | nil =>
      obtain ⟨rfl, rfl⟩ := cons.inj hsplit
      simpa using ⟨havailable, hfirst⟩
    | cons d pre =>
      obtain ⟨rfl, hrest'⟩ := cons.inj hsplit
      simpa using ih hrest'

private theorem Greedy.at_end :
    ∀ a ∈ nodes, ¬Available E (done ++ order) a := by
  induction h with
  | stop hstop => simpa using hstop
  | pick _ _ _ _ ih => simpa using ih

end

section Runs

variable (h : Greedy nodes E [] order)

include h

variable {a b : α}

private theorem Greedy.ancestors {pre post : List α} (hsplit : order = pre ++ a :: post)
    (hb : TransGen E b a) : b ∈ pre := by
  have hclosed {c d : α} (hc : c ∈ pre) (hd : E d c) : d ∈ pre := by
    obtain ⟨p₁, p₂, rfl⟩ := append_of_mem hc
    have hat := (h.at (by simpa using hsplit : order = p₁ ++ c :: (p₂ ++ a :: post))).1.2 d hd
    simpa using .inl hat
  induction hb using TransGen.head_induction_on with
  | single hedge => simpa using (h.at hsplit).1.2 _ hedge
  | head hedge _ ih => exact hclosed ih hedge

private theorem Greedy.precedes_of_ancestor (ha : a ∈ order) (hb : TransGen E b a) :
    Precedes order b a := by
  obtain ⟨pre, post, rfl⟩ := append_of_mem ha
  exact .of_mem (h.ancestors rfl hb) (by simp)

private theorem Greedy.not_stuck {a : α} (ha : a ∈ order) : ¬Stuck E a := by
  rintro ⟨k, hcycle, hreach⟩
  have hk : k ∈ order := by
    rcases ReflTransGen.cases_head_iff.mp hreach with rfl | ⟨c, hkc, hca⟩
    · exact ha
    · exact (h.precedes_of_ancestor ha (TransGen.head' hkc hca)).mem.1
  have hself := h.precedes_of_ancestor hk hcycle
  exact hself.asymm (by simpa using h.nodup nodup_nil) hself

end Runs

section

variable (hE : ∀ a b, E a b → a ∈ nodes)

include hE

private theorem acc_of_not_stuck (ha : a ∈ nodes) (hstuck : ¬Stuck E a) :
    Acc E a := by
  let free := { b : α // b ∈ nodes ∧ ¬Stuck E b }
  have : Finite free := (finite_toSet nodes).subset (fun b hb => hb.1)
  have : Std.Irrefl fun b c : free => TransGen E b.1 c.1 := ⟨fun b hb => b.2.2 ⟨b.1, hb, .refl⟩⟩
  have hwf := Finite.wellFounded_of_trans_of_irrefl fun b c : free => TransGen E b.1 c.1
  suffices ∀ b : free, Acc E b.1 from this ⟨a, ha, hstuck⟩
  intro b
  induction b using hwf.induction with
  | _ b ih =>
    refine ⟨_, fun c hc => ?_⟩
    have hfree : ¬Stuck E c := by
      rintro ⟨k, hcycle, hreach⟩
      exact b.2.2 ⟨k, hcycle, hreach.tail hc⟩
    exact ih ⟨c, hE c b.1 hc, hfree⟩ (.single hc)

private theorem Greedy.mem_iff (h : Greedy nodes E [] order) :
    a ∈ order ↔ a ∈ nodes ∧ ¬Stuck E a := by
  refine ⟨fun ha => ⟨h.subset ha, h.not_stuck ha⟩, ?_⟩
  rintro ⟨ha, hstuck⟩
  have hacc := acc_of_not_stuck hE ha hstuck
  clear hstuck
  induction hacc with
  | intro a _ ih =>
    by_contra hout
    exact h.at_end a ha ⟨by simpa using hout, fun b hb => by simpa using ih b hb (hE b a hb)⟩

/-- A node comes before another one if all it waits for, itself included, is either listed before
that one or needed by it. -/
theorem Greedy.precedes (h : Greedy nodes E [] order) (hnodes : nodes.Nodup) (ha : a ∈ order)
    (hb : b ∈ order) (hbefore : ∀ c, ReflTransGen E c a → Precedes nodes c b ∨ TransGen E c b) :
    Precedes order a b := by
  obtain ⟨pre, post, rfl⟩ := append_of_mem hb
  suffices a ∈ pre from .of_mem this (by simp)
  have hacc := acc_of_not_stuck hE (h.subset ha) (h.not_stuck ha)
  clear ha
  have ha : a ∈ nodes := by
    rcases hbefore a .refl with hlisted | hneeded
    · exact hlisted.mem.1
    · obtain ⟨c, hac, -⟩ := TransGen.head'_iff.mp hneeded
      exact hE a c hac
  induction hacc with
  | intro a _ ih =>
    by_contra hout
    have havailable : Available E pre a := by
      refine ⟨hout, fun c hc => ih c hc ?_ (hE c a hc)⟩
      intro d hd
      exact hbefore d (hd.tail hc)
    rcases hbefore a .refl with hlisted | hneeded
    · by_cases hab : a = b
      · subst hab
        exact hlisted.asymm hnodes hlisted
      · exact hlisted.asymm hnodes ((h.at rfl).2 a ha (by simpa using havailable) hab)
    · exact hout (h.ancestors rfl hneeded)

end

/-- Without dependencies the run takes the nodes as they are listed. -/
theorem greedy_self (hnodes : nodes.Nodup) (hE : ∀ a b, ¬E a b) : Greedy nodes E [] nodes := by
  suffices ∀ done rest, nodes = done ++ rest → Greedy nodes E done rest from this [] nodes rfl
  intro done rest
  induction rest generalizing done with
  | nil =>
    rintro hsplit
    refine .stop fun a ha havailable => havailable.1 ?_
    simpa [hsplit] using ha
  | cons a rest ih =>
    intro hsplit
    have hout : a ∉ done := by
      rw [hsplit, nodup_append] at hnodes
      exact fun ha => hnodes.2.2 a ha a (by simp) rfl
    refine .pick (by simp [hsplit]) ⟨hout, fun b hb => absurd hb (hE b a)⟩ ?_
      (ih (done ++ [a]) (by simpa using hsplit))
    intro b hb havailable hne
    rw [hsplit] at hb ⊢
    have hb' : b ∈ rest := by
      rcases mem_append.mp hb with hb | hb
      · exact absurd hb havailable.1
      · exact (mem_cons.mp hb).resolve_left hne
    rw [append_cons]
    exact .of_mem (by simp) hb'

/-! ### The nodes of cycles put last -/

section Completed

variable [DecidableEq α]

/-- A run followed by the nodes that it did not take, in their own order. -/
def completed (nodes order : List α) : List α := order ++ nodes.filter (· ∉ order)

/-- When a node comes before another one in the completed run: no cycle leads to it, and either a
cycle leads to the other one or all it waits for is listed before that one or needed by it; or a
cycle leads to both and it is listed first. -/
def Settles (nodes : List α) (E : α → α → Prop) (a b : α) : Prop :=
  (¬Stuck E a ∧ (Stuck E b ∨
    ∀ c, ReflTransGen E c a → Precedes nodes c b ∨ TransGen E c b)) ∨
  (Stuck E a ∧ Stuck E b ∧ Precedes nodes a b)

variable (h : Greedy nodes E [] order) (hE : ∀ a b, E a b → a ∈ nodes) (hnodes : nodes.Nodup)

include h hnodes

/-- Every node is placed once. -/
theorem Greedy.completed_perm : (completed nodes order).Perm nodes := by
  have hnodup : order.Nodup := by simpa using h.nodup nodup_nil
  rw [perm_ext_iff_of_nodup _ hnodes]
  · intro a
    have hsubset : a ∈ order → a ∈ nodes := fun ha => h.subset ha
    simp only [completed, mem_append, mem_filter, decide_eq_true_eq]
    tauto
  · refine hnodup.append (hnodes.filter _) ?_
    intro a ha hrest
    simp [ha] at hrest

include hE

/-- What is settled is so in the completed order. -/
theorem Greedy.completed_precedes (ha : a ∈ nodes) (hb : b ∈ nodes) (hsettles : Settles nodes E a b)
    : Precedes (completed nodes order) a b := by
  have hrest {c : α} (hc : c ∈ nodes) (hstuck : Stuck E c) : c ∈ nodes.filter (· ∉ order) := by
    simpa using ⟨hc, fun hin => h.not_stuck hin hstuck⟩
  rcases hsettles with ⟨hfree, hb'⟩ | ⟨hstuck, hstuck', hlisted⟩
  · have ha' : a ∈ order := (h.mem_iff hE).mpr ⟨ha, hfree⟩
    by_cases hstuck : Stuck E b
    · exact .of_mem ha' (hrest hb hstuck)
    · have hbefore := h.precedes hE hnodes ha' ((h.mem_iff hE).mpr ⟨hb, hstuck⟩)
        (hb'.resolve_left hstuck)
      exact hbefore.trans (sublist_append_left _ _)
  · have hpair : ([a, b].filter (· ∉ order)).Sublist (nodes.filter (· ∉ order)) := hlisted.filter _
    have ha' : a ∉ order := fun hin => h.not_stuck hin hstuck
    have hb' : b ∉ order := fun hin => h.not_stuck hin hstuck'
    have hkept : [a, b].filter (· ∉ order) = [a, b] := by simp [ha', hb']
    rw [hkept] at hpair
    exact hpair.trans (sublist_append_right _ _)

/-- For an edge the condition is necessary too. -/
theorem Greedy.settles_of_edge (hedge : E a b) (hprecedes : Precedes (completed nodes order) a b) :
    Settles nodes E a b := by
  have hnodup := ((h.completed_perm hnodes).nodup_iff).mpr hnodes
  by_cases ha : Stuck E a
  · obtain ⟨k, hcycle, hreach⟩ := ha
    have hb : Stuck E b := ⟨k, hcycle, hreach.tail hedge⟩
    refine .inr ⟨⟨k, hcycle, hreach⟩, hb, ?_⟩
    by_cases hab : a = b
    · subst hab
      exact absurd hprecedes (hprecedes.asymm hnodup)
    · have hmem := hprecedes.mem
      have ha' : a ∈ nodes := (h.completed_perm hnodes).mem_iff.mp hmem.1
      have hb' : b ∈ nodes := (h.completed_perm hnodes).mem_iff.mp hmem.2
      refine (precedes_or ha' hb' hab).resolve_right fun hback => hprecedes.asymm hnodup ?_
      exact h.completed_precedes hE hnodes hb' ha' (.inr ⟨hb, ⟨k, hcycle, hreach⟩, hback⟩)
  · exact .inl ⟨ha, .inr fun c hc => .inr (TransGen.tail' hc hedge)⟩

end Completed

/-- No cycle leads anywhere if a rank grows along the relation. -/
theorem not_stuck_of_rank (rank : α → Nat) (hrank : ∀ a b, E a b → rank a < rank b) (a : α) :
    ¬Stuck E a := by
  rintro ⟨k, hcycle, -⟩
  have hgrows : ∀ b, TransGen E k b → rank k < rank b := by
    intro b hb
    induction hb with
    | single hedge => exact hrank _ _ hedge
    | tail _ hedge ih => exact ih.trans (hrank _ _ hedge)
  exact lt_irrefl _ (hgrows k hcycle)

/-! ### Renaming the nodes -/

section Map

variable {β : Type} {f : α → β} {E' : β → β → Prop}
 

section

variable (hf : ∀ a ∈ nodes, ∀ b ∈ nodes, f a = f b → a = b)

include hf

private theorem available_map (hE : ∀ a b, E a b → a ∈ nodes)
    (hE' : ∀ x, ∀ b ∈ nodes, E' x (f b) ↔ ∃ a, E a b ∧ f a = x) (hdone : done ⊆ nodes) {a : α}
    (ha : a ∈ nodes) : Available E' (done.map f) (f a) ↔ Available E done a := by
  have hmem {b : α} (hb : b ∈ nodes) : f b ∈ done.map f ↔ b ∈ done := by
    rw [mem_map]
    constructor
    · rintro ⟨c, hc, hcb⟩
      rwa [← hf c (hdone hc) b hb hcb]
    · exact fun hb => ⟨b, hb, rfl⟩
  rw [Available, Available, hmem ha]
  refine and_congr_right fun _ => ?_
  constructor
  · intro hall b hb
    exact (hmem (hE b a hb)).mp (hall (f b) ((hE' (f b) a ha).mpr ⟨b, hb, rfl⟩))
  · intro hall x hx
    obtain ⟨b, hb, rfl⟩ := (hE' x a ha).mp hx
    exact (hmem (hE b a hb)).mpr (hall b hb)

/-- A run on nodes is a run on their images. -/
theorem Greedy.map (h : Greedy nodes E done order) (hE : ∀ a b, E a b → a ∈ nodes)
    (hE' : ∀ x, ∀ b ∈ nodes, E' x (f b) ↔ ∃ a, E a b ∧ f a = x) (hdone : done ⊆ nodes) :
    Greedy (nodes.map f) E' (done.map f) (order.map f) := by
  induction h with
  | stop hstop =>
    refine .stop ?_
    simp only [forall_mem_map]
    intro a ha havailable
    exact hstop a ha ((available_map hf hE hE' hdone ha).mp havailable)
  | @pick done rest a ha havailable hfirst _ ih =>
    refine .pick (mem_map_of_mem ha) ((available_map hf hE hE' hdone ha).mpr havailable) ?_ ?_
    · simp only [forall_mem_map]
      intro b hb hb' hne
      have hbefore := hfirst b hb ((available_map hf hE hE' hdone hb).mp hb')
        fun hba => hne (congrArg f hba)
      exact List.Sublist.map f hbefore
    · rw [← map_singleton, ← map_append]
      exact ih (append_subset.mpr ⟨hdone, by simpa using ha⟩)

/-- Completion commutes with a map. -/
theorem completed_map [DecidableEq α] [DecidableEq β] (horder : order ⊆ nodes) :
    completed (nodes.map f) (order.map f) = (completed nodes order).map f := by
  rw [completed, completed, map_append, filter_map]
  congr 2
  refine filter_congr fun a ha => ?_
  have hmem : f a ∈ order.map f ↔ a ∈ order := by
    rw [mem_map]
    constructor
    · rintro ⟨b, hb, hba⟩
      rwa [← hf b (horder hb) a ha hba]
    · exact fun ha => ⟨a, ha, rfl⟩
  simp only [comp_apply, hmem]

end

end Map

/-! ### Kahn's loop -/

/-- The nodes that an edge from `index` leads to. -/
def successors (edges : List (Nat × Nat)) (index : Nat) : List Nat :=
  (edges.filter fun edge => edge.1 = index).map Prod.snd

/-- The number of edges that lead to `index`. -/
def inDegree (edges : List (Nat × Nat)) (index : Nat) : Nat :=
  edges.countP fun edge => edge.2 = index

/-- One edge fewer leads to `next`, which is ready once none does. -/
def release (state : List Nat × (Nat → Nat)) (next : Nat) : List Nat × (Nat → Nat) :=
  let degree := update state.2 next (state.2 next - 1)
  (if degree next = 0 then state.1.orderedInsert (· ≤ ·) next else state.1, degree)

/-- The loop: the smallest ready node is taken and its successors are released. -/
def kahnLoop (edges : List (Nat × Nat)) :
    Nat → List Nat × (Nat → Nat) → List Nat → List Nat
  | 0, _, ordered => ordered
  | _ + 1, ([], _), ordered => ordered
  | fuel + 1, (index :: ready, degree), ordered =>
    kahnLoop edges fuel ((successors edges index).foldl release (ready, degree))
      (ordered ++ [index])

/-- The nodes `0, …, n - 1` in the order in which Kahn's loop takes them. -/
def kahn (n : Nat) (edges : List (Nat × Nat)) : List Nat :=
  kahnLoop edges n ((range n).filter fun index => inDegree edges index = 0, inDegree edges) []

variable {ready : List Nat}

private theorem precedes_range {n a b : Nat} (hab : a < b) (hb : b < n) :
    Precedes (range n) a b := by
  rcases precedes_or (l := range n) (a := a) (b := b) (by simp; omega) (by simpa using hb)
    (by omega) with h | h
  · exact h
  · have hsorted := (pairwise_lt_range (n := n)).sublist h
    simp only [pairwise_cons, mem_singleton, forall_eq] at hsorted
    omega

private theorem pairwise_orderedInsert {k : Nat} (hsorted : ready.Pairwise (· < ·))
    (hk : k ∉ ready) : (ready.orderedInsert (· ≤ ·) k).Pairwise (· < ·) := by
  have hle := (hsorted.imp Nat.le_of_lt).orderedInsert k ready
  have hnodup : (ready.orderedInsert (· ≤ ·) k).Nodup :=
    (perm_orderedInsert _ k ready).nodup_iff.mpr (nodup_cons.mpr ⟨hk, hsorted.imp Nat.ne_of_lt⟩)
  exact (hle.and hnodup).imp fun h => lt_of_le_of_ne h.1 h.2

private theorem foldl_release {next : List Nat} (hnext : next.Nodup) (ready : List Nat)
    (degree : Nat → Nat) (hsorted : ready.Pairwise (· < ·)) (hfresh : ∀ j ∈ next, j ∉ ready) :
    (next.foldl release (ready, degree)).1.Pairwise (· < ·) ∧
    (∀ j, j ∈ (next.foldl release (ready, degree)).1 ↔ j ∈ ready ∨ j ∈ next ∧ degree j - 1 = 0) ∧
    ∀ j, (next.foldl release (ready, degree)).2 j =
      if j ∈ next then degree j - 1 else degree j := by
  induction next generalizing ready degree with
  | nil => simp [hsorted]
  | cons k next ih =>
    obtain ⟨hk, hnext⟩ := nodup_cons.mp hnext
    have hstep : release (ready, degree) k =
        (if degree k - 1 = 0 then ready.orderedInsert (· ≤ ·) k else ready,
          update degree k (degree k - 1)) := by
      simp [release]
    have hother {j : Nat} (hj : j ∈ next) : update degree k (degree k - 1) j = degree j := by
      refine update_of_ne ?_ _ _
      rintro rfl
      exact hk hj
    rw [foldl_cons, hstep]
    obtain ⟨hsorted', hmem, hdegree⟩ := ih hnext
      (if degree k - 1 = 0 then ready.orderedInsert (· ≤ ·) k else ready)
      (update degree k (degree k - 1))
      (by
        split
        · exact pairwise_orderedInsert hsorted (hfresh k (by simp))
        · exact hsorted)
      (by
        intro j hj
        have hready := hfresh j (by simp [hj])
        split
        · rw [mem_orderedInsert]
          rintro (rfl | hj')
          · exact hk hj
          · exact hready hj'
        · exact hready)
    refine ⟨hsorted', fun j => ?_, fun j => ?_⟩
    · rw [hmem, mem_cons]
      have hready : j ∈ (if degree k - 1 = 0 then ready.orderedInsert (· ≤ ·) k else ready) ↔
          j ∈ ready ∨ j = k ∧ degree k - 1 = 0 := by
        split
        · next hzero => simp [mem_orderedInsert, hzero, or_comm]
        · next hzero => simp [hzero]
      rw [hready]
      constructor
      · rintro ((hj | ⟨rfl, hzero⟩) | ⟨hj, hzero⟩)
        · exact .inl hj
        · exact .inr ⟨.inl rfl, hzero⟩
        · exact .inr ⟨.inr hj, hother hj ▸ hzero⟩
      · rintro (hj | ⟨rfl | hj, hzero⟩)
        · exact .inl (.inl hj)
        · exact .inl (.inr ⟨rfl, hzero⟩)
        · exact .inr ⟨hj, (hother hj).symm ▸ hzero⟩
    · rw [hdegree]
      by_cases hjk : j = k
      · subst hjk
        simp [hk]
      · simp [hjk]

/-- Edges between the nodes `0, …, n - 1`, each listed once. -/
structure EdgeList (n : Nat) (edges : List (Nat × Nat)) : Prop where
  nodup : edges.Nodup
  bounded : ∀ edge ∈ edges, edge.1 < n ∧ edge.2 < n
  loopless : ∀ edge ∈ edges, edge.1 ≠ edge.2

/-- The relation of an edge list. -/
def Edge (edges : List (Nat × Nat)) (i j : Nat) : Prop := (i, j) ∈ edges

/-- The edges that a node still waits for. -/
def waiting (edges : List (Nat × Nat)) (done : List Nat) (j : Nat) : Nat :=
  edges.countP fun edge => edge.2 = j ∧ edge.1 ∉ done

/-- What holds before each turn of the loop. -/
structure Invariant (n : Nat) (edges : List (Nat × Nat)) (done ready : List Nat)
    (degree : Nat → Nat) : Prop where
  nodup : done.Nodup
  bounded : ∀ i ∈ done, i < n
  closed : ∀ j ∈ done, ∀ i, Edge edges i j → i ∈ done
  sorted : ready.Pairwise (· < ·)
  mem : ∀ i, i ∈ ready ↔ i < n ∧ Available (Edge edges) done i
  degree : ∀ j, degree j = waiting edges done j

variable {edges : List (Nat × Nat)} {done : List Nat}

private theorem waiting_eq_zero {j : Nat} :
    waiting edges done j = 0 ↔ ∀ i, Edge edges i j → i ∈ done := by
  simp only [waiting, countP_eq_zero, decide_eq_true_eq, not_and, not_not, Prod.forall, Edge]
  constructor
  · intro h i hi
    exact h i j hi rfl
  · rintro h i _ hi rfl
    exact h i hi

private theorem waiting_concat (hedges : edges.Nodup) {i : Nat} (hi : i ∉ done) (j : Nat) :
    waiting edges done j = waiting edges (done ++ [i]) j + if (i, j) ∈ edges then 1 else 0 := by
  rw [← hedges.count]
  clear hedges
  induction edges with
  | nil => rfl
  | cons edge edges ih =>
    simp only [waiting, countP_cons, count_cons] at ih ⊢
    rw [ih]
    obtain ⟨a, b⟩ := edge
    by_cases hb : b = j
    · by_cases ha : a = i
      · subst ha
        simp [hi]
        omega
      · simp [ha]
        omega
    · simp [hb]

private theorem mem_successors {i j : Nat} : j ∈ successors edges i ↔ (i, j) ∈ edges := by
  simp [successors]

private theorem nodup_successors (hedges : edges.Nodup) (i : Nat) : (successors edges i).Nodup := by
  refine (hedges.filter _).map_on ?_
  simp_all

section

variable {n : Nat} (hedges : EdgeList n edges)

include hedges

private theorem Invariant.step {degree : Nat → Nat} {i : Nat}
    (h : Invariant n edges done (i :: ready) degree) :
    Invariant n edges (done ++ [i]) ((successors edges i).foldl release (ready, degree)).1
      ((successors edges i).foldl release (ready, degree)).2 := by
  obtain ⟨hi, havailable⟩ := (h.mem i).mp (by simp)
  obtain ⟨hhead, htail⟩ := pairwise_cons.mp h.sorted
  have hready {j : Nat} : j ∈ ready ↔ j ≠ i ∧ j < n ∧ Available (Edge edges) done j := by
    rw [← h.mem, mem_cons]
    constructor
    · exact fun hj => ⟨(hhead j hj).ne', .inr hj⟩
    · rintro ⟨hne, rfl | hj⟩
      · exact absurd rfl hne
      · exact hj
  have hfresh : ∀ j ∈ successors edges i, j ∉ ready := by
    intro j hj hjready
    exact havailable.1 ((hready.mp hjready).2.2.2 i (mem_successors.mp hj))
  obtain ⟨hsorted, hmem, hdegree⟩ :=
    foldl_release (nodup_successors hedges.nodup i) ready degree htail hfresh
  have hwaiting := waiting_concat hedges.nodup havailable.1
  refine ⟨?_, ?_, ?_, hsorted, ?_, ?_⟩
  · exact h.nodup.append (nodup_singleton i) (by simpa using havailable.1)
  · intro j hj
    rcases mem_append.mp hj with hj | hj
    · exact h.bounded j hj
    · obtain rfl : j = i := by simpa using hj
      exact hi
  · intro j hj k hk
    refine mem_append_left _ ?_
    rcases mem_append.mp hj with hj | hj
    · exact h.closed j hj k hk
    · obtain rfl : j = i := by simpa using hj
      exact havailable.2 k hk
  · intro j
    rw [hmem, mem_successors]
    by_cases hedge : (i, j) ∈ edges
    · -- a successor of the taken node is ready exactly when it waits for nothing else
      have hdone : j ∉ done ++ [i] := by
        simp only [mem_append, mem_singleton, not_or]
        exact ⟨fun hj => havailable.1 (h.closed j hj i hedge), (hedges.loopless _ hedge).symm⟩
      have hzero : degree j - 1 = waiting edges (done ++ [i]) j := by
        rw [h.degree, hwaiting, if_pos hedge]
        rfl
      simp [hfresh j (mem_successors.mpr hedge), hedge, hzero, waiting_eq_zero, Available, hdone,
        (hedges.bounded _ hedge).2]
    · -- any other node is ready if it was and is not the taken one
      have hpreds : (∀ k, Edge edges k j → k ∈ done ++ [i]) ↔ ∀ k, Edge edges k j → k ∈ done := by
        refine forall₂_congr fun k hk => ?_
        have hne : k ≠ i := by
          rintro rfl
          exact hedge hk
        simp [hne]
      rw [hready, Available, Available, hpreds]
      simp only [mem_append, mem_singleton, hedge, false_and, or_false]
      tauto
  · intro j
    rw [hdegree, h.degree, hwaiting]
    simp only [mem_successors]
    split <;> simp

private theorem kahnLoop_greedy (fuel : Nat)
    {degree : Nat → Nat} (h : Invariant n edges done ready degree)
    (hfuel : n ≤ done.length + fuel) :
    ∃ rest, kahnLoop edges fuel (ready, degree) done = done ++ rest ∧
      Greedy (range n) (Edge edges) done rest := by
  induction fuel generalizing done ready degree with
  | zero =>
    -- all nodes are taken
    refine ⟨[], by simp [kahnLoop], .stop fun a ha havailable => ?_⟩
    have hall : done.Perm (range n) := by
      refine (subperm_of_subset h.nodup fun i hi => ?_).perm_of_length_le (by simpa using hfuel)
      simpa using h.bounded i hi
    exact havailable.1 (hall.mem_iff.mpr ha)
  | succ fuel ih =>
    cases ready with
    | nil =>
      refine ⟨[], by simp [kahnLoop], .stop fun a ha havailable => ?_⟩
      have hready := (h.mem a).mpr ⟨by simpa using ha, havailable⟩
      cases hready
    | cons i ready =>
      obtain ⟨hi, havailable⟩ := (h.mem i).mp (by simp)
      obtain ⟨rest, hrun, hgreedy⟩ := ih (h.step hedges) (by simp; omega)
      refine ⟨i :: rest, by simpa [kahnLoop] using hrun, .pick (by simpa using hi) havailable ?_
        hgreedy⟩
      intro j hj hjavailable hne
      have hjready := (h.mem j).mpr ⟨by simpa using hj, hjavailable⟩
      rcases mem_cons.mp hjready with rfl | hjready
      · exact absurd rfl hne
      · exact precedes_range ((pairwise_cons.mp h.sorted).1 j hjready) (by simpa using hj)

/-- Kahn's loop is greedy. -/
theorem kahn_greedy :
    Greedy (range n) (Edge edges) [] (kahn n edges) := by
  have hdegree (j : Nat) : inDegree edges j = waiting edges [] j := by simp [inDegree, waiting]
  have hinitial : Invariant n edges []
      ((range n).filter fun index => inDegree edges index = 0) (inDegree edges) := by
    refine ⟨nodup_nil, by simp, by simp, pairwise_lt_range.filter _, ?_, hdegree⟩
    simp [hdegree, waiting_eq_zero, Available]
  obtain ⟨rest, hrun, hgreedy⟩ := kahnLoop_greedy hedges n hinitial (by simp)
  rw [kahn, hrun]
  exact hgreedy

end

end DbxSpec.Base.Toposort
