import DbxSpec.Base.Fallible

/-!
# Greedy packing

Items are packed into batches from left to right: a batch takes the next item unless it is full or
the item does not join it, and an item that is refused stops the whole packing. Whatever the rules
are, the batches are the one cut of the items in which no batch is empty, every item was let in
after the items before it in its batch, and no batch takes the item that comes after it.
-/

namespace DbxSpec.Base

open List

variable {α β ε : Type}

/-- The rules of a packing. -/
structure Packer (α ε : Type) where
  /-- A batch takes no further item, whatever it is. -/
  full : List α → Bool
  /-- An item cannot be packed at all. -/
  refuses : α → Bool
  /-- What is reported for a refused item, by its position. -/
  refusal : Nat → α → ε
  /-- A batch that is neither empty nor full takes an item. -/
  joins : List α → α → Bool

namespace Packer

variable (p : Packer α ε)

/-- Fill a batch: the batch and the items that are left. -/
def fill : Nat → List α → List α → Except ε (List α × List α)
  | _, batch, [] => .ok (batch, [])
  | index, batch, item :: items =>
    if p.full batch then .ok (batch, item :: items)
    else if p.refuses item then .error (p.refusal index item)
    else if batch.isEmpty || p.joins batch item then fill (index + 1) (batch ++ [item]) items
    else .ok (batch, item :: items)

/-- Pack items and make something of every batch. The first argument bounds the batches. -/
def pack (emit : List α → Except ε β) : Nat → Nat → List α → Except ε (List β)
  | _, _, [] => .ok []
  | 0, _, _ :: _ => .ok []
  | fuel + 1, index, item :: items =>
    (p.fill index [] (item :: items)).bind fun filled =>
      (emit filled.1).bind fun result =>
        (pack emit fuel (index + filled.1.length) filled.2).map (result :: ·)

/-- A batch takes an item. -/
def Takes (batch : List α) (item : α) : Prop :=
  p.full batch = false ∧ p.refuses item = false ∧ (batch = [] ∨ p.joins batch item)

/-- Every item of a batch was let in after the items before it. -/
def Fits (batch : List α) : Prop :=
  ∀ front item, front ++ [item] <+: batch → p.Takes front item

/-- Batches that were filled one after the other: none takes the item that comes after it. -/
inductive Cut : List (List α) → Prop
  | nil : Cut []
  | cons {batch : List α} {batches : List (List α)} (hne : batch ≠ []) (hfits : p.Fits batch)
      (hnext : ∀ item ∈ batches.flatten.head?, ¬p.Takes batch item) (hbatches : Cut batches) :
      Cut (batch :: batches)

variable {p} {emit : List α → Except ε β}

private theorem fits_nil : p.Fits [] := by
  intro front item hprefix
  exact absurd (prefix_nil.mp hprefix) (by simp)

variable {item : α}

private theorem Fits.concat {batch : List α} (hbatch : p.Fits batch) (htakes : p.Takes batch item) :
    p.Fits (batch ++ [item]) := by
  intro front last hprefix
  rcases prefix_concat_iff.mp hprefix with heq | hinside
  · obtain ⟨rfl, hlast⟩ := append_inj' heq rfl
    obtain rfl : last = item := by simpa using hlast
    exact htakes
  · exact hbatch front last hinside

private theorem Fits.not_refuses {batch : List α} (hfits : p.Fits batch) (hmem : item ∈ batch) :
    p.refuses item = false := by
  obtain ⟨front, back, rfl⟩ := append_of_mem hmem
  apply (hfits front item _).2.1
  exact ⟨back, by simp⟩

/-- Every batch of a cut has items, and they fit. -/
theorem Cut.mem {batches : List (List α)} (hcut : p.Cut batches) :
    ∀ batch ∈ batches, batch ≠ [] ∧ p.Fits batch := by
  induction hcut with
  | nil => simp
  | cons hne hfits _ _ ih => exact forall_mem_cons.mpr ⟨⟨hne, hfits⟩, ih⟩

/-- No item of a cut is refused. -/
theorem Cut.not_refuses {batches : List (List α)} (hcut : p.Cut batches)
    (hmem : item ∈ batches.flatten) : p.refuses item = false := by
  obtain ⟨batch, hbatch, hmem⟩ := mem_flatten.mp hmem
  exact (hcut.mem batch hbatch).2.not_refuses hmem

/-! ### Filling a batch -/

private theorem fill_ok {index : Nat} {batch items filled rest : List α} (hbatch : p.Fits batch)
    (hfill : p.fill index batch items = .ok (filled, rest)) :
    p.Fits filled ∧ filled ++ rest = batch ++ items ∧ batch <+: filled ∧
      ∀ item ∈ rest.head?, ¬p.Takes filled item := by
  fun_induction p.fill index batch items with
  | case1 =>
    cases hfill
    exact ⟨hbatch, rfl, prefix_rfl, by simp⟩
  | case2 index batch item items hfull =>
    cases hfill
    refine ⟨hbatch, rfl, prefix_rfl, fun _ _ htakes => ?_⟩
    rw [htakes.1] at hfull
    cases hfull
  | case3 => cases hfill
  | case4 index batch item items hfull hrefuses hjoins ih =>
    have hconcat := hbatch.concat ⟨by simpa using hfull, by simpa using hrefuses,
      by simpa using hjoins⟩
    obtain ⟨hfits, hitems, hprefix, hnext⟩ := ih hconcat hfill
    refine ⟨hfits, ?_, (prefix_append _ _).trans hprefix, hnext⟩
    rw [hitems, append_assoc, singleton_append]
  | case5 index batch item items hfull hrefuses hjoins =>
    cases hfill
    refine ⟨hbatch, rfl, prefix_rfl, ?_⟩
    rintro _ ⟨⟩ htakes
    exact hjoins (by simpa using htakes.2.2)

private theorem fill_ne_nil (hfull : p.full [] = false) {index : Nat} {items filled rest : List α}
    (hfill : p.fill index [] (item :: items) = .ok (filled, rest)) : filled ≠ [] := by
  rw [fill, if_neg (by simp [hfull])] at hfill
  obtain ⟨hrefuses, hfill⟩ := guard_eq_ok_iff.mp hfill
  have hsingle := fits_nil.concat ⟨hfull, by simpa using hrefuses, .inl rfl⟩
  obtain ⟨-, -, hprefix, -⟩ := fill_ok hsingle hfill
  rintro rfl
  exact absurd (prefix_nil.mp hprefix) (by simp)

private theorem fill_error {index : Nat} {batch items : List α} {e : ε}
    (hfill : p.fill index batch items = .error e) : ∃ item ∈ items, p.refuses item := by
  fun_induction p.fill index batch items with
  | case1 | case2 | case5 => cases hfill
  | case3 index batch item items hfull hrefuses => exact ⟨item, by simp, hrefuses⟩
  | case4 index batch item items hfull hrefuses hjoins ih =>
    obtain ⟨other, hmem, hother⟩ := ih hfill
    exact ⟨other, by simp [hmem], hother⟩

private theorem fill_of_fits {rest : List α}
    (hrefuses : ∀ item ∈ rest.head?, p.refuses item = false)
    (items : List α) : ∀ {index : Nat} {batch : List α}, p.Fits (batch ++ items) →
    (∀ item ∈ rest.head?, ¬p.Takes (batch ++ items) item) →
    p.fill index batch (items ++ rest) = .ok (batch ++ items, rest) := by
  induction items with
  | nil =>
    intro index batch _ hnext
    rw [append_nil] at hnext ⊢
    rcases rest with _ | ⟨item, rest⟩
    · rw [nil_append, fill]
    rw [nil_append, fill]
    by_cases hfull : p.full batch
    · rw [if_pos hfull]
    · have hnot : ¬(batch.isEmpty || p.joins batch item) := fun hjoins =>
        hnext item rfl ⟨by simpa using hfull, hrefuses item rfl, by simpa using hjoins⟩
      rw [if_neg hfull, hrefuses item rfl, if_neg Bool.false_ne_true, if_neg hnot]
  | cons item items ih =>
    intro index batch hfits hnext
    have hsplit : batch ++ item :: items = (batch ++ [item]) ++ items := by simp
    rw [hsplit] at hfits hnext ⊢
    obtain ⟨hfull, hrefused, hjoins⟩ := hfits batch item (prefix_append _ _)
    rw [cons_append, fill, if_neg (by simp [hfull]), if_neg (by simp [hrefused]), if_pos]
    · exact ih hfits hnext
    · rcases hjoins with rfl | hjoins
      · rfl
      · rw [hjoins, Bool.or_true]

/-! ### Packing -/

/-- What a packing may give. The batches cut the items, and the results are what was made of them;
it fails for a refused item, or because nothing can be made of a batch. -/
def Packs (p : Packer α ε) (emit : List α → Except ε β) (items : List α) :
    Except ε (List β) → Prop
  | .ok results => ∃ parts : List (List α), parts.flatten = items ∧ p.Cut parts ∧
      Forall₂ (fun part result => emit part = .ok result) parts results
  | .error e => (∃ item ∈ items, p.refuses item) ∨ ∃ part, part ≠ [] ∧ emit part = .error e

private theorem packs_nil : p.Packs emit [] (.ok []) := ⟨[], rfl, .nil, .nil⟩

private theorem packs_pack (hfull : p.full [] = false) (fuel : Nat) :
    ∀ {index : Nat} {items : List α}, items.length ≤ fuel →
    p.Packs emit items (p.pack emit fuel index items) := by
  induction fuel with
  | zero =>
    intro index items hlength
    obtain rfl : items = [] := length_eq_zero_iff.mp (Nat.le_zero.mp hlength)
    exact packs_nil
  | succ fuel ih =>
    intro index items hlength
    rcases items with _ | ⟨item, items⟩
    · exact packs_nil
    rw [pack]
    rcases hfill : p.fill index [] (item :: items) with _ | filled
    · exact .inl (fill_error hfill)
    obtain ⟨filled, rest⟩ := filled
    obtain ⟨hfits, hitems, -, hnext⟩ := fill_ok fits_nil hfill
    have hne := fill_ne_nil hfull hfill
    rw [nil_append] at hitems
    have hrest : rest.length ≤ fuel := by
      have hsum := congrArg length hitems
      have hpos := length_pos_of_ne_nil hne
      simp only [length_append, length_cons] at hsum hlength
      omega
    have hlater := @ih (index + filled.length) rest hrest
    cases hemit : emit filled with
    | error e =>
      simp only [Except.bind, hemit]
      exact .inr ⟨filled, hne, hemit⟩
    | ok result =>
      simp only [Except.bind, hemit]
      cases hpack : p.pack emit fuel (index + filled.length) rest with
      | error e =>
        rw [hpack] at hlater
        rcases hlater with ⟨other, hmem, hrefuses⟩ | hpart
        · exact .inl ⟨other, hitems ▸ mem_append_right filled hmem, hrefuses⟩
        · exact .inr hpart
      | ok later =>
        rw [hpack] at hlater
        obtain ⟨parts, hflatten, hparts, hresults⟩ := hlater
        refine ⟨filled :: parts, ?_, .cons hne hfits (hflatten ▸ hnext) hparts,
          .cons hemit hresults⟩
        rw [flatten_cons, hflatten, hitems]

/-- What the packing of all items may give. -/
theorem packs_of_pack_eq (hfull : p.full [] = false) {items : List α}
    {result : Except ε (List β)} (h : p.pack emit items.length 0 items = result) :
    p.Packs emit items result :=
  h ▸ packs_pack hfull items.length le_rfl

/-- A cut of the items is how they are packed. -/
theorem pack_of_cut {make : List α → β} {parts : List (List α)} (hcut : p.Cut parts)
    (hemit : ∀ part, part ≠ [] → emit part = .ok (make part)) :
    ∀ {fuel index : Nat}, parts.flatten.length ≤ fuel →
    p.pack emit fuel index parts.flatten = .ok (parts.map make) := by
  induction hcut with
  | nil =>
    intro fuel index _
    cases fuel <;> rfl
  | @cons batch batches hne hfits hnext hbatches ih =>
    intro fuel index hfuel
    obtain ⟨item, items, rfl⟩ := exists_cons_of_ne_nil hne
    rw [flatten_cons, length_append, length_cons] at hfuel
    obtain ⟨fuel, rfl⟩ := Nat.exists_eq_add_one_of_ne_zero (by omega : fuel ≠ 0)
    have hrefuses : ∀ next ∈ batches.flatten.head?, p.refuses next = false :=
      fun next hmem => hbatches.not_refuses (mem_of_mem_head? hmem)
    have hfill := @fill_of_fits _ _ p _ hrefuses (item :: items) index [] hfits hnext
    rw [cons_append, nil_append] at hfill
    have hlater := @ih fuel (index + (item :: items).length) (by omega)
    rw [flatten_cons, cons_append, pack, hfill]
    simp only [Except.bind, hemit _ hne, hlater, Except.map, map_cons]

end Packer

/-- Parts of items that were changed are parts of the items. -/
theorem exists_parts_of_flatten_eq_map {f : α → β} {parts : List (List β)} :
    ∀ {items : List α}, parts.flatten = items.map f →
    ∃ origins : List (List α), origins.flatten = items ∧ parts = origins.map (map f) := by
  induction parts with
  | nil =>
    intro items h
    obtain rfl : items = [] := map_eq_nil_iff.mp h.symm
    exact ⟨[], rfl, rfl⟩
  | cons part parts ih =>
    intro items h
    obtain ⟨first, others, rfl, rfl, hothers⟩ := map_eq_append_iff.mp h.symm
    obtain ⟨origins, rfl, rfl⟩ := ih hothers.symm
    exact ⟨first :: origins, rfl, rfl⟩

end DbxSpec.Base
