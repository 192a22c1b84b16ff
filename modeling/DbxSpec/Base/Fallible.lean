import DbxSpec.Base.Text

/-!
# Loops that may fail

Rules for `mapM` over a list in `Except`, and for lists that are related item by item.
-/

namespace DbxSpec.Base

variable {α β γ ε : Type} {f : α → Except ε β} {items : List α} {x : Except ε α}

/-- A step and what follows it succeed together. -/
theorem bind_eq_ok_iff {result : β} :
    x.bind f = .ok result ↔ ∃ value, x = .ok value ∧ f value = .ok result := by
  cases x <;> simp [Except.bind]

/-- A mapped result succeeds as the result does. -/
theorem map_eq_ok_iff {f : α → β} {result : β} :
    x.map f = .ok result ↔ ∃ value, x = .ok value ∧ f value = result := by
  cases x <;> simp [Except.map]

/-- A mapped result fails as the result does. -/
theorem map_eq_error_iff {f : α → β} {e : ε} : x.map f = .error e ↔ x = .error e := by
  cases x <;> simp [Except.map]

/-- A check before the rest. -/
theorem guard_eq_ok_iff {p : Prop} [Decidable p] {e : ε} {result : α} :
    (if p then .error e else x) = .ok result ↔ ¬ p ∧ x = .ok result := by
  split <;> simp [*]

private theorem mapM_nil_except (f : α → Except ε β) : ([] : List α).mapM f = .ok [] := rfl

private theorem mapM_cons_except (f : α → Except ε β) (item : α) (items : List α) :
    (item :: items).mapM f =
      (f item).bind fun result => (items.mapM f).map (result :: ·) := by
  rw [List.mapM_cons]
  rfl

/-- The results of a loop that succeeds, one for each item. -/
theorem mapM_eq_ok_iff {results : List β} : items.mapM f = .ok results ↔
      List.Forall₂ (fun item result => f item = .ok result) items results := by
  induction items generalizing results with
  | nil =>
    rw [mapM_nil_except, List.forall₂_nil_left_iff]
    exact ⟨fun h => (Except.ok.inj h).symm, fun h => congrArg Except.ok h.symm⟩
  | cons item items ih =>
    rw [mapM_cons_except, List.forall₂_cons_left_iff, bind_eq_ok_iff]
    constructor
    · rintro ⟨result, hitem, h⟩
      obtain ⟨others, hitems, rfl⟩ := map_eq_ok_iff.mp h
      exact ⟨result, others, hitem, ih.mp hitems, rfl⟩
    · rintro ⟨result, others, hitem, hitems, rfl⟩
      rw [hitem, ih.mpr hitems]
      exact ⟨result, rfl, rfl⟩

/-- A loop whose steps all succeed. -/
theorem mapM_eq_ok_map {g : α → β} (h : ∀ item ∈ items, f item = .ok (g item)) :
    items.mapM f = .ok (items.map g) := by
  induction items with
  | nil => rfl
  | cons item items ih =>
    rw [mapM_cons_except, h item List.mem_cons_self,
      ih fun later hlater => h later (List.mem_cons_of_mem item hlater)]
    rfl

/-- A map over items that all succeed succeeds. -/
theorem exists_mapM_eq_ok (h : ∀ item ∈ items, ∃ result, f item = .ok result) :
    ∃ results, items.mapM f = .ok results := by
  induction items with
  | nil => exact ⟨[], rfl⟩
  | cons item items ih =>
    obtain ⟨⟨first, hfirst⟩, hlater⟩ := List.forall_mem_cons.mp h
    obtain ⟨results, hresults⟩ := ih hlater
    exact ⟨first :: results, by rw [mapM_cons_except, hfirst, hresults]; rfl⟩

/-- Related lists are related at every place. -/
theorem getElem?_of_forall₂ {R : α → β → Prop} {firsts : List α} {seconds : List β}
    (h : List.Forall₂ R firsts seconds) : ∀ {index : Nat} {first : α},
    firsts[index]? = some first → ∃ second, seconds[index]? = some second ∧ R first second := by
  induction h with
  | nil =>
    intro index first hfirst
    cases hfirst
  | @cons a b _ _ hhead _ ih =>
    intro index first hfirst
    cases index with
    | zero =>
      cases hfirst
      exact ⟨b, rfl, hhead⟩
    | succ index => exact ih hfirst

/-- Functions that agree on the items. -/
theorem mapM_congr {g : α → Except ε β} (h : ∀ item ∈ items, f item = g item) :
    items.mapM f = items.mapM g := by
  induction items with
  | nil => rfl
  | cons item items ih =>
    rw [mapM_cons_except, mapM_cons_except, h item List.mem_cons_self,
      ih fun later hlater => h later (List.mem_cons_of_mem item hlater)]

/-- Mapped items. -/
theorem mapM_map_except (f : β → Except ε γ) (g : α → β) (items : List α) :
    (items.map g).mapM f = items.mapM (f ∘ g) := by
  induction items with
  | nil => rfl
  | cons item items ih =>
    rw [List.map_cons, mapM_cons_except, mapM_cons_except, ih]
    rfl

/-- Two lists that are each related to a third, item by item. -/
theorem forall₂_of_common {R : α → β → Prop} {S : α → γ → Prop} {firsts : List β} {seconds : List γ}
    (hfirst : List.Forall₂ R items firsts) (hsecond : List.Forall₂ S items seconds) :
    List.Forall₂ (fun first second => ∃ item, R item first ∧ S item second) firsts seconds := by
  induction hfirst generalizing seconds with
  | nil =>
    cases hsecond
    exact .nil
  | @cons item first items firsts hitem _ ih =>
    cases hsecond with
    | cons hitem' hitems' => exact .cons ⟨item, hitem, hitem'⟩ (ih hitems')

/-- Lists with equal images agree item by item. -/
theorem map_eq_map_iff_forall₂ {f : α → γ} {g : β → γ} {firsts : List α} {seconds : List β} :
    firsts.map f = seconds.map g ↔ List.Forall₂ (fun a b => f a = g b) firsts seconds := by
  rw [← List.forall₂_eq_eq_eq, List.forall₂_map_left_iff, List.forall₂_map_right_iff]

end DbxSpec.Base
