import Mathlib.Data.List.Sort

/-!
# Maps built by a loop

A loop over a list that updates one entry of a sorted map per item, and what such a map holds
under one key: the items of that key alone, applied in order.
-/

namespace DbxSpec.Base

open List

/-! ### Sorted lists without duplicates -/

/-- `sort` followed by `dedup`. -/
def sortDedup {α : Type} [Ord α] (l : List α) : List α := (Std.TreeSet.ofList l compare).toList

/-- The members stay. -/
@[simp] theorem mem_sortDedup {α : Type} [Ord α] [Std.TransOrd α] [Std.LawfulEqOrd α]
    [DecidableEq α] {l : List α} {a : α} : a ∈ sortDedup l ↔ a ∈ l := by
  rw [sortDedup, Std.TreeSet.mem_toList, Std.TreeSet.mem_ofList, contains_iff_mem]

/-- If an ordered list has no `p` after a `q`, its items that satisfy either are those of `p`
followed by those of `q`. -/
theorem filter_or_eq_append {α : Type} {r : α → α → Prop} {p q : α → Bool} {l : List α}
    (hl : l.Pairwise r) (horder : ∀ a b, r a b → q a → p b = false)
    (hdisjoint : ∀ a, p a → q a = false) :
    l.filter (fun a => p a || q a) = l.filter p ++ l.filter q := by
  induction l with
  | nil => rfl
  | cons a l ih =>
    obtain ⟨hhead, htail⟩ := pairwise_cons.mp hl
    cases hp : p a with
    | true => simp [hp, hdisjoint a hp, ih htail]
    | false =>
      rcases hq : q a with _ | _
      · simp [hp, hq, ih htail]
      have hnone : l.filter p = [] := by
        rw [filter_eq_nil_iff]
        intro b hb
        simp [horder a b (hhead b hb) hq]
      have hrest := ih htail
      simp [hp, hq, hnone, hrest]

/-! ### Lists in the order of a key -/

section Sorted

variable {α κ : Type} {cmp : κ → κ → Ordering} [Std.TransCmp cmp] [Std.LawfulEqCmp cmp]

/-- Each item's key comes before the keys of all later items; so no key occurs twice. -/
def SortedBy (cmp : κ → κ → Ordering) (key : α → κ) (l : List α) : Prop :=
  l.Pairwise fun a b => cmp (key a) (key b) = .lt

/-- Sorted lists with the same members are equal. -/
theorem SortedBy.eq_of_mem_iff {key : α → κ} {l₁ l₂ : List α} (h₁ : SortedBy cmp key l₁)
    (h₂ : SortedBy cmp key l₂) (h : ∀ a, a ∈ l₁ ↔ a ∈ l₂) : l₁ = l₂ := by
  have : Std.Antisymm fun a b => cmp (key a) (key b) = .lt :=
    ⟨fun a b hab hba => absurd hba (Std.OrientedCmp.not_lt_of_lt hab)⟩
  have : Std.Irrefl fun a b => cmp (key a) (key b) = .lt := ⟨by simp [Std.ReflCmp.compare_self]⟩
  exact List.Pairwise.eq_of_mem_iff h₁ h₂ h

omit [Std.TransCmp cmp] in
/-- At most one item has a given key. -/
theorem SortedBy.filter_eq [DecidableEq κ] {key : α → κ} {l : List α}
    (hl : SortedBy cmp key l) (k : κ) :
    l.filter (fun a => key a = k) = (l.find? fun a => key a = k).toList := by
  induction l with
  | nil => rfl
  | cons a l ih =>
    obtain ⟨hhead, htail⟩ := pairwise_cons.mp hl
    by_cases ha : key a = k
    · have hnone : l.filter (fun a => key a = k) = [] := by
        rw [filter_eq_nil_iff]
        intro b hb hkey
        have hlt := hhead b hb
        have hself : cmp k k = .eq := Std.ReflCmp.compare_self
        rw [ha, of_decide_eq_true hkey, hself] at hlt
        cases hlt
      simp [ha, hnone]
    · simp [ha, ih htail]

/-- The result is sorted. -/
theorem sortedBy_sortDedup [Ord α] [Std.TransOrd α] (l : List α) :
    SortedBy compare id (sortDedup l) := by
  have hordered : (sortDedup l).Pairwise fun a b => compare a b = .lt := Std.TreeSet.ordered_toList
  exact hordered

end Sorted

section Maps

variable {κ ν ι : Type} {cmp : κ → κ → Ordering} [Std.TransCmp cmp] [Std.LawfulEqCmp cmp]
  [DecidableEq κ] {map : Std.TreeMap κ ν cmp}

omit [DecidableEq κ] in
/-- The values of a map are in the order of the key that each carries. -/
theorem sortedBy_values {id : ν → κ} (hid : ∀ k v, map[k]? = some v → id v = k) :
    SortedBy cmp id (map.toList.map Prod.snd) := by
  rw [SortedBy, pairwise_map]
  refine Std.TreeMap.ordered_keys_toList.imp_of_mem ?_
  rintro ⟨k, v⟩ ⟨k', v'⟩ hentry hentry' hlt
  rw [hid k v (Std.TreeMap.mem_toList_iff_getElem?_eq_some.mp hentry),
    hid k' v' (Std.TreeMap.mem_toList_iff_getElem?_eq_some.mp hentry')]
  exact hlt

/-- The entry of one key, taken out of the list of all entries. -/
theorem filter_toList_eq (map : Std.TreeMap κ ν cmp) (k : κ) :
    map.toList.filter (fun entry => entry.1 = k) = (map[k]?).toList.map (k, ·) := by
  have hsorted : SortedBy cmp Prod.fst map.toList := Std.TreeMap.ordered_keys_toList
  have hmem (v : ν) : (k, v) ∈ map.toList.filter (fun entry => entry.1 = k) ↔
      map[k]? = some v := by
    simp [Std.TreeMap.mem_toList_iff_getElem?_eq_some]
  rw [hsorted.filter_eq] at hmem ⊢
  cases hfind : map.toList.find? fun entry => entry.1 = k with
  | none =>
    have hnone : map[k]? = none := by
      rw [Option.eq_none_iff_forall_ne_some]
      intro v hv
      simpa [hfind] using (hmem v).mpr hv
    rw [hnone]
    rfl
  | some entry =>
    obtain ⟨k', v⟩ := entry
    obtain rfl : k' = k := by simpa using find?_some hfind
    rw [(hmem v).mp (by simp [hfind])]
    rfl

/-- If only the entry of one key gives an item with a certain name, the items with that name are
what this entry gives. -/
theorem filter_filterMap_toList {β γ : Type} [DecidableEq γ] {f : κ × ν → Option β} {name : β → γ}
    {k : κ} {n : γ}
    (hnames : ∀ entry ∈ map.toList, (f entry).filter (fun item => name item = n) = if entry.1 = k
      then f entry else none) :
    (map.toList.filterMap f).filter (fun item => name item = n) =
      ((map[k]?).bind fun v => f (k, v)).toList := by
  have hown : map.toList.filterMap (fun entry => (f entry).filter (fun item => name item = n)) =
      (map.toList.filter (fun entry => entry.1 = k)).filterMap f := by
    rw [filterMap_filter]
    exact filterMap_congr fun entry hentry => by simp [hnames entry hentry]
  rw [filter_filterMap, hown, filter_toList_eq]
  cases map[k]? with
  | none => rfl
  | some v => cases hitem : f (k, v) <;> simp [hitem]

/-- When every value carries its own key, the values with a given key are its entry. -/
theorem filter_values {id : ν → κ} (hid : ∀ k v, map[k]? = some v → id v = k) (k : κ) :
    (map.toList.map Prod.snd).filter (fun v => id v = k) = (map[k]?).toList := by
  have hids : ∀ entry ∈ map.toList,
      ((fun v => decide (id v = k)) ∘ Prod.snd) entry = decide (entry.1 = k) := by
    rintro ⟨k', v⟩ hentry
    simp [hid k' v (Std.TreeMap.mem_toList_iff_getElem?_eq_some.mp hentry)]
  rw [filter_map, filter_congr hids, filter_toList_eq]
  cases map[k]? <;> rfl

/-- When every value carries its own key, searching the values is looking the key up. -/
theorem find?_values {id : ν → κ} (hid : ∀ k v, map[k]? = some v → id v = k) (k : κ) :
    (map.toList.map Prod.snd).find? (fun v => id v = k) = map[k]? := by
  rw [← head?_filter, filter_values hid]
  cases map[k]? <;> rfl

/-- `for item in items { map.entry(key(item)) … }`: each item rewrites the entry of its key; an
item without a key is passed over. -/
def foldEntries (key : ι → Option κ) (update : ι → Option ν → Option ν) (items : List ι)
    (map : Std.TreeMap κ ν cmp) : Std.TreeMap κ ν cmp :=
  items.foldl (fun map item => match key item with
    | some k => map.alter k (update item)
    | none => map) map

/-- One key of the map depends on the items of that key only. -/
theorem getElem?_foldEntries (key : ι → Option κ) (update : ι → Option ν → Option ν)
    (items : List ι) (map : Std.TreeMap κ ν cmp) (k : κ) :
    (foldEntries key update items map)[k]? =
      (items.filter (fun item => key item = some k)).foldl (fun entry item => update item entry)
        map[k]? := by
  induction items generalizing map with
  | nil => rfl
  | cons item items ih =>
    rw [foldEntries, foldl_cons, ← foldEntries, ih]
    rcases hkey : key item with _ | k'
    · simp [hkey]
    by_cases hk : k' = k
    · subst hk
      simp [hkey]
    · simp [hkey, hk, Std.TreeMap.getElem?_alter]

/-- An entry was there before the loop or belongs to the key of an item. -/
theorem foldEntries_source {key : ι → Option κ} {update : ι → Option ν → Option ν} {items : List ι}
    {k : κ} {v : ν} (h : (foldEntries key update items map)[k]? = some v) :
    map[k]? = some v ∨ ∃ item ∈ items, key item = some k := by
  rw [getElem?_foldEntries] at h
  by_cases hitems : ∃ item ∈ items, key item = some k
  · exact .inr hitems
  · have hnone : items.filter (fun item => key item = some k) = [] := by
      rw [filter_eq_nil_iff]
      intro item hitem hkey
      exact hitems ⟨item, hitem, by simpa using hkey⟩
    rw [hnone] at h
    exact .inl h

/-- What holds of an entry after every update of its key holds of every entry of the loop. -/
theorem foldEntries_invariant {key : ι → Option κ} {update : ι → Option ν → Option ν}
    {items : List ι} {inv : κ → ν → Prop} (hmap : ∀ k v, map[k]? = some v → inv k v)
    (hupdate : ∀ item k entry v, key item = some k → (∀ u, entry = some u → inv k u) → update item
      entry = some v → inv k v) :
    ∀ k v, (foldEntries key update items map)[k]? = some v → inv k v := by
  intro k v h
  rw [getElem?_foldEntries] at h
  have hitems : ∀ item ∈ items.filter (fun item => key item = some k), key item = some k := by
    simp
  generalize items.filter (fun item => key item = some k) = own at h hitems
  have hentry : ∀ u, map[k]? = some u → inv k u := hmap k
  generalize map[k]? = entry at h hentry
  induction own generalizing entry with
  | nil => exact hentry v h
  | cons item own ih =>
    refine ih (fun other hother => hitems other (by simp [hother])) (update item entry) h ?_
    intro u hu
    exact hupdate item k entry u (hitems item (by simp)) hentry hu

end Maps

end DbxSpec.Base
