import DbxSpec.Compare.Fetch

/-!
# The rows that are fetched

The condition of a page by key selects the rows after the last one, so pages by key have no row
twice and the count shows whether one is missing. Pages by offset are windows of arrangements that
may differ in the order of rows with the same key.
-/

namespace DbxSpec.Compare

open DbxSpec.Base DbxSpec.Sql List

section

variable {V : Type} [LinearOrder V]

/-! ### The condition of a page by key -/

/-- A key comes after the literals: the first value that differs is greater, and no value up to
there is null. -/
def SeekAfter (null : V) : List V → List V → Prop
  | a :: as, b :: bs =>
    (a ≠ null ∧ b ≠ null ∧ b < a) ∨ (a = b ∧ b ≠ null ∧ SeekAfter null as bs)
  | _, _ => False

variable {null : V} {literals : List V}

private theorem rowGreaterTruth_eq_true_iff (key literals : List V) :
    rowGreaterTruth null key literals = some true ↔ SeekAfter null key literals := by
  fun_induction SeekAfter null key literals with
  | case1 a key b literals ih =>
    rw [rowGreaterTruth, ← sqlGt_eq_true_iff, ← ih]
    by_cases hnull : a = null ∨ b = null
    · rw [sqlEq, if_pos hnull, sqlGt, if_pos hnull]
      rcases hnull with rfl | rfl <;> grind
    · rw [sqlEq, if_neg hnull, sqlGt, if_neg hnull]
      by_cases hab : a = b
      · grind
      · simp [hab]
  | case2 key literals hnot =>
    rw [rowGreaterTruth]
    · simp
    · exact hnot

private theorem seekAfter_iff_exists (null : V) (row : Text → V) (pairs : List (Text × V)) :
    SeekAfter null (pairs.map fun pair => row pair.1) (pairs.map (·.2)) ↔
      ∃ position last, pairs[position]? = some last ∧
        (∀ pair ∈ pairs.take position, row pair.1 = pair.2 ∧ pair.2 ≠ null) ∧
        row last.1 ≠ null ∧ last.2 ≠ null ∧ last.2 < row last.1 := by
  induction pairs with
  | nil => simp [SeekAfter]
  | cons pair pairs ih =>
    rw [map_cons, map_cons, SeekAfter, ih]
    constructor
    · rintro (hgreater | ⟨hequal, hnull, position, last, hlast, hbefore, hgreater⟩)
      · exact ⟨0, pair, rfl, by simp, hgreater⟩
      · refine ⟨position + 1, last, hlast, ?_, hgreater⟩
        rw [take_succ_cons, forall_mem_cons]
        exact ⟨⟨hequal, hnull⟩, hbefore⟩
    · rintro ⟨position, last, hlast, hbefore, hgreater⟩
      cases position with
      | zero =>
        cases hlast
        exact .inl hgreater
      | succ position =>
        rw [take_succ_cons, forall_mem_cons] at hbefore
        exact .inr ⟨hbefore.1.1, hbefore.1.2, position, last, hlast, hbefore.2, hgreater⟩

/-- Every form of the condition is true for the rows whose key comes after the literals. -/
theorem truth_keysetAfterPredicate_iff (databaseType : DatabaseType) {keys : List Text}
    (hlength : keys.length = literals.length) (row : Text → V) :
    (keysetAfterPredicate databaseType keys literals).truth null row = some true ↔
      SeekAfter null (keys.map row) literals := by
  unfold keysetAfterPredicate
  split
  · simp [AfterPredicate.truth, sqlGt_eq_true_iff, SeekAfter]
  · split
    · exact rowGreaterTruth_eq_true_iff _ _
    · have hkeys : (keys.zip literals).map (fun pair => row pair.1) = keys.map row := by
        rw [← Function.comp_def row Prod.fst, ← map_map, map_fst_zip hlength.le]
      have hliterals : (keys.zip literals).map (·.2) = literals := map_snd_zip hlength.ge
      have hexists := seekAfter_iff_exists null row (keys.zip literals)
      rw [hkeys, hliterals] at hexists
      rw [hexists, AfterPredicate.truth, Truth.any_eq_true_iff]
      simp only [mem_map, mem_filterMap, mem_range, Option.map_eq_some_iff]
      constructor
      · rintro ⟨truth, ⟨_, ⟨position, -, last, hlast, rfl⟩, rfl⟩, htruth⟩
        rw [Truth.all_eq_true_iff, forall_mem_append] at htruth
        refine ⟨position, last, hlast, ?_, ?_⟩
        · intro pair hpair
          exact (sqlEq_eq_true_iff _ _ _).mp (htruth.1 _ (mem_map_of_mem hpair))
        · exact (sqlGt_eq_true_iff _ _ _).mp (htruth.2 _ mem_cons_self)
      · rintro ⟨position, last, hlast, hbefore, hgreater⟩
        have hposition : position < keys.length := by
          have := (List.getElem?_eq_some_iff.mp hlast).1
          rw [length_zip] at this
          omega
        refine ⟨_, ⟨_, ⟨position, hposition, last, hlast, rfl⟩, rfl⟩, ?_⟩
        rw [Truth.all_eq_true_iff, forall_mem_append]
        constructor
        · intro truth htruth
          obtain ⟨pair, hpair, rfl⟩ := mem_map.mp htruth
          exact (sqlEq_eq_true_iff _ _ _).mpr (hbefore pair hpair)
        · intro truth htruth
          rw [mem_singleton.mp htruth]
          exact (sqlGt_eq_true_iff _ _ _).mpr hgreater

private theorem SeekAfter.lt {key : List V} (h : SeekAfter null key literals) : literals < key := by
  fun_induction SeekAfter null key literals with
  | case1 a key b literals ih =>
    rw [cons_lt_cons_iff]
    rcases h with h | ⟨rfl, -, h⟩
    · exact .inl h.2.2
    · exact .inr ⟨rfl, ih h⟩
  | case2 => exact h.elim

/-- Without nulls, coming after is the lexicographic order. -/
theorem seekAfter_iff_lt {key : List V} (hlength : key.length = literals.length) (hkey : null ∉ key)
    (hliterals : null ∉ literals) : SeekAfter null key literals ↔ literals < key := by
  refine ⟨SeekAfter.lt, fun hlt => ?_⟩
  induction key generalizing literals with
  | nil => exact absurd hlt (not_lt_nil literals)
  | cons a key ih =>
    rcases literals with _ | ⟨b, literals⟩
    · cases hlength
    rw [mem_cons, not_or] at hkey hliterals
    rw [cons_lt_cons_iff] at hlt
    rcases hlt with hlt | ⟨rfl, hlt⟩
    · exact .inl ⟨Ne.symm hkey.1, Ne.symm hliterals.1, hlt⟩
    · exact .inr ⟨rfl, Ne.symm hliterals.1, ih (Nat.succ.inj hlength) hkey.2 hliterals.2 hlt⟩

private theorem SeekAfter.trans {key mid : List V} (h : SeekAfter null key mid)
    (h' : SeekAfter null mid literals) : SeekAfter null key literals := by
  induction key generalizing mid literals with
  | nil => cases h
  | cons a key ih =>
    rcases mid with _ | ⟨b, mid⟩
    · cases h
    rcases literals with _ | ⟨c, literals⟩
    · cases h'
    rcases h with ⟨ha, hb, hlt⟩ | ⟨rfl, hb, h⟩
    · rcases h' with ⟨-, hc, hlt'⟩ | ⟨rfl, hc, -⟩
      · exact .inl ⟨ha, hc, hlt'.trans hlt⟩
      · exact .inl ⟨ha, hc, hlt⟩
    · rcases h' with h' | ⟨rfl, hc, h'⟩
      · exact .inl h'
      · exact .inr ⟨rfl, hc, ih h h'⟩

end

/-! ### The boundary of a page -/

section

variable {V : Type} (values : KeyValues V) (read : CompareRead)

private theorem mapM_isLiteral (key : List V) :
    (key.mapM fun value => if values.isLiteral value then some value else none) =
      if key.all values.isLiteral then some key else none := by
  induction key with
  | nil => rfl
  | cons value key ih =>
    rw [mapM_cons, ih, all_cons]
    cases values.isLiteral value <;> cases key.all values.isLiteral <;> rfl

section

variable {keyIndexes : List Nat}
  (hkeyset : keysetKeyIndexes read.databaseType read.columns read.keyColumns = some keyIndexes)

include hkeyset

private theorem keysetBoundaryLiterals_shown (row : Text → V) :
    keysetBoundaryLiterals values (read.shown row) keyIndexes =
      if (read.keyOf row).all values.isLiteral then some (read.keyOf row) else none := by
  have hindexes : read.keyColumns.mapM read.columns.idxOf? = some keyIndexes := by
    unfold keysetKeyIndexes at hkeyset
    exact (Option.ite_none_left_eq_some.mp hkeyset).2
  rw [← mapM_isLiteral]
  unfold CompareRead.keyOf CompareRead.shown keysetBoundaryLiterals
  clear hkeyset
  generalize read.keyColumns = keyColumns at hindexes
  induction keyColumns generalizing keyIndexes with
  | nil =>
    cases hindexes
    rfl
  | cons key keyColumns ih =>
    rw [mapM_cons] at hindexes
    obtain ⟨index, hindex, hrest⟩ := Option.bind_eq_some_iff.mp hindexes
    obtain ⟨indexes, hmore, hcons⟩ := Option.bind_eq_some_iff.mp hrest
    cases hcons
    have hget : (read.columns.map row)[index]? = some (row key) := by
      obtain ⟨hlt, hkey, -⟩ := idxOf?_eq_some_iff.mp hindex
      rw [getElem?_map, getElem?_eq_getElem hlt, hkey]
      rfl
    rw [mapM_cons, hget, ih hmore, map_cons, mapM_cons]
    rfl

private theorem exists_last_of_nextBoundary {after next : Option (List V)} {page : List (Text → V)}
    (hnext : nextBoundary values keyIndexes after (page.map read.shown) = some next) :
    ∃ last, page.getLast? = some last ∧ next = some (read.keyOf last) := by
  obtain ⟨lastRow, hlastRow, hboundary⟩ := Option.bind_eq_some_iff.mp hnext
  rw [getLast?_map, Option.map_eq_some_iff] at hlastRow
  obtain ⟨last, hlast, rfl⟩ := hlastRow
  rw [keysetBoundaryLiterals_shown values read hkeyset] at hboundary
  split at hboundary <;> cases hboundary
  exact ⟨last, hlast, rfl⟩

end

/-! ### Where the reader is -/

/-- Rows are split where the reader is: the boundary is the key of the last row so far. -/
structure SplitAt (read : CompareRead) (arr : List (Text → V)) (after : Option (List V))
    (front back : List (Text → V)) : Prop where
  eq : arr = front ++ back
  start : after = none → front = []
  boundary : ∀ boundary, after = some boundary →
    ∃ last, front.getLast? = some last ∧ boundary = read.keyOf last

variable {values read} {front back : List (Text → V)} {after : Option (List V)} {size : Nat}

private theorem splitAt_start (arr : List (Text → V)) : SplitAt read arr none [] arr where
  eq := rfl
  start := fun _ => rfl
  boundary := by
    intro boundary hboundary
    cases hboundary

private theorem SplitAt.next {arr : List (Text → V)} (hsplit : SplitAt read arr after front back)
    {last : Text → V} (hlast : (back.take size).getLast? = some last) :
    SplitAt read arr (some (read.keyOf last)) (front ++ back.take size) (back.drop size) where
  eq := by rw [append_assoc, take_append_drop, hsplit.eq]
  start := by
    intro hnone
    cases hnone
  boundary := by
    intro boundary hboundary
    cases hboundary
    refine ⟨last, ?_, rfl⟩
    rw [getLast?_append, hlast]
    rfl

private theorem take_of_split {budget : Nat} (hsize : front.length + size ≤ budget)
    (hshort : (back.take size).length < size) :
    front ++ back.take size = (front ++ back).take budget := by
  rw [length_take] at hshort
  rw [take_of_length_le (by omega), take_of_length_le]
  rw [length_append]
  omega

/-- The rows so far are the first ones in the order of the key. -/
def SplitState (read : CompareRead) (arr : List (Text → V)) (after : Option (List V))
    (rows : List (List V)) : Prop :=
  ∃ front back : List (Text → V), SplitAt read arr after front back ∧
    rows = front.map read.shown ∧ front.length ≤ read.rowBudget

private theorem SplitState.next {keyIndexes : List Nat} {arr : List (Text → V)}
    {next : Option (List V)} (hsplit : SplitAt read arr after front back)
    (hmore : front.length < read.rowBudget)
    (hkeyset : keysetKeyIndexes read.databaseType read.columns read.keyColumns = some keyIndexes)
    (hnext : nextBoundary values keyIndexes after ((back.take (min read.fetchBatchSize
      (read.rowBudget - front.length))).map read.shown) = some next) :
    SplitState read arr next (front.map read.shown ++
      (back.take (min read.fetchBatchSize (read.rowBudget - front.length))).map read.shown) := by
  obtain ⟨last, hlast, rfl⟩ := exists_last_of_nextBoundary values read hkeyset hnext
  refine ⟨_, _, hsplit.next hlast, map_append.symm, ?_⟩
  rw [length_append, length_take]
  omega

/-! ### The rows of pages by key -/

variable [LinearOrder V] (values read)

/-- A row is on the page after a boundary or on a later one. -/
def CompareRead.follows (after : Option (List V)) (row : Text → V) : Bool :=
  (after.map (keysetAfterPredicate read.databaseType read.keyColumns)).all fun condition =>
    condition.truth values.null row == some true

variable {values read}

private theorem follows_some_iff {boundary : List V}
    (hlength : boundary.length = read.keyColumns.length) (row : Text → V) :
    read.follows values (some boundary) row ↔ SeekAfter values.null (read.keyOf row) boundary := by
  rw [CompareRead.follows, Option.map_some, Option.all_some, beq_iff_eq,
    truth_keysetAfterPredicate_iff _ hlength.symm]
  rfl

variable {table arr : List (Text → V)}

private theorem subperm_next (harr : Arrangement read.keyOf table arr)
    (hafter : ∀ boundary, after = some boundary → boundary.length = read.keyColumns.length)
    {last : Text → V}
    (hlast : ((arr.filter (read.follows values after)).take size).getLast? = some last) :
    ((arr.filter (read.follows values after)).take size ++
        table.filter (read.follows values (some (read.keyOf last)))).Subperm
      (table.filter (read.follows values after)) ∧
    (∀ row ∈ (arr.filter (read.follows values after)).take size,
      read.keyOf row ≤ read.keyOf last) := by
  have hkeyLength : (read.keyOf last).length = read.keyColumns.length := length_map _
  set ahead := arr.filter (read.follows values after) with hahead
  have hupTo : ∀ row ∈ ahead.take size, read.keyOf row ≤ read.keyOf last := fun row hrow =>
    key_le_getLast ((harr.sorted.sublist filter_sublist).sublist (take_sublist _ _)) hlast hrow
  refine ⟨?_, hupTo⟩
  have hlastFollows : read.follows values after last :=
    (mem_filter.mp (mem_of_mem_take (mem_of_getLast? hlast))).2
  -- What follows the last row follows the boundary of this page.
  have hnarrow : arr.filter (read.follows values (some (read.keyOf last))) =
      ahead.filter (read.follows values (some (read.keyOf last))) := by
    rw [hahead, filter_filter]
    refine filter_congr fun row _ => ?_
    by_cases hrow : read.follows values (some (read.keyOf last)) row
    · rcases after with _ | boundary
      · rw [hrow]; rfl
      rw [follows_some_iff (hafter boundary rfl)] at hlastFollows
      have hrow' := (follows_some_iff hkeyLength row).mp hrow
      rw [hrow, (follows_some_iff (hafter boundary rfl) row).mpr (hrow'.trans hlastFollows)]
      rfl
    · rw [Bool.eq_false_iff.mpr hrow, Bool.false_and]
  have hpage : (ahead.take size).filter (read.follows values (some (read.keyOf last))) = [] := by
    rw [filter_eq_nil_iff]
    intro row hrow hfollows
    exact absurd (hupTo row hrow) (not_le.mpr ((follows_some_iff hkeyLength row).mp hfollows).lt)
  have hrest : (table.filter (read.follows values (some (read.keyOf last)))).Subperm
      (ahead.drop size) := by
    refine (harr.perm.filter _).symm.subperm.trans ?_
    rw [hnarrow]
    conv_lhs => rw [← take_append_drop size ahead]
    rw [filter_append, hpage, nil_append]
    exact filter_sublist.subperm
  apply ((subperm_append_left (ahead.take size)).mpr hrest).trans
  rw [take_append_drop]
  exact (harr.perm.filter _).subperm

/-- Between pages by key: the rows so far and those that follow are rows of the table, and the rows
so far are not after the boundary. -/
structure SeekState (values : KeyValues V) (read : CompareRead) (table : List (Text → V))
    (after : Option (List V)) (full : List (Text → V)) : Prop where
  subperm : (full ++ table.filter (read.follows values after)).Subperm table
  length : ∀ boundary, after = some boundary → boundary.length = read.keyColumns.length
  le : ∀ boundary, after = some boundary → ∀ row ∈ full, read.keyOf row ≤ boundary
  start : after = none → full = []

variable {database : CompareDatabase V} {keyIndexes : List Nat} {out : List (List V)}
  {fetched : List (List V)}

private theorem seekState_start : SeekState values read table none [] where
  subperm := filter_sublist.subperm
  length := by intro boundary hboundary; cases hboundary
  le := by intro boundary hboundary; cases hboundary
  start := fun _ => rfl

section

variable (hserves : Serves values read database table)

include hserves

private theorem fetchKeysetPage_eq
    (hpage : fetchKeysetPage read database size after = .ok fetched) :
    ∃ arr, Arrangement read.keyOf table arr ∧
      fetched = ((arr.filter (read.follows values after)).take size).map read.shown := by
  unfold fetchKeysetPage at hpage
  cases hrows : database.seekPage size
      (after.map (keysetAfterPredicate read.databaseType read.keyColumns)) with
  | error e =>
    rw [hrows] at hpage
    cases hpage
  | ok rows =>
    rw [hrows] at hpage
    obtain ⟨arr, harr, rfl⟩ := hserves.seeks _ _ rows hrows
    cases hpage
    exact ⟨arr, harr, rfl⟩

variable
  (hkeyset : keysetKeyIndexes read.databaseType read.columns read.keyColumns = some keyIndexes)

include hkeyset

private theorem SeekState.next {next : Option (List V)} {full : List (Text → V)}
    (hstate : SeekState values read table after full)
    (hpage : fetchKeysetPage read database size after = .ok fetched)
    (hnext : nextBoundary values keyIndexes after fetched = some next) :
    ∃ page, fetched = page.map read.shown ∧ page.length ≤ size ∧
      (page ++ table.filter (read.follows values next)).Subperm
        (table.filter (read.follows values after)) ∧
      SeekState values read table next (full ++ page) := by
  obtain ⟨arr, harr, rfl⟩ := fetchKeysetPage_eq hserves hpage
  obtain ⟨last, hlast, rfl⟩ := exists_last_of_nextBoundary values read hkeyset hnext
  obtain ⟨hsubperm, hupTo⟩ := subperm_next harr hstate.length hlast
  refine ⟨_, rfl, length_take_le _ _, hsubperm, ?_, ?_, ?_, nofun⟩
  · rw [append_assoc]
    exact ((subperm_append_left full).mpr hsubperm).trans hstate.subperm
  · rintro _ ⟨rfl⟩
    exact length_map _
  · rintro _ ⟨rfl⟩ row hrow
    rcases mem_append.mp hrow with hrow | hrow
    · cases hafter : after with
      | none =>
        rw [hstate.start hafter] at hrow
        cases hrow
      | some boundary =>
        have hlastFollows := (mem_filter.mp (mem_of_mem_take (mem_of_getLast? hlast))).2
        rw [hafter, follows_some_iff (hstate.length boundary hafter)] at hlastFollows
        exact (hstate.le boundary hafter row hrow).trans hlastFollows.lt.le
    · exact hupTo row hrow

/-- Pages by key have rows of the table, and no row twice. -/
theorem fetchCompareRowsByKey_subperm
    (hout : fetchCompareRowsByKey values read database keyIndexes = .ok (some out)) :
    ∃ full : List (Text → V), out = full.map read.shown ∧ full.Subperm table := by
  refine readPages_rule (fun after rows => ∃ full : List (Text → V),
      rows = full.map read.shown ∧ SeekState values read table after full)
    (fun result => ∀ out, result = .ok (some out) → ∃ full : List (Text → V),
      out = full.map read.shown ∧ full.Subperm table)
    read.fetchBatchSize_pos ?_ ?_ (Nat.le_add_left _ _) ⟨[], rfl, seekState_start⟩ out hout
  · rintro after _ ⟨full, rfl, hstate⟩ - _ ⟨rfl⟩
    exact ⟨full, rfl, (sublist_append_left _ _).subperm.trans hstate.subperm⟩
  · rintro after _ ⟨full, rfl, hstate⟩ -
    split
    · nofun
    · next fetched hpage =>
      split
      · rintro _ ⟨rfl⟩
        obtain ⟨arr, harr, rfl⟩ := fetchKeysetPage_eq hserves hpage
        refine ⟨_, map_append.symm, List.Subperm.trans ?_ hstate.subperm⟩
        apply (subperm_append_left full).mpr
        exact (take_sublist _ _).subperm.trans (harr.perm.filter _).subperm
      · split
        · nofun
        · next hnext =>
          obtain ⟨page, rfl, -, -, hstate⟩ := hstate.next hserves hkeyset hpage hnext
          exact ⟨_, map_append.symm, hstate⟩

omit hserves hkeyset in
private theorem SeekState.lt_of_straddles {full : List (Text → V)} {c : List V}
    (hstate : SeekState values read table after full)
    (hbefore : rowsBefore read.keyOf table c < full.length)
    (hupTo : full.length < rowsUpTo read.keyOf table c) :
    full.length + (table.filter (read.follows values after)).length < table.length := by
  by_contra hall
  -- Otherwise the rows so far are all the rows up to the boundary.
  have hperm := hstate.subperm.perm_of_length_le (by rw [length_append]; omega)
  cases hafter : after with
  | none =>
    rw [hstate.start hafter] at hbefore
    cases hbefore
  | some boundary =>
    have hfull : rowsUpTo read.keyOf full boundary = full.length := by
      rw [rowsUpTo, countP_eq_length]
      intro row hrow
      simpa using hstate.le boundary hafter row hrow
    have hfollowing : rowsUpTo read.keyOf (table.filter (read.follows values after)) boundary =
        0 := by
      rw [rowsUpTo, countP_eq_zero]
      intro row hrow
      have hfollows := (mem_filter.mp hrow).2
      rw [hafter, follows_some_iff (hstate.length boundary hafter)] at hfollows
      simpa using hfollows.lt
    have hupToBoundary : rowsUpTo read.keyOf table boundary = full.length := by
      unfold rowsUpTo at hfull hfollowing ⊢
      rw [← hperm.countP_eq, countP_append, hfull, hfollowing, Nat.add_zero]
    rcases lt_or_ge boundary c with hlt | hge
    · have hmono : rowsUpTo read.keyOf table boundary ≤ rowsBefore read.keyOf table c :=
        countP_mono_left fun row _ hrow => by
          simpa using (of_decide_eq_true hrow).trans_lt hlt
      omega
    · have hmono : rowsUpTo read.keyOf table c ≤ rowsUpTo read.keyOf table boundary :=
        countP_mono_left fun row _ hrow => by
          simpa using (of_decide_eq_true hrow).trans hge
      omega

/-- Pages by key miss a row, if a key straddles the end of a page. -/
theorem fetchCompareRowsByKey_short (hbudget : table.length ≤ read.rowBudget) {c : List V}
    {pages : Nat} (hbefore : rowsBefore read.keyOf table c < pages * read.fetchBatchSize)
    (hupTo : pages * read.fetchBatchSize < rowsUpTo read.keyOf table c)
    (hout : fetchCompareRowsByKey values read database keyIndexes = .ok (some out)) :
    out.length < table.length := by
  have hcount : rowsUpTo read.keyOf table c ≤ table.length := countP_le_length
  have hpages {k : Nat} (hk : k < pages) :
      k * read.fetchBatchSize + read.fetchBatchSize ≤ pages * read.fetchBatchSize := by
    rw [← Nat.succ_mul]
    exact Nat.mul_le_mul_right _ hk
  -- Full pages are read up to the end of that page, and from there on a row is missing.
  refine readPages_rule (fun after rows => ∃ full : List (Text → V),
      rows = full.map read.shown ∧ SeekState values read table after full ∧
      ((∃ k < pages, full.length = k * read.fetchBatchSize) ∨
        full.length + (table.filter (read.follows values after)).length < table.length))
    (fun result => ∀ out, result = .ok (some out) → out.length < table.length)
    read.fetchBatchSize_pos ?_ ?_ (Nat.le_add_left _ _)
    ⟨[], rfl, seekState_start, .inl ⟨0, ?_, (Nat.zero_mul _).symm⟩⟩ out hout
  · rintro after _ ⟨full, rfl, -, ⟨k, hk, hlength⟩ | hmissing⟩ henough _ ⟨rfl⟩
    · have := hpages hk
      rw [length_map] at henough
      omega
    · rw [length_map]
      omega
  · rintro after _ ⟨full, rfl, hstate, hfull⟩ hmore
    split
    · nofun
    · next fetched hpage =>
      split
      · next hshort =>
        rintro _ ⟨rfl⟩
        obtain ⟨arr, harr, rfl⟩ := fetchKeysetPage_eq hserves hpage
        have hahead := (harr.perm.filter (read.follows values after)).length_eq
        simp only [length_append, length_map, length_take] at hshort ⊢
        rcases hfull with ⟨k, hk, hlength⟩ | hmissing
        · have := hpages hk
          omega
        · omega
      · next hlast =>
        split
        · nofun
        · next hnext =>
          obtain ⟨page, rfl, hsize, hsubperm, hstate'⟩ := hstate.next hserves hkeyset hpage hnext
          refine ⟨_, map_append.symm, hstate', ?_⟩
          have hlength' := hsubperm.length_le
          rw [length_append] at hlength' ⊢
          simp only [length_map] at hlast hsize hmore
          rcases hfull with ⟨k, hk, hlength⟩ | hmissing
          · have hend := hpages hk
            have hnow : full.length + page.length = (k + 1) * read.fetchBatchSize := by
              rw [Nat.succ_mul]
              omega
            rcases Nat.lt_or_ge (k + 1) pages with hmore | hdone
            · exact .inl ⟨k + 1, hmore, hnow⟩
            · have hlost := hstate'.lt_of_straddles (c := c)
              rw [length_append, hnow, le_antisymm hk hdone] at hlost
              rw [hnow, le_antisymm hk hdone]
              exact .inr (hlost hbefore hupTo)
          · exact .inr (by omega)
  · exact Nat.pos_of_mul_pos_right (Nat.zero_lt_of_lt hbefore)

end

/-! ### Keys without nulls and duplicates -/

private theorem SplitAt.filter_follows (harr : Arrangement read.keyOf table arr)
    (hnonnull : ∀ row ∈ table, values.null ∉ read.keyOf row)
    (hunique : (table.map read.keyOf).Nodup) (hsplit : SplitAt read arr after front back) :
    arr.filter (read.follows values after) = back := by
  cases hafter : after with
  | none =>
    rw [hsplit.eq, hsplit.start hafter, nil_append, filter_eq_self]
    exact fun _ _ => rfl
  | some boundary =>
    obtain ⟨last, hlast, rfl⟩ := hsplit.boundary boundary hafter
    have hkeyLength : ∀ row : Text → V, (read.keyOf row).length = read.keyColumns.length :=
      fun row => length_map _
    have hsorted := harr.sorted
    have hdistinct := (harr.perm.map read.keyOf).nodup_iff.mpr hunique
    rw [hsplit.eq, pairwise_append] at hsorted
    rw [hsplit.eq, map_append, nodup_append] at hdistinct
    have hlastMem : last ∈ front := mem_of_getLast? hlast
    have hmem : ∀ row ∈ front ++ back, row ∈ table := fun row hrow =>
      harr.perm.mem_iff.mp (hsplit.eq ▸ hrow)
    have hfront : front.filter (read.follows values (some (read.keyOf last))) = [] := by
      rw [filter_eq_nil_iff]
      intro row hrow hfollows
      rw [follows_some_iff (hkeyLength last)] at hfollows
      exact absurd (key_le_getLast hsorted.1 hlast hrow) (not_le.mpr hfollows.lt)
    rw [hsplit.eq, filter_append, hfront, nil_append, filter_eq_self]
    intro row hrow
    rw [follows_some_iff (hkeyLength last), seekAfter_iff_lt (by rw [hkeyLength, hkeyLength])
      (hnonnull row (hmem row (mem_append_right _ hrow)))
      (hnonnull last (hmem last (mem_append_left _ hlastMem)))]
    exact lt_of_le_of_ne (hsorted.2.2 last hlastMem row hrow)
      (hdistinct.2.2 _ (mem_map_of_mem hlastMem) _ (mem_map_of_mem hrow))

section

variable (hserves : Serves values read database table)
  (hnonnull : ∀ row ∈ table, values.null ∉ read.keyOf row)
  (hunique : (table.map read.keyOf).Nodup)

include hserves hnonnull hunique

private theorem SplitAt.fetchKeysetPage_eq
    (hsplit : SplitAt read (arranged read.keyOf table) after front back)
    (hpage : fetchKeysetPage read database size after = .ok fetched) :
    fetched = (back.take size).map read.shown := by
  have harr := arrangement_arranged read.keyOf table
  obtain ⟨arr, harr', rfl⟩ := Compare.fetchKeysetPage_eq hserves hpage
  rw [harr'.eq_of_nodup harr hunique, hsplit.filter_follows harr hnonnull hunique]

section

variable
  (hkeyset : keysetKeyIndexes read.databaseType read.columns read.keyColumns = some keyIndexes)

include hkeyset

/-- Pages by key give the first rows in the order of the key, if they give anything. -/
theorem fetchCompareRowsByKey_eq
    (hout : fetchCompareRowsByKey values read database keyIndexes = .ok (some out)) :
    out = ((arranged read.keyOf table).take read.rowBudget).map read.shown := by
  refine readPages_rule (SplitState read (arranged read.keyOf table))
    (fun result => ∀ out, result = .ok (some out) →
      out = ((arranged read.keyOf table).take read.rowBudget).map read.shown)
    read.fetchBatchSize_pos ?_ ?_ (Nat.le_add_left _ _)
    ⟨[], _, splitAt_start _, rfl, Nat.zero_le _⟩ out hout
  · rintro after _ ⟨front, back, hsplit, rfl, hlength⟩ hdone _ ⟨rfl⟩
    rw [length_map] at hdone
    rw [hsplit.eq, le_antisymm hdone hlength, take_left]
  · rintro after _ ⟨front, back, hsplit, rfl, hlength⟩ hmore
    split
    · nofun
    · next fetched hpage =>
      have hfetched := hsplit.fetchKeysetPage_eq hserves hnonnull hunique hpage
      subst hfetched
      simp only [length_map] at hmore ⊢
      split
      · next hshort =>
        rintro _ ⟨rfl⟩
        rw [← map_append, take_of_split _ hshort, ← hsplit.eq]
        omega
      · split
        · nofun
        · next hnext => exact SplitState.next hsplit hmore hkeyset hnext

/-- They do, if the database answers and the keys can be written as literals. -/
theorem exists_fetchCompareRowsByKey (hanswers : database.Answers)
    (hliteral : ∀ row ∈ table, (read.keyOf row).all values.isLiteral) :
    ∃ out, fetchCompareRowsByKey values read database keyIndexes = .ok (some out) := by
  refine readPages_rule (SplitState read (arranged read.keyOf table))
    (fun result => ∃ out, result = .ok (some out))
    read.fetchBatchSize_pos (fun _ rows _ _ => ⟨rows, rfl⟩) ?_ (Nat.le_add_left _ _)
    ⟨[], _, splitAt_start _, rfl, Nat.zero_le _⟩
  rintro after rows ⟨front, back, hsplit, rfl, hlength⟩ hmore
  rw [length_map] at hmore ⊢
  set size := min read.fetchBatchSize (read.rowBudget - front.length) with hsize
  have hpos : 0 < size := by
    have hbatch := read.fetchBatchSize_pos
    omega
  obtain ⟨rows, hrows⟩ := hanswers size
    (after.map (keysetAfterPredicate read.databaseType read.keyColumns))
  have hpage : fetchKeysetPage read database size after = .ok (rows.map read.shown) := by
    rw [fetchKeysetPage, hrows]
    rfl
  rw [hpage]
  dsimp only
  split
  · exact ⟨_, rfl⟩
  next hfull =>
  rw [hsplit.fetchKeysetPage_eq hserves hnonnull hunique hpage, length_map, not_lt] at hfull
  rw [hsplit.fetchKeysetPage_eq hserves hnonnull hunique hpage]
  obtain ⟨last, hlast⟩ : ∃ last, (back.take size).getLast? = some last := by
    rw [← Option.ne_none_iff_exists', Ne, getLast?_eq_none_iff]
    exact length_pos_iff.mp (hpos.trans_le hfull)
  have hmem : last ∈ table := by
    apply (arrangement_arranged read.keyOf table).perm.mem_iff.mp
    rw [hsplit.eq]
    exact mem_append_right _ (mem_of_mem_take (mem_of_getLast? hlast))
  have hnext : nextBoundary values keyIndexes after ((back.take size).map read.shown) =
      some (some (read.keyOf last)) := by
    rw [nextBoundary, getLast?_map, hlast]
    change (keysetBoundaryLiterals values (read.shown last) keyIndexes).map some = _
    rw [keysetBoundaryLiterals_shown values read hkeyset, if_pos (hliteral last hmem)]
    rfl
  rw [hnext]
  exact SplitState.next hsplit hmore hkeyset hnext

end

end

end

end DbxSpec.Compare
