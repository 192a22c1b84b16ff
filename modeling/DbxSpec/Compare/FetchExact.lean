import DbxSpec.Compare.FetchedRows

/-!
# When every row is fetched

With distinct keys the order of the rows is fixed, and the first rows are fetched. With other keys
the pages by offset are windows of different arrangements, so that rows with the same key on two
pages may be fetched twice or not at all.
-/

namespace DbxSpec.Compare

open DbxSpec.Base DbxSpec.Sql List Nat

/-! ### Pages by offset -/

section

variable {V : Type} {read : CompareRead} {database : CompareDatabase V}

private theorem fetchOffsetPage_eq {arr : List (Text → V)} {size offset : Nat}
    (hselect : database.selectPage (dataCompareClause read.databaseType size offset) =
      .ok ((dataCompareClause read.databaseType size offset).rows arr)) :
    fetchOffsetPage read database size offset =
      .ok (((arr.drop offset).take size).map read.shown) := by
  rw [fetchOffsetPage, hselect, rows_dataCompareClause read.databaseType_ne]
  rfl

private theorem fetchCompareRowsByOffset_spec (First : Nat → List (List V) → Prop) {count : Nat}
    (hstart : First 0 [])
    (hpage : ∀ offset rows, offset < read.rowBudget → offset ≤ count →
      read.fetchBatchSize ∣ offset → rows.length = offset → First offset rows → ∃ fetched,
        fetchOffsetPage read database
          (min read.fetchBatchSize (read.rowBudget - offset)) offset = .ok fetched ∧
        fetched.length = min (min read.fetchBatchSize (read.rowBudget - offset)) (count - offset) ∧
        First (offset + fetched.length) (rows ++ fetched)) :
    ∃ out, fetchCompareRowsByOffset read database = .ok out ∧
      First (min count read.rowBudget) out := by
  have hread : ∃ out, readPages (fetchOffsetPage read database)
      (fun offset fetched => some (offset + fetched.length))
      read.fetchBatchSize read.rowBudget read.rowBudget 0 [] = .ok (some out) ∧
        First (min count read.rowBudget) out := by
    refine readPages_rule
      (fun offset rows => First offset rows ∧ rows.length = offset ∧ offset ≤ count ∧
        offset ≤ read.rowBudget ∧ (offset < read.rowBudget → read.fetchBatchSize ∣ offset))
      (fun result => ∃ out, result = .ok (some out) ∧ First (min count read.rowBudget) out)
      read.fetchBatchSize_pos ?_ ?_ (le_add_left _ _)
      ⟨hstart, rfl, Nat.zero_le _, Nat.zero_le _, fun _ => Nat.dvd_zero _⟩
    · rintro offset rows ⟨hfirst, hlength, hcount, hbudget, -⟩ hdone
      have hall : min count read.rowBudget = offset := by omega
      exact ⟨rows, rfl, hall ▸ hfirst⟩
    · rintro offset rows ⟨hfirst, rfl, hcount, hbudget, hdvd⟩ hmore
      obtain ⟨fetched, hfetched, hsize, hnext⟩ :=
        hpage rows.length rows hmore hcount (hdvd hmore) rfl hfirst
      rw [hfetched]
      dsimp only
      split
      · have hall : min count read.rowBudget = rows.length + fetched.length := by omega
        exact ⟨_, rfl, hall ▸ hnext⟩
      refine ⟨hnext, ?_, ?_, ?_, ?_⟩
      · rw [length_append]
      · omega
      · omega
      · intro hmore'
        have hbatch : fetched.length = read.fetchBatchSize := by omega
        rw [hbatch]
        exact Nat.dvd_add (hdvd hmore) (Nat.dvd_refl _)
  obtain ⟨out, hout, hfirst⟩ := hread
  refine ⟨out, ?_, hfirst⟩
  rw [fetchCompareRowsByOffset, hout]
  rfl

private theorem fetchCompareRowsByOffset_of_windows {arr : List (Text → V)}
    (hpages : ∀ size offset, read.fetchBatchSize ∣ offset → size ≤ read.fetchBatchSize →
      fetchOffsetPage read database size offset =
        .ok (((arr.drop offset).take size).map read.shown)) :
    fetchCompareRowsByOffset read database = .ok ((arr.take read.rowBudget).map read.shown) := by
  have hread : ∃ out, fetchCompareRowsByOffset read database = .ok out ∧
      out = (arr.take (min arr.length read.rowBudget)).map read.shown := by
    apply fetchCompareRowsByOffset_spec (fun offset rows => rows = (arr.take offset).map read.shown)
    · rfl
    · rintro offset rows - hcount hdvd - rfl
      refine ⟨_, hpages _ offset hdvd (min_le_left _ _), ?_, ?_⟩
      · rw [length_map, length_take, length_drop]
      · rw [← map_append, ← take_add, length_map, length_take, length_drop]
        congr 1
        rw [take_eq_take_iff]
        omega
  obtain ⟨out, hout, rfl⟩ := hread
  rw [hout, take_eq_take_iff.mpr]
  omega

private theorem fetchCompareRows_cases (values : KeyValues V) (read : CompareRead)
    (database : CompareDatabase V) (expectedRows : Nat) :
    (∃ keyIndexes rows,
      keysetKeyIndexes read.databaseType read.columns read.keyColumns = some keyIndexes ∧
      fetchCompareRowsByKey values read database keyIndexes = .ok (some rows) ∧
      rows.length = min expectedRows read.rowBudget ∧
      fetchCompareRows values read database expectedRows = .ok rows) ∨
    fetchCompareRows values read database expectedRows =
      fetchCompareRowsByOffset read database := by
  unfold fetchCompareRows
  cases hkeyset : keysetKeyIndexes read.databaseType read.columns read.keyColumns with
  | none => exact .inr rfl
  | some keyIndexes =>
    dsimp only
    rcases hrows : fetchCompareRowsByKey values read database keyIndexes with _ | rows
    · exact .inr rfl
    rcases rows with _ | rows
    · exact .inr rfl
    dsimp only
    split
    · next hlength => exact .inl ⟨keyIndexes, rows, rfl, hrows, hlength, rfl⟩
    · exact .inr rfl

end

/-! ### Rows with the same key -/

section

variable {V : Type} [LinearOrder V] {values : KeyValues V} {read : CompareRead}
  {database : CompareDatabase V} {table : List (Text → V)}

/-- Rows with the same key that are not shown alike are on one page. -/
def TiesOnOnePage (read : CompareRead) (table : List (Text → V)) : Prop :=
  ∀ row ∈ table, ∀ other ∈ table, read.keyOf row = read.keyOf other →
    read.shown row ≠ read.shown other →
      rowsBefore read.keyOf table (read.keyOf row) / read.fetchBatchSize =
        (rowsUpTo read.keyOf table (read.keyOf row) - 1) / read.fetchBatchSize

private theorem TiesOnOnePage.shown_eq (hties : TiesOnOnePage read table) {place : Nat}
    (hplace : read.fetchBatchSize ∣ place ∨ table.length ≤ place) {row other : Text → V}
    (hrow : row ∈ table) (hother : other ∈ table) (hkey : read.keyOf row = read.keyOf other)
    (hbefore : rowsBefore read.keyOf table (read.keyOf row) < place)
    (hupTo : place < rowsUpTo read.keyOf table (read.keyOf row)) :
    read.shown row = read.shown other := by
  by_contra hne
  have hcount : rowsUpTo read.keyOf table (read.keyOf row) ≤ table.length := countP_le_length
  rcases hplace with ⟨pages, rfl⟩ | hplace
  · have hsame := hties row hrow other hother hkey hne
    have hlt := Nat.div_lt_of_lt_mul hbefore
    have hle : pages ≤ (rowsUpTo read.keyOf table (read.keyOf row) - 1) / read.fetchBatchSize := by
      rw [Nat.le_div_iff_mul_le read.fetchBatchSize_pos, Nat.mul_comm]
      omega
    omega
  · omega

section

variable (hserves : Serves values read database table)

include hserves

private theorem fetchCompareRowsByOffset_perm (hbudget : table.length ≤ read.rowBudget)
    (hties : TiesOnOnePage read table) :
    ∃ out, fetchCompareRowsByOffset read database = .ok out ∧ out.Perm (table.map read.shown) := by
  have harr := arrangement_arranged read.keyOf table
  set arr := arranged read.keyOf table
  have htake : ∀ {other : List (Text → V)}, Arrangement read.keyOf table other →
      ∀ {place : Nat}, read.fetchBatchSize ∣ place ∨ table.length ≤ place →
        ((other.take place).map read.shown).Perm ((arr.take place).map read.shown) := by
    intro other hother place hplace
    apply hother.map_take_perm harr read.shown
    intro a ha b hb hkey hbefore hupTo
    exact hties.shown_eq hplace ha hb hkey hbefore hupTo
  have hread : ∃ out, fetchCompareRowsByOffset read database = .ok out ∧
      out.Perm ((arr.take (min table.length read.rowBudget)).map read.shown) := by
    apply fetchCompareRowsByOffset_spec
      (fun offset rows => rows.Perm ((arr.take offset).map read.shown))
    · exact List.Perm.refl _
    · intro offset rows hmore hcount hdvd hlength hfirst
      obtain ⟨other, hother, hselect⟩ := hserves.selects (dataCompareClause read.databaseType
        (min read.fetchBatchSize (read.rowBudget - offset)) offset)
      have hotherLength := hother.perm.length_eq
      refine ⟨_, fetchOffsetPage_eq hselect, ?_, ?_⟩
      · rw [length_map, length_take, length_drop, hotherLength]
      · rw [length_map, length_take, length_drop, hotherLength]
        set size := min read.fetchBatchSize (read.rowBudget - offset) with hsize
        -- The next page starts at a multiple of the batch size, or there is none.
        have hplace : read.fetchBatchSize ∣ offset + min size (table.length - offset) ∨
            table.length ≤ offset + min size (table.length - offset) := by
          by_cases hfull : read.fetchBatchSize ≤ table.length - offset
          · left
            have hbatch : min size (table.length - offset) = read.fetchBatchSize := by omega
            rw [hbatch]
            exact Nat.dvd_add hdvd (Nat.dvd_refl _)
          · omega
        have hwindow : (other.take offset).map read.shown ++
            ((other.drop offset).take size).map read.shown =
              (other.take (offset + min size (table.length - offset))).map read.shown := by
          rw [← map_append, ← take_add]
          congr 1
          rw [take_eq_take_iff]
          omega
        apply List.Perm.trans _ (htake hother hplace)
        rw [← hwindow]
        exact (hfirst.trans (htake hother (.inl hdvd)).symm).append_right _
  obtain ⟨out, hout, hperm⟩ := hread
  refine ⟨out, hout, hperm.trans ?_⟩
  rw [take_of_length_le (by rw [harr.perm.length_eq]; omega)]
  exact harr.perm.map read.shown

private theorem fetchCompareRowsByOffset_of_unique (hunique : (table.map read.keyOf).Nodup) :
    fetchCompareRowsByOffset read database =
      .ok (((arranged read.keyOf table).take read.rowBudget).map read.shown) := by
  apply fetchCompareRowsByOffset_of_windows
  intro size offset _ _
  obtain ⟨arr, harr, hselect⟩ := hserves.selects (dataCompareClause read.databaseType size offset)
  rw [fetchOffsetPage_eq hselect, harr.eq_of_nodup (arrangement_arranged _ _) hunique]

private theorem fetchCompareRows_perm (hbudget : table.length ≤ read.rowBudget)
    (hties : TiesOnOnePage read table) :
    ∃ rows, fetchCompareRows values read database table.length = .ok rows ∧
      rows.Perm (table.map read.shown) := by
  rcases fetchCompareRows_cases values read database table.length with
    ⟨keyIndexes, rows, hkeyset, hrows, hlength, hfetch⟩ | hfetch
  · obtain ⟨full, rfl, hsubperm⟩ := fetchCompareRowsByKey_subperm hserves hkeyset hrows
    rw [length_map, min_eq_left hbudget] at hlength
    exact ⟨_, hfetch, (hsubperm.perm_of_length_le hlength.ge).map read.shown⟩
  · rw [hfetch]
    exact fetchCompareRowsByOffset_perm hserves hbudget hties

end

/-! ### A database with two arrangements -/

/-- A database that answers with one arrangement up to a place, and with another one after it. -/
def twoArrangements (values : KeyValues V) (place : Nat) (arr other : List (Text → V)) :
    CompareDatabase V where
  selectPage clause := .ok (clause.rows (if clause.start < place then arr else other))
  seekPage size after := .ok ((arr.filter fun row =>
    after.all fun condition => condition.truth values.null row == some true).take size)

private theorem serves_twoArrangements {place : Nat} {arr other : List (Text → V)}
    (harr : Arrangement read.keyOf table arr) (hother : Arrangement read.keyOf table other) :
    Serves values read (twoArrangements values place arr other) table where
  selects clause := by
    refine ⟨if clause.start < place then arr else other, ?_, rfl⟩
    split
    · exact harr
    · exact hother
  seeks := by
    intro size after rows hrows
    cases hrows
    exact ⟨arr, harr, rfl⟩

private theorem answers_twoArrangements (place : Nat) (arr other : List (Text → V)) :
    (twoArrangements values place arr other).Answers :=
  fun _ _ => ⟨_, rfl⟩

private theorem fetchCompareRowsByOffset_twoArrangements {front back : List (Text → V)}
    {x y : Text → V} (hplace : read.fetchBatchSize ∣ front.length + 1) :
    fetchCompareRowsByOffset read (twoArrangements values (front.length + 1)
        (front ++ x :: y :: back) (front ++ y :: x :: back)) =
      .ok (((front ++ x :: x :: back).take read.rowBudget).map read.shown) := by
  apply fetchCompareRowsByOffset_of_windows
  intro size offset hdvd hsize
  have hselect : fetchOffsetPage read (twoArrangements values (front.length + 1)
      (front ++ x :: y :: back) (front ++ y :: x :: back)) size offset = _ :=
    fetchOffsetPage_eq rfl
  rw [start_dataCompareClause read.databaseType_ne] at hselect
  rw [hselect]
  split
  · next hbefore =>
    have hpage : offset + size ≤ front.length + 1 := by
      obtain ⟨pages, hpages⟩ := hplace
      obtain ⟨skipped, rfl⟩ := hdvd
      have hlt : skipped < pages := by
        by_contra hge
        have := mul_le_mul_left read.fetchBatchSize (not_lt.mp hge)
        omega
      have := mul_le_mul_left read.fetchBatchSize (succ_le_of_lt hlt)
      rw [mul_succ] at this
      omega
    -- Up to the place both lists are the same.
    have htake : ∀ rest : List (Text → V), (front ++ x :: rest).take (offset + size) =
        (front ++ [x]).take (offset + size) := by
      intro rest
      rw [append_cons, take_append_of_le_length]
      rw [length_append]
      exact hpage
    rw [take_drop, take_drop, htake, htake (x :: back)]
  · next hafter =>
    rw [not_lt] at hafter
    have hdrop : ∀ (z : Text → V) (rest : List (Text → V)), (front ++ z :: rest).drop offset =
        rest.drop (offset - (front.length + 1)) := by
      intro z rest
      have hlength : (front ++ [z]).length = front.length + 1 := by simp
      rw [append_cons, drop_append, drop_of_length_le (hlength ▸ hafter), nil_append, hlength]
    rw [hdrop, hdrop]

private theorem exists_twoArrangements (values : KeyValues V)
    (hbudget : table.length ≤ read.rowBudget) (hties : ¬TiesOnOnePage read table) :
    ∃ database, Serves values read database table ∧ database.Answers ∧
      ∀ rows, fetchCompareRows values read database table.length = .ok rows →
        ¬rows.Perm (table.map read.shown) := by
  unfold TiesOnOnePage at hties
  push Not at hties
  obtain ⟨x, hx, y, hy, hkey, hne, hpages⟩ := hties
  set before := rowsBefore read.keyOf table (read.keyOf x)
  set upTo := rowsUpTo read.keyOf table (read.keyOf x)
  have hpos := read.fetchBatchSize_pos
  -- The end of the page on which the first row with this key is.
  set pages := before / read.fetchBatchSize + 1 with hpagesEq
  have hbefore : before < pages * read.fetchBatchSize := by
    rw [Nat.mul_comm]
    exact lt_mul_div_succ before hpos
  have hupTo : pages * read.fetchBatchSize < upTo := by
    have hle : before / read.fetchBatchSize ≤ (upTo - 1) / read.fetchBatchSize := by
      apply Nat.div_le_div_right
      have hmono : before < upTo := rowsBefore_lt_rowsUpTo hx
      omega
    have hlt : pages ≤ (upTo - 1) / read.fetchBatchSize := by omega
    have hmul := (le_div_iff_mul_le hpos).mp hlt
    omega
  obtain ⟨front, back, hlength, harr, hother⟩ := Arrangement.exists_swapped hx hy hkey
    (fun heq => hne (heq ▸ rfl)) hbefore hupTo
  set database := twoArrangements values (front.length + 1) (front ++ x :: y :: back)
    (front ++ y :: x :: back) with hdatabase
  have hserves : Serves values read database table := serves_twoArrangements harr hother
  refine ⟨database, hserves, answers_twoArrangements _ _ _, ?_⟩
  intro rows hrows hperm
  -- Pages by key are too short, so the pages by offset are fetched.
  have hfetch : fetchCompareRows values read database table.length =
      fetchCompareRowsByOffset read database := by
    rcases fetchCompareRows_cases values read database table.length with
      ⟨keyIndexes, rows, hkeyset, hkeyRows, hcount, -⟩ | hfetch
    · have hshort := fetchCompareRowsByKey_short hserves hkeyset hbudget hbefore hupTo hkeyRows
      omega
    · exact hfetch
  rw [hfetch, hdatabase,
    fetchCompareRowsByOffset_twoArrangements (hlength ▸ Nat.dvd_mul_left _ _)] at hrows
  cases hrows
  have harrLength := harr.perm.length_eq
  simp only [length_append, length_cons] at harrLength
  rw [take_of_length_le (by simp only [length_append, length_cons]; omega)] at hperm
  have hsame := hperm.trans (harr.perm.map read.shown).symm
  rw [map_append, map_append, perm_append_left_iff, map_cons, map_cons,
    map_cons, map_cons, perm_cons] at hsame
  have hshown := (perm_append_right_iff (back.map read.shown)).mp
    (show ([read.shown x] ++ _).Perm ([read.shown y] ++ _) from hsame)
  exact hne (singleton_perm_singleton.mp hshown)

end

/-! ### Exactness -/

section

variable {V : Type} [LinearOrder V]

/-- With keys that have no null and are distinct, the first rows in the order of the key are
fetched, each once: the condition of a page by key holds for the rows whose key is lexicographically
greater than its literals. With any keys and a sufficient budget, every row is fetched as often as
it occurs, whatever order the database gives rows with the same key, if and only if such rows are on
one page or shown alike. -/
theorem fetchCompareRows_exact_iff (values : KeyValues V) (read : CompareRead)
    (table : List (Text → V)) :
    (∀ (literals : List V) (row : Text → V), literals.length = read.keyColumns.length →
      values.null ∉ literals → values.null ∉ read.keyOf row →
        ((keysetAfterPredicate read.databaseType read.keyColumns literals).truth values.null row =
          some true ↔ literals < read.keyOf row)) ∧
    ((∀ row ∈ table, values.null ∉ read.keyOf row) → (table.map read.keyOf).Nodup →
      ∀ database, Serves values read database table →
        fetchCompareRows values read database table.length =
          .ok (((arranged read.keyOf table).take read.rowBudget).map read.shown) ∧
        ∀ keyIndexes,
          keysetKeyIndexes read.databaseType read.columns read.keyColumns = some keyIndexes →
          (∀ rows, fetchCompareRowsByKey values read database keyIndexes = .ok (some rows) →
            rows = ((arranged read.keyOf table).take read.rowBudget).map read.shown) ∧
          (database.Answers → (∀ row ∈ table, (read.keyOf row).all values.isLiteral) →
            fetchCompareRowsByKey values read database keyIndexes =
              .ok (some (((arranged read.keyOf table).take read.rowBudget).map read.shown)))) ∧
    (table.length ≤ read.rowBudget →
      ((∀ database, Serves values read database table → database.Answers →
        ∃ rows, fetchCompareRows values read database table.length = .ok rows ∧
          rows.Perm (table.map read.shown)) ↔ TiesOnOnePage read table)) := by
  refine ⟨?_, ?_, ?_⟩
  · intro literals row hlength hliterals hrow
    rw [truth_keysetAfterPredicate_iff _ hlength.symm]
    exact seekAfter_iff_lt (by rw [hlength]; exact length_map _) hrow hliterals
  · intro hnonnull hunique database hserves
    refine ⟨?_, fun keyIndexes hkeyset => ⟨fun rows hrows => ?_, fun hanswers hliteral => ?_⟩⟩
    · rcases fetchCompareRows_cases values read database table.length with
        ⟨keyIndexes, rows, hkeyset, hrows, -, hfetch⟩ | hfetch
      · rw [hfetch, fetchCompareRowsByKey_eq hserves hnonnull hunique hkeyset hrows]
      · rw [hfetch, fetchCompareRowsByOffset_of_unique hserves hunique]
    · exact fetchCompareRowsByKey_eq hserves hnonnull hunique hkeyset hrows
    · obtain ⟨out, hout⟩ := exists_fetchCompareRowsByKey hserves hnonnull hunique hkeyset hanswers
        hliteral
      rw [hout, fetchCompareRowsByKey_eq hserves hnonnull hunique hkeyset hout]
  · intro hbudget
    constructor
    · intro hexact
      by_contra hties
      obtain ⟨database, hserves, hanswers, hwrong⟩ := exists_twoArrangements values hbudget hties
      obtain ⟨rows, hrows, hperm⟩ := hexact database hserves hanswers
      exact hwrong rows hrows hperm
    · intro hties database hserves _
      exact fetchCompareRows_perm hserves hbudget hties

end

/-! ### Small tables -/

/-- Three values, of which the first is the null. -/
def smallValues : KeyValues (Fin 3) where
  null := 0
  isLiteral value := value != 0
  isLiteral_null := rfl

/-- One row on a page. -/
def smallRead : CompareRead where
  databaseType := .mysql
  columns := ["id", "name"]
  keyColumns := ["id"]
  fetchBatchSize := 1
  rowBudget := 2
  databaseType_ne := by decide
  columns_ne := by decide
  fetchBatchSize_pos := by decide

/-- A row with an id and a name. -/
def smallRow (id name : Fin 3) : Text → Fin 3 := fun column =>
  if column = "id" then id else if column = "name" then name else 0

/-- Two rows have the same id. The database sorts by the id for both pages, and gives the two rows
in a different order: one row is fetched twice and the other one not at all. -/
theorem fetchCompareRows_twice :
    ∃ database, Serves smallValues smallRead database [smallRow 1 1, smallRow 1 2] ∧
      database.Answers ∧
      fetchCompareRows smallValues smallRead database 2 = .ok [[1, 1], [1, 1]] := by
  refine ⟨twoArrangements smallValues 1 [smallRow 1 1, smallRow 1 2]
    [smallRow 1 2, smallRow 1 1], serves_twoArrangements ?_ ?_, answers_twoArrangements _ _ _, rfl⟩
  · exact ⟨List.Perm.refl _, by decide⟩
  · exact ⟨List.Perm.swap _ _ [], by decide⟩

/-- Two rows with different ids are fetched. -/
theorem fetchCompareRows_both :
    (∀ database, Serves smallValues smallRead database [smallRow 2 1, smallRow 1 2] →
      fetchCompareRows smallValues smallRead database 2 = .ok [[1, 2], [2, 1]]) ∧
    (∀ database, Serves smallValues smallRead database [smallRow 2 1, smallRow 1 2] →
      database.Answers → ∃ rows, fetchCompareRows smallValues smallRead database 2 = .ok rows ∧
          rows.Perm [[2, 1], [1, 2]]) := by
  obtain ⟨-, hunique, hties⟩ :=
    fetchCompareRows_exact_iff smallValues smallRead [smallRow 2 1, smallRow 1 2]
  constructor
  · intro database hserves
    exact (hunique (by decide) (by decide) database hserves).1
  · apply (hties (by decide)).mpr
    unfold TiesOnOnePage
    decide

end DbxSpec.Compare
