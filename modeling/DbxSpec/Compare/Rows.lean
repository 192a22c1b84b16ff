import DbxSpec.Base.Text

/-!
# Comparing rows by key

`compare_data_rows` of `crates/dbx-core/src/data/data_compare.rs:730-933`: the rows of two tables
are matched by the printed values of their key columns. The values and their printing by
`serde_json` are parameters.
-/

namespace DbxSpec.Compare

open DbxSpec.Base List

/-- The values of cells: the null, and how `serde_json::to_string` prints a value. Different values
print differently, and a printed value has no control characters. -/
structure Cells (V : Type) where
  null : V
  print : V → Text
  print_injective : Function.Injective print
  print_separator : ∀ v, '\x1f' ∉ print v

/-- `data_compare.rs:46`, without the rows. -/
structure CompareColumns where
  columns : List Text
  keyColumns : List Text
  columns_nodup : columns.Nodup
  keyColumns_subset : keyColumns ⊆ columns

/-- `data_compare.rs:119`. -/
structure DataCompareChangedCell (V : Type) where
  column : Text
  source : V
  target : V

/-- `data_compare.rs:127`, with the maps as lists of columns and values. -/
structure DataCompareRow (V : Type) where
  key : Text
  keyValues : List (Text × V)
  values : List (Text × V)

/-- `data_compare.rs:135`. -/
structure DataCompareModifiedRow (V : Type) where
  key : Text
  keyValues : List (Text × V)
  sourceValues : List (Text × V)
  targetValues : List (Text × V)
  changes : List (DataCompareChangedCell V)

/-- `data_compare.rs:145`. -/
structure DataCompareResult (V : Type) where
  added : List (DataCompareRow V)
  removed : List (DataCompareRow V)
  modified : List (DataCompareModifiedRow V)

section

variable {V : Type} (cells : Cells V) (t : CompareColumns) (row : List V)

/-- `data_compare.rs:920`, at the index of a column (`data_compare.rs:806`). -/
def rowValue (column : Text) : V :=
  ((t.columns.idxOf? column).bind (row[·]?)).getD cells.null

/-- The values of the key columns. -/
def keyTuple : List V := t.keyColumns.map (rowValue cells t row)

/-- `data_compare.rs:884`. -/
def keyForRow : Text :=
  joinTexts ['\x1f'] ((keyTuple cells t row).map cells.print)

/-- `data_compare.rs:901`. -/
def keyValuesForRow : List (Text × V) :=
  t.keyColumns.map fun column => (column, rowValue cells t row column)

/-- `data_compare.rs:863`. -/
def rowObject : List (Text × V) :=
  t.columns.map fun column => (column, rowValue cells t row column)

/-- `data_compare.rs:841`. -/
def duplicateKeyError (label : Text) (key : Text) : Text :=
  let shown := if t.keyColumns.length > 1 then
      "[" ++ joinTexts ", " (key.splitOn '\x1f') ++ "]"
    else key
  "Duplicate " ++ label ++ " key for column(s) [" ++
    joinTexts ", " t.keyColumns ++ "]: " ++ shown

/-- The loop of `data_compare.rs:814`: the rows with their keys, in their order. -/
def collectCompareRows (label : Text) :
    List (Text × List V) → List (List V) → Except Text (List (Text × List V))
  | items, [] => .ok items
  | items, row :: rows =>
    let key := keyForRow cells t row
    if (items.lookup key).isSome then .error (duplicateKeyError t label key)
    else collectCompareRows label (items ++ [(key, row)]) rows

/-- The row of `data_compare.rs:747` and `data_compare.rs:786`. -/
def dataCompareRow : DataCompareRow V :=
  ⟨keyForRow cells t row, keyValuesForRow cells t row, rowObject cells t row⟩

variable [DecidableEq V]

/-- `data_compare.rs:755-770`. -/
def rowChanges (sourceRow targetRow : List V) : List (DataCompareChangedCell V) :=
  (t.columns.filter (!t.keyColumns.contains ·)).filterMap fun column =>
    let source := rowValue cells t sourceRow column
    let target := rowValue cells t targetRow column
    if source ≠ target then some ⟨column, source, target⟩ else none

/-- The row of `data_compare.rs:773`. -/
def modifiedRow (sourceRow targetRow : List V) : DataCompareModifiedRow V where
  key := keyForRow cells t sourceRow
  keyValues := keyValuesForRow cells t sourceRow
  sourceValues := rowObject cells t sourceRow
  targetValues := rowObject cells t targetRow
  changes := rowChanges cells t sourceRow targetRow

/-- `data_compare.rs:730`. -/
def compareDataRows (sourceRows targetRows : List (List V)) :
    Except Text (DataCompareResult V) :=
  if t.keyColumns.isEmpty then
    .error "At least one key column is required for data comparison"
  else do
    let source ← collectCompareRows cells t "source" [] sourceRows
    let target ← collectCompareRows cells t "target" [] targetRows
    return {
      added := source.filterMap fun (key, row) =>
        if (target.lookup key).isNone then some (dataCompareRow cells t row) else none
      modified := source.filterMap fun (key, row) =>
        (target.lookup key).bind fun targetRow =>
          if (rowChanges cells t row targetRow).isEmpty then none
          else some (modifiedRow cells t row targetRow)
      removed := target.filterMap fun (key, row) =>
        if (source.lookup key).isNone then some (dataCompareRow cells t row) else none }

end

/-! ### Keys -/

section

variable {V : Type} (cells : Cells V) (t : CompareColumns)

private theorem keyForRow_eq_iff (row other : List V) :
    keyForRow cells t row = keyForRow cells t other ↔
      keyTuple cells t row = keyTuple cells t other := by
  refine ⟨fun h => ?_, fun h => by rw [keyForRow, h, keyForRow]⟩
  rcases eq_nil_or_concat t.keyColumns with hnil | ⟨front, last, hkeys⟩
  · rw [keyTuple, keyTuple, hnil]
    rfl
  have hsplit : ∀ row, (keyForRow cells t row).splitOn '\x1f' =
      (keyTuple cells t row).map cells.print := by
    intro row
    apply splitOn_intercalate
    · intro text htext
      obtain ⟨v, -, rfl⟩ := mem_map.mp htext
      exact cells.print_separator v
    · rw [keyTuple, hkeys]
      simp
  have hprint := congrArg (splitOn '\x1f') h
  rw [hsplit, hsplit] at hprint
  exact map_injective_iff.mpr cells.print_injective hprint

/-- The rows with their keys. -/
def keyed (rows : List (List V)) : List (Text × List V) :=
  rows.map fun row => (keyForRow cells t row, row)

private theorem filterMap_keyed {β : Type} (f : Text × List V → Option β) (rows : List (List V)) :
    (keyed cells t rows).filterMap f = rows.filterMap fun row => f (keyForRow cells t row, row) :=
  filterMap_map

variable [DecidableEq V]

/-- The row with the key of another one. -/
def partner (rows : List (List V)) (row : List V) : Option (List V) :=
  rows.find? (keyTuple cells t · == keyTuple cells t row)

variable {cells t} {rows : List (List V)}

/-- The value of the first item with a key. -/
theorem lookup_map_pair {α β κ : Type} [BEq κ] [LawfulBEq κ] (key : α → κ) (value : α → β)
    (k : κ) (items : List α) : (items.map fun item => (key item, value item)).lookup k =
      (items.find? fun item => key item == k).map value := by
  induction items with
  | nil => rfl
  | cons item items ih =>
    rw [map_cons, lookup_cons, find?_cons, ih, BEq.comm]
    cases key item == k <;> rfl

private theorem lookup_keyed (rows : List (List V)) (row : List V) :
    (keyed cells t rows).lookup (keyForRow cells t row) = partner cells t rows row := by
  have hsame : ∀ other, (keyForRow cells t other == keyForRow cells t row) =
      (keyTuple cells t other == keyTuple cells t row) := by
    intro other
    rw [Bool.eq_iff_iff, beq_iff_eq, beq_iff_eq, keyForRow_eq_iff]
  rw [keyed, lookup_map_pair, Option.map_id', partner, funext hsame]

/-- The partner is a row with the key. -/
theorem partner_eq_some {row other : List V} (h : partner cells t rows row = some other) :
    other ∈ rows ∧ keyTuple cells t other = keyTuple cells t row :=
  ⟨mem_of_find?_eq_some h, by simpa using find?_some h⟩

/-- No row has the key. -/
theorem partner_eq_none_iff (rows : List (List V)) (row : List V) :
    partner cells t rows row = none ↔
      ∀ other ∈ rows, keyTuple cells t other ≠ keyTuple cells t row := by
  rw [partner, find?_eq_none]
  simp

/-- Among rows with distinct keys the partner of a row is any row with its key. -/
theorem partner_eq_some_iff (hrows : (rows.map (keyTuple cells t)).Nodup) (row other : List V) :
    partner cells t rows row = some other ↔
      other ∈ rows ∧ keyTuple cells t other = keyTuple cells t row := by
  refine ⟨partner_eq_some, fun ⟨hother, hkey⟩ => ?_⟩
  rcases hfound : partner cells t rows row with _ | found
  · exact absurd hkey ((partner_eq_none_iff rows row).mp hfound other hother)
  obtain ⟨hmem, hfoundKey⟩ := partner_eq_some hfound
  rw [inj_on_of_nodup_map hrows hmem hother (hfoundKey.trans hkey.symm)]

private theorem collectCompareRows_eq (label : Text) (hrows : (rows.map (keyTuple cells t)).Nodup) :
    collectCompareRows cells t label [] rows = .ok (keyed cells t rows) := by
  have hloop : ∀ (before rows : List (List V)), ((before ++ rows).map (keyTuple cells t)).Nodup →
      collectCompareRows cells t label (keyed cells t before) rows =
        .ok (keyed cells t (before ++ rows)) := by
    intro before rows
    induction rows generalizing before with
    | nil =>
      intro _
      rw [append_nil]
      rfl
    | cons row rows ih =>
      intro hnodup
      have hfresh : partner cells t before row = none := by
        rw [partner_eq_none_iff]
        intro other hother hkey
        rw [map_append, map_cons] at hnodup
        exact (disjoint_of_nodup_append hnodup) (mem_map_of_mem hother) (hkey ▸ mem_cons_self)
      rw [collectCompareRows, lookup_keyed, hfresh]
      have hstep : keyed cells t before ++ [(keyForRow cells t row, row)] =
          keyed cells t (before ++ [row]) := by
        rw [keyed, keyed, map_append]
        rfl
      rw [append_cons] at hnodup
      rw [if_neg (by simp), hstep, ih (before ++ [row]) hnodup, ← append_cons]
  exact hloop [] rows hrows

/-! ### What is found -/

/-- The comparison of rows with distinct keys. -/
theorem compareDataRows_eq (hkeys : t.keyColumns ≠ []) {sourceRows targetRows : List (List V)}
    (hsource : (sourceRows.map (keyTuple cells t)).Nodup)
    (htarget : (targetRows.map (keyTuple cells t)).Nodup) :
    compareDataRows cells t sourceRows targetRows = .ok {
      added := (sourceRows.filter fun row => (partner cells t targetRows row).isNone).map
        (dataCompareRow cells t)
      removed := (targetRows.filter fun row => (partner cells t sourceRows row).isNone).map
        (dataCompareRow cells t)
      modified := sourceRows.filterMap fun row => (partner cells t targetRows row).bind fun other =>
        if (rowChanges cells t row other).isEmpty then none
        else some (modifiedRow cells t row other) } := by
  have hmissing : ∀ rows others : List (List V), ((keyed cells t rows).filterMap fun (key, row) =>
        if ((keyed cells t others).lookup key).isNone then some (dataCompareRow cells t row)
        else none) =
      (rows.filter fun row => (partner cells t others row).isNone).map
        (dataCompareRow cells t) := by
    intro rows others
    rw [filterMap_keyed, ← filterMap_eq_filter, map_filterMap]
    refine filterMap_congr fun row _ => ?_
    dsimp only
    rw [lookup_keyed, Option.guard]
    split <;> rfl
  unfold compareDataRows
  rw [if_neg (by simpa using hkeys), collectCompareRows_eq _ hsource,
    collectCompareRows_eq _ htarget]
  dsimp only [bind, Except.bind, pure, Except.pure]
  rw [hmissing, hmissing]
  congr 2
  rw [filterMap_keyed]
  refine filterMap_congr fun row _ => ?_
  rw [lookup_keyed]

/-- A cell is reported as changed if it is in a compared column outside the key and differs. -/
theorem mem_rowChanges_iff (row other : List V) (change : DataCompareChangedCell V) :
    change ∈ rowChanges cells t row other ↔
      change.column ∈ t.columns ∧ change.column ∉ t.keyColumns ∧
        change.source = rowValue cells t row change.column ∧
        change.target = rowValue cells t other change.column ∧ change.source ≠ change.target := by
  rw [rowChanges, mem_filterMap]
  constructor
  · rintro ⟨column, hcolumn, hchange⟩
    rw [mem_filter] at hcolumn
    obtain ⟨hne, ⟨rfl⟩⟩ := Option.ite_none_right_eq_some.mp hchange
    exact ⟨hcolumn.1, by simpa using hcolumn.2, rfl, rfl, hne⟩
  · rintro ⟨hcolumn, hkey, hsource, htarget, hne⟩
    refine ⟨change.column, mem_filter.mpr ⟨hcolumn, by simpa using hkey⟩, ?_⟩
    rw [← hsource, ← htarget, if_pos hne]

/-- Rows with the same key differ in a compared column if and only if a change is reported. -/
theorem rowChanges_isEmpty_iff {row other : List V}
    (hkey : keyTuple cells t row = keyTuple cells t other) :
    (rowChanges cells t row other).isEmpty ↔
      ∀ column ∈ t.columns, rowValue cells t row column = rowValue cells t other column := by
  rw [List.isEmpty_iff, eq_nil_iff_forall_not_mem]
  constructor
  · intro hnone column hcolumn
    by_cases hmem : column ∈ t.keyColumns
    · exact map_inj_left.mp hkey column hmem
    · by_contra hne
      exact hnone ⟨column, _, _⟩ ((mem_rowChanges_iff row other _).mpr
        ⟨hcolumn, hmem, rfl, rfl, hne⟩)
  · intro hall change hchange
    obtain ⟨hcolumn, -, hsource, htarget, hne⟩ := (mem_rowChanges_iff row other change).mp hchange
    rw [hsource, htarget] at hne
    exact hne (hall change.column hcolumn)

end

end DbxSpec.Compare
