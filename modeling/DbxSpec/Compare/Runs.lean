import DbxSpec.Compare.Sync

/-!
# Runs of the statements

What the statements of a synchronization do to a target as a whole: new rows are added, a row whose
key is among the modified ones is edited, and a row whose key is among the removed ones is dropped.
A condition on a null key is never true, so a row with such a key is neither edited nor dropped.
-/

namespace DbxSpec.Compare

open DbxSpec.Base DbxSpec.Grid DbxSpec.Sql List

section

variable {V : Type} {cells : Cells V} {t : CompareColumns} {columnInfo : List DataGridColumnInfo}

/-- The value for a column. -/
theorem lookup_pairs {β : Type} (f : Text → β) (columns : List Text) (column : Text) :
    (columns.map fun c => (c, f c)).lookup column =
      if column ∈ columns then some (f column) else none := by
  split
  · next hmem => exact lookup_graph f hmem
  · next hmem =>
    rw [lookup_map_pair (fun c => c), find?_eq_none.mpr, Option.map_none]
    rintro c hc hsame
    exact hmem (beq_iff_eq.mp hsame ▸ hc)

/-- A compared row has its values under their columns. -/
theorem getD_lookup_rowObject {row : List V} {column : Text} (hcolumn : column ∈ t.columns) :
    ((rowObject cells t row).lookup column).getD cells.null = rowValue cells t row column := by
  rw [rowObject, lookup_pairs, if_pos hcolumn]
  rfl

/-- And those of its key. -/
theorem getD_lookup_keyValuesForRow {row : List V} {column : Text}
    (hcolumn : column ∈ t.keyColumns) :
    ((keyValuesForRow cells t row).lookup column).getD cells.null =
      rowValue cells t row column := by
  rw [keyValuesForRow, lookup_pairs, if_pos hcolumn]
  rfl

/-- A value as it stands in a statement of values. -/
abbrev asValue (_ : Text) (value : V) : V := value

/-- The values of the key columns of a row in the table. -/
def tableKey (t : CompareColumns) (row : Text → V) : List V := t.keyColumns.map row

/-- The values that a condition on the key asks for. -/
def askedKey (cells : Cells V) (t : CompareColumns) (keyValues : List (Text × V)) : List V :=
  (whereByKey cells t asValue keyValues).map (·.2)

/-- The condition for a row that has been compared asks for its key. -/
theorem askedKey_keyValuesForRow (row : List V) :
    askedKey cells t (keyValuesForRow cells t row) = keyTuple cells t row := by
  rw [askedKey, whereByKey, map_map]
  exact map_congr_left fun column hcolumn => getD_lookup_keyValuesForRow hcolumn

/-! ### Edits -/

/-- A modified row changes compared columns outside the key only. -/
def Fits (t : CompareColumns) (row : DataCompareModifiedRow V) : Prop :=
  ∀ change ∈ row.changes, change.column ∈ t.columns ∧ change.column ∉ t.keyColumns

/-- A row of the table with the writable changes of a modified row. -/
def edited (columnInfo : List DataGridColumnInfo) (m : DataCompareModifiedRow V)
    (row : Text → V) : Text → V :=
  fun column => if generatedColumn columnInfo column then row column
    else ((changeOf m column).map (·.source)).getD (row column)

/-- The change is one of the column. -/
theorem changeOf_eq_some {m : DataCompareModifiedRow V} {column : Text}
    {change : DataCompareChangedCell V} (h : changeOf m column = some change) :
    change ∈ m.changes ∧ change.column = column :=
  ⟨mem_of_find?_eq_some h, by simpa using find?_some h⟩

/-- Some change is of the column. -/
theorem changeOf_isSome_iff (m : DataCompareModifiedRow V) (column : Text) :
    (changeOf m column).isSome ↔ ∃ change ∈ m.changes, change.column = column := by
  rw [changeOf, find?_isSome]
  simp

private theorem setColumns_single (m : DataCompareModifiedRow V) (row : Text → V) :
    setColumns ((m.changes.filter fun change => !generatedColumn columnInfo change.column).map
      fun change => (change.column, change.source)) row = edited columnInfo m row := by
  funext column
  have hwritable : ∀ change : DataCompareChangedCell V,
      (!generatedColumn columnInfo change.column && change.column == column) =
        (!generatedColumn columnInfo column && change.column == column) := by
    intro change
    by_cases hsame : change.column = column
    · rw [hsame]
    · rw [beq_false_of_ne hsame, Bool.and_false, Bool.and_false]
  rw [setColumns, lookup_map_pair, find?_filter, edited, changeOf]
  simp only [Bool.decide_and, Bool.decide_eq_true, hwritable]
  cases generatedColumn columnInfo column with
  | true =>
    rw [find?_eq_none.mpr (by simp)]
    rfl
  | false => rfl

end

section

variable {V : Type} [DecidableEq V] {cells : Cells V} {t : CompareColumns}
  {columnInfo : List DataGridColumnInfo}

/-! ### Conditions on the key -/

/-- A condition on the key is true for the rows with that key, unless it has a null. -/
theorem truth_whereByKey_iff (keyValues : List (Text × V)) (row : Text → V) :
    (whereByKey cells t asValue keyValues).truth cells row = some true ↔
      tableKey t row = askedKey cells t keyValues ∧ cells.null ∉ askedKey cells t keyValues := by
  unfold KeyCondition.truth askedKey whereByKey tableKey
  rw [Truth.all_eq_true_iff, map_map, map_map]
  simp only [mem_map, Function.comp_apply, forall_exists_index, and_imp,
    forall_apply_eq_imp_iff₂, sqlEq_eq_true_iff, map_inj_left, not_exists, not_and]
  exact ⟨fun h => ⟨fun c hc => (h c hc).1, fun c hc => (h c hc).2⟩,
    fun h c hc => ⟨h.1 c hc, h.2 c hc⟩⟩

/-! ### Batches of updates -/

/-- The modified row with the key of a row in the table, unless that key has a null. -/
def editOf (cells : Cells V) (t : CompareColumns) (ms : List (DataCompareModifiedRow V))
    (row : Text → V) : Option (DataCompareModifiedRow V) :=
  ms.find? fun m => (whereByKey cells t asValue m.keyValues).truth cells row = some true

/-- No two modified rows have the same key. -/
def DistinctKeys (cells : Cells V) (t : CompareColumns) (ms : List (DataCompareModifiedRow V)) :
    Prop :=
  (ms.map fun m => askedKey cells t m.keyValues).Nodup

variable {ms : List (DataCompareModifiedRow V)} {row : Text → V}

/-- The edit asks for the key, which has no null. -/
theorem editOf_eq_some {m : DataCompareModifiedRow V} (h : editOf cells t ms row = some m) :
    m ∈ ms ∧ tableKey t row = askedKey cells t m.keyValues ∧
      cells.null ∉ askedKey cells t m.keyValues := by
  have htruth := find?_some h
  rw [decide_eq_true_eq, truth_whereByKey_iff] at htruth
  exact ⟨mem_of_find?_eq_some h, htruth⟩

/-- No row is asked for by this key, unless the key has a null. -/
theorem editOf_eq_none_iff (ms : List (DataCompareModifiedRow V)) (row : Text → V) :
    editOf cells t ms row = none ↔ ∀ m ∈ ms, tableKey t row = askedKey cells t m.keyValues →
      cells.null ∈ askedKey cells t m.keyValues := by
  rw [editOf, find?_eq_none]
  simp only [decide_eq_true_eq, truth_whereByKey_iff, not_and, not_not]

/-- Of modified rows with distinct keys, one with the key of the row is the one. -/
theorem editOf_eq_some_iff (hms : DistinctKeys cells t ms) (row : Text → V)
    (m : DataCompareModifiedRow V) :
    editOf cells t ms row = some m ↔ m ∈ ms ∧ tableKey t row = askedKey cells t m.keyValues ∧
      cells.null ∉ askedKey cells t m.keyValues := by
  refine ⟨editOf_eq_some, fun ⟨hmem, hkey, hnull⟩ => ?_⟩
  rcases hfound : editOf cells t ms row with _ | found
  · exact absurd ((editOf_eq_none_iff ms row).mp hfound m hmem hkey) hnull
  obtain ⟨hfoundMem, hfoundKey, -⟩ := editOf_eq_some hfound
  rw [inj_on_of_nodup_map hms hfoundMem hmem (hfoundKey.symm.trans hkey)]

private theorem caseValue_eq (hms : DistinctKeys cells t ms) (row : Text → V) (column : Text)
    (otherwise : V) :
    caseValue cells (ms.filterMap fun m => (changeOf m column).map fun change =>
        (whereByKey cells t asValue m.keyValues, change.source)) row otherwise =
      ((editOf cells t ms row).bind fun m => (changeOf m column).map (·.source)).getD
        otherwise := by
  induction ms with
  | nil => rfl
  | cons m ms ih =>
    have hrest : DistinctKeys cells t ms := (nodup_cons.mp hms).2
    unfold caseValue at ih ⊢
    rw [editOf, find?_cons]
    by_cases hmatch : (whereByKey cells t asValue m.keyValues).truth cells row = some true
    · rw [decide_eq_true hmatch]
      cases hchange : changeOf m column with
      | some change =>
        rw [filterMap_cons_some (by rw [hchange]; rfl), find?_cons_of_pos (by simpa using hmatch)]
        simp [hchange]
      | none =>
        rw [filterMap_cons_none (by rw [hchange]; rfl), ih hrest]
        have hnone : editOf cells t ms row = none := by
          rw [editOf_eq_none_iff]
          intro other hother hkey
          rw [truth_whereByKey_iff] at hmatch
          have hagain : askedKey cells t other.keyValues ∈
              ms.map fun m => askedKey cells t m.keyValues := mem_map_of_mem hother
          rw [← hkey, hmatch.1] at hagain
          exact absurd hagain (nodup_cons.mp hms).1
        rw [hnone]
        simp [hchange]
    · rw [decide_eq_false hmatch]
      cases hchange : changeOf m column with
      | some change =>
        rw [filterMap_cons_some (by rw [hchange]; rfl), find?_cons_of_neg (by simpa using hmatch)]
        exact ih hrest
      | none =>
        rw [filterMap_cons_none (by rw [hchange]; rfl)]
        exact ih hrest

variable (database : Database V (generatedColumn columnInfo))

/-- What modified rows do to a row of the table. -/
def edit (cells : Cells V) (t : CompareColumns) (ms : List (DataCompareModifiedRow V))
    (row : Text → V) : Text → V :=
  match editOf cells t ms row with
  | some m => database.complete (edited columnInfo m row)
  | none => row

private theorem run_single (m : DataCompareModifiedRow V) (table : List (Text → V)) :
    (generateSingleUpdateStatement cells t columnInfo asValue m).run cells database table =
      table.map (edit database cells t [m]) := by
  refine map_congr_left fun row _ => ?_
  rw [edit, editOf, find?_singleton]
  by_cases hmatch : (whereByKey cells t asValue m.keyValues).truth cells row = some true
  · rw [if_pos hmatch, decide_eq_true hmatch, if_pos rfl]
    dsimp only
    rw [setColumns_single]
  · rw [if_neg hmatch, decide_eq_false hmatch, if_neg Bool.false_ne_true]

private theorem run_cases (hms : DistinctKeys cells t ms) (hfits : ∀ m ∈ ms, Fits t m)
    (table : List (Text → V)) :
    (SyncStatement.updateCases (((writableColumns t columnInfo).filter fun column =>
          ms.any fun m => (changeOf m column).isSome).map fun column =>
            (column, ms.filterMap fun m => (changeOf m column).map fun change =>
              (whereByKey cells t asValue m.keyValues, change.source)))
        (ms.map fun m => whereByKey cells t asValue m.keyValues)).run cells database table =
      table.map (edit database cells t ms) := by
  refine map_congr_left fun row _ => ?_
  have hwhere : (Truth.any ((ms.map fun m => whereByKey cells t asValue m.keyValues).map fun key =>
      key.truth cells row) = some true) ↔ (editOf cells t ms row).isSome := by
    rw [Truth.any_eq_true_iff, editOf, find?_isSome]
    simp only [mem_map, decide_eq_true_eq]
    constructor
    · rintro ⟨truth, ⟨key, ⟨m, hm, rfl⟩, rfl⟩, htruth⟩
      exact ⟨m, hm, htruth⟩
    · rintro ⟨m, hm, htruth⟩
      exact ⟨_, ⟨_, ⟨m, hm, rfl⟩, rfl⟩, htruth⟩
  rw [edit]
  rcases hedit : editOf cells t ms row with _ | m
  · rw [if_neg (by rw [hwhere, hedit]; simp)]
  rw [if_pos (by rw [hwhere, hedit]; rfl)]
  have hm := (editOf_eq_some hedit).1
  dsimp only
  congr 1
  funext column
  rw [lookup_pairs]
  by_cases hcolumn : column ∈ (writableColumns t columnInfo).filter fun column =>
      ms.any fun m => (changeOf m column).isSome
  · rw [if_pos hcolumn]
    have hwritable := (mem_filter.mp (mem_filter.mp hcolumn).1).2
    dsimp only
    rw [caseValue_eq hms, hedit, edited, if_neg (by simpa using hwritable)]
    rfl
  · rw [if_neg hcolumn]
    dsimp only
    unfold edited
    split
    · rfl
    · next hgenerated =>
      rcases hchange : changeOf m column with _ | change
      · rfl
      obtain ⟨hmem, rfl⟩ := changeOf_eq_some hchange
      refine absurd (mem_filter.mpr ⟨mem_filter.mpr
        ⟨(hfits m hm change hmem).1, by simpa using hgenerated⟩, ?_⟩) hcolumn
      exact any_eq_true.mpr ⟨m, hm, by rw [hchange]; rfl⟩

private theorem runAll_updateStatements (hms : DistinctKeys cells t ms) (hfits : ∀ m ∈ ms, Fits t m)
    (hwritable : ∀ m ∈ ms, hasWritableChanges columnInfo m) (table : List (Text → V)) :
    runAll cells database (updateStatements cells t columnInfo asValue ms) table =
      table.map (edit database cells t ms) := by
  match ms with
  | [] =>
    have hnone : updateStatements cells t columnInfo asValue
        ([] : List (DataCompareModifiedRow V)) = [] := by
      simp [updateStatements]
    rw [hnone]
    exact (map_id table).symm
  | [m] => exact run_single database m table
  | m :: next :: rest =>
    obtain ⟨change, hchange, hwrites⟩ := any_eq_true.mp (hwritable m mem_cons_self)
    have hchanged : change.column ∈ (writableColumns t columnInfo).filter fun column =>
        (m :: next :: rest).any fun row => (changeOf row column).isSome := by
      apply mem_filter.mpr
      constructor
      · exact mem_filter.mpr ⟨(hfits m mem_cons_self change hchange).1, hwrites⟩
      · exact any_eq_true.mpr
          ⟨m, mem_cons_self, (changeOf_isSome_iff m _).mpr ⟨change, hchange, rfl⟩⟩
    unfold updateStatements
    rw [if_neg (by rw [List.isEmpty_iff]; exact ne_nil_of_mem hchanged)]
    exact run_cases database hms hfits table

/-- A row keeps its key when a modified row with that key changes it. -/
def KeepsKey (cells : Cells V) (t : CompareColumns) (ms : List (DataCompareModifiedRow V))
    (row : Text → V) : Prop :=
  ∀ m ∈ ms, tableKey t row = askedKey cells t m.keyValues →
    tableKey t (database.complete (edited columnInfo m row)) = tableKey t row

/-- An edit keeps the key. -/
theorem tableKey_edit (hkeeps : KeepsKey database cells t ms row) :
    tableKey t (edit database cells t ms row) = tableKey t row := by
  rw [edit]
  rcases hedit : editOf cells t ms row with _ | m
  · rfl
  obtain ⟨hm, hkey, -⟩ := editOf_eq_some hedit
  exact hkeeps m hm hkey

private theorem editOf_congr {other : Text → V} (h : tableKey t row = tableKey t other)
    (ms : List (DataCompareModifiedRow V)) : editOf cells t ms row = editOf cells t ms other := by
  unfold editOf
  congr 1
  funext m
  rw [decide_eq_decide, truth_whereByKey_iff, truth_whereByKey_iff, h]

private theorem edit_edit {later : List (DataCompareModifiedRow V)}
    (hms : DistinctKeys cells t (ms ++ later)) (hkeeps : KeepsKey database cells t ms row) :
    edit database cells t later (edit database cells t ms row) =
      edit database cells t (ms ++ later) row := by
  have hlater : editOf cells t later (edit database cells t ms row) = editOf cells t later row :=
    editOf_congr (tableKey_edit database hkeeps) later
  have happend : editOf cells t (ms ++ later) row =
      (editOf cells t ms row).or (editOf cells t later row) := find?_append
  rw [edit, hlater, edit.eq_def database cells t (ms ++ later), happend]
  rcases hedit : editOf cells t ms row with _ | m
  · rw [edit, hedit, Option.none_or]
  obtain ⟨hm, hkey, -⟩ := editOf_eq_some hedit
  have hnone : editOf cells t later row = none := by
    apply (editOf_eq_none_iff later row).mpr
    intro other hother hsame
    unfold DistinctKeys at hms
    rw [map_append] at hms
    have hearlier : askedKey cells t m.keyValues ∈
        ms.map fun m => askedKey cells t m.keyValues := mem_map_of_mem hm
    rw [← hkey, hsame] at hearlier
    exact absurd (mem_map_of_mem hother) (disjoint_of_nodup_append hms hearlier)
  rw [hnone, Option.or_none, edit, hedit]

/-- Statements run one after another. -/
theorem runAll_append (first later : List (SyncStatement V)) (table : List (Text → V)) :
    runAll cells database (first ++ later) table =
      runAll cells database later (runAll cells database first table) :=
  foldl_append ..

private theorem runAll_batches {batches : List (List (DataCompareModifiedRow V))}
    (hms : DistinctKeys cells t batches.flatten) (hfits : ∀ m ∈ batches.flatten, Fits t m)
    (hwritable : ∀ m ∈ batches.flatten, hasWritableChanges columnInfo m)
    {table : List (Text → V)}
    (hkeeps : ∀ row ∈ table, KeepsKey database cells t batches.flatten row) :
    runAll cells database (batches.flatMap (updateStatements cells t columnInfo asValue)) table =
      table.map (edit database cells t batches.flatten) := by
  -- The last batch finds the rows as the batches before it leave them.
  induction batches using reverseRecOn with
  | nil => exact (map_id table).symm
  | append_singleton batches batch ih =>
    rw [flatten_concat] at hms hfits hwritable hkeeps ⊢
    have hsplit := hms
    unfold DistinctKeys at hsplit
    rw [map_append, nodup_append] at hsplit
    have hbefore : ∀ row ∈ table, KeepsKey database cells t batches.flatten row :=
      fun row hrow m hm => hkeeps row hrow m (mem_append_left _ hm)
    rw [flatMap_append, flatMap_singleton, runAll_append, ih hsplit.1
      (fun m hm => hfits m (mem_append_left _ hm))
      (fun m hm => hwritable m (mem_append_left _ hm)) hbefore,
      runAll_updateStatements database hsplit.2.1 (fun m hm => hfits m (mem_append_right _ hm))
      (fun m hm => hwritable m (mem_append_right _ hm)), map_map]
    exact map_congr_left fun row hrow => edit_edit database hms (hbefore row hrow)

/-- The updates of a synchronization edit the rows with the keys of the modified rows that have
something to write. -/
theorem runAll_generateUpdateSyncStatements {modified : List (DataCompareModifiedRow V)}
    (hms : DistinctKeys cells t (modified.filter (hasWritableChanges columnInfo)))
    (hfits : ∀ m ∈ modified, Fits t m) {table : List (Text → V)}
    (hkeeps : ∀ row ∈ table,
      KeepsKey database cells t (modified.filter (hasWritableChanges columnInfo)) row) :
    runAll cells database (generateUpdateSyncStatements cells t columnInfo asValue modified) table =
      table.map (edit database cells t (modified.filter (hasWritableChanges columnInfo))) := by
  have hsize : 0 < dataSyncConditionBatchSize := by decide
  have hflatten := flatten_chunks hsize (modified.filter (hasWritableChanges columnInfo))
  have hrun := @runAll_batches _ _ cells t columnInfo database
    (chunks dataSyncConditionBatchSize (modified.filter (hasWritableChanges columnInfo)))
  rw [hflatten] at hrun
  exact hrun hms (fun m hm => hfits m (mem_filter.mp hm).1)
    (fun m hm => (mem_filter.mp hm).2) hkeeps

/-! ### Deletes and inserts -/

/-- A removed row has the key of a row in the table, and that key has no null. -/
def deleted (cells : Cells V) (t : CompareColumns) (removed : List (DataCompareRow V))
    (row : Text → V) : Bool :=
  removed.any fun r => (whereByKey cells t asValue r.keyValues).truth cells row = some true

private theorem runAll_deletes (batches : List (List (DataCompareRow V)))
    (table : List (Text → V)) :
    runAll cells database (batches.map fun chunk =>
        .delete (chunk.map fun r => whereByKey cells t asValue r.keyValues)) table =
      table.filter (!deleted cells t batches.flatten ·) := by
  induction batches generalizing table with
  | nil => exact (filter_true table).symm
  | cons batch batches ih =>
    have hbatch : (SyncStatement.delete
        (batch.map fun r => whereByKey cells t asValue r.keyValues)).run cells database table =
          table.filter (!deleted cells t batch ·) := by
      refine filter_congr fun row _ => ?_
      rw [Bool.eq_iff_iff, bne_iff_ne, ne_eq, Truth.any_eq_true_iff, Bool.not_eq_true',
        ← Bool.not_eq_true, deleted, any_eq_true]
      simp
    rw [map_cons, runAll, foldl_cons, hbatch]
    change runAll cells database _ _ = _
    rw [ih, filter_filter]
    refine filter_congr fun row _ => ?_
    unfold deleted
    rw [flatten_cons, any_append, Bool.not_or, Bool.and_comm]

/-- The deletes of a synchronization drop the rows with removed keys. -/
theorem runAll_generateDeleteSyncStatements (removed : List (DataCompareRow V))
    (table : List (Text → V)) :
    runAll cells database (generateDeleteSyncStatements cells t asValue removed) table =
      table.filter (!deleted cells t removed ·) := by
  have hsize : 0 < dataSyncConditionBatchSize := by decide
  rw [generateDeleteSyncStatements, runAll_deletes, flatten_chunks hsize]

/-- The row of the table that an added row becomes. -/
def insertedRow (cells : Cells V) (t : CompareColumns) (row : DataCompareRow V) : Text → V :=
  database.complete (setColumns ((writableColumns t columnInfo).map fun column =>
    (column, (row.values.lookup column).getD cells.null)) database.defaults)

/-- The inserts add the rows. -/
theorem runAll_generateInsertSyncStatements (databaseType : Option DatabaseType)
    (added : List (DataCompareRow V)) (table : List (Text → V)) :
    runAll cells database
      (generateInsertSyncStatements cells t columnInfo databaseType asValue added)
      table = table ++ added.map (insertedRow database cells t) := by
  unfold generateInsertSyncStatements
  dsimp only
  split
  · next hempty =>
    have hrow : ∀ row : DataCompareRow V,
        insertedRow database cells t row = database.complete database.defaults := by
      intro row
      rw [insertedRow, isEmpty_iff.mp hempty]
      rfl
    induction added generalizing table with
    | nil => exact (append_nil table).symm
    | cons row added ih =>
      change runAll cells database _ (table ++ [_]) = _
      rw [ih, map_cons, hrow, append_assoc]
      rfl
  · have hsize : 0 < dataSyncInsertBatchSize := by decide
    nth_rewrite 2 [← flatten_chunks hsize added]
    generalize chunks dataSyncInsertBatchSize added = batches
    induction batches generalizing table with
    | nil => exact (append_nil table).symm
    | cons batch batches ih =>
      rw [map_cons, runAll, foldl_cons, flatten_cons, map_append, ← append_assoc]
      change runAll cells database _ (table ++ _) = _
      rw [ih, map_map]
      congr 2
      refine map_congr_left fun row _ => ?_
      rw [Function.comp_apply, ← map_prod_left_eq_zip]
      rfl

/-- Sequences do not touch the rows. -/
theorem runAll_generateSequenceResetStatements (databaseType : Option DatabaseType)
    (added : List (DataCompareRow V)) (table : List (Text → V)) :
    runAll cells database (generateSequenceResetStatements t columnInfo databaseType added)
      table = table := by
  unfold generateSequenceResetStatements
  split
  · rfl
  generalize t.columns.filter _ = columns
  induction columns with
  | nil => rfl
  | cons column columns ih => exact ih

end

/-! ### Statements as they are written -/

section

variable {V : Type} {cells : Cells V} {t : CompareColumns} {columnInfo : List DataGridColumnInfo}

/-- The literal of a value is read as the value. -/
def ReadsBack (reads : Text → Text → V) (literal : Text → V → Text) (column : Text) (value : V) :
    Prop :=
  reads column (literal column value) = value

/-- The literals of the statements for a comparison are read as the values they stand for. -/
structure DiffReadsBack (cells : Cells V) (t : CompareColumns)
    (columnInfo : List DataGridColumnInfo) (reads : Text → Text → V) (literal : Text → V → Text)
    (diff : DataCompareResult V) : Prop where
  added : ∀ row ∈ diff.added, ∀ column ∈ writableColumns t columnInfo,
    ReadsBack reads literal column ((row.values.lookup column).getD cells.null)
  changes : ∀ m ∈ diff.modified, ∀ change ∈ m.changes,
    generatedColumn columnInfo change.column = false →
      ReadsBack reads literal change.column change.source
  modifiedKeys : ∀ m ∈ diff.modified, hasWritableChanges columnInfo m →
    ∀ column ∈ t.keyColumns,
      ReadsBack reads literal column ((m.keyValues.lookup column).getD cells.null)
  removedKeys : ∀ row ∈ diff.removed, ∀ column ∈ t.keyColumns,
    ReadsBack reads literal column ((row.keyValues.lookup column).getD cells.null)

variable {reads : Text → Text → V} {literal : Text → V → Text}

private theorem mem_of_mem_chunks {α : Type} {size : Nat} (hsize : 0 < size) {items chunk : List α}
    {item : α} (hchunk : chunk ∈ chunks size items) (hitem : item ∈ chunk) : item ∈ items := by
  rw [← flatten_chunks hsize items]
  exact mem_flatten_of_mem hchunk hitem

private theorem read_whereByKey {keyValues : List (Text × V)} (hkeys : ∀ column ∈ t.keyColumns,
      ReadsBack reads literal column ((keyValues.lookup column).getD cells.null)) :
    (whereByKey cells t literal keyValues).read reads = whereByKey cells t asValue keyValues := by
  rw [KeyCondition.read, whereByKey, map_map]
  exact map_congr_left fun column hcolumn => Prod.ext rfl (hkeys column hcolumn)

private theorem read_generateInsertSyncStatements (databaseType : Option DatabaseType)
    {added : List (DataCompareRow V)} (hadded : ∀ row ∈ added, ∀ column ∈
      writableColumns t columnInfo,
        ReadsBack reads literal column ((row.values.lookup column).getD cells.null)) :
    (generateInsertSyncStatements cells t columnInfo databaseType literal added).map
        (SyncStatement.read reads) =
      generateInsertSyncStatements cells t columnInfo databaseType asValue added := by
  unfold generateInsertSyncStatements
  dsimp only
  split
  · rw [map_map]
    rfl
  · rw [map_map]
    refine map_congr_left fun chunk hchunk => ?_
    rw [Function.comp_apply, SyncStatement.read, map_map]
    congr 1
    refine map_congr_left fun row hrow => ?_
    rw [Function.comp_apply, zipWith_map_right, zipWith_self]
    exact map_congr_left (hadded row (mem_of_mem_chunks (by decide) hchunk hrow))

private theorem read_generateSequenceResetStatements (databaseType : Option DatabaseType)
    (added : List (DataCompareRow V)) :
    (generateSequenceResetStatements t columnInfo databaseType added).map
        (SyncStatement.read reads) =
      generateSequenceResetStatements t columnInfo databaseType added := by
  unfold generateSequenceResetStatements
  split
  · rfl
  · rw [map_map]
    rfl

section

variable {m : DataCompareModifiedRow V} (hchanges : ∀ change ∈ m.changes,
  generatedColumn columnInfo change.column = false →
    ReadsBack reads literal change.column change.source)

include hchanges

private theorem read_generateSingleUpdateStatement (hkeys : ∀ column ∈ t.keyColumns,
      ReadsBack reads literal column ((m.keyValues.lookup column).getD cells.null)) :
    (generateSingleUpdateStatement cells t columnInfo literal m).read reads =
      generateSingleUpdateStatement cells t columnInfo asValue m := by
  rw [generateSingleUpdateStatement, SyncStatement.read, read_whereByKey hkeys, map_map,
    generateSingleUpdateStatement]
  congr 1
  refine map_congr_left fun change hchange => ?_
  obtain ⟨hmem, hplain⟩ := mem_filter.mp hchange
  exact Prod.ext rfl (hchanges change hmem (by simpa using hplain))

private theorem readsBack_of_changeOf {column : Text} {change : DataCompareChangedCell V}
    (hcolumn : column ∈ writableColumns t columnInfo) (hchange : changeOf m column = some change) :
    ReadsBack reads literal column change.source := by
  obtain ⟨hmem, rfl⟩ := changeOf_eq_some hchange
  exact hchanges change hmem (by simpa using (mem_filter.mp hcolumn).2)

end

private theorem read_updateStatements {chunk : List (DataCompareModifiedRow V)}
    (hchanges : ∀ m ∈ chunk, ∀ change ∈ m.changes,
      generatedColumn columnInfo change.column = false →
        ReadsBack reads literal change.column change.source)
    (hkeys : ∀ m ∈ chunk, ∀ column ∈ t.keyColumns,
      ReadsBack reads literal column ((m.keyValues.lookup column).getD cells.null)) :
    (updateStatements cells t columnInfo literal chunk).map (SyncStatement.read reads) =
      updateStatements cells t columnInfo asValue chunk := by
  have hasked : ∀ m ∈ chunk, (whereByKey cells t literal m.keyValues).read reads =
      whereByKey cells t asValue m.keyValues := fun m hm => read_whereByKey (hkeys m hm)
  unfold updateStatements
  split
  · next m =>
    rw [map_singleton, read_generateSingleUpdateStatement (hchanges m mem_cons_self)
      (hkeys m mem_cons_self)]
  · dsimp only
    split
    · rfl
    · rw [map_singleton, SyncStatement.read, map_map, map_map]
      congr 2
      · refine map_congr_left fun column hcolumn => ?_
        dsimp only [Function.comp_apply]
        rw [map_filterMap]
        refine Prod.ext rfl (filterMap_congr fun m hm => ?_)
        cases hchange : changeOf m column with
        | none => rfl
        | some change =>
          have hvalue := readsBack_of_changeOf (hchanges m hm) (mem_filter.mp hcolumn).1 hchange
          exact congrArg some (Prod.ext (hasked m hm) hvalue)
      · exact map_congr_left hasked

/-- Statements whose literals are read as the values they stand for are, when they are read, the
statements of those values. -/
theorem read_generateDataSyncStatements (databaseType : Option DatabaseType)
    {diff : DataCompareResult V} (hdiff : DiffReadsBack cells t columnInfo reads literal diff) :
    (generateDataSyncStatements cells t columnInfo databaseType literal diff).map
        (SyncStatement.read reads) =
      generateDataSyncStatements cells t columnInfo databaseType asValue diff := by
  have hsize : 0 < dataSyncConditionBatchSize := by decide
  rw [generateDataSyncStatements, map_append, map_append, map_append,
    read_generateInsertSyncStatements databaseType hdiff.added,
    read_generateSequenceResetStatements, generateDataSyncStatements]
  congr 1
  · congr 1
    rw [generateUpdateSyncStatements, map_flatMap]
    refine flatMap_congr fun chunk hchunk => ?_
    have hmem : ∀ m ∈ chunk, m ∈ diff.modified ∧ hasWritableChanges columnInfo m :=
      fun m hm => mem_filter.mp (mem_of_mem_chunks hsize hchunk hm)
    exact read_updateStatements (fun m hm => hdiff.changes m (hmem m hm).1)
      fun m hm => hdiff.modifiedKeys m (hmem m hm).1 (hmem m hm).2
  · rw [generateDeleteSyncStatements, map_map]
    refine map_congr_left fun chunk hchunk => ?_
    rw [Function.comp_apply, SyncStatement.read, map_map]
    congr 1
    exact map_congr_left fun row hrow =>
      read_whereByKey (hdiff.removedKeys row (mem_of_mem_chunks hsize hchunk hrow))

end

end DbxSpec.Compare
