import DbxSpec.Compare.Runs

/-!
# A synchronized target

Which rows a comparison reports, and when the statements that are generated for it make the target
equal to the source. The conditions on the key are `c = v`, so a row with a null in its key is never
updated nor deleted.
-/

namespace DbxSpec.Compare

open DbxSpec.Base DbxSpec.Grid DbxSpec.Sql List

section

variable {V : Type} {cells : Cells V} {t : CompareColumns} {columnInfo : List DataGridColumnInfo}

/-- The values of the columns that are not generated. -/
def written (t : CompareColumns) (columnInfo : List DataGridColumnInfo) (row : Text → V) : List V :=
  (writableColumns t columnInfo).map row

/-- Generated key columns are computed from the written columns, in the same way for all rows. It
says nothing if no key column is generated. -/
def ComputesKeys (cells : Cells V) (t : CompareColumns)
    (database : Database V (generatedColumn columnInfo)) (rows : List (List V)) : Prop :=
  ∀ row ∈ rows, ∀ values : Text → V,
    written t columnInfo values = written t columnInfo (rowValue cells t row) →
      tableKey t (database.complete values) = keyTuple cells t row

private theorem mem_writableColumns_iff (column : Text) : column ∈ writableColumns t columnInfo ↔
      column ∈ t.columns ∧ generatedColumn columnInfo column = false := by
  rw [writableColumns, mem_filter, Bool.not_eq_true']

variable (database : Database V (generatedColumn columnInfo)) {row : List V}

private theorem computesKeys_of_plain
    (hplain : ∀ column ∈ t.keyColumns, generatedColumn columnInfo column = false)
    (rows : List (List V)) : ComputesKeys cells t database rows := by
  intro row _ values hvalues
  refine map_congr_left fun column hcolumn => ?_
  rw [database.complete_eq values column (hplain column hcolumn)]
  exact map_inj_left.mp hvalues column
    ((mem_writableColumns_iff column).mpr ⟨t.keyColumns_subset hcolumn, hplain column hcolumn⟩)

private theorem written_complete (row : Text → V) :
    written t columnInfo (database.complete row) = written t columnInfo row := by
  refine map_congr_left fun column hcolumn => ?_
  exact database.complete_eq row column ((mem_writableColumns_iff column).mp hcolumn).2

private theorem written_insertedRow (row : List V) :
    written t columnInfo (insertedRow database cells t (dataCompareRow cells t row)) =
      written t columnInfo (rowValue cells t row) := by
  rw [insertedRow, written_complete]
  refine map_congr_left fun column hcolumn => ?_
  rw [setColumns, lookup_pairs, if_pos hcolumn, Option.getD_some, dataCompareRow,
    getD_lookup_rowObject ((mem_writableColumns_iff column).mp hcolumn).1]

private theorem tableKey_insertedRow {rows : List (List V)}
    (hcomputes : ComputesKeys cells t database rows) (hrow : row ∈ rows) :
    tableKey t (insertedRow database cells t (dataCompareRow cells t row)) =
      keyTuple cells t row := by
  apply hcomputes row hrow
  rw [← written_insertedRow database, insertedRow, written_complete]

variable {other : List V}

private theorem keyTuple_eq_of_written {rows : List (List V)}
    (hcomputes : ComputesKeys cells t database rows) (hrow : row ∈ rows) (hother : other ∈ rows)
    (h : written t columnInfo (rowValue cells t row) = written t columnInfo (rowValue cells t
      other)) : keyTuple cells t row = keyTuple cells t other :=
  (hcomputes row hrow _ rfl).symm.trans (hcomputes other hother _ h)

variable [DecidableEq V]

section

variable (hkey : keyTuple cells t row = keyTuple cells t other)

include hkey

private theorem written_edited :
    written t columnInfo (edited columnInfo (modifiedRow cells t row other)
      (rowValue cells t other)) = written t columnInfo (rowValue cells t row) := by
  refine map_congr_left fun column hcolumn => ?_
  obtain ⟨hcompared, hplain⟩ := (mem_writableColumns_iff column).mp hcolumn
  rw [edited, hplain, if_neg Bool.false_ne_true]
  cases hchange : changeOf (modifiedRow cells t row other) column with
  | some change =>
    obtain ⟨hmem, rfl⟩ := changeOf_eq_some hchange
    exact ((mem_rowChanges_iff row other change).mp hmem).2.2.1
  | none =>
    by_contra hne
    have hnotKey : column ∉ t.keyColumns := fun hmem => hne (map_inj_left.mp hkey column hmem).symm
    have hsome := (changeOf_isSome_iff (modifiedRow cells t row other) column).mpr
      ⟨⟨column, _, _⟩, (mem_rowChanges_iff row other _).mpr
        ⟨hcompared, hnotKey, rfl, rfl, Ne.symm hne⟩, rfl⟩
    rw [hchange] at hsome
    cases hsome

private theorem hasWritableChanges_iff :
    hasWritableChanges columnInfo (modifiedRow cells t row other) ↔
      written t columnInfo (rowValue cells t row) ≠
        written t columnInfo (rowValue cells t other) := by
  rw [hasWritableChanges, any_eq_true, Ne, written, written, map_inj_left]
  constructor
  · rintro ⟨change, hchange, hplain⟩ hsame
    obtain ⟨hcompared, -, hsource, htarget, hne⟩ := (mem_rowChanges_iff row other change).mp hchange
    rw [hsource, htarget] at hne
    exact hne (hsame _ ((mem_writableColumns_iff _).mpr ⟨hcompared, by simpa using hplain⟩))
  · intro hdiffer
    push Not at hdiffer
    obtain ⟨column, hcolumn, hne⟩ := hdiffer
    obtain ⟨hcompared, hplain⟩ := (mem_writableColumns_iff column).mp hcolumn
    have hnotKey : column ∉ t.keyColumns := fun hmem => hne (map_inj_left.mp hkey column hmem)
    exact ⟨⟨column, _, _⟩, (mem_rowChanges_iff row other _).mpr
      ⟨hcompared, hnotKey, rfl, rfl, hne⟩, by simpa using hplain⟩

end

private theorem modifiedRow_fits (row other : List V) : Fits t (modifiedRow cells t row other) := by
  intro change hchange
  obtain ⟨hcompared, hkey, -⟩ := (mem_rowChanges_iff row other change).mp hchange
  exact ⟨hcompared, hkey⟩

/-! ### The rows that are reported -/

/-- The rows that one list has and the other does not, by their keys. -/
def missingFrom (cells : Cells V) (t : CompareColumns) (rows others : List (List V)) :
    List (List V) :=
  rows.filter fun row => (partner cells t others row).isNone

/-- The modified rows of a comparison. -/
def modifiedRows (cells : Cells V) (t : CompareColumns) (sourceRows targetRows : List (List V)) :
    List (DataCompareModifiedRow V) :=
  sourceRows.filterMap fun row => (partner cells t targetRows row).bind fun other =>
    if (rowChanges cells t row other).isEmpty then none else some (modifiedRow cells t row other)

private theorem mem_missingFrom_iff (rows others : List (List V)) (row : List V) :
    row ∈ missingFrom cells t rows others ↔
      row ∈ rows ∧ ∀ other ∈ others, keyTuple cells t other ≠ keyTuple cells t row := by
  rw [missingFrom, mem_filter, Option.isNone_iff_eq_none, partner_eq_none_iff]

variable {sourceRows targetRows : List (List V)}

private theorem mem_modifiedRows_iff (htarget : (targetRows.map (keyTuple cells t)).Nodup)
    (m : DataCompareModifiedRow V) :
    m ∈ modifiedRows cells t sourceRows targetRows ↔
      ∃ row ∈ sourceRows, ∃ other ∈ targetRows, keyTuple cells t row = keyTuple cells t other ∧
        (∃ column ∈ t.columns, rowValue cells t row column ≠ rowValue cells t other column) ∧
        m = modifiedRow cells t row other := by
  rw [modifiedRows, mem_filterMap]
  constructor
  · rintro ⟨row, hrow, hm⟩
    obtain ⟨other, hpartner, hm⟩ := Option.bind_eq_some_iff.mp hm
    obtain ⟨hother, hkey⟩ := partner_eq_some hpartner
    split at hm
    · cases hm
    · next hchanges =>
      rw [rowChanges_isEmpty_iff hkey.symm] at hchanges
      push Not at hchanges
      exact ⟨row, hrow, other, hother, hkey.symm, hchanges, (Option.some.inj hm).symm⟩
  · rintro ⟨row, hrow, other, hother, hkey, hdiffer, rfl⟩
    refine ⟨row, hrow, Option.bind_eq_some_iff.mpr
      ⟨other, (partner_eq_some_iff htarget row other).mpr ⟨hother, hkey.symm⟩, ?_⟩⟩
    rw [if_neg]
    rw [rowChanges_isEmpty_iff hkey]
    push Not
    exact hdiffer

private theorem distinctKeys_modifiedRows (hsource : (sourceRows.map (keyTuple cells t)).Nodup) :
    DistinctKeys cells t (modifiedRows cells t sourceRows targetRows) := by
  have hkey : ∀ row m, ((partner cells t targetRows row).bind fun other =>
      if (rowChanges cells t row other).isEmpty then none
      else some (modifiedRow cells t row other)) = some m →
        askedKey cells t m.keyValues = keyTuple cells t row := by
    intro row m hm
    obtain ⟨other, -, hm⟩ := Option.bind_eq_some_iff.mp hm
    split at hm
    · cases hm
    · cases hm
      exact askedKey_keyValuesForRow row
  apply pairwise_map.mpr
  apply List.Pairwise.filterMap _ _ (pairwise_map.mp hsource)
  intro row row' hne m hm m' hm' hsame
  rw [hkey row m hm, hkey row' m' hm'] at hsame
  exact hne hsame

/-! ### The target after the statements -/

/-- The modified rows with something to write. -/
def writableRows (cells : Cells V) (t : CompareColumns) (columnInfo : List DataGridColumnInfo)
    (sourceRows targetRows : List (List V)) : List (DataCompareModifiedRow V) :=
  (modifiedRows cells t sourceRows targetRows).filter (hasWritableChanges columnInfo)

/-- The target with the added rows, edited. -/
def editedTarget (cells : Cells V) (t : CompareColumns) (sourceRows targetRows : List (List V)) :
    List (Text → V) :=
  (targetRows.map (rowValue cells t) ++ (missingFrom cells t sourceRows targetRows).map fun row =>
      insertedRow database cells t (dataCompareRow cells t row)).map
    (edit database cells t (writableRows cells t columnInfo sourceRows targetRows))

variable (hsource : (sourceRows.map (keyTuple cells t)).Nodup)
  (htarget : (targetRows.map (keyTuple cells t)).Nodup)
  (hcomputes : ComputesKeys cells t database (sourceRows ++ targetRows))

include htarget in
private theorem mem_writableRows_iff (m : DataCompareModifiedRow V) :
    m ∈ writableRows cells t columnInfo sourceRows targetRows ↔
      ∃ row ∈ sourceRows, ∃ other ∈ targetRows, keyTuple cells t row = keyTuple cells t other ∧
        written t columnInfo (rowValue cells t row) ≠
          written t columnInfo (rowValue cells t other) ∧ m = modifiedRow cells t row other := by
  rw [writableRows, mem_filter, mem_modifiedRows_iff htarget]
  constructor
  · rintro ⟨⟨row, hrow, other, hother, hkey, -, rfl⟩, hwritable⟩
    exact ⟨row, hrow, other, hother, hkey, (hasWritableChanges_iff hkey).mp hwritable, rfl⟩
  · rintro ⟨row, hrow, other, hother, hkey, hdiffer, rfl⟩
    refine ⟨⟨row, hrow, other, hother, hkey, ?_, rfl⟩, (hasWritableChanges_iff hkey).mpr hdiffer⟩
    by_contra hsame
    push Not at hsame
    exact hdiffer (map_congr_left fun column hcolumn =>
      hsame column ((mem_writableColumns_iff column).mp hcolumn).1)

include htarget hcomputes in
private theorem keepsKey_target {row : Text → V} (hrow : row ∈ targetRows.map (rowValue cells t) ++
      (missingFrom cells t sourceRows targetRows).map fun row =>
        insertedRow database cells t (dataCompareRow cells t row)) :
    KeepsKey database cells t (writableRows cells t columnInfo sourceRows targetRows) row := by
  intro m hm hkey
  obtain ⟨source, hsourceRow, other, hother, hsame, -, rfl⟩ :=
    (mem_writableRows_iff htarget m).mp hm
  rw [modifiedRow, askedKey_keyValuesForRow] at hkey
  rcases mem_append.mp hrow with hrow | hrow
  · obtain ⟨target, htargetRow, rfl⟩ := mem_map.mp hrow
    have heq : target = other := inj_on_of_nodup_map htarget htargetRow hother (hkey.trans hsame)
    subst heq
    rw [hkey]
    exact hcomputes source (mem_append_left _ hsourceRow) _ (written_edited hsame)
  · obtain ⟨added, hadded, rfl⟩ := mem_map.mp hrow
    obtain ⟨haddedRow, hmissing⟩ := (mem_missingFrom_iff _ _ added).mp hadded
    rw [tableKey_insertedRow database hcomputes (mem_append_left _ haddedRow)] at hkey
    exact absurd (hkey.trans hsame).symm (hmissing other hother)

include hsource htarget hcomputes in
private theorem runAll_generateDataSyncStatements (databaseType : Option DatabaseType) :
    runAll cells database (generateDataSyncStatements cells t columnInfo databaseType asValue
        { added := (missingFrom cells t sourceRows targetRows).map (dataCompareRow cells t)
          removed := (missingFrom cells t targetRows sourceRows).map (dataCompareRow cells t)
          modified := modifiedRows cells t sourceRows targetRows })
      (targetRows.map (rowValue cells t)) =
      (editedTarget database cells t sourceRows targetRows).filter
        (!deleted cells t ((missingFrom cells t targetRows sourceRows).map
          (dataCompareRow cells t)) ·) := by
  have hdistinct : DistinctKeys cells t (writableRows cells t columnInfo sourceRows targetRows) :=
    ((filter_sublist).map _).nodup (distinctKeys_modifiedRows hsource)
  rw [generateDataSyncStatements, runAll_append, runAll_append, runAll_append,
    runAll_generateInsertSyncStatements, runAll_generateSequenceResetStatements,
    runAll_generateUpdateSyncStatements, runAll_generateDeleteSyncStatements, map_map]
  · rfl
  · exact hdistinct
  · intro m hm
    obtain ⟨row, -, other, -, -, -, rfl⟩ := (mem_modifiedRows_iff htarget m).mp hm
    exact modifiedRow_fits row other
  · intro row hrow
    rw [map_map] at hrow
    exact keepsKey_target database htarget hcomputes hrow

private theorem edit_of_null (ms : List (DataCompareModifiedRow V)) {row : Text → V}
    (hnull : cells.null ∈ tableKey t row) : edit database cells t ms row = row := by
  rw [edit]
  rcases hedit : editOf cells t ms row with _ | m
  · rfl
  obtain ⟨-, hkey, hnot⟩ := editOf_eq_some hedit
  rw [← hkey] at hnot
  exact absurd hnull hnot

include hsource htarget in
private theorem written_edit (hrow : row ∈ sourceRows) (hother : other ∈ targetRows)
    (hkey : keyTuple cells t row = keyTuple cells t other)
    (hnull : cells.null ∉ keyTuple cells t other) :
    written t columnInfo (edit database cells t
        (writableRows cells t columnInfo sourceRows targetRows) (rowValue cells t other)) =
      written t columnInfo (rowValue cells t row) := by
  by_cases hdiffer : written t columnInfo (rowValue cells t row) =
      written t columnInfo (rowValue cells t other)
  · -- Then no modified row with this key has anything to write.
    have hnone : editOf cells t (writableRows cells t columnInfo sourceRows targetRows)
        (rowValue cells t other) = none := by
      apply (editOf_eq_none_iff _ _).mpr
      intro m hm hasked
      obtain ⟨row', hrow', other', hother', hkey', hdiffer', rfl⟩ :=
        (mem_writableRows_iff htarget m).mp hm
      rw [modifiedRow, askedKey_keyValuesForRow] at hasked
      have hsameRow := inj_on_of_nodup_map hsource hrow hrow' (hkey.trans hasked)
      have hsameOther := inj_on_of_nodup_map htarget hother hother' (hasked.trans hkey')
      rw [← hsameRow, ← hsameOther] at hdiffer'
      exact absurd hdiffer hdiffer'
    rw [edit, hnone, hdiffer]
  · have hsome : editOf cells t (writableRows cells t columnInfo sourceRows targetRows)
        (rowValue cells t other) = some (modifiedRow cells t row other) := by
      apply (editOf_eq_some_iff (((filter_sublist).map _).nodup
        (distinctKeys_modifiedRows hsource)) _ _).mpr
      rw [modifiedRow, askedKey_keyValuesForRow, hkey]
      exact ⟨(mem_writableRows_iff htarget _).mpr
        ⟨row, hrow, other, hother, hkey, hdiffer, rfl⟩, rfl, hnull⟩
    rw [edit, hsome]
    dsimp only
    rw [written_complete, written_edited hkey]

include htarget hcomputes in
private theorem edit_insertedRow (hrow : row ∈ missingFrom cells t sourceRows targetRows) :
    edit database cells t (writableRows cells t columnInfo sourceRows targetRows)
        (insertedRow database cells t (dataCompareRow cells t row)) =
      insertedRow database cells t (dataCompareRow cells t row) := by
  obtain ⟨hsourceRow, hmissing⟩ := (mem_missingFrom_iff _ _ row).mp hrow
  rw [edit]
  cases hedit : editOf cells t (writableRows cells t columnInfo sourceRows targetRows)
      (insertedRow database cells t (dataCompareRow cells t row)) with
  | none => rfl
  | some m =>
    obtain ⟨hm, hkey, -⟩ := editOf_eq_some hedit
    obtain ⟨source, -, other, hother, hsame, -, rfl⟩ := (mem_writableRows_iff htarget m).mp hm
    rw [tableKey_insertedRow database hcomputes (mem_append_left _ hsourceRow), modifiedRow,
      askedKey_keyValuesForRow] at hkey
    exact absurd (hkey.trans hsame).symm (hmissing other hother)

private theorem deleted_iff (removed : List (List V)) (row : Text → V) :
    deleted cells t (removed.map (dataCompareRow cells t)) row ↔
      ∃ other ∈ removed, tableKey t row = keyTuple cells t other ∧
        cells.null ∉ keyTuple cells t other := by
  simp only [deleted, any_map, any_eq_true, Function.comp_apply, decide_eq_true_eq,
    truth_whereByKey_iff, dataCompareRow, askedKey_keyValuesForRow]

private theorem map_tableKey_editedTarget (htarget : (targetRows.map (keyTuple cells t)).Nodup)
    (hcomputes : ComputesKeys cells t database (sourceRows ++ targetRows)) :
    (editedTarget database cells t sourceRows targetRows).map (tableKey t) =
      targetRows.map (keyTuple cells t) ++
        (missingFrom cells t sourceRows targetRows).map (keyTuple cells t) := by
  rw [editedTarget, map_map]
  calc _ = (targetRows.map (rowValue cells t) ++ (missingFrom cells t sourceRows targetRows).map
        fun row => insertedRow database cells t (dataCompareRow cells t row)).map (tableKey t) :=
        map_congr_left fun row hrow =>
          tableKey_edit database (keepsKey_target database htarget hcomputes hrow)
    _ = _ := by
      rw [map_append, map_map, map_map]
      congr 1
      refine map_congr_left fun row hrow => ?_
      exact tableKey_insertedRow database hcomputes
        (mem_append_left _ ((mem_missingFrom_iff _ _ row).mp hrow).1)

include hsource htarget hcomputes in
private theorem nodup_editedTarget :
    ((editedTarget database cells t sourceRows targetRows).map (tableKey t)).Nodup := by
  rw [map_tableKey_editedTarget database htarget hcomputes]
  apply List.Nodup.append htarget (((filter_sublist).map _).nodup hsource)
  intro key hkey hadded
  obtain ⟨other, hother, rfl⟩ := mem_map.mp hkey
  obtain ⟨row, hrow, hsame⟩ := mem_map.mp hadded
  exact ((mem_missingFrom_iff _ _ row).mp hrow).2 other hother hsame.symm

include htarget hcomputes in
private theorem exists_of_mem_editedTarget {row : Text → V}
    (hrow : row ∈ editedTarget database cells t sourceRows targetRows) :
    ∃ other ∈ sourceRows ++ targetRows,
      written t columnInfo row = written t columnInfo (rowValue cells t other) ∧
        tableKey t row = keyTuple cells t other := by
  obtain ⟨row, hbefore, rfl⟩ := mem_map.mp hrow
  rw [tableKey_edit database (keepsKey_target database htarget hcomputes hbefore)]
  rcases mem_append.mp hbefore with hrow | hrow
  · obtain ⟨target, htargetRow, rfl⟩ := mem_map.mp hrow
    rw [edit]
    cases hedit : editOf cells t (writableRows cells t columnInfo sourceRows targetRows)
        (rowValue cells t target) with
    | none => exact ⟨target, mem_append_right _ htargetRow, rfl, rfl⟩
    | some m =>
      obtain ⟨hm, hasked, -⟩ := editOf_eq_some hedit
      obtain ⟨source, hsourceRow, other, hother, hsame, -, rfl⟩ :=
        (mem_writableRows_iff htarget m).mp hm
      rw [modifiedRow, askedKey_keyValuesForRow] at hasked
      have heq := inj_on_of_nodup_map htarget htargetRow hother (hasked.trans hsame)
      subst heq
      exact ⟨source, mem_append_left _ hsourceRow,
        (written_complete database _).trans (written_edited hsame), hasked⟩
  · obtain ⟨added, hadded, rfl⟩ := mem_map.mp hrow
    have haddedRow := mem_append_left targetRows ((mem_missingFrom_iff _ _ added).mp hadded).1
    rw [edit_insertedRow database htarget hcomputes hadded]
    exact ⟨added, haddedRow, written_insertedRow database added,
      tableKey_insertedRow database hcomputes haddedRow⟩

/-- Every target row with a null in its key is, as far as it is written, among the source rows. -/
def NullKeysMatched (cells : Cells V) (t : CompareColumns) (columnInfo : List DataGridColumnInfo)
    (sourceRows targetRows : List (List V)) : Prop :=
  ∀ row ∈ targetRows, cells.null ∈ keyTuple cells t row →
    ∃ other ∈ sourceRows, written t columnInfo (rowValue cells t other) =
      written t columnInfo (rowValue cells t row)

/-- The rows that are left of the edited target. -/
def synchronized (cells : Cells V) (t : CompareColumns) (sourceRows targetRows : List (List V)) :
    List (Text → V) :=
  (editedTarget database cells t sourceRows targetRows).filter
    (!deleted cells t ((missingFrom cells t targetRows sourceRows).map (dataCompareRow cells t)) ·)

private theorem mem_synchronized_iff (row : Text → V) :
    row ∈ synchronized database cells t sourceRows targetRows ↔
      row ∈ editedTarget database cells t sourceRows targetRows ∧
        ∀ other ∈ missingFrom cells t targetRows sourceRows,
          tableKey t row = keyTuple cells t other → cells.null ∈ keyTuple cells t other := by
  rw [synchronized, mem_filter, Bool.not_eq_true', ← Bool.not_eq_true, deleted_iff]
  push Not
  rfl

private theorem rowValue_mem_synchronized (hrow : row ∈ targetRows)
    (hnull : cells.null ∈ keyTuple cells t row) :
    rowValue cells t row ∈ synchronized database cells t sourceRows targetRows := by
  rw [mem_synchronized_iff]
  constructor
  · exact mem_map.mpr ⟨_, mem_append_left _ (mem_map_of_mem hrow), edit_of_null database _ hnull⟩
  · intro other _ hkey
    exact hkey ▸ hnull

include hsource htarget hcomputes in
private theorem written_mem_source
    (hmatched : NullKeysMatched cells t columnInfo sourceRows targetRows)
    {row : Text → V} (hrow : row ∈ synchronized database cells t sourceRows targetRows) :
    ∃ source ∈ sourceRows, written t columnInfo (rowValue cells t source) =
      written t columnInfo row := by
  obtain ⟨hedited, hkept⟩ := (mem_synchronized_iff database row).mp hrow
  obtain ⟨before, hbefore, rfl⟩ := mem_map.mp hedited
  rw [tableKey_edit database (keepsKey_target database htarget hcomputes hbefore)] at hkept
  rcases mem_append.mp hbefore with hbefore | hbefore
  · obtain ⟨target, htargetRow, rfl⟩ := mem_map.mp hbefore
    by_cases hnull : cells.null ∈ keyTuple cells t target
    · rw [edit_of_null database _ hnull]
      exact hmatched target htargetRow hnull
    · by_cases hmissing : target ∈ missingFrom cells t targetRows sourceRows
      · exact absurd (hkept target hmissing rfl) hnull
      · rw [mem_missingFrom_iff] at hmissing
        push Not at hmissing
        obtain ⟨source, hsourceRow, hkey⟩ := hmissing htargetRow
        exact ⟨source, hsourceRow,
          (written_edit database hsource htarget hsourceRow htargetRow hkey hnull).symm⟩
  · obtain ⟨added, hadded, rfl⟩ := mem_map.mp hbefore
    rw [edit_insertedRow database htarget hcomputes hadded, written_insertedRow]
    exact ⟨added, ((mem_missingFrom_iff _ _ added).mp hadded).1, rfl⟩

include hsource htarget hcomputes in
private theorem source_mem_written
    (hmatched : NullKeysMatched cells t columnInfo sourceRows targetRows)
    {source : List V} (hsourceRow : source ∈ sourceRows) :
    ∃ row ∈ synchronized database cells t sourceRows targetRows,
      written t columnInfo row = written t columnInfo (rowValue cells t source) := by
  -- No removed row has the key of a source row.
  have hkept : ∀ other ∈ missingFrom cells t targetRows sourceRows,
      keyTuple cells t source ≠ keyTuple cells t other :=
    fun other hother => ((mem_missingFrom_iff _ _ other).mp hother).2 source hsourceRow
  by_cases hmissing : source ∈ missingFrom cells t sourceRows targetRows
  · refine ⟨_, (mem_synchronized_iff database _).mpr ⟨mem_map.mpr
      ⟨_, mem_append_right _ (mem_map_of_mem hmissing),
        edit_insertedRow database htarget hcomputes hmissing⟩, ?_⟩,
      written_insertedRow database source⟩
    intro other hother hkey
    rw [tableKey_insertedRow database hcomputes (mem_append_left _ hsourceRow)] at hkey
    exact absurd hkey (hkept other hother)
  · rw [mem_missingFrom_iff] at hmissing
    push Not at hmissing
    obtain ⟨target, htargetRow, hkey⟩ := hmissing hsourceRow
    by_cases hnull : cells.null ∈ keyTuple cells t target
    · obtain ⟨source', hsource', hsame⟩ := hmatched target htargetRow hnull
      have hkey' := keyTuple_eq_of_written database hcomputes (mem_append_left _ hsource')
        (mem_append_right _ htargetRow) hsame
      have heq := inj_on_of_nodup_map hsource hsource' hsourceRow (hkey'.trans hkey)
      subst heq
      exact ⟨_, rowValue_mem_synchronized database htargetRow hnull, hsame.symm⟩
    · have hbefore := mem_append_left ((missingFrom cells t sourceRows targetRows).map fun row =>
          insertedRow database cells t (dataCompareRow cells t row))
        (mem_map_of_mem (f := rowValue cells t) htargetRow)
      refine ⟨_, (mem_synchronized_iff database _).mpr ⟨mem_map_of_mem hbefore, ?_⟩,
        written_edit database hsource htarget hsourceRow htargetRow hkey.symm hnull⟩
      intro other hother hsame
      rw [tableKey_edit database (keepsKey_target database htarget hcomputes hbefore)] at hsame
      exact absurd (hkey.symm.trans hsame) (hkept other hother)

end

/-! ### Tables of flags -/

/-- The values `null`, `false` and `true`. -/
def flagCells : Cells (Option Bool) where
  null := none
  print
    | none => "null"
    | some false => "false"
    | some true => "true"
  print_injective := by
    intro a b h
    rcases a with _ | _ | _ <;> rcases b with _ | _ | _ <;> first | rfl | exact absurd h (by decide)
  print_separator := by
    intro v
    rcases v with _ | _ | _ <;> decide

/-- A key column and another one. -/
def flagColumns : CompareColumns where
  columns := ["id", "flag"]
  keyColumns := ["id"]
  columns_nodup := by decide
  keyColumns_subset := by decide

/-- A flag as a value of the grid. -/
def flagView : Option Bool → GridValue
  | none => .null
  | some flag => .bool flag

/-- A database that computes no columns and reads the literals of flags. -/
def flagDatabase : Database (Option Bool) (generatedColumn []) where
  reads _ literal :=
    if literal = "TRUE".toList then some true
    else if literal = "FALSE".toList then some false
    else none
  defaults := fun _ => none
  complete := id
  complete_eq := fun _ _ _ => rfl

/-- The statements of flags for PostgreSQL. -/
def flagStatements (diff : DataCompareResult (Option Bool)) : List (SyncStatement Text) :=
  generateDataSyncStatements flagCells flagColumns [] (some .postgres)
    (formatGridSqlLiteral .plain flagView (some .postgres) []) diff

private theorem readsBack_flag (column : Text) (flag : Option Bool) : ReadsBack flagDatabase.reads
    (formatGridSqlLiteral .plain flagView (some .postgres) []) column flag := by
  rcases flag with _ | _ | _ <;> rfl

end DbxSpec.Compare
