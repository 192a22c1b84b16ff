import DbxSpec.Base.Tables
import DbxSpec.Compare.Rows
import DbxSpec.Grid.Literal

/-!
# The statements of a synchronization

`generate_data_sync_statements` of `crates/dbx-core/src/data/data_compare.rs:935-1170` and
`1599-1643`: inserts, updates and deletes that make a target equal to a source, in batches. A
statement is its parsed form, with the literals that are written into it. A database reads a literal
as a value of its column; what a statement of values does to a table is stated beside it.
-/

namespace DbxSpec.Compare

open DbxSpec.Base DbxSpec.Grid DbxSpec.Sql

/-! ### Statements -/

/-- `"c" = v AND …`, as `data_compare.rs:1599` writes it. -/
abbrev KeyCondition (L : Type) := List (Text × L)

/-- The statements that are generated, with their literals or with the values they are read as. -/
inductive SyncStatement (L : Type) where
  /-- `INSERT INTO t (columns) [OVERRIDING SYSTEM VALUE] VALUES (…), …;`, between
  `SET IDENTITY_INSERT` if so. -/
  | insert (columns : List Text) (overriding identityInsert : Bool) (rows : List (List L))
  /-- `INSERT INTO t DEFAULT VALUES;`. -/
  | insertDefaultValues
  /-- `SELECT setval(…);`, for a column. -/
  | resetSequence (column : Text)
  /-- `UPDATE t SET c = v, … WHERE key;`. -/
  | update (assignments : List (Text × L)) (key : KeyCondition L)
  /-- `UPDATE t SET c = CASE WHEN key THEN v … ELSE c END, … WHERE (key) OR …;`. -/
  | updateCases (assignments : List (Text × List (KeyCondition L × L)))
      (keys : List (KeyCondition L))
  /-- `DELETE FROM t WHERE (key) OR …;`. -/
  | delete (keys : List (KeyCondition L))

/-! ### Generation -/

/-- `data_compare.rs:26`. -/
def dataSyncInsertBatchSize : Nat := 500

/-- `data_compare.rs:27`. -/
def dataSyncConditionBatchSize : Nat := 200

/-- A column that the database computes, so that a synchronization does not write it. -/
def generatedColumn (columnInfo : List DataGridColumnInfo) (column : Text) : Bool :=
  isNonIdentityGeneratedColumn (columnInfoFor columnInfo column)

/-- `data_compare.rs:1622`, for the value of a cell in a column. -/
def formatGridSqlLiteral {V : Type} (forms : LiteralForms) (view : V → GridValue)
    (databaseType : Option DatabaseType) (columnInfo : List DataGridColumnInfo) (column : Text)
    (value : V) : Text :=
  formatGridSqlLiteralWithSpatial forms (view value) databaseType
    (columnInfoFor columnInfo column) none none

section

variable {V L : Type} (cells : Cells V) (t : CompareColumns)
  (columnInfo : List DataGridColumnInfo) (databaseType : Option DatabaseType)
  (literal : Text → V → L)

/-- `data_compare.rs:1599`. -/
def whereByKey (keyValues : List (Text × V)) : KeyCondition L :=
  t.keyColumns.map fun column =>
    (column, literal column ((keyValues.lookup column).getD cells.null))

/-- The columns that a synchronization writes. -/
def writableColumns : List Text := t.columns.filter (!generatedColumn columnInfo ·)

/-- `data_compare.rs:951`. -/
def generateInsertSyncStatements (added : List (DataCompareRow V)) : List (SyncStatement L) :=
  let writable := writableColumns t columnInfo
  if writable.isEmpty then added.map fun _ => .insertDefaultValues
  else
    let writesIdentity := fun (isIdentity : Option Text → Bool) =>
      writable.any fun column => isIdentity ((columnInfoFor columnInfo column).bind (·.extra))
    let identityInsert := databaseType == some .sqlServer && writesIdentity isIdentityColumnExtra
    let overriding := databaseType == some .postgres &&
      writesIdentity isPostgresGeneratedAlwaysIdentityExtra
    (chunks dataSyncInsertBatchSize added).map fun chunk =>
      .insert writable overriding identityInsert (chunk.map fun row =>
        writable.map fun column => literal column ((row.values.lookup column).getD cells.null))

/-- `data_compare.rs:1026`. -/
def generateSequenceResetStatements (added : List (DataCompareRow V)) : List (SyncStatement L) :=
  if databaseType != some .postgres || added.isEmpty then []
  else (t.columns.filter fun column =>
    isPostgresSequenceBackedColumn (columnInfoFor columnInfo column)).map .resetSequence

variable (row : DataCompareModifiedRow V)

/-- `data_compare.rs:1641`. -/
def hasWritableChanges : Bool :=
  row.changes.any fun change => !generatedColumn columnInfo change.column

/-- `data_compare.rs:1112`. -/
def generateSingleUpdateStatement : SyncStatement L :=
  .update ((row.changes.filter fun change => !generatedColumn columnInfo change.column).map
    fun change => (change.column, literal change.column change.source))
    (whereByKey cells t literal row.keyValues)

/-- The change of a row in a column. -/
def changeOf (column : Text) : Option (DataCompareChangedCell V) :=
  row.changes.find? (·.column == column)

/-- `data_compare.rs:1061-1108`, for one batch. -/
def updateStatements (chunk : List (DataCompareModifiedRow V)) : List (SyncStatement L) :=
  match chunk with
  | [row] => [generateSingleUpdateStatement cells t columnInfo literal row]
  | _ =>
    let changedColumns := (writableColumns t columnInfo).filter fun column =>
      chunk.any fun row => (changeOf row column).isSome
    if changedColumns.isEmpty then []
    else [.updateCases
      (changedColumns.map fun column => (column, chunk.filterMap fun row =>
        (changeOf row column).map fun change =>
          (whereByKey cells t literal row.keyValues, literal column change.source)))
      (chunk.map fun row => whereByKey cells t literal row.keyValues)]

/-- `data_compare.rs:1051`. -/
def generateUpdateSyncStatements (modified : List (DataCompareModifiedRow V)) :
    List (SyncStatement L) :=
  (chunks dataSyncConditionBatchSize (modified.filter (hasWritableChanges columnInfo))).flatMap
    (updateStatements cells t columnInfo literal)

/-- `data_compare.rs:1141`. -/
def generateDeleteSyncStatements (removed : List (DataCompareRow V)) : List (SyncStatement L) :=
  (chunks dataSyncConditionBatchSize removed).map fun chunk =>
    .delete (chunk.map fun row => whereByKey cells t literal row.keyValues)

/-- `data_compare.rs:935`. -/
def generateDataSyncStatements (diff : DataCompareResult V) : List (SyncStatement L) :=
  generateInsertSyncStatements cells t columnInfo databaseType literal diff.added ++
    generateSequenceResetStatements t columnInfo databaseType diff.added ++
    generateUpdateSyncStatements cells t columnInfo literal diff.modified ++
    generateDeleteSyncStatements cells t literal diff.removed

end

/-! ### What the statements do -/

/-- What a database does with a row that is written: a literal is read as a value of its column,
columns that are not written have their defaults, and the generated columns are computed. -/
structure Database (V : Type) (generated : Text → Bool) where
  reads : Text → Text → V
  defaults : Text → V
  complete : (Text → V) → Text → V
  complete_eq : ∀ row column, generated column = false → complete row column = row column

section

variable {V : Type} [DecidableEq V] (cells : Cells V) {generated : Text → Bool}
  (database : Database V generated)

/-- The truth of a condition on a row. -/
def KeyCondition.truth (condition : KeyCondition V) (row : Text → V) : Truth :=
  Truth.all (condition.map fun (column, value) => sqlEq cells.null (row column) value)

/-- A row with some of its columns set. -/
def setColumns (assignments : List (Text × V)) (row : Text → V) : Text → V :=
  fun column => (assignments.lookup column).getD (row column)

/-- `CASE WHEN … THEN … ELSE … END`. -/
def caseValue (cases : List (KeyCondition V × V)) (row : Text → V) (otherwise : V) : V :=
  ((cases.find? fun (condition, _) => condition.truth cells row = some true).map (·.2)).getD
    otherwise

/-- A statement on the rows of a table. -/
def SyncStatement.run : SyncStatement V → List (Text → V) → List (Text → V)
  | .insert columns _ _ rows, table =>
    table ++ rows.map fun values =>
      database.complete (setColumns (columns.zip values) database.defaults)
  | .insertDefaultValues, table => table ++ [database.complete database.defaults]
  | .resetSequence _, table => table
  | .update assignments key, table =>
    updateWhere (key.truth cells) (fun row => database.complete (setColumns assignments row)) table
  | .updateCases assignments keys, table =>
    updateWhere (fun row => Truth.any (keys.map fun key => key.truth cells row))
      (fun row => database.complete fun column =>
        match assignments.lookup column with
        | some cases => caseValue cells cases row (row column)
        | none => row column) table
  | .delete keys, table =>
    deleteWhere (fun row => Truth.any (keys.map fun key => key.truth cells row)) table

/-- Statements of values one after the other. -/
def runAll (statements : List (SyncStatement V)) (table : List (Text → V)) : List (Text → V) :=
  statements.foldl (fun table statement => statement.run cells database table) table

/-- A condition with its literals read. -/
def KeyCondition.read (reads : Text → Text → V) (condition : KeyCondition Text) : KeyCondition V :=
  condition.map fun (column, literal) => (column, reads column literal)

/-- A statement with its literals read. -/
def SyncStatement.read (reads : Text → Text → V) : SyncStatement Text → SyncStatement V
  | .insert columns overriding identityInsert rows =>
    .insert columns overriding identityInsert (rows.map (columns.zipWith reads))
  | .insertDefaultValues => .insertDefaultValues
  | .resetSequence column => .resetSequence column
  | .update assignments key =>
    .update (assignments.map fun (column, literal) => (column, reads column literal))
      (key.read reads)
  | .updateCases assignments keys =>
    .updateCases (assignments.map fun (column, cases) =>
      (column, cases.map fun (key, literal) => (key.read reads, reads column literal)))
      (keys.map (KeyCondition.read reads))
  | .delete keys => .delete (keys.map (KeyCondition.read reads))

/-- Statements as they are written, one after the other. -/
def execute (statements : List (SyncStatement Text)) (table : List (Text → V)) :
    List (Text → V) :=
  runAll cells database (statements.map (SyncStatement.read database.reads)) table

end

end DbxSpec.Compare
