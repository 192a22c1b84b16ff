import DbxSpec.Base.Packing
import DbxSpec.Transfer.InsertTemplate

/-!
# Rows packed into INSERT statements

The packers of `crates/dbx-core/src/data/transfer.rs:6906-7191`: rows are packed greedily by the
lengths that the template predicts, and a statement is built of each batch. A plain insert builds
what the template predicts; skipped duplicates and updates of existing rows append a clause, which
the limits are adjusted for only in the second case.
-/

namespace DbxSpec.Transfer

open DbxSpec.Base DbxSpec.Sql DbxSpec.Grid InsertSqlTemplate

/-! ### Limits -/

/-- `transfer.rs:177`. -/
structure SqlBatchLimits where
  maxRows : Nat
  targetSqlBytes : Nat
  hardSqlBytes : Option Nat
  deriving DecidableEq, Repr

/-- The most rows that a statement for a target may have. -/
def rowCap : DatabaseType → Option Nat
  | .sqlServer => some 1000
  | .oracle | .oceanbaseOracle => some 500
  | .iris => some 1
  | _ => none

namespace SqlBatchLimits

variable (limits : SqlBatchLimits)

/-- The rows of a batch. -/
def effectiveMaxRows (target : DatabaseType) : Nat :=
  match rowCap target with
  | some cap => min (max limits.maxRows 1) cap
  | none => max limits.maxRows 1

/-- The bytes of a batch of several rows. -/
def batchSqlBytes : Nat :=
  match limits.hardSqlBytes with
  | some hard => min (max limits.targetSqlBytes 1) hard
  | none => max limits.targetSqlBytes 1

/-- A row is always let in. -/
theorem effectiveMaxRows_pos (target : DatabaseType) : 1 ≤ limits.effectiveMaxRows target := by
  unfold effectiveMaxRows
  cases target <;> simp only [rowCap] <;> omega

/-- A batch is within the hard limit. -/
theorem batchSqlBytes_le_hard {limits : SqlBatchLimits} {hard : Nat}
    (hhard : limits.hardSqlBytes = some hard) : limits.batchSqlBytes ≤ hard := by
  simp only [batchSqlBytes, hhard]
  omega

/-- A batch is within the target. -/
theorem batchSqlBytes_le_target : limits.batchSqlBytes ≤ max limits.targetSqlBytes 1 := by
  unfold batchSqlBytes
  split <;> omega

end SqlBatchLimits

/-! ### The packers -/

/-- A number in a message. -/
def showNat (n : Nat) : Text := (toString n).toList

/-- The rules of the loops in `transfer.rs:7160-7187` and `transfer.rs:6962-7000`. -/
def rowPacker (template : InsertSqlTemplate) (target : DatabaseType) (limits : SqlBatchLimits) :
    Packer ValueRow Text where
  full batch := decide (limits.effectiveMaxRows target ≤ batch.length)
  refuses row := limits.hardSqlBytes.any
    (· < template.statementBytes (sqlTextBytes target row.text) 1 target)
  refusal index row :=
    "SQL batch row " ++ showNat (index + 1) ++ " requires " ++
      showNat (template.statementBytes (sqlTextBytes target row.text) 1 target) ++
      " bytes and exceeds the " ++ showNat (limits.hardSqlBytes.getD 0) ++
      " byte hard limit"
  joins batch row := decide (template.statementBytes
    (rowsBytes target batch + sqlTextBytes target row.text) (batch.length + 1) target ≤
      limits.batchSqlBytes)

variable (names : TargetNames) (columns : List Text)

/-- `transfer.rs:7123`. -/
def generateInsertSqlBatchesFromValueRows
    (valueRows : List ValueRow) (target : DatabaseType) (limits : SqlBatchLimits)
    (overridesPostgresSystemValues quoteTargetColumnNames : Bool) (identifierQuote : Option Text) :
    Except Text (List (Text × Nat)) :=
  let template := newWithColumnQuoting names columns target
    overridesPostgresSystemValues quoteTargetColumnNames identifierQuote
  (rowPacker template target limits).pack
    (fun batch => .ok (template.build batch, batch.length)) valueRows.length 0 valueRows

/-- `transfer.rs:5709`. -/
def usesMysqlStyleUpsert : DatabaseType → Bool
  | .mysql | .doris | .starRocks | .openGauss => true
  | _ => false

variable (target : DatabaseType)

/-- Targets whose clauses start with `ON CONFLICT`, `transfer.rs:5687` and `transfer.rs:5749`. -/
def usesOnConflict : Bool :=
  (isPostgresTransferDialect target && target != .openGauss) || target == .sqlite ||
    target == .cloudflareD1 || target == .duckDb

/-- `transfer.rs:5713`; the same targets have a statement of their own for skipped duplicates
(`transfer.rs:7002-7013`). -/
def supportsPrimaryKeyUpsert : DatabaseType → Bool
  | .postgres | .kingbase | .sqlite | .cloudflareD1 | .duckDb | .mysql | .doris | .starRocks
  | .openGauss => true
  | _ => false

/-- The clause that makes a statement skip duplicates. -/
def ignoreDuplicatesClause (quoteTargetColumnNames : Bool) : Text :=
  if usesOnConflict target then "\nON CONFLICT DO NOTHING"
  else if usesMysqlStyleUpsert target then
    let firstColumn := (columns.head?.map (names.column none quoteTargetColumnNames)).getD []
    "\nON DUPLICATE KEY UPDATE " ++ firstColumn ++ " = " ++ firstColumn
  else []

/-- What stands before the rows of `transfer.rs:5656`. -/
def ignoreDuplicatesStart (overridesPostgresSystemValues quoteTargetColumnNames : Bool) : Text :=
  "INSERT INTO " ++ names.table none ++ " (" ++
    names.columnList none quoteTargetColumnNames columns ++ ")" ++
    (if overridesPostgresSystemValues && target == .postgres then
      " OVERRIDING SYSTEM VALUE".toList else []) ++ " VALUES\n".toList

variable (valueRows : List ValueRow)

/-- `transfer.rs:5656`. -/
def generateInsertIgnoreDuplicatesFromValueRows (target : DatabaseType)
    (overridesPostgresSystemValues quoteTargetColumnNames : Bool) : Text :=
  if valueRows.isEmpty || columns.isEmpty then []
  else ignoreDuplicatesStart names columns target overridesPostgresSystemValues
      quoteTargetColumnNames ++ joinTexts ",\n" (valueRows.map ValueRow.text) ++
    ignoreDuplicatesClause names columns target quoteTargetColumnNames

/-- The statement of a batch that skips duplicates, `transfer.rs:7002-7026`. -/
def skippingStatement (identifierQuote : Option Text) (batch : List ValueRow) : Text :=
  if supportsPrimaryKeyUpsert target then
    generateInsertIgnoreDuplicatesFromValueRows names columns batch target false true
  else (newWithColumnQuoting names columns target false true
    identifierQuote).build batch

/-- `transfer.rs:6906`. -/
def generateInsertTypedSqlBatchesFromValueRowsWithOptions (target : DatabaseType)
    (limits : SqlBatchLimits) (skipDuplicateRows : Bool) (identifierQuote : Option Text) :
    Except Text (List (Text × Nat)) :=
  if !skipDuplicateRows then
    generateInsertSqlBatchesFromValueRows names columns valueRows target limits false true
      identifierQuote
  else
    let template := newWithColumnQuoting names columns target false true
      identifierQuote
    (rowPacker template target limits).pack
      (fun batch =>
        let sql := skippingStatement names columns target identifierQuote batch
        if sql.isEmpty then .error "Generated empty SQL batch"
        else .ok (sql, batch.length)) valueRows.length 0 valueRows

/-- `transfer.rs:5728`. -/
def primaryKeyUpsertClause (columns pkColumns : List Text)
    (target : DatabaseType) (quoteTargetColumnNames : Bool) : Except Text Text :=
  let nonPkColumns := columns.filter fun column => !pkColumns.any (eqIgnoreAsciiCase column ·)
  let quote := names.column none quoteTargetColumnNames
  if pkColumns.isEmpty then
    .error "Update-existing import requires target primary-key metadata"
  else if pkColumns.any fun key => !columns.any (eqIgnoreAsciiCase · key) then
    .error "Update-existing import requires every target primary-key column to be mapped"
  else if nonPkColumns.isEmpty then
    .error "Update-existing import requires at least one mapped non-primary-key column"
  else if usesOnConflict target then
    .ok ("\nON CONFLICT (" ++ joinTexts ", " (pkColumns.map quote) ++
      ") DO UPDATE SET " ++ joinTexts ", " (nonPkColumns.map fun column =>
        quote column ++ " = EXCLUDED." ++ quote column))
  else if usesMysqlStyleUpsert target then
    .ok ("\nON DUPLICATE KEY UPDATE " ++ joinTexts ", " (nonPkColumns.map fun column =>
      quote column ++ " = VALUES(" ++ quote column ++ ")"))
  else .error ("Update-existing import conflict policy is not supported for " ++
    names.databaseName)

/-- The limits that leave room for a clause. -/
def SqlBatchLimits.withoutClause (limits : SqlBatchLimits) (clauseBytes : Nat) :
    SqlBatchLimits where
  maxRows := limits.maxRows
  targetSqlBytes := max (limits.targetSqlBytes - clauseBytes) 1
  hardSqlBytes := limits.hardSqlBytes.map fun limit => max (limit - clauseBytes) 1

/-- `transfer.rs:7031`. -/
def generatePrimaryKeyUpsertSqlBatchesFromValueRows (target : DatabaseType)
    (limits : SqlBatchLimits) (pkColumns : List Text) : Except Text (List (Text × Nat)) :=
  if !supportsPrimaryKeyUpsert target then
    .error ("Update-existing import conflict policy is not supported for " ++
      names.databaseName)
  else (primaryKeyUpsertClause names columns pkColumns target true).bind fun clause =>
    (generateInsertSqlBatchesFromValueRows names columns valueRows target
      (limits.withoutClause (sqlTextBytes target clause)) false true none).bind fun batches =>
      batches.mapM fun batch =>
        let sql := batch.1 ++ clause
        if limits.hardSqlBytes.any (· < sqlTextBytes target sql) then
          .error ("SQL batch with update-existing conflict handling exceeds the " ++
            showNat (limits.hardSqlBytes.getD 0) ++ " byte hard limit")
        else .ok (sql, batch.2)

/-! ### Batches that are exact and within the limits -/

/-- What an import does with rows that are there already. -/
inductive ConflictPolicy
  | insert
  | skipDuplicates
  | updateExisting (pkColumns : List Text)
  deriving DecidableEq, Repr

/-- The batches of some rows under a policy. -/
def generateBatches
    (limits : SqlBatchLimits) (policy : ConflictPolicy) (identifierQuote : Option Text)
    (valueRows : List ValueRow) : Except Text (List (Text × Nat)) :=
  match policy with
  | .insert => generateInsertTypedSqlBatchesFromValueRowsWithOptions names columns valueRows target
      limits false identifierQuote
  | .skipDuplicates => generateInsertTypedSqlBatchesFromValueRowsWithOptions names columns valueRows
      target limits true identifierQuote
  | .updateExisting pkColumns => generatePrimaryKeyUpsertSqlBatchesFromValueRows names columns
      valueRows target limits pkColumns

/-- The one statement of a batch under a policy. -/
def batchStatement
    (policy : ConflictPolicy) (identifierQuote : Option Text) (batch : List ValueRow) : Text :=
  match policy with
  | .insert => (newWithColumnQuoting names columns target false true
      identifierQuote).build batch
  | .skipDuplicates => skippingStatement names columns target identifierQuote batch
  | .updateExisting pkColumns =>
    (newWithColumnQuoting names columns target false true none).build batch ++
      ((primaryKeyUpsertClause names columns pkColumns target true).toOption).getD []

/-- What stands around the tuples of a statement, and whether they stand there without their
parentheses. -/
structure StatementFrame where
  start : Text
  separator : Text
  finish : Text
  bare : Bool

/-- The statement with the tuples of some rows in their order. -/
def StatementFrame.fill (frame : StatementFrame) (rows : List ValueRow) : Text :=
  frame.start ++ joinTexts frame.separator
    (rows.map fun row => if frame.bare then row.values else row.text) ++ frame.finish

/-- Statements are those of some parts of the rows: the parts are the rows in their order, a
statement has the tuples of its part in their order and is otherwise fixed by how many there are,
and each statement keeps the limits. -/
structure Batched (statement : List ValueRow → Text) (target : DatabaseType)
    (limits : SqlBatchLimits) (valueRows : List ValueRow) (statements : List (Text × Nat))
    (parts : List (List ValueRow)) : Prop where
  order : parts.flatten = valueRows
  built : statements = parts.map fun part => (statement part, part.length)
  tuples : ∃ frame : Nat → StatementFrame, ∀ part ∈ parts,
    statement part = (frame part.length).fill part
  counts : (statements.map Prod.snd).sum = valueRows.length
  rowLimit : ∀ part ∈ parts, 1 ≤ part.length ∧ part.length ≤ limits.effectiveMaxRows target
  hardLimit : ∀ part ∈ parts, ∀ hard, limits.hardSqlBytes = some hard →
    sqlTextBytes target (statement part) ≤ hard
  targetLimit : ∀ part ∈ parts, 2 ≤ part.length →
    sqlTextBytes target (statement part) ≤ limits.targetSqlBytes

/-- A row alone is over the hard limit. -/
def RowOverHard (names : TargetNames) (columns : List Text) (target : DatabaseType)
    (limits : SqlBatchLimits) (policy : ConflictPolicy) (identifierQuote : Option Text)
    (row : ValueRow) : Prop :=
  ∃ hard, limits.hardSqlBytes = some hard ∧
    hard < sqlTextBytes target (batchStatement names columns target policy identifierQuote [row])

/-- The batches of some rows are exact and within the limits, a failure means that a row alone is
over the hard limit, and the lengths are as predicted. -/
structure RespectsLimits (names : TargetNames) (columns : List Text) (target : DatabaseType)
    (limits : SqlBatchLimits) (policy : ConflictPolicy) (identifierQuote : Option Text)
    (valueRows : List ValueRow) : Prop where
  ok : ∀ statements,
    generateBatches names columns target limits policy identifierQuote valueRows = .ok statements →
    ∃ parts, Batched (batchStatement names columns target policy identifierQuote) target limits
      valueRows statements parts
  error : ∀ e,
    generateBatches names columns target limits policy identifierQuote valueRows = .error e →
    ∃ row ∈ valueRows, RowOverHard names columns target limits policy identifierQuote row
  predicted : ∀ part, part ≠ [] →
    (newWithColumnQuoting names columns target false true
      identifierQuote).statementBytes (rowsBytes target part) part.length target =
    sqlTextBytes target ((newWithColumnQuoting names columns target false true
      identifierQuote).build part)

end DbxSpec.Transfer
