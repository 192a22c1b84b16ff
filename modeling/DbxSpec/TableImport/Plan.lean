import DbxSpec.Transfer.InsertConflicts

/-!
# The statements of a table import

`build_import_execution_batches` of `crates/dbx-core/src/data/table_import.rs:5216` and what it is
made of: the plan that maps source columns to target columns, the values of a row, and the builder
of Cloudflare D1 (`crates/dbx-core/src/data/cloudflare_d1/import.rs:17`). How values are normalized
is a parameter. So is what is generated for a row; it may differ from one attempt to the next, and
the attempts are told apart by the statements that were sent before.
-/

namespace DbxSpec.TableImport

open DbxSpec.Base DbxSpec.Sql DbxSpec.Transfer

/-- The values of a row of the source. -/
abbrev Row := List Json

/-- Rows with the sequence numbers that they have after an offset. -/
def numbered (startRowOffset : Nat) (rows : List Row) : List (Nat × Row) :=
  rows.mapIdx fun index row => (startRowOffset + index + 1, row)

/-! ### Plans -/

/-- `table_import.rs:115`. -/
inductive TableImportGenerator
  | uuid
  | uuidSimple
  | currentTimestamp
  | currentDate
  | sequence
  deriving DecidableEq, Repr

/-- `table_import.rs:128`. -/
def TableImportGenerator.parse (raw : Text) : Option TableImportGenerator :=
  let trimmed := (toAsciiLowercase (trim raw)).map fun ch => if ch == '-' then '_' else ch
  if isOneOf ["uuid", "uuid_v4"] trimmed then some .uuid
  else if isOneOf ["uuid_simple", "uuidnohyphens", "uuid_no_hyphens", "uuid32", "uuid_32"] trimmed
    then some .uuidSimple
  else if isOneOf ["current_timestamp", "currenttimestamp", "now", "datetime"] trimmed then
    some .currentTimestamp
  else if isOneOf ["current_date", "currentdate", "today", "date"] trimmed then some .currentDate
  else if isOneOf ["sequence", "autoincrement", "auto_increment"] trimmed then some .sequence
  else none

/-- `table_import.rs:204`, without the type that only previews read. -/
structure TableImportColumnMapping where
  sourceColumn : Text
  targetColumn : Text
  generator : Option Text
  deriving DecidableEq, Repr

/-- `table_import.rs:154`. -/
inductive ImportColumnSource
  | sourceIndex (index : Nat)
  | generator (generator : TableImportGenerator)
  deriving DecidableEq, Repr

/-- `table_import.rs:160`. -/
structure CompiledImportPlan where
  columnSources : List ImportColumnSource
  targetColumns : List Text
  columnTypes : List (Option Text)
  deriving DecidableEq, Repr

/-- The loop of `table_import.rs:4918`, with the targets that were seen. -/
def mappingIndexesLoop (columns : List Text) (targetSeen : List Text) :
    List TableImportColumnMapping → Except Text (List (Option Nat × TableImportColumnMapping))
  | [] => .ok []
  | mapping :: mappings =>
    let sourceIndex := columns.findIdx? (· == mapping.sourceColumn)
    if (mapping.generator.bind TableImportGenerator.parse).isNone && sourceIndex.isNone then
      .error ("Source column not found: " ++ mapping.sourceColumn)
    else if (trim mapping.targetColumn).isEmpty then
      .error "Target column cannot be empty"
    else if targetSeen.contains mapping.targetColumn then
      .error ("Target column mapped more than once: " ++ mapping.targetColumn)
    else (mappingIndexesLoop columns (mapping.targetColumn :: targetSeen) mappings).map
      ((sourceIndex, mapping) :: ·)

/-- `table_import.rs:4918`. -/
def mappingIndexesWithMappings (columns : List Text) (mappings : List TableImportColumnMapping) :
    Except Text (List (Option Nat × TableImportColumnMapping)) :=
  if mappings.isEmpty then .error "No columns mapped for import"
  else mappingIndexesLoop columns [] mappings

/-- The type of a target column. -/
def targetColumnType (targetColumnTypes : List (Text × Text)) (column : Text) : Option Text :=
  (targetColumnTypes.find? fun entry => eqIgnoreAsciiCase entry.1 column).map Prod.snd

/-- The source of a mapped column. -/
def columnSource (sourceIndex : Option Nat) (mapping : TableImportColumnMapping) :
    Except Text ImportColumnSource :=
  match mapping.generator.bind TableImportGenerator.parse, sourceIndex with
  | some generator, _ => .ok (.generator generator)
  | none, some index => .ok (.sourceIndex index)
  | none, none => .error ("Source column not found: " ++ mapping.sourceColumn)

/-- `table_import.rs:4944`. -/
def compileImportPlan (columns : List Text) (mappings : List TableImportColumnMapping)
    (targetColumnTypes : List (Text × Text)) : Except Text CompiledImportPlan :=
  (mappingIndexesWithMappings columns mappings).bind fun mapped =>
    (mapped.mapM fun entry => columnSource entry.1 entry.2).map fun columnSources =>
      let targetColumns := mapped.map fun entry => entry.2.targetColumn
      ⟨columnSources, targetColumns, targetColumns.map (targetColumnType targetColumnTypes)⟩

/-! ### Values -/

/-- The key and the value of `table_import.rs:1995`. -/
def sqlImportIsCurrentTimestampValue : Json → Bool
  | .object [(key, .string value)] =>
    key == "$dbxSqlImportExpression" && value == "currentTimestamp"
  | _ => false

/-- `table_import.rs:2017`. -/
def sqlImportCurrentTimestampSql (target : DatabaseType) : Text :=
  if target == .clickHouse then "now()" else "CURRENT_TIMESTAMP"

/-- Where rows are imported to. -/
structure ImportTarget where
  names : TargetNames
  dbType : DatabaseType
  identifierQuote : Option Text
  hardSqlBytes : Option Nat
  forms : TransferForms
  /-- `table_import.rs:5372`, for the options of the import. -/
  normalizeImportValue : Option Text → Json → Json
  /-- What is generated for a column of a row after some statements were sent. -/
  generated : List Text → Nat → Nat → TableImportGenerator → Text

section Values

variable (t : ImportTarget) (sent : List Text)

/-- The value of a column in `table_import.rs:5126`. -/
def importValueSql (dataType : Option Text) (rowSequence index : Nat) (row : Row) :
    ImportColumnSource → Text
  | .sourceIndex sourceIndex =>
    let sourceValue := (row[sourceIndex]?).getD .null
    if sqlImportIsCurrentTimestampValue sourceValue then sqlImportCurrentTimestampSql t.dbType
    else escapeValueTyped t.forms t.dbType dataType (t.normalizeImportValue dataType sourceValue)
  | .generator .currentTimestamp => sqlImportCurrentTimestampSql t.dbType
  | .generator .sequence => showNat rowSequence
  | .generator generator => escapeValueTyped t.forms t.dbType dataType
      (.string (t.generated sent rowSequence index generator))

/-- A row of `table_import.rs:5126`. -/
def importValueRow (plan : CompiledImportPlan) (item : Nat × Row) : ValueRow :=
  ⟨joinTexts ", " (plan.columnSources.mapIdx fun index source =>
    importValueSql t sent (plan.columnTypes[index]?).join item.1 index item.2 source)⟩

/-- `table_import.rs:5126`. -/
def importValueRowsSql (plan : CompiledImportPlan) (startRowOffset : Nat) (rows : List Row) :
    List ValueRow :=
  (numbered startRowOffset rows).map (importValueRow t sent plan)

end Values

/-! ### Batches -/

/-- `transfer.rs:184`. -/
def forDatabase (target : DatabaseType) (requestedMaxRows : Nat) : SqlBatchLimits where
  maxRows :=
    match rowCap target, target with
    | some cap, _ => min (max requestedMaxRows 1) cap
    | none, .transwarp => min (max requestedMaxRows 1) 100
    | none, _ => max requestedMaxRows 1
  targetSqlBytes := if target == .cloudflareD1 then 100000 else 90 * 1024 * 1024
  hardSqlBytes := none

/-- `table_import.rs:108`. -/
structure ImportSqlBatch where
  sql : Text
  rowCount : Nat
  deriving DecidableEq, Repr

/-- `table_import.rs:5076`. -/
def buildImportInsertBatchesWithPlanAndIdentifierQuote (t : ImportTarget)
    (plan : CompiledImportPlan) (policy : ConflictPolicy) (sent : List Text)
    (startRowOffset : Nat) (rows : List Row) : Except Text (List ImportSqlBatch) :=
  if rows.isEmpty then .ok []
  else
    let limits := { forDatabase t.dbType rows.length with hardSqlBytes := t.hardSqlBytes }
    (generateBatches t.names plan.targetColumns t.dbType limits policy t.identifierQuote
      (importValueRowsSql t sent plan startRowOffset rows)).map
        (·.map fun batch => ⟨batch.1, batch.2⟩)

/-! ### Batches of Cloudflare D1 -/

/-- `sql_limits.rs:3`. -/
def maxSqlStatementBytes : Nat := 100000

section D1

variable {α : Type}

/-- The inner loop of `sql_limits.rs:11`: the items of a batch, and those that are left. -/
def extendSqlBatch (render : List α → Text) (maxItems : Nat) : List α → List α → List α × List α
  | batch, [] => (batch, [])
  | batch, item :: items =>
    if maxItems ≤ batch.length then (batch, item :: items)
    else if maxSqlStatementBytes < utf8Len (render (batch ++ [item])) then (batch, item :: items)
    else extendSqlBatch render maxItems (batch ++ [item]) items

/-- `sql_limits.rs:11`, from an item on. The first argument bounds the batches. -/
def buildSqlBatchesLoop (itemLabel : Text) (render : List α → Text) (maxItems : Nat) :
    Nat → Nat → List α → Except Text (List (Text × Nat))
  | _, _, [] => .ok []
  | 0, _, _ :: _ => .ok []
  | fuel + 1, start, item :: items =>
    if maxSqlStatementBytes < utf8Len (render [item]) then
      .error ("Cloudflare D1 " ++ itemLabel ++ " " ++ showNat (start + 1) ++
        " generates a " ++ showNat (utf8Len (render [item])) ++
        "-byte SQL statement; the maximum is " ++ showNat maxSqlStatementBytes ++
        " bytes. Reduce the value size because a single item cannot be split safely.")
    else
      let extended := extendSqlBatch render maxItems [item] items
      let sql := render extended.1
      (buildSqlBatchesLoop itemLabel render maxItems fuel (start + extended.1.length)
        extended.2).map fun later =>
          if (trim sql).isEmpty then later else (sql, extended.1.length) :: later

/-- `sql_limits.rs:11`. -/
def buildSqlBatches (itemLabel : Text) (render : List α → Text) (maxItems : Nat) (items : List α) :
    Except Text (List (Text × Nat)) :=
  buildSqlBatchesLoop itemLabel render (max maxItems 1) items.length 0 items

end D1

/-- `cloudflare_d1/import.rs:15`. -/
def d1CurrentTimestampToken : Text := '\x01' :: "dbx_current_timestamp" ++ ['\x01']

/-- A text of the source that cannot be told from the token. -/
def holdsToken : Json → Bool
  | .string text => containsText text d1CurrentTimestampToken
  | _ => false

/-- The value of a column in `cloudflare_d1/import.rs:44`. -/
def d1Value (t : ImportTarget) (sent : List Text) (item : Nat × Row) (index : Nat)
    (mapped : Option Nat × TableImportColumnMapping) : Json :=
  match mapped.2.generator.bind TableImportGenerator.parse with
  | some .currentTimestamp => .string d1CurrentTimestampToken
  | some .sequence => .number (showNat item.1)
  | some generator => .string (t.generated sent item.1 index generator)
  | none =>
    let value := (mapped.1.bind fun index => item.2[index]?).getD .null
    if sqlImportIsCurrentTimestampValue value then .string d1CurrentTimestampToken else value

/-- The columns of an import, as they are mapped. -/
structure ImportColumns where
  /-- The plan, if the import has one. -/
  plan : Option CompiledImportPlan
  columns : List Text
  mappings : List TableImportColumnMapping
  targetColumnTypes : List (Text × Text)

/-- The statement that `cloudflare_d1/import.rs:73` renders, before the token is replaced. -/
def d1Render (t : ImportTarget) (c : ImportColumns) (sent : List Text)
    (mapped : List (Option Nat × TableImportColumnMapping)) (items : List (Nat × Row)) : Text :=
  let columns := mapped.map fun entry => entry.2.targetColumn
  (templateFor t.names columns .cloudflareD1 none).build
    (valueRowsSql t.forms .cloudflareD1 (columns.map (targetColumnType c.targetColumnTypes))
      (items.map fun item => mapped.mapIdx (d1Value t sent item)))

/-- The token becomes the keyword. -/
def d1Statement (sql : Text) : Text :=
  replaceText ('\'' :: d1CurrentTimestampToken ++ ['\'']) "CURRENT_TIMESTAMP" sql

/-- `cloudflare_d1/import.rs:17`. -/
def d1BuildImportInsertBatches (t : ImportTarget) (c : ImportColumns) (maxRows : Nat)
    (sent : List Text) (startRowOffset : Nat) (rows : List Row) :
    Except Text (List ImportSqlBatch) :=
  (mappingIndexesWithMappings c.columns c.mappings).bind fun mapped =>
    if rows.any (·.any holdsToken) then
      .error "import data contains a reserved expression token"
    else
      (buildSqlBatches "import row" (d1Render t c sent mapped) maxRows
        (numbered startRowOffset rows)).map
          (·.map fun batch => ⟨d1Statement batch.1, batch.2⟩)

/-- `table_import.rs:5216`. -/
def buildImportExecutionBatches (t : ImportTarget) (c : ImportColumns) (policy : ConflictPolicy)
    (sent : List Text) (startRowOffset : Nat) (rows : List Row) :
    Except Text (List ImportSqlBatch) :=
  match c.plan with
  | some plan => buildImportInsertBatchesWithPlanAndIdentifierQuote t plan policy sent
      startRowOffset rows
  | none =>
    if t.dbType == .cloudflareD1 && policy matches .insert | .skipDuplicates then
      d1BuildImportInsertBatches t c (max rows.length 1) sent startRowOffset rows
    else (compileImportPlan c.columns c.mappings c.targetColumnTypes).bind fun plan =>
      buildImportInsertBatchesWithPlanAndIdentifierQuote t plan policy sent startRowOffset rows

end DbxSpec.TableImport
