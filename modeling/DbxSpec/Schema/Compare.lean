import DbxSpec.Schema.Types
import DbxSpec.Sql.Lexical

/-!
# Comparing the parts of a table

Columns, indexes, foreign keys and triggers of two tables, as
`crates/dbx-sql-schema/src/schema_diff.rs:3262-4144` compares them, with the texts of the changes
that it reports. Scores and the rename threshold are `f64` in the source, here rationals; the
literal `0.8` is `4 / 5`, and a threshold that is not a number is one that is not positive.
-/

namespace DbxSpec.Schema

open DbxSpec.Base DbxSpec.Sql

/-! ### Dialects -/

/-- `descriptor.rs:5`. -/
inductive DialectKind
  | mysql | postgres | sqlite | duckDb | sqlServer | oracle | h2 | clickHouse | manticoreSearch
  | informix | questdb | soql | unsupported
  deriving DecidableEq, Repr

/-- `descriptor.rs:22`, with the `dialect` entries of `plugins/connection-types/*.yaml`. -/
def DialectKind.fromDatabaseType : DatabaseType → DialectKind
  | .mysql | .doris | .starRocks | .goldendb | .sundb | .databend | .gbase => .mysql
  | .postgres | .gbase8c | .uxdb | .gaussdb | .kwdb | .openGauss | .highgo | .vastbase | .kingbase
  | .firebird | .redshift | .vertica | .exasol => .postgres
  | .sqlite | .cloudflareD1 | .rqlite | .turso => .sqlite
  | .duckDb => .duckDb
  | .sqlServer | .access => .sqlServer
  | .oracle | .dameng | .oceanbaseOracle | .iris | .yashandb | .xugu => .oracle
  | .h2 => .h2
  | .clickHouse => .clickHouse
  | .manticoreSearch => .manticoreSearch
  | .informix | .gbase8s => .informix
  | .questdb => .questdb
  | .salesforce => .soql
  | _ => .unsupported

/-- `schema_diff.rs:2350`. -/
def identifiersEqual (left right : Text) (ignoreCase : Bool) : Bool :=
  if ignoreCase then eqIgnoreAsciiCase left right else left == right

/-! ### Column types -/

/-- `format!` of an integer. -/
def showInt (n : Int) : Text := (toString n).toList

/-- `schema_diff.rs:346`. -/
def withKnownLength (sourceType : Text) (characterMaximumLength : Option Int) : Text :=
  let trimmed := trim sourceType
  if trimmed.contains '(' then trimmed
  else
    let lengthTypes := ["VARCHAR", "CHARACTER VARYING", "NVARCHAR", "CHAR", "CHARACTER", "NCHAR",
      "VARCHAR2", "NVARCHAR2"].map String.toList
    if !(lengthTypes.contains (toAsciiUppercase trimmed)) then trimmed
    else match characterMaximumLength with
      | some len => if len > 0 then trimmed ++ ['('] ++ showInt len ++ [')'] else trimmed
      | none => trimmed

/-- `schema_diff.rs:391`. -/
def numericTypesWithDeclaredPrecision : List Text :=
  ["NUMBER", "NUMERIC", "DECIMAL", "DEC", "FIXED"].map String.toList

/-- `schema_diff.rs:397`. -/
def withKnownNumericPrecision (sourceType : Text) (numericPrecision numericScale : Option Int) :
    Text :=
  let trimmed := trim sourceType
  if trimmed.contains '(' then trimmed
  else
    let base := toAsciiUppercase (trimmed.takeWhile fun ch => ch != ' ' && ch != '(')
    if !(numericTypesWithDeclaredPrecision.contains base) then trimmed
    else match numericPrecision.filter (· > 0) with
      | none => trimmed
      | some precision =>
        match numericScale.filter (· != 0) with
        | some scale => trimmed ++ ['('] ++ showInt precision ++ [','] ++ showInt scale ++ [')']
        | none => trimmed ++ ['('] ++ showInt precision ++ [')']

/-- `schema_diff.rs:423`. -/
def declaredColumnType (column : ColumnInfo) : Text :=
  withKnownNumericPrecision (withKnownLength column.dataType column.characterMaximumLength)
    column.numericPrecision column.numericScale

/-- `schema_diff.rs:3268`. -/
structure MysqlIntegerTypeSignature where
  normalized : Text
  integerKey : Option Text
  width : Option Nat
  deriving DecidableEq, Repr

/-- `schema_diff.rs:3280`. -/
def isMysqlIntegerBase (base : Text) : Bool :=
  (["tinyint", "smallint", "mediumint", "int", "integer", "bigint", "year"].map
    String.toList).contains base

/-- `str::parse::<u32>` of a text of digits. -/
def parseU32 (digits : Text) : Option Nat :=
  let value := digits.foldl (fun value ch => value * 10 + (ch.toNat - '0'.toNat)) 0
  if value < 2 ^ 32 then some value else none

/-- `split_whitespace().collect().join(" ").to_ascii_lowercase()`. -/
def collapseWhitespace (t : Text) : Text :=
  toAsciiLowercase (joinTexts [' '] (splitWhitespace t))

/-- `schema_diff.rs:3278`. -/
def parseMysqlIntegerType (dataType : Text) : MysqlIntegerTypeSignature :=
  let normalized := collapseWhitespace dataType
  let beforeOpen := normalized.takeWhile (· != '(')
  match normalized.drop beforeOpen.length with
  | [] =>
    let base := normalized.takeWhile (· != ' ')
    ⟨normalized, if isMysqlIntegerBase base then some normalized else none, none⟩
  | _ :: afterOpen =>
    let inside := afterOpen.takeWhile (· != ')')
    match afterOpen.drop inside.length with
    | [] => ⟨normalized, none, none⟩
    | _ :: afterClose =>
      let base := trim beforeOpen
      let widthStr := trim inside
      if !isMysqlIntegerBase base || widthStr.isEmpty || !widthStr.all Char.isDigit then
        ⟨normalized, none, none⟩
      else
        let suffix := trim afterClose
        ⟨normalized, some (if suffix.isEmpty then base else base ++ [' '] ++ suffix),
          parseU32 widthStr⟩

/-- `schema_diff.rs:3305`. -/
def normalizePostgresTemporalType (dataType : Text) : Text :=
  let normalized := collapseWhitespace dataType
  let base := normalized.takeWhile fun ch => ch != '(' && ch != ' ' && ch != '['
  if (["timestamp", "timestamptz", "time", "timetz", "interval"].map String.toList).contains base
  then removeFirst "(6)" normalized
  else normalized

/-- `schema_diff.rs:3343-3358`. -/
def mysqlTypesEqual (source target : MysqlIntegerTypeSignature) : Bool :=
  match source.integerKey, target.integerKey with
  | some sourceKey, some targetKey =>
    sourceKey == targetKey &&
      match source.width, target.width with
      | some a, some b => a == b
      | _, _ => true
  | none, none => source.normalized == target.normalized
  | _, _ => false

/-- `schema_diff.rs:3315`. -/
def columnTypesEqualForDialects (sourceType targetType : Text)
    (sourceDialect targetDialect : Option DialectKind) : Bool :=
  let uniqueidentifier := "uniqueidentifier".toList
  let uuid := "uuid".toList
  if eqIgnoreAsciiCase sourceType targetType then true
  else if sourceDialect = some .sqlServer && targetDialect = some .postgres &&
      eqIgnoreAsciiCase sourceType uniqueidentifier && eqIgnoreAsciiCase targetType uuid then true
  else if sourceDialect = some .postgres && targetDialect = some .sqlServer &&
      eqIgnoreAsciiCase sourceType uuid && eqIgnoreAsciiCase targetType uniqueidentifier then true
  else if sourceDialect = some .postgres && targetDialect = some .postgres then
    normalizePostgresTemporalType sourceType == normalizePostgresTemporalType targetType
  else if sourceDialect = some .mysql && targetDialect = some .mysql then
    mysqlTypesEqual (parseMysqlIntegerType sourceType) (parseMysqlIntegerType targetType)
  else false

/-- `schema_diff.rs:3361`. -/
def mysqlCharsetValue (value : Option Text) : Option Text :=
  (value.map trim).filter (!·.isEmpty)

/-- `schema_diff.rs:3365`. -/
def mysqlCharsetValuesDiffer (source target : Option Text) : Bool :=
  match mysqlCharsetValue source, mysqlCharsetValue target with
  | some source, some target => !eqIgnoreAsciiCase source target
  | _, _ => false

/-- The `base_type` of `ColumnType::parse`, `inference.rs:15`. -/
def parseBaseType (typeStr : Text) : Text :=
  let trimmed := trim typeStr
  let baseType :=
    if trimmed.contains '(' && endsWith trimmed [')'] then trim (trimmed.takeWhile (· != '('))
    else trimmed
  trim (replaceText "[]" [] (replaceText " UNSIGNED" []
    (replaceText " unsigned" [] baseType)))

/-- `schema_diff.rs:3378`. -/
def exactTypeMatches : List (Text × Text) :=
  [("int", "integer"), ("integer", "int"), ("float", "real"), ("real", "float"),
    ("double", "double precision"), ("double precision", "double"), ("bool", "boolean"),
    ("boolean", "bool"), ("timestamp", "datetime"), ("datetime", "timestamp"),
    ("uniqueidentifier", "uuid"), ("uuid", "uniqueidentifier")].map
      fun pair => (pair.1.toList, pair.2.toList)

/-- `schema_diff.rs:3395`. -/
def integerFamily : List Text :=
  ["tinyint", "smallint", "mediumint", "int", "integer", "bigint", "serial", "bigserial"].map
    String.toList

/-- `schema_diff.rs:3396`. -/
def textFamily : List Text :=
  ["char", "varchar", "text", "tinytext", "mediumtext", "longtext", "clob", "nclob"].map
    String.toList

/-- `schema_diff.rs:3372`. -/
def columnTypeSimilarityScore (sourceType targetType : Text) : Rat :=
  let s := toAsciiLowercase (parseBaseType sourceType)
  let t := toAsciiLowercase (parseBaseType targetType)
  if s == t then 1
  else if exactTypeMatches.contains (s, t) then 1
  else if integerFamily.contains s && integerFamily.contains t then 4 / 5
  else if textFamily.contains s && textFamily.contains t then 4 / 5
  else 0

/-! ### Columns -/

/-- The arguments of `schema_diff.rs:3489` apart from the columns. -/
structure ColumnCompareOptions where
  ignoreComments : Bool
  compareColumnOrder : Bool
  detectRenames : Bool
  renameThreshold : Rat
  sourceDialect : Option DialectKind
  targetDialect : Option DialectKind
  ignoreColumnNameCase : Bool
  compareCharset : Bool

/-- `schema_diff.rs:3460-3467`: the first target column of that name that is not taken. -/
def matchExactly (target : List ColumnInfo) (state : List (Option Nat) × List Nat)
    (sourceColumn : ColumnInfo) : List (Option Nat) × List Nat :=
  match target.zipIdx.find? fun entry =>
      entry.1.name == sourceColumn.name && !state.2.contains entry.2 with
  | some entry => (state.1 ++ [some entry.2], state.2 ++ [entry.2])
  | none => (state.1 ++ [none], state.2)

/-- `schema_diff.rs:3470-3482`: the only target column that differs in case and is not taken. -/
def matchIgnoringCase (target : List ColumnInfo) (state : List (Option Nat) × List Nat)
    (entry : ColumnInfo × Option Nat) : List (Option Nat) × List Nat :=
  match entry.2 with
  | some matched => (state.1 ++ [some matched], state.2)
  | none =>
    match target.zipIdx.filter fun candidate =>
        !state.2.contains candidate.2 && eqIgnoreAsciiCase candidate.1.name entry.1.name with
    | [candidate] => (state.1 ++ [some candidate.2], state.2 ++ [candidate.2])
    | _ => (state.1 ++ [none], state.2)

/-- `schema_diff.rs:3451`. -/
def resolveColumnMatches (source target : List ColumnInfo) (ignoreColumnNameCase : Bool) :
    List (Option Nat) :=
  let exact := source.foldl (matchExactly target) ([], [])
  if ignoreColumnNameCase then
    ((source.zip exact.1).foldl (matchIgnoringCase target) ([], exact.2)).1
  else exact.1

/-- The text of a change from one value to another. -/
def changeText (label : String) (before after : Text) : Text :=
  label.toList ++ ": " ++ before ++ " → " ++ after

/-- `YES` and `NO`. -/
def yesNo (b : Bool) : Text := if b then "YES" else "NO"

/-- `schema_diff.rs:3509-3567`. -/
def columnChanges (options : ColumnCompareOptions) (canCompareOrder : Bool)
    (sourceIndex targetIndex : Nat) (sourceColumn targetColumn : ColumnInfo) : List Text :=
  let sourceType := declaredColumnType sourceColumn
  let targetType := declaredColumnType targetColumn
  (if columnTypesEqualForDialects sourceType targetType options.sourceDialect
      options.targetDialect then []
    else [changeText "type" targetType sourceType]) ++
  (if sourceColumn.isNullable != targetColumn.isNullable then
    [changeText "nullable" (yesNo targetColumn.isNullable) (yesNo sourceColumn.isNullable)]
    else []) ++
  (if sourceColumn.columnDefault.getD [] != targetColumn.columnDefault.getD [] then
    [changeText "default" (targetColumn.columnDefault.getD "NULL")
      (sourceColumn.columnDefault.getD "NULL")]
    else []) ++
  (if options.compareCharset &&
      mysqlCharsetValuesDiffer sourceColumn.characterSet targetColumn.characterSet then
    [changeText "character set" ((mysqlCharsetValue targetColumn.characterSet).getD [])
      ((mysqlCharsetValue sourceColumn.characterSet).getD [])]
    else []) ++
  (if options.compareCharset &&
      mysqlCharsetValuesDiffer sourceColumn.collation targetColumn.collation then
    [changeText "collation" ((mysqlCharsetValue targetColumn.collation).getD [])
      ((mysqlCharsetValue sourceColumn.collation).getD [])]
    else []) ++
  (if !options.ignoreComments && sourceColumn.comment.getD [] != targetColumn.comment.getD [] then
    [changeText "comment" (targetColumn.comment.getD []) (sourceColumn.comment.getD [])]
    else []) ++
  (if canCompareOrder && sourceIndex != targetIndex then
    [changeText "order" (showInt (targetIndex + 1)) (showInt (sourceIndex + 1))]
    else [])

/-- `schema_diff.rs:3676`. -/
def columnAddPosition (columns : List ColumnInfo) (index : Nat) : ColumnAddPosition :=
  match index with
  | 0 => .first
  | previous + 1 => .after ((columns[previous]?.map (·.name)).getD [])

/-- `schema_diff.rs:3506-3588`: one source column against its match. -/
def diffSourceColumn (options : ColumnCompareOptions) (source target : List ColumnInfo)
    (canCompareOrder : Bool) (entry : (ColumnInfo × Option Nat) × Nat) : Option ColumnDiff :=
  let ((sourceColumn, matched), sourceIndex) := entry
  match matched.bind fun targetIndex => (target[targetIndex]?).map (targetIndex, ·) with
  | some (targetIndex, targetColumn) =>
    let changes := columnChanges options canCompareOrder sourceIndex targetIndex sourceColumn
      targetColumn
    if changes.isEmpty then none
    else some { diffType := .modified, name := sourceColumn.name, source := some sourceColumn,
                target := some targetColumn, changes, addPosition := none }
  | none =>
    some { diffType := .added, name := sourceColumn.name, source := some sourceColumn,
           target := none, changes := [],
           addPosition := some (columnAddPosition source sourceIndex) }

/-- `schema_diff.rs:3590-3601`: a target column that no source column matched. -/
def diffTargetColumn (target : List ColumnInfo) (columnMatches : List (Option Nat))
    (entry : ColumnInfo × Nat) : Option ColumnDiff :=
  if columnMatches.contains (some entry.2) then none
  else some { diffType := .removed, name := entry.1.name, source := none, target := some entry.1,
              changes := [], addPosition := some (columnAddPosition target entry.2) }

/-- `schema_diff.rs:3501-3601`, before renames are looked for. -/
def diffMatchedColumns (options : ColumnCompareOptions) (source target : List ColumnInfo) :
    List ColumnDiff :=
  let columnMatches := resolveColumnMatches source target options.ignoreColumnNameCase
  let canCompareOrder := options.compareColumnOrder && source.length == target.length &&
    columnMatches.all Option.isSome
  ((source.zip columnMatches).zipIdx.filterMap
    (diffSourceColumn options source target canCompareOrder)) ++
  target.zipIdx.filterMap (diffTargetColumn target columnMatches)

variable (renameThreshold : Rat)

/-- `schema_diff.rs:3622-3631`: how well an added column stands for a removed one, if it may. -/
def renameScore (removed added : ColumnInfo) : Option Rat :=
  let typeScore := columnTypeSimilarityScore removed.dataType added.dataType
  if typeScore < renameThreshold then none
  else some (if removed.isNullable == added.isNullable then typeScore * 1 else typeScore * (4 / 5))

variable (diffs : List ColumnDiff)

/-- `schema_diff.rs:3615-3637`: the best added column that is not taken, the first of equals. -/
def bestRename (matchedAdded : List Nat) (removed : ColumnInfo) : Option Nat :=
  ((diffs.zipIdx.filter fun entry =>
      entry.1.diffType = .added && !matchedAdded.contains entry.2).foldl
    (fun best entry =>
      match entry.1.source.bind (renameScore renameThreshold removed) with
      | some score => if best.1 < score then (score, some entry.2) else best
      | none => best) ((0 : Rat), (none : Option Nat))).2

/-- `schema_diff.rs:3604-3644`: the pairs of a removed and an added position. -/
def renamePairs : List (Nat × Nat) :=
  (diffs.zipIdx.filter fun entry => entry.1.diffType = .removed).foldl
    (fun pairs entry =>
      match entry.1.target.bind fun removed =>
          bestRename renameThreshold diffs (pairs.map Prod.snd) removed with
      | some added => pairs ++ [(entry.2, added)]
      | none => pairs) []

/-- `schema_diff.rs:3652-3659`. -/
def renamedColumn (removed added : ColumnDiff) : ColumnDiff :=
  let newName := (added.source.map (·.name)).getD []
  { diffType := .renamed, name := newName, source := added.source, target := removed.target,
    changes := [removed.name ++ " → " ++ newName], addPosition := none }

/-- `schema_diff.rs:3603-3671`. -/
def applyRenames : List ColumnDiff :=
  let pairs := renamePairs renameThreshold diffs
  diffs.zipIdx.filterMap fun entry =>
    if (pairs.map Prod.snd).contains entry.2 then none
    else match pairs.find? fun pair => pair.1 == entry.2 with
      | some pair => (diffs[pair.2]?).map (renamedColumn entry.1)
      | none => some entry.1

/-- `schema_diff.rs:3489`. -/
def diffColumnsWithIdentifierOptions (options : ColumnCompareOptions)
    (source target : List ColumnInfo) : List ColumnDiff :=
  let diffs := diffMatchedColumns options source target
  if options.detectRenames && decide (0 < options.renameThreshold) then
    applyRenames options.renameThreshold diffs
  else diffs

/-! ### Indexes -/

variable (source target : IndexInfo) (ignoreColumnNameCase : Bool)

/-- `schema_diff.rs:3688`. -/
def indexColumnsEqual : Bool :=
  source.columns.length == target.columns.length &&
    (source.columns.zip target.columns).zipIdx.all fun entry =>
      let isExpression := (source.keyIsExpression[entry.2]?).getD false ||
        (target.keyIsExpression[entry.2]?).getD false
      if isExpression then entry.1.1 == entry.1.2
      else identifiersEqual entry.1.1 entry.1.2 ignoreColumnNameCase

/-- `schema_diff.rs:3702`. -/
def identifierListsEqual (left right : List Text) (ignoreColumnNameCase : Bool) : Bool :=
  left.length == right.length &&
    (left.zip right).all fun pair => identifiersEqual pair.1 pair.2 ignoreColumnNameCase

/-- `schema_diff.rs:3712`. -/
def indexNameIsServerGenerated (name : Text) : Bool :=
  let upper := toAsciiUppercase (trim name)
  if "SYS_C".toList.isPrefixOf upper then
    let digits := upper.drop 5
    !digits.isEmpty && digits.all Char.isDigit
  else "SQLITE_AUTOINDEX_".toList.isPrefixOf upper

/-- `schema_diff.rs:3722`. -/
def indexSignaturesEqual : Bool :=
  source.isUnique == target.isUnique && source.indexType == target.indexType &&
    source.filter == target.filter && source.columnOpclasses == target.columnOpclasses &&
    source.keyOptions == target.keyOptions &&
    indexColumnsEqual source target ignoreColumnNameCase &&
    identifierListsEqual (source.includedColumns.getD []) (target.includedColumns.getD [])
      ignoreColumnNameCase

/-- `schema_diff.rs:3754-3769`: the first free target index that is the same one under a name
that a server made up. -/
def serverGeneratedMatch (sourceNames : List Text) (target : List IndexInfo)
    (ignoreColumnNameCase : Bool) (matchedTargets : List Nat) (sourceIndex : IndexInfo) :
    Option Nat :=
  (target.zipIdx.find? fun entry =>
    !(matchedTargets.contains entry.2 || entry.1.isPrimary || sourceNames.contains entry.1.name) &&
    (indexNameIsServerGenerated sourceIndex.name || indexNameIsServerGenerated entry.1.name) &&
    indexSignaturesEqual sourceIndex entry.1 ignoreColumnNameCase).map Prod.snd

/-- `schema_diff.rs:3740`. -/
def matchServerGeneratedIndexes (source target : List IndexInfo) (ignoreColumnNameCase : Bool) :
    List (Option Nat) :=
  let sourceNames := source.map (·.name)
  let targetNames := target.map (·.name)
  (source.foldl (fun (state : List (Option Nat) × List Nat) sourceIndex =>
    if sourceIndex.isPrimary || targetNames.contains sourceIndex.name then
      (state.1 ++ [none], state.2)
    else match serverGeneratedMatch sourceNames target ignoreColumnNameCase state.2 sourceIndex with
      | some position => (state.1 ++ [some position], state.2 ++ [position])
      | none => (state.1 ++ [none], state.2)) ([], [])).1

/-- `….collect::<HashMap<_, _>>().get(name)`: the last entry of that name. -/
def lastNamed {α : Type} (name : α → Text) (items : List α) (key : Text) : Option α :=
  (items.filter fun item => name item = key).getLast?

/-- `fmt_opclass`, `schema_diff.rs:3845`. -/
def showOpclass (opclass : Option Text) : Text :=
  (opclass.filter (!·.isEmpty)).getD "default"

/-- A list of names, or `none`. -/
def showIncluded (columns : List Text) : Text :=
  if columns.isEmpty then "none" else joinTexts ", " columns

/-- `schema_diff.rs:3808-3851`. -/
def indexChanges : List Text :=
  let sourceIncluded := source.includedColumns.getD []
  let targetIncluded := target.includedColumns.getD []
  (if source.isUnique != target.isUnique then
    [changeText "unique" (yesNo target.isUnique) (yesNo source.isUnique)] else []) ++
  (if indexColumnsEqual source target ignoreColumnNameCase then []
    else [changeText "columns" (joinTexts ", " target.columns)
      (joinTexts ", " source.columns)]) ++
  (if source.indexType.getD [] != target.indexType.getD [] then
    [changeText "type" (target.indexType.getD "default")
      (source.indexType.getD "default")] else []) ++
  (if source.filter.getD [] != target.filter.getD [] then
    [changeText "filter" (target.filter.getD "none") (source.filter.getD "none")]
    else []) ++
  (if identifierListsEqual sourceIncluded targetIncluded ignoreColumnNameCase then []
    else [changeText "include" (showIncluded targetIncluded) (showIncluded sourceIncluded)]) ++
  (if source.columnOpclasses != target.columnOpclasses then
    [changeText "opclass" (joinTexts ", " (target.columnOpclasses.map showOpclass))
      (joinTexts ", " (source.columnOpclasses.map showOpclass))] else [])

/-- `schema_diff.rs:3790-3861`: one source index. -/
def diffSourceIndex (target : List IndexInfo) (ignoreColumnNameCase : Bool)
    (entry : IndexInfo × Option Nat) : Option IndexDiff :=
  let (sourceIndex, paired) := entry
  if sourceIndex.isPrimary then none
  else match lastNamed (·.name) target sourceIndex.name with
    | none =>
      if paired.isSome then none
      else some { diffType := .added, name := sourceIndex.name, source := some sourceIndex,
                  target := none, changes := [] }
    | some targetIndex =>
      let changes := indexChanges sourceIndex targetIndex ignoreColumnNameCase
      if changes.isEmpty then none
      else some { diffType := .modified, name := sourceIndex.name, source := some sourceIndex,
                  target := some targetIndex, changes }

/-- `schema_diff.rs:3863-3876`: one target index. -/
def diffTargetIndex (source : List IndexInfo) (pairs : List (Option Nat))
    (entry : IndexInfo × Nat) : Option IndexDiff :=
  if entry.1.isPrimary || pairs.contains (some entry.2) then none
  else match lastNamed (·.name) source entry.1.name with
    | some _ => none
    | none => some { diffType := .removed, name := entry.1.name, source := none,
                     target := some entry.1, changes := [] }

/-- `schema_diff.rs:3779`. -/
def diffIndexesWithOptions (source target : List IndexInfo) (ignoreColumnNameCase : Bool) :
    List IndexDiff :=
  let pairs := matchServerGeneratedIndexes source target ignoreColumnNameCase
  ((source.zip pairs).filterMap (diffSourceIndex target ignoreColumnNameCase)) ++
  target.zipIdx.filterMap (diffTargetIndex source pairs)

/-! ### Foreign keys -/

/-- `schema_diff.rs:104`. -/
def SchemaForeignKeyInfo.columns (foreignKey : SchemaForeignKeyInfo) : List Text :=
  if foreignKey.columnPairs.isEmpty then [foreignKey.column]
  else foreignKey.columnPairs.map Prod.fst

/-- `schema_diff.rs:112`. -/
def SchemaForeignKeyInfo.refColumns (foreignKey : SchemaForeignKeyInfo) : List Text :=
  if foreignKey.columnPairs.isEmpty then [foreignKey.refColumn]
  else foreignKey.columnPairs.map Prod.snd

/-- `schema_diff.rs:127-139`: a row opens a constraint or adds a pair to the one of its name. -/
def addForeignKeyRow (constraints : List SchemaForeignKeyInfo) (row : ForeignKeyInfo) :
    List SchemaForeignKeyInfo :=
  if row.name.isEmpty then constraints ++ [{ row with columnPairs := [] }]
  else if constraints.any fun constraint => constraint.name == row.name then
    constraints.map fun constraint =>
      if constraint.name == row.name then
        { constraint with columnPairs := constraint.columnPairs ++ [(row.column, row.refColumn)] }
      else constraint
  else constraints ++ [{ row with columnPairs := [(row.column, row.refColumn)] }]

/-- `schema_diff.rs:124`. -/
def groupForeignKeys (rows : List ForeignKeyInfo) : List SchemaForeignKeyInfo :=
  (rows.foldl addForeignKeyRow []).map fun constraint =>
    { constraint with
      column := joinTexts ", " constraint.columns
      refColumn := joinTexts ", " constraint.refColumns }

/-- `schema_diff.rs:3881`. -/
def normalizedForeignKeyAction (action : Option Text) : Option Text :=
  (action.map fun value => toAsciiUppercase (joinTexts [' '] (splitWhitespace value))).filter
    (!·.isEmpty)

/-- `schema_diff.rs:3900`. -/
def comparableForeignKeyAction (action : Option Text) (mysqlActions : Bool) : Option Text :=
  let normalized := normalizedForeignKeyAction action
  if !mysqlActions then normalized
  else match normalized with
    | none => some "NO ACTION"
    | some value =>
      if value == "RESTRICT" || value == "NO ACTION" then some "NO ACTION"
      else normalized

/-- The case rules of a foreign key comparison. -/
structure ForeignKeyCompareOptions where
  ignoreTableNameCase : Bool
  ignoreColumnNameCase : Bool
  mysqlActions : Bool

variable (options : ForeignKeyCompareOptions)

/-- `schema_diff.rs:4037`. -/
def foreignKeyChanges (source target : SchemaForeignKeyInfo) : List Text :=
  let sourceOnDelete := comparableForeignKeyAction source.onDelete options.mysqlActions
  let targetOnDelete := comparableForeignKeyAction target.onDelete options.mysqlActions
  let sourceOnUpdate := comparableForeignKeyAction source.onUpdate options.mysqlActions
  let targetOnUpdate := comparableForeignKeyAction target.onUpdate options.mysqlActions
  (if identifierListsEqual source.columns target.columns options.ignoreColumnNameCase then []
    else [changeText "column" target.column source.column]) ++
  (if identifiersEqual source.refTable target.refTable options.ignoreTableNameCase then []
    else [changeText "ref table" target.refTable source.refTable]) ++
  (if source.refSchema != target.refSchema then
    [changeText "ref schema" (target.refSchema.getD []) (source.refSchema.getD [])] else []) ++
  (if identifierListsEqual source.refColumns target.refColumns options.ignoreColumnNameCase then []
    else [changeText "ref column" target.refColumn source.refColumn]) ++
  (if sourceOnDelete != targetOnDelete then
    [changeText "delete" (targetOnDelete.getD []) (sourceOnDelete.getD [])] else []) ++
  (if sourceOnUpdate != targetOnUpdate then
    [changeText "update" (targetOnUpdate.getD []) (sourceOnUpdate.getD [])] else [])

/-- `schema_diff.rs:3978-3996`: the target constraint of a source constraint. -/
def foreignKeyMatch (target : List SchemaForeignKeyInfo)
    (matched : List Nat) (sourceFk : SchemaForeignKeyInfo) : Option (SchemaForeignKeyInfo × Nat) :=
  if sourceFk.name.isEmpty then
    target.zipIdx.find? fun entry =>
      !matched.contains entry.2 && entry.1.name.isEmpty &&
        (foreignKeyChanges options sourceFk entry.1).isEmpty
  else (target.zipIdx.filter fun entry => entry.1.name == sourceFk.name).getLast?

/-- `schema_diff.rs:3977-4020`, one turn of the loop. -/
def diffSourceForeignKey (target : List SchemaForeignKeyInfo)
    (state : List ForeignKeyDiff × List Nat) (sourceFk : SchemaForeignKeyInfo) :
    List ForeignKeyDiff × List Nat :=
  match foreignKeyMatch options target state.2 sourceFk with
  | none =>
    (state.1 ++ [{ diffType := .added, name := sourceFk.name, source := some sourceFk,
                   target := none, changes := [] }], state.2)
  | some (targetFk, index) =>
    let changes := foreignKeyChanges options sourceFk targetFk
    (if changes.isEmpty then state.1
      else state.1 ++ [{ diffType := .modified, name := sourceFk.name, source := some sourceFk,
                         target := some targetFk, changes }], state.2 ++ [index])

/-- `schema_diff.rs:3959`. -/
def diffForeignKeysWithOptions (source target : List ForeignKeyInfo) : List ForeignKeyDiff :=
  let target := groupForeignKeys target
  let compared := (groupForeignKeys source).foldl (diffSourceForeignKey options target) ([], [])
  compared.1 ++ (target.zipIdx.filter fun entry => !compared.2.contains entry.2).map fun entry =>
    { diffType := .removed, name := entry.1.name, source := none, target := some entry.1,
      changes := [] }

/-- `schema_diff.rs:3955`. -/
def diffForeignKeys (source target : List ForeignKeyInfo) : List ForeignKeyDiff :=
  diffForeignKeysWithOptions ⟨false, false, false⟩ source target

/-! ### Triggers -/

/-- `schema_diff.rs:4101-4129`. -/
def diffSourceTrigger (target : List TriggerInfo) (sourceTrigger : TriggerInfo) :
    Option TriggerDiff :=
  match lastNamed (·.name) target sourceTrigger.name with
  | none => some { diffType := .added, name := sourceTrigger.name, source := some sourceTrigger,
                   target := none, changes := [] }
  | some targetTrigger =>
    let changes :=
      (if sourceTrigger.event != targetTrigger.event then
        [changeText "event" targetTrigger.event sourceTrigger.event] else []) ++
      (if sourceTrigger.timing != targetTrigger.timing then
        [changeText "timing" targetTrigger.timing sourceTrigger.timing] else [])
    if changes.isEmpty then none
    else some { diffType := .modified, name := sourceTrigger.name, source := some sourceTrigger,
                target := some targetTrigger, changes }

/-- `schema_diff.rs:4094`. -/
def diffTriggers (source target : List TriggerInfo) : List TriggerDiff :=
  source.filterMap (diffSourceTrigger target) ++
  (target.filter fun targetTrigger => (lastNamed (·.name) source targetTrigger.name).isNone).map
    fun targetTrigger =>
      { diffType := .removed, name := targetTrigger.name, source := none,
        target := some targetTrigger, changes := [] }

end DbxSpec.Schema
