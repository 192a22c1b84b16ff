import DbxSpec.Schema.Compare

/-!
# Comparing two schemas, whole and in shards

`diff_schema` (`crates/dbx-sql-schema/src/schema_diff.rs:2449-2798`) pairs the tables and views of
two sides by name and compares each pair; `shard_diff` (`schema_diff.rs:1671-1784`) runs it on
parts of the source and merges the results. Reading a statement's text is a parameter
(`DdlReaders`), and so is the order in which a hash map gives back its entries (`HashOrder`).
-/

namespace DbxSpec.Schema

open DbxSpec.Base DbxSpec.Sql

/-! ### Options -/

/-- `types.rs:154`, without `valid` and `parent_name`. -/
structure TableInfo where
  name : Text
  tableType : Text
  comment : Option Text := none
  parentSchema : Option Text := none
  deriving DecidableEq, Repr

/-- `schema_diff.rs:269`. -/
structure TableSchemaDetail where
  name : Text
  columns : List ColumnInfo := []
  indexes : List IndexInfo := []
  foreignKeys : List ForeignKeyInfo := []
  triggers : List TriggerInfo := []
  ddl : Option Text := none
  deriving DecidableEq, Repr

/-- `schema_diff.rs:497`. -/
structure SchemaDiffTableMapping where
  sourceTable : Text
  targetTable : Text
  deriving DecidableEq, Repr

/-- `schema_diff.rs:504`, the fields that `diff_schema` reads, with the values of
`Default`, `schema_diff.rs:2018`. -/
structure SchemaDiffPreparationOptions where
  sourceTables : List TableInfo := []
  targetTables : List TableInfo := []
  sourceDetails : List TableSchemaDetail := []
  targetDetails : List TableSchemaDetail := []
  databaseType : DatabaseType := .sqlite
  ignoreComments : Bool := false
  compareColumnOrder : Bool := false
  compareCharset : Bool := true
  ignoreTableNameCase : Bool := false
  ignoreColumnNameCase : Bool := false
  detectRenames : Bool := false
  renameThreshold : Rat := 1 / 2
  sourceDialect : Option DialectKind := none
  targetDialect : Option DialectKind := none
  tableMappings : List SchemaDiffTableMapping := []

/-- What a comparison reads off the text of a definition: `table_defaults` (`mysql_charset.rs:35`)
and the normal forms of a view, `schema_diff.rs:2848-3260`. -/
structure DdlReaders where
  tableDefaults : Text → Option MysqlTableCharset
  normalizeMysqlViewDdl : Text → Text
  oracleViewSchemas : Text → Text → List Text
  normalizeOracleViewDdlWithSchemas : Text → List Text → Text

/-- The order in which a `HashMap` of those entries is iterated. -/
structure HashOrder where
  iterate : List (Text × List Text) → List (Text × List Text)
  iterate_perm : ∀ entries, (iterate entries).Perm entries

/-- `table_type.contains("VIEW")`. -/
def TableInfo.isView (table : TableInfo) : Bool := containsText table.tableType "VIEW"

/-- The names of the tables, or of the views, in order. -/
def namesOfKind (tables : List TableInfo) (isView : Bool) : List Text :=
  (tables.filter fun table => table.isView == isView).map (·.name)

/-! ### Pairing names -/

/-- `explicit_by_source`, `schema_diff.rs:2365-2370`: the first usable mapping of a source. -/
def explicitTarget (mappings : List SchemaDiffTableMapping) (sourceName : Text) : Option Text :=
  (mappings.find? fun mapping => !mapping.sourceTable.isEmpty && !mapping.targetTable.isEmpty &&
    mapping.sourceTable == sourceName).map (·.targetTable)

/-- `resolved_targets_by_source`; its targets are `used_targets`. -/
abbrev ResolvedTargets := List (Text × Text)

/-- `used_targets.contains`. -/
def ResolvedTargets.uses (resolved : ResolvedTargets) (targetName : Text) : Bool :=
  (resolved.map Prod.snd).contains targetName

/-- `resolved_targets_by_source.get`. -/
def ResolvedTargets.target (resolved : ResolvedTargets) (sourceName : Text) : Option Text :=
  (resolved.find? fun entry => entry.1 == sourceName).map Prod.snd

variable (targetNames : List Text)

/-- `schema_diff.rs:2376-2381`. -/
def resolveExplicit (mappings : List SchemaDiffTableMapping)
    (resolved : ResolvedTargets) (sourceName : Text) : ResolvedTargets :=
  match explicitTarget mappings sourceName with
  | none => resolved
  | some targetName =>
    if targetNames.contains targetName && !resolved.uses targetName then
      resolved ++ [(sourceName, targetName)]
    else resolved

/-- `schema_diff.rs:2388-2395`. -/
def resolveExact (resolved : ResolvedTargets) (sourceName : Text) : ResolvedTargets :=
  if (resolved.target sourceName).isSome then resolved
  else if targetNames.contains sourceName && !resolved.uses sourceName then
    resolved ++ [(sourceName, sourceName)]
  else resolved

/-- `schema_diff.rs:2398-2410`. -/
def resolveIgnoringCase (resolved : ResolvedTargets) (sourceName : Text) : ResolvedTargets :=
  if (resolved.target sourceName).isSome then resolved
  else match targetNames.filter fun targetName =>
      !resolved.uses targetName && identifiersEqual sourceName targetName true with
    | [targetName] => resolved ++ [(sourceName, targetName)]
    | _ => resolved

/-- `schema_diff.rs:2364-2411`. -/
def resolvedTargets (sourceNames targetNames : List Text)
    (mappings : List SchemaDiffTableMapping) (ignoreTableNameCase : Bool) : ResolvedTargets :=
  let explicit := sourceNames.foldl (resolveExplicit targetNames mappings) []
  let exact := sourceNames.foldl (resolveExact targetNames) explicit
  if ignoreTableNameCase then sourceNames.foldl (resolveIgnoringCase targetNames) exact else exact

/-- `schema_diff.rs:2344`. -/
structure SchemaDiffTableNameResolution where
  pairs : List (Text × Text)
  sourceOnly : List Text
  targetOnly : List Text
  deriving DecidableEq, Repr

/-- `schema_diff.rs:2358`. -/
def resolveSchemaDiffTableNames (sourceNames targetNames : List Text)
    (mappings : List SchemaDiffTableMapping) (ignoreTableNameCase : Bool) :
    SchemaDiffTableNameResolution :=
  let resolved := resolvedTargets sourceNames targetNames mappings ignoreTableNameCase
  { pairs := sourceNames.filterMap fun name => (resolved.target name).map (name, ·)
    sourceOnly := sourceNames.filter fun name => (resolved.target name).isNone
    targetOnly := targetNames.filter fun name => !resolved.uses name }

namespace SchemaDiffPreparationOptions

variable (options : SchemaDiffPreparationOptions)

/-- `table_resolution` and `view_resolution`, `schema_diff.rs:2484-2495`. -/
def resolution (isView : Bool) : SchemaDiffTableNameResolution :=
  resolveSchemaDiffTableNames (namesOfKind options.sourceTables isView)
    (namesOfKind options.targetTables isView) options.tableMappings options.ignoreTableNameCase

/-- The dialects of both sides are MySQL, `schema_diff.rs:2443-2446`. -/
def mysqlForeignKeyActions : Bool :=
  let targetDialect :=
    options.targetDialect.getD (DialectKind.fromDatabaseType options.databaseType)
  let sourceDialect := options.sourceDialect.getD targetDialect
  sourceDialect = .mysql && targetDialect = .mysql

/-- `schema_diff.rs:2427`. -/
def compareMysqlColumnCharset : Bool :=
  options.compareCharset && (options.databaseType = .mysql || options.databaseType = .goldendb) &&
    options.mysqlForeignKeyActions

variable (name : Text)

/-- `source_details.get`. -/
def sourceDetail : Option TableSchemaDetail :=
  lastNamed (·.name) options.sourceDetails name

/-- `target_details.get`. -/
def targetDetail : Option TableSchemaDetail :=
  lastNamed (·.name) options.targetDetails name

/-- `source_table_comments.get`. -/
def sourceTableComment : Option (Option Text) :=
  (lastNamed (·.name) options.sourceTables name).map (·.comment)

/-- `target_table_comments.get`. -/
def targetTableComment : Option (Option Text) :=
  (lastNamed (·.name) options.targetTables name).map (·.comment)

/-! ### Foreign keys -/

/-- `schema_diff.rs:3911`. -/
def normalizeSelfReferencingFk (ownTableNames : List Text) (fk : ForeignKeyInfo) :
    ForeignKeyInfo :=
  if fk.refSchema.isSome && ownTableNames.any fun tableName =>
      identifiersEqual tableName fk.refTable options.ignoreTableNameCase then
    { fk with refSchema := none }
  else fk

/-- `mapped_target`, `schema_diff.rs:3934-3947`. -/
def mappedTarget (refTable : Text) : Option Text :=
  ((options.tableMappings.find? fun mapping => mapping.sourceTable == refTable &&
      (namesOfKind options.targetTables false).contains mapping.targetTable).map
        (·.targetTable)).or
    (((options.resolution false).pairs.find? fun pair =>
      identifiersEqual pair.1 refTable options.ignoreTableNameCase).map Prod.snd)

/-- `schema_diff.rs:3925`. -/
def normalizeMappedForeignKey (fk : ForeignKeyInfo) : ForeignKeyInfo :=
  let normalized :=
    options.normalizeSelfReferencingFk (namesOfKind options.sourceTables false) fk
  match options.mappedTarget normalized.refTable with
  | some mappedTarget => { normalized with refTable := mappedTarget, refSchema := none }
  | none => normalized

/-! ### The differences of one object -/

/-- `schema_diff.rs:2510-2588`. -/
def addedTable : TableDiff :=
  let detail := options.sourceDetail name
  { diffType := .added
    objectType := some .table
    name
    ddl := detail.bind (·.ddl)
    columns := detail.map fun detail => detail.columns.zipIdx.map fun entry =>
      { diffType := .added, name := entry.1.name, source := some entry.1, target := none,
        changes := [], addPosition := some (columnAddPosition detail.columns entry.2) }
    indexes := detail.map fun detail => detail.indexes.map fun index =>
      { diffType := .added, name := index.name, source := some index, target := none,
        changes := [] }
    foreignKeys := detail.map fun detail =>
      diffForeignKeys (detail.foreignKeys.map options.normalizeMappedForeignKey) []
    triggers := detail.bind fun detail =>
      if detail.triggers.isEmpty then none
      else some (detail.triggers.map fun trigger =>
        { diffType := .added, name := trigger.name, source := some trigger, target := none,
          changes := [] }) }

/-- `schema_diff.rs:2590-2647`. -/
def removedTable : TableDiff :=
  let detail := options.targetDetail name
  { diffType := .removed
    objectType := some .table
    name
    columns := detail.map fun detail => detail.columns.zipIdx.map fun entry =>
      { diffType := .removed, name := entry.1.name, source := none, target := some entry.1,
        changes := [], addPosition := some (columnAddPosition detail.columns entry.2) }
    indexes := detail.map fun detail => detail.indexes.map fun index =>
      { diffType := .removed, name := index.name, source := none, target := some index,
        changes := [] }
    foreignKeys := detail.map fun detail => diffForeignKeys [] detail.foreignKeys
    triggers := detail.map fun detail => detail.triggers.map fun trigger =>
      { diffType := .removed, name := trigger.name, source := none, target := some trigger,
        changes := [] }
    targetDdl := detail.bind (·.ddl)
    targetTableComment := options.targetTableComment name }

/-- `schema_diff.rs:2649-2667`. -/
def addedView : TableDiff :=
  { diffType := .added, objectType := some .view, name,
    ddl := (options.sourceDetail name).bind (·.ddl) }

/-- `schema_diff.rs:2669-2687`. -/
def removedView : TableDiff :=
  { diffType := .removed, objectType := some .view, name,
    targetDdl := (options.targetDetail name).bind (·.ddl) }

variable (readers : DdlReaders)

/-- `schema_diff.rs:2815`. -/
def viewDefinitionsDiffer (sourceDdl targetDdl : Text) : Bool :=
  if options.sourceDialect ≠ options.targetDialect then false
  else match options.sourceDialect with
    | some .mysql =>
      readers.normalizeMysqlViewDdl sourceDdl != readers.normalizeMysqlViewDdl targetDdl
    | some .oracle =>
      let schemas := readers.oracleViewSchemas sourceDdl targetDdl
      readers.normalizeOracleViewDdlWithSchemas sourceDdl schemas !=
        readers.normalizeOracleViewDdlWithSchemas targetDdl schemas
    | _ => false

variable (pair : Text × Text)

/-- `(name != target_name).then_some(target_name)`. -/
def otherName : Option Text :=
  if pair.1 != pair.2 then some pair.2 else none

/-- `schema_diff.rs:2689-2716`. -/
def comparedView : Option TableDiff :=
  match (options.sourceDetail pair.1).bind (·.ddl), (options.targetDetail pair.2).bind (·.ddl) with
  | some sourceDdl, some targetDdl =>
    if options.viewDefinitionsDiffer readers sourceDdl targetDdl then
      some { diffType := .modified, objectType := some .view, name := pair.1,
             targetName := otherName pair, ddl := some sourceDdl, targetDdl := some targetDdl }
    else none
  | _, _ => none

/-- `mysql_charset.rs:27`. -/
def compareTableDefaults (source target : Option Text) : Option TableCharsetDiff := do
  let source ← readers.tableDefaults (← source)
  let target ← readers.tableDefaults (← target)
  if mysqlCharsetValuesDiffer source.characterSet target.characterSet ||
      mysqlCharsetValuesDiffer source.collation target.collation then
    some { source, target }
  else none

/-- The arguments of the column comparison, `schema_diff.rs:2721-2732`. -/
def columnCompareOptions : ColumnCompareOptions where
  ignoreComments := options.ignoreComments
  compareColumnOrder := options.compareColumnOrder
  detectRenames := options.detectRenames
  renameThreshold := options.renameThreshold
  sourceDialect := options.sourceDialect
  targetDialect := options.targetDialect
  ignoreColumnNameCase := options.ignoreColumnNameCase
  compareCharset := options.compareMysqlColumnCharset

/-- The arguments of the foreign key comparison, `schema_diff.rs:2753-2759`. -/
def foreignKeyCompareOptions : ForeignKeyCompareOptions where
  ignoreTableNameCase := options.ignoreTableNameCase
  ignoreColumnNameCase := options.ignoreColumnNameCase
  mysqlActions := options.mysqlForeignKeyActions

/-- `(!diffs.is_empty()).then_some(diffs)`. -/
def someUnlessEmpty {α : Type} (diffs : List α) : Option (List α) :=
  if diffs.isEmpty then none else some diffs

/-- `schema_diff.rs:2718-2794`. A pair without differences is reported as `none`, which
`diff_schema` drops at its end. -/
def comparedTable : Option TableDiff :=
  match options.sourceDetail pair.1, options.targetDetail pair.2 with
  | some source, some target =>
    let columnDiffs :=
      diffColumnsWithIdentifierOptions options.columnCompareOptions source.columns target.columns
    let indexDiffs :=
      diffIndexesWithOptions source.indexes target.indexes options.ignoreColumnNameCase
    let foreignKeyDiffs := diffForeignKeysWithOptions options.foreignKeyCompareOptions
      (source.foreignKeys.map options.normalizeMappedForeignKey)
      (target.foreignKeys.map
        (options.normalizeSelfReferencingFk (namesOfKind options.targetTables false)))
    let triggerDiffs := diffTriggers source.triggers target.triggers
    let sourceComment := (options.sourceTableComment pair.1).getD none
    let targetComment := (options.targetTableComment pair.2).getD none
    let commentChanged := !options.ignoreComments && sourceComment.getD [] != targetComment.getD []
    let tableCharset :=
      if options.compareMysqlColumnCharset then
        compareTableDefaults readers source.ddl target.ddl
      else none
    let hasDiff := !columnDiffs.isEmpty || !indexDiffs.isEmpty || !foreignKeyDiffs.isEmpty ||
      !triggerDiffs.isEmpty || commentChanged || tableCharset.isSome
    some {
      diffType := if hasDiff then .modified else .none
      objectType := some .table
      name := pair.1
      targetName := otherName pair
      columns := if hasDiff then someUnlessEmpty columnDiffs else none
      indexes := if hasDiff then someUnlessEmpty indexDiffs else none
      foreignKeys := if hasDiff then someUnlessEmpty foreignKeyDiffs else none
      triggers := if hasDiff then someUnlessEmpty triggerDiffs else none
      ddl := source.ddl
      targetDdl := target.ddl
      sourceTableComment := if hasDiff && commentChanged then some sourceComment else none
      targetTableComment := if hasDiff && commentChanged then some targetComment else none
      tableCharset }
  | _, _ => none

end SchemaDiffPreparationOptions

/-! ### The whole comparison -/

/-- `schema_diff.rs:2449`. -/
def diffSchema (readers : DdlReaders) (options : SchemaDiffPreparationOptions) : List TableDiff :=
  let tables := options.resolution false
  let views := options.resolution true
  (tables.sourceOnly.map options.addedTable ++ tables.targetOnly.map options.removedTable ++
    views.sourceOnly.map options.addedView ++ views.targetOnly.map options.removedView ++
    views.pairs.filterMap (options.comparedView readers) ++
    tables.pairs.filterMap (options.comparedTable readers)).filter
      fun diff => diff.diffType ≠ .none

/-! ### Shards -/

/-- `schema_diff.rs:1665`. -/
inductive ShardBy
  | table
  | schema
  | roundRobin
  deriving DecidableEq, Repr

/-- `schema_diff.rs:1659`. -/
structure ShardStrategy where
  shardCount : Nat
  shardBy : ShardBy
  deriving DecidableEq, Repr

/-- `schema_diff.rs:1672-1673`. -/
def effectiveShardCount (options : SchemaDiffPreparationOptions) (strategy : ShardStrategy) : Nat :=
  let tableCount := max options.sourceTables.length options.targetTables.length
  min strategy.shardCount (max tableCount 1)

/-- `s[i % shard_count].extend(names)` for the groups in order. -/
def dealOut (shardCount : Nat) (groups : List (List Text)) : List (List Text) :=
  groups.zipIdx.foldl (fun shards entry =>
    shards.modify (entry.2 % shardCount) (· ++ entry.1)) (List.replicate shardCount [])

/-- `schema_groups.entry(schema).or_default().push(name)`. -/
def addToSchemaGroup (groups : List (Text × List Text)) (table : TableInfo) :
    List (Text × List Text) :=
  let schema := table.parentSchema.getD "default"
  if groups.any fun group => group.1 == schema then
    groups.map fun group =>
      if group.1 == schema then (group.1, group.2 ++ [table.name]) else group
  else groups ++ [(schema, [table.name])]

/-- `schema_diff.rs:1688-1709`. -/
def shardsOf (order : HashOrder) (options : SchemaDiffPreparationOptions)
    (strategy : ShardStrategy) : List (List Text) :=
  let shardCount := effectiveShardCount options strategy
  match strategy.shardBy with
  | .table | .roundRobin =>
    dealOut shardCount ((namesOfKind options.sourceTables false ++
      namesOfKind options.sourceTables true).map ([·]))
  | .schema =>
    dealOut shardCount
      ((order.iterate (options.sourceTables.foldl addToSchemaGroup [])).map Prod.snd)

/-- `schema_diff.rs:1726-1731`: the target names that go with a shard. -/
def inShard (options : SchemaDiffPreparationOptions) (shard : List Text) (name : Text) : Bool :=
  shard.contains name || options.tableMappings.any fun mapping =>
    shard.contains mapping.sourceTable && mapping.targetTable == name

/-- `schema_diff.rs:1716-1771`. The options that are not copied take their default value. -/
def shardOptions (options : SchemaDiffPreparationOptions) (shard : List Text) :
    SchemaDiffPreparationOptions where
  sourceTables := options.sourceTables.filter fun table => shard.contains table.name
  targetTables := options.targetTables.filter fun table => inShard options shard table.name
  sourceDetails := options.sourceDetails.filter fun detail => shard.contains detail.name
  targetDetails := options.targetDetails.filter fun detail => inShard options shard detail.name
  databaseType := options.databaseType
  ignoreComments := options.ignoreComments
  compareColumnOrder := options.compareColumnOrder
  compareCharset := options.compareCharset
  ignoreTableNameCase := options.ignoreTableNameCase
  ignoreColumnNameCase := options.ignoreColumnNameCase
  sourceDialect := options.sourceDialect
  targetDialect := options.targetDialect
  tableMappings := options.tableMappings

/-- `schema_diff.rs:1776-1783`. -/
def mergeShards (results : List (List TableDiff)) : List TableDiff :=
  (results.flatten.mergeSort fun a b => decide (a.name ≤ b.name)).destutter
    fun previous diff => ¬(diff.name = previous.name ∧ diff.diffType = previous.diffType)

/-- `schema_diff.rs:1671`. -/
def shardDiff (readers : DdlReaders) (order : HashOrder) (options : SchemaDiffPreparationOptions)
    (strategy : ShardStrategy) : List TableDiff :=
  if effectiveShardCount options strategy ≤ 1 then diffSchema readers options
  else mergeShards (((shardsOf order options strategy).filter (!·.isEmpty)).map
    fun shard => diffSchema readers (shardOptions options shard))

end DbxSpec.Schema
