import DbxSpec.Import.Prepare

/-!
# Merging the inserts of a file

`optimize_sql_file_import_statements` of `crates/dbx-sql-core/src/sql.rs:2834-3128`: adjacent
`INSERT` statements with the same target become one, up to a number of statements and of bytes. What
is merged keeps the texts it was made of, for the replay after a failure.
-/

namespace DbxSpec.Import

open DbxSpec.Base DbxSpec.Sql List SqlParsingOptions

/-! ### Inserts that can be merged -/

/-- `sql.rs:3250`, on the text before the position and the text from it on. -/
def keywordAt (before rest : Text) (keyword : String) : Bool :=
  eqIgnoreAsciiCase (rest.take keyword.length) keyword.toList &&
    before.getLast?.all (!isSqlIdentChar ·) &&
    (rest.drop keyword.length).head?.all (!isSqlIdentChar ·)

/-- `sql.rs:3257`. -/
def startsWithKeyword (sql : Text) (keyword : String) : Bool := keywordAt [] sql keyword

/-- `sql.rs:2944`. -/
structure MergeableInsert where
  insertPrefix : Text
  prefixKey : Text
  values : Text
  sql : Text
  deriving DecidableEq, Repr

section

variable (x : Externals)

/-- The loop of `sql.rs:3056`: the text before the keyword and the text after it. -/
def topLevelValuesLoop (scanner : SqlScanner) (depth : Nat) (before : Text) :
    Text → Option (Text × Text)
  | [] => none
  | ch :: rest =>
    let scanner := scanner.step x {} before ch rest
    if scanner.isMasked then topLevelValuesLoop scanner depth (before ++ [ch]) rest
    else if ch == '(' then topLevelValuesLoop scanner (depth + 1) (before ++ [ch]) rest
    else if ch == ')' then topLevelValuesLoop scanner (depth - 1) (before ++ [ch]) rest
    else if depth == 0 && keywordAt before (ch :: rest) "values" then
      some (before, (ch :: rest).drop "values".length)
    else if depth == 0 && keywordAt before (ch :: rest) "value" then
      some (before, (ch :: rest).drop "value".length)
    else topLevelValuesLoop scanner depth (before ++ [ch]) rest

/-- `sql.rs:3056`. -/
def findTopLevelValuesKeyword (sql : Text) : Option (Text × Text) :=
  topLevelValuesLoop x {} 0 [] sql

/-- Where the loop of `parse_insert_values_tail` is. -/
structure ValuesTail where
  depth : Nat := 0
  sawTuple : Bool := false
  expectingTuple : Bool := true

/-- `sql.rs:3100-3122`: one character outside literals and comments. -/
def ValuesTail.step (t : ValuesTail) (ch : Char) : Option ValuesTail :=
  if t.expectingTuple then
    if isWhitespace ch || (t.sawTuple && ch == ',') then some t
    else if ch != '(' then none
    else some ⟨1, true, false⟩
  else if ch == '(' then some { t with depth := t.depth + 1 }
  else if ch == ')' then
    if t.depth = 0 then none
    else some { t with depth := t.depth - 1, expectingTuple := t.depth == 1 }
  else if ch == ',' && t.depth == 0 then some t
  else if t.depth == 0 && !isWhitespace ch then none
  else some t

/-- The loop of `sql.rs:3083`. -/
def insertValuesLoop (scanner : SqlScanner) (t : ValuesTail) (before : Text) :
    Text → Option ValuesTail
  | [] => some t
  | ch :: rest =>
    let scanner := scanner.step x {} before ch rest
    if scanner.isMasked then insertValuesLoop scanner t (before ++ [ch]) rest
    else (t.step ch).bind fun t => insertValuesLoop scanner t (before ++ [ch]) rest

/-- `str::trim_end_matches(';')` between two `trim`s. -/
def trimSemicolons (text : Text) : Text := trim ((trim text).rdropWhile (· == ';'))

/-- `sql.rs:3083`. -/
def parseInsertValuesTail (tail : Text) : Option Text :=
  let tail := trimSemicolons tail
  if tail.isEmpty then none
  else (insertValuesLoop x {} {} [] tail).bind fun t =>
    if t.sawTuple && t.depth == 0 then some tail else none

/-- The loop of `sql.rs:3266`. -/
def insertPrefixKeyLoop (scanner : SqlScanner) (previousSpace : Bool) (before : Text) :
    Text → Text
  | [] => []
  | ch :: rest =>
    let scanner := scanner.step x {} before ch rest
    if scanner.inSingleQuote || scanner.inDoubleQuote || scanner.inBacktick ||
        scanner.dollarQuoteTag.isSome then
      ch :: insertPrefixKeyLoop scanner false (before ++ [ch]) rest
    else if isWhitespace ch then
      (if previousSpace then [] else [' ']) ++
        insertPrefixKeyLoop scanner true (before ++ [ch]) rest
    else ch.toLower :: insertPrefixKeyLoop scanner false (before ++ [ch]) rest

/-- `sql.rs:3266`. -/
def normalizeInsertPrefixKey (insertPrefix : Text) : Text :=
  trim (insertPrefixKeyLoop x {} false [] insertPrefix)

/-- `sql.rs:3036`. -/
def parseMergeableInsert (sql : Text) (options : SqlParsingOptions) : Option MergeableInsert :=
  let executable := trimSemicolons (leadingExecutableSqlWithOptions sql options)
  if !startsWithKeyword executable "insert" then none
  else (findTopLevelValuesKeyword x executable).bind fun (before, after) =>
    (parseInsertValuesTail x (trim after)).map fun values =>
      let insertPrefix := trimEnd before
      ⟨insertPrefix, normalizeInsertPrefixKey x insertPrefix, values, executable⟩

/-- The loop of `sql.rs:3016`. -/
def oracleInsertAllLoop (scanner : SqlScanner) (seenInsert : Bool) (before : Text) :
    Text → Option Text
  | [] => none
  | ch :: rest =>
    let scanner := scanner.step x {} before ch rest
    if scanner.isMasked then oracleInsertAllLoop scanner seenInsert (before ++ [ch]) rest
    else if !seenInsert then
      oracleInsertAllLoop scanner (keywordAt before (ch :: rest) "insert") (before ++ [ch]) rest
    else if keywordAt before (ch :: rest) "into" then
      let target := trim ((ch :: rest).drop "into".length)
      if target.isEmpty then none else some target
    else oracleInsertAllLoop scanner seenInsert (before ++ [ch]) rest

/-- `sql.rs:3016`. -/
def oracleInsertAllTarget (insertPrefix : Text) : Option Text :=
  oracleInsertAllLoop x {} false [] insertPrefix

/-! ### Batches -/

/-- `sql.rs:2923`. -/
def sqlFileInsertBatchMaxStatements : Nat := 500

/-- `sql.rs:2924`. -/
def sqlFileInsertBatchMaxBytes : Nat := 4 * 1024 * 1024

/-- `sql.rs:2931`. -/
inductive InsertBatchSyntax
  | multiRowValues
  | oracleInsertAll
  deriving DecidableEq, Repr

/-- `sql.rs:2936`. -/
def insertBatchSyntax (dbType : Option DatabaseType) : InsertBatchSyntax :=
  if dbType = some .oracle ∨ dbType = some .oceanbaseOracle then .oracleInsertAll
  else .multiRowValues

/-- `sql.rs:2952`. -/
structure PendingInsertBatch where
  insertPrefix : Text
  prefixKey : Text
  values : List Text
  sourceSqls : List Text
  sourceStatementCount : Nat
  byteLen : Nat
  batchSyntax : InsertBatchSyntax
  deriving DecidableEq, Repr

/-- `sql.rs:163`. -/
inductive SqlFileImportStatementKind
  | execute
  | skip
  deriving DecidableEq, Repr

/-- `sql.rs:169`. -/
structure SqlFileImportStatement where
  kind : SqlFileImportStatementKind
  sql : Text
  sourceSqls : List Text
  sourceStatementCount : Nat
  deriving DecidableEq, Repr

namespace PendingInsertBatch

/-- `sql.rs:2963`. -/
def new (insert : MergeableInsert) (batchSyntax : InsertBatchSyntax) : PendingInsertBatch where
  insertPrefix := insert.insertPrefix
  prefixKey := insert.prefixKey
  values := [insert.values]
  sourceSqls := [insert.sql]
  sourceStatementCount := 1
  byteLen := utf8Len insert.insertPrefix + utf8Len insert.values + 16
  batchSyntax

variable (batch : PendingInsertBatch)

/-- `sql.rs:2976`. -/
def canAccept (insert : MergeableInsert) (maxInsertBatchStatements : Nat) : Bool :=
  batch.prefixKey == insert.prefixKey &&
    batch.sourceStatementCount < maxInsertBatchStatements &&
    batch.byteLen + utf8Len insert.values + 3 ≤ sqlFileInsertBatchMaxBytes

/-- `sql.rs:2982`. -/
def push (insert : MergeableInsert) : PendingInsertBatch :=
  { batch with
    byteLen := batch.byteLen + (utf8Len insert.values + 3)
    values := batch.values ++ [insert.values]
    sourceSqls := batch.sourceSqls ++ [insert.sql]
    sourceStatementCount := batch.sourceStatementCount + 1 }

/-- `sql.rs:2989`. -/
def toSql : Text :=
  let multiRow := batch.insertPrefix ++ " VALUES\n" ++ joinTexts ",\n" batch.values
  if batch.sourceStatementCount = 1 then batch.sourceSqls.headD []
  else if batch.batchSyntax = .oracleInsertAll then
    match oracleInsertAllTarget x batch.insertPrefix with
    | some target =>
      "INSERT ALL\n".toList ++
        batch.values.flatMap (fun values =>
          "INTO ".toList ++ target ++ " VALUES ".toList ++ values ++ ['\n']) ++
        "SELECT 1 FROM dual"
    | none => multiRow
  else multiRow

/-- The statement that `sql.rs:2912` makes of a batch. -/
def statement : SqlFileImportStatement :=
  ⟨.execute, batch.toSql x, batch.sourceSqls, batch.sourceStatementCount⟩

end PendingInsertBatch

/-- `sql.rs:2912`. -/
def flushPendingInsert (pending : Option PendingInsertBatch) : List SqlFileImportStatement :=
  (pending.map fun batch => batch.statement x).toList

variable (dbType : Option DatabaseType) (driverProfile : Option Text)
  (maxInsertBatchStatements : Nat)

/-- `sql.rs:2859-2862`. -/
def statementAction (statement : Text) : SqlFileStatementAction :=
  match dbType with
  | some dbType => prepareSqlFileStatement statement dbType driverProfile
  | none => .execute (trim statement)

/-- `sql.rs:2878-2883`. -/
def mergeableInsert (sql : Text) : Option MergeableInsert :=
  if dbType.all fun dbType => !isMysqlCompatibleImportTarget dbType driverProfile then
    parseMergeableInsert x sql ((dbType.map forDatabaseType).getD {})
  else none

/-- The loop of `sql.rs:2858-2906`. -/
def optimizeLoop (pending : Option PendingInsertBatch) : List Text → List SqlFileImportStatement
  | [] => flushPendingInsert x pending
  | statement :: statements =>
    match statementAction dbType driverProfile statement with
    | .skip =>
      flushPendingInsert x pending ++
        ⟨.skip, trim statement, [trim statement], 1⟩ :: optimizeLoop none statements
    | .execute sql =>
      match mergeableInsert x dbType driverProfile sql with
      | some insert =>
        match pending with
        | some batch =>
          if batch.canAccept insert maxInsertBatchStatements then
            optimizeLoop (some (batch.push insert)) statements
          else
            flushPendingInsert x pending ++
              optimizeLoop (some (.new insert (insertBatchSyntax dbType))) statements
        | none => optimizeLoop (some (.new insert (insertBatchSyntax dbType))) statements
      | none =>
        flushPendingInsert x pending ++ ⟨.execute, sql, [sql], 1⟩ :: optimizeLoop none statements

/-- `sql.rs:2846`. -/
def optimizeSqlFileImportStatementsWithMaxInsertBatchStatements (statements : List Text) :
    List SqlFileImportStatement :=
  optimizeLoop x dbType driverProfile maxInsertBatchStatements none statements

/-- `sql.rs:2833`. -/
def optimizeSqlFileImportStatements (statements : List Text) : List SqlFileImportStatement :=
  optimizeSqlFileImportStatementsWithMaxInsertBatchStatements x dbType driverProfile
    sqlFileInsertBatchMaxStatements statements

/-! ### What is kept of a script -/

/-- The text that is kept of a statement: without its leading comments and trailing semicolons if it
is an insert that can be merged, as it has been prepared otherwise, and trimmed if it is left
out. -/
def sourceText (statement : Text) : Text :=
  match statementAction dbType driverProfile statement with
  | .skip => trim statement
  | .execute sql =>
    if (mergeableInsert x dbType driverProfile sql).isSome then
      trimSemicolons (leadingExecutableSqlWithOptions sql
        ((dbType.map forDatabaseType).getD {}))
    else sql

/-- A statement that may be part of a merged one. -/
def Merges (statement : Text) : Prop :=
  ∃ sql, statementAction dbType driverProfile statement = .execute sql ∧
    (mergeableInsert x dbType driverProfile sql).isSome

/-- The statements of the script that an entry stands for: one that is left out, one that is
executed, or adjacent inserts within the limit. -/
structure StandsFor (segment : List Text) (entry : SqlFileImportStatement) : Prop where
  sourceSqls : entry.sourceSqls = segment.map (sourceText x dbType driverProfile)
  count : entry.sourceStatementCount = segment.length
  pos : 0 < segment.length
  skip : entry.kind = .skip ↔ ∃ statement, segment = [statement] ∧
    statementAction dbType driverProfile statement = .skip
  merges : 1 < segment.length → ∀ statement ∈ segment, Merges x dbType driverProfile statement
  limit : segment.length ≤ max 1 maxInsertBatchStatements

variable {x} {dbType} {driverProfile} {maxInsertBatchStatements}

private theorem mergeableInsert_sql {sql : Text} {insert : MergeableInsert}
    (h : mergeableInsert x dbType driverProfile sql = some insert) :
    insert.sql = trimSemicolons (leadingExecutableSqlWithOptions sql
      ((dbType.map forDatabaseType).getD {})) := by
  unfold mergeableInsert parseMergeableInsert at h
  split at h
  · dsimp only at h
    split at h
    · cases h
    · obtain ⟨⟨before, after⟩, -, hvalues⟩ := Option.bind_eq_some_iff.mp h
      obtain ⟨values, -, rfl⟩ := Option.map_eq_some_iff.mp hvalues
      rfl
  · cases h

section Batches

variable {statement : Text} {sql : Text} {insert : MergeableInsert} {segment : List Text}
  {batch : PendingInsertBatch}

variable (x dbType driverProfile maxInsertBatchStatements) in
/-- The inserts that a pending batch has been made of. -/
structure Collects (segment : List Text) (batch : PendingInsertBatch) : Prop where
  sourceSqls : batch.sourceSqls = segment.map (sourceText x dbType driverProfile)
  count : batch.sourceStatementCount = segment.length
  pos : 0 < segment.length
  merges : ∀ statement ∈ segment, Merges x dbType driverProfile statement
  limit : segment.length ≤ max 1 maxInsertBatchStatements

section

variable (haction : statementAction dbType driverProfile statement = .execute sql)
  (hinsert : mergeableInsert x dbType driverProfile sql = some insert)

include haction hinsert

private theorem sourceText_of_mergeable :
    sourceText x dbType driverProfile statement = insert.sql := by
  rw [mergeableInsert_sql hinsert, sourceText, haction]
  dsimp only
  rw [hinsert]
  rfl

private theorem collects_new (batchSyntax : InsertBatchSyntax) :
    Collects x dbType driverProfile maxInsertBatchStatements [statement]
      (.new insert batchSyntax) where
  sourceSqls := by rw [map_singleton, sourceText_of_mergeable haction hinsert]; rfl
  count := rfl
  pos := Nat.one_pos
  merges := by
    intro other hother
    rw [mem_singleton.mp hother]
    exact ⟨sql, haction, by rw [hinsert]; rfl⟩
  limit := Nat.le_max_left _ _

private theorem Collects.push
    (h : Collects x dbType driverProfile maxInsertBatchStatements segment batch)
    (haccept : batch.canAccept insert maxInsertBatchStatements) :
    Collects x dbType driverProfile maxInsertBatchStatements (segment ++ [statement])
      (batch.push insert) where
  sourceSqls := by
    rw [map_append, map_singleton, sourceText_of_mergeable haction hinsert, ← h.sourceSqls]
    rfl
  count := by
    rw [length_append, ← h.count]
    rfl
  pos := by
    rw [length_append]
    exact Nat.add_pos_right _ Nat.one_pos
  merges := by
    intro other hother
    rcases mem_append.mp hother with hold | hnew
    · exact h.merges other hold
    · rw [mem_singleton.mp hnew]
      exact ⟨sql, haction, by rw [hinsert]; rfl⟩
  limit := by
    have hroom : segment.length < maxInsertBatchStatements := by
      unfold PendingInsertBatch.canAccept at haccept
      simp only [Bool.and_eq_true, decide_eq_true_eq, h.count] at haccept
      exact haccept.1.2
    rw [length_append, length_singleton]
    omega

end

private theorem Collects.standsFor
    (h : Collects x dbType driverProfile maxInsertBatchStatements segment batch) :
    StandsFor x dbType driverProfile maxInsertBatchStatements segment (batch.statement x) where
  sourceSqls := h.sourceSqls
  count := h.count
  pos := h.pos
  skip := by
    refine ⟨fun hkind => (nomatch hkind), ?_⟩
    rintro ⟨statement, rfl, hskip⟩
    obtain ⟨sql, haction, -⟩ := h.merges statement (mem_singleton_self _)
    rw [hskip] at haction
    cases haction
  merges _ := h.merges
  limit := h.limit

private theorem standsFor_skip (hskip : statementAction dbType driverProfile statement = .skip) :
    StandsFor x dbType driverProfile maxInsertBatchStatements [statement]
      ⟨.skip, trim statement, [trim statement], 1⟩ where
  sourceSqls := by rw [map_singleton, sourceText, hskip]
  count := rfl
  pos := Nat.one_pos
  skip := iff_of_true rfl ⟨statement, rfl, hskip⟩
  merges h := absurd h (Nat.lt_irrefl 1)
  limit := Nat.le_max_left _ _

private theorem standsFor_execute
    (haction : statementAction dbType driverProfile statement = .execute sql)
    (hinsert : mergeableInsert x dbType driverProfile sql = none) :
    StandsFor x dbType driverProfile maxInsertBatchStatements [statement]
      ⟨.execute, sql, [sql], 1⟩ where
  sourceSqls := by
    rw [map_singleton, sourceText, haction]
    dsimp only
    rw [hinsert]
    rfl
  count := rfl
  pos := Nat.one_pos
  skip := by
    refine ⟨fun hkind => (nomatch hkind), ?_⟩
    rintro ⟨other, hother, hskip⟩
    rw [← (cons.inj hother).1, haction] at hskip
    cases hskip
  merges h := absurd h (Nat.lt_irrefl 1)
  limit := Nat.le_max_left _ _

end Batches

variable (x dbType driverProfile maxInsertBatchStatements) in
/-- The entries that stand for the statements of a script, in its order. -/
def StandForAll (script : List Text) (entries : List SqlFileImportStatement) : Prop :=
  ∃ segments : List (List Text), segments.flatten = script ∧
    Forall₂ (StandsFor x dbType driverProfile maxInsertBatchStatements) segments entries

variable {entries : List SqlFileImportStatement}

private theorem StandForAll.append {first second : List Text} {later : List SqlFileImportStatement}
    (h : StandForAll x dbType driverProfile maxInsertBatchStatements first entries)
    (h' : StandForAll x dbType driverProfile maxInsertBatchStatements second later) :
    StandForAll x dbType driverProfile maxInsertBatchStatements (first ++ second)
      (entries ++ later) := by
  obtain ⟨segments, rfl, hentries⟩ := h
  obtain ⟨segments', rfl, hlater⟩ := h'
  exact ⟨segments ++ segments', flatten_append, rel_append hentries hlater⟩

private theorem StandsFor.all {segment : List Text} {entry : SqlFileImportStatement}
    (h : StandsFor x dbType driverProfile maxInsertBatchStatements segment entry) :
    StandForAll x dbType driverProfile maxInsertBatchStatements segment [entry] :=
  ⟨[segment], flatten_singleton, .cons h .nil⟩

variable (x dbType driverProfile maxInsertBatchStatements) in
/-- What has been read of a script and is pending. -/
def CollectsPending (kept : List Text) : Option PendingInsertBatch → Prop
  | none => kept = []
  | some batch => Collects x dbType driverProfile maxInsertBatchStatements kept batch

section

variable {pending : Option PendingInsertBatch} {kept : List Text}
  (h : CollectsPending x dbType driverProfile maxInsertBatchStatements kept pending)

include h

private theorem standForAll_flush :
    StandForAll x dbType driverProfile maxInsertBatchStatements kept
      (flushPendingInsert x pending) := by
  cases pending with
  | none => exact ⟨[], h.symm, .nil⟩
  | some batch => exact h.standsFor.all

/-- The entries stand for what is pending and for the statements after it. -/
theorem standForAll_optimizeLoop (statements : List Text) :
    StandForAll x dbType driverProfile maxInsertBatchStatements (kept ++ statements)
      (optimizeLoop x dbType driverProfile maxInsertBatchStatements pending statements) := by
  induction statements generalizing kept pending with
  | nil =>
    rw [append_nil]
    exact standForAll_flush h
  | cons statement statements ih =>
    have hflush := standForAll_flush h
    have hnone : CollectsPending x dbType driverProfile maxInsertBatchStatements [] none := rfl
    have hlater := ih hnone
    rw [optimizeLoop]
    cases haction : statementAction dbType driverProfile statement with
    | skip => exact hflush.append ((standsFor_skip haction).all.append hlater)
    | execute sql =>
      dsimp only
      rcases hinsert : mergeableInsert x dbType driverProfile sql with _ | insert
      · exact hflush.append ((standsFor_execute haction hinsert).all.append hlater)
      have hnew : CollectsPending x dbType driverProfile maxInsertBatchStatements [statement]
          (some (.new insert (insertBatchSyntax dbType))) :=
        collects_new haction hinsert (insertBatchSyntax dbType)
      have hrest := ih hnew
      cases pending with
      | none =>
        obtain rfl : kept = [] := h
        exact hrest
      | some batch =>
        dsimp only
        by_cases haccept : batch.canAccept insert maxInsertBatchStatements
        · have hpush : CollectsPending x dbType driverProfile maxInsertBatchStatements
              (kept ++ [statement]) (some (batch.push insert)) :=
            Collects.push haction hinsert h haccept
          rw [if_pos haccept, append_cons]
          exact ih hpush
        · rw [if_neg haccept]
          exact hflush.append hrest

end

/-- What the entries keep, counted over a script. -/
theorem StandForAll.counts {script : List Text}
    (h : StandForAll x dbType driverProfile maxInsertBatchStatements script entries) :
    entries.flatMap (·.sourceSqls) = script.map (sourceText x dbType driverProfile) ∧
      (entries.map (·.sourceStatementCount)).sum = script.length ∧
      ∀ entry ∈ entries, entry.sourceStatementCount = entry.sourceSqls.length ∧
        0 < entry.sourceStatementCount ∧
        entry.sourceStatementCount ≤ max 1 maxInsertBatchStatements := by
  obtain ⟨segments, rfl, hentries⟩ := h
  induction hentries with
  | nil => exact ⟨rfl, rfl, fun entry hentry => (not_mem_nil hentry).elim⟩
  | @cons segment entry segments entries hfirst _ ih =>
    refine ⟨?_, ?_, ?_⟩
    · rw [flatMap_cons, flatten_cons, map_append, hfirst.sourceSqls, ih.1]
    · rw [map_cons, sum_cons, flatten_cons, length_append, hfirst.count, ih.2.1]
    · intro other hother
      rcases mem_cons.mp hother with rfl | hlater
      · rw [hfirst.count, hfirst.sourceSqls, length_map]
        exact ⟨rfl, hfirst.pos, hfirst.limit⟩
      · exact ih.2.2 other hlater

/-- The entries of a script keep every statement of it once and in order, are counted right and
within the limit, and merge only adjacent inserts. -/
theorem optimizeSqlFileImportStatements_keep (x : Externals) (dbType : Option DatabaseType)
    (driverProfile : Option Text) (maxInsertBatchStatements : Nat)
    (hlimit : 1 ≤ maxInsertBatchStatements) (statements : List Text) :
    let entries := optimizeSqlFileImportStatementsWithMaxInsertBatchStatements x dbType
      driverProfile maxInsertBatchStatements statements
    entries.flatMap (·.sourceSqls) = statements.map (sourceText x dbType driverProfile) ∧
      (∀ entry ∈ entries, entry.sourceStatementCount = entry.sourceSqls.length ∧
        entry.sourceStatementCount ≤ maxInsertBatchStatements) ∧
      (entries.map (·.sourceStatementCount)).sum = statements.length ∧
      ∃ segments : List (List Text), segments.flatten = statements ∧
        Forall₂ (fun segment entry =>
          entry.sourceSqls = segment.map (sourceText x dbType driverProfile) ∧
          (entry.kind = .skip ↔ ∃ statement, segment = [statement] ∧
            statementAction dbType driverProfile statement = .skip) ∧
          (1 < segment.length → ∀ statement ∈ segment, Merges x dbType driverProfile statement))
          segments entries := by
  have hnone : CollectsPending x dbType driverProfile maxInsertBatchStatements [] none := rfl
  obtain ⟨segments, hscript, hentries⟩ := standForAll_optimizeLoop hnone statements
  obtain ⟨hsources, hsum, hcounts⟩ := StandForAll.counts ⟨segments, hscript, hentries⟩
  refine ⟨hsources, ?_, hsum, segments, hscript, hentries.imp fun segment entry h =>
    ⟨h.sourceSqls, h.skip, h.merges⟩⟩
  intro entry hentry
  obtain ⟨hcount, -, hmax⟩ := hcounts entry hentry
  exact ⟨hcount, by omega⟩

/-- Two inserts are merged and a query is not. -/
theorem optimizeSqlFileImportStatements_keep_three :
    1 ≤ 2 ∧ ((optimizeSqlFileImportStatementsWithMaxInsertBatchStatements .ascii (some .postgres)
      none 2 ["INSERT INTO t VALUES (1)", "/* b */ insert into t values (2);",
        "SELECT 1"]).map (·.sourceStatementCount)).sum = 3 :=
  ⟨by decide, (optimizeSqlFileImportStatements_keep .ascii (some .postgres) none 2 (by decide)
    ["INSERT INTO t VALUES (1)", "/* b */ insert into t values (2);", "SELECT 1"]).2.2.1⟩

end

end DbxSpec.Import
