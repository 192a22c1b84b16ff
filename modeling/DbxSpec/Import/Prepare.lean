import DbxSpec.Sql.Scanner

/-!
# Preparing a statement of a file

`prepare_sql_file_statement` of `crates/dbx-sql-core/src/sql.rs:2697-2830`: what of a dump is left
out for a target, and what its statements are rewritten to. The tests for what `mysqldump` and
`pg_dump` write around their statements are those of `sql.rs:3360-3511`.
-/

namespace DbxSpec.Import

open DbxSpec.Base DbxSpec.Sql

/-! ### Targets -/

/-- `sql.rs:3363`. -/
def mysqlCompatibleImportProfiles : List Text :=
  ["mariadb", "tidb", "oceanbase", "custom_mysql", "doris", "starrocks", "manticoresearch",
    "selectdb", "goldendb"].map String.toList

/-- `sql.rs:3388`. -/
def isMysqlCompatibleImportTarget (dbType : DatabaseType) (driverProfile : Option Text) : Bool :=
  [.mysql, .doris, .starRocks, .manticoreSearch, .goldendb].contains dbType ||
    driverProfile.any fun profile =>
      mysqlCompatibleImportProfiles.contains (toAsciiLowercase profile)

/-! ### Executable comments -/

/-- The loop of `sql.rs:3418`: the text at the opener of an executable comment. -/
def leadingMysqlExecutableCommentLoop : Nat → Text → Option Text
  | 0, _ => none
  | fuel + 1, statement =>
    match statement.dropWhile isAsciiWhitespace with
    | [] => none
    | ch :: rest =>
      if ch == '-' && rest.head? == some '-' then
        leadingMysqlExecutableCommentLoop fuel (rest.tail.dropWhile (· != '\n'))
      else if ch == '#' then leadingMysqlExecutableCommentLoop fuel (rest.dropWhile (· != '\n'))
      else if ch == '/' && rest.head? == some '*' then
        if isMysqlExecutableCommentStart (ch :: rest) then some (ch :: rest)
        else (afterBlockCommentClose false 1 rest.tail).bind
          (leadingMysqlExecutableCommentLoop fuel)
      else none

variable (statement : Text)

/-- `sql.rs:3418`. A round drops a character, so the length bounds the rounds. -/
def leadingMysqlExecutableComment : Option Text :=
  leadingMysqlExecutableCommentLoop (statement.length + 1) statement

/-- `sql.rs:3401`. -/
def mysqlExecutableCommentBody : Option Text :=
  (leadingMysqlExecutableComment statement).bind fun comment =>
    let inner := comment.drop (if (comment.drop 2).head? == some '!' then 3 else 4)
    let body := inner.dropWhile fun ch => ch.isDigit || isAsciiWhitespace ch
    (afterBlockCommentClose false 1 body).bind fun after =>
      if hasExecutableSqlWithOptions after {} then none
      else some (body.take (body.length - after.length - 2))

/-! ### What dumps write around their statements -/

/-- A statement in upper case with single spaces between its words. -/
def collapsedUpper : Text :=
  toAsciiUppercase (joinTexts " " (splitWhitespace statement))

/-- `sql.rs:3480`. -/
def isMysqlKeyToggleStatement : Bool :=
  let upper := collapsedUpper statement
  "ALTER TABLE ".toList.isPrefixOf upper &&
    (endsWith upper " ENABLE KEYS" || endsWith upper " DISABLE KEYS")

/-- `sql.rs:3485`. -/
def isMysqlLockTableStatement : Bool :=
  let upper := collapsedUpper (leadingExecutableSqlWithOptions statement {})
  upper == "UNLOCK TABLES" ||
    ("LOCK TABLES ".toList.isPrefixOf upper && endsWith upper " WRITE")

/-- `str::trim_start_matches` for a pattern that is not empty. -/
def trimStartMatches (pattern : Text) : Nat → Text → Text
  | 0, text => text
  | fuel + 1, text =>
    if pattern.isPrefixOf text then trimStartMatches pattern fuel (text.drop pattern.length)
    else text

/-- `sql.rs:3491`. -/
def isMysqlSessionRestoreStatement : Bool :=
  let upper := collapsedUpper (leadingExecutableSqlWithOptions statement .mysqlCompatible)
  if !"SET ".toList.isPrefixOf upper then false
  else
    let assignment := trim (trimStartMatches "SET " upper.length upper)
    if assignment.head? == some '@' then false
    else ["= @OLD_", "=@OLD_", "= @SAVED_", "=@SAVED_"].any fun old =>
      containsText assignment old.toList

/-- `sql.rs:2818`. -/
def isPostgresPgDumpGuardCommand (line : Text) : Bool :=
  match splitWhitespace line with
  | [command, key] =>
    (command == "\\restrict" || command == "\\unrestrict") && key.all Char.isAlphanum
  | _ => false

/-- `sql.rs:2802`. -/
def stripPostgresPgDumpGuardCommand : Option Text :=
  let executable := leadingExecutableSqlWithOptions statement (.forDatabaseType .postgres)
  let line := executable.takeWhile (· != '\n')
  if !isPostgresPgDumpGuardCommand line then none
  else some (statement.take (statement.length - executable.length) ++
    (executable.dropWhile (· != '\n')).drop 1)

/-- `sql.rs:2751`. -/
def normalizeMysqlSqlFileCharset : Text :=
  let executable := leadingExecutableSqlWithOptions statement .mysqlCompatible
  let afterSet := executable.drop 3
  let names := afterSet.dropWhile isAsciiWhitespace
  let afterNames := names.drop 5
  let charset := afterNames.dropWhile isAsciiWhitespace
  let inName := fun ch => !isAsciiWhitespace ch && ch != ';'
  let name := charset.takeWhile inName
  let rest := charset.dropWhile inName
  if !eqIgnoreAsciiCase (executable.take 3) "SET" then statement
  else if !afterSet.head?.any isAsciiWhitespace then statement
  else if !eqIgnoreAsciiCase (names.take 5) "NAMES" then statement
  else if !afterNames.head?.any isAsciiWhitespace then statement
  else if !eqIgnoreAsciiCase name "utf8" && !eqIgnoreAsciiCase name "utf8mb3" then
    statement
  else if eqIgnoreAsciiCase ((rest.dropWhile isAsciiWhitespace).take 7) "COLLATE" then
    statement
  else statement.take (statement.length - charset.length) ++ "utf8mb4" ++ rest

/-! ### Preparation -/

/-- `sql.rs:157`. -/
inductive SqlFileStatementAction
  | execute (sql : Text)
  | skip
  deriving DecidableEq, Repr

/-- `sql.rs:2697`. -/
def prepareSqlFileStatement (dbType : DatabaseType)
    (driverProfile : Option Text) : SqlFileStatementAction :=
  let statement := trim statement
  let postgresStatement :=
    if dbType = .postgres then stripPostgresPgDumpGuardCommand statement else none
  let statement := trim (postgresStatement.getD statement)
  let isMysqlCompatibleTarget := isMysqlCompatibleImportTarget dbType driverProfile
  if statement.isEmpty || (dbType == .postgres && postgresStatement.isSome &&
      !hasExecutableSqlWithOptions statement (.forDatabaseType .postgres)) then .skip
  else if isMysqlCompatibleTarget && isMysqlLockTableStatement statement then .skip
  else match mysqlExecutableCommentBody statement with
    | none =>
      if isMysqlCompatibleTarget && isMysqlSessionRestoreStatement statement then .skip
      else .execute
        (if isMysqlCompatibleTarget then normalizeMysqlSqlFileCharset statement else statement)
    | some body =>
      let body := trim body
      if !isMysqlCompatibleTarget then .skip
      else if body.isEmpty || isMysqlKeyToggleStatement body ||
          isMysqlSessionRestoreStatement body then .skip
      else .execute (normalizeMysqlSqlFileCharset body)

end DbxSpec.Import
