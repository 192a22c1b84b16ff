import DbxSpec.Base.Text

/-!
# Database types and dialect profiles

`crates/dbx-sql-core/src/sql.rs:176-503`. The variants of `DatabaseType` are the
`rustVariant` entries of `plugins/connection-types/*.yaml` in their `order`, from which
`crates/dbx-types/build.rs` generates the enum.
-/

namespace DbxSpec.Sql

open DbxSpec.Base

/-- `DatabaseType`, generated by `crates/dbx-types/build.rs:75`. -/
inductive DatabaseType
  | mysql | postgres | sqlite | rqlite | turso | cloudflareD1 | redis | duckDb | clickHouse
  | sqlServer | mongoDb | dynamoDb | oracle | elasticsearch | easysearch | meilisearch | solr
  | couchDb | hbase | qdrant | chromaDb | milvus | weaviate | doris | starRocks
  | manticoreSearch | redshift | dameng | kingbase | highgo | uxdb | vastbase | goldendb
  | databend | gaussdb | kwdb | yashandb | databricks | sapHana | teradata | vertica | firebird
  | exasol | openGauss | questdb | oceanbaseOracle | gbase | gbase8s | gbase8c | access | h2
  | snowflake | trino | prestoSql | hive | argo | transwarp | kyuubi | impala | db2 | informix
  | neo4j | nebula | cassandra | bigquery | spanner | kylin | ignite | ignite3 | sundb | oscar
  | tdengine | xugu | etcd | zooKeeper | nacos | consul | messageQueue | mqtt | iotdb | iris
  | influxDb | influxDb3 | victoriaMetrics | jdbc | spark | plugin | salesforce | odbc
  deriving DecidableEq, Repr

/-- `SqlDialectProfile` with the defaults of its `Default` instance; `sql.rs:177-254`. -/
structure SqlDialectProfile where
  supportsHashLineComments : Bool := false
  supportsBacktickIdentifiers : Bool := true
  supportsNestedBlockComments : Bool := false
  supportsBackslashEscapedQuotes : Bool := true
  supportsPostgresEscapeStrings : Bool := false
  supportsOracleQQuotes : Bool := false
  supportsOraclePlsqlBlocks : Bool := false
  supportsOracleStyleRoutineBodies : Bool := false
  supportsSlashLineBlockDelimiter : Bool := false
  supportsCustomDelimiterCommands : Bool := true
  supportsMysqlRoutineBlocks : Bool := false
  supportsDollarQuotedStrings : Bool := true
  supportsPostgresDollarQuotedRoutines : Bool := false
  supportsHanaScriptBlocks : Bool := false
  supportsFirebirdRoutineBlocks : Bool := false
  supportsGoBatchSeparator : Bool := false
  keepsSqlserverModuleBatchAtCursor : Bool := false
  keepsSqlserverControlFlowBatches : Bool := false
  preservesTdsqlLeadingDirectives : Bool := false
  requiresWhitespaceAfterLineCommentDashes : Bool := false
  supportsPsqlControlCommands : Bool := false
  deriving DecidableEq, Repr

namespace SqlDialectProfile

/-- `sql.rs:357`. -/
def mysqlCompatible : SqlDialectProfile :=
  { supportsHashLineComments := true
    supportsBackslashEscapedQuotes := true
    supportsMysqlRoutineBlocks := true
    requiresWhitespaceAfterLineCommentDashes := true }

/-- `sql.rs:367`. -/
def oracleLike : SqlDialectProfile :=
  { supportsBackslashEscapedQuotes := false
    supportsOraclePlsqlBlocks := true
    supportsOracleQQuotes := true
    supportsSlashLineBlockDelimiter := true }

/-- `sql.rs:383`: PostgreSQL and openGauss, which also meet Oracle-style routine bodies. -/
def postgresFamily : SqlDialectProfile :=
  { supportsBackslashEscapedQuotes := false
    supportsNestedBlockComments := true
    supportsOracleStyleRoutineBodies := true
    supportsPostgresEscapeStrings := true
    supportsSlashLineBlockDelimiter := true
    supportsPsqlControlCommands := true }

/-- `sql.rs:395`. -/
def gaussdb : SqlDialectProfile :=
  { oracleLike with
    supportsBackslashEscapedQuotes := false
    supportsNestedBlockComments := true
    supportsPostgresDollarQuotedRoutines := true
    supportsPostgresEscapeStrings := true
    supportsPsqlControlCommands := true }

/-- `sql.rs:406`. -/
def sqlServer : SqlDialectProfile :=
  { supportsGoBatchSeparator := true
    keepsSqlserverModuleBatchAtCursor := true
    keepsSqlserverControlFlowBatches := true
    supportsNestedBlockComments := true }

/-- `sql.rs:416`. -/
def sapHana : SqlDialectProfile := { supportsHanaScriptBlocks := true }

/-- `sql.rs:420`. -/
def firebird : SqlDialectProfile :=
  { supportsBackslashEscapedQuotes := false, supportsFirebirdRoutineBlocks := true }

/-- `sql.rs:345`. -/
def isPostgresStringLexerDatabase : DatabaseType → Bool
  | .vastbase | .kingbase | .highgo | .uxdb | .gbase8c | .kwdb => true
  | _ => false

/-- `sql.rs:424`. -/
def isMysqlCompatibleDatabase : DatabaseType → Bool
  | .mysql | .doris | .starRocks | .manticoreSearch | .goldendb => true
  | _ => false

/-- `sql.rs:435`. -/
def isOracleLikeDatabase : DatabaseType → Bool
  | .oracle | .dameng | .gaussdb | .yashandb | .oscar | .oceanbaseOracle | .xugu | .argo
  | .transwarp => true
  | _ => false

/-- `sql.rs:257`, with `tdsql_mysql::preserves_leading_directives_for_database_type`
(`tdsql_mysql.rs:14`) true for MySQL alone. -/
def forDatabaseType (dbType : DatabaseType) : SqlDialectProfile :=
  if dbType = .mysql then
    { mysqlCompatible with preservesTdsqlLeadingDirectives := true }
  else if dbType = .gaussdb then gaussdb
  else if dbType = .postgres ∨ dbType = .openGauss then postgresFamily
  else if dbType = .oceanbaseOracle then
    { oracleLike with
      supportsBacktickIdentifiers := false
      supportsDollarQuotedStrings := false
      supportsCustomDelimiterCommands := false }
  else if isOracleLikeDatabase dbType then oracleLike
  else if dbType = .sqlServer then sqlServer
  else if dbType = .db2 then { supportsNestedBlockComments := true }
  else if dbType = .clickHouse then { supportsNestedBlockComments := true }
  else if isMysqlCompatibleDatabase dbType then mysqlCompatible
  else if dbType = .sapHana then sapHana
  else if dbType = .firebird then firebird
  else if dbType = .duckDb then
    { supportsBackslashEscapedQuotes := false, supportsPostgresEscapeStrings := true }
  else if isPostgresStringLexerDatabase dbType then
    { supportsBackslashEscapedQuotes := false
      supportsNestedBlockComments := true
      supportsPostgresEscapeStrings := true }
  else if dbType = .jdbc ∨ dbType = .hive then { supportsOracleStyleRoutineBodies := true }
  else {}

end SqlDialectProfile

/-- `sql.rs:455`. -/
structure SqlParsingOptions where
  profile : SqlDialectProfile := {}
  deriving DecidableEq, Repr

namespace SqlParsingOptions

/-- `sql.rs:461`. -/
def forDatabaseType (dbType : DatabaseType) : SqlParsingOptions :=
  ⟨SqlDialectProfile.forDatabaseType dbType⟩

/-- `sql.rs:496`. -/
def mysqlCompatible : SqlParsingOptions := ⟨SqlDialectProfile.mysqlCompatible⟩

/-- The options with psql control commands switched off, as `sql.rs:1131` and `sql.rs:1346`
set them. -/
def withoutPsqlControl (options : SqlParsingOptions) : SqlParsingOptions :=
  ⟨{ options.profile with supportsPsqlControlCommands := false }⟩

end SqlParsingOptions

end DbxSpec.Sql
