import DbxSpec.Grid.ColumnInfo
import DbxSpec.Sql.Profile

/-!
# Literals of the data grid

`crates/dbx-sql-data/src/data_grid_sql.rs:2861-3205`: how a cell is written into an `INSERT` or
an `UPDATE`. A column whose type is more than text may have a form of its own for some texts;
those forms are parameters here, the tests of the column's type are not. Every other text becomes
a string literal, and the dialect decides how quotes, backslashes and control characters are
spelled in it.
-/

namespace DbxSpec.Grid

open DbxSpec.Base DbxSpec.Sql

/-- `str::replace` of a single character. -/
def replaceChar (target : Char) (replacement text : Text) : Text :=
  text.flatMap fun ch => if ch = target then replacement else [ch]

/-! ### Tests of a column's type -/

/-- The first piece of a text cut at some characters. -/
def firstPiece (separators : List Char) (text : Text) : Text :=
  text.takeWhile fun ch => !separators.contains ch

/-- A text without some characters at its two ends. -/
def trimMatches (ends : List Char) (text : Text) : Text :=
  (text.dropWhile ends.contains).rdropWhile ends.contains

variable (dataType : Text)

/-- The alphanumeric words of a type name in lower case. -/
def typeWords : List Text :=
  (toAsciiLowercase dataType).splitOnP fun ch => !ch.isAlphanum

/-- The name of a type without its arguments, in lower case. -/
def typeBase (separators : List Char) (dataType : Text) : Text :=
  firstPiece separators (toAsciiLowercase (trim dataType))

private def isOneOf (names : List String) (name : Text) : Bool :=
  names.any fun candidate => name == candidate.toList

/-- `data_grid_sql.rs:3388`. -/
def isBitColumnType : Bool := (typeWords dataType).any (isOneOf ["bit", "bitn"])

/-- `data_grid_sql.rs:3418`. -/
def isMysqlBinaryColumnType : Bool :=
  isOneOf ["binary", "varbinary", "blob", "tinyblob", "mediumblob", "longblob"]
    (trim (typeBase ['(', ':', ' '] dataType))

/-- `data_grid_sql.rs:3424`. -/
def isUuidColumnType : Bool :=
  isOneOf ["uuid", "uniqueidentifier"] (trim (typeBase ['(', ':', ' '] dataType))

/-- `data_grid_sql.rs:3487-3489`. -/
def isSqlserverBinaryColumnType : Bool :=
  isOneOf ["binary", "varbinary", "timestamp", "rowversion"]
    (firstPiece ['(', ' ', '\t', '\n'] (toAsciiLowercase (trimMatches ['"'] (trim dataType))))

/-- `data_grid_sql.rs:3509-3513`: `bytea`, perhaps after one schema. -/
def isPostgresBinaryColumnType : Bool :=
  let dataType := trim dataType
  let name := if dataType.contains '.' then (dataType.dropWhile (· != '.')).tail else dataType
  eqIgnoreAsciiCase name "bytea"

/-- `data_grid_sql.rs:3532`. -/
def isOracleRawColumnType : Bool :=
  eqIgnoreAsciiCase (firstPiece ['(', ':', ' '] (trim dataType)) "raw"

/-- `data_grid_sql.rs:2920-2922`. -/
def isIotdbTimestampColumnType : Bool :=
  eqIgnoreAsciiCase (firstPiece ['(', ' '] (trim dataType)) "timestamp"

/-- `data_grid_sql.rs:4985`. -/
def isSizedNumericToken (token : Text) : Bool :=
  ["int", "uint", "float"].any fun name =>
    let width := token.drop name.length
    name.toList.isPrefixOf token && !width.isEmpty && width.all Char.isDigit

/-- `data_grid_sql.rs:4956`. -/
def isNumericType : Bool :=
  (typeWords dataType).any fun token =>
    isOneOf ["int", "integer", "bigint", "smallint", "tinyint", "mediumint", "serial", "number",
      "numeric", "decimal", "float", "double", "real", "money"] token || isSizedNumericToken token

/-- `data_grid_sql.rs:4996`. -/
def isBooleanType (databaseType : Option DatabaseType) : Bool :=
  (typeWords dataType).any fun token =>
    isOneOf ["bool", "boolean"] token ||
      (isOneOf ["bit", "bitn"] token && databaseType != some .postgres)

/-- `data_grid_sql.rs:3545`. -/
def isGeometryColumnType : Bool :=
  isOneOf ["geometry", "point", "linestring", "polygon", "multipoint", "multilinestring",
    "multipolygon", "geometrycollection"] (trim (firstPiece ['('] (toAsciiLowercase dataType)))

/-- `data_grid_sql.rs:3561`. -/
def sqlserverSpatialColumnType : Option Text :=
  let lower := toAsciiLowercase (trimMatches ['[', ']'] (trim dataType))
  let base := trim (firstPiece ['(', ':', ' ', '\t', '\n'] lower)
  let base := trim (trimMatches ['[', ']'] (base.rtakeWhile (· != '.')))
  if isOneOf ["geometry", "geography"] base then some base else none

/-- `data_grid_sql.rs:3271`: whether there is a kind. -/
def isOracleTemporalColumnType : Bool :=
  isOneOf ["date", "timestamp"] (typeBase ['(', ' '] dataType)

/-- `data_grid_sql.rs:3740`. -/
def isTemporalColumnType : Bool :=
  isOneOf ["date", "time", "datetime", "timestamp"] (typeBase ['(', ':', ' '] dataType)

/-- `sqlserver_temporal.rs:42`: whether there is a kind. -/
def isSqlserverTemporalColumnType : Bool :=
  isOneOf ["date", "daten", "smalldatetime", "datetime", "datetimen", "datetime4", "datetime2",
    "time", "timen", "datetimeoffset", "datetimeoffsetn"]
    (typeBase ['(', ' ', '\t', '\n'] dataType)

/-! ### Tests of the database -/

/-- `data_grid_sql.rs:3171`. -/
def isSqliteLiteralDatabase : Option DatabaseType → Bool
  | some .sqlite | some .rqlite | some .turso | some .cloudflareD1 => true
  | _ => false

/-- `data_grid_sql.rs:3185`: the engines whose ordinary literals keep a backslash as it is. -/
def keepsLiteralBackslashes : Option DatabaseType → Bool
  | some .oracle | some .oceanbaseOracle | some .dameng | some .yashandb | some .oscar
  | some .xugu | some .gaussdb | some .openGauss | some .kingbase | some .highgo | some .uxdb
  | some .vastbase | some .gbase8c | some .kwdb => true
  | _ => false

/-- `data_grid_sql.rs:3652`; `is_mysql_geometry_literal_database` (`data_grid_sql.rs:3397`) lists
the same databases. -/
def isMysqlDatetimeLiteralDatabase : Option DatabaseType → Bool
  | some .mysql | some .doris | some .starRocks | some .goldendb | some .sundb => true
  | _ => false

/-- `data_grid_sql.rs:3232`. -/
def isOracleTemporalLiteralDatabase : Option DatabaseType → Bool
  | some .oracle | some .oceanbaseOracle => true
  | _ => false

/-- `data_grid_sql.rs:3064`. -/
inductive GridSubControlEscape
  | backslashZ
  | hex
  deriving DecidableEq, Repr

/-- `data_grid_sql.rs:3070`. -/
def gridSubControlEscape : Option DatabaseType → Option GridSubControlEscape
  | some .mysql | some .doris | some .starRocks | some .goldendb => some .backslashZ
  | some .clickHouse | some .snowflake => some .hex
  | _ => none

/-! ### Forms of typed columns -/

/-- The forms a column's type can give a text, each with what it reads beside the text. -/
inductive TypedForm
  | kingbaseBit
  | mysqlBit
  | iotdbTimestamp
  | hexUuid
  | mysqlBinary
  | sqlserverBinary
  | postgresBinary
  | oracleRaw
  | numeric
  | manticoreAttribute
  | mysqlGeometry
  | sqlserverSpatial (spatialType : Text) (srid : Option Nat)
  | oracleTemporal (dataType : Text)
  deriving DecidableEq, Repr

/-- What the literals take from elsewhere: the forms of typed columns, which refuse the texts that
are none of theirs, array literals, the normal forms of dates, and the offset of the local time
zone. -/
structure LiteralForms where
  typed : TypedForm → Text → Option Text
  arrayLiteral : Option DatabaseType → Option DataGridColumnInfo → Text → Text
  normalizeSqlserverTemporal : Text → Text → Option Text
  formatMysqlTemporal : Text → Option Text → Text
  localTimezoneOffsetSuffix : Text → Text

/-- Forms that claim no text and change none. -/
def LiteralForms.plain : LiteralForms where
  typed _ _ := none
  arrayLiteral _ _ json := json
  normalizeSqlserverTemporal _ _ := none
  formatMysqlTemporal text _ := text
  localTimezoneOffsetSuffix _ := []

section

variable (databaseType : Option DatabaseType) (columnInfo : Option DataGridColumnInfo)
  (identifierQuote : Option Text)

private def typeIs (test : Text → Bool) : Bool := columnInfo.any fun column => test column.dataType

/-- `data_grid_sql.rs:3375`. -/
def isKingbaseBitLiteralColumn : Bool :=
  databaseType == some .kingbase && typeIs columnInfo isBitColumnType

/-- `data_grid_sql.rs:3365`. -/
def isMysqlBitLiteralColumn : Bool :=
  (isMysqlDatetimeLiteralDatabase databaseType ||
    (databaseType == some .kingbase && identifierQuote == some ['`'])) &&
    typeIs columnInfo isBitColumnType

/-- `data_grid_sql.rs:3383`. -/
def isBitLiteralColumn : Bool :=
  databaseType != some .postgres && typeIs columnInfo isBitColumnType

/-- The two forms that only a JSON string is tried for, `data_grid_sql.rs:2888-2908`. -/
def bitForms : List TypedForm :=
  (if isKingbaseBitLiteralColumn databaseType columnInfo then [.kingbaseBit] else []) ++
    (if isMysqlBitLiteralColumn databaseType columnInfo identifierQuote then [.mysqlBit] else [])

open TypedForm in
/-- The forms tried before the empty text is dealt with, `data_grid_sql.rs:2918-2977`. -/
def earlyForms : List TypedForm :=
  (if databaseType == some .iotdb && typeIs columnInfo isIotdbTimestampColumnType then
    [iotdbTimestamp] else []) ++
  (if typeIs columnInfo isUuidColumnType then [hexUuid] else []) ++
  (if databaseType == some .mysql && typeIs columnInfo isMysqlBinaryColumnType then
    [mysqlBinary] else []) ++
  (if databaseType == some .sqlServer && typeIs columnInfo isSqlserverBinaryColumnType then
    [sqlserverBinary] else []) ++
  (if databaseType == some .postgres && typeIs columnInfo isPostgresBinaryColumnType then
    [postgresBinary] else []) ++
  (if isOracleTemporalLiteralDatabase databaseType && typeIs columnInfo isOracleRawColumnType then
    [oracleRaw] else []) ++
  (if typeIs columnInfo isNumericType then [numeric] else []) ++
  (if databaseType == some .manticoreSearch &&
      typeIs columnInfo (fun dataType => isBooleanType dataType none || isNumericType dataType) then
    [manticoreAttribute] else [])

/-- The forms tried for a text that is not empty, `data_grid_sql.rs:2981-3011`. -/
def lateForms (spatialSrid : Option Nat) : List TypedForm :=
  (if isMysqlDatetimeLiteralDatabase databaseType && typeIs columnInfo isGeometryColumnType then
    [.mysqlGeometry] else []) ++
  (if databaseType == some .sqlServer then
    ((columnInfo.bind fun column => sqlserverSpatialColumnType column.dataType).map
      fun spatialType => .sqlserverSpatial spatialType spatialSrid).toList else []) ++
  (if isOracleTemporalLiteralDatabase databaseType then
    ((columnInfo.map (·.dataType)).filter isOracleTemporalColumnType |>.map
      TypedForm.oracleTemporal).toList else [])

end

/-! ### Timestamps of TDengine -/

/-- The character that starts at a byte offset. -/
def charAtByte : Text → Nat → Option Char
  | [], _ => none
  | ch :: _, 0 => some ch
  | ch :: rest, offset + 1 =>
    if ch.utf8Size ≤ offset + 1 then charAtByte rest (offset + 1 - ch.utf8Size) else none

/-- A text cut at a byte offset, if a character ends there. -/
def splitAtByte : Nat → Text → Option (Text × Text)
  | 0, text => some ([], text)
  | _ + 1, [] => none
  | offset + 1, ch :: rest =>
    if ch.utf8Size ≤ offset + 1 then
      (splitAtByte (offset + 1 - ch.utf8Size) rest).map fun cut => (ch :: cut.1, cut.2)
    else none

/-- `data_grid_sql.rs:3766`. -/
def parseTdengineTimestamp (text : Text) : Option (Text × Text × Option Text) :=
  if utf8Len text < 19 then none
  else if charAtByte text 4 != some '-' || charAtByte text 7 != some '-' ||
      charAtByte text 10 != some ' ' then none
  else if charAtByte text 13 != some ':' || charAtByte text 16 != some ':' then none
  else do
    let (date, afterDate) ← splitAtByte 10 text
    let (time, rest) ← splitAtByte 8 afterDate.tail
    match rest with
    | [] => some (date, time, none)
    | '.' :: fraction =>
      if fraction.isEmpty || utf8Len fraction > 9 || !fraction.all Char.isDigit then none
      else some (date, time, some ('.' :: fraction))
    | _ => none

/-- `data_grid_sql.rs:3790`, on a fraction in ASCII. -/
def normalizeFractionalSeconds : Option Text → Text
  | some fraction =>
    if fraction.length ≥ 4 then fraction.take 4
    else fraction ++ List.replicate (4 - fraction.length) '0'
  | none => ".000"

variable (forms : LiteralForms) (text : Text)

/-- `data_grid_sql.rs:3755`. -/
def formatTdengineTimestampLiteralText : Text :=
  match parseTdengineTimestamp text with
  | none => text
  | some (date, time, fraction) =>
    date ++ 'T' :: time ++ normalizeFractionalSeconds fraction ++
      forms.localTimezoneOffsetSuffix text

/-! ### String literals -/

/-- A text between single quotes. -/
def quoted (body : Text) : Text := '\'' :: body ++ ['\'']

/-- `data_grid_sql.rs:3080`. -/
def escapeGridSubControl (escape : GridSubControlEscape) : Text :=
  let subControl := match escape with
    | .backslashZ => "\\Z"
    | .hex => "\\x1a"
  replaceChar '\x1a' subControl (replaceChar '\x00' "\\0" text)

/-- A run of characters as a national literal, `data_grid_sql.rs:3142`. -/
def nationalLiteral (segment : Text) : Text :=
  'N' :: quoted (replaceChar '\'' "''" segment)

/-- The loop of `data_grid_sql.rs:3133-3157`, with the segment read so far: line breaks are
written as `NCHAR`, what stands between them as literals. -/
def sqlserverLiteralParts : Text → Text → List Text
  | segment, [] => if segment.isEmpty then [] else [nationalLiteral segment]
  | segment, ch :: rest =>
    let flushed := if segment.isEmpty then [] else [nationalLiteral segment]
    if ch = '\r' then flushed ++ "NCHAR(13)".toList :: sqlserverLiteralParts [] rest
    else if ch = '\n' then flushed ++ "NCHAR(10)".toList :: sqlserverLiteralParts [] rest
    else sqlserverLiteralParts (segment ++ [ch]) rest

/-- `data_grid_sql.rs:77`. -/
def sqlserverNvarcharLiteralMaxChars : Nat := 4000

/-- The number of UTF-16 code units. -/
def utf16Len : Nat := (text.map fun ch => if ch.toNat < 0x10000 then 1 else 2).sum

/-- `data_grid_sql.rs:3129`. -/
def formatSqlserverUnicodeLiteral : Text :=
  let parts := sqlserverLiteralParts [] text
  if parts.isEmpty then "N''"
  else
    let parts :=
      if parts.length > 1 && utf16Len text > sqlserverNvarcharLiteralMaxChars then
        "CAST(N'' AS NVARCHAR(MAX))".toList :: parts
      else parts
    joinTexts " + " parts

/-- `data_grid_sql.rs:3013-3050`: the literal of a text that no form has taken. -/
def stringLiteral (databaseType : Option DatabaseType) (text : Text) : Text :=
  if databaseType = some .postgres ∧ (text.contains '\\' ∨ text.contains '\x1a') then
    'E' :: quoted (replaceChar '\x1a' "\\x1A"
      (replaceChar '\'' "''" (replaceChar '\\' "\\\\" text)))
  else if databaseType = some .sqlServer then formatSqlserverUnicodeLiteral text
  else if databaseType = some .neo4j then
    quoted (replaceChar '\'' "\\'" (replaceChar '\\' "\\\\" text))
  else if isSqliteLiteralDatabase databaseType || keepsLiteralBackslashes databaseType then
    quoted (replaceChar '\'' "''" text)
  else
    let escaped := replaceChar '\'' "''" (replaceChar '\\' "\\\\" text)
    match gridSubControlEscape databaseType with
    | some escape => quoted (escapeGridSubControl escaped escape)
    | none => quoted escaped

/-- `data_grid_sql.rs:3012-3025`. -/
def literalText (databaseType : Option DatabaseType)
    (columnInfo : Option DataGridColumnInfo) (text : Text) : Text :=
  let dataType := columnInfo.map (·.dataType)
  if databaseType = some .tdengine then formatTdengineTimestampLiteralText forms text
  else if databaseType = some .sqlServer then
    ((dataType.filter isSqlserverTemporalColumnType).bind
      (forms.normalizeSqlserverTemporal text)).getD text
  else if isMysqlDatetimeLiteralDatabase databaseType &&
      (dataType.map isTemporalColumnType).getD true then
    forms.formatMysqlTemporal text dataType
  else text

/-- `data_grid_sql.rs:2917-3050`: the literal of a text. -/
def formatTextLiteral (databaseType : Option DatabaseType)
    (columnInfo : Option DataGridColumnInfo) (spatialSrid : Option Nat) (text : Text) : Text :=
  match (earlyForms databaseType columnInfo).findSome? (forms.typed · text) with
  | some literal => literal
  | none =>
    if text.isEmpty then
      if databaseType = some .sqlServer then "N''" else "''"
    else match (lateForms databaseType columnInfo spatialSrid).findSome? (forms.typed · text) with
      | some literal => literal
      | none => stringLiteral databaseType (literalText forms databaseType columnInfo text)

/-- A JSON value as the grid holds it. Numbers are in the text JSON has for them, arrays and
objects in their serialization. -/
inductive GridValue
  | null
  | bool (value : Bool)
  | number (text : Text)
  | string (text : Text)
  | array (json : Text)
  | object (json : Text)
  deriving DecidableEq, Repr

/-- `data_grid_sql.rs:2861`. -/
def formatGridSqlLiteralWithSpatial (value : GridValue)
    (databaseType : Option DatabaseType) (columnInfo : Option DataGridColumnInfo)
    (identifierQuote : Option Text) (spatialSrid : Option Nat) : Text :=
  match value with
  | .null => "NULL"
  | .bool value =>
    if isKingbaseBitLiteralColumn databaseType columnInfo then
      (if value then "b'1'" else "b'0'").toList
    else if isBitLiteralColumn databaseType columnInfo || databaseType = some .sqlServer then
      (if value then "1" else "0").toList
    else (if value then "TRUE" else "FALSE").toList
  | .number number =>
    -- a number on a bit column of MySQL is written as any other number
    ((if isKingbaseBitLiteralColumn databaseType columnInfo then
      forms.typed .kingbaseBit number else none)).getD number
  | .string text =>
    ((bitForms databaseType columnInfo identifierQuote).findSome? (forms.typed · text)).getD
      (formatTextLiteral forms databaseType columnInfo spatialSrid text)
  | .array json => forms.arrayLiteral databaseType columnInfo json
  | .object json => formatTextLiteral forms databaseType columnInfo spatialSrid json

/-! ### Plain character columns -/

/-- No form claims a `varchar` column. -/
theorem formatGridSqlLiteralWithSpatial_varchar (databaseType : DatabaseType)
    {column : DataGridColumnInfo} (hcolumn : column.dataType = "varchar")
    (identifierQuote : Option Text) (spatialSrid : Option Nat) (text : Text) :
    formatGridSqlLiteralWithSpatial forms (.string text) (some databaseType) (some column)
        identifierQuote spatialSrid =
      if text.isEmpty then if databaseType = .sqlServer then "N''".toList else "''".toList
      else stringLiteral (some databaseType)
        (if databaseType = .tdengine then formatTdengineTimestampLiteralText forms text
          else text) := by
  have htypes : (isBitColumnType "varchar".toList = false ∧
      isIotdbTimestampColumnType "varchar" = false ∧
      isUuidColumnType "varchar" = false ∧
      isMysqlBinaryColumnType "varchar" = false ∧
      isSqlserverBinaryColumnType "varchar" = false ∧
      isPostgresBinaryColumnType "varchar" = false) ∧
      isOracleRawColumnType "varchar" = false ∧
      isNumericType "varchar" = false ∧
      isBooleanType "varchar" none = false ∧
      isGeometryColumnType "varchar" = false ∧
      sqlserverSpatialColumnType "varchar" = none ∧
      isOracleTemporalColumnType "varchar" = false ∧
      isSqlserverTemporalColumnType "varchar" = false ∧
      isTemporalColumnType "varchar" = false := by decide +kernel
  rw [← hcolumn] at htypes
  obtain ⟨⟨hbit, hiotdb, huuid, hbinary, hsqlserver, hpostgres⟩, hraw, hnumeric, hbool, hgeometry,
    hspatial, horacle, htemporal, hmysql⟩ := htypes
  have hforms : bitForms (some databaseType) (some column) identifierQuote = [] ∧
      earlyForms (some databaseType) (some column) = [] ∧
      lateForms (some databaseType) (some column) spatialSrid = [] := by
    simp [bitForms, earlyForms, lateForms, isKingbaseBitLiteralColumn, isMysqlBitLiteralColumn,
      typeIs, hbit, hiotdb, huuid, hbinary, hsqlserver, hpostgres, hraw, hnumeric, hbool,
      hgeometry, hspatial, horacle]
  have htext : literalText forms (some databaseType) (some column) text =
      if databaseType = .tdengine then formatTdengineTimestampLiteralText forms text else text := by
    simp [literalText, Option.filter, htemporal, hmysql]
  obtain ⟨hbits, hearly, hlate⟩ := hforms
  simp only [formatGridSqlLiteralWithSpatial, formatTextLiteral, hbits, hearly, hlate,
    List.findSome?_nil, Option.getD_none, htext, Option.some.injEq]

end DbxSpec.Grid
