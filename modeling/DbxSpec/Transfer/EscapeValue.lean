import DbxSpec.Base.Json
import DbxSpec.Grid.Literal

/-!
# Literals of a transfer

`escape_value_typed` of `crates/dbx-core/src/data/transfer.rs:3917-4064` with the literals of
`crates/dbx-sql-core/src/value_literals.rs`. Which columns and targets have a form of their own is
told here; the forms that parse a value further (numbers of DB2, types of Xugu, dates of Oracle and
SQL Server) and the text of a JSON value are parameters.
-/

namespace DbxSpec.Transfer

open DbxSpec.Base DbxSpec.Sql DbxSpec.Grid

/-- A name is one of some names. -/
def isOneOf (names : List String) (name : Text) : Bool := (names.map String.toList).contains name

/-! ### Targets -/

/-- `transfer.rs:2822`; `is_mysql_datetime_literal_database` (`transfer.rs:4503`) and
`is_mysql_numeric_string_literal_database` (`transfer.rs:4096`) list the same targets. -/
def isMysqlFamilyTarget : DatabaseType → Bool
  | .mysql | .doris | .starRocks | .goldendb | .sundb => true
  | _ => false

/-- `transfer.rs:2838`. -/
def isPostgresFamilyTarget : DatabaseType → Bool
  | .postgres | .gaussdb | .openGauss | .redshift | .kingbase | .highgo | .uxdb | .kwdb
  | .vastbase => true
  | _ => false

/-- `transfer.rs:2858`. -/
def keepsBackslashLiteral : DatabaseType → Bool
  | .oracle | .oceanbaseOracle | .dameng | .xugu | .sqlite | .rqlite | .turso | .cloudflareD1 =>
    true
  | _ => false

/-- `transfer.rs:2054`. -/
def isPostgresTransferDialect : DatabaseType → Bool
  | .postgres | .kingbase | .openGauss => true
  | _ => false

/-! ### Tests of a column's type -/

section

variable (columnType : Text)

/-- `transfer.rs:4090`. -/
def isMysqlBitType : Bool :=
  let lower := toAsciiLowercase (trim columnType)
  lower == "bit" || "bit(".toList.isPrefixOf lower || "bit ".toList.isPrefixOf lower

/-- `transfer.rs:2872`. -/
def isMysqlNumericBaseType : Bool :=
  isOneOf ["tinyint", "smallint", "mediumint", "int", "integer", "bigint", "decimal", "numeric",
    "float", "double", "real", "bit", "year"] (typeBase ['(', ' '] columnType)

/-- `transfer.rs:4107`. -/
def isMysqlNonBitNumericType : Bool :=
  isMysqlNumericBaseType columnType && !isMysqlBitType columnType

/-- `transfer.rs:4127`. -/
def isBinaryTransferColumnType : Bool :=
  isOneOf ["binary", "varbinary", "blob", "tinyblob", "mediumblob", "longblob", "bytea", "image"]
    (typeBase ['(', ' ', '\t', '\n'] columnType)

/-- `transfer.rs:4082`. -/
def isStarrocksJsonArrayType : Bool :=
  eqIgnoreAsciiCase (columnType.filter fun ch => !isAsciiWhitespace ch) "array<json>"

/-- The kinds of `transfer.rs:4547`. -/
inductive TemporalKind
  | date
  | time
  | datetime
  deriving DecidableEq, Repr

/-- `transfer.rs:4547`. -/
def temporalColumnKind : Option TemporalKind :=
  let base := typeBase ['(', ':', ' '] columnType
  if isOneOf ["date"] base then some .date
  else if isOneOf ["time"] base then some .time
  else if isOneOf ["datetime", "timestamp"] base then some .datetime
  else none

/-- `transfer.rs:2073`. -/
def postgresIntegerBounds : Option (Int × Int) :=
  let base := typeBase ['(', ' '] columnType
  if isOneOf ["smallint", "int2"] base then some (-2 ^ 15, 2 ^ 15 - 1)
  else if isOneOf ["integer", "int4"] base then some (-2 ^ 31, 2 ^ 31 - 1)
  else if isOneOf ["bigint", "int8"] base then some (-2 ^ 63, 2 ^ 63 - 1)
  else none

/-- `transfer.rs:2087`. -/
def sqlserverIntegerBounds : Option (Int × Int) :=
  let base := typeBase ['(', ' '] columnType
  if isOneOf ["bit"] base then some (-2 ^ 127, 2 ^ 127 - 1)
  else if isOneOf ["tinyint"] base then some (0, 2 ^ 8 - 1)
  else if isOneOf ["smallint"] base then some (-2 ^ 15, 2 ^ 15 - 1)
  else if isOneOf ["int", "integer"] base then some (-2 ^ 31, 2 ^ 31 - 1)
  else if isOneOf ["bigint"] base then some (-2 ^ 63, 2 ^ 63 - 1)
  else none

end

/-! ### Forms of typed columns -/

/-- What the literals take from elsewhere. -/
structure TransferForms where
  /-- `serde_json::Value::to_string`. -/
  display : Json → Text
  /-- The text of the array that a text is in JSON. -/
  parseJsonArray : Text → Option Text
  /-- `transfer.rs:2911`. -/
  looksLikeNumericLiteral : Text → Bool
  db2NumericLiteral : Text → Option Text → Text
  db2StringLiteral : Text → Option Text → Text
  /-- `transfer.rs:4203`, for a column whose type is known. -/
  xuguTypedLiteral : Text → Text → Option Text
  /-- `transfer.rs:4389`, for a column of that kind and type. -/
  oracleTemporalLiteral : DatabaseType → TemporalKind → Text → Text → Option Text
  /-- `sqlserver_temporal.rs:22`, for a column of a temporal type. -/
  sqlserverTemporalLiteral : Text → Text → Option Text

/-- The value of decimal digits. -/
def digitsValue (digits : Text) : Nat :=
  digits.foldl (fun value ch => 10 * value + (ch.toNat - '0'.toNat)) 0

/-- `str::parse::<i128>` of digits, perhaps after a sign. -/
def parseInteger (text : Text) : Option Int :=
  let digits := if text.head? == some '-' || text.head? == some '+' then text.tail else text
  let value : Int :=
    if text.head? == some '-' then -(digitsValue digits : Int) else digitsValue digits
  if digits.isEmpty || !digits.all Char.isDigit then none
  else if -2 ^ 127 ≤ value ∧ value ≤ 2 ^ 127 - 1 then some value else none

/-- The bounds of `transfer.rs:2099`. -/
def integerBounds (target : DatabaseType) (columnType : Option Text) : Option (Int × Int) :=
  if isPostgresTransferDialect target then columnType.bind postgresIntegerBounds
  else if target = .sqlServer then columnType.bind sqlserverIntegerBounds
  else none

section

variable (value : Text) (target : DatabaseType) (columnType : Option Text)

/-- `transfer.rs:2099`. -/
def normalizeIntegerLiteral : Option Text := do
  let bounds ← integerBounds target columnType
  let integer := value.takeWhile (· != '.')
  let fraction := (value.dropWhile (· != '.')).tail
  if value.any (fun ch => ch == 'e' || ch == 'E') || !value.contains '.' || fraction.isEmpty ||
      !fraction.all (· == '0') then none
  else
    let parsed ← parseInteger integer
    if parsed < bounds.1 ∨ bounds.2 < parsed then none else some integer

/-- The digits after `0x` or `0X`. -/
def hexDigits : Text → Option Text
  | '0' :: 'x' :: digits => some digits
  | '0' :: 'X' :: digits => some digits
  | _ => none

/-- `transfer.rs:4133`. -/
def formatPostgresBinarySqlLiteral : Option Text :=
  if target = .postgres ∧ columnType.any isBinaryTransferColumnType then
    (hexDigits value).bind fun digits =>
      if digits.length % 2 = 0 && digits.all isAsciiHexdigit then
        some ("decode(" ++ quoted digits ++ ", 'hex')") else none
  else none

/-- `transfer.rs:4150`. -/
def formatMysqlBinarySqlLiteral : Option Text :=
  if target = .mysql ∧ columnType.any isBinaryTransferColumnType then
    (hexDigits (trim value)).bind fun digits =>
      if digits.all isAsciiHexdigit then
        some (if digits.isEmpty then "X''" else "0x" ++ digits) else none
  else none

/-- `transfer.rs:4164`. -/
def formatSqlserverBinarySqlLiteral : Option Text :=
  if target = .sqlServer then
    (columnType.filter isBinaryTransferColumnType).map fun columnType =>
      match hexDigits (trim value) with
      | some digits =>
        if digits.length % 2 = 0 && digits.all isAsciiHexdigit then "0x" ++ digits
        else "CONVERT(" ++ columnType ++ ", N" ++
          quoted (replaceChar '\'' "''" value) ++ ")"
      | none => "CONVERT(" ++ columnType ++ ", N" ++
          quoted (replaceChar '\'' "''" value) ++ ")"
  else none

/-- `transfer.rs:4187`. -/
def formatXuguBinarySqlLiteral : Option Text :=
  if target = .xugu ∧ columnType.any isBinaryTransferColumnType then
    (hexDigits value).bind fun digits =>
      if digits.length % 2 = 0 && digits.all isAsciiHexdigit then some ('X' :: quoted digits)
      else none
  else none

/-- The branch of `transfer.rs:4013` for H2. -/
def formatH2BinarySqlLiteral : Option Text :=
  if target = .h2 ∧ columnType.any isBinaryTransferColumnType then
    (hexDigits value).bind fun digits =>
      if digits.length % 2 = 0 && digits.all isAsciiHexdigit then some ('X' :: quoted digits)
      else none
  else none

end

section Forms

variable (forms : TransferForms) (value : Text) (target : DatabaseType) (columnType : Option Text)

/-- `transfer.rs:4066`. -/
def formatStarrocksJsonArraySqlLiteral : Option Text :=
  if target = .starRocks ∧ columnType.any isStarrocksJsonArrayType then
    (forms.parseJsonArray (trim value)).map fun json =>
      "CAST(PARSE_JSON(" ++
        quoted (replaceChar '\'' "''" (replaceChar '\\' "\\\\" json)) ++
        ") AS ARRAY<JSON>)"
  else none

/-- `transfer.rs:4111`. -/
def formatMysqlNumericStringLiteral : Option Text :=
  if isMysqlFamilyTarget target ∧ columnType.any isMysqlNonBitNumericType ∧
      forms.looksLikeNumericLiteral (trim value) then some (trim value) else none

/-- `transfer.rs:4389`. -/
def formatOracleTemporalSqlLiteral : Option Text :=
  if target = .oracle ∨ target = .oceanbaseOracle then
    columnType.bind fun columnType => (temporalColumnKind columnType).bind fun kind =>
      forms.oracleTemporalLiteral target kind columnType value
  else none

/-- `transfer.rs:4203`. -/
def formatXuguTypedSqlLiteral : Option Text :=
  if target = .xugu then columnType.bind fun columnType => forms.xuguTypedLiteral columnType value
  else none

/-! ### Dates -/

/-- `transfer.rs:4558`. -/
def isMysqlDatetimeBase : Text → Bool
  | y0 :: y1 :: y2 :: y3 :: '-' :: m0 :: m1 :: '-' :: d0 :: d1 :: sep :: h0 :: h1 :: ':' :: n0 ::
      n1 :: ':' :: s0 :: s1 :: _ =>
    [y0, y1, y2, y3, m0, m1, d0, d1, h0, h1, n0, n1, s0, s1].all Char.isDigit &&
      (sep == 'T' || sep == ' ')
  | _ => false

/-- `transfer.rs:4600`. -/
def isTimezoneSuffix : Bool :=
  if eqIgnoreAsciiCase value ['z'] then true
  else match value with
    | [sign, h0, h1, ':', m0, m1] =>
      (sign == '+' || sign == '-') && [h0, h1, m0, m1].all Char.isDigit
    | _ => false

/-- `transfer.rs:4514`. The nineteen characters of a date and time are one byte each. -/
def normalizeMysqlTemporalLiteral : Option Text :=
  let rest := value.drop 19
  let digitCount := (rest.tail.takeWhile Char.isDigit).length
  let fractionLen := if rest.head? == some '.' then 1 + digitCount else 0
  let fraction := rest.take (min fractionLen 7)
  if value.length < 20 || !isMysqlDatetimeBase value then none
  else if rest.head? == some '.' && digitCount == 0 then none
  else if !isTimezoneSuffix (rest.drop fractionLen) then none
  else match columnType.bind temporalColumnKind with
    | some .date => some (value.take 10)
    | some .time => some ((value.drop 11).take 8 ++ fraction)
    | _ => some (value.take 10 ++ ' ' :: (value.drop 11).take 8 ++ fraction)

/-- `transfer.rs:4492`. -/
def formatLiteralString : Text :=
  if target = .sqlServer then
    ((columnType.filter isSqlserverTemporalColumnType).bind fun columnType =>
      forms.sqlserverTemporalLiteral columnType value).getD value
  else if isMysqlFamilyTarget target &&
      (columnType.map fun columnType => (temporalColumnKind columnType).isSome).getD true then
    (normalizeMysqlTemporalLiteral value columnType).getD value
  else value

end Forms

/-! ### String and array literals -/

/-- `value_literals.rs:156`. -/
def quoteStringLiteral (value : Text) : Text := quoted (replaceChar '\'' "''" value)

/-- `char::is_ascii_control`. -/
def isAsciiControl (ch : Char) : Bool := ch.toNat < 32 || ch.toNat == 127

/-- A hexadecimal digit in upper case. -/
def hexDigit (value : Nat) : Char := "0123456789ABCDEF".toList.getD value '0'

/-- A character of an escape string, `value_literals.rs:92`. -/
def escapePostgresChar (ch : Char) : Text :=
  if ch = '\\' then ['\\', '\\']
  else if ch = '\n' then ['\\', 'n']
  else if ch = '\r' then ['\\', 'r']
  else if ch = '\t' then ['\\', 't']
  else if ch = '\x08' then ['\\', 'b']
  else if ch = '\x0c' then ['\\', 'f']
  else if ch = '\'' then ['\'', '\'']
  else if isAsciiControl ch then ['\\', 'x', hexDigit (ch.toNat / 16), hexDigit (ch.toNat % 16)]
  else [ch]

/-- `value_literals.rs:85`. -/
def quotePostgresStringLiteral (value : Text) : Text :=
  if !value.contains '\\' && !value.any isAsciiControl then quoteStringLiteral value
  else 'E' :: quoted (value.flatMap escapePostgresChar)

/-- A text between double quotes, with backslashes before those it has and before backslashes. -/
def doubleQuoted (text : Text) : Text :=
  '"' :: replaceChar '"' "\\\"" (replaceChar '\\' "\\\\" text) ++ ['"']

/-- A text between single quotes, with its backslashes and quotes twice. -/
def quotedTwice (text : Text) : Text :=
  quoted (replaceChar '\'' "''" (replaceChar '\\' "\\\\" text))

/-- The text of a boolean. -/
def boolText (upper : Bool) (value : Bool) : Text :=
  match upper, value with
  | true, true => "TRUE"
  | true, false => "FALSE"
  | false, true => "true"
  | false, false => "false"

section Arrays

variable (display : Json → Text)

mutual

/-- `value_literals.rs:18`. -/
def formatPgArrayElement : Json → Text
  | .null => "NULL"
  | .array items => '\x7b' :: joinTexts [','] (formatPgArrayElements items) ++ ['\x7d']
  | .string text => doubleQuoted text
  | .number text => text
  | .bool value => boolText false value
  | .object fields => doubleQuoted (display (.object fields))

/-- The elements of an array of PostgreSQL. -/
def formatPgArrayElements : List Json → List Text
  | [] => []
  | item :: items => formatPgArrayElement item :: formatPgArrayElements items

end

variable (items : List Json)

/-- `value_literals.rs:1`. -/
def formatPgArraySqlLiteral : Text :=
  quotePostgresStringLiteral
    ('\x7b' :: joinTexts [','] (formatPgArrayElements display items) ++ ['\x7d'])

mutual

/-- `value_literals.rs:56`. -/
def formatChArrayElement : Json → Text
  | .null => "NULL"
  | .array items => '[' :: joinTexts [','] (formatChArrayElements items) ++ [']']
  | .string text => quotedTwice text
  | .number text => text
  | .bool value => boolText false value
  | .object fields => quotedTwice (display (.object fields))

/-- The elements of an array of ClickHouse. -/
def formatChArrayElements : List Json → List Text
  | [] => []
  | item :: items => formatChArrayElement item :: formatChArrayElements items

end

/-- `value_literals.rs:48`. -/
def formatChArraySqlLiteral : Text :=
  '[' :: joinTexts [','] (items.map (formatChArrayElement display)) ++ [']']

/-- `value_literals.rs:116`. -/
def isPostgresVectorType (columnType : Option Text) : Bool :=
  columnType.any fun columnType =>
    let normalized := toAsciiLowercase (trimMatches ['"'] (trim columnType))
    let base := trimMatches ['"'] (firstPiece ['(', ' ', '\t', '\n'] normalized)
    !endsWith (trimEnd normalized) "[]" &&
      (isOneOf ["vector", "halfvec"] base || endsWith base ".vector" ||
        endsWith base ".halfvec")

/-- `value_literals.rs:146`. -/
def formatPostgresVectorElement : Json → Text
  | .string text => trim text
  | .number text => text
  | .bool value => boolText false value
  | .null => "NULL"
  | value => display value

/-- `value_literals.rs:129` for an array. -/
def formatPostgresVectorSqlLiteral : Text :=
  quotePostgresStringLiteral
    ('[' :: joinTexts [','] (items.map (formatPostgresVectorElement display)) ++ [']'])

end Arrays

/-! ### Values -/

section Values

variable (forms : TransferForms) (target : DatabaseType) (columnType : Option Text)

/-- The literal of a boolean, `transfer.rs:3927-3963`. -/
def escapeBool (value : Bool) : Text :=
  match target with
  | .mysql | .sqlite | .cloudflareD1 | .duckDb | .doris | .starRocks =>
    if columnType.any isMysqlBitType then 'b' :: quoted [if value then '1' else '0']
    else [if value then '1' else '0']
  | .sqlServer | .dameng | .oracle | .oceanbaseOracle => [if value then '1' else '0']
  | _ => boolText true value

/-- The literal of a number, `transfer.rs:3964-3981`. -/
def escapeNumber (text : Text) : Text :=
  if target = .db2 then forms.db2NumericLiteral text columnType
  else (normalizeIntegerLiteral text target columnType).getD
    (if (target = .mysql ∨ target = .doris ∨ target = .starRocks) ∧
        columnType.any isMysqlBitType then 'b' :: quoted text else text)

/-- The forms that a text is tried for in their order, `transfer.rs:3986-4019`. -/
def typedLiteral (value : Text) : Option Text :=
  formatXuguTypedSqlLiteral forms value target columnType
    |>.or (formatStarrocksJsonArraySqlLiteral forms value target columnType)
    |>.or (normalizeIntegerLiteral value target columnType)
    |>.or (formatPostgresBinarySqlLiteral value target columnType)
    |>.or (formatMysqlBinarySqlLiteral value target columnType)
    |>.or (formatSqlserverBinarySqlLiteral value target columnType)
    |>.or (formatXuguBinarySqlLiteral value target columnType)
    |>.or (formatMysqlNumericStringLiteral forms value target columnType)
    |>.or (formatOracleTemporalSqlLiteral forms value target columnType)
    |>.or (formatH2BinarySqlLiteral value target columnType)

/-- The literal of a text that has no form of its own, `transfer.rs:4021-4042`. -/
def escapePlainString (value : Text) : Text :=
  let literal := formatLiteralString forms value target columnType
  let escaped :=
    if isPostgresFamilyTarget target || target == .sqlServer || target == .h2 ||
        keepsBackslashLiteral target then
      replaceChar '\'' "''" literal
    else replaceChar '\'' "''" (replaceChar '\\' "\\\\" literal)
  if target = .postgres then quotePostgresStringLiteral literal
  else if (target = .mysql ∨ target = .doris ∨ target = .starRocks) ∧
      columnType.any isMysqlBitType then 'b' :: quoted escaped
  else if target = .sqlServer then 'N' :: quoted escaped
  else quoted escaped

/-- The literal of a text, `transfer.rs:3982-4042`. -/
def escapeString (value : Text) : Text :=
  if target = .db2 then forms.db2StringLiteral value columnType
  else (typedLiteral forms target columnType value).getD
    (escapePlainString forms target columnType value)

/-- The literal of an array, `transfer.rs:4043-4052`. -/
def escapeArray (items : List Json) : Text :=
  if target = .postgres ∧ isPostgresVectorType columnType then
    formatPostgresVectorSqlLiteral forms.display items
  else if target = .clickHouse ∨ target = .databend then
    formatChArraySqlLiteral forms.display items
  else if target = .db2 then forms.db2StringLiteral (forms.display (.array items)) none
  else formatPgArraySqlLiteral forms.display items

/-- The literal of an object, `transfer.rs:4053-4062`. -/
def escapeObject (text : Text) : Text :=
  if target = .db2 then forms.db2StringLiteral text none
  else if target = .h2 then quoteStringLiteral text
  else quotedTwice text

/-- The text of a value that is a text already. -/
def jsonText : Json → Text
  | .string text => text
  | value => forms.display value

/-- Whether a value is the null. -/
def isNull : Json → Bool
  | .null => true
  | _ => false

/-- `transfer.rs:3917`. -/
def escapeValueTyped (value : Json) : Text :=
  if target = .h2 ∧ isNull value = false ∧
      columnType.any fun kind => eqIgnoreAsciiCase (trim kind) "json" then
    "JSON " ++ quoteStringLiteral (jsonText forms value)
  else match value with
    | .null => "NULL"
    | .bool value => escapeBool target columnType value
    | .number text => escapeNumber forms target columnType text
    | .string text => escapeString forms target columnType text
    | .array items => escapeArray forms target columnType items
    | .object fields => escapeObject forms target (forms.display (.object fields))

end Values

end DbxSpec.Transfer
