import DbxSpec.Base.Json
import DbxSpec.Base.Records

/-!
# Delimited text as it is exported

The writers of `crates/dbx-formats/src/csv_export.rs` and of
`crates/dbx-core/src/data/query_result_export.rs:729-773`. A function that pushes onto a buffer is
given as the text that it pushes. The text of an array or object is a parameter.
-/

namespace DbxSpec.Delimited

open DbxSpec.Base

/-! ### Formats -/

/-- `csv_export.rs:8`. -/
inductive CsvQuoteMode
  | all
  | necessary
  | never
  | strings
  deriving DecidableEq, Repr

/-- `csv_export.rs:24`. -/
def defaultCsvNullLiteral : Text := ['\\', 'N']

/-- `csv_export.rs:28`. -/
def csvNullLiteral (raw : Text) : Option Text := if raw.isEmpty then none else some raw

/-- `csv_export.rs:45`, with the values of its `Default`. -/
structure CsvTextFormat where
  quoteMode : CsvQuoteMode := .all
  delimiter : Char := ','
  quoteChar : Char := '"'
  includeHeader : Bool := true
  nullLiteral : Option Text := none
  deriving DecidableEq, Repr

/-- `csv_export.rs:461`. -/
def formatWithNullLiteral (quoteMode : CsvQuoteMode) (nullLiteral : Option Text) : CsvTextFormat :=
  { quoteMode := quoteMode, nullLiteral := nullLiteral }

/-! ### The guard against formulas -/

/-- `csv_export.rs:95`. -/
def formulaTriggers : Text := ['=', '+', '-', '@', '\t', '\r']

/-- `csv_export.rs:98`. -/
def excelSignificantDigitLimit : Nat := 15

/-- `csv_export.rs:124`. -/
def atSignBeginsExcelFormula (rest : Text) : Bool := rest.head?.any isAscii

/-- A part of a decimal literal: digits and at least one. -/
def validDigits (part : Text) : Bool := !part.isEmpty && part.all Char.isDigit

variable (value : Text)

/-- `csv_export.rs:140`. -/
def isExcelExactDecimalLiteral : Bool :=
  let digits := if value.head? == some '+' || value.head? == some '-' then value.tail else value
  let valid := match digits.idxOf? '.' with
    | some dot => validDigits (digits.take dot) && validDigits (digits.drop (dot + 1))
    | none => validDigits digits
  valid && decide (((digits.filter (· != '.')).dropWhile (· == '0')).length ≤
    excelSignificantDigitLimit)

/-- `csv_export.rs:106`. -/
def needsFormulaGuard : Bool :=
  match value.dropWhile (· == ' ') with
  | [] => false
  | first :: rest =>
    if first == '-' && isExcelExactDecimalLiteral rest then false
    else if first == '@' && !atSignBeginsExcelFormula rest then false
    else formulaTriggers.contains first

/-- Whether `push_formula_guard` pushes its apostrophe, `csv_export.rs:159`. -/
def takesFormulaGuard : Text → Bool
  | '\'' :: rest => rest.head? == some '\'' || needsFormulaGuard rest
  | value => needsFormulaGuard value

/-- `csv_export.rs:159`. -/
def pushFormulaGuard : Text := if takesFormulaGuard value then ['\''] else []

/-- `csv_export.rs:172`. -/
def stripFormulaGuard : Text → Text
  | '\'' :: rest =>
    if rest.head? == some '\'' || needsFormulaGuard rest then rest else '\'' :: rest
  | value => value

/-! ### Fields -/

/-- `csv_export.rs:185`: the characters that are quotes twice. -/
def pushCsvEscapedContent (quoteChar : Char) : Text :=
  value.flatMap fun ch => if ch == quoteChar then [ch, ch] else [ch]

/-- `csv_export.rs:205`. -/
def csvFieldNeedsQuotes (delimiter quoteChar : Char) : Bool :=
  value.any fun ch => (ch == '\n' || ch == '\r') || ch == delimiter || ch == quoteChar

/-- A field between quotes, with its guard inside of them. -/
def quotedField (quoteChar : Char) : Text :=
  quoteChar :: (pushFormulaGuard value ++ pushCsvEscapedContent value quoteChar) ++ [quoteChar]

/-- `csv_export.rs:213`. -/
def pushCsvFieldWithFormat (format : CsvTextFormat) : Text :=
  match format.quoteMode with
  | .all => quotedField value format.quoteChar
  | .strings => quotedField value format.quoteChar
  | .necessary =>
    if csvFieldNeedsQuotes value format.delimiter format.quoteChar then
      quotedField value format.quoteChar
    else pushFormulaGuard value ++ value
  | .never => pushFormulaGuard value ++ value

/-- The text of a boolean cell. -/
def boolText (value : Bool) : Text := if value then "true" else "false"

section Values

variable (display : Json → Text)

/-- `csv_export.rs:253`. -/
def pushCsvTextValueWithQuote (value : Json) (quoteChar : Char) : Text :=
  match value with
  | .null => [quoteChar, quoteChar]
  | .string text => quotedField text quoteChar
  | .bool value => quoteChar :: boolText value ++ [quoteChar]
  | .number text => quoteChar :: text ++ [quoteChar]
  | other => quoteChar :: pushCsvEscapedContent (display other) quoteChar ++ [quoteChar]

/-- `csv_export.rs:273`, for a value that is not a null to be written as the literal. -/
def pushCsvPlainValue (value : Json) (format : CsvTextFormat) (quoteNull : Bool) : Text :=
  if format.quoteMode = .all then
    match value with
    | .null => if quoteNull then pushCsvTextValueWithQuote display value format.quoteChar else []
    | value => pushCsvTextValueWithQuote display value format.quoteChar
  else match value with
    | .null => []
    | .string text => pushCsvFieldWithFormat text format
    | .bool value => boolText value
    | .number text => text
    | other => pushCsvFieldWithFormat (display other) format

/-- `csv_export.rs:273`. -/
def pushCsvValueFormatted (value : Json) (format : CsvTextFormat) (quoteNull : Bool) : Text :=
  match value, format.nullLiteral with
  | .null, some literal => pushCsvFieldWithFormat literal { format with quoteMode := .necessary }
  | value, _ => pushCsvPlainValue display value format quoteNull

/-- `csv_export.rs:309`. -/
def pushTsvEscaped (value : Text) : Text :=
  if value.contains '\t' || value.contains '\n' || value.contains '\r' || value.contains '"' then
    quotedField value '"'
  else pushFormulaGuard value ++ value

/-- `csv_export.rs:321`. -/
def pushTsvValue (value : Json) (nullLiteral : Option Text) : Text :=
  match value, nullLiteral with
  | .null, some literal => pushTsvEscaped literal
  | .null, none => []
  | .string text, _ => pushTsvEscaped text
  | .bool value, _ => boolText value
  | .number text, _ => text
  | other, _ => pushTsvEscaped (display other)

/-! ### Rows and files -/

/-- `csv_export.rs:341`. -/
def pushTsvRow (row : List Json) (nullLiteral : Option Text) : Text :=
  joinTexts ['\t'] (row.map fun cell => pushTsvValue display cell nullLiteral)

/-- `csv_export.rs:415`. -/
def pushQueryResultCsvRowWithFormat (row : List Json) (format : CsvTextFormat) : Text :=
  joinTexts [format.delimiter] (row.map fun cell => pushCsvValueFormatted display cell format false)

variable (columns : List Text) (rows : List (List Json))

/-- `csv_export.rs:503`. -/
def formatCsvWithFormat (format : CsvTextFormat) : Text :=
  (if format.includeHeader then
    joinTexts [format.delimiter] (columns.map (pushCsvFieldWithFormat · format)) ++ ['\n']
  else []) ++
  joinTexts ['\n'] (rows.map (pushQueryResultCsvRowWithFormat display · format))

/-- `csv_export.rs:528`. -/
def formatCsvWithOptions (quoteMode : CsvQuoteMode) (nullLiteral : Option Text) : Text :=
  formatCsvWithFormat display columns rows (formatWithNullLiteral quoteMode nullLiteral)

/-- `csv_export.rs:389`. -/
def formatTsv : Text :=
  joinTexts ['\t'] (columns.map pushTsvEscaped) ++ '\n' ::
    joinTexts ['\n'] (rows.map (pushTsvRow display · none))

/-- `query_result_export.rs:729` for the format that is not `csv`: the header without the line feed
at its end. -/
def tsvExportHeader : Text :=
  let content := formatTsv display columns []
  if endsWith content ['\n'] then content.dropLast else content

/-- The file that `query_result_export.rs:729-773` writes for the format that is not `csv`: the
header, and every row after a line feed. -/
def tsvExport (nullLiteral : Option Text) : Text :=
  tsvExportHeader display columns ++
    rows.flatMap fun row => '\n' :: pushTsvRow display row nullLiteral

end Values

/-! ### Guards -/

/-- Without an apostrophe in front the guard is as needed. -/
theorem takesFormulaGuard_of_ne {value : Text} (h : value.head? ≠ some '\'') :
    takesFormulaGuard value = needsFormulaGuard value := by
  unfold takesFormulaGuard
  split
  · exact absurd rfl h
  · rfl

/-- A text that starts with an equals sign takes a guard. -/
theorem takesFormulaGuard_equals (rest : Text) : takesFormulaGuard ('=' :: rest) := by
  rfl

end DbxSpec.Delimited
