import DbxSpec.Transfer.EscapeValue

/-!
# The template of an INSERT

`InsertSqlTemplate` of `crates/dbx-core/src/data/transfer.rs:5430-5581`: how rows of values become
one statement, and how long that statement is said to be before it is built. How tables and columns
are quoted is a parameter. Lengths are natural numbers; the source's saturating additions are exact
for every text that fits into memory.
-/

namespace DbxSpec.Transfer

open DbxSpec.Base DbxSpec.Sql DbxSpec.Grid List

/-! ### Rows of values -/

/-- A row of values between parentheses, as `value_rows_sql` writes it. -/
structure ValueRow where
  values : Text
  deriving DecidableEq, Repr

namespace ValueRow

/-- The text of a row. -/
def text (row : ValueRow) : Text := '(' :: row.values ++ [')']

/-- A row of `transfer.rs:5591`, without spatial markers. -/
def ofValues (forms : TransferForms) (target : DatabaseType) (columnTypes : List (Option Text))
    (row : List Json) : ValueRow :=
  ⟨joinTexts ", " (row.mapIdx fun index value =>
    escapeValueTyped forms target (columnTypes[index]?.join) value)⟩

end ValueRow

/-- `transfer.rs:5591`, without spatial markers. -/
def valueRowsSql (forms : TransferForms) (target : DatabaseType) (columnTypes : List (Option Text))
    (rows : List (List Json)) : List ValueRow :=
  rows.map (ValueRow.ofValues forms target columnTypes)

/-- `strip_prefix('(')`, then `strip_suffix(')')`; the text itself if one of them fails. -/
def stripParentheses (text : Text) : Text :=
  match text with
  | '(' :: rest => if rest.getLast? = some ')' then rest.dropLast else text
  | _ => text

/-- A tuple without its parentheses. -/
@[simp] theorem stripParentheses_text (row : ValueRow) :
    stripParentheses row.text = row.values := by
  rw [ValueRow.text, cons_append, stripParentheses]
  simp

/-! ### Lengths -/

/-- `transfer.rs:5583`. -/
def sqlTextBytes (target : DatabaseType) (sql : Text) : Nat :=
  if target = .sqlServer then 2 * utf16Len sql else utf8Len sql

section Bytes

variable (target : DatabaseType)

/-- An empty text has no bytes. -/
@[simp] theorem sqlTextBytes_nil : sqlTextBytes target [] = 0 := by
  simp [sqlTextBytes, utf16Len, utf8Len]

/-- Lengths add up. -/
@[simp] theorem sqlTextBytes_append (front back : Text) :
    sqlTextBytes target (front ++ back) = sqlTextBytes target front + sqlTextBytes target back := by
  simp only [sqlTextBytes, utf16Len, utf8Len, map_append, sum_append]
  split <;> omega

private theorem sqlTextBytes_cons (ch : Char) (rest : Text) :
    sqlTextBytes target (ch :: rest) = sqlTextBytes target [ch] + sqlTextBytes target rest :=
  sqlTextBytes_append target [ch] rest

/-- A text has at least as many bytes as characters. -/
theorem length_le_sqlTextBytes (sql : Text) : sql.length ≤ sqlTextBytes target sql := by
  induction sql with
  | nil => simp
  | cons ch rest ih =>
    have hone : 1 ≤ sqlTextBytes target [ch] := by
      unfold sqlTextBytes utf16Len utf8Len
      split
      · simp only [map_cons, map_nil, sum_cons, sum_nil]
        split <;> omega
      · have hpos := Char.utf8Size_pos ch
        simp only [map_cons, map_nil, sum_cons, sum_nil]
        omega
    rw [sqlTextBytes_cons, length_cons]
    omega

/-- Texts with a separator between them. -/
theorem sqlTextBytes_joinTexts (sep : Text) (texts : List Text) :
    sqlTextBytes target (joinTexts sep texts) =
      (texts.map (sqlTextBytes target)).sum + sqlTextBytes target sep * (texts.length - 1) := by
  induction texts with
  | nil => simp [joinTexts]
  | cons text rest ih =>
    rcases rest with _ | ⟨next, others⟩
    · simp [joinTexts]
    have hcons : joinTexts sep (text :: next :: others) =
        text ++ (sep ++ joinTexts sep (next :: others)) := by
      simp [joinTexts, intercalate_cons_cons]
    rw [hcons, sqlTextBytes_append, sqlTextBytes_append, ih]
    simp only [map_cons, sum_cons, length_cons, Nat.add_sub_cancel]
    rw [Nat.mul_add, Nat.mul_one]
    omega

/-- The bytes of some rows, without what stands between them. -/
def rowsBytes (rows : List ValueRow) : Nat := (rows.map fun row => sqlTextBytes target row.text).sum

/-- Lengths add up. -/
@[simp] theorem rowsBytes_append (front back : List ValueRow) :
    rowsBytes target (front ++ back) = rowsBytes target front + rowsBytes target back := by
  simp [rowsBytes]

/-- The length of one row. -/
theorem rowsBytes_singleton (row : ValueRow) :
    rowsBytes target [row] = sqlTextBytes target row.text := by
  simp [rowsBytes]

variable {rows : List ValueRow}

/-- A row is no longer than all rows. -/
theorem sqlTextBytes_le_rowsBytes {row : ValueRow} (hrow : row ∈ rows) :
    sqlTextBytes target row.text ≤ rowsBytes target rows := by
  obtain ⟨front, back, rfl⟩ := append_of_mem hrow
  simp only [rowsBytes, map_append, map_cons, sum_append, sum_cons]
  omega

end Bytes

/-- The parentheses of a row are two bytes where texts are in UTF-8. -/
theorem sqlTextBytes_text {target : DatabaseType} (htarget : target ≠ .sqlServer)
    (row : ValueRow) : sqlTextBytes target row.text = sqlTextBytes target row.values + 2 := by
  have hopen : sqlTextBytes target ['('] = 1 := by simp [sqlTextBytes, htarget, utf8Len]; rfl
  have hclose : sqlTextBytes target [')'] = 1 := by simp [sqlTextBytes, htarget, utf8Len]; rfl
  rw [ValueRow.text, sqlTextBytes_append, sqlTextBytes_cons, hopen, hclose]
  omega

/-! ### The template -/

/-- How the target's names are written: with the quote of the connection where it is given. The
flag says whether columns are quoted. -/
structure TargetNames where
  databaseName : Text
  table : Option Text → Text
  column : Option Text → Bool → Text → Text

/-- The columns of a statement. -/
def TargetNames.columnList (names : TargetNames) (identifierQuote : Option Text)
    (quoteColumns : Bool) (columns : List Text) : Text :=
  joinTexts ", " (columns.map (names.column identifierQuote quoteColumns))

/-- `transfer.rs:5430`. -/
structure InsertSqlTemplate where
  standardStart : Text
  oracleIntoStart : Option Text
  inceptorSelectStart : Option Text
  xuguMultirowValues : Bool

namespace InsertSqlTemplate

/-- `transfer.rs:5459`. -/
def newWithColumnQuoting (names : TargetNames) (columns : List Text) (target : DatabaseType)
    (overridesPostgresSystemValues quoteTargetColumnNames : Bool) (identifierQuote : Option Text) :
    InsertSqlTemplate :=
  let fullTable := names.table identifierQuote
  let colList := names.columnList identifierQuote quoteTargetColumnNames columns
  let overriding :=
    if overridesPostgresSystemValues && (target == .postgres || target == .h2) then
      " OVERRIDING SYSTEM VALUE".toList else []
  { standardStart := "INSERT INTO " ++ fullTable ++ " (" ++ colList ++ ")" ++
      overriding ++ " VALUES\n"
    oracleIntoStart :=
      if target == .oracle || target == .oceanbaseOracle then
        some ("INTO " ++ fullTable ++ " (" ++ colList ++ ") VALUES ")
      else none
    inceptorSelectStart :=
      if target == .transwarp && !columns.isEmpty then
        some ("INSERT INTO " ++ fullTable ++ " (" ++ colList ++ ")\n")
      else none
    xuguMultirowValues := target == .xugu }

variable (template : InsertSqlTemplate)

/-- What stands between two rows of a plain statement. -/
def separator : Text := if template.xuguMultirowValues then "\n" else ",\n"

/-- The plain statement. -/
def buildStandard (rows : List ValueRow) : Text :=
  template.standardStart ++ joinTexts template.separator (rows.map ValueRow.text)

/-- `transfer.rs:5504`. -/
def build (rows : List ValueRow) : Text :=
  if rows.isEmpty then []
  else match template.inceptorSelectStart, template.oracleIntoStart with
    | some start, _ =>
      start ++ joinTexts "\nUNION ALL\n"
        (rows.map fun row => "SELECT " ++ stripParentheses row.text)
    | none, some start =>
      if 1 < rows.length then
        "INSERT ALL\n" ++ joinTexts "\n" (rows.map fun row => start ++ row.text) ++
          "\nSELECT 1 FROM dual"
      else template.buildStandard rows
    | none, none => template.buildStandard rows

/-- `transfer.rs:5561`. -/
def statementBytes (valueRowsBytes rowCount : Nat) (target : DatabaseType) : Nat :=
  let standard := sqlTextBytes target template.standardStart + valueRowsBytes +
    sqlTextBytes target template.separator * (rowCount - 1)
  match template.inceptorSelectStart, template.oracleIntoStart with
  | some start, _ =>
    sqlTextBytes target start + (valueRowsBytes - 2 * rowCount) +
      utf8Len "SELECT " * rowCount + utf8Len "\nUNION ALL\n" * (rowCount - 1)
  | none, some start =>
    if 1 < rowCount then
      sqlTextBytes target "INSERT ALL\n" + sqlTextBytes target start * rowCount +
        valueRowsBytes + sqlTextBytes target "\n" * (rowCount - 1) +
        sqlTextBytes target "\nSELECT 1 FROM dual"
    else standard
  | none, none => standard

variable {template}

/-- A template with selects is one for texts in UTF-8. -/
def Matches (template : InsertSqlTemplate) (target : DatabaseType) : Prop :=
  template.inceptorSelectStart.isSome → target ≠ .sqlServer

/-- A template is made for its target. -/
theorem matches_newWithColumnQuoting (names : TargetNames) (columns : List Text)
    (target : DatabaseType) (overrides quoteColumns : Bool) (identifierQuote : Option Text) :
    (newWithColumnQuoting names columns target overrides quoteColumns identifierQuote).Matches
      target := by
  rintro hsome rfl
  cases hsome

/-- A statement is not shorter than what it starts with. -/
theorem two_le_length_build (hrows : rows ≠ []) (hstandard : 2 ≤ template.standardStart.length)
    (hselect : ∀ start, template.inceptorSelectStart = some start → 2 ≤ start.length) :
    2 ≤ (template.build rows).length := by
  have hempty : ¬ rows.isEmpty := by simpa using hrows
  have hplain : 2 ≤ (template.buildStandard rows).length := by
    rw [buildStandard, length_append]
    omega
  rw [build, if_neg hempty]
  cases hcase : template.inceptorSelectStart with
  | some start =>
    have hstart := hselect start hcase
    rw [length_append]
    omega
  | none =>
    rcases template.oracleIntoStart with _ | start
    · exact hplain
    by_cases hmany : 1 < rows.length
    · have hall : "INSERT ALL\n".toList.length = 11 := rfl
      simp only [if_pos hmany, length_append, hall]
      omega
    · simp only [if_neg hmany]
      exact hplain

private theorem sum_map_append (target : DatabaseType) (start : Text) (rows : List ValueRow)
    (write : ValueRow → Text) :
    ((rows.map fun row => start ++ write row).map (sqlTextBytes target)).sum =
      sqlTextBytes target start * rows.length +
        (rows.map fun row => sqlTextBytes target (write row)).sum := by
  induction rows with
  | nil => simp
  | cons row rows ih =>
    simp only [map_cons, sum_cons, length_cons, sqlTextBytes_append, ih, Nat.mul_add, Nat.mul_one]
    omega

/-- The length of a standard statement. -/
theorem sqlTextBytes_buildStandard (target : DatabaseType) (rows : List ValueRow) :
    sqlTextBytes target (template.buildStandard rows) =
      sqlTextBytes target template.standardStart + rowsBytes target rows +
        sqlTextBytes target template.separator * (rows.length - 1) := by
  rw [buildStandard, sqlTextBytes_append, sqlTextBytes_joinTexts, map_map, length_map, rowsBytes]
  simp only [Function.comp_def]
  omega

/-- **The length that is predicted is that of the statement.** -/
theorem statementBytes_eq {target : DatabaseType} (hmatches : template.Matches target)
    (hrows : rows ≠ []) :
    template.statementBytes (rowsBytes target rows) rows.length target =
      sqlTextBytes target (template.build rows) := by
  have hempty : ¬ rows.isEmpty := by simpa using hrows
  rw [build, if_neg hempty, statementBytes]
  cases hselect : template.inceptorSelectStart with
  | some start =>
    have htarget : target ≠ .sqlServer := hmatches (by simp [hselect])
    have hutf8 : ∀ text : Text, utf8Len text = sqlTextBytes target text := by
      intro text
      rw [sqlTextBytes, if_neg htarget]
    -- every row gives its two parentheses away
    have hvalues : rowsBytes target rows =
        (rows.map fun row => sqlTextBytes target row.values).sum + 2 * rows.length := by
      clear hempty hrows
      induction rows with
      | nil => rfl
      | cons row rows ih =>
        simp only [rowsBytes, map_cons, sum_cons, length_cons] at ih ⊢
        rw [ih, sqlTextBytes_text htarget]
        omega
    simp only [hutf8, stripParentheses_text, sqlTextBytes_append, sqlTextBytes_joinTexts,
      sum_map_append, length_map, hvalues]
    omega
  | none =>
    rcases hinto : template.oracleIntoStart with _ | start
    · exact (sqlTextBytes_buildStandard target rows).symm
    by_cases hmany : 1 < rows.length
    · simp only [if_pos hmany, sqlTextBytes_append, sqlTextBytes_joinTexts, sum_map_append,
        length_map, rowsBytes]
      omega
    · simp only [if_neg hmany]
      exact (sqlTextBytes_buildStandard target rows).symm

end InsertSqlTemplate

end DbxSpec.Transfer
