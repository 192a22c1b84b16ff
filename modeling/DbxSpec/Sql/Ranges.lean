import DbxSpec.Sql.Splitter

/-!
# The range splitter of the editor

`split_sql_statement_ranges_with_options` of `crates/dbx-sql-core/src/sql.rs:1550-1849`. It walks
an index over the whole text and looks ahead, where the streaming splitter remembers the
previous character. The text before the index is kept in two parts, cut at `start`. The
source slices `sql[start..line_start]` without comparing the two offsets, so a step can
panic; such a step has no result.
-/

namespace DbxSpec.Sql

open DbxSpec.Base

/-- `sql.rs:1358`; `stop` is the field `end`. -/
structure SqlStatementRange where
  text : Text
  start : Nat
  stop : Nat
  deriving DecidableEq, Repr

/-- `sql.rs:1851`, on the slice and the offset at which it starts. -/
def pushStatementRange (options : SqlParsingOptions) (start : Nat) (slice : Text) :
    List SqlStatementRange :=
  match executableSqlBounds slice options with
  | none => []
  | some (relativeStart, relativeEnd) =>
    let text := (slice.take relativeEnd).drop relativeStart
    if text.isEmpty then [] else [⟨text, start + relativeStart, start + relativeEnd⟩]

/-- `sql.rs:1899`, on `sql[range_start..index]`. -/
def isOnDelimiterLine (options : SqlParsingOptions) (text : Text) : Bool :=
  let line := trimStart (lastLine text)
  line.length ≥ 9 && eqIgnoreAsciiCase (line.take 9) "delimiter" &&
    !hasExecutableSqlWithOptions (trim (throughLastNewline text)) options

/-- The locals of the loop: `before` is `sql[..start]` and `current` is `sql[start..i]`. -/
structure RangeSplitter where
  before : Text := []
  current : Text := []
  inSingleQuote : Bool := false
  inDoubleQuote : Bool := false
  inBacktick : Bool := false
  inLineComment : Bool := false
  blockCommentDepth : Nat := 0
  dollarQuoteTag : Option Text := none
  customDelimiter : Option Text := none
  singleQuoteEscapeString : Bool := false
  postgresDollarQuotedRoutine : Bool := false
  oracleBlock : OraclePlSqlBlockTracker := {}
  oracleBlockStart : Nat := 0
  deriving DecidableEq, Repr

namespace RangeSplitter

/-- What a step of the range splitter yields. -/
abbrev Step := ScanStep RangeSplitter SqlStatementRange

/-- The offset `start`. -/
def start (r : RangeSplitter) : Nat := r.before.length

/-- Move the index past a text. -/
def consume (r : RangeSplitter) (text : Text) : RangeSplitter :=
  { r with current := r.current ++ text }

/-- Start the next statement at the index. -/
def restart (r : RangeSplitter) : RangeSplitter :=
  { r with
    before := r.before ++ r.current
    current := []
    postgresDollarQuotedRoutine := false }

/-- Outside every quoted run. -/
def outsideQuotes (r : RangeSplitter) : Bool :=
  !r.inSingleQuote && !r.inDoubleQuote && !r.inBacktick

section

variable (x : Externals) (options : SqlParsingOptions)

/-! ### Steps inside comments and literals -/

variable (r : RangeSplitter)

/-- `sql.rs:1567-1575`. -/
def dollarQuotedStep (tag : Text) (ch : Char) (rest : Text) : Step :=
  if tag.isPrefixOf (ch :: rest) then
    ⟨{ r.consume tag with dollarQuoteTag := none }, [], tag.length - 1⟩
  else ⟨r.consume [ch], [], 0⟩

variable (ch : Char)

/-- `sql.rs:1580-1586`. -/
def lineCommentStep : Step :=
  ⟨{ r.consume [ch] with inLineComment := ch != '\n' }, [], 0⟩

variable (rest : Text)

/-- `sql.rs:1588-1599`. -/
def blockCommentStep : Step :=
  if ch == '*' && rest.head? == some '/' then
    ⟨{ r.consume ['*', '/'] with blockCommentDepth := r.blockCommentDepth - 1 }, [], 1⟩
  else if options.profile.supportsNestedBlockComments && ch == '/' && rest.head? == some '*' then
    ⟨{ r.consume ['/', '*'] with blockCommentDepth := r.blockCommentDepth + 1 }, [], 1⟩
  else ⟨r.consume [ch], [], 0⟩

/-! ### Openers in code -/

/-- `sql.rs:1602-1607`: the length of a q-quoted literal that starts here. The introducer is
looked for in everything before the index. -/
def oracleQQuoteAt : Option Nat :=
  if options.profile.supportsOracleQQuotes && ch == '\'' &&
      endsWithOracleQQuotePrefix x (r.before ++ r.current) then oracleQQuoteEnd (ch :: rest)
  else none

/-- The tag that opens a dollar quote here, `sql.rs:1626-1629`. -/
def openingDollarTag : Option Text :=
  if options.profile.supportsDollarQuotedStrings && r.customDelimiter.isNone &&
      !isOnDelimiterLine options r.current then dollarQuoteTagAtStr (ch :: rest)
  else none

/-- `sql.rs:1602-1639`: what opens a q-quote, a comment or a dollar quote in code, tried in this
order. -/
def openerStep : Option Step :=
  match r.oracleQQuoteAt x options ch rest with
  | some length => some ⟨r.consume ((ch :: rest).take length), [], length - 1⟩
  | none =>
    if ch == '-' && rest.head? == some '-' &&
        dashDashStartsLineComment options.profile rest.tail.head? then
      some ⟨{ r.consume ['-', '-'] with inLineComment := true }, [], 1⟩
    else if options.profile.supportsHashLineComments && ch == '#' then
      some ⟨{ r.consume [ch] with inLineComment := true }, [], 0⟩
    else if ch == '/' && rest.head? == some '*' then
      some ⟨{ r.consume ['/', '*'] with blockCommentDepth := 1 }, [], 1⟩
    else match r.openingDollarTag options ch rest with
      | some tag =>
        let routine := r.postgresDollarQuotedRoutine ||
          (options.profile.supportsPostgresDollarQuotedRoutines &&
            startsWithPostgresDollarQuotedRoutinePrefix x r.current)
        some ⟨{ r.consume tag with
          dollarQuoteTag := some tag
          postgresDollarQuotedRoutine := routine }, [], tag.length - 1⟩
      | none => none

/-! ### Command lines -/

/-- The line that ends at the index. -/
def line : Text := trim (lastLine (r.before ++ r.current))

/-- `sql[start..line_start]`, which has no value when the statement starts after its line. -/
def beforeLine : Option Text :=
  let lineStart := (throughLastNewline (r.before ++ r.current)).length
  if r.start ≤ lineStart then some (r.current.take (lineStart - r.start)) else none

/-- `sql.rs:1640-1669`, at a line feed in code: nothing if the step panics, and otherwise the
step if the line is a command. -/
def lineStep : Option (Option Step) :=
  let next := (r.consume ['\n']).restart
  if options.profile.supportsSlashLineBlockDelimiter && r.line == ['/'] then do
    let text ← r.beforeLine
    return some ⟨next, pushStatementRange options r.start text, 0⟩
  else if options.profile.supportsCustomDelimiterCommands then
    match parseDelimiterCommand r.line with
    | none => some none
    | some delimiter => do
      let text ← r.beforeLine
      if hasExecutableSqlWithOptions text options then return none
      else return some ⟨
        { next with customDelimiter := if delimiter = [';'] then none else some delimiter },
        if hasExecutableSqlWithOptions (trim text) options then
          pushStatementRange options r.start text
        else [], 0⟩
  else some none

/-! ### Ordinary characters -/

/-- The end of a statement at the `;` read here: the range runs to the `;` or includes it. -/
def endAt (slice : Text) : RangeSplitter × List SqlStatementRange :=
  ((r.consume [';']).restart, pushStatementRange options r.start slice)

/-- A block that keeps its `;`: the statement ends here when the block is complete. -/
def endBlockIf (complete : Bool) : RangeSplitter × List SqlStatementRange :=
  if complete then r.endAt options (r.current ++ [';']) else (r.consume [';'], [])

/-- `sql.rs:1772-1782`: the ranges of the pieces between the boundaries. -/
def pieceRanges : Nat → List Text → List SqlStatementRange
  | _, [] => []
  | start, piece :: pieces =>
    pushStatementRange options start piece ++ pieceRanges (start + piece.length) pieces

/-- `sql.rs:1759-1805`: a complete control-flow batch. The boundary loop is the one of the
streaming splitter. -/
def sqlserverBatchEnd : RangeSplitter × List SqlStatementRange :=
  let (pieces, trailing) := SqlStatementSplitter.sqlserverPieces r.current.length r.current
  if pieces.isEmpty then r.endAt options (r.current ++ [';'])
  else
    let next := (r.consume [';']).restart
    let batches := pieceRanges options r.start pieces
    let trailingStart := r.start + pieces.flatten.length
    if (trim trailing).isEmpty then (next, batches)
    else if keepsSqlserverControlFlowBatch options trailing then
      if sqlserverControlFlowBatchIsComplete trailing then
        (next, batches ++ pushStatementRange options trailingStart (trailing ++ [';']))
      else
        -- the remainder opens a new batch: only `start` moves
        ({ r with before := r.before ++ pieces.flatten, current := trailing ++ [';'] }, batches)
    else (next, batches ++ pushStatementRange options trailingStart trailing)

/-- `sql.rs:1730-1808`: the `;` of a statement that no routine or PL/SQL block holds open. -/
def semicolonOutsidePlSql : RangeSplitter × List SqlStatementRange :=
  let candidate := r.current ++ [';']
  if options.profile.supportsHanaScriptBlocks && startsWithHanaScriptBlock x r.current then
    r.endBlockIf options (hanaScriptBlockIsComplete x candidate)
  else if options.profile.supportsFirebirdRoutineBlocks &&
      startsWithFirebirdRoutineBlock x r.current then
    r.endBlockIf options (firebirdRoutineBlockIsComplete x candidate)
  else if keepsSqlserverControlFlowBatch options r.current then
    if sqlserverControlFlowBatchIsComplete candidate then r.sqlserverBatchEnd options
    else (r.consume [';'], [])
  else r.endAt options r.current

/-- `sql.rs:1718-1721`: the tracker belongs to the statement that starts at `start`. -/
def trackStatement : RangeSplitter :=
  if r.oracleBlockStart ≠ r.start then
    { r with oracleBlock := {}, oracleBlockStart := r.start }
  else r

/-- `sql.rs:1709-1812`. -/
def semicolon : RangeSplitter × List SqlStatementRange :=
  if options.profile.supportsMysqlRoutineBlocks && startsWithMysqlRoutineBlock r.current then
    if mysqlRoutineBlockIsComplete (r.current ++ [';']) then r.endAt options r.current
    else (r.consume [';'], [])
  else
    let r := r.trackStatement
    if r.postgresDollarQuotedRoutine then r.semicolonOutsidePlSql x options
    else
      let (keeps, tracker) := r.oracleBlock.keepsBlockTogether x options r.current
      let r := { r with oracleBlock := tracker }
      if keeps then
        let (complete, tracker) := r.oracleBlock.isComplete x (r.current ++ [';'])
        { r with oracleBlock := tracker }.endBlockIf options complete
      else r.semicolonOutsidePlSql x options

/-- `sql.rs:1814-1826`: any other character, at which the custom delimiter may end. -/
def otherChar : RangeSplitter × List SqlStatementRange :=
  let r := r.consume [ch]
  if r.outsideQuotes then
    match r.customDelimiter with
    | some delimiter =>
      if endsWith r.current delimiter && !isOnDelimiterLine options r.current then
        (r.restart, pushStatementRange options r.start
          (r.current.take (r.current.length - delimiter.length)))
      else (r, [])
    | none => (r, [])
  else (r, [])

/-- `sql.rs:1672`. -/
def singleQuoteBackslashEscapes : Bool :=
  if r.inSingleQuote then r.singleQuoteEscapeString
  else options.profile.supportsBackslashEscapedQuotes

/-- `sql.rs:1678-1827`: the `match` on the character. -/
def matchChar : RangeSplitter × List SqlStatementRange :=
  if ch == '\'' && !(r.inDoubleQuote || r.inBacktick ||
      (r.singleQuoteBackslashEscapes options && hasOddTrailingBackslashes r.current)) then
    let opens := !r.inSingleQuote
    ({ r.consume [ch] with
      inSingleQuote := opens
      singleQuoteEscapeString := opens &&
        (options.profile.supportsBackslashEscapedQuotes ||
          (options.profile.supportsPostgresEscapeStrings &&
            endsWithEscapeStringPrefix x r.current)) }, [])
  else if ch == '"' && !(r.inSingleQuote || r.inBacktick ||
      (options.profile.supportsBackslashEscapedQuotes && hasOddTrailingBackslashes r.current)) then
    ({ r.consume [ch] with inDoubleQuote := !r.inDoubleQuote }, [])
  else if ch == '`' && options.profile.supportsBacktickIdentifiers && !r.inSingleQuote &&
      !r.inDoubleQuote then
    ({ r.consume [ch] with inBacktick := !r.inBacktick }, [])
  else if ch == ';' && r.outsideQuotes && r.customDelimiter.isNone &&
      !(options.profile.supportsCustomDelimiterCommands && isOnDelimiterLine options r.current) then
    r.semicolon x options
  else r.otherChar options ch

/-! ### The loop -/

/-- The `match` as a step. -/
def ordinaryStep : Step :=
  let matched := r.matchChar x options ch
  ⟨matched.1, matched.2, 0⟩

/-- `sql.rs:1601-1827`: a step outside quotes, comments and dollar quotes. -/
def codeStep : Option Step :=
  match r.openerStep x options ch rest with
  | some opened => some opened
  | none =>
    if ch == '\n' then (r.lineStep options).map (·.getD (r.ordinaryStep x options ch))
    else some (r.ordinaryStep x options ch)

/-- `sql.rs:1566-1828`: the body of the loop. -/
def step : Option Step :=
  match r.dollarQuoteTag with
  | some tag => some (r.dollarQuotedStep tag ch rest)
  | none =>
    if r.inLineComment then some (r.lineCommentStep ch)
    else if r.blockCommentDepth > 0 then some (r.blockCommentStep options ch rest)
    else if r.outsideQuotes then r.codeStep x options ch rest
    else some (r.ordinaryStep x options ch)

/-- The loop; a step that panics ends it for good. -/
def scanner : Scanner (Option RangeSplitter) Char SqlStatementRange :=
  Scanner.fallible (step x options)

/-- `sql.rs:1830-1846`. -/
def finish : List SqlStatementRange :=
  let trimmed := trim r.current
  let lastLine' := trim (lastLine trimmed)
  let beforeLastLine := trim (beforeLastNewline trimmed)
  let untilLastLine :=
    if r.current.contains '\n' then
      pushStatementRange options r.start (throughLastNewline r.current)
    else []
  if options.profile.supportsCustomDelimiterCommands && (parseDelimiterCommand lastLine').isSome &&
      !hasExecutableSqlWithOptions beforeLastLine options then untilLastLine
  else if options.profile.supportsSlashLineBlockDelimiter && lastLine' == ['/'] then untilLastLine
  else pushStatementRange options r.start r.current

end

end RangeSplitter

/-- `sql.rs:1550`; nothing if the function panics. -/
def splitSqlStatementRangesWithOptions (x : Externals) (sql : Text) (options : SqlParsingOptions) :
    Option (List SqlStatementRange) :=
  let scanned := (RangeSplitter.scanner x options).scan 0 (some {}) sql
  scanned.1.map (fun r => scanned.2 ++ r.finish options)

end DbxSpec.Sql
