import DbxSpec.Base.Scanner
import DbxSpec.Sql.PlSql

/-!
# The streaming statement splitter

`SqlStatementSplitter` of `crates/dbx-sql-core/src/sql.rs:697-1212`. The body of the source's
`while` loop is cut into named stages in the order in which it tries them; a stage that
ends in `continue` is a step of its own. psql control commands are a second loop around
the first, since an unsupported command is fed back with those commands switched off.
-/

namespace DbxSpec.Sql

open DbxSpec.Base

/-- `sql.rs:725`. -/
structure SqlStatementWithControl where
  sql : Text
  stopOnError : Bool
  deriving DecidableEq, Repr

/-- `sql.rs:697`; the options are passed beside the state. -/
structure SqlStatementSplitter where
  buffer : Text := []
  inSingleQuote : Bool := false
  singleQuoteEscapeString : Bool := false
  inDoubleQuote : Bool := false
  inBacktick : Bool := false
  inLineComment : Bool := false
  blockCommentDepth : Nat := 0
  dollarQuoteTag : Option Text := none
  postgresDollarQuotedRoutine : Bool := false
  previous : Option Char := none
  pendingMysqlLineCommentDashes : Bool := false
  oracleQQuote : OracleQQuoteState := {}
  oracleBlock : OraclePlSqlBlockTracker := {}
  customDelimiter : Option Text := none
  stopOnError : Bool := false
  pendingPsqlCommand : Option Text := none
  deriving DecidableEq, Repr

namespace SqlStatementSplitter

/-- What a step of the splitter yields. -/
abbrev Step := ScanStep SqlStatementSplitter SqlStatementWithControl

/-- Append a character to the buffer and remember it. -/
def pushChar (s : SqlStatementSplitter) (ch : Char) : SqlStatementSplitter :=
  { s with buffer := s.buffer ++ [ch], previous := some ch }

/-- Append a whole dollar tag; its last character becomes the previous one. -/
def pushTag (s : SqlStatementSplitter) (tag : Text) : SqlStatementSplitter :=
  { s with buffer := s.buffer ++ tag, previous := tag.getLast?.or s.previous }

/-- A step without output that consumes one character. -/
def silently (s : SqlStatementSplitter) : Step := ⟨s, [], 0⟩

/-- Outside every quoted run. -/
def outsideQuotes (s : SqlStatementSplitter) : Bool :=
  !s.inSingleQuote && !s.inDoubleQuote && !s.inBacktick

/-- The statement a text gives rise to once trimmed: one if it holds anything to execute. -/
def statementsOf (options : SqlParsingOptions) (stopOnError : Bool) (text : Text) :
    List SqlStatementWithControl :=
  if hasExecutableSqlWithOptions (trim text) options then [⟨trim text, stopOnError⟩] else []

/-- The resets shared by every place that drops the buffer. -/
def dropBuffer (s : SqlStatementSplitter) : SqlStatementSplitter :=
  { s with
    buffer := []
    oracleBlock := {}
    postgresDollarQuotedRoutine := false
    previous := none }

section

variable (x : Externals) (options : SqlParsingOptions) (s : SqlStatementSplitter)

/-- `sql.rs:1181`: the state afterwards; the statement is `statementsOf` the buffer. -/
def pushCurrentStatement : SqlStatementSplitter × List SqlStatementWithControl :=
  ({ s.dropBuffer with pendingMysqlLineCommentDashes := false },
    statementsOf options s.stopOnError s.buffer)

/-- `sql.rs:1197`. -/
def singleQuoteBackslashEscapes : Bool :=
  if s.inSingleQuote then s.singleQuoteEscapeString
  else options.profile.supportsBackslashEscapedQuotes

/-- `sql.rs:1205`. -/
def onDelimiterLine : Bool :=
  let line := trimStart (lastLine s.buffer)
  line.length ≥ 9 && eqIgnoreAsciiCase (line.take 9) "delimiter" &&
    !hasExecutableSqlWithOptions (trim (throughLastNewline s.buffer)) options

/-! ### Steps inside comments and literals -/

/-- `sql.rs:794-811`. -/
def dollarQuotedStep (tag : Text) (ch : Char) (rest : Text) : Step :=
  if tag.isPrefixOf (ch :: rest) then
    ⟨{ s.pushTag tag with dollarQuoteTag := none }, [], tag.length - 1⟩
  else silently (s.pushChar ch)

variable (ch : Char)

/-- `sql.rs:816-824`. -/
def lineCommentStep : Step :=
  silently { s.pushChar ch with inLineComment := ch != '\n' }

/-- `sql.rs:826-840`. -/
def blockCommentStep : Step :=
  if options.profile.supportsNestedBlockComments && s.previous == some '/' && ch == '*' then
    silently { s.pushChar ch with
      blockCommentDepth := s.blockCommentDepth + 1
      previous := none }
  else if s.previous == some '*' && ch == '/' then
    silently { s.pushChar ch with blockCommentDepth := s.blockCommentDepth - 1 }
  else silently (s.pushChar ch)

/-- `sql.rs:842-848`. -/
def oracleQQuoteStep : Step :=
  silently { s.pushChar ch with oracleQQuote := s.oracleQQuote.consume ch s.previous }

/-! ### Openers in code -/

variable (rest : Text)

/-- The tag that opens a dollar quote here, `sql.rs:900-907`. -/
def openingDollarTag : Option Text :=
  if options.profile.supportsDollarQuotedStrings && s.customDelimiter.isNone &&
      !s.onDelimiterLine options then dollarQuoteTagAt (ch :: rest)
  else none

/-- `sql.rs:850-922`: what opens a comment, a q-quote or a dollar quote in code, tried in this
order. -/
def openerStep : Option Step :=
  let dashes := s.previous == some '-' && ch == '-'
  if options.profile.supportsOracleQQuotes && ch == '\'' &&
      endsWithOracleQQuotePrefix x s.buffer then
    some (silently { s.pushChar ch with
      oracleQQuote := { s.oracleQQuote with awaitingDelimiter := true } })
  else if dashes && options.profile.requiresWhitespaceAfterLineCommentDashes &&
      rest.isEmpty then
    some (silently { s.pushChar ch with pendingMysqlLineCommentDashes := true })
  else if dashes && dashDashStartsLineComment options.profile rest.head? then
    some (silently { s.pushChar ch with inLineComment := true })
  else if s.previous == some '/' && ch == '*' then
    some (silently { s.pushChar ch with blockCommentDepth := 1, previous := none })
  else if options.profile.supportsHashLineComments && ch == '#' then
    some (silently { s.pushChar ch with inLineComment := true })
  else if ch == '/' && rest.head? == some '*' then
    some (silently { s.pushChar ch with blockCommentDepth := 1, previous := none })
  else match s.openingDollarTag options ch rest with
    | some tag =>
      let routine := s.postgresDollarQuotedRoutine ||
        (options.profile.supportsPostgresDollarQuotedRoutines &&
          startsWithPostgresDollarQuotedRoutinePrefix x s.buffer)
      some ⟨{ s.pushTag tag with
        dollarQuoteTag := some tag
        postgresDollarQuotedRoutine := routine }, [], tag.length - 1⟩
    | none => none

/-! ### Ordinary characters -/

/-- Append a character to the buffer only. -/
def append : SqlStatementSplitter :=
  { s with buffer := s.buffer ++ [ch] }

/-- The boundary loop of `sql.rs:1011-1017` and the pieces it cuts off: the batches that end
before the last boundary, and the text after it. -/
def sqlserverPieces : Nat → Text → List Text × Text
  | 0, body => ([], body)
  | fuel + 1, body =>
    match sqlserverControlFlowBatchBoundary body with
    | none => ([], body)
    | some relative =>
      if relative ≥ body.length then ([], body)
      else
        let later := sqlserverPieces fuel (body.drop relative)
        (body.take relative :: later.1, later.2)

/-- `sql.rs:1007-1046`: a complete control-flow batch, with `s.buffer` the text before the `;`. -/
def sqlserverBatchEnd : SqlStatementSplitter × List SqlStatementWithControl :=
  let (pieces, trailing) := sqlserverPieces s.buffer.length s.buffer
  if pieces.isEmpty then (s.append ';').pushCurrentStatement options
  else
    let batches := pieces.flatMap (statementsOf options s.stopOnError)
    let cleared := { s.dropBuffer with pendingMysqlLineCommentDashes := false }
    if (trim trailing).isEmpty then (cleared, batches)
    else if keepsSqlserverControlFlowBatch options trailing then
      -- the remainder starts a batch of its own, which keeps the `;`
      let open_ := { cleared with buffer := trailing ++ [';'] }
      if sqlserverControlFlowBatchIsComplete trailing then
        let closed := open_.pushCurrentStatement options
        (closed.1, batches ++ closed.2)
      else (open_, batches)
    else
      let closed := { cleared with buffer := trailing }.pushCurrentStatement options
      (closed.1, batches ++ closed.2)

/-- A block that keeps its `;`: the statement ends here when the block is complete. -/
def endBlockIf (complete : Bool) : SqlStatementSplitter × List SqlStatementWithControl :=
  if complete then (s.append ';').pushCurrentStatement options else (s.append ';', [])

/-- `sql.rs:980-1050`: the `;` of a statement that no routine or PL/SQL block holds open. -/
def semicolonOutsidePlSql : SqlStatementSplitter × List SqlStatementWithControl :=
  let candidate := s.buffer ++ [';']
  if options.profile.supportsHanaScriptBlocks && startsWithHanaScriptBlock x s.buffer then
    s.endBlockIf options (hanaScriptBlockIsComplete x candidate)
  else if options.profile.supportsFirebirdRoutineBlocks &&
      startsWithFirebirdRoutineBlock x s.buffer then
    s.endBlockIf options (firebirdRoutineBlockIsComplete x candidate)
  else if keepsSqlserverControlFlowBatch options s.buffer then
    if sqlserverControlFlowBatchIsComplete candidate then s.sqlserverBatchEnd options
    else (s.append ';', [])
  else s.pushCurrentStatement options

/-- `sql.rs:951-1051`. -/
def semicolon : SqlStatementSplitter × List SqlStatementWithControl :=
  if endsWithXmlEntityReference s.buffer then (s.append ';', [])
  else if (options.profile.supportsCustomDelimiterCommands && s.onDelimiterLine options) ||
      s.customDelimiter.isSome then (s.append ';', [])
  else if options.profile.supportsMysqlRoutineBlocks && startsWithMysqlRoutineBlock s.buffer then
    if mysqlRoutineBlockIsComplete (s.buffer ++ [';']) then s.pushCurrentStatement options
    else (s.append ';', [])
  else if s.postgresDollarQuotedRoutine then s.semicolonOutsidePlSql x options
  else
    -- asking the tracker advances it, whatever it answers
    let (keeps, tracker) := s.oracleBlock.keepsBlockTogether x options s.buffer
    let s := { s with oracleBlock := tracker }
    if keeps then
      let (complete, tracker) := s.oracleBlock.isComplete x (s.buffer ++ [';'])
      { s with oracleBlock := tracker }.endBlockIf options complete
    else s.semicolonOutsidePlSql x options

/-- `sql.rs:924-1053`: the `match` on the character. -/
def matchChar : SqlStatementSplitter × List SqlStatementWithControl :=
  if ch == '\'' && !(s.inDoubleQuote || s.inBacktick ||
      (s.singleQuoteBackslashEscapes options && hasOddTrailingBackslashes s.buffer)) then
    let opens := !s.inSingleQuote
    ({ s.append ch with
      inSingleQuote := opens
      singleQuoteEscapeString := opens &&
        (options.profile.supportsBackslashEscapedQuotes ||
          (options.profile.supportsPostgresEscapeStrings &&
            endsWithEscapeStringPrefix x s.buffer)) }, [])
  else if ch == '"' && !(s.inSingleQuote || s.inBacktick ||
      (options.profile.supportsBackslashEscapedQuotes && hasOddTrailingBackslashes s.buffer)) then
    ({ s.append ch with inDoubleQuote := !s.inDoubleQuote }, [])
  else if ch == '`' && options.profile.supportsBacktickIdentifiers && !s.inSingleQuote &&
      !s.inDoubleQuote then
    ({ s.append ch with inBacktick := !s.inBacktick }, [])
  else if ch == ';' && s.outsideQuotes then s.semicolon x options
  else (s.append ch, [])

/-! ### Ends of lines and custom delimiters -/

/-- `sql.rs:1056-1103`, on a buffer that ends with the line feed just read: a `/` line or a
`DELIMITER` line takes effect. -/
def lineEnd : Option (SqlStatementSplitter × List SqlStatementWithControl) :=
  let text := s.buffer.dropLast
  let line := trim (lastLine text)
  let before := throughLastNewline text
  if options.profile.supportsSlashLineBlockDelimiter && line == ['/'] then
    some (s.dropBuffer, statementsOf options s.stopOnError before)
  else if options.profile.supportsCustomDelimiterCommands &&
      !hasExecutableSqlWithOptions before options then
    match parseDelimiterCommand line with
    | some delimiter =>
      some ({ s.dropBuffer with
        customDelimiter := if delimiter = [';'] then none else some delimiter },
        if before.isEmpty then [] else statementsOf options s.stopOnError before)
    | none => none
  else none

/-- What a line that takes effect does: a `/` line ends the statement before it, and a
`DELIMITER` line with nothing to execute before it switches the delimiter. -/
theorem lineEnd_some {options : SqlParsingOptions} {s : SqlStatementSplitter}
    {ended : SqlStatementSplitter × List SqlStatementWithControl}
    (h : s.lineEnd options = some ended) :
    (trim (lastLine s.buffer.dropLast) = ['/'] ∧ ended = (s.dropBuffer,
        statementsOf options s.stopOnError (throughLastNewline s.buffer.dropLast))) ∨
    ∃ delimiter, parseDelimiterCommand (trim (lastLine s.buffer.dropLast)) = some delimiter ∧
      hasExecutableSqlWithOptions (throughLastNewline s.buffer.dropLast) options = false ∧
      ended = ({ s.dropBuffer with
        customDelimiter := if delimiter = [';'] then none else some delimiter },
        if (throughLastNewline s.buffer.dropLast).isEmpty then []
        else statementsOf options s.stopOnError (throughLastNewline s.buffer.dropLast)) := by
  revert h
  fun_cases s.lineEnd options with
  | case1 _ _ _ hslash =>
    simp only [Bool.and_eq_true, beq_iff_eq] at hslash
    exact fun h => .inl ⟨hslash.2, (Option.some.inj h).symm⟩
  | case2 _ _ _ _ hidle delimiter hd =>
    simp only [Bool.and_eq_true, Bool.not_eq_true'] at hidle
    exact fun h => .inr ⟨delimiter, hd, hidle.2, (Option.some.inj h).symm⟩
  | case3 | case4 => nofun

/-- `sql.rs:1104-1114`. -/
def customDelimiterEnd : SqlStatementSplitter × List SqlStatementWithControl :=
  match s.customDelimiter with
  | some delimiter =>
    if endsWith s.buffer delimiter && !s.onDelimiterLine options then
      { s with buffer := s.buffer.take (s.buffer.length - delimiter.length) }.pushCurrentStatement
        options
    else (s, [])
  | none => (s, [])

/-- `sql.rs:1055-1118`: what follows the `match` on a character. -/
def afterChar : SqlStatementSplitter × List SqlStatementWithControl :=
  if s.outsideQuotes && s.dollarQuoteTag.isNone then
    match (if ch == '\n' then s.lineEnd options else none) with
    | some ended => ended
    | none =>
      let ended := s.customDelimiterEnd options
      ({ ended.1 with previous := some ch }, ended.2)
  else ({ s with previous := some ch }, [])

/-- `sql.rs:924-1118`. -/
def ordinaryStep : Step :=
  let matched := s.matchChar x options ch
  let ended := matched.1.afterChar options ch
  ⟨ended.1, matched.2 ++ ended.2, 0⟩

/-! ### The loop -/

/-- The body of the loop from `sql.rs:794` on. -/
def plainStep : Step :=
  match s.dollarQuoteTag with
  | some tag => s.dollarQuotedStep tag ch rest
  | none =>
    if s.inLineComment then s.lineCommentStep ch
    else if s.blockCommentDepth > 0 then s.blockCommentStep options ch
    else if s.oracleQQuote.isOpen then s.oracleQQuoteStep ch
    else if s.outsideQuotes then
      (s.openerStep x options ch rest).getD (s.ordinaryStep x options ch)
    else s.ordinaryStep x options ch

/-- `sql.rs:760-765`: the first character of a chunk decides about dashes left open by the one
before. -/
def resume (first : Char) : SqlStatementSplitter :=
  if s.pendingMysqlLineCommentDashes then
    { s with
      inLineComment := dashDashStartsLineComment options.profile (some first)
      pendingMysqlLineCommentDashes := false }
  else s

/-- The loop with psql control commands switched off. -/
def plainScanner : Scanner SqlStatementSplitter Char SqlStatementWithControl where
  resume := resume options
  step := plainStep x options

/-- `sql.rs:1124`, on the command that has been taken out of the state. -/
def finishPsqlCommand (command : Text) : SqlStatementSplitter × List SqlStatementWithControl :=
  let s := { s with pendingPsqlCommand := none }
  match parseIgnorablePsqlControlCommand (trim command) with
  | some control => ({ s with stopOnError := s.stopOnError || control == .onErrorStop }, [])
  | none => (plainScanner x options.withoutPsqlControl).push s command

/-- `sql.rs:780-788`: a backslash here starts a psql command. The test does not look at an open
q-quote. -/
def startsPsqlCommand : Bool :=
  options.profile.supportsPsqlControlCommands && ch == '\\' && s.outsideQuotes &&
    !s.inLineComment && s.blockCommentDepth == 0 && s.dollarQuoteTag.isNone &&
    (trim (lastLine s.buffer)).isEmpty

/-- `sql.rs:767-1119`: the body of the loop. -/
def step : Step :=
  match s.pendingPsqlCommand with
  | some command =>
    if ch == '\n' then
      let finished := s.finishPsqlCommand x options (command ++ [ch])
      ⟨finished.1, finished.2, 0⟩
    else silently { s with pendingPsqlCommand := some (command ++ [ch]) }
  | none =>
    if s.startsPsqlCommand options ch then silently { s with pendingPsqlCommand := some ['\\'] }
    else s.plainStep x options ch rest

/-- The splitter as a scanner. -/
def scanner : Scanner SqlStatementSplitter Char SqlStatementWithControl where
  resume := resume options
  step := step x options

/-- `sql.rs:755`. -/
def pushChunkWithControl (chunk : Text) : SqlStatementSplitter × List SqlStatementWithControl :=
  (scanner x options).push s chunk

/-- `sql.rs:1150-1174`, after a pending psql command has been dealt with. -/
def finishBuffer : List SqlStatementWithControl :=
  let trimmed := trim s.buffer
  let line := trim (lastLine trimmed)
  let before := trim (beforeLastNewline trimmed)
  if options.profile.supportsCustomDelimiterCommands && (parseDelimiterCommand line).isSome &&
      !hasExecutableSqlWithOptions before options then
    statementsOf options s.stopOnError before ++ statementsOf options s.stopOnError []
  else if options.profile.supportsSlashLineBlockDelimiter && line == ['/'] then
    statementsOf options s.stopOnError before ++ statementsOf options s.stopOnError []
  else match s.customDelimiter with
    | some delimiter =>
      if endsWith s.buffer delimiter then
        statementsOf options s.stopOnError (s.buffer.take (s.buffer.length - delimiter.length))
      else statementsOf options s.stopOnError s.buffer
    | none => statementsOf options s.stopOnError s.buffer

/-- `sql.rs:1141`. The line comment flag it sets for pending dashes is read by nothing after. -/
def finishWithControl : List SqlStatementWithControl :=
  match s.pendingPsqlCommand with
  | some command =>
    let finished := s.finishPsqlCommand x options command
    finished.2 ++ finished.1.finishBuffer options
  | none => s.finishBuffer options

end

end SqlStatementSplitter

/-- `sql.rs:1350`. -/
def splitSqlStatementsWithOptions (x : Externals) (sql : Text) (options : SqlParsingOptions) :
    List Text :=
  let pushed := ({} : SqlStatementSplitter).pushChunkWithControl x options sql
  (pushed.2 ++ pushed.1.finishWithControl x options).map SqlStatementWithControl.sql

end DbxSpec.Sql
