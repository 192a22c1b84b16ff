import DbxSpec.Sql.LeadingText

/-!
# Ordinary characters in the two statement splitters

The streaming splitter of the executor (`crates/dbx-sql-core/src/sql.rs:697-1212`) and the range
splitter of the editor (`sql.rs:1550-1849`) read the same grammar in two ways.
`stepIsRegular` and `finishIsRegular` name what has to hold of the text for them to agree;
a text that fails them can make them disagree. This module relates their states and the
steps that end statements: the `match` on a character and the end of a line.
-/

namespace DbxSpec.Sql

open DbxSpec.Base SqlStatementSplitter List

namespace RangeSplitter

section

variable (x : Externals) (options : SqlParsingOptions)

/-! ### Where the two read alike -/

variable (r : RangeSplitter) (ch : Char)

/-- The custom delimiter ends at this character. -/
def delimiterEndsAt : Bool :=
  r.customDelimiter.any (endsWith (r.current ++ [ch])) &&
    !isOnDelimiterLine options (r.current ++ [ch])

/-- The quote that would close the open run. -/
def closesQuote : Bool :=
  (r.inSingleQuote && ch == '\'') || (r.inDoubleQuote && ch == '"') || (r.inBacktick && ch == '`')

/-- At a quote in code: the introducer lies in the statement, and a q-quote is closed and does
not go on with a quote right after a delimiter that closes itself. -/
def quoteIsRegular (rest : Text) : Bool :=
  endsWithOracleQQuotePrefix x (r.before ++ r.current) == endsWithOracleQQuotePrefix x r.current &&
    (!endsWithOracleQQuotePrefix x r.current ||
      ((oracleQQuoteEnd ('\'' :: rest)).isSome &&
        !(rest.head?.any (fun opening => oracleQQuoteCloser opening == some opening) &&
          rest.tail.head? == some '\'')))

/-- A `/` line or a `DELIMITER` line, if nothing to execute stands before it. -/
def isCommandLine (line : Text) : Bool :=
  (options.profile.supportsSlashLineBlockDelimiter && line == ['/']) ||
    (options.profile.supportsCustomDelimiterCommands && (parseDelimiterCommand line).isSome)

/-- At a line feed in code: the statement starts on an earlier line or at the start of this one,
or neither what stands on the whole line nor what the statement has of it is a command. -/
def lineIsRegular : Bool :=
  lastLine (r.before ++ r.current) == lastLine r.current ||
    (!isCommandLine options r.line && !isCommandLine options (trim (lastLine r.current)))

/-- At a `;` in code: it does not close an XML entity, and the pieces of a control-flow batch
have regular starts. -/
def semicolonIsRegular : Bool :=
  !endsWithXmlEntityReference r.current &&
    if keepsSqlserverControlFlowBatch options r.current then
      let cut := sqlserverPieces r.current.length r.current
      !r.postgresDollarQuotedRoutine && cut.1.all (leadingIsRegular options) &&
        leadingIsRegular options (cut.2 ++ [';'])
    else true

/-- A step in code that both splitters take alike. -/
def codeIsRegular (rest : Text) : Bool :=
  if ch == '\'' then !options.profile.supportsOracleQQuotes || r.quoteIsRegular x rest
  else if ch == '-' then
    !(rest.head? == some '-' && dashDashStartsLineComment options.profile rest.tail.head? &&
      r.delimiterEndsAt options ch)
  else if ch == '/' then !(rest.head? == some '*' && rest.tail.head? == some '/')
  else if ch == '$' then
    !(rest.head?.any Char.isDigit && (r.openingDollarTag options ch rest).isSome)
  else if ch == '\n' then r.lineIsRegular options
  else if ch == ';' then
    r.customDelimiter.isSome ||
      (options.profile.supportsCustomDelimiterCommands && isOnDelimiterLine options r.current) ||
      r.semicolonIsRegular options
  else true

/-- A step that both splitters take alike: the statement has a regular start, no `*` follows the
end of a comment, no custom delimiter ends at a closing quote, and a step in code is
regular. -/
def stepIsRegular (rest : Text) : Bool :=
  leadingIsRegular options (r.current ++ ch :: rest) &&
    if r.dollarQuoteTag.isSome || r.inLineComment then true
    else if r.blockCommentDepth > 0 then
      !(ch == '*' && rest.head? == some '/' && rest.tail.head? == some '*')
    else if r.outsideQuotes then r.codeIsRegular x options ch rest
    else !(r.closesQuote ch && r.delimiterEndsAt options ch)

/-- The end of the input is taken alike: a last line that is a command is the last line of the
text as well as of the trimmed text, and otherwise the text does not end with the custom
delimiter. -/
def finishIsRegular : Bool :=
  let trimmed := trim r.current
  let line := trim (lastLine trimmed)
  leadingIsRegular options r.current &&
    if (options.profile.supportsCustomDelimiterCommands && (parseDelimiterCommand line).isSome &&
        !hasExecutableSqlWithOptions (trim (beforeLastNewline trimmed)) options) ||
        (options.profile.supportsSlashLineBlockDelimiter && line == ['/']) then
      !r.current.contains '\n' || !(trim (lastLine r.current)).isEmpty
    else !r.customDelimiter.any (endsWith r.current)

end

/-! ### Related states -/

/-- The tracker of the statement that starts at `start`. -/
def tracker (r : RangeSplitter) : OraclePlSqlBlockTracker :=
  if r.oracleBlockStart = r.start then r.oracleBlock else {}

/-- The streaming splitter at the same place, with its memory of the previous character. -/
def toSplitter (r : RangeSplitter) (previous : Option Char) : SqlStatementSplitter where
  buffer := r.current
  inSingleQuote := r.inSingleQuote
  singleQuoteEscapeString := r.singleQuoteEscapeString
  inDoubleQuote := r.inDoubleQuote
  inBacktick := r.inBacktick
  inLineComment := r.inLineComment
  blockCommentDepth := r.blockCommentDepth
  dollarQuoteTag := r.dollarQuoteTag
  postgresDollarQuotedRoutine := r.postgresDollarQuotedRoutine
  previous := previous
  oracleBlock := r.tracker
  customDelimiter := r.customDelimiter

/-- Inside a block comment. -/
def InComment (r : RangeSplitter) : Prop :=
  r.dollarQuoteTag = none ∧ r.inLineComment = false ∧ 0 < r.blockCommentDepth

/-- Outside quotes, comments and dollar quotes. -/
def InCode (r : RangeSplitter) : Prop :=
  r.dollarQuoteTag = none ∧ r.inLineComment = false ∧ r.blockCommentDepth = 0 ∧
    r.outsideQuotes

/-- The previous character makes no pair with the next one that the range splitter does not see:
it has read the pair already, or has found that it is none. An open dollar quote ends with a
dollar sign, which makes no pair. -/
structure PreviousFits (options : SqlParsingOptions) (r : RangeSplitter) (previous : Option Char)
    (text : Text) : Prop where
  closer : r.InComment → previous = some '*' → text.head? ≠ some '/'
  inner : r.InComment → options.profile.supportsNestedBlockComments →
    previous = some '/' → text.head? ≠ some '*'
  opener : r.InCode → previous = some '/' → text.head? ≠ some '*'
  dashes : r.InCode → previous = some '-' → ∀ rest, text = '-' :: rest →
    dashDashStartsLineComment options.profile rest.head? = false
  tag : ∀ tag ∈ r.dollarQuoteTag, tag.getLast? = some '$'

/-- The two splitters at the same place in the input, with `text` to come. At the end only the
buffer and the delimiter matter. -/
def Related (options : SqlParsingOptions) (r : Option RangeSplitter) (s : SqlStatementSplitter)
    (text : Text) : Prop :=
  ∃ r', r = some r' ∧ r'.oracleBlockStart ≤ r'.start ∧ s.buffer = r'.current ∧
    s.customDelimiter = r'.customDelimiter ∧ s.pendingPsqlCommand = none ∧
    (text ≠ [] → ∃ previous, s = r'.toSplitter previous ∧ r'.PreviousFits options previous text)

/-- The ranges are those of the statements. -/
def SameStatements (options : SqlParsingOptions) (ranges : List SqlStatementRange)
    (statements : List SqlStatementWithControl) : Prop :=
  ranges.map (some ·.text) = statements.map (executableSql options ·.sql)

/-! ### Emitted statements -/

section

variable {options : SqlParsingOptions}

/-- Nothing on both sides. -/
theorem sameStatements_nil : SameStatements options [] [] := rfl

/-- What is emitted one after the other. -/
theorem SameStatements.append {ranges ranges' : List SqlStatementRange}
    {statements statements' : List SqlStatementWithControl}
    (h : SameStatements options ranges statements)
    (h' : SameStatements options ranges' statements') :
    SameStatements options (ranges ++ ranges') (statements ++ statements') := by
  unfold SameStatements at h h' ⊢
  rw [map_append, map_append, h, h']

/-- A slice with a regular start gives rise to the same statement in both splitters. -/
theorem sameStatements_slice (start : Nat) (stopOnError : Bool) {slice : Text}
    (h : leadingIsRegular options slice) :
    SameStatements options (pushStatementRange options start slice)
      (statementsOf options stopOnError slice) := by
  have hend : leadingIsRegular options (trimEnd slice) :=
    leadingIsRegular_of_isPrefix (List.rdropWhile_prefix _ _) h
  have htext : (pushStatementRange options start slice).map SqlStatementRange.text =
      (executableSql options slice).toList := pushStatementRange_text start slice
  have htexts := congrArg (map some) htext
  rw [map_map] at htexts
  unfold SameStatements
  rw [show (pushStatementRange options start slice).map (some ·.text) =
    ((executableSql options slice).toList).map some from htexts,
    statementsOf, hasExecutableSql_trim hend]
  cases hexec : executableSql options slice with
  | none => rfl
  | some text => simp [executableSql_trim hend, hexec]

end

/-! ### Moving the index -/

section

variable {r : RangeSplitter}

private theorem current_consume_ne_nil (text : Text) (hne : text ≠ []) :
    (r.consume text).current ≠ [] := by
  simp [consume, hne]

variable (hbehind : r.oracleBlockStart ≤ r.start)

include hbehind

private theorem tracker_restart (hne : r.current ≠ []) : r.restart.tracker = {} := by
  have hlt : r.start < r.restart.start := by
    have := length_pos_iff.mpr hne
    simp only [restart, start, length_append]
    omega
  rw [tracker, if_neg (show r.restart.oracleBlockStart ≠ r.restart.start from ?_)]
  have heq : r.restart.oracleBlockStart = r.oracleBlockStart := rfl
  omega

private theorem toSplitter_restart (previous : Option Char) (hne : r.current ≠ [])
    (next : Option Char) :
    r.restart.toSplitter next = { (r.toSplitter previous).dropBuffer with previous := next } := by
  rw [toSplitter, tracker_restart hbehind hne]
  rfl

private theorem behind_restart : r.restart.oracleBlockStart ≤ r.restart.start := by
  simp only [restart, start, length_append] at hbehind ⊢
  omega

end

/-! ### The end of a statement -/

/-- What the streaming splitter does in answer to the range splitter: the same place, whatever
the previous character, and the same statements. -/
structure Answers (options : SqlParsingOptions)
    (a : RangeSplitter × List SqlStatementRange)
    (b : SqlStatementSplitter × List SqlStatementWithControl) : Prop where
  behind : a.1.oracleBlockStart ≤ a.1.start
  state : ∃ previous, b.1 = a.1.toSplitter previous
  same : SameStatements options a.2 b.2

section

variable {x : Externals} {options : SqlParsingOptions} {r : RangeSplitter}
  {previous : Option Char} {s : SqlStatementSplitter} {ch : Char}

private theorem Answers.ite {c : Prop} [Decidable c] {a a' : RangeSplitter × List SqlStatementRange}
    {b b' : SqlStatementSplitter × List SqlStatementWithControl} (h : c → Answers options a b)
    (h' : ¬c → Answers options a' b') :
    Answers options (if c then a else a') (if c then b else b') := by
  split
  · next hc => exact h hc
  · next hc => exact h' hc

private theorem pieceRanges_same (stopOnError : Bool) (pieces : List Text) (start : Nat)
    (h : ∀ piece ∈ pieces, leadingIsRegular options piece) :
    SameStatements options (pieceRanges options start pieces)
      (pieces.flatMap (statementsOf options stopOnError)) := by
  induction pieces generalizing start with
  | nil => exact sameStatements_nil
  | cons piece pieces ih =>
    obtain ⟨hpiece, hpieces⟩ := forall_mem_cons.mp h
    exact (sameStatements_slice start stopOnError hpiece).append (ih _ hpieces)

private theorem sqlserverPieces_flatten_ne_nil {fuel : Nat} {body : Text}
    (h : (sqlserverPieces fuel body).1 ≠ []) : (sqlserverPieces fuel body).1.flatten ≠ [] := by
  rcases fuel with _ | fuel
  · exact absurd rfl h
  rw [sqlserverPieces] at h ⊢
  split
  · next hnone =>
    rw [hnone] at h
    exact absurd rfl h
  · next relative hsome =>
    have hpos := sqlserverControlFlowBatchBoundary_pos hsome
    rw [hsome] at h
    dsimp only at h
    split at h
    · exact absurd rfl h
    · next hlt =>
      rw [if_neg hlt, flatten_cons]
      refine append_ne_nil_of_left_ne_nil (length_pos_iff.mp ?_) _
      rw [length_take]
      omega

private theorem toSplitter_trackStatement :
    r.trackStatement.toSplitter previous = r.toSplitter previous := by
  rw [trackStatement]
  split
  · next h =>
    have hfresh : r.tracker = {} := if_neg h
    have hreset : ({ r with oracleBlock := {}, oracleBlockStart := r.start } :
      RangeSplitter).tracker = {} := if_pos rfl
    rw [toSplitter, toSplitter, hfresh, hreset]
  · rfl

private theorem trackStatement_start :
    r.trackStatement.oracleBlockStart = r.trackStatement.start := by
  rw [trackStatement]
  split
  · rfl
  · next h => exact not_not.mp h

private theorem trackStatement_current : r.trackStatement.current = r.current := by
  rw [trackStatement]
  split <;> rfl

private theorem trackStatement_routine :
    r.trackStatement.postgresDollarQuotedRoutine = r.postgresDollarQuotedRoutine := by
  rw [trackStatement]
  split <;> rfl

private theorem semicolonIsRegular_trackStatement :
    r.trackStatement.semicolonIsRegular options = r.semicolonIsRegular options := by
  rw [semicolonIsRegular, semicolonIsRegular, trackStatement_current, trackStatement_routine]

private theorem toSplitter_oracleBlock (h : r.oracleBlockStart = r.start)
    (block : OraclePlSqlBlockTracker) :
    { r with oracleBlock := block }.toSplitter previous =
      { r.toSplitter previous with oracleBlock := block } := by
  have htracker : ({ r with oracleBlock := block } : RangeSplitter).tracker = block := if_pos h
  rw [toSplitter, htracker]
  rfl

private theorem customDelimiterEnd_none
    (h : s.customDelimiter.any (endsWith s.buffer) = false ∨ s.onDelimiterLine options) :
    s.customDelimiterEnd options = (s, []) := by
  rw [customDelimiterEnd]
  split
  · next delimiter hd =>
    rw [hd, Option.any_some] at h
    refine if_neg ?_
    rw [Bool.and_eq_true, Bool.not_eq_true']
    rintro ⟨hends, hline⟩
    rcases h with h | h
    · rw [hends] at h
      cases h
    · rw [hline] at h
      cases h
  · rfl

private theorem customDelimiterEnd_some {delimiter : Text} (hd : s.customDelimiter = some delimiter)
    (h : (endsWith s.buffer delimiter && !s.onDelimiterLine options)) :
    s.customDelimiterEnd options =
      { s with buffer := s.buffer.take (s.buffer.length - delimiter.length) }.pushCurrentStatement
        options := by
  rw [customDelimiterEnd, hd]
  exact if_pos h

/-- After a character at which nothing ends, such as a quote. -/
theorem afterChar_plain (hnewline : ch ≠ '\n') {r' : RangeSplitter}
    (hcurrent : r'.current = r.current ++ [ch])
    (hdelimiter : r'.customDelimiter = r.customDelimiter)
    (hends : r'.outsideQuotes → r.delimiterEndsAt options ch = false) :
    (r'.toSplitter previous).afterChar options ch = (r'.toSplitter (some ch), []) := by
  have hnone : (if ch == '\n' then (r'.toSplitter previous).lineEnd options else none) = none :=
    if_neg (by simpa using hnewline)
  rw [afterChar, hnone]
  split
  · next houtside =>
    have hout : r'.outsideQuotes := (Bool.and_eq_true _ _ ▸ houtside).1
    have hno := hends hout
    rw [delimiterEndsAt, ← hcurrent, ← hdelimiter, Bool.and_eq_false_iff, Bool.not_eq_false'] at hno
    rw [customDelimiterEnd_none (s := r'.toSplitter previous) hno]
    rfl
  · rfl

/-- What the end of a statement leaves alone. -/
def SameMode (a b : RangeSplitter) : Prop :=
  a.customDelimiter = b.customDelimiter ∧ a.dollarQuoteTag = b.dollarQuoteTag

private theorem endBlockIf_sameMode (r : RangeSplitter) (complete : Bool) :
    SameMode (r.endBlockIf options complete).1 r := by
  cases complete <;> exact ⟨rfl, rfl⟩

private theorem semicolonOutsidePlSql_sameMode (r : RangeSplitter) :
    SameMode (r.semicolonOutsidePlSql x options).1 r := by
  fun_cases r.semicolonOutsidePlSql x options with
  | case1 | case2 => exact endBlockIf_sameMode r _
  | case3 =>
    rw [sqlserverBatchEnd]
    repeat' split
    all_goals exact ⟨rfl, rfl⟩
  | case4 | case5 => exact ⟨rfl, rfl⟩

private theorem semicolon_sameMode (r : RangeSplitter) : SameMode (r.semicolon x options).1 r := by
  have htrack : SameMode r.trackStatement r := by
    rw [trackStatement]
    split <;> exact ⟨rfl, rfl⟩
  rw [semicolon]
  split
  · split <;> exact ⟨rfl, rfl⟩
  · rw [SameMode, ← htrack.1, ← htrack.2, ← SameMode]
    dsimp only
    split
    · exact semicolonOutsidePlSql_sameMode _
    · split
      · exact endBlockIf_sameMode _ _
      · exact semicolonOutsidePlSql_sameMode _

private theorem afterChar_idle (hnewline : ch ≠ '\n') (h : s.customDelimiter = none) :
    s.afterChar options ch = ({ s with previous := some ch }, []) := by
  have hnone : (if ch == '\n' then s.lineEnd options else none) = none :=
    if_neg (by simpa using hnewline)
  rw [afterChar, hnone]
  split
  · rw [customDelimiterEnd_none (.inl (by rw [h]; rfl))]
  · rfl

/-- The step of the streaming splitter that answers a `match` of the range splitter. -/
def AnswersStep (options : SqlParsingOptions) (ch : Char)
    (a : RangeSplitter × List SqlStatementRange) (step : SqlStatementSplitter.Step) : Prop :=
  a.1.oracleBlockStart ≤ a.1.start ∧ ∃ statements,
    step = ⟨a.1.toSplitter (some ch), statements, 0⟩ ∧
    SameStatements options a.2 statements

/-- An ordinary character that both splitters take alike: no delimiter ends at a closing quote,
and in code a `;` is regular, no command line ends and no pair starts. -/
structure OrdinaryFits (options : SqlParsingOptions) (r : RangeSplitter) (previous : Option Char)
    (ch : Char) (rest : Text) : Prop where
  quote : r.outsideQuotes = false → (r.closesQuote ch && r.delimiterEndsAt options ch) = false
  semicolon : r.outsideQuotes → ch = ';' → (r.customDelimiter.isSome ||
    (options.profile.supportsCustomDelimiterCommands && isOnDelimiterLine options r.current) ||
    r.semicolonIsRegular options)
  line : r.outsideQuotes → (if ch == '\n' then ((r.toSplitter previous).append ch).lineEnd options
    else none) = none
  slash : r.outsideQuotes → ch = '/' → rest.head? ≠ some '*'
  dash : r.outsideQuotes → ch = '-' → ∀ later, rest = '-' :: later →
    dashDashStartsLineComment options.profile later.head? = false

private theorem length_throughLastNewline (text : Text) :
    (throughLastNewline text).length + (lastLine text).length = text.length := by
  rw [← length_append, throughLastNewline_append_lastLine]

private theorem beforeLine_eq (h : lastLine (r.before ++ r.current) = lastLine r.current) :
    r.beforeLine = some (throughLastNewline r.current) := by
  have hwhole := length_throughLastNewline (r.before ++ r.current)
  have hcurrent := length_throughLastNewline r.current
  rw [h, length_append] at hwhole
  have hstart : r.start ≤ (throughLastNewline (r.before ++ r.current)).length := by
    rw [start]
    omega
  have hlength : (throughLastNewline (r.before ++ r.current)).length - r.start =
      (throughLastNewline r.current).length := by
    rw [start]
    omega
  rw [beforeLine, if_pos hstart, hlength]
  exact congrArg some (prefix_iff_eq_take.mp (List.rdropWhile_prefix (· != '\n') r.current)).symm

section

variable (hregular : leadingIsRegular options (r.current ++ ['\n']))

include hregular

private theorem sameStatements_beforeLine :
    SameStatements options (pushStatementRange options r.start (throughLastNewline r.current))
      (statementsOf options false (throughLastNewline r.current)) := by
  refine sameStatements_slice _ _ (leadingIsRegular_of_isPrefix ?_ hregular)
  exact (List.rdropWhile_prefix _ _).trans (prefix_append _ _)

private theorem sameStatements_delimiterLine :
    SameStatements options
      (if hasExecutableSqlWithOptions (trim (throughLastNewline r.current)) options then
        pushStatementRange options r.start (throughLastNewline r.current) else [])
      (if (throughLastNewline r.current).isEmpty then []
        else statementsOf options false (throughLastNewline r.current)) := by
  have hsame := sameStatements_beforeLine hregular
  split
  · next hexec =>
    have hne : ¬(throughLastNewline r.current).isEmpty := by
      intro hempty
      rw [isEmpty_iff.mp hempty] at hexec
      cases hexec
    rwa [if_neg hne]
  · next hexec =>
    rw [statementsOf, if_neg hexec]
    split <;> exact sameStatements_nil

end

section

variable (hbehind : r.oracleBlockStart ≤ r.start)

include hbehind

private theorem endAt_answers (previous : Option Char) {slice : Text}
    (hslice : leadingIsRegular options slice) :
    Answers options (r.endAt options slice) ((r.toSplitter previous).dropBuffer,
      statementsOf options false slice) where
  behind := behind_restart (r := r.consume [';']) hbehind
  state := ⟨none, (toSplitter_restart (r := r.consume [';']) hbehind previous
    (current_consume_ne_nil _ (by simp)) none).symm⟩
  same := sameStatements_slice r.start false hslice

private theorem consume_answers (ch : Char) :
    Answers options (r.consume [ch], []) ((r.toSplitter previous).append ch, []) where
  behind := hbehind
  state := ⟨previous, rfl⟩
  same := sameStatements_nil

variable (hregular : leadingIsRegular options (r.current ++ [';']))

include hregular

private theorem endBlockIf_answers (complete : Bool) :
    Answers options (r.endBlockIf options complete)
      ((r.toSplitter previous).endBlockIf options complete) := by
  cases complete with
  | false => exact consume_answers hbehind ';'
  | true => exact endAt_answers hbehind previous hregular

private theorem sqlserverBatchEnd_answers (hroutine : r.postgresDollarQuotedRoutine = false)
    (hpieces : ∀ piece ∈ (sqlserverPieces r.current.length r.current).1,
      leadingIsRegular options piece)
    (htrailing : leadingIsRegular options
      ((sqlserverPieces r.current.length r.current).2 ++ [';'])) :
    Answers options (r.sqlserverBatchEnd options)
      ((r.toSplitter previous).sqlserverBatchEnd options) := by
  have hnonempty : (sqlserverPieces r.current.length r.current).1 ≠ [] →
      (sqlserverPieces r.current.length r.current).1.flatten ≠ [] :=
    sqlserverPieces_flatten_ne_nil
  have hsame := pieceRanges_same false _ r.start hpieces
  rw [sqlserverBatchEnd, SqlStatementSplitter.sqlserverBatchEnd]
  rw [show (r.toSplitter previous).buffer = r.current from rfl]
  generalize sqlserverPieces r.current.length r.current = cut at *
  obtain ⟨pieces, trailing⟩ := cut
  have hnext {ranges : List SqlStatementRange} {statements : List SqlStatementWithControl}
      (h : SameStatements options ranges statements) :
      Answers options ((r.consume [';']).restart, ranges)
        ((r.toSplitter previous).dropBuffer, statements) := by
    have hend := @endAt_answers options r hbehind previous [] rfl
    exact ⟨hend.behind, hend.state, h⟩
  dsimp only at hnonempty hsame hpieces htrailing ⊢
  refine .ite (fun _ => endAt_answers hbehind previous hregular) fun hcut => ?_
  refine .ite (fun _ => hnext hsame) fun _ => ?_
  refine .ite (fun _ => ?_) fun _ => hnext (hsame.append (sameStatements_slice _ _
    (leadingIsRegular_of_isPrefix (prefix_append _ _) htrailing)))
  refine .ite (fun _ => hnext (hsame.append (sameStatements_slice _ _ htrailing))) fun _ => ?_
  -- the remainder starts a statement of its own, further on
  have hlength := length_pos_iff.mpr (hnonempty (by simpa using hcut))
  have hstart : r.oracleBlockStart < (r.before ++ pieces.flatten).length := by
    rw [length_append]
    rw [start] at hbehind
    omega
  refine ⟨le_of_lt hstart, ⟨none, ?_⟩, hsame⟩
  have htracker : ({ r with
      before := r.before ++ pieces.flatten
      current := trailing ++ [';'] } : RangeSplitter).tracker = {} :=
    if_neg (ne_of_lt hstart)
  simp only [toSplitter, htracker, dropBuffer]
  rw [hroutine]

private theorem semicolonOutsidePlSql_answers (hsemicolon : r.semicolonIsRegular options) :
    Answers options (r.semicolonOutsidePlSql x options)
      ((r.toSplitter previous).semicolonOutsidePlSql x options) := by
  rw [semicolonOutsidePlSql, SqlStatementSplitter.semicolonOutsidePlSql]
  refine .ite (fun _ => endBlockIf_answers hbehind hregular _) fun _ => ?_
  refine .ite (fun _ => endBlockIf_answers hbehind hregular _) fun _ => ?_
  refine .ite (fun hkeeps => ?_) fun _ => endAt_answers hbehind previous
    (leadingIsRegular_of_isPrefix (prefix_append _ _) hregular)
  rw [semicolonIsRegular, if_pos hkeeps] at hsemicolon
  simp only [Bool.and_eq_true, Bool.not_eq_true', all_eq_true] at hsemicolon
  obtain ⟨-, ⟨hroutine, hpieces⟩, htrailing⟩ := hsemicolon
  exact .ite (fun _ => sqlserverBatchEnd_answers hbehind hregular hroutine hpieces htrailing)
    fun _ => consume_answers hbehind ';'

omit hbehind in
private theorem plSql_answers (hstart : r.oracleBlockStart = r.start)
    (hsemicolon : r.semicolonIsRegular options) {keeps complete : Bool}
    {block block' : OraclePlSqlBlockTracker}
    (hkeeps : r.oracleBlock.keepsBlockTogether x options r.current = (keeps, block))
    (hcomplete : block.isComplete x (r.current ++ [';']) = (complete, block')) :
    let s := r.toSplitter previous
    Answers options (if keeps then { r with oracleBlock := block' }.endBlockIf options complete
        else { r with oracleBlock := block }.semicolonOutsidePlSql x options)
      (let (keeps, tracker) := s.oracleBlock.keepsBlockTogether x options s.buffer
        let s := { s with oracleBlock := tracker }
        if keeps then
          let (complete, tracker) := s.oracleBlock.isComplete x (s.buffer ++ [';'])
          { s with oracleBlock := tracker }.endBlockIf options complete
        else s.semicolonOutsidePlSql x options) := by
  intro s
  have hkeeps' : s.oracleBlock.keepsBlockTogether x options s.buffer = (keeps, block) := by
    have htracker : s.oracleBlock = r.oracleBlock := if_pos hstart
    rw [← hkeeps, htracker]
    rfl
  have hset (block : OraclePlSqlBlockTracker) : { s with oracleBlock := block } =
      { r with oracleBlock := block }.toSplitter previous := (toSplitter_oracleBlock hstart _).symm
  simp only [hkeeps']
  split
  · have hend := @endBlockIf_answers options { r with oracleBlock := block' } previous hstart.le
      hregular complete
    rw [← hset] at hend
    simp only [show s.buffer = r.current from rfl, hcomplete]
    exact hend
  · rw [hset]
    exact semicolonOutsidePlSql_answers hstart.le hregular hsemicolon

private theorem semicolon_answers (previous : Option Char)
    (hsemicolon : r.semicolonIsRegular options) (hdelimiter : r.customDelimiter = none)
    (hline : (options.profile.supportsCustomDelimiterCommands &&
      isOnDelimiterLine options r.current) = false) :
    Answers options (r.semicolon x options) ((r.toSplitter previous).semicolon x options) := by
  have hentity : endsWithXmlEntityReference r.current = false := by
    rw [semicolonIsRegular, Bool.and_eq_true, Bool.not_eq_true'] at hsemicolon
    exact hsemicolon.1
  have hno : ¬((options.profile.supportsCustomDelimiterCommands &&
      (r.toSplitter previous).onDelimiterLine options) ||
      (r.toSplitter previous).customDelimiter.isSome) := by
    rw [show (r.toSplitter previous).onDelimiterLine options = isOnDelimiterLine options r.current
      from rfl, hline, show (r.toSplitter previous).customDelimiter = none from hdelimiter]
    simp
  have hxml : ¬endsWithXmlEntityReference (r.toSplitter previous).buffer := by
    rw [show (r.toSplitter previous).buffer = r.current from rfl, hentity]
    simp
  rw [semicolon, SqlStatementSplitter.semicolon, if_neg hxml, if_neg hno]
  refine .ite (fun _ => ?_) fun _ => ?_
  · exact .ite (fun _ => endAt_answers hbehind previous
      (leadingIsRegular_of_isPrefix (prefix_append _ _) hregular))
      fun _ => consume_answers hbehind ';'
  · -- from here on with the tracker of the statement at hand
    rw [← semicolonIsRegular_trackStatement] at hsemicolon
    rw [← trackStatement_current] at hregular
    rw [← toSplitter_trackStatement]
    have hstart := trackStatement_start (r := r)
    generalize r.trackStatement = r at *
    exact .ite (fun _ => semicolonOutsidePlSql_answers hstart.le hregular hsemicolon)
      fun _ => plSql_answers hregular hstart hsemicolon rfl rfl

/-! ### Ordinary characters -/

omit hregular

private theorem otherChar_answers (previous : Option Char) (houtside : r.outsideQuotes)
    (hregular : leadingIsRegular options (r.current ++ [ch])) :
    Answers options (r.otherChar options ch)
      (((r.toSplitter previous).append ch).customDelimiterEnd options) := by
  have hout : (r.consume [ch]).outsideQuotes := houtside
  rw [otherChar, if_pos hout]
  cases hd : r.customDelimiter with
  | none =>
    have hnone : ((r.toSplitter previous).append ch).customDelimiter = none := hd
    rw [show (r.consume [ch]).customDelimiter = none from hd,
      customDelimiterEnd_none (.inl (by rw [hnone]; rfl))]
    exact consume_answers hbehind ch
  | some delimiter =>
    have hsome : ((r.toSplitter previous).append ch).customDelimiter = some delimiter := hd
    rw [show (r.consume [ch]).customDelimiter = some delimiter from hd]
    dsimp only
    split
    · next hends =>
      rw [customDelimiterEnd_some hsome hends]
      refine ⟨behind_restart (r := r.consume [ch]) hbehind, ⟨none, ?_⟩,
        sameStatements_slice _ _ (leadingIsRegular_of_isPrefix (List.take_prefix _ _) hregular)⟩
      exact (toSplitter_restart (r := r.consume [ch]) hbehind previous
        (current_consume_ne_nil _ (by simp)) none).symm
    · next hends =>
      rw [customDelimiterEnd_none]
      · exact consume_answers hbehind ch
      · rw [hsome, Option.any_some]
        rwa [← Bool.not_eq_false', ← Bool.and_eq_false_iff, ← Bool.not_eq_true]

private theorem appended_answers (hdollar : r.dollarQuoteTag = none) (houtside : r.outsideQuotes)
    (hregular : leadingIsRegular options (r.current ++ [ch]))
    (hline : (if ch == '\n' then ((r.toSplitter previous).append ch).lineEnd options else none) =
      none)
    (hmatch : (r.toSplitter previous).matchChar x options ch =
      ((r.toSplitter previous).append ch, [])) :
    AnswersStep options ch (r.otherChar options ch)
      ((r.toSplitter previous).ordinaryStep x options ch) := by
  have hanswers := otherChar_answers hbehind previous houtside hregular
  obtain ⟨last, hstate⟩ := hanswers.state
  refine ⟨hanswers.behind, _, ?_, hanswers.same⟩
  have hguard : (((r.toSplitter previous).append ch).outsideQuotes &&
      ((r.toSplitter previous).append ch).dollarQuoteTag.isNone) := by
    rw [Bool.and_eq_true]
    exact ⟨houtside, by simp [append, toSplitter, hdollar]⟩
  rw [SqlStatementSplitter.ordinaryStep, hmatch]
  rw [afterChar, if_pos hguard, hline]
  dsimp only
  rw [hstate, nil_append]
  rfl

private theorem quote_answers (hnewline : ch ≠ '\n') {r' : RangeSplitter}
    (hcurrent : r'.current = r.current ++ [ch])
    (hstart : r'.oracleBlockStart = r.oracleBlockStart ∧ r'.before = r.before)
    (hdelimiter : r'.customDelimiter = r.customDelimiter)
    (hends : r'.outsideQuotes → r.delimiterEndsAt options ch = false)
    (hmatch : (r.toSplitter previous).matchChar x options ch = (r'.toSplitter previous, [])) :
    AnswersStep options ch (r', []) ((r.toSplitter previous).ordinaryStep x options ch) := by
  refine ⟨?_, [], ?_, sameStatements_nil⟩
  · rw [start, hstart.1, hstart.2]
    exact hbehind
  · rw [SqlStatementSplitter.ordinaryStep, hmatch]
    rw [afterChar_plain hnewline hcurrent hdelimiter hends]
    rfl

private theorem semicolon_step (previous : Option Char) (hdollar : r.dollarQuoteTag = none)
    (houtside : r.outsideQuotes)
    (hregular : leadingIsRegular options (r.current ++ [';']))
    (hsemicolon : (r.customDelimiter.isSome ||
      (options.profile.supportsCustomDelimiterCommands && isOnDelimiterLine options r.current) ||
      r.semicolonIsRegular options)) :
    AnswersStep options ';' (r.matchChar x options ';')
      ((r.toSplitter previous).ordinaryStep x options ';') := by
  have hmatch : (r.toSplitter previous).matchChar x options ';' =
      (r.toSplitter previous).semicolon x options := by
    rw [SqlStatementSplitter.matchChar, if_neg (by simp), if_neg (by simp), if_neg (by simp),
      if_pos (by rw [Bool.and_eq_true]; exact ⟨rfl, houtside⟩)]
  rw [matchChar, if_neg (by simp), if_neg (by simp), if_neg (by simp)]
  by_cases hgate : (';' == ';' && r.outsideQuotes && r.customDelimiter.isNone &&
      !(options.profile.supportsCustomDelimiterCommands && isOnDelimiterLine options r.current))
  · rw [if_pos hgate]
    simp only [Bool.and_eq_true, Option.isNone_iff_eq_none] at hgate
    obtain ⟨⟨-, hnone⟩, hline⟩ := hgate
    rw [Bool.not_eq_true'] at hline
    rw [hnone, hline] at hsemicolon
    have hanswers := semicolon_answers (x := x) hbehind hregular previous hsemicolon hnone hline
    obtain ⟨last, hstate⟩ := hanswers.state
    refine ⟨hanswers.behind, _, ?_, hanswers.same⟩
    have hidle : ((r.toSplitter previous).semicolon x options).1.customDelimiter = none := by
      rw [hstate]
      exact (semicolon_sameMode r).1.trans hnone
    rw [SqlStatementSplitter.ordinaryStep, hmatch, afterChar_idle (by decide) hidle, hstate]
    rw [append_nil]
    rfl
  · rw [if_neg hgate]
    refine appended_answers hbehind hdollar houtside hregular rfl ?_
    rw [hmatch, SqlStatementSplitter.semicolon]
    split
    · rfl
    · refine if_pos ?_
      rw [Bool.or_eq_true, ← Option.not_isNone]
      by_contra hneither
      rw [not_or, Bool.not_eq_true, Bool.not_eq_true, Bool.not_eq_false'] at hneither
      refine hgate ?_
      rw [Bool.and_eq_true, Bool.and_eq_true, Bool.and_eq_true, Bool.not_eq_true']
      exact ⟨⟨⟨rfl, houtside⟩, hneither.2⟩, hneither.1⟩

variable {rest : Text}

/-- The `match` on a character. The cases are those of the source; in code a quote opens a run
and in a run it closes it. -/
theorem matchChar_answers (h : r.OrdinaryFits options previous ch rest)
    (hdollar : r.dollarQuoteTag = none)
    (hregular : leadingIsRegular options (r.current ++ [ch])) :
    AnswersStep options ch (r.matchChar x options ch)
      ((r.toSplitter previous).ordinaryStep x options ch) := by
  -- a quote after which the index is outside of all quotes has closed the run of its kind
  have hends (hcloses : r.closesQuote ch) (hinside : r.outsideQuotes = false) :
      r.delimiterEndsAt options ch = false := by
    have hquote := h.quote hinside
    rwa [hcloses, Bool.true_and] at hquote
  rw [matchChar]
  by_cases hsingle : (ch == '\'' && !(r.inDoubleQuote || r.inBacktick ||
      (r.singleQuoteBackslashEscapes options && hasOddTrailingBackslashes r.current)))
  · rw [if_pos hsingle]
    obtain rfl : ch = '\'' := eq_of_beq ((Bool.and_eq_true _ _).mp hsingle).1
    refine quote_answers hbehind (by decide) rfl ⟨rfl, rfl⟩ rfl (fun hout => ?_) (if_pos hsingle)
    replace hout : (!!r.inSingleQuote && !r.inDoubleQuote && !r.inBacktick) := hout
    simp only [Bool.and_eq_true, Bool.not_not] at hout
    exact hends (by simp [closesQuote, hout.1.1]) (by simp [outsideQuotes, hout.1.1])
  rw [if_neg hsingle]
  by_cases hdouble : (ch == '"' && !(r.inSingleQuote || r.inBacktick ||
      (options.profile.supportsBackslashEscapedQuotes && hasOddTrailingBackslashes r.current)))
  · rw [if_pos hdouble]
    obtain rfl : ch = '"' := eq_of_beq ((Bool.and_eq_true _ _).mp hdouble).1
    refine quote_answers hbehind (by decide) rfl ⟨rfl, rfl⟩ rfl (fun hout => ?_)
      ((if_neg hsingle).trans (if_pos hdouble))
    replace hout : (!r.inSingleQuote && !!r.inDoubleQuote && !r.inBacktick) := hout
    simp only [Bool.and_eq_true, Bool.not_not] at hout
    exact hends (by simp [closesQuote, hout.1.2]) (by simp [outsideQuotes, hout.1.2])
  rw [if_neg hdouble]
  by_cases hbacktick : (ch == '`' && options.profile.supportsBacktickIdentifiers &&
      !r.inSingleQuote && !r.inDoubleQuote)
  · rw [if_pos hbacktick]
    obtain rfl : ch = '`' := by
      simp only [Bool.and_eq_true, beq_iff_eq] at hbacktick
      exact hbacktick.1.1.1
    refine quote_answers hbehind (by decide) rfl ⟨rfl, rfl⟩ rfl (fun hout => ?_)
      ((if_neg hsingle).trans ((if_neg hdouble).trans (if_pos hbacktick)))
    replace hout : (!r.inSingleQuote && !r.inDoubleQuote && !!r.inBacktick) := hout
    simp only [Bool.and_eq_true, Bool.not_not] at hout
    exact hends (by simp [closesQuote, hout.2]) (by simp [outsideQuotes, hout.2])
  rw [if_neg hbacktick]
  -- the streaming splitter asks the same questions
  have hquotes : (r.toSplitter previous).matchChar x options ch = _ :=
    (if_neg hsingle).trans ((if_neg hdouble).trans (if_neg hbacktick))
  cases hout : r.outsideQuotes with
  | true =>
    by_cases hch : ch = ';'
    · subst hch
      have hstep := semicolon_step (x := x) hbehind previous hdollar hout hregular
        (h.semicolon hout rfl)
      rwa [matchChar, if_neg hsingle, if_neg hdouble, if_neg hbacktick, hout] at hstep
    · rw [if_neg (by simp [hch])]
      exact appended_answers hbehind hdollar hout hregular (h.line hout)
        (hquotes.trans (if_neg (by simp [hch])))
  | false =>
    have hinside : ¬(r.consume [ch]).outsideQuotes := by
      rw [show (r.consume [ch]).outsideQuotes = false from hout]
      simp
    have hout' : ((r.toSplitter previous).append ch).outsideQuotes = false := hout
    rw [if_neg (by simp), otherChar, if_neg hinside]
    have hmatch := hquotes.trans
        (if_neg (by rw [show (r.toSplitter previous).outsideQuotes = false from hout]; simp))
    refine ⟨hbehind, [], ?_, sameStatements_nil⟩
    rw [SqlStatementSplitter.ordinaryStep, hmatch]
    rw [afterChar, if_neg (by rw [hout']; simp)]
    rfl

/-! ### Ends of lines -/

/-- At a line feed in code both splitters see the same command, or none. -/
theorem lineStep_answers (previous : Option Char)
    (hregular : leadingIsRegular options (r.current ++ ['\n']))
    (hline : r.lineIsRegular options) :
    (r.lineStep options = some none ∧
      ((r.toSplitter previous).append '\n').lineEnd options = none) ∨
    ∃ r' ranges statements, r.lineStep options = some (some ⟨r', ranges, 0⟩) ∧
      ((r.toSplitter previous).append '\n').lineEnd options =
        some (r'.toSplitter none, statements) ∧
      r'.oracleBlockStart ≤ r'.start ∧ r'.dollarQuoteTag = r.dollarQuoteTag ∧
      SameStatements options ranges statements := by
  have hbuffer : ((r.toSplitter previous).append '\n').buffer.dropLast = r.current :=
    dropLast_concat
  have hnext : (r.consume ['\n']).restart.toSplitter none =
      ((r.toSplitter previous).append '\n').dropBuffer :=
    toSplitter_restart (r := r.consume ['\n']) hbehind previous
      (current_consume_ne_nil _ (by simp)) none
  have hbehind' := behind_restart (r := r.consume ['\n']) hbehind
  rw [lineStep, lineEnd, hbuffer]
  rw [lineIsRegular, Bool.or_eq_true, beq_iff_eq] at hline
  rcases hline with hsame | hnone
  · -- the statement starts at the line or before it
    rw [line, hsame, beforeLine_eq hsame]
    split
    · exact .inr ⟨_, _, _, rfl, by rw [hnext]; rfl, hbehind', rfl,
        sameStatements_beforeLine hregular⟩
    · rcases hcustom : options.profile.supportsCustomDelimiterCommands with _ | _
      · exact .inl ⟨rfl, rfl⟩
      cases hd : parseDelimiterCommand (trim (lastLine r.current)) with
      | none =>
        refine .inl ⟨rfl, ?_⟩
        split <;> rfl
      | some delimiter =>
        cases hexec : hasExecutableSqlWithOptions (throughLastNewline r.current) options with
        | true => exact .inl ⟨by simp [hexec], by simp⟩
        | false =>
          refine .inr ⟨{ (r.consume ['\n']).restart with
            customDelimiter := if delimiter = [';'] then none else some delimiter }, _, _,
            by simp [hexec], ?_, hbehind', rfl, sameStatements_delimiterLine hregular⟩
          have hnext' (custom : Option Text) :
              { (r.consume ['\n']).restart with customDelimiter := custom }.toSplitter none =
                { ((r.toSplitter previous).append '\n').dropBuffer with
                  customDelimiter := custom } := by
            rw [← hnext]
            rfl
          rw [hnext']
          rfl
  · -- neither view of the line is a command
    simp only [Bool.and_eq_true, Bool.not_eq_true', isCommandLine, Bool.or_eq_false_iff] at hnone
    obtain ⟨⟨hslash, hparse⟩, ⟨hslash', hparse'⟩⟩ := hnone
    left
    rw [hslash, hslash']
    rcases hcustom : options.profile.supportsCustomDelimiterCommands with _ | _
    · exact ⟨rfl, rfl⟩
    rw [hcustom, Bool.true_and, Option.isSome_eq_false_iff, Option.isNone_iff_eq_none]
      at hparse hparse'
    rw [hparse, hparse']
    simp

end

/-! ### The previous character after a step -/

/-- A previous character that belongs to no pair. -/
theorem previousFits_of_ne {previous : Option Char} {text : Text}
    (hstar : previous ≠ some '*') (hslash : previous ≠ some '/') (hdash : previous ≠ some '-')
    (htag : ∀ tag ∈ r.dollarQuoteTag, tag.getLast? = some '$') :
    r.PreviousFits options previous text where
  closer _ h := absurd h hstar
  inner _ _ h := absurd h hslash
  opener _ h := absurd h hslash
  dashes _ h := absurd h hdash
  tag := htag

/-- Inside a dollar quote or a line comment the previous character is not looked at. -/
theorem previousFits_of_masked {text : Text} (h : r.dollarQuoteTag ≠ none ∨ r.inLineComment)
    (htag : ∀ tag ∈ r.dollarQuoteTag, tag.getLast? = some '$') :
    r.PreviousFits options previous text := by
  have hcomment : ¬r.InComment := fun hc => h.elim (· hc.1) (by rw [hc.2.1]; simp)
  have hcode : ¬r.InCode := fun hc => h.elim (· hc.1) (by rw [hc.2.1]; simp)
  exact ⟨fun hc => absurd hc hcomment, fun hc => absurd hc hcomment, fun hc => absurd hc hcode,
    fun hc => absurd hc hcode, htag⟩

private theorem otherChar_frame (r : RangeSplitter) (ch : Char) :
    SameMode (r.otherChar options ch).1 r ∧
      (r.otherChar options ch).1.blockCommentDepth = r.blockCommentDepth ∧
      (r.otherChar options ch).1.outsideQuotes = r.outsideQuotes := by
  rw [otherChar]
  repeat' split
  all_goals exact ⟨⟨rfl, rfl⟩, rfl, rfl⟩

private theorem matchChar_other (h : ch ≠ '\'' ∧ ch ≠ '"' ∧ ch ≠ '`' ∧ ch ≠ ';') :
    r.matchChar x options ch = r.otherChar options ch := by
  rw [matchChar, if_neg (by simp [h.1]), if_neg (by simp [h.2.1]), if_neg (by simp [h.2.2.1]),
    if_neg (by simp [h.2.2.2])]

private theorem matchChar_sameMode (r : RangeSplitter) (ch : Char) :
    SameMode (r.matchChar x options ch).1 r := by
  rw [matchChar]
  repeat' split
  any_goals exact ⟨rfl, rfl⟩
  · exact semicolon_sameMode r
  · exact (otherChar_frame r ch).1

/-- A character that starts no pair with the next one is a previous character that fits. -/
theorem previousFits_matchChar (h : r.OrdinaryFits options previous ch rest)
    (hdepth : r.blockCommentDepth = 0) (hdollar : r.dollarQuoteTag = none) :
    (r.matchChar x options ch).1.PreviousFits options (some ch) rest := by
  have hother : ch = '*' ∨ ch = '/' ∨ ch = '-' →
      (r.matchChar x options ch).1.blockCommentDepth = 0 ∧
        (r.matchChar x options ch).1.outsideQuotes = r.outsideQuotes := by
    intro hch
    rw [matchChar_other (by obtain rfl | rfl | rfl := hch <;> decide)]
    exact ⟨(otherChar_frame r ch).2.1.trans hdepth, (otherChar_frame r ch).2.2⟩
  constructor
  · rintro ⟨-, -, hpos⟩ ⟨rfl⟩
    rw [(hother (.inl rfl)).1] at hpos
    exact absurd hpos (lt_irrefl 0)
  · rintro ⟨-, -, hpos⟩ _ ⟨rfl⟩
    rw [(hother (.inr (.inl rfl))).1] at hpos
    exact absurd hpos (lt_irrefl 0)
  · rintro ⟨-, -, -, hout⟩ ⟨rfl⟩
    exact h.slash ((hother (.inr (.inl rfl))).2 ▸ hout) rfl
  · rintro ⟨-, -, -, hout⟩ ⟨rfl⟩
    exact h.dash ((hother (.inr (.inr rfl))).2 ▸ hout) rfl
  · rw [(matchChar_sameMode r ch).2, hdollar]
    simp

end

end RangeSplitter

end DbxSpec.Sql
