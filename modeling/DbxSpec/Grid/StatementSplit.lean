import DbxSpec.Grid.LiteralSplit

/-!
# Lists of the grid's statements

An `INSERT` or an `UPDATE` starts with its keyword and ends with a literal or a parenthesis, so the
`;` after it ends a statement in every dialect: it closes no entity, stands on no `DELIMITER` line
and in no routine body, block or batch. The list of statements comes back from the splitter.
-/

namespace DbxSpec.Grid

open DbxSpec.Base DbxSpec.Sql SqlStatementSplitter List LiteralForms SqlDialectProfile
open SqlParsingOptions

/-! ### Statements -/

/-- How a name is quoted. -/
inductive NameQuote
  | bare
  | double
  | backtick
  | bracket
  deriving DecidableEq, Repr

/-- A name without characters the splitter looks at. -/
structure GridName where
  quote : NameQuote
  word : Text
  quiet : word.all isQuiet

/-- The name in a statement. -/
def GridName.sql (name : GridName) : Text :=
  match name.quote with
  | .bare => name.word
  | .double => '"' :: name.word ++ ['"']
  | .backtick => '`' :: name.word ++ ['`']
  | .bracket => '[' :: name.word ++ [']']

/-- A cell: its column and its text. -/
abbrev GridCell := GridName × Text

/-- The generic `INSERT ... VALUES` of `data_grid_sql.rs:2052` and `UPDATE` of
`data_grid_sql.rs:4398`, and no other shapes. A table is a path of names, and an `UPDATE` has at
least one condition. -/
inductive GridStatement
  | insert (table : List GridName) (cells : List GridCell)
  | update (table : List GridName) (sets : List GridCell) (key : GridCell) (keys : List GridCell)

namespace GridStatement

/-- The texts of the cells. -/
def values : GridStatement → List Text
  | insert _ cells => cells.map Prod.snd
  | update _ sets key keys => (sets ++ key :: keys).map Prod.snd

/-- A table in a statement. -/
def tableSql (table : List GridName) : Text := joinTexts ['.'] (table.map GridName.sql)

/-- A column and its literal. -/
def cellSql (literal : Text → Text) (cell : GridCell) : Text :=
  cell.1.sql ++ " = " ++ literal cell.2

/-- The statement, with the literals some function writes. -/
def sql (literal : Text → Text) : GridStatement → Text
  | insert table cells =>
    "INSERT INTO " ++ tableSql table ++ " (" ++
      joinTexts ", " (cells.map fun cell => cell.1.sql) ++ ") VALUES " ++
      ('(' :: joinTexts ", " (cells.map fun cell => literal cell.2)) ++ [')']
  | update table sets key keys =>
    "UPDATE " ++ tableSql table ++ " SET " ++
      joinTexts ", " (sets.map (cellSql literal)) ++ " WHERE " ++
      joinTexts " AND " ((key :: keys).map (cellSql literal))

end GridStatement

/-! ### The shape of a statement -/

/-- A text that starts with one of the two keywords and ends with a quote or a parenthesis. -/
structure DmlText (sql : Text) : Prop where
  starts : ∃ keyword ∈ ["INSERT".toList, "UPDATE".toList], ∃ rest, sql = keyword ++ ' ' :: rest
  ends : ∃ front, ∃ last ∈ ['\'', ')'], sql = front ++ [last]

section Shape

variable {sql lead : Text} {first : Char}

private theorem DmlText.startsDml (h : DmlText sql) (hlead : lead ∈ [[], ['\n']]) :
    StartsDml (lead ++ sql) := by
  obtain ⟨keyword, hkeyword, rest, rfl⟩ := h.starts
  exact ⟨lead, hlead, keyword, hkeyword, rest, by simp⟩

private theorem DmlText.head (h : DmlText sql) :
    ∃ first ∈ ['I', 'U'], ∃ rest, sql = first :: rest := by
  obtain ⟨keyword, hkeyword, rest, rfl⟩ := h.starts
  simp only [mem_cons, not_mem_nil, or_false] at hkeyword
  rcases hkeyword with rfl | rfl
  · exact ⟨'I', by simp, _, rfl⟩
  · exact ⟨'U', by simp, _, rfl⟩

private theorem trimEnd_concat {last : Char} (h : isWhitespace last = false) (front : Text) :
    trimEnd (front ++ [last]) = front ++ [last] :=
  rdropWhile_concat_neg _ _ _ (by simp [h])

private theorem trim_cons (h : isWhitespace first = false) (rest : Text) :
    ∃ rest', trim (first :: rest) = first :: rest' := by
  have hstart : trimStart (first :: rest) = [first] ++ rest := dropWhile_cons_of_neg (by simp [h])
  have hfirst : [first].rdropWhile isWhitespace = [first] := trimEnd_concat h []
  rw [trim, hstart, trimEnd, rdropWhile_append]
  split
  · exact ⟨[], hfirst⟩
  · exact ⟨_, rfl⟩

private theorem trim_concat {last : Char} (h : isWhitespace last = false) (front : Text) :
    ∃ front', trim (front ++ [last]) = front' ++ [last] := by
  rw [trim_eq_trimStart_trimEnd, trimEnd_concat h, trimStart, dropWhile_append]
  split
  · exact ⟨[], dropWhile_cons_of_neg (by simp [h])⟩
  · exact ⟨_, rfl⟩

private theorem keyword_not_whitespace (h : first ∈ ['I', 'U']) : isWhitespace first = false := by
  fin_cases h <;> rfl

private theorem last_not_whitespace {last : Char} (h : last ∈ ['\'', ')']) :
    isWhitespace last = false := by
  fin_cases h <;> rfl

private theorem lead_whitespace (h : lead ∈ [[], ['\n']]) : ∀ ch ∈ lead, isWhitespace ch := by
  fin_cases h <;> simp [isWhitespace]

private theorem lead_odd (h : lead ∈ [[], ['\n']]) : hasOddTrailingBackslashes lead = false := by
  revert lead
  decide

private theorem trim_lead (hlead : lead ∈ [[], ['\n']]) (text : Text) :
    trim (lead ++ text) = trim text := by
  have hstart : trimStart (lead ++ text) = trimStart text :=
    dropWhile_append_of_pos (lead_whitespace hlead)
  rw [trim, hstart, ← trim]

private theorem DmlText.trim (h : DmlText sql) : trim sql = sql := by
  obtain ⟨first, hfirst, rest, hcons⟩ := h.head
  obtain ⟨front, last, hlast, hconcat⟩ := h.ends
  have hstart : trimStart sql = sql := by
    rw [hcons]
    exact dropWhile_cons_of_neg (by simp [keyword_not_whitespace hfirst])
  rw [Base.trim, hstart, hconcat]
  exact trimEnd_concat (last_not_whitespace hlast) front

variable (options : SqlParsingOptions)

private theorem hasExecutableSql_cons (h : first ∈ ['I', 'U']) (rest : Text) :
    hasExecutableSqlWithOptions (first :: rest) options := by
  have hspace := keyword_not_whitespace h
  simp only [mem_cons, not_mem_nil, or_false] at h
  rcases h with rfl | rfl <;> simp [hasExecutableSqlWithOptions, hasExecutableSqlLoop, hspace]

private theorem hasExecutableSql_trim_cons (h : first ∈ ['I', 'U']) (rest : Text) :
    hasExecutableSqlWithOptions (trim (first :: rest)) options := by
  obtain ⟨rest', htrim⟩ := trim_cons (keyword_not_whitespace h) rest
  rw [htrim]
  exact hasExecutableSql_cons options h rest'

private theorem statementsOf_dml (h : DmlText sql) (hlead : lead ∈ [[], ['\n']]) :
    statementsOf options false (lead ++ sql) = [⟨sql, false⟩] := by
  have htrim : trim (lead ++ sql) = sql := (trim_lead hlead sql).trans h.trim
  obtain ⟨first, hfirst, rest, hcons⟩ := h.head
  have hexecutable : hasExecutableSqlWithOptions sql options := by
    rw [hcons]
    exact hasExecutableSql_cons options hfirst rest
  rw [statementsOf, htrim, hexecutable, if_pos rfl]

private theorem eqIgnoreAsciiCase_keyword (h : first ∈ ['I', 'U']) (rest pattern : Text) :
    eqIgnoreAsciiCase (first :: rest) ('d' :: pattern) = false := by
  simp only [mem_cons, not_mem_nil, or_false] at h
  rcases h with rfl | rfl <;> simp [eqIgnoreAsciiCase, toAsciiLowercase]

section

variable (h : DmlText sql)

include h

private theorem parseDelimiterCommand_dml : parseDelimiterCommand sql = none := by
  have htrim := h.trim
  obtain ⟨first, hfirst, rest, rfl⟩ := h.head
  rw [parseDelimiterCommand, htrim]
  rw [if_neg (by simpa using eqIgnoreAsciiCase_keyword hfirst rest "elimiter;"), if_neg]
  simp only [take_succ_cons, Bool.and_eq_true, Bool.or_eq_true, not_and, not_or, Bool.not_eq_true]
  exact fun _ => ⟨eqIgnoreAsciiCase_keyword hfirst _ "elimiter ",
    eqIgnoreAsciiCase_keyword hfirst _ "elimiter\t"⟩

private theorem lastLine_or_executable (hlead : lead ∈ [[], ['\n']]) :
    lastLine (lead ++ sql) = sql ∨
      ∃ first ∈ ['I', 'U'], ∃ front, throughLastNewline (lead ++ sql) = lead ++ first :: front := by
  have hcut := throughLastNewline_append_lastLine (lead ++ sql)
  have hnewline := newline_notMem_lastLine (lead ++ sql)
  rcases append_eq_append_iff.mp hcut with ⟨tail, hcovers, hline⟩ | ⟨tail, hthrough, hline⟩
  · -- the last line feed is the lead, since the last line holds none
    have htail : tail = [] := by
      rw [eq_nil_iff_forall_not_mem]
      intro ch hch
      have hfeed : ch = '\n' := by
        have hfeeds : ∀ lead ∈ [[], ['\n']], ∀ ch ∈ lead, ch = '\n' := by simp
        exact hfeeds lead hlead ch (hcovers ▸ mem_append_right _ hch)
      apply hnewline
      rw [hline, ← hfeed]
      exact mem_append_left _ hch
    rw [htail, nil_append] at hline
    exact .inl hline
  · rcases tail with _ | ⟨first, front⟩
    · exact .inl hline.symm
    obtain ⟨first', hfirst, rest, hcons⟩ := h.head
    have hfirsts : first' = first := by
      rw [hline] at hcons
      exact (cons.inj hcons).1.symm
    exact .inr ⟨first, hfirsts ▸ hfirst, front, hthrough⟩

private theorem onDelimiterLine_dml (hlead : lead ∈ [[], ['\n']]) (previous : Option Char) :
    (codeState (lead ++ sql) previous).onDelimiterLine options = false := by
  change (_ && eqIgnoreAsciiCase ((trimStart (lastLine (lead ++ sql))).take 9) _ &&
    !hasExecutableSqlWithOptions (trim (throughLastNewline (lead ++ sql))) options) = false
  rcases lastLine_or_executable h hlead with hline | ⟨first, hfirst, front, hthrough⟩
  · obtain ⟨first, hfirst, rest, rfl⟩ := h.head
    have hstart : trimStart (first :: rest) = first :: rest :=
      dropWhile_cons_of_neg (by simp [keyword_not_whitespace hfirst])
    have hne : eqIgnoreAsciiCase ((first :: rest).take 9) "delimiter" = false :=
      eqIgnoreAsciiCase_keyword hfirst _ "elimiter"
    rw [hline, hstart, hne, Bool.and_false, Bool.false_and]
  · rw [hthrough, trim_lead hlead, hasExecutableSql_trim_cons _ hfirst, Bool.not_true,
      Bool.and_false]

private theorem endsWithXmlEntityReference_dml (lead : Text) :
    endsWithXmlEntityReference (lead ++ sql) = false := by
  obtain ⟨front, last, hlast, rfl⟩ := h.ends
  simp only [mem_cons, not_mem_nil, or_false] at hlast
  have halnum : last.isAlphanum = false := by rcases hlast with rfl | rfl <;> decide
  have hhash : endsWith (lead ++ front ++ [last]) ['#'] = false := by
    rcases hlast with rfl | rfl <;> simp [endsWith, isSuffixOf, isPrefixOf]
  have hand : endsWith (lead ++ front ++ [last]) ['&'] = false := by
    rcases hlast with rfl | rfl <;> simp [endsWith, isSuffixOf, isPrefixOf]
  have hdrop : (lead ++ front ++ [last]).rdropWhile Char.isAlphanum = lead ++ front ++ [last] :=
    rdropWhile_concat_neg _ _ _ (by simp [halnum])
  rw [← append_assoc, endsWithXmlEntityReference, hdrop, hhash]
  exact if_pos (by rw [if_neg Bool.false_ne_true, hand]; rfl)

end

end Shape

/-! ### The end of a statement -/

section Ends

variable {x : Externals} {sql lead : Text}

private theorem semicolon_eq_pushCurrentStatement {options : SqlParsingOptions}
    {s : SqlStatementSplitter}
    {tracker : OraclePlSqlBlockTracker} (hentity : endsWithXmlEntityReference s.buffer = false)
    (hline : s.onDelimiterLine options = false) (hdelimiter : s.customDelimiter = none)
    (hmysql : startsWithMysqlRoutineBlock s.buffer = false)
    (hroutine : s.postgresDollarQuotedRoutine = false)
    (hkeeps : s.oracleBlock.keepsBlockTogether x options s.buffer = (false, tracker))
    (hhana : startsWithHanaScriptBlock x s.buffer = false)
    (hfirebird : startsWithFirebirdRoutineBlock x s.buffer = false)
    (hsqlserver : keepsSqlserverControlFlowBatch options s.buffer = false) :
    s.semicolon x options = { s with oracleBlock := tracker }.pushCurrentStatement options := by
  unfold semicolon
  rw [if_neg (by simp [hentity]), if_neg (by simp [hline, hdelimiter]), if_neg (by simp [hmysql]),
    if_neg (by simp [hroutine]), hkeeps]
  dsimp only
  rw [if_neg (by decide)]
  unfold semicolonOutsidePlSql
  rw [if_neg (by simp [hhana]), if_neg (by simp [hfirebird]), if_neg (by simp [hsqlserver])]

variable (options : SqlParsingOptions)

private theorem semicolon_dml (hx : x.ReadsDml) (h : DmlText sql) (hlead : lead ∈ [[], ['\n']])
    (previous : Option Char) :
    (codeState (lead ++ sql) previous).semicolon x options =
      (codeState [] none, [⟨sql, false⟩]) := by
  have hdml := h.startsDml hlead
  obtain ⟨hblock, hbody, hhana, hfirebird⟩ := startsBlock_dml hx hdml
  have hmysql : startsWithMysqlRoutineBlock (lead ++ sql) = false := by
    rw [startsWithMysqlRoutineBlock, isMysqlRoutineDdlStart_eq_false hdml, Bool.false_and]
  have hkeeps : ∃ tracker, OraclePlSqlBlockTracker.keepsBlockTogether x {} options (lead ++ sql) =
      (false, tracker) := by
    unfold OraclePlSqlBlockTracker.keepsBlockTogether
    split
    · exact ⟨_, rfl⟩
    · split
      · exact ⟨_, Prod.ext hblock rfl⟩
      · exact ⟨_, Prod.ext hbody rfl⟩
  obtain ⟨tracker, hkeeps⟩ := hkeeps
  have hends := semicolon_eq_pushCurrentStatement (s := codeState (lead ++ sql) previous)
    (endsWithXmlEntityReference_dml h lead) (onDelimiterLine_dml options h hlead previous) rfl
    hmysql rfl hkeeps hhana hfirebird (keepsSqlserverControlFlowBatch_eq_false hdml options)
  rw [hends]
  exact Prod.ext rfl (statementsOf_dml options h hlead)

private theorem runs_semicolon (hx : x.ReadsDml) (h : DmlText sql) (hlead : lead ∈ [[], ['\n']])
    (rest : Text) (previous : Option Char) :
    (scanner x options).Runs (codeState (lead ++ sql) previous) (';' :: rest) [⟨sql, false⟩]
      (codeState [] (some ';')) rest := by
  apply runs_of_plainChar (codeState [] none) unmasked_nameState unmasked_nameState rfl (by decide)
  · exact fun heq => absurd heq (by decide)
  · exact semicolon_dml options hx h hlead previous

private theorem runs_lineFeed (rest : Text) (previous : Option Char) :
    (scanner x options).Runs (codeState [] previous) ('\n' :: rest) []
      (codeState ['\n'] (some '\n')) rest := by
  have hempty : trim (lastLine (codeState ['\n'] previous).buffer.dropLast) = [] := rfl
  have hcommand : parseDelimiterCommand [] = none := rfl
  have hline : (codeState ['\n'] previous).lineEnd options = none := by
    unfold lineEnd
    dsimp only
    rw [hempty, if_neg (by simp), hcommand]
    split <;> rfl
  have hafter : (codeState ['\n'] previous).afterChar options '\n' =
      (codeState ['\n'] (some '\n'), []) := by
    have houtside : ((codeState ['\n'] previous).outsideQuotes &&
        (codeState ['\n'] previous).dollarQuoteTag.isNone) := rfl
    rw [afterChar, if_pos houtside, if_pos (by decide), hline]
    rfl
  apply runs_of_afterChar unmasked_nameState
  · exact fun heq => absurd heq (by decide)
  · intro _
    apply openerStep_eq_none
    · decide
    · exact fun heq => absurd heq (by decide)
  · rw [matchChar, if_neg (by simp), if_neg (by simp), if_neg (by simp), if_neg (by simp)]
  · exact hafter

private theorem finishWithControl_dml (h : DmlText sql) (hlead : lead ∈ [[], ['\n']])
    (previous : Option Char) :
    (codeState (lead ++ sql) previous).finishWithControl x options = [⟨sql, false⟩] := by
  have htrim : trim (codeState (lead ++ sql) previous).buffer = sql :=
    (trim_lead hlead sql).trans h.trim
  have hslash : trim (lastLine sql) ≠ ['/'] := by
    obtain ⟨front, last, hlast, rfl⟩ := h.ends
    have hne : last ≠ '\n' := by
      rintro rfl
      exact absurd hlast (by decide)
    have hline : lastLine (front ++ [last]) = lastLine front ++ [last] :=
      rtakeWhile_concat_pos _ _ _ (by simpa using hne)
    obtain ⟨front', htrimmed⟩ := trim_concat (last_not_whitespace hlast) (lastLine front)
    rw [hline, htrimmed]
    intro heq
    have hlasts : last = '/' := by simpa using congrArg getLast? heq
    rw [hlasts] at hlast
    exact absurd hlast (by decide)
  have hdelimiter : (options.profile.supportsCustomDelimiterCommands &&
      (parseDelimiterCommand (trim (lastLine sql))).isSome &&
      !hasExecutableSqlWithOptions (trim (beforeLastNewline sql)) options) = false := by
    have hcases := lastLine_or_executable h (by simp : [] ∈ [[], ['\n']])
    simp only [nil_append] at hcases
    rcases hcases with hline | ⟨first, hfirst, front, hthrough⟩
    · rw [hline, h.trim, parseDelimiterCommand_dml h]
      simp
    · -- the first letter of the keyword is not the line feed that ends the front
      have hconcat := throughLastNewline_eq_concat (by rw [hthrough]; simp :
        throughLastNewline sql ≠ [])
      have hbefore : ∃ front', beforeLastNewline sql = first :: front' := by
        rw [hthrough] at hconcat
        cases hbefore : beforeLastNewline sql with
        | nil =>
          rw [hbefore] at hconcat
          have hfeed : first = '\n' := by simpa using congrArg head? hconcat
          rw [hfeed] at hfirst
          exact absurd hfirst (by decide)
        | cons first' front' =>
          rw [hbefore] at hconcat
          exact ⟨front', by rw [(cons.inj hconcat).1]⟩
      obtain ⟨front', hbefore⟩ := hbefore
      rw [hbefore, hasExecutableSql_trim_cons _ hfirst, Bool.not_true, Bool.and_false]
  change (codeState (lead ++ sql) previous).finishBuffer options = _
  unfold finishBuffer
  rw [htrim, if_neg (by rw [hdelimiter]; decide), if_neg (by simp [hslash])]
  exact statementsOf_dml options h hlead

end Ends

/-! ### Statements pass -/

section Passing

variable {x : Externals} {options : SqlParsingOptions}

private theorem passes_quotedName {quote : Char} (hquote : quote ∈ ['"', '`']) {word : Text}
    (h : word.all isQuiet) : Passes x options (quote :: word ++ [quote]) := by
  intro buffer previous rest hodd
  have hbackslash : quote ≠ '\\' := by
    rintro rfl
    exact absurd hquote (by decide)
  have hinside : hasOddTrailingBackslashes (buffer ++ [quote] ++ word) = false :=
    hasOddTrailingBackslashes_append (backslash_notMem_of_quiet h)
      (hasOddTrailingBackslashes_concat_of_ne hbackslash _)
  have hends := hasOddTrailingBackslashes_concat_of_ne hbackslash (buffer ++ [quote] ++ word)
  refine ⟨by simpa using hends, some quote, ?_⟩
  simp only [mem_cons, not_mem_nil, or_false] at hquote
  rcases hquote with rfl | rfl
  · have hopen : (scanner x options).Runs (codeState buffer previous)
        ('"' :: (word ++ '"' :: rest)) [] (nameState (buffer ++ ['"']) true false (some '"'))
        (word ++ '"' :: rest) := runs_doubleQuote x options _ previous hodd
    obtain ⟨previous', hrun⟩ := runs_quietText h (buffer ++ ['"']) ('"' :: rest) true false
      (some '"')
    have hclose : (scanner x options).Runs
        (nameState (buffer ++ ['"'] ++ word) true false previous') ('"' :: rest) []
        (codeState (buffer ++ ['"'] ++ word ++ ['"']) (some '"')) rest :=
      runs_doubleQuote x options rest previous' hinside
    simpa using (hopen.trans hrun).trans hclose
  · have hopen : (scanner x options).Runs (codeState buffer previous)
        ('`' :: (word ++ '`' :: rest)) [] (nameState (buffer ++ ['`']) false
          (false != options.profile.supportsBacktickIdentifiers) (some '`'))
        (word ++ '`' :: rest) := runs_backtick x options _ previous
    obtain ⟨previous', hrun⟩ := runs_quietText h (buffer ++ ['`']) ('`' :: rest) false
      (false != options.profile.supportsBacktickIdentifiers) (some '`')
    have hall := (hopen.trans hrun).trans (runs_backtick x options rest previous')
    cases hsupports : options.profile.supportsBacktickIdentifiers <;>
      simpa [hsupports] using hall

private theorem passes_name (name : GridName) : Passes x options name.sql := by
  have hword : Passes x options name.word := passes_quiet name.quiet
  unfold GridName.sql
  split
  · exact hword
  · exact passes_quotedName (by decide) name.quiet
  · exact passes_quotedName (by decide) name.quiet
  · exact ((passes_quiet rfl : Passes x options ['[']).append hword).append (passes_quiet rfl)

private theorem passes_names {separator : Text} (hseparator : Passes x options separator)
    (names : List GridName) :
    Passes x options (joinTexts separator (names.map GridName.sql)) := by
  apply passes_joinTexts hseparator
  intro part hpart
  obtain ⟨name, -, rfl⟩ := mem_map.mp hpart
  exact passes_name name

private theorem passes_literals {lead : Char} (hlead : lead ∈ leadChars) {literals : List Text}
    (h : ∀ literal ∈ literals, ∃ text, LiteralSpells options.profile literal text) :
    Passes x options (lead :: joinTexts ", " literals) := by
  induction literals generalizing lead with
  | nil => exact passes_quiet (by simpa [joinTexts] using (leadChars_plain hlead).1)
  | cons literal rest ih =>
    obtain ⟨text, hliteral⟩ := h literal mem_cons_self
    have hfirst := passes_literal (x := x) hlead hliteral
    rcases rest with _ | ⟨next, rest⟩
    · simpa [joinTexts] using hfirst
    have hrest := ih (by decide : ' ' ∈ leadChars)
      fun literal hmem => h literal (mem_cons_of_mem _ hmem)
    have hall := (hfirst.append (passes_quiet rfl : Passes x options [','])).append hrest
    simpa [joinTexts, intercalate_cons_cons] using hall

variable {literal : Text → Text}

private theorem passes_cell {cell : GridCell}
    (h : ∃ text, LiteralSpells options.profile (literal cell.2) text) :
    Passes x options (GridStatement.cellSql literal cell) := by
  obtain ⟨text, hliteral⟩ := h
  have hall := ((passes_name cell.1).append (passes_quiet rfl : Passes x options " =")).append
    (passes_literal (x := x) (by decide : ' ' ∈ leadChars) hliteral)
  simpa [GridStatement.cellSql] using hall

private theorem passes_statement {statement : GridStatement}
    (h : ∀ value ∈ statement.values, ∃ text, LiteralSpells options.profile (literal value) text) :
    Passes x options (statement.sql literal) := by
  cases statement with
  | insert table cells =>
    have hcolumns : Passes x options (joinTexts ", " (cells.map fun cell => cell.1.sql)) := by
      have hnames := passes_names (passes_quiet rfl : Passes x options ", ") (cells.map Prod.fst)
      rwa [map_map] at hnames
    have hvalues : Passes x options
        ('(' :: joinTexts ", " (cells.map fun cell => literal cell.2)) := by
      apply passes_literals (by decide)
      intro written hwritten
      obtain ⟨cell, hcell, rfl⟩ := mem_map.mp hwritten
      exact h cell.2 (mem_map_of_mem hcell)
    have hinsert : Passes x options "INSERT INTO " := passes_quiet rfl
    have htable : Passes x options (GridStatement.tableSql table) :=
      passes_names (passes_quiet rfl) table
    have hopen : Passes x options " (" := passes_quiet rfl
    have hmiddle : Passes x options ") VALUES " := passes_quiet rfl
    have hclose : Passes x options [')'] := passes_quiet rfl
    exact (((((hinsert.append htable).append hopen).append hcolumns).append
      hmiddle).append hvalues).append hclose
  | update table sets key keys =>
    have hcells : ∀ cells : List GridCell, (∀ cell ∈ cells, cell ∈ sets ++ key :: keys) →
        ∀ written ∈ cells.map (GridStatement.cellSql literal), Passes x options written := by
      intro cells hcells written hwritten
      obtain ⟨cell, hcell, rfl⟩ := mem_map.mp hwritten
      exact passes_cell (h cell.2 (mem_map_of_mem (hcells cell hcell)))
    have hsets : Passes x options (joinTexts ", " (sets.map (GridStatement.cellSql literal))) :=
      passes_joinTexts (passes_quiet rfl) (hcells sets fun cell hcell => mem_append_left _ hcell)
    have hkeys : Passes x options
        (joinTexts " AND " ((key :: keys).map (GridStatement.cellSql literal))) :=
      passes_joinTexts (passes_quiet rfl)
        (hcells (key :: keys) fun cell hcell => mem_append_right _ hcell)
    have hupdate : Passes x options "UPDATE " := passes_quiet rfl
    have htable : Passes x options (GridStatement.tableSql table) :=
      passes_names (passes_quiet rfl) table
    have hset : Passes x options " SET " := passes_quiet rfl
    have hwhere : Passes x options " WHERE " := passes_quiet rfl
    exact ((((hupdate.append htable).append hset).append hsets).append hwhere).append hkeys

private theorem joinTexts_last {separator : Text} {P : Text → Prop}
    (hfront : ∀ front text, P text → P (front ++ text)) {parts : List Text} (hne : parts ≠ [])
    (h : ∀ part ∈ parts, P part) : P (joinTexts separator parts) := by
  induction parts with
  | nil => exact absurd rfl hne
  | cons part rest ih =>
    cases rest with
    | nil => simpa [joinTexts] using h part mem_cons_self
    | cons next rest =>
      rw [joinTexts, intercalate_cons_cons]
      exact hfront _ _ (ih (by simp) fun part hmem => h part (mem_cons_of_mem _ hmem))

private theorem dmlText_statement {profile : SqlDialectProfile} {statement : GridStatement}
    (h : ∀ value ∈ statement.values, ∃ text, LiteralSpells profile (literal value) text) :
    DmlText (statement.sql literal) := by
  have hlonger : ∀ start text more : Text, start <+: text → start <+: text ++ more :=
    fun start text more hstart => hstart.trans (prefix_append text more)
  cases statement with
  | insert table cells =>
    have hstarts : "INSERT " <+: (GridStatement.insert table cells).sql literal := by
      iterate 6 apply hlonger
      exact ⟨"INTO ", rfl⟩
    obtain ⟨rest, hrest⟩ := hstarts
    exact ⟨⟨"INSERT", by simp, rest, hrest.symm⟩, ⟨_, ')', by simp, rfl⟩⟩
  | update table sets key keys =>
    have hstarts : "UPDATE " <+: (GridStatement.update table sets key keys).sql literal := by
      iterate 5 apply hlonger
      exact prefix_rfl
    obtain ⟨rest, hrest⟩ := hstarts
    refine ⟨⟨"UPDATE", by simp, rest, hrest.symm⟩, ?_⟩
    · have hfront : ∀ front text : Text, (∃ front', ∃ last ∈ ['\'', ')'], text = front' ++ [last]) →
          ∃ front', ∃ last ∈ ['\'', ')'], front ++ text = front' ++ [last] := by
        rintro front text ⟨front', last, hlast, rfl⟩
        exact ⟨front ++ front', last, hlast, by simp⟩
      apply hfront
      apply joinTexts_last hfront (by simp)
      intro written hwritten
      obtain ⟨cell, hcell, rfl⟩ := mem_map.mp hwritten
      obtain ⟨text, hliteral⟩ := h cell.2 (mem_map_of_mem (mem_append_right sets hcell))
      exact hfront _ _ (literal_last hliteral)

end Passing

/-! ### Lists of statements -/

section Lists

variable {x : Externals} {options : SqlParsingOptions}

private theorem runs_statements (hx : x.ReadsDml) {first : Text} {more : List Text}
    (hdml : ∀ sql ∈ first :: more, DmlText sql)
    (hpasses : ∀ sql ∈ first :: more, Passes x options sql) {lead : Text}
    (hlead : lead ∈ [[], ['\n']]) (previous : Option Char) :
    ∃ out last lead' previous', lead' ∈ [[], ['\n']] ∧ DmlText last ∧
      (scanner x options).Runs (codeState lead previous)
        (joinTexts ";\n" (first :: more)) out (codeState (lead' ++ last) previous') [] ∧
      out ++ [⟨last, false⟩] = (first :: more).map (⟨·, false⟩) := by
  induction more generalizing first lead previous with
  | nil =>
    have hodd := lead_odd hlead
    obtain ⟨-, previous', hrun⟩ := hpasses first mem_cons_self lead previous [] hodd
    refine ⟨[], first, lead, previous', hlead, hdml first mem_cons_self, ?_, rfl⟩
    simpa [joinTexts] using hrun
  | cons next more ih =>
    have hodd := lead_odd hlead
    obtain ⟨-, previous₁, hrun⟩ := hpasses first mem_cons_self lead previous
      (";\n" ++ joinTexts ";\n" (next :: more)) hodd
    have hsemicolon := runs_semicolon options hx (hdml first mem_cons_self) hlead
      ('\n' :: joinTexts ";\n" (next :: more)) previous₁
    have hfeed := runs_lineFeed (x := x) options (joinTexts ";\n" (next :: more)) (some ';')
    obtain ⟨out, last, lead', previous', hlead', hlast, hlater, hout⟩ :=
      ih (fun sql hmem => hdml sql (mem_cons_of_mem _ hmem))
        (fun sql hmem => hpasses sql (mem_cons_of_mem _ hmem))
        (by simp : ['\n'] ∈ [[], ['\n']]) (some '\n')
    have hall := ((hrun.trans hsemicolon).trans hfeed).trans hlater
    refine ⟨⟨first, false⟩ :: out, last, lead', previous', hlead', hlast, ?_, ?_⟩
    · exact hall
    · rw [cons_append, hout]
      rfl

private theorem splitSqlStatements_join (hx : x.ReadsDml) {statements : List Text}
    (hdml : ∀ sql ∈ statements, DmlText sql) (hpasses : ∀ sql ∈ statements, Passes x options sql) :
    splitSqlStatementsWithOptions x (joinTexts ";\n" statements) options = statements := by
  cases statements with
  | nil =>
    have hnone : statementsOf options false [] = [] := rfl
    have hcommand : parseDelimiterCommand (trim (lastLine (trim []))) = none := rfl
    change ([] ++ ({} : SqlStatementSplitter).finishBuffer options).map _ = []
    unfold finishBuffer
    dsimp only
    rw [hcommand, if_neg (by simp), hnone]
    split <;> rfl
  | cons first more =>
    obtain ⟨out, last, lead, previous, hlead, hlast, hrun, hout⟩ :=
      runs_statements hx hdml hpasses (by simp : [] ∈ [[], ['\n']]) none
    have hne : joinTexts ";\n" (first :: more) ≠ [] := by
      obtain ⟨c, -, rest, hcons⟩ := (hdml first mem_cons_self).head
      cases more with
      | nil => simp [joinTexts, hcons]
      | cons next more => simp [joinTexts, intercalate_cons_cons, hcons]
    have hpush : ({} : SqlStatementSplitter).pushChunkWithControl x options
        (joinTexts ";\n" (first :: more)) = (codeState (lead ++ last) previous, out) := by
      obtain ⟨c, rest, hcons⟩ := exists_cons_of_ne_nil hne
      rw [pushChunkWithControl, hcons, Scanner.push, ← hcons]
      have hscan : (scanner x options).scan 0 (codeState [] none)
          (joinTexts ";\n" (first :: more)) = _ := hrun
      rw [Scanner.scan, append_nil] at hscan
      exact hscan
    rw [splitSqlStatementsWithOptions, hpush]
    rw [finishWithControl_dml options hlast hlead previous, hout, map_map]
    exact map_id' _

end Lists

/-! ### The grid's literals -/

/-- For every dialect, the literal of a text in a `varchar` column is read back as that text exactly
when the writer and the profile agree about its backslashes and it is no timestamp written for
TDengine. A list of statements whose texts are agreed on comes back from the splitter. -/
theorem formatGridSqlLiteralWithSpatial_readsBack_iff (x : Externals) (hx : x.ReadsDml)
    (forms : LiteralForms) (databaseType : DatabaseType) (column : DataGridColumnInfo)
    (hcolumn : column.dataType = "varchar") (identifierQuote : Option Text)
    (spatialSrid : Option Nat) :
    let literal := fun text => formatGridSqlLiteralWithSpatial forms (.string text)
      (some databaseType) (some column) identifierQuote spatialSrid
    (∀ text, readLiteral (forDatabaseType databaseType) (literal text) = some text ↔
      BackslashesAgree databaseType text ∧
        ¬(databaseType = .tdengine ∧ (parseTdengineTimestamp text).isSome)) ∧
    ∀ statements : List GridStatement,
      (∀ statement ∈ statements, ∀ text ∈ statement.values, BackslashesAgree databaseType text) →
      splitSqlStatementsWithOptions x (joinTexts ";\n" (statements.map (GridStatement.sql literal)))
          (forDatabaseType databaseType) =
        statements.map (GridStatement.sql literal) := by
  intro literal
  refine ⟨readLiteral_format_iff forms databaseType hcolumn identifierQuote spatialSrid, ?_⟩
  intro statements hagree
  have hspells : ∀ statement ∈ statements, ∀ value ∈ statement.values, ∃ text,
      LiteralSpells (forDatabaseType databaseType) (literal value) text :=
    fun statement hstatement value hvalue =>
      format_spells forms hcolumn identifierQuote spatialSrid
        (hagree statement hstatement value hvalue)
  apply splitSqlStatements_join hx
  · intro sql hsql
    obtain ⟨statement, hstatement, rfl⟩ := mem_map.mp hsql
    exact dmlText_statement (hspells statement hstatement)
  · intro sql hsql
    obtain ⟨statement, hstatement, rfl⟩ := mem_map.mp hsql
    exact passes_statement (hspells statement hstatement)

/-- A `varchar` column. -/
def varcharColumn : DataGridColumnInfo := { name := "c", dataType := "varchar" }

/-- An `INSERT` of one text into the column `c` of a table `t`. -/
def insertOne (text : Text) : GridStatement :=
  .insert [⟨.bare, ['t'], rfl⟩] [(⟨.bare, ['c'], rfl⟩, text)]

/-- The literal of a text in a `varchar` column when no form claims anything. -/
def plainLiteral (databaseType : DatabaseType) (text : Text) : Text :=
  formatGridSqlLiteralWithSpatial plain (.string text) (some databaseType)
    (some varcharColumn) none none

/-- A backslash at the end of a text that SQLite stores: the literal has no end for the splitter,
and the next statement is swallowed. -/
theorem plainLiteral_sqlite_backslash : plainLiteral .sqlite "a\\" = "'a\\'" ∧
    readLiteral (forDatabaseType .sqlite) (plainLiteral .sqlite "a\\") = none ∧
    splitSqlStatementsWithOptions .ascii (joinTexts ";\n" ([insertOne "a\\", insertOne "b"].map
            (GridStatement.sql (plainLiteral .sqlite))))
        (forDatabaseType .sqlite) =
      ["INSERT INTO t (c) VALUES ('a\\');\nINSERT INTO t (c) VALUES ('b')".toList] := by
  decide +kernel

/-- A quote, a backslash and a control character for MySQL, and a line break for SQL Server. -/
theorem formatGridSqlLiteralWithSpatial_readsBack_both : readLiteral (forDatabaseType .mysql)
        (formatGridSqlLiteralWithSpatial plain (.string "it's \\ \x1a")
          (some .mysql) (some varcharColumn) none none) = some "it's \\ \x1a".toList ∧
    splitSqlStatementsWithOptions .ascii (joinTexts ";\n" ([insertOne "a;\nb", insertOne "c"].map
          (GridStatement.sql fun text => formatGridSqlLiteralWithSpatial plain
            (.string text) (some .sqlServer) (some varcharColumn) none none)))
        (forDatabaseType .sqlServer) =
      [insertOne "a;\nb", insertOne "c"].map
        (GridStatement.sql fun text => formatGridSqlLiteralWithSpatial plain
          (.string text) (some .sqlServer) (some varcharColumn) none none) := by
  have hx : Externals.ascii.ReadsDml := by
    intro lead _ keyword _ rest tokens htokens
    cases htokens
  have hmysql := formatGridSqlLiteralWithSpatial_readsBack_iff .ascii hx plain .mysql
    varcharColumn rfl none none
  have hsqlserver := formatGridSqlLiteralWithSpatial_readsBack_iff .ascii hx plain
    .sqlServer varcharColumn rfl none none
  exact ⟨(hmysql.1 _).mpr (by decide +kernel), hsqlserver.2 _ (by decide +kernel)⟩

end DbxSpec.Grid
