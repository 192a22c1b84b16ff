import DbxSpec.Sql.Lexical

/-!
# MySQL routine bodies and SQL Server control-flow batches

The block detectors that keep the inner semicolons of a MySQL routine or of a T-SQL
control-flow batch inside one statement. `crates/dbx-sql-core/src/sql.rs:2026-2132`,
`2313-2589` and `3646-3805`. Each loop is driven by the length of its input, which
bounds its rounds because every round consumes a character or a token.
-/

namespace DbxSpec.Sql

open DbxSpec.Base List

/-- `sql.rs:3262`. -/
def isSqlIdentChar (ch : Char) : Bool := ch == '_' || ch == '$' || ch.isAlphanum

/-! ### MySQL routines -/

/-- The lexical position inside `mysql_routine_tokens`; the source keeps one flag for each. -/
inductive MysqlRoutinePosition
  | code
  | lineComment
  | blockComment
  | singleQuote
  | doubleQuote
  | backtick
  deriving DecidableEq

private def mysqlRoutineTokensLoop : Nat → MysqlRoutinePosition → Text → List Text
  | 0, _, _ => []
  | _, _, [] => []
  | fuel + 1, position, ch :: rest =>
    let next := rest.head?
    match position with
    | .lineComment =>
      mysqlRoutineTokensLoop fuel (if ch == '\n' then .code else .lineComment) rest
    | .blockComment =>
      if ch == '*' && next == some '/' then mysqlRoutineTokensLoop fuel .code rest.tail
      else mysqlRoutineTokensLoop fuel .blockComment rest
    | .singleQuote =>
      if ch == '\\' && next.isSome then mysqlRoutineTokensLoop fuel .singleQuote rest.tail
      else if ch == '\'' then
        if next == some '\'' then mysqlRoutineTokensLoop fuel .singleQuote rest.tail
        else mysqlRoutineTokensLoop fuel .code rest
      else mysqlRoutineTokensLoop fuel .singleQuote rest
    | .doubleQuote =>
      if ch == '\\' && next.isSome then mysqlRoutineTokensLoop fuel .doubleQuote rest.tail
      else if ch == '"' then
        if next == some '"' then mysqlRoutineTokensLoop fuel .doubleQuote rest.tail
        else mysqlRoutineTokensLoop fuel .code rest
      else mysqlRoutineTokensLoop fuel .doubleQuote rest
    | .backtick =>
      if ch == '`' then
        if next == some '`' then mysqlRoutineTokensLoop fuel .backtick rest.tail
        else mysqlRoutineTokensLoop fuel .code rest
      else mysqlRoutineTokensLoop fuel .backtick rest
    | .code =>
      if ch == '-' && next == some '-' then mysqlRoutineTokensLoop fuel .lineComment rest.tail
      else if ch == '#' then mysqlRoutineTokensLoop fuel .lineComment rest
      else if ch == '/' && next == some '*' then
        mysqlRoutineTokensLoop fuel .blockComment rest.tail
      else if ch == '\'' then mysqlRoutineTokensLoop fuel .singleQuote rest
      else if ch == '"' then mysqlRoutineTokensLoop fuel .doubleQuote rest
      else if ch == '`' then mysqlRoutineTokensLoop fuel .backtick rest
      else if ch == ';' then [';'] :: mysqlRoutineTokensLoop fuel .code rest
      else if ch == '_' || ch.isAlpha then
        toAsciiUppercase (ch :: rest.takeWhile isSqlIdentChar) ::
          mysqlRoutineTokensLoop fuel .code (rest.dropWhile isSqlIdentChar)
      else mysqlRoutineTokensLoop fuel .code rest

variable (sql : Text)

/-- `sql.rs:2418`. -/
def mysqlRoutineTokens : List Text := mysqlRoutineTokensLoop sql.length .code sql

/-- The text after a block comment whose opener has been read, where the closing slash pairs
with the character before it; `sql.rs:2567-2573`. -/
def skipBlockComment : Option Char → Text → Text
  | _, [] => []
  | previous, ch :: rest =>
    if previous == some '*' && ch == '/' then rest else skipBlockComment (some ch) rest

private def pushToken (tokens : List Text) (token : Text) : List Text :=
  if token.isEmpty then tokens else tokens ++ [token]

private def firstSqlTokensLoop (limit : Nat) : Nat → List Text → Text → Text → List Text
  | 0, tokens, token, _ => if tokens.length < limit then pushToken tokens token else tokens
  | _, tokens, token, [] => if tokens.length < limit then pushToken tokens token else tokens
  | fuel + 1, tokens, token, ch :: rest =>
    let (tokens', token', rest') :=
      if ch == '-' && rest.head? == some '-' then
        (pushToken tokens token, [], (rest.tail.dropWhile (· != '\n')).tail)
      else if ch == '/' && rest.head? == some '*' then
        (pushToken tokens token, [], skipBlockComment none rest.tail)
      else if ch.isAlphanum || ch == '_' then (tokens, token ++ [ch], rest)
      else (pushToken tokens token, [], rest)
    if tokens'.length ≥ limit then tokens'
    else firstSqlTokensLoop limit fuel tokens' token' rest'

/-- `sql.rs:2546`. -/
def firstSqlTokens (limit : Nat) : List Text :=
  firstSqlTokensLoop limit sql.length [] [] sql

private def isWordOf (keywords : List String) (token : Text) : Bool :=
  keywords.any (fun keyword => eqIgnoreAsciiCase token keyword.toList)

private def mysqlRoutineKindLoop : List Text → Bool
  | [] => false
  | token :: rest =>
    if isWordOf ["PROCEDURE", "FUNCTION", "TRIGGER", "EVENT"] token then true
    else if isWordOf ["DATABASE", "INDEX", "LOGFILE", "ROLE", "SCHEMA", "SERVER", "SPATIAL",
        "TABLE", "TEMPORARY", "UNIQUE", "USER", "VIEW"] token then false
    else mysqlRoutineKindLoop rest

/-- `sql.rs:2317`. -/
def isMysqlRoutineDdlStart : Bool :=
  let executable := leadingExecutableSqlWithOptions sql SqlParsingOptions.mysqlCompatible
  match firstSqlTokens executable 16 with
  | [] => false
  | first :: rest => isWordOf ["CREATE"] first && mysqlRoutineKindLoop rest

/-- `sql.rs:2313`. -/
def startsWithMysqlRoutineBlock : Bool :=
  isMysqlRoutineDdlStart sql && (mysqlRoutineTokens sql).any (isWordOf ["BEGIN"])

/-- `sql.rs:2353`. -/
inductive MysqlRoutineBlockType
  | begin
  | case
  deriving DecidableEq

/-- `sql.rs:2406`. -/
def isMysqlControlBlockSuffix (token : Text) : Bool :=
  isWordOf ["IF", "LOOP", "CASE", "REPEAT", "WHILE"] token

/-- The walk of `sql.rs:2367-2401`. `previous` is the last word read before the remaining tokens
(`previous_mysql_routine_word`) and the top of the block stack is its head. -/
def mysqlRoutineWalk :
    Option Text → List MysqlRoutineBlockType → Bool → List Text → Bool × List MysqlRoutineBlockType
  | _, stack, sawBegin, [] => (sawBegin, stack)
  | previous, stack, sawBegin, token :: rest =>
    if token == [';'] then mysqlRoutineWalk previous stack sawBegin rest
    else
      let afterEnd := previous.any (isWordOf ["END"])
      if isWordOf ["BEGIN"] token then
        if afterEnd then mysqlRoutineWalk (some token) stack sawBegin rest
        else mysqlRoutineWalk (some token) (.begin :: stack) true rest
      else if isWordOf ["CASE"] token then
        if afterEnd then mysqlRoutineWalk (some token) stack sawBegin rest
        else mysqlRoutineWalk (some token) (.case :: stack) sawBegin rest
      else if isWordOf ["END"] token && sawBegin then
        let suffix := rest.find? (· != [';'])
        if suffix.any (isWordOf ["CASE"]) then
          mysqlRoutineWalk (some token) (if stack.head? = some .case then stack.tail else stack)
            sawBegin rest
        else if suffix.any isMysqlControlBlockSuffix then
          mysqlRoutineWalk (some token) stack sawBegin rest
        else mysqlRoutineWalk (some token) stack.tail sawBegin rest
      else mysqlRoutineWalk (some token) stack sawBegin rest

/-- `sql.rs:2358`. -/
def mysqlRoutineBlockIsComplete : Bool :=
  if !startsWithMysqlRoutineBlock sql then false
  else
    let tokens := mysqlRoutineTokens sql
    let (sawBegin, stack) := mysqlRoutineWalk none [] false tokens
    sawBegin && stack.isEmpty && tokens.getLast? == some [';']

/-! ### SQL Server batches -/

/-- `sql.rs:2030`, with character offsets. -/
structure SqlServerTopLevelToken where
  text : Text
  start : Nat
  stop : Nat
  deriving DecidableEq, Repr

/-- `sql.rs:2037`. -/
def SqlServerTopLevelToken.isWord (token : SqlServerTopLevelToken) (keyword : String) : Bool :=
  eqIgnoreAsciiCase token.text keyword.toList

/-- The text after a quoted run whose opener has been read; a doubled closer stays inside. -/
def skipQuoted (close : Char) : Text → Text
  | [] => []
  | [_] => []
  | c :: d :: rest =>
    if c == close then
      if d == close then skipQuoted close rest else d :: rest
    else skipQuoted close (d :: rest)

/-- The text after a block comment whose opener has been read; these comments do not nest. -/
def skipPlainBlockComment : Text → Text
  | [] => []
  | [_] => []
  | a :: b :: rest => if a == '*' && b == '/' then rest else skipPlainBlockComment (b :: rest)

private def isTopLevelWordChar (c : Char) : Bool := c == '_' || c.isAlphanum || c == '$'

/-- `index` is the offset of the remaining text. -/
def sqlserverTopLevelTokensLoop :
    Nat → Nat → Nat → Text → List SqlServerTopLevelToken
  | 0, _, _, _ => []
  | _, _, _, [] => []
  | fuel + 1, index, parenDepth, c :: rest =>
    let total := index + (c :: rest).length
    let continueAt := fun (depth : Nat) (remaining : Text) =>
      sqlserverTopLevelTokensLoop fuel (total - remaining.length) depth remaining
    if c == '\'' || c == '"' then continueAt parenDepth (skipQuoted c rest)
    else if c == '[' then continueAt parenDepth (skipQuoted ']' rest)
    else if c == '-' && rest.head? == some '-' then
      continueAt parenDepth (rest.tail.dropWhile (· != '\n'))
    else if c == '/' && rest.head? == some '*' then
      continueAt parenDepth (skipPlainBlockComment rest.tail)
    else if c == '(' then continueAt (parenDepth + 1) rest
    else if c == ')' then continueAt (parenDepth - 1) rest
    else if c == ';' && parenDepth == 0 then
      ⟨[';'], index, index + 1⟩ :: continueAt parenDepth rest
    else if parenDepth == 0 && (c == '_' || c.isAlpha) then
      let word := c :: rest.takeWhile isTopLevelWordChar
      ⟨word, index, index + word.length⟩ ::
        continueAt parenDepth (rest.dropWhile isTopLevelWordChar)
    else continueAt parenDepth rest

/-- `sql.rs:2042`. -/
def sqlserverTopLevelTokens : List SqlServerTopLevelToken :=
  sqlserverTopLevelTokensLoop sql.length 0 0 sql

/-- `sql.rs:2126`, on the tokens after the `BEGIN`. -/
def sqlserverBeginsBlock : List SqlServerTopLevelToken → Bool
  | [] => false
  | next :: _ =>
    next.text != [';'] &&
      !(["TRANSACTION", "TRAN", "DISTRIBUTED", "DIALOG", "CONVERSATION"].any next.isWord)

/-- `sql.rs:3646`. -/
def keepsSqlserverControlFlowBatch (options : SqlParsingOptions) (statementHead : Text) : Bool :=
  if !options.profile.keepsSqlserverControlFlowBatches then false
  else match sqlserverTopLevelTokens statementHead with
    | [] => false
    | first :: rest =>
      first.isWord "IF" || first.isWord "WHILE" ||
        (first.isWord "BEGIN" && sqlserverBeginsBlock rest)

/-- `END TRY` directly followed by `BEGIN CATCH`, on the tokens after the `END`. -/
def continuesIntoCatch : List SqlServerTopLevelToken → Bool
  | try_ :: begin_ :: catch_ :: _ =>
    try_.isWord "TRY" && begin_.isWord "BEGIN" && catch_.isWord "CATCH"
  | _ => false

private def endsConversation (rest : List SqlServerTopLevelToken) : Bool :=
  rest.head?.any (fun next => next.isWord "CONVERSATION" || next.isWord "DIALOG")

private def sqlserverOpenBlocksLoop : Nat → Bool → List SqlServerTopLevelToken → Nat
  | depth, _, [] => depth
  | depth, carriedTry, token :: rest =>
    if token.isWord "BEGIN" then
      if !sqlserverBeginsBlock rest then sqlserverOpenBlocksLoop depth carriedTry rest
      else if carriedTry then sqlserverOpenBlocksLoop depth false rest
      else sqlserverOpenBlocksLoop (depth + 1) false rest
    else if token.isWord "CASE" then sqlserverOpenBlocksLoop (depth + 1) carriedTry rest
    else if !token.isWord "END" then sqlserverOpenBlocksLoop depth carriedTry rest
    else if endsConversation rest then sqlserverOpenBlocksLoop depth carriedTry rest
    else if continuesIntoCatch rest then sqlserverOpenBlocksLoop depth true rest
    else sqlserverOpenBlocksLoop (depth - 1) false rest

/-- `sql.rs:3665`. -/
def sqlserverControlFlowOpenBlocks : Nat :=
  sqlserverOpenBlocksLoop 0 false (sqlserverTopLevelTokens sql)

/-- `sql.rs:3714`. -/
def sqlserverControlFlowBatchIsComplete : Bool :=
  sqlserverControlFlowOpenBlocks sql == 0

/-- Where the closer at `token` ends and the word after it; `sql.rs:3785-3790`. -/
def closureOf (token : SqlServerTopLevelToken) (rest : List SqlServerTopLevelToken) :
    Nat × Text :=
  match rest with
  | next :: after =>
    if next.isWord "TRY" || next.isWord "CATCH" then
      (next.stop, (after.head?.map (·.text)).getD [])
    else (token.stop, next.text)
  | [] => (token.stop, [])

private def isElse (word : Text) : Bool := eqIgnoreAsciiCase word "ELSE".toList

/-- The two nested loops of `sql.rs:3732-3803` as one walk: a `;` closes the fragment, which
either has found its boundary or hands its depth to the next fragment. -/
def sqlserverBoundaryLoop (startDepth depth : Nat) (carriedTry : Bool)
    (boundary : Option (Nat × Text)) : List SqlServerTopLevelToken → Option Nat
  | [] => boundary.bind (fun b => if isElse b.2 then none else some b.1)
  | token :: rest =>
    if token.isWord ";" then
      match boundary with
      | some (offset, wordAfter) =>
        if isElse wordAfter then sqlserverBoundaryLoop depth depth false none rest
        else some offset
      | none => sqlserverBoundaryLoop depth depth false none rest
    else if token.isWord "BEGIN" then
      if sqlserverBeginsBlock rest then
        if carriedTry then sqlserverBoundaryLoop startDepth depth false boundary rest
        else sqlserverBoundaryLoop startDepth (depth + 1) false boundary rest
      else sqlserverBoundaryLoop startDepth depth carriedTry boundary rest
    else if token.isWord "CASE" then
      sqlserverBoundaryLoop startDepth (depth + 1) carriedTry boundary rest
    else if !token.isWord "END" then
      sqlserverBoundaryLoop startDepth depth carriedTry boundary rest
    else if endsConversation rest then
      sqlserverBoundaryLoop startDepth depth carriedTry boundary rest
    else if continuesIntoCatch rest then
      sqlserverBoundaryLoop startDepth depth true boundary rest
    else
      let boundary :=
        if startDepth > 0 ∧ depth - 1 = 0 ∧ boundary.all (isElse ·.2) then
          some (closureOf token rest)
        else boundary
      sqlserverBoundaryLoop startDepth (depth - 1) false boundary rest

/-- `sql.rs:3728`. -/
def sqlserverControlFlowBatchBoundary : Option Nat :=
  sqlserverBoundaryLoop 0 0 false none (sqlserverTopLevelTokens sql)

private theorem sqlserverTopLevelTokensLoop_stop (fuel index parenDepth : Nat) (text : Text) :
    ∀ token ∈ sqlserverTopLevelTokensLoop fuel index parenDepth text, 0 < token.stop := by
  induction fuel generalizing index parenDepth text with
  | zero => simp [sqlserverTopLevelTokensLoop]
  | succ fuel ih =>
    rcases text with _ | ⟨c, rest⟩
    · simp [sqlserverTopLevelTokensLoop]
    rw [sqlserverTopLevelTokensLoop]
    repeat' split
    all_goals first | exact ih _ _ _ | skip
    · exact forall_mem_cons.mpr ⟨Nat.succ_pos _, ih _ _ _⟩
    · refine forall_mem_cons.mpr ⟨?_, ih _ _ _⟩
      simp only [length_cons]
      omega

private theorem closureOf_pos {token : SqlServerTopLevelToken} {rest : List SqlServerTopLevelToken}
    (htoken : 0 < token.stop) (hrest : ∀ next ∈ rest, 0 < next.stop) :
    0 < (closureOf token rest).1 := by
  cases rest with
  | nil => exact htoken
  | cons next after =>
    rw [closureOf]
    split
    · exact hrest next (by simp)
    · exact htoken

private theorem sqlserverBoundaryLoop_pos {startDepth depth : Nat} {carriedTry : Bool}
    {boundary : Option (Nat × Text)} {tokens : List SqlServerTopLevelToken} {offset : Nat}
    (htokens : ∀ token ∈ tokens, 0 < token.stop) (hboundary : ∀ b ∈ boundary, 0 < b.1)
    (h : sqlserverBoundaryLoop startDepth depth carriedTry boundary tokens = some offset) :
    0 < offset := by
  fun_induction sqlserverBoundaryLoop startDepth depth carriedTry boundary tokens with
  | case1 =>
    obtain ⟨b, hb, hoffset⟩ := Option.bind_eq_some_iff.mp h
    split at hoffset
    · cases hoffset
    · cases hoffset
      exact hboundary b hb
  | case2 | case4 =>
    rename_i ih
    exact ih (forall_mem_cons.mp htokens).2 (by simp) h
  | case3 =>
    cases h
    exact hboundary (_, _) rfl
  | case12 =>
    rename_i now ih
    obtain ⟨htoken, hrest⟩ := forall_mem_cons.mp htokens
    refine ih hrest ?_ h
    unfold now
    split
    · rintro b ⟨rfl⟩
      exact closureOf_pos htoken hrest
    · exact hboundary
  | _ =>
    rename_i ih
    exact ih (forall_mem_cons.mp htokens).2 hboundary h

/-- A boundary lies after the first token of the text. -/
theorem sqlserverControlFlowBatchBoundary_pos {sql : Text} {offset : Nat}
    (h : sqlserverControlFlowBatchBoundary sql = some offset) : 0 < offset :=
  sqlserverBoundaryLoop_pos (sqlserverTopLevelTokensLoop_stop _ _ _ _) (by simp) h

/-! ### Statements that change rows -/

/-- An `INSERT` or an `UPDATE`, perhaps after a line feed. -/
def StartsDml : Prop :=
  ∃ lead ∈ [[], ['\n']], ∃ keyword ∈ ["INSERT".toList, "UPDATE".toList], ∃ rest,
    sql = lead ++ keyword ++ ' ' :: rest

variable {tokens : List Text}

private theorem pushToken_head? (h : tokens ≠ []) (token : Text) :
    (pushToken tokens token).head? = tokens.head? := by
  unfold pushToken
  split
  · rfl
  · cases tokens with
    | nil => exact absurd rfl h
    | cons first rest => rfl

private theorem pushToken_ne_nil (h : tokens ≠ []) (token : Text) :
    pushToken tokens token ≠ [] := by
  unfold pushToken
  split
  · exact h
  · simp

private theorem firstSqlTokensLoop_head? (limit fuel : Nat) (h : tokens ≠ []) (token sql : Text) :
    (firstSqlTokensLoop limit fuel tokens token sql).head? = tokens.head? := by
  induction fuel generalizing tokens token sql with
  | zero =>
    rw [firstSqlTokensLoop]
    split
    · exact pushToken_head? h token
    · rfl
  | succ fuel ih =>
    cases sql with
    | nil =>
      rw [firstSqlTokensLoop]
      · split
        · exact pushToken_head? h token
        · rfl
      · simp
    | cons ch rest =>
      have hpushed : ∀ token' rest', (firstSqlTokensLoop limit fuel (pushToken tokens token) token'
          rest').head? = tokens.head? := fun token' rest' =>
        (ih (pushToken_ne_nil h token) token' rest').trans (pushToken_head? h token)
      rw [firstSqlTokensLoop]
      dsimp only
      split_ifs <;> first
        | exact hpushed _ _
        | exact ih h _ _
        | exact pushToken_head? h token
        | rfl

private theorem firstSqlTokens_head? {keyword : Text}
    (h : keyword ∈ ["INSERT".toList, "UPDATE".toList]) (rest : Text) :
    (firstSqlTokens (keyword ++ ' ' :: rest) 16).head? = some keyword := by
  have hloop : firstSqlTokens (keyword ++ ' ' :: rest) 16 =
      firstSqlTokensLoop 16 rest.length [keyword] [] rest := by
    simp only [mem_cons, not_mem_nil, or_false] at h
    rcases h with rfl | rfl <;> rfl
  rw [hloop, firstSqlTokensLoop_head? 16 _ (by simp)]
  rfl

/-- Such a statement is no routine definition. -/
theorem isMysqlRoutineDdlStart_eq_false {sql : Text} (h : StartsDml sql) :
    isMysqlRoutineDdlStart sql = false := by
  obtain ⟨lead, hlead, keyword, hkeyword, rest, rfl⟩ := h
  have hexecutable : leadingExecutableSqlWithOptions (lead ++ keyword ++ ' ' :: rest)
      SqlParsingOptions.mysqlCompatible = keyword ++ ' ' :: rest := by
    simp only [mem_cons, not_mem_nil, or_false] at hlead hkeyword
    rcases hlead with rfl | rfl <;> rcases hkeyword with rfl | rfl <;> rfl
  have hfirst := firstSqlTokens_head? hkeyword rest
  obtain ⟨more, htokens⟩ := head?_eq_some_iff.mp hfirst
  have hcreate : isWordOf ["CREATE"] keyword = false := by
    simp only [mem_cons, not_mem_nil, or_false] at hkeyword
    rcases hkeyword with rfl | rfl <;> rfl
  rw [isMysqlRoutineDdlStart, hexecutable, htokens]
  simp [hcreate]

/-- Such a statement starts no control flow. -/
theorem keepsSqlserverControlFlowBatch_eq_false {sql : Text} (h : StartsDml sql)
    (options : SqlParsingOptions) : keepsSqlserverControlFlowBatch options sql = false := by
  obtain ⟨lead, hlead, keyword, hkeyword, rest, rfl⟩ := h
  unfold keepsSqlserverControlFlowBatch
  split
  · rfl
  · simp only [mem_cons, not_mem_nil, or_false] at hlead hkeyword
    rcases hlead with rfl | rfl <;> rcases hkeyword with rfl | rfl <;> rfl

end DbxSpec.Sql
