import DbxSpec.Sql.Blocks

/-!
# PL/SQL, SQLScript and PSQL blocks

The block detectors for Oracle, SAP HANA and Firebird. They read one token stream, the one of
`oracle_plsql_tokens`, and the Oracle detector is resumable: the splitter extends it at each
statement-level `;`. `crates/dbx-sql-core/src/sql.rs:3807-4602`.
-/

namespace DbxSpec.Sql

open DbxSpec.Base List

/-! ### Tokens -/

/-- `sql.rs:4181`. -/
inductive OraclePlSqlToken
  | word (value : Text)
  | quotedIdentifier
  | semicolon
  | other
  deriving DecidableEq, Repr

namespace OraclePlSqlToken

/-- `sql.rs:4457`. -/
def fromSqlparserToken : SqlparserToken → Option OraclePlSqlToken
  | .word value false => some (.word (toAsciiUppercase value))
  | .word _ true => some .quotedIdentifier
  | .semiColon => some .semicolon
  | .whitespace | .placeholder => none
  | .other => some .other

/-- `sql.rs:4471`. -/
def asWord : OraclePlSqlToken → Option Text
  | .word value => some value
  | .quotedIdentifier | .semicolon | .other => none

variable (token : OraclePlSqlToken)

/-- `sql.rs:4467`. -/
def isWord (expected : String) : Bool :=
  token.asWord == some expected.toList

/-- `sql.rs:4478`. -/
def isAnyWord (expected : List String) : Bool :=
  expected.any token.isWord

/-- `sql.rs:4482`. -/
def isSemicolon : Bool := token == .semicolon

end OraclePlSqlToken

variable (tokens : List OraclePlSqlToken)

/-- `sql.rs:4497`, for any token: a run of `other` tokens is kept as one. -/
def pushPlSqlToken (token : OraclePlSqlToken) : List OraclePlSqlToken :=
  if token = .other ∧ tokens.getLast? = some .other then tokens else tokens ++ [token]

private def isPlSqlWordChar (c : Char) : Bool := c.isAlphanum || c == '_' || c == '$' || c == '#'

private def oraclePlsqlTokensFallbackLoop :
    Nat → List OraclePlSqlToken → Text → List OraclePlSqlToken
  | 0, tokens, _ => tokens
  | _, tokens, [] => tokens
  | fuel + 1, tokens, ch :: rest =>
    if isWhitespace ch then oraclePlsqlTokensFallbackLoop fuel tokens rest
    else if ch == '-' && rest.head? == some '-' then
      oraclePlsqlTokensFallbackLoop fuel tokens (rest.tail.dropWhile (· != '\n')).tail
    else if ch == '/' && rest.head? == some '*' then
      oraclePlsqlTokensFallbackLoop fuel tokens (skipBlockComment none rest.tail)
    else if ch == '\'' then
      -- a string literal separates keywords the way punctuation does
      oraclePlsqlTokensFallbackLoop fuel (pushPlSqlToken tokens .other) (skipQuoted '\'' rest)
    else if ch == '"' then
      oraclePlsqlTokensFallbackLoop fuel (pushPlSqlToken tokens .quotedIdentifier)
        (rest.dropWhile (· != '"')).tail
    else if ch == ';' then
      oraclePlsqlTokensFallbackLoop fuel (pushPlSqlToken tokens .semicolon) rest
    else if ch.isAlpha || ch == '_' then
      oraclePlsqlTokensFallbackLoop fuel
        (pushPlSqlToken tokens
          (.word (toAsciiUppercase (ch :: rest.takeWhile isPlSqlWordChar))))
        (rest.dropWhile isPlSqlWordChar)
    else oraclePlsqlTokensFallbackLoop fuel (pushPlSqlToken tokens .other) rest

/-- `sql.rs:4522`. -/
def oraclePlsqlTokensFallback (sql : Text) : List OraclePlSqlToken :=
  oraclePlsqlTokensFallbackLoop sql.length [] sql

/-- `sql.rs:4503`. -/
def oraclePlsqlTokens (x : Externals) (sql : Text) : List OraclePlSqlToken :=
  match x.tokenizeOracle sql with
  | some tokens => (tokens.filterMap OraclePlSqlToken.fromSqlparserToken).foldl pushPlSqlToken []
  | none => oraclePlsqlTokensFallback sql

/-- `sql.rs:4489`. -/
def previousAdjacentWord (index : Nat) : Option Text :=
  if index = 0 then none else tokens[index - 1]?.bind OraclePlSqlToken.asWord

/-- `sql.rs:4493`. -/
def nextAdjacentWord (index : Nat) : Option Text :=
  tokens[index + 1]?.bind OraclePlSqlToken.asWord

private def wordIn (word : Option Text) (expected : List String) : Bool :=
  word.any (fun w => expected.any (fun e => w == e.toList))

private def tokenIs (token : Option OraclePlSqlToken) (expected : List String) : Bool :=
  token.any (·.isAnyWord expected)

/-! ### Oracle block headers -/

/-- `sql.rs:4434`. -/
inductive OraclePlSqlCreateObjectKind
  | spec
  | body
  deriving DecidableEq, Repr

/-- `sql.rs:4440`. -/
inductive OraclePlSqlScope
  | object
  | declaration
  | routineHeader
  | routine
  | block
  | case
  deriving DecidableEq, Repr

/-- `sql.rs:4176`. -/
structure OraclePlSqlBlock where
  tokens : List OraclePlSqlToken := []
  deriving DecidableEq, Repr

variable (block : OraclePlSqlBlock) (x : Externals) (sql : Text)

namespace OraclePlSqlBlock

/-- `sql.rs:4410`. -/
def skipCreateModifiers : List OraclePlSqlToken → List OraclePlSqlToken
  | [] => []
  | [only] =>
    if only.isAnyWord ["FORCE", "NOFORCE", "EDITIONABLE", "NONEDITIONABLE"] then [] else [only]
  | first :: second :: tail =>
    if first.isWord "OR" && second.isWord "REPLACE" then skipCreateModifiers tail
    else if first.isAnyWord ["FORCE", "NOFORCE", "EDITIONABLE", "NONEDITIONABLE"] then
      skipCreateModifiers (second :: tail)
    else first :: second :: tail

/-- `sql.rs:4428`. -/
def isTransactionBeginTail (token : OraclePlSqlToken) : Bool :=
  token.isSemicolon || token.isAnyWord ["TRANSACTION", "WORK"]

/-- `PACKAGE BODY` or `TYPE BODY`. -/
def isBodyObject : Bool :=
  tokenIs tokens[0]? ["PACKAGE", "TYPE"] && tokenIs tokens[1]? ["BODY"]

/-- `sql.rs:4356`. -/
def startsCreatePlsqlObject : Bool :=
  let tokens := skipCreateModifiers tokens
  if isBodyObject tokens then true
  else if tokenIs tokens.head? ["TYPE"] then false
  else tokenIs tokens.head? ["FUNCTION", "PROCEDURE", "TRIGGER", "PACKAGE"]

/-- `sql.rs:4294`. -/
def startsWithFunctionDeclaration : Bool :=
  tokenIs block.tokens[0]? ["WITH"] && tokenIs block.tokens[1]? ["FUNCTION", "PROCEDURE"]

/-- `sql.rs:4201`. -/
def startsBlock : Bool :=
  match block.tokens with
  | [] => false
  | first :: rest =>
    first.isWord "DECLARE" ||
      (first.isWord "BEGIN" && rest.head?.any (!isTransactionBeginTail ·)) ||
      block.startsWithFunctionDeclaration ||
      (first.isWord "CREATE" && startsCreatePlsqlObject rest)

/-- `sql.rs:4247`. -/
def routineBodyStartsWithPlsqlKeyword : List OraclePlSqlToken → Bool
  | [] => false
  | token :: rest =>
    if token.isAnyWord ["AS", "IS"] then tokenIs rest.head? ["DECLARE", "BEGIN"]
    else routineBodyStartsWithPlsqlKeyword rest

/-- `sql.rs:4226`. -/
def startsOracleStyleRoutineBody : Bool :=
  match block.tokens with
  | [] => false
  | first :: rest =>
    if !first.isWord "CREATE" then false
    else
      let rest := skipCreateModifiers rest
      isBodyObject rest ||
        (tokenIs rest.head? ["FUNCTION", "PROCEDURE"] && routineBodyStartsWithPlsqlKeyword rest)

/-- `sql.rs:4390`. -/
def isCompoundTriggerHeader : Bool :=
  let header := tokens.takeWhile
    (fun token => !(token.isSemicolon || token.isAnyWord ["BEGIN", "DECLARE", "CALL"]))
  (header.zip header.tail).any (fun pair => pair.1.isWord "COMPOUND" && pair.2.isWord "TRIGGER")

/-- `sql.rs:4368`. -/
def createObjectKind : Option OraclePlSqlCreateObjectKind :=
  if !tokenIs block.tokens.head? ["CREATE"] then none
  else
    let tokens := skipCreateModifiers block.tokens.tail
    if isBodyObject tokens then some .body
    else if tokenIs tokens.head? ["TRIGGER"] && isCompoundTriggerHeader tokens.tail then some .body
    else if tokenIs tokens.head? ["PACKAGE"] then some .spec
    else none

/-- `sql.rs:4399`. -/
def isCreateRoutine : Bool :=
  tokenIs block.tokens.head? ["CREATE"] &&
    tokenIs (skipCreateModifiers block.tokens.tail).head? ["PROCEDURE", "FUNCTION"]

/-- Whether the `END` at `index` leaves the scopes alone: it closes an `IF` or a `LOOP`, or it is
an `END CASE` with no open `CASE`. -/
def endKeepsScopes (index : Nat) (scopes : List OraclePlSqlScope) : Bool :=
  let next := nextAdjacentWord tokens index
  wordIn next ["IF", "LOOP"] || (wordIn next ["CASE"] && scopes.head? != some .case)

/-- The loop of `sql.rs:4314-4351` from token `index` on. -/
def withFunctionLoop (tokens : List OraclePlSqlToken) :
    Nat → List OraclePlSqlScope → Bool → List OraclePlSqlToken → Bool
  | _, _, _, [] => false
  | index, scopes, inMainQuery, token :: rest =>
    if token.isSemicolon then
      if inMainQuery && scopes.isEmpty then true
      else withFunctionLoop tokens (index + 1) scopes inMainQuery rest
    else if index > 0 && scopes.isEmpty &&
        token.isAnyWord ["SELECT", "INSERT", "UPDATE", "DELETE", "MERGE", "WITH"] then
      withFunctionLoop tokens (index + 1) scopes true rest
    else
      let scopes' :=
        if token.isWord "BEGIN" then .block :: scopes
        else if token.isWord "CASE" && !wordIn (previousAdjacentWord tokens index) ["END"] then
          .case :: scopes
        else if token.isWord "END" && !endKeepsScopes tokens index scopes then scopes.tail
        else scopes
      withFunctionLoop tokens (index + 1) scopes' inMainQuery rest

/-- `sql.rs:4306`. -/
def withFunctionIsComplete : Bool :=
  block.tokens.getLast?.any (·.isSemicolon) && withFunctionLoop block.tokens 0 [] false block.tokens

/-- `sql.rs:4268`: the rules that the header alone decides. -/
def completionWithoutBlockWalk : Option Bool :=
  if !block.startsBlock then some false
  else if block.startsWithFunctionDeclaration then some block.withFunctionIsComplete
  else if tokenIs block.tokens.head? ["CREATE"] then
    let object := skipCreateModifiers block.tokens.tail
    if tokenIs object.head? ["TRIGGER"] &&
        tokenIs (object.find? (·.isAnyWord ["BEGIN", "DECLARE", "COMPOUND", "CALL"])) ["CALL"] then
      some (block.tokens.getLast?.any (·.isSemicolon))
    else none
  else none

end OraclePlSqlBlock

/-! ### The scope walk and its tracker -/

/-- `sql.rs:4017`; the head of `scopes` is the innermost one. -/
structure OraclePlSqlBlockWalk where
  objectKind : Option OraclePlSqlCreateObjectKind
  scopes : List OraclePlSqlScope
  awaitingRoutineDeclarations : Bool
  sawBegin : Bool := false
  complete : Bool := false
  nextIndex : Nat := 0
  deriving DecidableEq, Repr

namespace OraclePlSqlBlockWalk

/-- `sql.rs:4027`. -/
def new : OraclePlSqlBlockWalk where
  objectKind := block.createObjectKind
  scopes := if block.createObjectKind.isSome then [.object] else []
  awaitingRoutineDeclarations := block.isCreateRoutine

variable (walk : OraclePlSqlBlockWalk)

/-- `sql.rs:4058`. -/
def step (index : Nat) : OraclePlSqlBlockWalk :=
  match tokens[index]? with
  | none => walk
  | some token =>
    let top := walk.scopes.head?
    if token.isSemicolon then
      if top = some .routineHeader then { walk with scopes := walk.scopes.tail } else walk
    else if walk.awaitingRoutineDeclarations && token.isAnyWord ["IS", "AS"] then
      { walk with
        awaitingRoutineDeclarations := false
        scopes := .declaration :: walk.scopes }
    else if token.isWord "DECLARE" then
      if top = some .declaration then walk
      else { walk with scopes := .declaration :: walk.scopes }
    else if token.isAnyWord ["PROCEDURE", "FUNCTION"] &&
        (top == some .declaration || top == some .routine) then
      { walk with scopes := .routineHeader :: walk.scopes }
    else if token.isAnyWord ["IS", "AS"] && top == some .routineHeader then
      { walk with scopes := .routine :: walk.scopes.tail }
    else if token.isWord "BEGIN" then
      -- the `BEGIN` of a declaration section or a local routine belongs to it
      let outer :=
        if top = some .declaration ∨ top = some .routine then walk.scopes.tail else walk.scopes
      { walk with scopes := .block :: outer, sawBegin := true, complete := false }
    else if token.isWord "CASE" then
      if wordIn (previousAdjacentWord tokens index) ["END"] then walk
      else { walk with scopes := .case :: walk.scopes }
    else if token.isWord "END" then
      if OraclePlSqlBlock.endKeepsScopes tokens index walk.scopes then walk
      else match walk.scopes with
        | [] => walk
        | _ :: outer => { walk with scopes := outer, complete := outer.isEmpty }
    else walk

/-- `sql.rs:4051`. -/
def advance (tokens : List OraclePlSqlToken) : OraclePlSqlBlockWalk :=
  let walked :=
    (range' walk.nextIndex (tokens.length - walk.nextIndex)).foldl (step tokens) walk
  { walked with nextIndex := max walk.nextIndex tokens.length }

/-- `sql.rs:4111`. -/
def isComplete : Bool :=
  if walk.objectKind.isSome then walk.complete else walk.sawBegin && walk.complete

end OraclePlSqlBlockWalk

/-- `sql.rs:4131`. -/
structure OraclePlSqlBlockTracker where
  block : OraclePlSqlBlock := {}
  scannedLen : Nat := 0
  walk : Option OraclePlSqlBlockWalk := none
  deriving DecidableEq, Repr

namespace OraclePlSqlBlockTracker

/-- `sql.rs:4142`. -/
def scan (tracker : OraclePlSqlBlockTracker) (statement : Text) : OraclePlSqlBlockTracker :=
  let tracker := if statement.length < tracker.scannedLen then {} else tracker
  { tracker with
    block := ⟨tracker.block.tokens ++ oraclePlsqlTokens x (statement.drop tracker.scannedLen)⟩
    scannedLen := statement.length }

/-- `sql.rs:4151`. -/
def keepsBlockTogether (tracker : OraclePlSqlBlockTracker)
    (options : SqlParsingOptions) (statementHead : Text) : Bool × OraclePlSqlBlockTracker :=
  if !options.profile.supportsOraclePlsqlBlocks &&
      !options.profile.supportsOracleStyleRoutineBodies then (false, tracker)
  else
    let tracker := tracker.scan x statementHead
    if options.profile.supportsOraclePlsqlBlocks then (tracker.block.startsBlock, tracker)
    else (tracker.block.startsOracleStyleRoutineBody, tracker)

/-- `sql.rs:4163`. -/
def isComplete (x : Externals) (tracker : OraclePlSqlBlockTracker) (statement : Text) :
    Bool × OraclePlSqlBlockTracker :=
  let tracker := tracker.scan x statement
  match tracker.block.completionWithoutBlockWalk with
  | some complete => (complete, tracker)
  | none =>
    let walk := tracker.walk.getD (OraclePlSqlBlockWalk.new tracker.block)
    let walk := walk.advance tracker.block.tokens
    (walk.isComplete, { tracker with walk := some walk })

end OraclePlSqlBlockTracker

/-- `sql.rs:3811`. -/
def startsWithPostgresDollarQuotedRoutinePrefix : Bool :=
  let tokens := oraclePlsqlTokens x sql
  tokenIs tokens.head? ["CREATE"] &&
    tokenIs (OraclePlSqlBlock.skipCreateModifiers tokens.tail).head? ["FUNCTION", "PROCEDURE"] &&
    wordIn (tokens.reverse.findSome? OraclePlSqlToken.asWord) ["AS"]

/-! ### SAP HANA and Firebird -/

/-- The depth walk of `sql.rs:3884-3919` and `3979-4010`. The two differ in the words that turn
an `END` into the closer of a control statement. -/
def scriptBlockLoop (endSuffixes : List String) (tokens : List OraclePlSqlToken) :
    Nat → Nat → Nat → Bool → List OraclePlSqlToken → Bool
  | _, blockDepth, caseDepth, sawBegin, [] =>
    sawBegin && blockDepth == 0 && caseDepth == 0 && tokens.getLast?.any (·.isSemicolon)
  | index, blockDepth, caseDepth, sawBegin, token :: rest =>
    let afterEnd := wordIn (previousAdjacentWord tokens index) ["END"]
    if token.isWord "BEGIN" then
      if afterEnd then
        scriptBlockLoop endSuffixes tokens (index + 1) blockDepth caseDepth sawBegin rest
      else scriptBlockLoop endSuffixes tokens (index + 1) (blockDepth + 1) caseDepth true rest
    else if token.isWord "CASE" then
      scriptBlockLoop endSuffixes tokens (index + 1) blockDepth
        (if afterEnd then caseDepth else caseDepth + 1) sawBegin rest
    else if token.isWord "END" && !wordIn (nextAdjacentWord tokens index) endSuffixes then
      if caseDepth > 0 then
        scriptBlockLoop endSuffixes tokens (index + 1) blockDepth (caseDepth - 1) sawBegin rest
      else scriptBlockLoop endSuffixes tokens (index + 1) (blockDepth - 1) caseDepth sawBegin rest
    else scriptBlockLoop endSuffixes tokens (index + 1) blockDepth caseDepth sawBegin rest

private def scriptBlockIsComplete (endSuffixes : List String) (tokens : List OraclePlSqlToken) :
    Bool :=
  scriptBlockLoop endSuffixes tokens 0 0 0 false tokens

private def hanaStartsBlock : Bool :=
  if tokenIs tokens.head? ["DO"] then true
  else
    let index :=
      if tokenIs tokens.head? ["CREATE"] && tokenIs tokens[1]? ["OR"] &&
        tokenIs tokens[2]? ["REPLACE"] then 3 else 1
    tokenIs tokens.head? ["CREATE", "ALTER"] &&
      tokenIs tokens[index]? ["PROCEDURE", "FUNCTION", "TRIGGER"] &&
      tokens.any (·.isWord "BEGIN")

/-- `sql.rs:3828`. -/
def startsWithHanaScriptBlock : Bool :=
  hanaStartsBlock (oraclePlsqlTokens x sql)

/-- `sql.rs:3832`. -/
def hanaScriptBlockIsComplete : Bool :=
  if sql.contains '\n' &&
      !"END;".toList.isPrefixOf (toAsciiUppercase (trimStart (lastLine sql))) then false
  else
    let tokens := oraclePlsqlTokens x sql
    hanaStartsBlock tokens && scriptBlockIsComplete ["IF", "FOR", "WHILE"] tokens

private def firebirdStartsBlock : Bool :=
  if tokenIs tokens.head? ["EXECUTE"] then tokenIs tokens[1]? ["BLOCK"]
  else if !tokenIs tokens.head? ["CREATE", "RECREATE", "ALTER"] then false
  else
    let index :=
      if tokenIs tokens[1]? ["OR"] && tokenIs tokens[2]? ["ALTER", "REPLACE"] then 3 else 1
    let object :=
      if tokenIs tokens[index]? ["PACKAGE"] then tokenIs tokens[index + 1]? ["BODY"]
      else tokenIs tokens[index]? ["PROCEDURE", "FUNCTION", "TRIGGER"]
    if !object then false
    else if tokenIs tokens.head? ["ALTER"] then tokens.any (·.isAnyWord ["AS", "BEGIN"])
    else true

/-- `sql.rs:3923`. -/
def startsWithFirebirdRoutineBlock : Bool :=
  firebirdStartsBlock (oraclePlsqlTokens x sql)

/-- `sql.rs:3927`. -/
def firebirdRoutineBlockIsComplete : Bool :=
  let tokens := oraclePlsqlTokens x sql
  firebirdStartsBlock tokens && scriptBlockIsComplete [] tokens

/-! ### Statements that change rows -/

/-- What is asked of the tokenizer: an `INSERT` or `UPDATE` at the start of a text, perhaps after a
line feed, is its first word. -/
def Externals.ReadsDml : Prop :=
  ∀ lead ∈ [[], ['\n']], ∀ keyword ∈ ["INSERT".toList, "UPDATE".toList], ∀ rest tokens,
    x.tokenizeOracle (lead ++ keyword ++ ' ' :: rest) = some tokens →
      tokens.find? (· ≠ .whitespace) = some (.word keyword false)

private theorem pushPlSqlToken_cons (first token : OraclePlSqlToken)
    (tokens : List OraclePlSqlToken) :
    ∃ tokens', pushPlSqlToken (first :: tokens) token = first :: tokens' := by
  unfold pushPlSqlToken
  split
  · exact ⟨tokens, rfl⟩
  · exact ⟨tokens ++ [token], rfl⟩

private theorem foldl_pushPlSqlToken_cons (first : OraclePlSqlToken)
    (tokens more : List OraclePlSqlToken) :
    ∃ tokens', more.foldl pushPlSqlToken (first :: tokens) = first :: tokens' := by
  induction more generalizing tokens with
  | nil => exact ⟨tokens, rfl⟩
  | cons token more ih =>
    obtain ⟨tokens', hpush⟩ := pushPlSqlToken_cons first token tokens
    rw [foldl_cons, hpush]
    exact ih tokens'

private theorem oraclePlsqlTokensFallbackLoop_cons (fuel : Nat) (first : OraclePlSqlToken)
    (tokens : List OraclePlSqlToken) (sql : Text) :
    ∃ tokens', oraclePlsqlTokensFallbackLoop fuel (first :: tokens) sql = first :: tokens' := by
  induction fuel generalizing tokens sql with
  | zero => exact ⟨tokens, rfl⟩
  | succ fuel ih =>
    rcases sql with _ | ⟨ch, rest⟩
    · exact ⟨tokens, rfl⟩
    have hpushed : ∀ token rest', ∃ tokens', oraclePlsqlTokensFallbackLoop fuel
        (pushPlSqlToken (first :: tokens) token) rest' = first :: tokens' := by
      intro token rest'
      obtain ⟨tokens', hpush⟩ := pushPlSqlToken_cons first token tokens
      rw [hpush]
      exact ih tokens' rest'
    rw [oraclePlsqlTokensFallbackLoop]
    split_ifs <;> first
      | exact hpushed _ _
      | exact ih tokens _

private theorem oraclePlsqlTokens_dml {x : Externals} (hx : x.ReadsDml) {sql : Text}
    (h : StartsDml sql) :
    ∃ keyword ∈ ["INSERT".toList, "UPDATE".toList], ∃ tokens,
      oraclePlsqlTokens x sql = .word keyword :: tokens := by
  obtain ⟨lead, hlead, keyword, hkeyword, rest, rfl⟩ := h
  refine ⟨keyword, hkeyword, ?_⟩
  unfold oraclePlsqlTokens
  split
  · next tokens hsome =>
    obtain ⟨-, front, back, rfl, hfront⟩ :=
      find?_eq_some_iff_append.mp (hx lead hlead keyword hkeyword rest tokens hsome)
    have hblank : front.filterMap OraclePlSqlToken.fromSqlparserToken = [] := by
      rw [filterMap_eq_nil_iff]
      intro token htoken
      have hwhitespace : token = .whitespace := by simpa using hfront token htoken
      rw [hwhitespace]
      rfl
    have hupper : toAsciiUppercase keyword = keyword := by
      simp only [mem_cons, not_mem_nil, or_false] at hkeyword
      rcases hkeyword with rfl | rfl <;> rfl
    rw [filterMap_append, hblank, nil_append, filterMap_cons]
    simp only [OraclePlSqlToken.fromSqlparserToken, hupper, foldl_cons]
    exact foldl_pushPlSqlToken_cons (.word keyword) [] _
  · have hloop : oraclePlsqlTokensFallback (lead ++ keyword ++ ' ' :: rest) =
        oraclePlsqlTokensFallbackLoop (rest.length + 6) [.word keyword] (' ' :: rest) := by
      simp only [mem_cons, not_mem_nil, or_false] at hlead hkeyword
      rcases hlead with rfl | rfl <;> rcases hkeyword with rfl | rfl <;> rfl
    rw [hloop]
    exact oraclePlsqlTokensFallbackLoop_cons _ _ _ _

/-- Such a statement starts no block of any dialect. -/
theorem startsBlock_dml {x : Externals} (hx : x.ReadsDml) {sql : Text} (h : StartsDml sql) :
    (⟨oraclePlsqlTokens x sql⟩ : OraclePlSqlBlock).startsBlock = false ∧
      (⟨oraclePlsqlTokens x sql⟩ : OraclePlSqlBlock).startsOracleStyleRoutineBody = false ∧
      startsWithHanaScriptBlock x sql = false ∧ startsWithFirebirdRoutineBlock x sql = false := by
  obtain ⟨keyword, hkeyword, tokens, htokens⟩ := oraclePlsqlTokens_dml hx h
  rw [startsWithHanaScriptBlock, startsWithFirebirdRoutineBlock, htokens]
  simp only [mem_cons, not_mem_nil, or_false] at hkeyword
  rcases hkeyword with rfl | rfl <;> exact ⟨rfl, rfl, rfl, rfl⟩

end DbxSpec.Sql
