import DbxSpec.Sql.Profile

/-!
# Lexical predicates of the SQL scanners

The pure predicates on text that the statement splitters consult: comment openers,
quote introducers, dollar-quote tags, `DELIMITER` and psql command lines, and the test
whether a text holds anything to execute. `crates/dbx-sql-core/src/sql.rs` and
`tdsql_mysql.rs`; the lines are given at each definition.
-/

namespace DbxSpec.Sql

open DbxSpec.Base

/-- The tokens of the `sqlparser` crate, as far as the repository tells them apart. -/
inductive SqlparserToken
  | word (value : Text) (quoted : Bool)
  | semiColon
  | whitespace
  | placeholder
  | other
  deriving DecidableEq, Repr

/-- What the SQL modules take from outside the repository: the Unicode tables of the Rust
standard library and the Oracle tokenizer of the `sqlparser` crate, which answers `none` where
the crate reports an error. Only the ASCII part of the tables is fixed. -/
structure Externals where
  isAlphanumeric : Char → Bool
  toUppercase : Char → Text
  tokenizeOracle : Text → Option (List SqlparserToken)
  isAlphanumeric_ascii : ∀ c, isAscii c → isAlphanumeric c = c.isAlphanum
  toUppercase_ascii : ∀ c, isAscii c → toUppercase c = [c.toUpper]

/-- The ASCII tables alone, with a tokenizer that rejects every text. -/
def Externals.ascii : Externals where
  isAlphanumeric := Char.isAlphanum
  toUppercase c := [c.toUpper]
  tokenizeOracle _ := none
  isAlphanumeric_ascii _ _ := rfl
  toUppercase_ascii _ _ := rfl

/-- `str::to_uppercase`. -/
def toUppercase (x : Externals) (text : Text) : Text := text.flatMap x.toUppercase

/-! ### Comment openers -/

/-- `sql.rs:632`: in MySQL the two dashes of a line comment are followed by white space, a
control character or the end of the input. -/
def dashDashStartsLineComment (profile : SqlDialectProfile) (charAfterDashes : Option Char) :
    Bool :=
  if !profile.requiresWhitespaceAfterLineCommentDashes then true
  else match charAfterDashes with
    | none => true
    | some ch => isWhitespace ch || isControl ch

/-- `sql.rs:4728`, on the text that starts at the slash. -/
def isMysqlExecutableCommentStart : Text → Bool
  | '/' :: '*' :: '!' :: _ => true
  | '/' :: '*' :: 'M' :: '!' :: _ => true
  | _ => false

/-- `sql.rs:3459`, on the text after the opener: the text after the closing `*/`. -/
def afterBlockCommentClose (nested : Bool) : Nat → Text → Option Text
  | _, [] => none
  | _, [_] => none
  | depth, a :: b :: rest =>
    if a == '*' && b == '/' then
      if depth ≤ 1 then some rest else afterBlockCommentClose nested (depth - 1) rest
    else if nested && a == '/' && b == '*' then
      afterBlockCommentClose nested (depth + 1) rest
    else afterBlockCommentClose nested depth (b :: rest)

/-! ### XML entities -/

/-- `sql.rs:647`: the text ends with `&name` or `&#digits`, so that a `;` closes an entity. -/
def endsWithXmlEntityReference (buffer : Text) : Bool :=
  let alnum := buffer.rtakeWhile Char.isAlphanum
  let front := buffer.rdropWhile Char.isAlphanum
  let hash := endsWith front ['#']
  let front := if hash then front.dropLast else front
  if !endsWith front ['&'] then false
  else if hash then
    match alnum with
    | 'x' :: hex | 'X' :: hex => !hex.isEmpty && hex.all isAsciiHexdigit
    | digits => !digits.isEmpty && digits.all Char.isDigit
  else ["lt".toList, "gt".toList, "amp".toList, "quot".toList, "apos".toList].contains alnum

/-! ### Quote introducers -/

/-- `sql.rs:1214`. -/
def hasOddTrailingBackslashes (sql : Text) : Bool :=
  (sql.rtakeWhile (· == '\\')).length % 2 == 1

/-- `sql.rs:1231`. -/
def isIdentifierContinueChar (x : Externals) (ch : Char) : Bool :=
  x.isAlphanumeric ch || ch == '_' || ch == '$'

/-- `sql.rs:1221`: the text ends with an `E` that starts its own token. -/
def endsWithEscapeStringPrefix (x : Externals) (text : Text) : Bool :=
  match text.reverse with
  | 'E' :: before | 'e' :: before => !before.head?.any (isIdentifierContinueChar x)
  | _ => false

/-- `sql.rs:1236`: the text ends with a `q` or `nq` that starts its own token. -/
def endsWithOracleQQuotePrefix (x : Externals) (text : Text) : Bool :=
  match text.reverse with
  | 'q' :: before | 'Q' :: before =>
    let before := match before with
      | 'n' :: rest | 'N' :: rest => rest
      | _ => before
    !before.head?.any (isIdentifierContinueChar x)
  | _ => false

/-- `sql.rs:1251`. -/
def oracleQQuoteCloser : Char → Option Char
  | '[' => some ']'
  | '{' => some '}'
  | '(' => some ')'
  | '<' => some '>'
  | '\'' | ' ' | '\t' | '\n' | '\r' => none
  | other => some other

/-- `sql.rs:672`. -/
structure OracleQQuoteState where
  awaitingDelimiter : Bool := false
  closer : Option Char := none
  deriving DecidableEq, Repr

/-- `sql.rs:678`. -/
def OracleQQuoteState.isOpen (q : OracleQQuoteState) : Bool :=
  q.awaitingDelimiter || q.closer.isSome

/-- `sql.rs:684`. -/
def OracleQQuoteState.consume (q : OracleQQuoteState) (ch : Char) (previous : Option Char) :
    OracleQQuoteState :=
  if q.awaitingDelimiter then { awaitingDelimiter := false, closer := oracleQQuoteCloser ch }
  else match q.closer with
    | some closer =>
      if previous = some closer ∧ ch = '\'' then { q with closer := none } else q
    | none => q

/-- The offset just past the first occurrence of `needle` in a text. -/
def endOfFirst (needle : Text) : Text → Option Nat
  | [] => if needle.isEmpty then some 0 else none
  | c :: rest =>
    if needle.isPrefixOf (c :: rest) then some needle.length
    else (endOfFirst needle rest).map (· + 1)

/-- `sql.rs:1264`, on the text that starts at the opening quote: the length of the literal. -/
def oracleQQuoteEnd : Text → Option Nat
  | _ :: opening :: content => do
    let closer ← oracleQQuoteCloser opening
    let offset ← endOfFirst [closer, '\''] content
    return offset + 2
  | _ => none

/-! ### Dollar-quote tags -/

private def dollarTagNameLoop : Text → Text → Option Text
  | _, [] => none
  | name, ch :: rest =>
    if ch == '$' then some ('$' :: name.reverse ++ ['$'])
    else if !ch.isAlphanum && ch != '_' then none
    else dollarTagNameLoop (ch :: name) rest

/-- `sql.rs:4608`, on the text that starts at the dollar sign: `$$`, or `$name$` with a name
that does not start with a digit. -/
def dollarQuoteTagAt : Text → Option Text
  | '$' :: '$' :: _ => some ['$', '$']
  | '$' :: ch :: rest =>
    if ch.isAlpha || ch == '_' then dollarTagNameLoop [ch] rest else none
  | _ => none

variable {text : Text} {tag : Text}

/-- `sql.rs:1907`, on the text that starts at the dollar sign: here the name may start with a
digit. -/
def dollarQuoteTagAtStr : Text → Option Text
  | '$' :: rest =>
    if rest.contains '$' then
      let name := rest.takeWhile (· != '$')
      if name.all (fun ch => ch == '_' || ch.isAlphanum) then some ('$' :: name ++ ['$']) else none
    else none
  | _ => none

/-- A tag is a name between dollar signs with which the text starts. -/
theorem dollarQuoteTagAtStr_eq_some_iff : dollarQuoteTagAtStr text = some tag ↔
    tag <+: text ∧ ∃ name, tag = '$' :: name ++ ['$'] ∧
      name.all (fun ch => ch == '_' || ch.isAlphanum) := by
  have htake (name after : Text) (h : '$' ∉ name) :
      (name ++ '$' :: after).takeWhile (· != '$') = name := by
    rw [List.takeWhile_append_of_pos fun ch hch => bne_iff_ne.mpr (ne_of_mem_of_not_mem hch h)]
    exact List.append_nil name
  constructor
  · intro h
    unfold dollarQuoteTagAtStr at h
    split at h
    · next rest =>
      simp only [Option.ite_none_right_eq_some, List.contains_iff_mem] at h
      obtain ⟨hdollar, hname, ⟨rfl⟩⟩ := h
      obtain ⟨name, after, rfl, hfree⟩ := List.eq_append_cons_of_mem hdollar
      rw [htake name after hfree] at hname ⊢
      exact ⟨⟨after, by simp⟩, name, rfl, hname⟩
    · cases h
  · rintro ⟨⟨after, rfl⟩, name, rfl, hname⟩
    have hfree : '$' ∉ name := fun hmem => absurd (List.all_eq_true.mp hname _ hmem) (by decide)
    simp [dollarQuoteTagAtStr, htake name after hfree, hname]

/-- A tag starts with a dollar. -/
theorem dollarQuoteTagAtStr_of_ne {ch : Char} (h : ch ≠ '$') (rest : Text) :
    dollarQuoteTagAtStr (ch :: rest) = none := by
  unfold dollarQuoteTagAtStr
  split
  · next heq => exact absurd (List.cons.inj heq).1 h
  · rfl

private theorem dollarTagNameLoop_eq (name text : Text) : dollarTagNameLoop name text =
      if text.contains '$' && (text.takeWhile (· != '$')).all (fun ch => ch == '_' || ch.isAlphanum)
      then some ('$' :: name.reverse ++ text.takeWhile (· != '$') ++ ['$']) else none := by
  induction text generalizing name with
  | nil => rfl
  | cons ch rest ih =>
    rw [dollarTagNameLoop]
    by_cases hdollar : ch = '$'
    · subst hdollar
      simp
    · have hne : '$' ≠ ch := fun h => hdollar h.symm
      rw [if_neg (by simpa using hdollar), ih]
      by_cases hname : (!ch.isAlphanum && ch != '_')
      · simp only [Bool.and_eq_true, Bool.not_eq_true', bne_iff_ne] at hname
        simp [hdollar, hname.1, hname.2]
      · rw [if_neg hname]
        have hok : (ch == '_' || ch.isAlphanum) := by
          rw [Bool.not_eq_true, Bool.and_eq_false_iff, Bool.not_eq_false'] at hname
          rcases hname with h | h
          · rw [h, Bool.or_true]
          · rw [show ch = '_' by simpa using h]
            rfl
        simp [hdollar, hne, hok]

/-- The two readings of a tag differ only on names that start with a digit. -/
theorem dollarQuoteTagAt_eq_str (h : text.head?.any Char.isDigit = false) :
    dollarQuoteTagAt ('$' :: text) = dollarQuoteTagAtStr ('$' :: text) := by
  rcases text with _ | ⟨ch, rest⟩
  · rfl
  by_cases hdollar : ch = '$'
  · subst hdollar
    simp [dollarQuoteTagAt, dollarQuoteTagAtStr]
  · have hdigit : ch.isDigit = false := h
    have hne : ('$' == ch) = false := by simpa using fun h => hdollar h.symm
    have hok : (ch == '_' || ch.isAlphanum) = (ch.isAlpha || ch == '_') := by
      rw [Char.isAlphanum, hdigit, Bool.or_false, Bool.or_comm]
    rw [dollarQuoteTagAt, dollarQuoteTagAtStr, dollarTagNameLoop_eq]
    · simp only [List.contains_cons, hne, Bool.false_or, List.takeWhile_cons,
        show (ch != '$') by simpa using hdollar, if_true, List.all_cons, hok]
      cases ch.isAlpha || ch == '_' <;> cases rest.contains '$' <;> simp
    · exact hdollar

/-- A name that starts with a digit makes no tag for the streaming splitter. -/
theorem dollarQuoteTagAt_digit (h : text.head?.any Char.isDigit) :
    dollarQuoteTagAt ('$' :: text) = none := by
  rcases text with _ | ⟨ch, rest⟩
  · rfl
  have hdigit : ch.isDigit := h
  have hdollar : ch ≠ '$' := by rintro rfl; cases hdigit
  have hname : (ch.isAlpha || ch == '_') = false := by
    rw [Bool.or_eq_false_iff]
    constructor
    · simp only [Char.isDigit, Char.isAlpha, Char.isUpper, Char.isLower, Bool.and_eq_true,
        ge_iff_le, UInt32.le_iff_toNat_le] at hdigit ⊢
      simp at hdigit ⊢
      omega
    · rw [beq_eq_false_iff_ne]
      rintro rfl
      cases hdigit
  rw [dollarQuoteTagAt, hname]
  · rfl
  · exact hdollar

private theorem dollarQuoteTagAt_eq_some_iff : dollarQuoteTagAt text = some tag ↔
    dollarQuoteTagAtStr text = some tag ∧ text.tail.head?.any Char.isDigit = false := by
  rcases text with _ | ⟨ch, rest⟩
  · simp [dollarQuoteTagAt, dollarQuoteTagAtStr]
  by_cases hdollar : ch = '$'
  · subst hdollar
    cases hdigit : rest.head?.any Char.isDigit with
    | true => simp [dollarQuoteTagAt_digit hdigit, hdigit]
    | false => simp [dollarQuoteTagAt_eq_str hdigit, hdigit]
  · simp [dollarQuoteTagAtStr_of_ne hdollar, dollarQuoteTagAt, hdollar]

section

variable (h : dollarQuoteTagAt text = some tag)

include h

/-- A tag stands at the start of the text it was read from. -/
theorem dollarQuoteTagAt_isPrefix : tag <+: text :=
  (dollarQuoteTagAtStr_eq_some_iff.mp (dollarQuoteTagAt_eq_some_iff.mp h).1).1

/-- A tag starts with its dollar sign. -/
theorem dollarQuoteTagAt_head : tag.head? = some '$' := by
  obtain ⟨-, name, rfl, -⟩ :=
    dollarQuoteTagAtStr_eq_some_iff.mp (dollarQuoteTagAt_eq_some_iff.mp h).1
  rfl

/-- Text that arrives later does not change a tag that is complete. -/
theorem dollarQuoteTagAt_append (more : Text) :
    dollarQuoteTagAt (text ++ more) = some tag := by
  obtain ⟨htag, hdigit⟩ := dollarQuoteTagAt_eq_some_iff.mp h
  obtain ⟨⟨rest, rfl⟩, name, rfl, hname⟩ := dollarQuoteTagAtStr_eq_some_iff.mp htag
  refine dollarQuoteTagAt_eq_some_iff.mpr ⟨dollarQuoteTagAtStr_eq_some_iff.mpr
    ⟨⟨rest ++ more, by simp⟩, name, rfl, hname⟩, ?_⟩
  cases name with
  | nil => rfl
  | cons first name => exact hdigit

end

/-! ### Executable text -/

/-- The loop of `sql.rs:4657`: the position in comments and the previous character. -/
def hasExecutableSqlLoop (profile : SqlDialectProfile) :
    Bool → Nat → Option Char → Text → Bool
  | _, _, _, [] => false
  | inLineComment, depth, previous, ch :: rest =>
    if inLineComment then hasExecutableSqlLoop profile (ch != '\n') depth (some ch) rest
    else if depth > 0 then
      if profile.supportsNestedBlockComments && previous == some '/' && ch == '*' then
        hasExecutableSqlLoop profile false (depth + 1) none rest
      else if previous == some '*' && ch == '/' then
        hasExecutableSqlLoop profile false (depth - 1) (some ch) rest
      else hasExecutableSqlLoop profile false depth (some ch) rest
    else if ch == '-' && rest.head? == some '-' &&
        dashDashStartsLineComment profile rest.tail.head? then
      hasExecutableSqlLoop profile true 0 (some ch) rest
    else if profile.supportsHashLineComments && ch == '#' then
      hasExecutableSqlLoop profile true 0 (some ch) rest
    else if ch == '/' && rest.head? == some '*' then
      if isMysqlExecutableCommentStart (ch :: rest) then true
      else hasExecutableSqlLoop profile false 1 none rest
    else if !isWhitespace ch then true
    else hasExecutableSqlLoop profile false 0 (some ch) rest

variable (statement : Text) (options : SqlParsingOptions)

/-- `sql.rs:4657`. -/
def hasExecutableSqlWithOptions : Bool :=
  hasExecutableSqlLoop options.profile false 0 none statement

/-- White space is passed over. -/
theorem hasExecutableSqlLoop_whitespace {profile : SqlDialectProfile} {ch : Char}
    (h : isWhitespace ch) (previous : Option Char) (rest : Text) :
    hasExecutableSqlLoop profile false 0 previous (ch :: rest) =
      hasExecutableSqlLoop profile false 0 (some ch) rest := by
  have hdash : ch ≠ '-' := by rintro rfl; exact absurd h (by decide)
  have hhash : ch ≠ '#' := by rintro rfl; exact absurd h (by decide)
  have hslash : ch ≠ '/' := by rintro rfl; exact absurd h (by decide)
  simp [hasExecutableSqlLoop, hdash, hhash, hslash, h]

/-- White space alone is nothing to execute. -/
theorem hasExecutableSqlWithOptions_whitespace
    (h : ∀ c ∈ text, isWhitespace c) : hasExecutableSqlWithOptions text options = false := by
  rw [hasExecutableSqlWithOptions]
  generalize none = previous
  induction text generalizing previous with
  | nil => rfl
  | cons c rest ih =>
    rw [hasExecutableSqlLoop_whitespace (h c (by simp))]
    exact ih (fun d hd => h d (by simp [hd])) (some c)

/-- The loop of `sql.rs:3513`. -/
def leadingExecutableSqlLoop (profile : SqlDialectProfile) : Nat → Text → Text
  | 0, sql => sql
  | fuel + 1, sql =>
    let sql := sql.dropWhile isAsciiWhitespace
    match sql with
    | [] => []
    | a :: rest =>
      if a == '-' && rest.head? == some '-' then
        leadingExecutableSqlLoop profile fuel (rest.tail.dropWhile (· != '\n'))
      else if profile.supportsHashLineComments && a == '#' then
        leadingExecutableSqlLoop profile fuel (rest.dropWhile (· != '\n'))
      else if a == '/' && rest.head? == some '*' then
        if isMysqlExecutableCommentStart sql then sql
        else match afterBlockCommentClose profile.supportsNestedBlockComments 1 rest.tail with
          | none => []
          | some after => leadingExecutableSqlLoop profile fuel after
      else sql

/-- `sql.rs:3513`: the text from its first code character on. Every round of the loop drops a
character, so the length of the text bounds the rounds. -/
def leadingExecutableSqlWithOptions (sql : Text) (options : SqlParsingOptions) : Text :=
  leadingExecutableSqlLoop options.profile sql.length sql

/-- `tdsql_mysql.rs:18`. -/
def leadingDirectiveStart (executableStart : Nat) : Option Nat :=
  let front := statement.take executableStart
  let isLineBreak := fun c => c == '\r' || c == '\n'
  let lineStart := (front.rdropWhile (!isLineBreak ·)).length
  let linePrefix := front.drop lineStart
  let trimmedLineStart := trimStart linePrefix
  if "/*".toList.isPrefixOf trimmedLineStart && endsWith (trimEnd trimmedLineStart) "*/" then
    some (lineStart + linePrefix.length - trimmedLineStart.length)
  else
    let trimmedPrefix := trimEnd front
    if endsWith trimmedPrefix "/*proxy*/" then
      some (trimmedPrefix.length - "/*proxy*/".length)
    else none

/-- `sql.rs:4641`: the offsets of the statement without leading white space and comments and
without trailing white space. -/
def executableSqlBounds : Option (Nat × Nat) :=
  let trimmed := trimEnd statement
  let executable := leadingExecutableSqlWithOptions trimmed options
  if executable.isEmpty then none
  else
    let executableStart := trimmed.length - executable.length
    let start :=
      if options.profile.preservesTdsqlLeadingDirectives then
        (leadingDirectiveStart trimmed executableStart).getD executableStart
      else executableStart
    some (start, trimmed.length)

/-! ### Command lines -/

/-- `sql.rs:2591`: the delimiter a `DELIMITER` line sets. -/
def parseDelimiterCommand (line : Text) : Option Text :=
  let line := trim line
  if eqIgnoreAsciiCase line "delimiter;" then some [';']
  else if line.length > 10 && (eqIgnoreAsciiCase (line.take 10) "delimiter " ||
      eqIgnoreAsciiCase (line.take 10) "delimiter\t") then
    let rest := trim (line.drop 10)
    if rest.isEmpty then none else some rest
  else none

/-- `sql.rs:2608`. -/
inductive PsqlControlCommand
  | onErrorStop
  | clientDisplay
  deriving DecidableEq, Repr

/-- `sql.rs:2613`. The arguments of `\echo` are what follows the first occurrence of the
command word. -/
def parseIgnorablePsqlControlCommand (line : Text) : Option PsqlControlCommand :=
  match splitWhitespace line with
  | [] => none
  | command :: parts =>
    if eqIgnoreAsciiCase command "\\echo" then
      match endOfFirst command line with
      | none => none
      | some offset =>
        if (line.drop offset).any (fun c => c == '\\' || c == '`') then none
        else some .clientDisplay
    else if eqIgnoreAsciiCase command "\\timing" then
      match parts with
      | [] => some .clientDisplay
      | [value] =>
        if eqIgnoreAsciiCase value "on" || eqIgnoreAsciiCase value "off" then
          some .clientDisplay
        else none
      | _ => none
    else if !eqIgnoreAsciiCase command "\\set" then none
    else match parts with
      | [name, value] =>
        let name := toAsciiUppercase name
        let value := toAsciiLowercase value
        if name = "ON_ERROR_STOP" ∧
            value ∈ ["on".toList, "true".toList, "1".toList] then
          some .onErrorStop
        else if name = "VERBOSITY" ∧
            value ∈ ["default".toList, "verbose".toList, "terse".toList, "sqlstate".toList] then
          some .clientDisplay
        else none
      | _ => none

end DbxSpec.Sql
