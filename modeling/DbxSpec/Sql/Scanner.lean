import DbxSpec.Sql.Splitter

/-!
# The scanner of literals and comments

`SqlScanner` of `crates/dbx-sql-core/src/sql.rs:3135-3248`: it tells whether a place of a text is
inside a literal or a comment.
-/

namespace DbxSpec.Sql

open DbxSpec.Base

/-- `sql.rs:3135`, without the profile. -/
structure SqlScanner where
  inSingleQuote : Bool := false
  singleQuoteEscapeString : Bool := false
  inDoubleQuote : Bool := false
  inBacktick : Bool := false
  inLineComment : Bool := false
  blockCommentDepth : Nat := 0
  oracleQQuote : OracleQQuoteState := {}
  dollarQuoteTag : Option Text := none
  previous : Option Char := none
  deriving DecidableEq, Repr

namespace SqlScanner

/-- `sql.rs:3239`. -/
def isMasked (s : SqlScanner) : Bool :=
  s.inSingleQuote || s.inDoubleQuote || s.inBacktick || s.inLineComment ||
    s.blockCommentDepth > 0 || s.oracleQQuote.isOpen || s.dollarQuoteTag.isSome

section

variable (x : Externals) (profile : SqlDialectProfile)

/-- `sql.rs:3209-3236`: the quotes. `before` is the text up to the character. -/
def quoteStep (s : SqlScanner) (before : Text) (ch : Char) : SqlScanner :=
  let singleQuoteBackslashEscapes :=
    if s.inSingleQuote then s.singleQuoteEscapeString else profile.supportsBackslashEscapedQuotes
  let s :=
    if ch == '\'' && !(s.inDoubleQuote || s.inBacktick ||
        (singleQuoteBackslashEscapes && s.previous == some '\\')) then
      let opens := !s.inSingleQuote
      { s with
        inSingleQuote := opens
        singleQuoteEscapeString := opens &&
          (profile.supportsBackslashEscapedQuotes ||
            (profile.supportsPostgresEscapeStrings && endsWithEscapeStringPrefix x before)) }
    else if ch == '"' && !(s.inSingleQuote || s.inBacktick ||
        (profile.supportsBackslashEscapedQuotes && s.previous == some '\\')) then
      { s with inDoubleQuote := !s.inDoubleQuote }
    else if ch == '`' && profile.supportsBacktickIdentifiers && !s.inSingleQuote &&
        !s.inDoubleQuote then
      { s with inBacktick := !s.inBacktick }
    else s
  { s with previous := some ch }

/-- `sql.rs:3153`, on the text before the character, the character and the text after it. -/
def step (s : SqlScanner) (before : Text) (ch : Char) (rest : Text) : SqlScanner :=
  match s.dollarQuoteTag with
  | some tag =>
    { s with
      dollarQuoteTag := if tag.isPrefixOf (ch :: rest) then none else some tag
      previous := some ch }
  | none =>
    if s.inLineComment then { s with inLineComment := ch != '\n', previous := some ch }
    else if s.blockCommentDepth > 0 then
      if profile.supportsNestedBlockComments && s.previous == some '/' && ch == '*' then
        { s with blockCommentDepth := s.blockCommentDepth + 1, previous := none }
      else if s.previous == some '*' && ch == '/' then
        { s with blockCommentDepth := s.blockCommentDepth - 1, previous := some ch }
      else { s with previous := some ch }
    else if s.oracleQQuote.isOpen then
      { s with oracleQQuote := s.oracleQQuote.consume ch s.previous, previous := some ch }
    else if !s.inSingleQuote && !s.inDoubleQuote && !s.inBacktick then
      if profile.supportsOracleQQuotes && ch == '\'' && endsWithOracleQQuotePrefix x before then
        { s with
          oracleQQuote := { s.oracleQQuote with awaitingDelimiter := true }
          previous := some ch }
      else if (ch == '-' && rest.head? == some '-') ||
          (profile.supportsHashLineComments && ch == '#') then
        { s with inLineComment := true }.quoteStep x profile before ch
      else if ch == '/' && rest.head? == some '*' then
        { s with blockCommentDepth := 1, previous := none }
      else
        let tag := if profile.supportsDollarQuotedStrings then dollarQuoteTagAtStr (ch :: rest)
          else none
        { s with dollarQuoteTag := tag }.quoteStep x profile before ch
    else s.quoteStep x profile before ch

end

end SqlScanner

end DbxSpec.Sql
