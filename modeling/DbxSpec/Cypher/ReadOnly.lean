import DbxSpec.Sql.Lexical

/-!
# The Cypher read-only check

`is_proven_read_only_cypher` of `crates/dbx-sql-core/src/cypher_read_only.rs`. The source
scans the text once, blanks quoted text and comments, and then looks at the neighbours of
every word of a statement. A scan that the source ends with `return false` is `none`.
-/

namespace DbxSpec.Cypher

open DbxSpec.Base DbxSpec.Sql

/-- `cypher_read_only.rs:1`. -/
def unsafeWords : List Text :=
  ["CREATE", "INSERT", "MERGE", "SET", "REMOVE", "DELETE", "DETACH", "DROP", "ALTER", "RENAME",
    "GRANT", "REVOKE", "DENY", "CALL", "FOREACH", "LOAD", "START", "STOP", "TERMINATE"].map
    String.toList

/-- The words a statement is split into; the source uses the texts `<quoted>` and `<symbol>` and
the characters `.`, `:` and `$`. The `;` that starts a new statement is kept in the list. -/
inductive Lexeme
  | word (text : Text)
  | quoted
  | mark (ch : Char)
  | symbol
  | semicolon
  deriving DecidableEq, Repr

/-- A character that continues a word. -/
def isWordPart (x : Externals) (ch : Char) : Bool := x.isAlphanumeric ch || ch == '_'

/-- `cypher_read_only.rs:60-79`, on the text after the opening quote: the text after the closing
one. All three kinds of quotes take a backslash as an escape. -/
def afterQuoted (quote : Char) : Text → Option Text
  | [] => none
  | [c] => if c == '\\' then none else if c == quote then some [] else none
  | c :: d :: rest =>
    if c == '\\' then afterQuoted quote rest
    else if c == quote then
      if d == quote then afterQuoted quote rest else some (d :: rest)
    else afterQuoted quote (d :: rest)

/-- `cypher_read_only.rs:42-58`, on the text after the opener; an opener inside is refused. -/
def afterBlockComment : Text → Option Text
  | [] => none
  | [_] => none
  | a :: b :: rest =>
    if a == '/' && b == '*' then none
    else if a == '*' && b == '/' then some rest
    else afterBlockComment (b :: rest)

/-- A line break ends a line comment. -/
def isLineBreak (ch : Char) : Bool := ch == '\n' || ch == '\r'

/-- `cypher_read_only.rs:33-99`. -/
def scan (x : Externals) : Nat → Text → Option (List Lexeme)
  | _, [] => some []
  | 0, _ :: _ => none
  | fuel + 1, ch :: rest =>
    if ch == '/' && rest.head? == some '/' then
      scan x fuel (rest.tail.dropWhile (!isLineBreak ·))
    else if ch == '/' && rest.head? == some '*' then
      (afterBlockComment rest.tail).bind (scan x fuel)
    else if ch == '\'' || ch == '"' || ch == '`' then
      (afterQuoted ch rest).bind fun after => (scan x fuel after).map (.quoted :: ·)
    else if ch == ';' then (scan x fuel rest).map (.semicolon :: ·)
    else if ch.isAlpha || ch == '_' then
      (scan x fuel (rest.dropWhile (isWordPart x))).map
        (.word (toAsciiUppercase (ch :: rest.takeWhile (isWordPart x))) :: ·)
    else if ch == '.' || ch == ':' || ch == '$' then (scan x fuel rest).map (.mark ch :: ·)
    else if !isWhitespace ch then (scan x fuel rest).map (.symbol :: ·)
    else scan x fuel rest

/-- The statements between the semicolons. -/
def statementsOf : List Lexeme → List (List Lexeme)
  | [] => [[]]
  | lexeme :: rest =>
    if lexeme = .semicolon then [] :: statementsOf rest
    else match statementsOf rest with
      | [] => [[lexeme]]
      | first :: others => (lexeme :: first) :: others

/-- One of `.`, `:` and `$`. -/
def Lexeme.isMark : Lexeme → Bool
  | .mark _ => true
  | _ => false

/-- `cypher_read_only.rs:107-114`, negated: every unsafe word follows a mark or precedes a colon.
`previous` is the word before the list. -/
def wordsAreSafe : Option Lexeme → List Lexeme → Bool
  | _, [] => true
  | previous, lexeme :: rest =>
    (match lexeme with
      | .word text =>
        !unsafeWords.contains text || previous.any Lexeme.isMark || rest.head? == some (.mark ':')
      | _ => true) && wordsAreSafe (some lexeme) rest

/-- `cypher_read_only.rs:103-114`. -/
def statementIsRead (words : List Lexeme) : Bool :=
  ["MATCH", "OPTIONAL", "RETURN", "WITH", "UNWIND", "SHOW", "EXPLAIN", "PROFILE"].any
      (fun keyword => words.head? == some (.word keyword.toList)) &&
    (words.head? == some (.word "SHOW") || words.contains (.word "RETURN")) &&
    wordsAreSafe none words

/-- `cypher_read_only.rs:25`. Each round of the scan reads a character, so the length of the
text is fuel enough. -/
def isProvenReadOnlyCypher (x : Externals) (source : Text) : Bool :=
  if (endOfFirst "\\u" source).isSome then false
  else match scan x source.length source with
    | none => false
    | some lexemes =>
      let statements := (statementsOf lexemes).filter (!·.isEmpty)
      !statements.isEmpty && statements.all statementIsRead

/-! ### Statements and the whole text -/

variable {lexemes : List Lexeme}

private theorem statementsOf_ne_nil (lexemes : List Lexeme) : statementsOf lexemes ≠ [] := by
  fun_cases statementsOf lexemes <;> simp

private theorem head_of_statementsOf {first : List Lexeme} {others : List (List Lexeme)}
    {lexeme : Lexeme} (h : statementsOf lexemes = first :: others)
    (hhead : first.head? = some lexeme) : lexemes.head? = some lexeme := by
  cases lexemes with
  | nil =>
    cases h
    cases hhead
  | cons a rest =>
    rw [statementsOf] at h
    split at h
    · cases h
      cases hhead
    · split at h <;>
      · cases h
        exact hhead

private theorem wordsAreSafe_of_none {previous : Option Lexeme} {words : List Lexeme}
    (h : wordsAreSafe none words) : wordsAreSafe previous words := by
  rcases words with _ | ⟨word, rest⟩
  · rfl
  simp only [wordsAreSafe, Bool.and_eq_true] at h ⊢
  refine ⟨?_, h.2⟩
  cases word with
  | word text =>
    simp only [Option.any_none, Bool.or_false, Bool.or_eq_true] at h ⊢
    exact h.1.imp_left .inl
  | _ => rfl

private theorem wordsAreSafe_of_first :
    ∀ {previous : Option Lexeme} {first : List Lexeme} {others : List (List Lexeme)},
      statementsOf lexemes = first :: others → wordsAreSafe previous first →
      (∀ statement ∈ others, wordsAreSafe none statement) →
      wordsAreSafe previous lexemes := by
  induction lexemes with
  | nil => intros; rfl
  | cons lexeme rest ih =>
    intro previous first others heq hfirst hothers
    obtain ⟨next, later, hrest⟩ := List.exists_cons_of_ne_nil (statementsOf_ne_nil rest)
    rw [statementsOf, hrest] at heq
    split at heq
    · next hsemi =>
      subst hsemi
      cases heq
      have hnext : wordsAreSafe (some .semicolon) next :=
        wordsAreSafe_of_none (hothers next (by simp))
      simpa [wordsAreSafe] using ih hrest hnext fun statement hs => hothers statement (by simp [hs])
    · cases heq
      simp only [wordsAreSafe, Bool.and_eq_true] at hfirst ⊢
      refine ⟨?_, ih hrest hfirst.2 hothers⟩
      cases lexeme with
      | word text =>
        simp only [Bool.or_eq_true, beq_iff_eq] at hfirst ⊢
        exact hfirst.1.imp_right (head_of_statementsOf hrest)
      | _ => rfl

/-- When every statement is safe on its own, so is the list of all words. -/
theorem wordsAreSafe_of_statements
    (h : ∀ statement ∈ statementsOf lexemes, wordsAreSafe none statement) :
    wordsAreSafe none lexemes := by
  obtain ⟨first, others, heq⟩ := List.exists_cons_of_ne_nil (statementsOf_ne_nil lexemes)
  rw [heq] at h
  exact wordsAreSafe_of_first heq (h first (by simp)) fun statement hs => h statement (by simp [hs])

end DbxSpec.Cypher
