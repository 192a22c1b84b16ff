import DbxSpec.Grid.LiteralSpelling
import DbxSpec.Sql.Splitter

/-!
# Splitting statements made of literals

Statements of the grid, joined by `;` and a line feed, go through the statement splitter. The
splitter stays in code over keywords and names, goes into a literal and comes back out of it where
the literal ends, and so meets the `;` after each statement in code. `Passes` says this of a
fragment of a statement; it composes.
-/

namespace DbxSpec.Grid

open DbxSpec.Base DbxSpec.Sql SqlStatementSplitter List

/-- A character that no rule of the splitter looks at. -/
def isQuiet (ch : Char) : Bool :=
  !(['\'', '"', '`', ';', '-', '/', '*', '#', '$', '\\', '\n'].contains ch)

/-! ### States -/

/-- In code or in a quoted name. -/
def nameState (buffer : Text) (doubleQuote backtick : Bool) (previous : Option Char) :
    SqlStatementSplitter :=
  { buffer := buffer, inDoubleQuote := doubleQuote, inBacktick := backtick, previous := previous }

/-- In code. -/
abbrev codeState (buffer : Text) (previous : Option Char) : SqlStatementSplitter :=
  nameState buffer false false previous

/-- In a string. -/
def stringState (buffer : Text) (escape : Bool) (previous : Option Char) :
    SqlStatementSplitter :=
  { buffer := buffer, inSingleQuote := true, singleQuoteEscapeString := escape
    previous := previous }

/-- Another character ends a run. -/
theorem hasOddTrailingBackslashes_concat_of_ne {ch : Char} (h : ch ≠ '\\') (buffer : Text) :
    hasOddTrailingBackslashes (buffer ++ [ch]) = false := by
  simp [hasOddTrailingBackslashes, h]

private theorem hasOddTrailingBackslashes_concat_backslash (buffer : Text) :
    hasOddTrailingBackslashes (buffer ++ ['\\']) = !hasOddTrailingBackslashes buffer := by
  have hlength : ((buffer ++ ['\\']).rtakeWhile (· == '\\')).length =
      (buffer.rtakeWhile (· == '\\')).length + 1 := by simp
  rw [hasOddTrailingBackslashes, hasOddTrailingBackslashes, hlength]
  rcases Nat.mod_two_eq_zero_or_one (buffer.rtakeWhile (· == '\\')).length with h | h
  · rw [Nat.add_mod, h]
    rfl
  · rw [Nat.add_mod, h]
    rfl

private theorem dollarQuoteTagAt_of_ne {ch : Char} (h : ch ≠ '$') (rest : Text) :
    dollarQuoteTagAt (ch :: rest) = none := by
  rcases htag : dollarQuoteTagAt (ch :: rest) with _ | tag
  · rfl
  have hhead := dollarQuoteTagAt_head htag
  obtain ⟨tail, htail⟩ := dollarQuoteTagAt_isPrefix htag
  cases tag with
  | nil => cases hhead
  | cons first name =>
    cases hhead
    exact absurd (cons.inj htail).1.symm h

section Steps

variable {x : Externals} {options : SqlParsingOptions} {buffer rest : Text} {ch : Char}
  {previous : Option Char} {doubleQuote backtick escape : Bool} {s : SqlStatementSplitter}

/-- Nothing opens at a character that is no opener. -/
theorem openerStep_eq_none (hch : ch ∉ ['-', '*', '#', '/', '$'])
    (hq : ch = '\'' → (options.profile.supportsOracleQQuotes && endsWithOracleQQuotePrefix x
      s.buffer) = false) : s.openerStep x options ch rest = none := by
  simp only [mem_cons, not_mem_nil, or_false, not_or] at hch
  obtain ⟨hdash, hstar, hhash, hslash, hdollar⟩ := hch
  have hopening : s.openingDollarTag options ch rest = none := by
    unfold openingDollarTag
    split
    · exact dollarQuoteTagAt_of_ne hdollar rest
    · rfl
  have hquote : ¬(options.profile.supportsOracleQQuotes && ch == '\'' &&
      endsWithOracleQQuotePrefix x s.buffer) := by
    by_cases hquote : ch = '\''
    · have hnone := hq hquote
      rw [hquote, beq_self_eq_true, Bool.and_true, hnone]
      decide
    · simp [hquote]
  unfold openerStep
  rw [if_neg hquote]
  rw [if_neg (by simp [hdash]), if_neg (by simp [hdash]), if_neg (by simp [hstar]),
    if_neg (by simp [hhash]), if_neg (by simp [hslash]), hopening]

/-- No comment, no tag, no psql command and no delimiter of its own. -/
structure Unmasked (s : SqlStatementSplitter) : Prop where
  pending : s.pendingPsqlCommand = none
  dollar : s.dollarQuoteTag = none
  line : s.inLineComment = false
  depth : s.blockCommentDepth = 0
  quote : s.oracleQQuote = {}
  delimiter : s.customDelimiter = none

variable {out : List SqlStatementWithControl}

/-- In a name nothing is masked. -/
theorem unmasked_nameState : Unmasked (nameState buffer doubleQuote backtick previous) :=
  ⟨rfl, rfl, rfl, rfl, rfl, rfl⟩

private theorem unmasked_stringState : Unmasked (stringState buffer escape previous) :=
  ⟨rfl, rfl, rfl, rfl, rfl, rfl⟩

private theorem afterChar_eq (hs : Unmasked s) (hch : ch = '\n' → s.outsideQuotes = false) :
    s.afterChar options ch = ({ s with previous := some ch }, []) := by
  unfold afterChar
  split
  · next houtside =>
    have hline : ch ≠ '\n' := by
      intro heq
      rw [hch heq] at houtside
      cases houtside
    have hend : s.customDelimiterEnd options = (s, []) := by rw [customDelimiterEnd, hs.delimiter]
    rw [if_neg (by simpa using hline)]
    rw [hend]
  · rfl

/-- A step where nothing opens is the character's own case and what follows it. -/
theorem runs_of_afterChar {s' s'' : SqlStatementSplitter} (hs : Unmasked s)
    (hbackslash : ch = '\\' → s.outsideQuotes = false)
    (hopener : s.outsideQuotes → s.openerStep x options ch rest = none)
    (hmatch : s.matchChar x options ch = (s', out)) (hafter : s'.afterChar options ch = (s'', [])) :
    (scanner x options).Runs s (ch :: rest) out s'' rest := by
  have hstarts : ¬s.startsPsqlCommand options ch := by
    unfold startsPsqlCommand
    by_cases h : ch = '\\'
    · simp [hbackslash h]
    · simp [h]
  have hordinary : s.ordinaryStep x options ch = ⟨s'', out, 0⟩ := by
    rw [ordinaryStep, hmatch]
    rw [hafter, append_nil]
  have hplain : s.plainStep x options ch rest = s.ordinaryStep x options ch := by
    rw [plainStep, hs.dollar]
    dsimp only
    rw [hs.line, if_neg (by decide), hs.depth, if_neg (by decide), hs.quote, if_neg (by decide)]
    split
    · next houtside =>
      rw [hopener houtside]
      rfl
    · rfl
  have hstep : (scanner x options).step s ch rest = ⟨s'', out, 0⟩ := by
    change s.step x options ch rest = _
    rw [step, hs.pending, ← hordinary, ← hplain]
    exact if_neg hstarts
  exact Scanner.runs_step _ hstep

private theorem runs_of_matchChar (s' : SqlStatementSplitter) {s'' : SqlStatementSplitter}
    (hs : Unmasked s) (hs' : Unmasked s') (hnext : { s' with previous := some ch } = s'')
    (hbackslash : ch = '\\' → s.outsideQuotes = false)
    (hopener : s.outsideQuotes → s.openerStep x options ch rest = none)
    (hmatch : s.matchChar x options ch = (s', out)) (hch : ch = '\n' → s'.outsideQuotes = false) :
    (scanner x options).Runs s (ch :: rest) out s'' rest := by
  subst hnext
  exact runs_of_afterChar hs hbackslash hopener hmatch (afterChar_eq hs' hch)

/-- The same at a character that opens nothing but a string. -/
theorem runs_of_plainChar (s' : SqlStatementSplitter) {s'' : SqlStatementSplitter} (hs : Unmasked s)
    (hs' : Unmasked s') (hnext : { s' with previous := some ch } = s'')
    (hch : ch ∉ ['-', '*', '#', '/', '$', '\\', '\n'])
    (hq : ch = '\'' → s.outsideQuotes → endsWithOracleQQuotePrefix x s.buffer = false)
    (hmatch : s.matchChar x options ch = (s', out)) :
    (scanner x options).Runs s (ch :: rest) out s'' rest := by
  simp only [mem_cons, not_mem_nil, or_false, not_or] at hch
  apply runs_of_matchChar s' hs hs' hnext
  · exact fun heq => absurd heq hch.2.2.2.2.2.1
  · intro houtside
    apply openerStep_eq_none
    · simp [hch]
    · intro heq
      rw [hq heq houtside, Bool.and_false]
  · exact hmatch
  · exact fun heq => absurd heq hch.2.2.2.2.2.2

variable (x options rest previous)

private theorem runs_quiet (h : isQuiet ch) :
    (scanner x options).Runs (nameState buffer doubleQuote backtick previous) (ch :: rest) []
      (nameState (buffer ++ [ch]) doubleQuote backtick (some ch)) rest := by
  simp only [isQuiet, contains_cons, contains_nil, Bool.or_false, Bool.not_eq_true',
    Bool.or_eq_false_iff, beq_eq_false_iff_ne] at h
  obtain ⟨hquote, hdouble, hbacktick, hsemicolon, hdash, hslash, hstar, hhash, hdollar,
    hbackslash, hline⟩ := h
  apply runs_of_plainChar (nameState (buffer ++ [ch]) doubleQuote backtick previous)
    unmasked_nameState unmasked_nameState rfl
  · simp [hdash, hstar, hhash, hslash, hdollar, hbackslash, hline]
  · exact fun heq => absurd heq hquote
  · rw [matchChar, if_neg (by simp [hquote]), if_neg (by simp [hdouble]),
      if_neg (by simp [hbacktick]), if_neg (by simp [hsemicolon])]
    rfl

private theorem runs_inString (h : ch ≠ '\'') :
    (scanner x options).Runs (stringState buffer escape previous) (ch :: rest) []
      (stringState (buffer ++ [ch]) escape (some ch)) rest := by
  apply runs_of_matchChar (stringState (buffer ++ [ch]) escape previous) unmasked_stringState
    unmasked_stringState rfl
  · exact fun _ => rfl
  · simp [stringState, outsideQuotes]
  · rw [matchChar, if_neg (by simp [h]), if_neg (by simp [stringState]),
      if_neg (by simp [stringState]), if_neg (by simp [stringState, outsideQuotes])]
    rfl
  · exact fun _ => rfl

private theorem runs_closingQuote (h : escape → hasOddTrailingBackslashes buffer = false) :
    (scanner x options).Runs (stringState buffer escape previous) ('\'' :: rest) []
      (codeState (buffer ++ ['\'']) (some '\'')) rest := by
  have hcloses : escape = false ∨ hasOddTrailingBackslashes buffer = false := by
    cases escape with
    | false => exact .inl rfl
    | true => exact .inr (h rfl)
  apply runs_of_plainChar (codeState (buffer ++ ['\'']) previous) unmasked_stringState
    unmasked_nameState rfl (by decide)
  · simp [stringState, outsideQuotes]
  · rw [matchChar, if_pos (by simpa [stringState, singleQuoteBackslashEscapes] using hcloses)]
    rfl

private theorem runs_escapedQuote (h : hasOddTrailingBackslashes buffer) :
    (scanner x options).Runs (stringState buffer true previous) ('\'' :: rest) []
      (stringState (buffer ++ ['\'']) true (some '\'')) rest := by
  apply runs_of_plainChar (stringState (buffer ++ ['\'']) true previous) unmasked_stringState
    unmasked_stringState rfl (by decide)
  · simp [stringState, outsideQuotes]
  · rw [matchChar, if_neg (by simp [stringState, singleQuoteBackslashEscapes, h]),
      if_neg (by simp), if_neg (by simp), if_neg (by simp)]
    rfl

section

variable (hodd : hasOddTrailingBackslashes buffer = false)

include hodd

private theorem runs_openingQuote (hq : endsWithOracleQQuotePrefix x buffer = false) :
    (scanner x options).Runs (codeState buffer previous) ('\'' :: rest) []
      (stringState (buffer ++ ['\'']) (options.profile.supportsBackslashEscapedQuotes ||
        (options.profile.supportsPostgresEscapeStrings && endsWithEscapeStringPrefix x buffer))
        (some '\'')) rest := by
  apply runs_of_plainChar (stringState (buffer ++ ['\'']) _ previous) unmasked_nameState
    unmasked_stringState rfl (by decide)
  · exact fun _ _ => hq
  · rw [matchChar, if_pos (by simp [nameState, hodd])]
    rfl

/-- A double quote opens or closes a quoted name. -/
theorem runs_doubleQuote :
    (scanner x options).Runs (nameState buffer doubleQuote false previous) ('"' :: rest) []
      (nameState (buffer ++ ['"']) (!doubleQuote) false (some '"')) rest := by
  apply runs_of_plainChar (nameState (buffer ++ ['"']) (!doubleQuote) false previous)
    unmasked_nameState unmasked_nameState rfl (by decide)
  · exact fun heq => absurd heq (by decide)
  · rw [matchChar, if_neg (by simp), if_pos (by simp [nameState, hodd])]
    rfl

end

/-- A backtick opens or closes a quoted name where the dialect has such names. -/
theorem runs_backtick :
    (scanner x options).Runs (nameState buffer false backtick previous) ('`' :: rest) []
      (nameState (buffer ++ ['`']) false
        (backtick != options.profile.supportsBacktickIdentifiers) (some '`')) rest := by
  apply runs_of_plainChar (nameState (buffer ++ ['`']) false _ previous) unmasked_nameState
    unmasked_nameState rfl (by decide)
  · exact fun heq => absurd heq (by decide)
  · rw [matchChar, if_neg (by simp), if_neg (by simp)]
    cases hbacktick : options.profile.supportsBacktickIdentifiers with
    | true | false =>
      cases backtick <;> rfl

end Steps

/-! ### Fragments -/

/-- The splitter reads a fragment in code and is in code after it. -/
def Passes (x : Externals) (options : SqlParsingOptions) (fragment : Text) : Prop :=
  ∀ buffer previous rest, hasOddTrailingBackslashes buffer = false →
    hasOddTrailingBackslashes (buffer ++ fragment) = false ∧
    ∃ previous', (scanner x options).Runs (codeState buffer previous) (fragment ++ rest) []
      (codeState (buffer ++ fragment) previous') rest

section Fragments

variable {x : Externals} {options : SqlParsingOptions} {text : Text} {buffer : Text}

private theorem passes_nil : Passes x options [] := by
  intro buffer previous rest hodd
  rw [append_nil]
  exact ⟨hodd, previous, rfl⟩

/-- Fragments pass one after another. -/
theorem Passes.append {fragment fragment' : Text} (h : Passes x options fragment)
    (h' : Passes x options fragment') : Passes x options (fragment ++ fragment') := by
  intro buffer previous rest hodd
  obtain ⟨hodd₁, previous₁, hrun₁⟩ := h buffer previous (fragment' ++ rest) hodd
  obtain ⟨hodd₂, previous₂, hrun₂⟩ := h' (buffer ++ fragment) previous₁ rest hodd₁
  rw [← append_assoc, append_assoc fragment]
  exact ⟨hodd₂, previous₂, hrun₁.trans hrun₂⟩

/-- Joined parts pass. -/
theorem passes_joinTexts {separator : Text} (hseparator : Passes x options separator)
    {parts : List Text} (h : ∀ part ∈ parts, Passes x options part) :
    Passes x options (joinTexts separator parts) := by
  induction parts with
  | nil => exact passes_nil
  | cons part rest ih =>
    have hpart := h part mem_cons_self
    have hrest := ih fun part hmem => h part (mem_cons_of_mem _ hmem)
    cases rest with
    | nil => simpa [joinTexts] using hpart
    | cons next rest =>
      rw [joinTexts, intercalate_cons_cons]
      exact (hpart.append hseparator).append hrest

/-- Quiet characters in code or in a quoted name. -/
theorem runs_quietText (h : text.all isQuiet) (buffer rest : Text)
    (doubleQuote backtick : Bool) (previous : Option Char) :
    ∃ previous', (scanner x options).Runs (nameState buffer doubleQuote backtick previous)
      (text ++ rest) [] (nameState (buffer ++ text) doubleQuote backtick previous') rest := by
  induction text generalizing buffer previous with
  | nil =>
    rw [append_nil]
    exact ⟨previous, rfl⟩
  | cons ch later ih =>
    rw [all_cons, Bool.and_eq_true] at h
    obtain ⟨previous', hrun⟩ := ih h.2 (buffer ++ [ch]) (some ch)
    have hfirst := (runs_quiet x options _ previous h.1).trans hrun
    rw [append_assoc] at hfirst
    exact ⟨previous', hfirst⟩

/-- A text without backslashes leaves no odd run. -/
theorem hasOddTrailingBackslashes_append (h : '\\' ∉ text)
    (hodd : hasOddTrailingBackslashes buffer = false) :
    hasOddTrailingBackslashes (buffer ++ text) = false := by
  rcases eq_nil_or_concat text with rfl | ⟨front, ch, rfl⟩
  · rwa [append_nil]
  · have hch : ch ≠ '\\' := fun heq => h (by simp [heq])
    rw [concat_eq_append, ← append_assoc]
    exact hasOddTrailingBackslashes_concat_of_ne hch _

/-- A backslash is not quiet. -/
theorem backslash_notMem_of_quiet (h : text.all isQuiet) : '\\' ∉ text :=
  fun hmem => absurd (all_eq_true.mp h _ hmem) (by decide)

/-- A quiet text passes. -/
theorem passes_quiet (h : text.all isQuiet) : Passes x options text := by
  intro buffer previous rest hodd
  exact ⟨hasOddTrailingBackslashes_append (backslash_notMem_of_quiet h) hodd,
    runs_quietText h buffer rest _ _ _⟩

/-! ### Strings -/

/-- Where the splitter stands inside a string that is read with `escapes`: it escapes only if the
string does, always if ordinary strings do, and then no backslash is left open. -/
structure InString (ordinary escapes escape : Bool) (buffer : Text) : Prop where
  escapes : escape → escapes
  ordinary : ordinary → escape
  closed : escape → hasOddTrailingBackslashes buffer = false

variable {escapes : Bool}

private theorem runs_spelled {escape : Bool} {unit : Text} {ch : Char}
    (hunit : Spells options.profile.supportsBackslashEscapedQuotes escapes unit ch)
    (hin : InString options.profile.supportsBackslashEscapedQuotes escapes escape buffer)
    (rest : Text) (previous : Option Char) :
    ∃ escape' previous', (scanner x options).Runs (stringState buffer escape previous)
        (unit ++ rest) [] (stringState (buffer ++ unit) escape' previous') rest ∧
      InString options.profile.supportsBackslashEscapedQuotes escapes escape' (buffer ++ unit) := by
  cases hunit with
  | plain hquote hbackslash =>
    refine ⟨escape, some ch, runs_inString x options rest previous hquote, hin.escapes,
      hin.ordinary, fun htrue => ?_⟩
    exact hasOddTrailingBackslashes_concat_of_ne (hbackslash (hin.escapes htrue)) buffer
  | doubled =>
    -- the first quote ends the string and the second starts it again
    have hq : endsWithOracleQQuotePrefix x (buffer ++ ['\'']) = false := by
      simp [endsWithOracleQQuotePrefix]
    have hescape : endsWithEscapeStringPrefix x (buffer ++ ['\'']) = false := by
      simp [endsWithEscapeStringPrefix]
    have hodd := hasOddTrailingBackslashes_concat_of_ne (by decide : '\'' ≠ '\\')
    have hrun := (runs_closingQuote x options ('\'' :: rest) previous hin.closed).trans
      (runs_openingQuote x options rest (some '\'') (hodd buffer) hq)
    rw [hescape, Bool.and_false, Bool.or_false, append_assoc] at hrun
    refine ⟨_, _, hrun, fun htrue => hin.escapes (hin.ordinary htrue), id, fun _ => ?_⟩
    have hlast := hodd (buffer ++ ['\''])
    rwa [append_assoc] at hlast
  | @escaped next hescapes hhex hquote =>
    have hbackslash : (scanner x options).Runs (stringState buffer escape previous)
        ('\\' :: next :: rest) [] (stringState (buffer ++ ['\\']) escape (some '\\'))
        (next :: rest) := runs_inString x options _ previous (by decide)
    have hopen : escape → hasOddTrailingBackslashes (buffer ++ ['\\']) := by
      intro htrue
      rw [hasOddTrailingBackslashes_concat_backslash, hin.closed htrue]
      rfl
    have hclosed : escape → hasOddTrailingBackslashes (buffer ++ ['\\', next]) = false := by
      intro htrue
      rw [show buffer ++ ['\\', next] = buffer ++ ['\\'] ++ [next] by simp]
      by_cases hnext : next = '\\'
      · rw [hnext, hasOddTrailingBackslashes_concat_backslash, hopen htrue]
        rfl
      · exact hasOddTrailingBackslashes_concat_of_ne hnext _
    have hnext : (scanner x options).Runs (stringState (buffer ++ ['\\']) escape (some '\\'))
        (next :: rest) [] (stringState (buffer ++ ['\\'] ++ [next]) escape (some next)) rest := by
      by_cases heq : next = '\''
      · subst heq
        have htrue := hin.ordinary (hquote rfl)
        subst htrue
        exact runs_escapedQuote x options rest _ (hopen rfl)
      · exact runs_inString x options rest _ heq
    have hrun := hbackslash.trans hnext
    rw [append_assoc] at hrun
    exact ⟨escape, some next, hrun, hin.escapes, hin.ordinary, hclosed⟩
  | @code digit hescapes hdigit =>
    have hquote : digit ≠ '\'' := by rcases hdigit with rfl | rfl <;> decide
    have hplain : digit ≠ '\\' := by rcases hdigit with rfl | rfl <;> decide
    have hrun := (((runs_inString x options _ previous (by decide : '\\' ≠ '\'')).trans
      (runs_inString x options _ _ (by decide : 'x' ≠ '\''))).trans
      (runs_inString x options _ _ (by decide : '1' ≠ '\''))).trans
      (runs_inString x options rest _ hquote) (s := stringState buffer escape previous)
    simp only [append_assoc, cons_append, nil_append] at hrun
    refine ⟨escape, some digit, hrun, hin.escapes, hin.ordinary, fun _ => ?_⟩
    have hlast := hasOddTrailingBackslashes_concat_of_ne hplain (buffer ++ ['\\', 'x', '1'])
    rwa [append_assoc] at hlast

section

variable {body : Text}
  (hbody : BodySpells options.profile.supportsBackslashEscapedQuotes escapes body text)

include hbody

private theorem runs_body {escape : Bool}
    (hin : InString options.profile.supportsBackslashEscapedQuotes escapes escape buffer)
    (rest : Text) (previous : Option Char) :
    ∃ escape' previous', (scanner x options).Runs (stringState buffer escape previous)
        (body ++ rest) [] (stringState (buffer ++ body) escape' previous') rest ∧
      InString options.profile.supportsBackslashEscapedQuotes escapes escape' (buffer ++ body) := by
  induction hbody generalizing escape buffer previous with
  | nil =>
    rw [append_nil]
    exact ⟨escape, previous, rfl, hin⟩
  | @cons unit body text ch hunit hbody ih =>
    obtain ⟨escape₁, previous₁, hrun₁, hin₁⟩ :=
      runs_spelled (x := x) hunit hin (body ++ rest) previous
    obtain ⟨escape₂, previous₂, hrun₂, hin₂⟩ := ih hin₁ previous₁
    have hrun := hrun₁.trans hrun₂
    rw [← append_assoc, append_assoc buffer] at hrun
    rw [append_assoc buffer] at hin₂
    exact ⟨escape₂, previous₂, hrun, hin₂⟩

private theorem runs_quoted (hodd : hasOddTrailingBackslashes buffer = false)
    (hq : endsWithOracleQQuotePrefix x buffer = false)
    (hescapes : (options.profile.supportsBackslashEscapedQuotes ||
      (options.profile.supportsPostgresEscapeStrings && endsWithEscapeStringPrefix x buffer)) =
      escapes) (rest : Text) (previous : Option Char) :
    (scanner x options).Runs (codeState buffer previous) (quoted body ++ rest) []
      (codeState (buffer ++ quoted body) (some '\'')) rest := by
  have hopen := runs_openingQuote x options (body ++ '\'' :: rest) previous hodd hq
  rw [hescapes] at hopen
  have hin : InString options.profile.supportsBackslashEscapedQuotes escapes escapes
      (buffer ++ ['\'']) := by
    refine ⟨id, fun htrue => ?_, fun _ => hasOddTrailingBackslashes_concat_of_ne (by decide) _⟩
    rw [← hescapes, htrue, Bool.true_or]
  obtain ⟨escape, previous', hrun, hin'⟩ := runs_body (x := x) hbody hin ('\'' :: rest) (some '\'')
  have hall := (hopen.trans hrun).trans (runs_closingQuote x options rest previous' hin'.closed)
  simpa [quoted] using hall

end

/-! ### Literals -/

/-- The characters a literal follows in a statement. -/
def leadChars : List Char := [' ', '(']

variable {lead : Char}

/-- What may stand before a literal is quiet and starts no other quoting. -/
theorem leadChars_plain (h : lead ∈ leadChars) :
    isQuiet lead ∧ lead ∉ ['q', 'Q'] ∧ lead ∉ ['e', 'E'] := by
  fin_cases h <;> decide

private theorem not_qQuotePrefix {ch : Char} (h : ch ∉ ['q', 'Q']) (buffer : Text) :
    endsWithOracleQQuotePrefix x (buffer ++ [ch]) = false := by
  simp only [mem_cons, not_mem_nil, or_false, not_or] at h
  unfold endsWithOracleQQuotePrefix
  rw [reverse_append, reverse_singleton, singleton_append]
  split
  · next heq => exact absurd (cons.inj heq).1 h.1
  · next heq => exact absurd (cons.inj heq).1 h.2
  · rfl

private theorem not_escapeStringPrefix {ch : Char} (h : ch ∉ ['e', 'E']) (buffer : Text) :
    endsWithEscapeStringPrefix x (buffer ++ [ch]) = false := by
  simp only [mem_cons, not_mem_nil, or_false, not_or] at h
  unfold endsWithEscapeStringPrefix
  rw [reverse_append, reverse_singleton, singleton_append]
  split
  · next heq => exact absurd (cons.inj heq).1 h.2
  · next heq => exact absurd (cons.inj heq).1 h.1
  · rfl

private theorem escapeStringPrefix_of_lead (h : lead ∈ leadChars) (buffer : Text) :
    endsWithEscapeStringPrefix x (buffer ++ [lead, 'E']) := by
  have hlead : isIdentifierContinueChar x lead = false := by
    simp only [leadChars, mem_cons, not_mem_nil, or_false] at h
    rcases h with rfl | rfl
    · rw [isIdentifierContinueChar, x.isAlphanumeric_ascii ' ' rfl]
      rfl
    · rw [isIdentifierContinueChar, x.isAlphanumeric_ascii '(' rfl]
      rfl
  simp [endsWithEscapeStringPrefix, hlead]

private theorem passes_quoted {front body : Text} {ch : Char} (hfront : (front ++ [ch]).all isQuiet)
    (hch : ch ∉ ['q', 'Q'])
    (hbody : BodySpells options.profile.supportsBackslashEscapedQuotes escapes body text)
    (hescapes : ∀ buffer, (options.profile.supportsBackslashEscapedQuotes ||
      (options.profile.supportsPostgresEscapeStrings && endsWithEscapeStringPrefix x (buffer ++
      (front ++ [ch])))) = escapes) : Passes x options (front ++ [ch] ++ quoted body) := by
  intro buffer previous rest hodd
  obtain ⟨hodd', previous', hrun⟩ :=
    passes_quiet (x := x) hfront buffer previous (quoted body ++ rest) hodd
  have hq : endsWithOracleQQuotePrefix x (buffer ++ (front ++ [ch])) = false := by
    rw [← append_assoc]
    exact not_qQuotePrefix hch _
  have hall := hrun.trans (runs_quoted hbody hodd' hq (hescapes buffer) rest previous')
  refine ⟨?_, some '\'', ?_⟩
  · have hlast := hasOddTrailingBackslashes_concat_of_ne (by decide : '\'' ≠ '\\')
      (buffer ++ (front ++ [ch]) ++ '\'' :: body)
    simpa [quoted] using hlast
  · simpa using hall

private theorem passes_piece (hlead : lead ∈ leadChars) {piece : Text}
    (hpiece : PieceSpells options.profile piece text) : Passes x options (lead :: piece) := by
  obtain ⟨hquiet, hq, he⟩ := leadChars_plain hlead
  have hnational : ∀ {front body text : Text}, (front ++ ['N']).all isQuiet →
      BodySpells options.profile.supportsBackslashEscapedQuotes
        options.profile.supportsBackslashEscapedQuotes body text →
      Passes x options (front ++ ['N'] ++ quoted body) := by
    intro front body text hfront hbody
    apply passes_quoted hfront (by decide) hbody
    intro buffer
    rw [← append_assoc, not_escapeStringPrefix (by decide), Bool.and_false, Bool.or_false]
  cases hpiece with
  | string hbody =>
    have hescapes : ∀ buffer, (options.profile.supportsBackslashEscapedQuotes ||
        (options.profile.supportsPostgresEscapeStrings &&
          endsWithEscapeStringPrefix x (buffer ++ ([] ++ [lead])))) =
          options.profile.supportsBackslashEscapedQuotes := by
      intro buffer
      rw [nil_append, not_escapeStringPrefix he, Bool.and_false, Bool.or_false]
    exact passes_quoted (by simpa using hquiet) hq hbody hescapes
  | national hbody =>
    have hfront : ([lead] ++ ['N']).all isQuiet := by
      rw [all_append, all_cons, hquiet]
      rfl
    exact hnational hfront hbody
  | escape hprofile hbody =>
    have hfront : ([lead] ++ ['E']).all isQuiet := by
      rw [all_append, all_cons, hquiet]
      rfl
    apply passes_quoted hfront (by decide) hbody
    intro buffer
    rw [hprofile, singleton_append, escapeStringPrefix_of_lead hlead, Bool.and_true, Bool.or_true]
  | fixed hpiece =>
    have hlead' : Passes x options [lead] := passes_quiet (by simpa using hquiet)
    simp only [fixedPieces, mem_cons, not_mem_nil, or_false] at hpiece
    rcases hpiece with rfl | rfl | rfl
    · exact hlead'.append (passes_quiet rfl)
    · exact hlead'.append (passes_quiet rfl)
    · -- the one string in it is empty
      have hempty : Passes x options ("CAST(" ++ ['N'] ++ quoted []) := hnational rfl .nil
      have htype : Passes x options " AS NVARCHAR(MAX))" := passes_quiet rfl
      exact (hlead'.append hempty).append htype

/-- A literal passes. -/
theorem passes_literal (hlead : lead ∈ leadChars) {literal : Text}
    (h : LiteralSpells options.profile literal text) : Passes x options (lead :: literal) := by
  induction h generalizing lead with
  | single hpiece => exact passes_piece hlead hpiece
  | @concat piece text literal more hpiece hliteral ih =>
    have hplus : Passes x options " +" := passes_quiet rfl
    have hnext := ih (by decide : ' ' ∈ leadChars)
    have hall := ((passes_piece hlead hpiece).append hplus).append hnext
    simpa using hall

/-- A literal ends with a quote or a parenthesis. -/
theorem literal_last {profile : SqlDialectProfile} {literal : Text}
    (h : LiteralSpells profile literal text) :
    ∃ front, ∃ last ∈ ['\'', ')'], literal = front ++ [last] := by
  induction h with
  | single hpiece =>
    cases hpiece with
    | @string body => exact ⟨'\'' :: body, '\'', by simp, rfl⟩
    | @national body => exact ⟨'N' :: '\'' :: body, '\'', by simp, rfl⟩
    | @escape body => exact ⟨'E' :: '\'' :: body, '\'', by simp, rfl⟩
    | fixed hpiece =>
      simp only [fixedPieces, mem_cons, not_mem_nil, or_false] at hpiece
      rcases hpiece with rfl | rfl | rfl
      · exact ⟨"NCHAR(13", ')', by simp, rfl⟩
      · exact ⟨"NCHAR(10", ')', by simp, rfl⟩
      · exact ⟨"CAST(N'' AS NVARCHAR(MAX)", ')', by simp, rfl⟩
  | @concat piece text literal more hpiece hliteral ih =>
    obtain ⟨front, last, hlast, rfl⟩ := ih
    exact ⟨piece ++ " + " ++ front, last, hlast, by simp⟩

end Fragments

end DbxSpec.Grid
