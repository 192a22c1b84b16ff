import DbxSpec.Cypher.ReadOnly

/-!
# Soundness of the Cypher read-only check

`cypherTokens` lexes a text by Cypher's own rules: strings in single or double quotes with
backslash escapes, backtick identifiers in which only a doubled backtick is special, `//`
comments to the end of the line and `/* */` comments that do not nest. The check shares its
escape rule among all three quotes, so it misreads a backtick that an odd run of backslashes
precedes. Up to the first identifier misread this way, Cypher's lexing of an accepted text shows
no unsafe keyword; what follows that identifier has not been checked.
-/

namespace DbxSpec.Cypher

open DbxSpec.Base DbxSpec.Sql List Lexeme Externals

/-! ### Cypher's lexical rules -/

/-- A token in code position. -/
inductive Token
  | word (text : Text)
  | string
  | identifier (body : Text)
  | symbol (ch : Char)
  deriving DecidableEq, Repr

/-- The text after a string whose opening quote has been read. -/
def stringEnd (quote : Char) : Text → Text
  | [] => []
  | [_] => []
  | c :: d :: rest =>
    if c == '\\' then stringEnd quote rest
    else if c == quote then d :: rest
    else stringEnd quote (d :: rest)

/-- The body of a backtick identifier and the text after it. -/
def identifierSpan : Text → Text × Text
  | [] => ([], [])
  | [c] => (if c == '`' then [] else [c], [])
  | c :: d :: rest =>
    if c == '`' then
      if d == '`' then
        let span := identifierSpan rest
        (c :: d :: span.1, span.2)
      else ([], d :: rest)
    else
      let span := identifierSpan (d :: rest)
      (c :: span.1, span.2)

/-- The text after a comment whose opener has been read. -/
def commentEnd : Text → Text
  | [] => []
  | [_] => []
  | a :: b :: rest => if a == '*' && b == '/' then rest else commentEnd (b :: rest)

/-- The first character of an unquoted name: a letter of any script or an underscore. -/
def startsName (x : Externals) (ch : Char) : Bool :=
  ch.isAlpha || ch == '_' || (!isAscii ch && x.isAlphanumeric ch && !isWhitespace ch)

/-- The code tokens of a text by Cypher's rules. -/
def cypherTokens (x : Externals) : Nat → Text → List Token
  | _, [] => []
  | 0, _ :: _ => []
  | fuel + 1, ch :: rest =>
    if ch == '/' && rest.head? == some '/' then
      cypherTokens x fuel (rest.tail.dropWhile (!isLineBreak ·))
    else if ch == '/' && rest.head? == some '*' then cypherTokens x fuel (commentEnd rest.tail)
    else if ch == '\'' || ch == '"' then .string :: cypherTokens x fuel (stringEnd ch rest)
    else if ch == '`' then
      .identifier (identifierSpan rest).1 :: cypherTokens x fuel (identifierSpan rest).2
    else if startsName x ch then
      .word (toAsciiUppercase (ch :: rest.takeWhile (isWordPart x))) ::
        cypherTokens x fuel (rest.dropWhile (isWordPart x))
    else if isWhitespace ch then cypherTokens x fuel rest
    else .symbol ch :: cypherTokens x fuel rest

/-- A dot, a colon or a dollar sign. -/
def Token.isMark : Token → Bool
  | .symbol ch => ch == '.' || ch == ':' || ch == '$'
  | _ => false

/-- Every unsafe keyword is a property name after a dot, a label or type after a colon, a
parameter after a dollar sign or a map key before a colon. `previous` is the token before. -/
def KeywordsAreNames : Option Token → List Token → Prop
  | _, [] => True
  | previous, token :: rest =>
    (∀ text, token = .word text → text ∈ unsafeWords →
      previous.any Token.isMark ∨ rest.head? = some (.symbol ':')) ∧
      KeywordsAreNames (some token) rest

instance decidableKeywordsAreNames :
    ∀ previous tokens, Decidable (KeywordsAreNames previous tokens)
  | _, [] => isTrue trivial
  | previous, token :: rest =>
    have : Decidable (∀ text, token = .word text → text ∈ unsafeWords →
        previous.any Token.isMark ∨ rest.head? = some (.symbol ':')) :=
      match token with
      | .word text => decidable_of_iff (text ∈ unsafeWords →
          previous.any Token.isMark ∨ rest.head? = some (.symbol ':')) (by simp)
      | .string | .identifier _ | .symbol _ => isTrue nofun
    have := decidableKeywordsAreNames (some token) rest
    inferInstanceAs (Decidable (_ ∧ _))

/-- Cypher's lexing of a text shows no unsafe keyword. -/
def ShowsNoWrite (x : Externals) (source : Text) : Prop :=
  KeywordsAreNames none (cypherTokens x source.length source)
  deriving Decidable

/-- No odd run of backslashes stands right before a backtick; `odd` tells whether the run just
before the text is odd. -/
def backslashesHarmless : Bool → Text → Bool
  | _, [] => true
  | odd, c :: rest =>
    !(odd && c == '`') && backslashesHarmless (c == '\\' && !odd) rest

/-- A backtick identifier in which an odd run of backslashes stands right before a backtick, the
closing one included. -/
def Token.isMisread : Token → Bool
  | .identifier body => !backslashesHarmless false (body ++ ['`'])
  | _ => false

/-- The tokens after the first misread identifier; none if there is no such identifier. -/
def afterMisread : List Token → List Token
  | [] => []
  | token :: rest => if token.isMisread then rest else afterMisread rest

/-! ### One quoted run -/

private theorem commentEnd_of_afterBlockComment {text after : Text}
    (h : afterBlockComment text = some after) :
    commentEnd text = after ∧ after.length ≤ text.length := by
  fun_induction afterBlockComment text with
  | case1 | case2 | case3 a b rest hnested => cases h
  | case4 a b rest hnested hclose =>
    cases h
    exact ⟨by simp [commentEnd, hclose], by simp only [length_cons]; omega⟩
  | case5 a b rest hnested hclose ih =>
    obtain ⟨hend, hle⟩ := ih h
    exact ⟨by simpa [commentEnd, hclose] using hend, hle.trans (by simp)⟩

private theorem identifierSpan_of_afterQuoted {text after : Text}
    (h : afterQuoted '`' text = some after)
    (hplain : backslashesHarmless false ((identifierSpan text).1 ++ ['`'])) :
    (identifierSpan text).2 = after := by
  fun_induction afterQuoted '`' text with
  | case1 | case2 | case4 => cases h
  | case3 c hc hq =>
    cases h
    rfl
  | case5 c d rest hc ih =>
    obtain rfl : c = '\\' := by simpa using hc
    -- the escaped character is no backtick, so Cypher reads past it as well
    have hd : d ≠ '`' := by
      rintro rfl
      cases rest with
      | nil => simp [identifierSpan, backslashesHarmless] at hplain
      | cons e rest =>
        by_cases he : e = '`' <;> simp [identifierSpan, backslashesHarmless, he] at hplain
    rcases rest with _ | ⟨e, rest⟩
    · simp [afterQuoted] at h
    have hspan : identifierSpan ('\\' :: d :: e :: rest) =
        ('\\' :: d :: (identifierSpan (e :: rest)).1, (identifierSpan (e :: rest)).2) := by
      simp [identifierSpan, hd]
    rw [hspan] at hplain ⊢
    refine ih h ?_
    simpa [backslashesHarmless, hd] using hplain
  | case6 c d rest hc hq hd ih =>
    obtain rfl : c = '`' := by simpa using hq
    obtain rfl : d = '`' := by simpa using hd
    refine ih h ?_
    simpa [identifierSpan, backslashesHarmless] using hplain
  | case7 c d rest hc hq hd =>
    cases h
    simp [identifierSpan, hq, hd]
  | case8 c d rest hc hq ih =>
    have hspan : identifierSpan (c :: d :: rest) =
        (c :: (identifierSpan (d :: rest)).1, (identifierSpan (d :: rest)).2) := by
      simp [identifierSpan, hq]
    rw [hspan] at hplain ⊢
    refine ih h ?_
    simpa [backslashesHarmless, hc] using hplain

/-! ### Two readings of one text -/

/-- How Cypher's tokens and the words of the check correspond. A name that starts with a letter
outside ASCII falls apart into words of the check, none of them a mark. After a misread
identifier the two have nothing to do with each other. -/
inductive Reads : List Token → List Lexeme → Prop
  | nil : Reads [] []
  | word (text) {tokens lexemes} (h : Reads tokens lexemes) :
      Reads (.word text :: tokens) (.word text :: lexemes)
  | name (text) (pieces) {tokens lexemes} (hsafe : text ∉ unsafeWords) (hne : pieces ≠ [])
      (hpieces : ∀ piece ∈ pieces, Lexeme.isMark piece = false) (h : Reads tokens lexemes) :
      Reads (.word text :: tokens) (pieces ++ lexemes)
  | string {tokens lexemes} (h : Reads tokens lexemes) :
      Reads (.string :: tokens) (.quoted :: lexemes)
  | doubled {tokens lexemes} (h : Reads (.string :: tokens) (.quoted :: lexemes)) :
      Reads (.string :: .string :: tokens) (.quoted :: lexemes)
  | identifier (body) {tokens lexemes} (h : Reads tokens lexemes) :
      Reads (.identifier body :: tokens) (.quoted :: lexemes)
  | misread (token) (tokens lexemes) (hmisread : Token.isMisread token) :
      Reads (token :: tokens) (.quoted :: lexemes)
  | mark (ch) {tokens lexemes} (hmark : (Token.symbol ch).isMark)
      (h : Reads tokens lexemes) : Reads (.symbol ch :: tokens) (.mark ch :: lexemes)
  | symbol (ch) (lexeme) {tokens lexemes} (hlexeme : Lexeme.isMark lexeme = false)
      (hword : ∀ text, lexeme ≠ .word text) (h : Reads tokens lexemes) :
      Reads (.symbol ch :: tokens) (lexeme :: lexemes)

variable {lexemes : List Lexeme} {tokens : List Token}

private theorem Reads.head_colon (h : Reads tokens lexemes)
    (hcolon : lexemes.head? = some (.mark ':')) :
    tokens.head? = some (.symbol ':') := by
  cases h with
  | nil | word | string | doubled | identifier | misread => cases hcolon
  | name text pieces hsafe hne hpieces h =>
    obtain ⟨first, pieces, rfl⟩ := exists_cons_of_ne_nil hne
    obtain rfl : first = .mark ':' := by simpa using hcolon
    exact absurd (hpieces (.mark ':') (by simp)) (by decide)
  | mark ch hmark h =>
    obtain rfl : ch = ':' := by simpa using hcolon
    rfl
  | symbol ch lexeme hlexeme hword h =>
    obtain rfl : lexeme = .mark ':' := by simpa using hcolon
    exact absurd hlexeme (by decide)

private theorem wordsAreSafe_append {previous : Option Lexeme} {pieces lexemes : List Lexeme}
    (h : wordsAreSafe previous (pieces ++ lexemes)) :
    wordsAreSafe (pieces.getLast?.or previous) lexemes := by
  induction pieces generalizing previous with
  | nil => simpa using h
  | cons piece pieces ih =>
    simp only [cons_append, wordsAreSafe, Bool.and_eq_true] at h
    have hlater := ih h.2
    cases hlast : pieces.getLast? with
    | none | some last =>
      simpa [getLast?_cons, hlast] using hlater

private theorem KeywordsAreNames.of_none (h : KeywordsAreNames none tokens)
    (before : Option Token) : KeywordsAreNames before tokens := by
  cases tokens with
  | nil => trivial
  | cons token rest =>
    exact ⟨fun text heq hkeyword => .inr (by simpa using h.1 text heq hkeyword), h.2⟩

private theorem KeywordsAreNames.afterMisread {before : Option Token}
    (h : KeywordsAreNames before tokens) : KeywordsAreNames none (afterMisread tokens) := by
  induction tokens generalizing before with
  | nil => trivial
  | cons token rest ih =>
    rw [Cypher.afterMisread]
    split
    · next hmisread =>
      -- an identifier is no mark, so it excuses nothing in the token after it
      cases token with
      | identifier body =>
        cases rest with
        | nil => trivial
        | cons next rest => exact ⟨by simpa [Token.isMark] using h.2.1, h.2.2⟩
      | _ => cases hmisread
    · exact ih h.2

/-- What the check finds safe shows no unsafe keyword in Cypher's reading, unless it comes after
a misread identifier. -/
theorem Reads.keywordsAreNames (h : Reads tokens lexemes) {before : Option Token}
    {previous : Option Lexeme}
    (hprevious : previous.any isMark → before.any Token.isMark)
    (hsafe : wordsAreSafe previous lexemes)
    (hafter : KeywordsAreNames none (afterMisread tokens)) : KeywordsAreNames before tokens := by
  induction h generalizing before previous with
  | nil => trivial
  | word text h ih =>
    simp only [wordsAreSafe, Bool.and_eq_true] at hsafe
    refine ⟨fun text' heq hkeyword => ?_, ih (by simp [isMark]) hsafe.2 hafter⟩
    cases heq
    simp only [Bool.or_eq_true, Bool.not_eq_true', beq_iff_eq] at hsafe
    rcases hsafe.1 with (hcontains | hmark) | hcolon
    · simp [hkeyword] at hcontains
    · exact .inl (hprevious hmark)
    · exact .inr (h.head_colon hcolon)
  | name text pieces hname hne hpieces h ih =>
    refine ⟨fun text' heq hkeyword => ?_, ih ?_ (wordsAreSafe_append hsafe) hafter⟩
    · cases heq
      exact absurd hkeyword hname
    · rw [getLast?_eq_some_getLast hne, Option.some_or]
      simp [hpieces _ (getLast_mem hne)]
  | string h ih =>
    exact ⟨by simp, ih (by simp [isMark]) hsafe hafter⟩
  | doubled h ih =>
    -- the token before a string plays no part in what follows it
    exact ⟨by simp, by simp, (ih hprevious hsafe hafter).2⟩
  | identifier body h ih =>
    rw [afterMisread] at hafter
    split at hafter
    · exact ⟨by simp, hafter.of_none _⟩
    · exact ⟨by simp, ih (by simp [isMark]) hsafe hafter⟩
  | misread token tokens lexemes hmisread =>
    rw [afterMisread, if_pos hmisread] at hafter
    cases token with
    | identifier body => exact ⟨by simp, hafter.of_none _⟩
    | _ => cases hmisread
  | mark ch hmark h ih =>
    exact ⟨by simp, ih (fun _ => by simpa using hmark) hsafe hafter⟩
  | symbol ch lexeme hlexeme hword h ih =>
    simp only [wordsAreSafe, Bool.and_eq_true] at hsafe
    exact ⟨by simp, ih (by simp [hlexeme]) hsafe.2 hafter⟩

/-! ### The scan against Cypher's lexing -/

private theorem afterQuoted_length {quote : Char} {text after : Text}
    (h : afterQuoted quote text = some after) : after.length ≤ text.length := by
  fun_induction afterQuoted quote text with
  | case1 | case2 | case4 => cases h
  | case3 | case7 =>
    cases h
    simp
  | case5 c d rest hc ih
  | case6 c d rest hc hq hd ih => exact Nat.le_trans (ih h) (by simp only [length_cons]; omega)
  | case8 c d rest hc hq ih => exact Nat.le_trans (ih h) (by simp)

private theorem identifierSpan_length (text : Text) :
    (identifierSpan text).2.length ≤ text.length := by
  fun_induction identifierSpan text with
  | case1 | case2 | case4 => simp
  | case3 c d rest hc hd span ih =>
    simp only [length_cons]
    exact Nat.le_trans ih (by omega)
  | case5 c d rest hc span ih => exact Nat.le_trans ih (by simp)

variable {ch : Char} (x : Externals)

private theorem isWordPart_ascii (hascii : isAscii ch) (hplain : ch.isAlphanum = false)
    (hunderscore : ch ≠ '_') : isWordPart x ch = false := by
  simp [isWordPart, x.isAlphanumeric_ascii ch hascii, hplain, hunderscore]

private theorem isWordPart_special (h : isWordPart x ch) :
    ch ∉ ['/', '\'', '"', '`', ';', '.', ':', '$'] := by
  intro hmem
  simp only [mem_cons, not_mem_nil, or_false] at hmem
  rcases hmem with rfl | rfl | rfl | rfl | rfl | rfl | rfl | rfl <;>
  · rw [isWordPart_ascii x (by decide) (by decide) (by decide)] at h
    cases h

private theorem scan_wordParts {text : Text} {fuel : Nat} (h : scan x fuel text = some lexemes) :
    ∃ pieces later fuel', lexemes = pieces ++ later ∧ (∀ piece ∈ pieces, isMark piece = false) ∧
      scan x fuel' (text.dropWhile (isWordPart x)) = some later := by
  induction text generalizing fuel lexemes with
  | nil => exact ⟨[], lexemes, fuel, rfl, by simp, h⟩
  | cons ch rest ih =>
    rcases hpart : isWordPart x ch with _ | _
    · exact ⟨[], lexemes, fuel, rfl, by simp, by simpa [hpart] using h⟩
    have hspecial := isWordPart_special x hpart
    simp only [mem_cons, not_mem_nil, or_false, not_or] at hspecial
    obtain ⟨h1, h2, h3, h4, h5, h6, h7, h8⟩ := hspecial
    have hdrop : (ch :: rest).dropWhile (isWordPart x) = rest.dropWhile (isWordPart x) := by
      simp [hpart]
    rw [hdrop]
    rcases fuel with _ | fuel
    · cases h
    simp only [scan, beq_iff_eq, h1, h2, h3, h4, h5, h6, h7, h8, Bool.and_eq_true,
      Bool.or_eq_true, false_and, or_self, if_false] at h
    split at h
    · obtain ⟨later, hlater, rfl⟩ := Option.map_eq_some_iff.mp h
      exact ⟨[_], later, fuel, rfl, by simp [isMark], hlater⟩
    · split at h
      · obtain ⟨more, hmore, rfl⟩ := Option.map_eq_some_iff.mp h
        obtain ⟨pieces, later, fuel', rfl, hpieces, hlater⟩ := ih hmore
        exact ⟨.symbol :: pieces, later, fuel', rfl, by simpa [isMark] using hpieces, hlater⟩
      · exact ih h

/-- Whatever fuel Cypher's lexing gets beyond the length of `text`, its tokens correspond to the
words that the check found. -/
def ReadsAs (x : Externals) (text : Text) (lexemes : List Lexeme) : Prop :=
  ∀ fuel, text.length ≤ fuel → Reads (cypherTokens x fuel text) lexemes

variable {rest : Text}

private theorem readsAs_cons {x : Externals}
    (h : ∀ fuel, rest.length ≤ fuel → Reads (cypherTokens x (fuel + 1) (ch :: rest)) lexemes) :
    ReadsAs x (ch :: rest) lexemes := by
  intro fuel hfuel
  cases fuel with
  | zero => simp at hfuel
  | succ fuel => exact h fuel (by simpa using hfuel)

/-- A string, given the reading of what follows it. The check reads a doubled quote as part of the
text, and Cypher as the end of one string and the start of the next. -/
theorem readsAs_string {quote : Char} (hquote : quote = '\'' ∨ quote = '"')
    {body after : Text} (hbody : afterQuoted quote body = some after)
    (hafter : ReadsAs x after lexemes) : ReadsAs x (quote :: body) (.quoted :: lexemes) := by
  have htokens : ∀ fuel body, cypherTokens x (fuel + 1) (quote :: body) =
      .string :: cypherTokens x fuel (stringEnd quote body) := by
    rcases hquote with rfl | rfl <;> simp [cypherTokens]
  refine readsAs_cons fun fuel hfuel => ?_
  rw [htokens]
  fun_induction afterQuoted quote body generalizing fuel with
  | case1 | case2 | case4 => cases hbody
  | case3 c hc hq =>
    cases hbody
    exact .string (hafter fuel (Nat.zero_le fuel))
  | case5 c d rest hc ih =>
    rw [length_cons, length_cons] at hfuel
    simpa [stringEnd, hc] using ih hbody fuel (by omega)
  | case6 c d rest hc hq hd ih =>
    obtain ⟨fuel, rfl⟩ := Nat.exists_eq_add_one_of_ne_zero (Nat.ne_zero_of_lt hfuel)
    rw [length_cons, length_cons] at hfuel
    have hend : stringEnd quote (c :: d :: rest) = quote :: rest := by
      simp [stringEnd, hc, hq, beq_iff_eq.mp hd]
    rw [hend, htokens]
    exact .doubled (ih hbody fuel (by omega))
  | case7 c d rest hc hq hd =>
    cases hbody
    have hend : stringEnd quote (c :: d :: rest) = d :: rest := by simp [stringEnd, hc, hq]
    rw [hend]
    exact .string (hafter fuel (Nat.le_of_succ_le hfuel))
  | case8 c d rest hc hq ih =>
    simpa [stringEnd, hc, hq] using ih hbody fuel (Nat.le_of_succ_le hfuel)

private theorem notMem_unsafeWords (h : isAscii ch = false) :
    toAsciiUppercase (ch :: rest) ∉ unsafeWords := by
  have hupper : ch.toUpper = ch := by
    unfold Char.toUpper
    rw [dif_neg]
    rintro ⟨-, hle⟩
    simp only [isAscii, decide_eq_false_iff_not, not_lt] at h
    have : ch.toNat ≤ 122 := hle
    omega
  intro hmem
  have hhead : ∀ word ∈ unsafeWords, word.head?.all isAscii := by decide
  have := hhead _ hmem
  simp [toAsciiUppercase, hupper, h] at this

private theorem readsAs_identifier {body after : Text} (hbody : afterQuoted '`' body = some after)
    (hafter : ReadsAs x after lexemes) :
    ReadsAs x ('`' :: body) (.quoted :: lexemes) := by
  refine readsAs_cons fun fuel hfuel => ?_
  have htokens : cypherTokens x (fuel + 1) ('`' :: body) =
      .identifier (identifierSpan body).1 :: cypherTokens x fuel (identifierSpan body).2 := by
    simp [cypherTokens]
  have hle := identifierSpan_length body
  rw [htokens]
  rcases hplain : backslashesHarmless false ((identifierSpan body).1 ++ ['`']) with _ | _
  · exact .misread _ _ _ (by simp [Token.isMisread, hplain])
  have hspan := identifierSpan_of_afterQuoted hbody hplain
  rw [hspan] at hle ⊢
  exact .identifier _ (hafter fuel (by omega))

private theorem cypherTokens_symbol (fuel : Nat) (hline : ¬(ch == '/' && rest.head? == some '/'))
    (hblock : ¬(ch == '/' && rest.head? == some '*'))
    (hquote : ¬(ch == '\'' || ch == '"' || ch == '`') = true) (hname : startsName x ch = false)
    (hspace : isWhitespace ch = false) :
    cypherTokens x (fuel + 1) (ch :: rest) = .symbol ch :: cypherTokens x fuel rest := by
  simp only [Bool.or_eq_true, not_or] at hquote
  simp [cypherTokens, hline, hblock, hquote, hname, hspace]

private theorem cypherTokens_word (fuel : Nat) (hline : ¬(ch == '/' && rest.head? == some '/'))
    (hblock : ¬(ch == '/' && rest.head? == some '*'))
    (hquote : ¬(ch == '\'' || ch == '"' || ch == '`') = true) (hname : startsName x ch = true) :
    cypherTokens x (fuel + 1) (ch :: rest) =
      .word (toAsciiUppercase (ch :: rest.takeWhile (isWordPart x))) ::
        cypherTokens x fuel (rest.dropWhile (isWordPart x)) := by
  simp only [Bool.or_eq_true, not_or] at hquote
  simp [cypherTokens, hline, hblock, hquote, hname]

private theorem cypherTokens_whitespace (fuel : Nat) (hword : ¬(ch.isAlpha || ch == '_'))
    (hwhite : isWhitespace ch) :
    cypherTokens x (fuel + 1) (ch :: rest) = cypherTokens x fuel rest := by
  have hplain : ch ∉ ['/', '\'', '"', '`'] := by
    intro hmem
    simp only [mem_cons, not_mem_nil, or_false] at hmem
    rcases hmem with rfl | rfl | rfl | rfl <;> cases hwhite
  simp only [mem_cons, not_mem_nil, or_false, not_or] at hplain
  simp [cypherTokens, hplain, hword, hwhite, startsName]

private theorem startsName_eq_false (hascii : isAscii ch)
    (hplain : ¬(ch.isAlpha || ch == '_')) : startsName x ch = false := by
  simp [startsName, hascii, hplain]

section

variable {fuel : Nat} (ih : ∀ text : Text, text.length ≤ rest.length → ∀ fuel lexemes,
  scan x fuel text = some lexemes → ReadsAs x text lexemes)

include ih

private theorem readsAs_name (hascii : isAscii ch = false)
    (hscan : scan x fuel rest = some lexemes) (fuel' : Nat) (hfuel' : rest.length ≤ fuel') :
    Reads (.word (toAsciiUppercase (ch :: rest.takeWhile (isWordPart x))) ::
      cypherTokens x fuel' (rest.dropWhile (isWordPart x))) (.symbol :: lexemes) := by
  obtain ⟨pieces, later, fuel'', rfl, hpieces, hlater⟩ := scan_wordParts x hscan
  have hle := (dropWhile_suffix (isWordPart x) (l := rest)).length_le
  rw [← cons_append]
  refine .name _ _ (notMem_unsafeWords hascii) (by simp) ?_
    (ih _ (by omega) fuel'' later hlater fuel' (by omega))
  simpa [isMark] using hpieces

private theorem scan_step_readsAs (hscan : scan x (fuel + 1) (ch :: rest) = some lexemes) :
    ReadsAs x (ch :: rest) lexemes := by
  have htail : rest.tail.length ≤ rest.length := by simp
  rw [scan] at hscan
  split at hscan
  · next hline =>
    have hle := (dropWhile_suffix (!isLineBreak ·) (l := rest.tail)).length_le
    refine readsAs_cons fun fuel' hfuel' => ?_
    rw [cypherTokens, if_pos hline]
    exact ih _ (by omega) fuel lexemes hscan fuel' (by omega)
  next hline =>
  split at hscan
  · next hblock =>
    obtain ⟨after, hafter, hscan⟩ := Option.bind_eq_some_iff.mp hscan
    obtain ⟨hend, hle⟩ := commentEnd_of_afterBlockComment hafter
    refine readsAs_cons fun fuel' hfuel' => ?_
    rw [cypherTokens, if_neg hline, if_pos hblock, hend]
    exact ih _ (by omega) fuel lexemes hscan fuel' (by omega)
  next hblock =>
  split at hscan
  · next hquote =>
    obtain ⟨after, hafter, hscan⟩ := Option.bind_eq_some_iff.mp hscan
    obtain ⟨later, hlater, rfl⟩ := Option.map_eq_some_iff.mp hscan
    have hle := afterQuoted_length hafter
    have hreads := ih after (by omega) fuel later hlater
    simp only [Bool.or_eq_true, beq_iff_eq] at hquote
    rcases hquote with hstring | rfl
    · exact readsAs_string x hstring hafter hreads
    · exact readsAs_identifier x hafter hreads
  next hquote =>
  split at hscan
  · next hsemi =>
    obtain ⟨later, hlater, rfl⟩ := Option.map_eq_some_iff.mp hscan
    obtain rfl : ch = ';' := by simpa using hsemi
    refine readsAs_cons fun fuel' hfuel' => ?_
    exact .symbol _ _ (by decide) (by simp) (ih rest le_rfl fuel later hlater fuel' hfuel')
  next hsemi =>
  split at hscan
  · next hword =>
    obtain ⟨later, hlater, rfl⟩ := Option.map_eq_some_iff.mp hscan
    have hle := (dropWhile_suffix (isWordPart x) (l := rest)).length_le
    refine readsAs_cons fun fuel' hfuel' => ?_
    rw [cypherTokens_word x fuel' hline hblock hquote (by simp only [startsName, hword,
      Bool.true_or])]
    exact .word _ (ih _ (by omega) fuel later hlater fuel' (by omega))
  next hword =>
  split at hscan
  · next hmark =>
    obtain ⟨later, hlater, rfl⟩ := Option.map_eq_some_iff.mp hscan
    have hplain : isAscii ch ∧ isWhitespace ch = false := by
      simp only [Bool.or_eq_true, beq_iff_eq] at hmark
      rcases hmark with (rfl | rfl) | rfl <;> decide
    refine readsAs_cons fun fuel' hfuel' => ?_
    rw [cypherTokens_symbol x fuel' hline hblock hquote
      (startsName_eq_false x hplain.1 hword) hplain.2]
    exact .mark _ hmark (ih rest le_rfl fuel later hlater fuel' hfuel')
  next hmark =>
  split at hscan
  · next hspace =>
    obtain ⟨later, hlater, rfl⟩ := Option.map_eq_some_iff.mp hscan
    refine readsAs_cons fun fuel' hfuel' => ?_
    cases hname : startsName x ch with
    | false =>
      rw [cypherTokens_symbol x fuel' hline hblock hquote hname (by simpa using hspace)]
      exact .symbol _ _ (by decide) (by simp) (ih rest le_rfl fuel later hlater fuel' hfuel')
    | true =>
      -- the check knows ASCII letters only as the start of a word
      have hascii : isAscii ch = false := by
        by_contra h
        rw [startsName_eq_false x ((Bool.not_eq_false _).mp h) hword] at hname
        cases hname
      rw [cypherTokens_word x fuel' hline hblock hquote hname]
      exact readsAs_name x ih hascii hlater fuel' hfuel'
  · next hspace =>
    have hwhite : isWhitespace ch := by simpa using hspace
    refine readsAs_cons fun fuel' hfuel' => ?_
    rw [cypherTokens_whitespace x fuel' hword hwhite]
    exact ih rest le_rfl fuel lexemes hscan fuel' hfuel'

end

private theorem scan_readsAs : ∀ (text : Text) (fuel : Nat) (lexemes : List Lexeme),
    scan x fuel text = some lexemes → ReadsAs x text lexemes
  | [], fuel, lexemes, hscan => by
    intro fuel' _
    obtain rfl : [] = lexemes := by simpa [scan] using hscan
    simpa [cypherTokens] using Reads.nil
  | _ :: _, 0, _, hscan => by cases hscan
  | _ :: _, _ + 1, _, hscan =>
    scan_step_readsAs x (fun later hlater => scan_readsAs later) hscan
termination_by text => text.length
decreasing_by exact Nat.lt_succ_of_le hlater

/-! ### What acceptance means -/

private theorem wordsAreSafe_of_accepted {x : Externals} {source : Text}
    (h : isProvenReadOnlyCypher x source) :
    ∃ lexemes, scan x source.length source = some lexemes ∧ wordsAreSafe none lexemes := by
  unfold isProvenReadOnlyCypher at h
  split at h
  · cases h
  split at h
  · cases h
  next lexemes hscan =>
  refine ⟨lexemes, hscan, wordsAreSafe_of_statements fun statement hstatement => ?_⟩
  simp only [Bool.and_eq_true, all_eq_true, mem_filter] at h
  cases statement with
  | nil => rfl
  | cons first others =>
    have hread := h.2 _ ⟨hstatement, rfl⟩
    simp only [statementIsRead, Bool.and_eq_true] at hread
    exact hread.2

/-- An accepted text shows no unsafe keyword exactly if none shows after its first misread
identifier; without such an identifier there is nothing left to show. -/
theorem showsNoWrite_iff_afterMisread (x : Externals) (source : Text)
    (h : isProvenReadOnlyCypher x source) :
    ShowsNoWrite x source ↔
      KeywordsAreNames none (afterMisread (cypherTokens x source.length source)) := by
  obtain ⟨lexemes, hscan, hsafe⟩ := wordsAreSafe_of_accepted h
  have hreads := scan_readsAs x source _ lexemes hscan _ le_rfl
  constructor
  · exact KeywordsAreNames.afterMisread
  · exact hreads.keywordsAreNames (by simp) hsafe

/-- No identifier of this text is misread. -/
theorem showsNoWrite_iff_afterMisread_label :
    ShowsNoWrite Externals.ascii "MATCH (n:`SET`) WHERE n.set = 'x\\'; DROP' RETURN n" ↔
      KeywordsAreNames none (afterMisread (cypherTokens Externals.ascii
        "MATCH (n:`SET`) WHERE n.set = 'x\\'; DROP' RETURN n".toList.length
        "MATCH (n:`SET`) WHERE n.set = 'x\\'; DROP' RETURN n")) :=
  showsNoWrite_iff_afterMisread Externals.ascii _ (by decide +kernel)

/-- The check takes the backtick after the backslash for an escaped one and the `SET` clause for
the rest of the label. -/
theorem backslash_label_hides_set : isProvenReadOnlyCypher Externals.ascii
        "MATCH (n:`a\\`) SET n.x = 1 RETURN n // ` RETURN n" ∧
      ¬ShowsNoWrite Externals.ascii "MATCH (n:`a\\`) SET n.x = 1 RETURN n // ` RETURN n" := by
  decide +kernel

end DbxSpec.Cypher
