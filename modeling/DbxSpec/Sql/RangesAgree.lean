import DbxSpec.Sql.RangesSteps
import DbxSpec.Sql.SplitterChunks

/-!
# The two statement splitters find the same statements

Each regular step of the range splitter is answered by a run of the streaming splitter over the
same characters, so that over a text whose steps are all regular the two emit the same
statements. A text with an irregular step need not have that property; the module ends
with one that does not.
-/

namespace DbxSpec.Sql

open DbxSpec.Base SqlStatementSplitter SqlParsingOptions List RangeSplitter

namespace RangeSplitter

section

variable {x : Externals} {options : SqlParsingOptions} {r : RangeSplitter}
  {s : SqlStatementSplitter} {previous : Option Char} {ch : Char} {rest : Text}

/-- The streaming splitter answers a step of the range splitter. -/
def Answered (x : Externals) (options : SqlParsingOptions) (s : SqlStatementSplitter)
    (ch : Char) (rest : Text) (now : Step) : Prop :=
  ∃ s' statements, (SqlStatementSplitter.scanner x options).Runs s (ch :: rest) statements s'
      (rest.drop now.skip) ∧
    SameStatements options now.out statements ∧
    Related options (some now.state) s' (rest.drop now.skip)

variable {tag : Text}

private theorem related_of_fits {text : Text} (hbehind : r.oracleBlockStart ≤ r.start)
    (hfits : r.PreviousFits options previous text) :
    Related options (some r) (r.toSplitter previous) text :=
  ⟨r, rfl, hbehind, rfl, rfl, rfl, fun _ => ⟨previous, rfl, hfits⟩⟩

private theorem plainStep_dollar (h : s.dollarQuoteTag = some tag) :
    s.plainStep x options ch rest = s.dollarQuotedStep tag ch rest := by
  rw [plainStep, h]

private theorem plainStep_lineComment (hdollar : s.dollarQuoteTag = none)
    (h : s.inLineComment) : s.plainStep x options ch rest = s.lineCommentStep ch := by
  rw [plainStep, hdollar]
  exact if_pos h

private theorem plainStep_comment (hdollar : s.dollarQuoteTag = none)
    (hline : s.inLineComment = false) (h : 0 < s.blockCommentDepth) :
    s.plainStep x options ch rest = s.blockCommentStep options ch := by
  rw [plainStep, hdollar]
  rw [hline, if_neg (by simp), if_pos h]

private theorem consume_pair (a b : Char) : r.consume [a, b] = (r.consume [a]).consume [b] := by
  simp [consume]

private theorem plainStep_inComment (hcomment : r.InComment)
    (hinner : options.profile.supportsNestedBlockComments → previous = some '/' → ch ≠ '*')
    (hcloser : previous = some '*' → ch ≠ '/') :
    (r.toSplitter previous).plainStep x options ch rest =
      ⟨(r.consume [ch]).toSplitter (some ch), [], 0⟩ := by
  have hstep : (r.toSplitter previous).plainStep x options ch rest =
      (r.toSplitter previous).blockCommentStep options ch :=
    plainStep_comment hcomment.1 hcomment.2.1 hcomment.2.2
  rw [hstep, SqlStatementSplitter.blockCommentStep, if_neg, if_neg]
  · rfl
  · rw [Bool.and_eq_true, beq_iff_eq, beq_iff_eq]
    exact fun h => hcloser h.1 h.2
  · rw [Bool.and_eq_true, Bool.and_eq_true, beq_iff_eq, beq_iff_eq]
    exact fun h => hinner h.1.1 h.1.2 h.2

private theorem plainStep_quoted (hdollar : s.dollarQuoteTag = none)
    (hline : s.inLineComment = false) (hdepth : s.blockCommentDepth = 0)
    (hquote : s.oracleQQuote = {}) (hinside : s.outsideQuotes = false) :
    s.plainStep x options ch rest = s.ordinaryStep x options ch := by
  rw [plainStep, hdollar]
  rw [hline, if_neg (by simp), hdepth, if_neg (by simp), hquote, if_neg (by decide),
    hinside, if_neg (by simp)]

private theorem toSplitter_code (hcode : r.InCode) :
    (r.toSplitter previous).plainStep x options ch rest =
      ((r.toSplitter previous).openerStep x options ch rest).getD
        ((r.toSplitter previous).ordinaryStep x options ch) :=
  plainStep_inCode x options ((inCode_iff (r.toSplitter previous)).mpr
    ⟨hcode.1, hcode.2.1, hcode.2.2.1, rfl, hcode.2.2.2⟩) ch rest

private theorem oracleQQuote_iff (hregular : r.codeIsRegular x options ch rest) :
    (options.profile.supportsOracleQQuotes && ch == '\'' &&
      endsWithOracleQQuotePrefix x r.current) = (r.oracleQQuoteAt x options ch rest).isSome := by
  rw [oracleQQuoteAt]
  by_cases hch : ch = '\''
  · subst hch
    replace hregular : (!options.profile.supportsOracleQQuotes || r.quoteIsRegular x rest) :=
      hregular
    rw [Bool.or_eq_true, Bool.not_eq_true'] at hregular
    rcases hregular with hoff | hregular
    · rw [hoff]
      rfl
    · rw [quoteIsRegular, Bool.and_eq_true, beq_iff_eq, Bool.or_eq_true,
        Bool.not_eq_true'] at hregular
      obtain ⟨hsame, hclosed⟩ := hregular
      rw [hsame]
      split
      · next hopen =>
        rw [hopen]
        rw [Bool.and_eq_true] at hopen
        rcases hclosed with hno | hclosed
        · rw [hno] at hopen
          cases hopen.2
        · rw [Bool.and_eq_true] at hclosed
          exact hclosed.1.symm
      · next hno => exact (Bool.not_eq_true _).mp hno
  · simp [hch]

private theorem openingDollarTag_eq (hregular : r.codeIsRegular x options ch rest) :
    (r.toSplitter previous).openingDollarTag options ch rest =
      r.openingDollarTag options ch rest := by
  by_cases hch : ch = '$'
  · subst hch
    replace hregular : (!(rest.head?.any Char.isDigit &&
      (r.openingDollarTag options '$' rest).isSome)) := hregular
    rw [Bool.not_eq_true', Bool.and_eq_false_iff, Option.isSome_eq_false_iff,
      Option.isNone_iff_eq_none] at hregular
    cases hdigit : rest.head?.any Char.isDigit with
    | false =>
      rw [SqlStatementSplitter.openingDollarTag, openingDollarTag, dollarQuoteTagAt_eq_str hdigit]
      rfl
    | true =>
      rw [hdigit] at hregular
      rw [hregular.resolve_left (by simp), SqlStatementSplitter.openingDollarTag,
        dollarQuoteTagAt_digit hdigit]
      exact ite_self _
  · have hnone : dollarQuoteTagAt (ch :: rest) = none := by
      unfold dollarQuoteTagAt
      split
      · next h => cases h; exact absurd rfl hch
      · next h => cases h; exact absurd rfl hch
      · rfl
    rw [SqlStatementSplitter.openingDollarTag, openingDollarTag, hnone,
      dollarQuoteTagAtStr_of_ne hch, ite_self, ite_self]

private theorem openerStep_none (hcode : r.InCode)
    (hfits : r.PreviousFits options previous (ch :: rest))
    (hregular : r.codeIsRegular x options ch rest)
    (hquote : r.oracleQQuoteAt x options ch rest = none)
    (hhash : (options.profile.supportsHashLineComments && ch == '#') = false)
    (hcomment : (ch == '/' && rest.head? == some '*') = false)
    (hdollar : r.openingDollarTag options ch rest = none) :
    (r.toSplitter previous).openerStep x options ch rest = none := by
  have hno : (options.profile.supportsOracleQQuotes && ch == '\'' &&
      endsWithOracleQQuotePrefix x (r.toSplitter previous).buffer) = false := by
    rw [show (r.toSplitter previous).buffer = r.current from rfl, oracleQQuote_iff hregular, hquote]
    rfl
  have hdashes : ((r.toSplitter previous).previous == some '-' && ch == '-') →
      dashDashStartsLineComment options.profile rest.head? = false := by
    intro h
    simp only [Bool.and_eq_true, beq_iff_eq] at h
    obtain ⟨hprevious, rfl⟩ := h
    exact hfits.dashes hcode hprevious rest rfl
  have hopener : ((r.toSplitter previous).previous == some '/' && ch == '*') = false := by
    rw [← Bool.not_eq_true, Bool.and_eq_true, beq_iff_eq, beq_iff_eq]
    intro h
    exact hfits.opener hcode h.1 (by rw [h.2]; rfl)
  rw [SqlStatementSplitter.openerStep, if_neg (by rw [hno]; simp)]
  rw [if_neg, if_neg, hopener, if_neg (by simp), hhash, if_neg (by simp), hcomment,
    if_neg (by simp), openingDollarTag_eq hregular, hdollar]
  · rw [Bool.and_eq_true]
    intro h
    rw [hdashes h.1] at h
    cases h.2
  · rw [Bool.and_eq_true, Bool.and_eq_true, List.isEmpty_iff]
    rintro ⟨⟨hd, -⟩, rfl⟩
    have h := hdashes hd
    unfold dashDashStartsLineComment at h
    split at h <;> cases h

private theorem noTag {open_ : Option Text} (h : open_ = none) :
    ∀ tag ∈ open_, tag.getLast? = some '$' := by
  rw [h]
  simp

/-- The streaming splitter after a character of a q-quote. -/
def reads (s : SqlStatementSplitter) (ch : Char) (quote : OracleQQuoteState) :
    SqlStatementSplitter :=
  { s.pushChar ch with oracleQQuote := quote }

/-- Inside a q-quote, with everything else closed. -/
structure InQuote (s : SqlStatementSplitter) : Prop where
  dollar : s.dollarQuoteTag = none
  line : s.inLineComment = false
  depth : s.blockCommentDepth = 0
  pending : s.pendingPsqlCommand = none

private theorem InQuote.reads (h : InQuote s) (ch : Char) (quote : OracleQQuoteState) :
    InQuote (reads s ch quote) :=
  ⟨h.dollar, h.line, h.depth, h.pending⟩

/-! ### Steps without psql commands -/

variable (hpsql : options.profile.supportsPsqlControlCommands = false)
  {statements : List SqlStatementWithControl}

include hpsql

private theorem scanner_step (hpending : s.pendingPsqlCommand = none) (ch : Char) (rest : Text) :
    (SqlStatementSplitter.scanner x options).step s ch rest = s.plainStep x options ch rest := by
  have hstarts : ¬s.startsPsqlCommand options ch := by
    rw [startsPsqlCommand, hpsql]
    simp
  rw [show (SqlStatementSplitter.scanner x options).step s ch rest = s.step x options ch rest
    from rfl, SqlStatementSplitter.step, hpending]
  exact if_neg hstarts

private theorem runs_plainStep {s s' : SqlStatementSplitter}
    (hpending : s.pendingPsqlCommand = none) {skip : Nat}
    (h : s.plainStep x options ch rest = ⟨s', statements, skip⟩) :
    (SqlStatementSplitter.scanner x options).Runs s (ch :: rest) statements s' (rest.drop skip) :=
  Scanner.runs_step _ ((scanner_step hpsql hpending ch rest).trans h)

private theorem answered_of_step (last : Option Char) (hpending : s.pendingPsqlCommand = none)
    {now : Step}
    (h : s.plainStep x options ch rest = ⟨now.state.toSplitter last, statements, now.skip⟩)
    (hsame : SameStatements options now.out statements)
    (hbehind : now.state.oracleBlockStart ≤ now.state.start)
    (hfits : now.state.PreviousFits options last (rest.drop now.skip)) :
    Answered x options s ch rest now :=
  ⟨_, _, runs_plainStep hpsql hpending h, hsame, related_of_fits hbehind hfits⟩

private theorem runs_qQuote (hin : InQuote s) (hopen : s.oracleQQuote.isOpen) (ch : Char)
    (rest : Text) {quote : OracleQQuoteState}
    (hquote : s.oracleQQuote.consume ch s.previous = quote) :
    (SqlStatementSplitter.scanner x options).Runs s (ch :: rest) [] (reads s ch quote) rest := by
  have hstep : s.plainStep x options ch rest = s.oracleQQuoteStep ch := by
    rw [plainStep, hin.dollar]
    rw [hin.line, if_neg (by simp), hin.depth, if_neg (by simp), if_pos hopen]
  subst hquote
  exact runs_plainStep hpsql hin.pending hstep

/-- The content of a q-quote ends at the first closer that a quote follows. The induction is
on the content; the previous character must not close the literal at once. -/
theorem runs_content {closer : Char} (content : Text) {length : Nat} (hin : InQuote s)
    (hquote : s.oracleQQuote = { closer := some closer })
    (hend : endOfFirst [closer, '\''] content = some length)
    (hprevious : s.previous = some closer → content.head? ≠ some '\'') :
    (SqlStatementSplitter.scanner x options).Runs s content [] { s with
        buffer := s.buffer ++ content.take length
        previous := some '\''
        oracleQQuote := {} } (content.drop length) := by
  induction content generalizing s length with
  | nil => cases hend
  | cons a later ih =>
    have hopen : s.oracleQQuote.isOpen := by
      rw [hquote]
      rfl
    have hstays : s.oracleQQuote.consume a s.previous = { closer := some closer } := by
      rw [hquote, OracleQQuoteState.consume, if_neg (by simp)]
      refine if_neg fun h => hprevious h.1 ?_
      rw [h.2]
      rfl
    have hfirst := runs_qQuote (x := x) hpsql hin hopen a later hstays
    rw [endOfFirst] at hend
    split at hend
    · next hcloses =>
      -- the closer and the quote after it
      cases hend
      rw [List.isPrefixOf_iff_prefix, cons_prefix_cons] at hcloses
      obtain ⟨rfl, tail, rfl⟩ := hcloses
      have hsecond := runs_qQuote (x := x) hpsql (hin.reads closer { closer := some closer }) rfl
        '\'' tail rfl
      have hrun := hfirst.trans hsecond
      simpa [OracleQQuoteState.consume, reads, pushChar] using hrun
    · next hgoes =>
      rw [Option.map_eq_some_iff] at hend
      obtain ⟨length, hend, rfl⟩ := hend
      have hlast : (reads s a { closer := some closer }).previous = some closer →
          later.head? ≠ some '\'' := by
        rintro ⟨rfl⟩ hhead
        obtain ⟨tail, rfl⟩ := head?_eq_some_iff.mp hhead
        exact hgoes (by simp)
      have hrun := hfirst.trans (ih (hin.reads a _) rfl hend hlast)
      simpa [reads, pushChar] using hrun

variable (hbehind : r.oracleBlockStart ≤ r.start)

include hbehind

/-! ### Inside comments and dollar quotes -/

private theorem dollarQuotedStep_answered (htag : r.dollarQuoteTag = some tag)
    (hlast : tag.getLast? = some '$') :
    Answered x options (r.toSplitter previous) ch rest (r.dollarQuotedStep tag ch rest) := by
  have hstep : (r.toSplitter previous).plainStep x options ch rest =
      (r.toSplitter previous).dollarQuotedStep tag ch rest := plainStep_dollar htag
  rw [SqlStatementSplitter.dollarQuotedStep] at hstep
  rw [dollarQuotedStep]
  split
  · next hcloses =>
    rw [if_pos hcloses] at hstep
    refine answered_of_step hpsql (some '$') rfl (hstep.trans ?_) sameStatements_nil hbehind ?_
    · rw [pushTag, hlast]
      rfl
    · exact previousFits_of_ne (by decide) (by decide) (by decide) (by simp)
  · next hopen =>
    rw [if_neg hopen] at hstep
    have hstill : (r.consume [ch]).dollarQuoteTag = some tag := htag
    refine answered_of_step hpsql (some ch) rfl hstep sameStatements_nil hbehind ?_
    apply previousFits_of_masked
    · rw [hstill]
      simp
    · intro tag' htag'
      rw [hstill] at htag'
      cases htag'
      exact hlast

private theorem lineCommentStep_answered (hdollar : r.dollarQuoteTag = none)
    (hline : r.inLineComment) :
    Answered x options (r.toSplitter previous) ch rest (r.lineCommentStep ch) := by
  refine answered_of_step hpsql (some ch) rfl (plainStep_lineComment hdollar hline)
    sameStatements_nil hbehind ?_
  have htag : ∀ tag ∈ (r.lineCommentStep ch).state.dollarQuoteTag, tag.getLast? = some '$' := by
    rw [show (r.lineCommentStep ch).state.dollarQuoteTag = none from hdollar]
    simp
  by_cases hch : ch = '\n'
  · subst hch
    exact previousFits_of_ne (by decide) (by decide) (by decide) htag
  · apply previousFits_of_masked _ htag
    right
    simpa [lineCommentStep] using hch

private theorem blockCommentStep_answered (hcomment : r.InComment)
    (hfits : r.PreviousFits options previous (ch :: rest))
    (hregular : (ch == '*' && rest.head? == some '/' && rest.tail.head? == some '*') = false) :
    Answered x options (r.toSplitter previous) ch rest (r.blockCommentStep options ch rest) := by
  have hfirst : (r.toSplitter previous).plainStep x options ch rest =
      ⟨(r.consume [ch]).toSplitter (some ch), [], 0⟩ := by
    apply plainStep_inComment hcomment
    · intro hnested hprevious hch
      exact hfits.inner hcomment hnested hprevious (by rw [hch]; rfl)
    · intro hprevious hch
      exact hfits.closer hcomment hprevious (by rw [hch]; rfl)
  have htag := hfits.tag
  rw [blockCommentStep]
  split
  · -- `*/`: the streaming splitter closes the comment at the slash
    next hclose =>
    rw [hclose, Bool.true_and] at hregular
    simp only [Bool.and_eq_true, beq_iff_eq] at hclose
    obtain ⟨rfl, hhead⟩ := hclose
    obtain ⟨later, rfl⟩ := head?_eq_some_iff.mp hhead
    have hsecond : ((r.consume ['*']).toSplitter (some '*')).plainStep x options '/' later =
        ⟨({ r.consume ['*', '/'] with
          blockCommentDepth := r.blockCommentDepth - 1 } : RangeSplitter).toSplitter (some '/'),
          [], 0⟩ := by
      rw [plainStep_comment (s := (r.consume ['*']).toSplitter (some '*')) hcomment.1 hcomment.2.1
        hcomment.2.2, SqlStatementSplitter.blockCommentStep, if_neg (by simp [toSplitter]),
        if_pos (by simp [toSplitter]), consume_pair]
      rfl
    refine ⟨_, _, (runs_plainStep hpsql rfl hfirst).trans (runs_plainStep hpsql rfl hsecond),
      sameStatements_nil, related_of_fits hbehind ?_⟩
    have hstar : later.head? ≠ some '*' := by
      rw [tail_cons, beq_eq_false_iff_ne] at hregular
      exact hregular
    exact ⟨fun _ h => absurd h (by decide), fun _ _ _ => hstar, fun _ _ => hstar,
      fun _ h => absurd h (by decide), htag⟩
  · next hclose =>
    split
    · -- `/*`: the streaming splitter opens the inner comment at the star
      next hopen =>
      simp only [Bool.and_eq_true, beq_iff_eq] at hopen
      obtain ⟨⟨hnested, rfl⟩, hhead⟩ := hopen
      obtain ⟨later, rfl⟩ := head?_eq_some_iff.mp hhead
      have hsecond : ((r.consume ['/']).toSplitter (some '/')).plainStep x options '*' later =
          ⟨({ r.consume ['/', '*'] with
            blockCommentDepth := r.blockCommentDepth + 1 } : RangeSplitter).toSplitter none,
            [], 0⟩ := by
        rw [plainStep_comment (s := (r.consume ['/']).toSplitter (some '/')) hcomment.1 hcomment.2.1
          hcomment.2.2, SqlStatementSplitter.blockCommentStep,
          if_pos (by simp [toSplitter, hnested]), consume_pair]
        rfl
      refine ⟨_, _, (runs_plainStep hpsql rfl hfirst).trans (runs_plainStep hpsql rfl hsecond),
        sameStatements_nil, related_of_fits hbehind ?_⟩
      exact previousFits_of_ne (by simp) (by simp) (by simp) htag
    · next hopen =>
      refine answered_of_step hpsql (some ch) rfl hfirst sameStatements_nil hbehind ?_
      have hcode : ¬(r.consume [ch]).InCode := by
        rintro ⟨-, -, hzero, -⟩
        have hpos : 0 < (r.consume [ch]).blockCommentDepth := hcomment.2.2
        omega
      refine ⟨fun _ h hhead => ?_, fun _ hnested h hhead => ?_, fun h => absurd h hcode,
        fun h => absurd h hcode, htag⟩
      · cases h
        rw [drop_zero] at hhead
        exact hclose (by rw [hhead]; rfl)
      · cases h
        rw [drop_zero] at hhead
        exact hopen (by rw [hnested, hhead]; rfl)

/-! ### Openers in code -/

section

variable (hcode : r.InCode)

include hcode

private theorem hash_answered (hhash : options.profile.supportsHashLineComments) :
    Answered x options (r.toSplitter previous) '#' rest
      ⟨{ r.consume ['#'] with inLineComment := true }, [], 0⟩ := by
  apply answered_of_step hpsql (some '#') rfl _ sameStatements_nil hbehind
  · exact previousFits_of_masked (.inr rfl) (noTag hcode.1)
  · rw [toSplitter_code hcode, SqlStatementSplitter.openerStep, if_neg (by simp)]
    rw [if_neg (by simp), if_neg (by simp), if_neg (by simp), if_pos (by simp [hhash])]
    rfl

private theorem comment_answered (hslash : rest.head? ≠ some '/') :
    Answered x options (r.toSplitter previous) '/' ('*' :: rest)
      ⟨{ r.consume ['/', '*'] with blockCommentDepth := 1 }, [], 1⟩ := by
  have hfirst : (r.toSplitter previous).plainStep x options '/' ('*' :: rest) =
      ⟨({ r.consume ['/'] with blockCommentDepth := 1 } : RangeSplitter).toSplitter none,
        [], 0⟩ := by
    rw [toSplitter_code hcode, SqlStatementSplitter.openerStep, if_neg (by simp)]
    rw [if_neg (by simp), if_neg (by simp), if_neg (by simp), if_neg (by simp), if_pos (by simp)]
    rfl
  have hinside : ({ r.consume ['/'] with blockCommentDepth := 1 } : RangeSplitter).InComment :=
    ⟨hcode.1, hcode.2.1, Nat.one_pos⟩
  have hsecond : (({ r.consume ['/'] with blockCommentDepth := 1 } : RangeSplitter).toSplitter
      none).plainStep x options '*' rest = _ :=
    plainStep_inComment hinside (by simp) (by simp)
  refine ⟨_, _, (runs_plainStep hpsql rfl hfirst).trans (runs_plainStep hpsql rfl hsecond),
    sameStatements_nil, ?_⟩
  have hcode' : ¬({ (r.consume ['/']).consume ['*'] with
      blockCommentDepth := 1 } : RangeSplitter).InCode := fun h => absurd h.2.2.1 Nat.one_ne_zero
  rw [consume_pair]
  exact related_of_fits (r := { (r.consume ['/']).consume ['*'] with blockCommentDepth := 1 })
    hbehind ⟨fun _ _ => hslash, fun _ _ h => absurd h (by decide), fun h => absurd h hcode',
      fun h => absurd h hcode', noTag hcode.1⟩

/-- A `--` that starts a line comment: the streaming splitter takes the first dash for an
ordinary character. At the end of the input it only notes the dashes. -/
theorem dashes_answered (hfits : r.PreviousFits options previous ('-' :: '-' :: rest))
    (hregular : r.codeIsRegular x options '-' ('-' :: rest))
    (hstarts : dashDashStartsLineComment options.profile rest.head?) :
    Answered x options (r.toSplitter previous) '-' ('-' :: rest)
      ⟨{ r.consume ['-', '-'] with inLineComment := true }, [], 1⟩ := by
  have hends : r.delimiterEndsAt options '-' = false := by
    have h : (!(('-' :: rest).head? == some '-' &&
      dashDashStartsLineComment options.profile ('-' :: rest).tail.head? &&
      r.delimiterEndsAt options '-')) := hregular
    rw [head?_cons, tail_cons, hstarts] at h
    simpa using h
  have hnone : (r.toSplitter previous).openerStep x options '-' ('-' :: rest) = none := by
    apply openerStep_none hcode hfits hregular
    · exact if_neg (by simp)
    · simp
    · simp
    · exact ite_self _
  have hmatch : (r.toSplitter previous).matchChar x options '-' =
      ((r.consume ['-']).toSplitter previous, []) := by
    rfl
  have hafter : ((r.consume ['-']).toSplitter previous).afterChar options '-' =
      ((r.consume ['-']).toSplitter (some '-'), []) :=
    afterChar_plain (r := r) (by decide) rfl rfl fun _ => hends
  have hfirst : (r.toSplitter previous).plainStep x options '-' ('-' :: rest) =
      ⟨(r.consume ['-']).toSplitter (some '-'), [], 0⟩ := by
    rw [toSplitter_code hcode, hnone, Option.getD_none, SqlStatementSplitter.ordinaryStep, hmatch]
    rw [hafter]
    rfl
  have hcode' : (r.consume ['-']).InCode := hcode
  by_cases hpending : (options.profile.requiresWhitespaceAfterLineCommentDashes && rest.isEmpty)
  · have hsecond : ((r.consume ['-']).toSplitter (some '-')).plainStep x options '-' rest =
        ⟨{ (r.consume ['-', '-']).toSplitter (some '-') with
          pendingMysqlLineCommentDashes := true }, [], 0⟩ := by
      rw [toSplitter_code hcode', SqlStatementSplitter.openerStep, if_neg (by simp)]
      rw [if_pos (by simpa [toSplitter] using hpending), consume_pair]
      rfl
    rw [Bool.and_eq_true, List.isEmpty_iff] at hpending
    refine ⟨_, _, (runs_plainStep hpsql rfl hfirst).trans (runs_plainStep hpsql rfl hsecond),
      sameStatements_nil, _, rfl, hbehind, rfl, rfl, rfl, ?_⟩
    rw [hpending.2]
    simp
  · have hsecond : ((r.consume ['-']).toSplitter (some '-')).plainStep x options '-' rest =
        ⟨({ r.consume ['-', '-'] with inLineComment := true } : RangeSplitter).toSplitter
          (some '-'), [], 0⟩ := by
      rw [toSplitter_code hcode', SqlStatementSplitter.openerStep, if_neg (by simp)]
      rw [if_neg (by simpa [toSplitter] using hpending), if_pos (by simp [toSplitter, hstarts]),
        consume_pair]
      rfl
    refine ⟨_, _, (runs_plainStep hpsql rfl hfirst).trans (runs_plainStep hpsql rfl hsecond),
      sameStatements_nil, related_of_fits hbehind ?_⟩
    exact previousFits_of_masked (.inr rfl) (noTag hcode.1)

private theorem dollar_answered (hregular : r.codeIsRegular x options ch rest)
    (htag : r.openingDollarTag options ch rest = some tag) :
    Answered x options (r.toSplitter previous) ch rest ⟨{ r.consume tag with
        dollarQuoteTag := some tag
        postgresDollarQuotedRoutine := r.postgresDollarQuotedRoutine ||
          (options.profile.supportsPostgresDollarQuotedRoutines &&
            startsWithPostgresDollarQuotedRoutinePrefix x r.current) }, [], tag.length - 1⟩ := by
  have hopening : (r.toSplitter previous).openingDollarTag options ch rest = some tag :=
    (openingDollarTag_eq hregular).trans htag
  rw [openingDollarTag] at htag
  split at htag
  · obtain ⟨⟨after, htext⟩, name, hname, -⟩ := dollarQuoteTagAtStr_eq_some_iff.mp htag
    rw [hname] at htext
    obtain rfl : '$' = ch := (cons.inj htext).1
    have hlast : tag.getLast? = some '$' := by
      rw [hname]
      exact getLast?_concat
    apply answered_of_step hpsql (some '$') rfl _ sameStatements_nil hbehind
    · apply previousFits_of_masked
      · exact .inl (Option.some_ne_none tag)
      · rintro _ ⟨rfl⟩
        exact hlast
    · rw [toSplitter_code hcode, SqlStatementSplitter.openerStep, if_neg (by simp)]
      rw [if_neg (by simp), if_neg (by simp), if_neg (by simp), if_neg (by simp),
        if_neg (by simp), hopening]
      simp only [pushTag, hlast]
      rfl
  · cases htag

private theorem qQuote_answered (hregular : r.codeIsRegular x options ch rest) {length : Nat}
    (hquote : r.oracleQQuoteAt x options ch rest = some length) :
    Answered x options (r.toSplitter previous) ch rest
      ⟨r.consume ((ch :: rest).take length), [], length - 1⟩ := by
  have hopens := oracleQQuote_iff hregular
  rw [hquote, Option.isSome_some, Bool.and_eq_true, Bool.and_eq_true, beq_iff_eq] at hopens
  obtain ⟨⟨hsupports, rfl⟩, hintroducer⟩ := hopens
  replace hregular : (!options.profile.supportsOracleQQuotes || r.quoteIsRegular x rest) :=
    hregular
  rw [hsupports, Bool.not_true, Bool.false_or, quoteIsRegular, hintroducer] at hregular
  simp only [Bool.not_true, Bool.false_or, Bool.and_eq_true, Bool.not_eq_true'] at hregular
  have hself := hregular.2.2
  rw [oracleQQuoteAt] at hquote
  split at hquote
  · match rest with
    | [] => cases hquote
    | opening :: content =>
      obtain ⟨closer, hcloser, hquote⟩ := Option.bind_eq_some_iff.mp hquote
      obtain ⟨offset, hoffset, hquote⟩ := Option.bind_eq_some_iff.mp hquote
      obtain rfl : offset + 2 = length := Option.some.inj hquote
      have hfirst : (r.toSplitter previous).plainStep x options '\'' (opening :: content) =
          ⟨reads (r.toSplitter previous) '\'' { awaitingDelimiter := true }, [], 0⟩ := by
        rw [toSplitter_code hcode, SqlStatementSplitter.openerStep, if_pos (by
          rw [hsupports]; exact hintroducer)]
        rfl
      have hin : InQuote (r.toSplitter previous) := ⟨hcode.1, hcode.2.1, hcode.2.2.1, rfl⟩
      have hin' := hin.reads '\'' { awaitingDelimiter := true }
      have hdelimiter : ({ awaitingDelimiter := true } : OracleQQuoteState).consume opening
          (some '\'') = { closer := some closer } := by
        rw [← hcloser]
        rfl
      have hsecond := runs_qQuote (x := x) hpsql hin' rfl opening content hdelimiter
      have hthird := runs_content (x := x) hpsql content (hin'.reads opening _) rfl hoffset (by
        rintro ⟨rfl⟩ hhead
        rw [head?_cons, Option.any_some, hcloser, tail_cons, hhead] at hself
        simp at hself)
      refine ⟨_, _, ((runs_plainStep hpsql rfl hfirst).trans hsecond).trans hthird,
        sameStatements_nil, ?_⟩
      have hstate : r.consume (('\'' :: opening :: content).take (offset + 2)) =
          ((r.consume ['\'']).consume [opening]).consume (content.take offset) := by
        simp [consume]
      rw [hstate]
      exact related_of_fits (r := ((r.consume ['\'']).consume [opening]).consume
        (content.take offset)) hbehind
        (previousFits_of_ne (by decide) (by decide) (by decide) (noTag hcode.1))
  · cases hquote

end

/-! ### Steps -/

private theorem ordinary_answered (hdollar : r.dollarQuoteTag = none)
    (hdepth : r.blockCommentDepth = 0)
    (hstep : (r.toSplitter previous).plainStep x options ch rest = (r.toSplitter
      previous).ordinaryStep x options ch)
    (hregular : leadingIsRegular options (r.current ++ [ch]))
    (h : r.OrdinaryFits options previous ch rest) :
    Answered x options (r.toSplitter previous) ch rest (r.ordinaryStep x options ch) := by
  obtain ⟨hbehind', statements, hordinary, hsame⟩ := matchChar_answers (x := x) hbehind h hdollar
    hregular
  exact answered_of_step hpsql (some ch) rfl (hstep.trans hordinary) hsame hbehind'
    (previousFits_matchChar h hdepth hdollar)

private theorem newline_answered (hcode : r.InCode)
    (hstep : (r.toSplitter previous).plainStep x options '\n' rest = (r.toSplitter
      previous).ordinaryStep x options '\n')
    (hregular : leadingIsRegular options (r.current ++ ['\n']))
    (hline : r.lineIsRegular options) :
    ∃ now, (r.lineStep options).map (·.getD (r.ordinaryStep x options '\n')) = some now ∧
      Answered x options (r.toSplitter previous) '\n' rest now := by
  have hguard : (((r.toSplitter previous).append '\n').outsideQuotes &&
      ((r.toSplitter previous).append '\n').dollarQuoteTag.isNone) := by
    rw [Bool.and_eq_true, Option.isNone_iff_eq_none]
    exact ⟨hcode.2.2.2, hcode.1⟩
  rcases lineStep_answers hbehind previous hregular hline with
    ⟨hnone, hend⟩ | ⟨r', ranges, statements, hcommand, hend, hbehind', htag, hsame⟩
  · refine ⟨_, by rw [hnone]; rfl, ?_⟩
    apply ordinary_answered hpsql hbehind hcode.1 hcode.2.2.1 hstep hregular
    constructor
    · intro hinside
      rw [hcode.2.2.2] at hinside
      cases hinside
    · intro _ hch
      exact absurd hch (by decide)
    · intro _
      exact hend
    · intro _ hch
      exact absurd hch (by decide)
    · intro _ hch
      exact absurd hch (by decide)
  · refine ⟨_, by rw [hcommand]; rfl, ?_⟩
    apply answered_of_step hpsql none rfl _ hsame hbehind'
    · exact previousFits_of_ne (by simp) (by simp) (by simp) (noTag (htag.trans hcode.1))
    · have hmatch : (r.toSplitter previous).matchChar x options '\n' =
          ((r.toSplitter previous).append '\n', []) := by
        rw [SqlStatementSplitter.matchChar, if_neg (by simp), if_neg (by simp), if_neg (by simp),
          if_neg (by simp)]
      rw [hstep, SqlStatementSplitter.ordinaryStep, hmatch]
      rw [afterChar, if_pos hguard, if_pos (by simp), hend]
      rfl

private theorem codeStep_answered (hcode : r.InCode)
    (hfits : r.PreviousFits options previous (ch :: rest))
    (hleading : leadingIsRegular options (r.current ++ [ch]))
    (hregular : r.codeIsRegular x options ch rest) :
    ∃ now, r.codeStep x options ch rest = some now ∧
      Answered x options (r.toSplitter previous) ch rest now := by
  rw [codeStep, openerStep]
  cases hquote : r.oracleQQuoteAt x options ch rest with
  | some length => exact ⟨_, rfl, qQuote_answered hpsql hbehind hcode hregular hquote⟩
  | none =>
    by_cases hdash : (ch == '-' && rest.head? == some '-' &&
        dashDashStartsLineComment options.profile rest.tail.head?)
    · rw [if_pos hdash]
      simp only [Bool.and_eq_true, beq_iff_eq] at hdash
      obtain ⟨⟨rfl, hhead⟩, hstarts⟩ := hdash
      obtain ⟨later, rfl⟩ := head?_eq_some_iff.mp hhead
      exact ⟨_, rfl, dashes_answered hpsql hbehind hcode hfits hregular hstarts⟩
    rw [if_neg hdash]
    by_cases hhash : (options.profile.supportsHashLineComments && ch == '#')
    · rw [if_pos hhash]
      rw [Bool.and_eq_true, beq_iff_eq] at hhash
      obtain ⟨hsupports, rfl⟩ := hhash
      exact ⟨_, rfl, hash_answered hpsql hbehind hcode hsupports⟩
    rw [if_neg hhash]
    by_cases hcomment : (ch == '/' && rest.head? == some '*')
    · rw [Bool.and_eq_true, beq_iff_eq, beq_iff_eq] at hcomment
      obtain ⟨rfl, hhead⟩ := hcomment
      obtain ⟨later, rfl⟩ := head?_eq_some_iff.mp hhead
      have hslash : (!(('*' :: later).head? == some '*' &&
        ('*' :: later).tail.head? == some '/')) := hregular
      exact ⟨_, rfl, comment_answered hpsql hbehind hcode (by simpa using hslash)⟩
    rw [if_neg hcomment]
    cases htag : r.openingDollarTag options ch rest with
    | some tag => exact ⟨_, rfl, dollar_answered hpsql hbehind hcode hregular htag⟩
    | none =>
      have hstep : (r.toSplitter previous).plainStep x options ch rest =
          (r.toSplitter previous).ordinaryStep x options ch := by
        rw [toSplitter_code hcode, openerStep_none hcode hfits hregular hquote
          ((Bool.not_eq_true _).mp hhash) ((Bool.not_eq_true _).mp hcomment) htag]
        rfl
      by_cases hnewline : ch = '\n'
      · subst hnewline
        exact newline_answered hpsql hbehind hcode hstep hleading hregular
      · rw [if_neg (by simpa using hnewline)]
        refine ⟨_, rfl, ?_⟩
        apply ordinary_answered hpsql hbehind hcode.1 hcode.2.2.1 hstep hleading
        constructor
        · intro hinside
          rw [hcode.2.2.2] at hinside
          cases hinside
        · rintro _ rfl
          exact hregular
        · intro _
          exact if_neg (by simpa using hnewline)
        · rintro _ rfl hhead
          exact hcomment (by rw [hhead]; rfl)
        · rintro _ rfl later rfl
          by_contra hstarts
          exact hdash (by simpa using hstarts)

private theorem step_answered (hfits : r.PreviousFits options previous (ch :: rest))
    (hregular : r.stepIsRegular x options ch rest) :
    ∃ now, r.step x options ch rest = some now ∧
      Answered x options (r.toSplitter previous) ch rest now := by
  rw [stepIsRegular, Bool.and_eq_true] at hregular
  obtain ⟨hstart, hmode⟩ := hregular
  have hleading : leadingIsRegular options (r.current ++ [ch]) := by
    apply leadingIsRegular_of_isPrefix _ hstart
    exact ⟨rest, by simp⟩
  rw [step]
  cases hdollar : r.dollarQuoteTag with
  | some tag =>
    exact ⟨_, rfl, dollarQuotedStep_answered hpsql hbehind hdollar (hfits.tag tag hdollar)⟩
  | none =>
    rw [hdollar, Option.isSome_none, Bool.false_or] at hmode
    cases hline : r.inLineComment with
    | true => exact ⟨_, rfl, lineCommentStep_answered hpsql hbehind hdollar hline⟩
    | false =>
      rw [hline, if_neg (by simp)] at hmode
      by_cases hdepth : r.blockCommentDepth > 0
      · rw [if_pos hdepth, Bool.not_eq_true'] at hmode
        rw [if_pos hdepth]
        exact ⟨_, rfl, blockCommentStep_answered hpsql hbehind ⟨hdollar, hline, hdepth⟩ hfits hmode⟩
      · rw [if_neg hdepth] at hmode
        rw [if_neg hdepth]
        have hzero : r.blockCommentDepth = 0 := by omega
        cases hout : r.outsideQuotes with
        | true =>
          rw [hout, if_pos rfl] at hmode
          exact codeStep_answered hpsql hbehind ⟨hdollar, hline, hzero, hout⟩ hfits hleading hmode
        | false =>
          rw [hout, if_neg (by simp), Bool.not_eq_true'] at hmode
          refine ⟨_, if_neg (by simp), ?_⟩
          have hstep : (r.toSplitter previous).plainStep x options ch rest =
              (r.toSplitter previous).ordinaryStep x options ch :=
            plainStep_quoted hdollar hline hzero rfl hout
          apply ordinary_answered hpsql hbehind hdollar hzero hstep hleading
          refine ⟨fun _ => hmode, ?_, ?_, ?_, ?_⟩ <;>
          · intro houtside
            rw [hout] at houtside
            cases houtside

/-- The step condition on the state of the loop. -/
def StepIsRegular (x : Externals) (options : SqlParsingOptions) (r : Option RangeSplitter)
    (ch : Char) (rest : Text) : Prop :=
  r.any (fun r => r.stepIsRegular x options ch rest)
  deriving Decidable

omit hbehind in
private theorem runSimulation :
    (scanner x options).RunSimulation (SqlStatementSplitter.scanner x options)
      (StepIsRegular x options) (Related options) (SameStatements options) where
  nil := sameStatements_nil
  append h h' := h.append h'
  step := by
    rintro _ s ch rest ⟨r, rfl, hbehind, -, -, -, hrelated⟩ hregular
    obtain ⟨previous, rfl, hfits⟩ := hrelated (by simp)
    obtain ⟨now, hnow, s', statements, hruns, hsame, hrel⟩ :=
      step_answered hpsql hbehind hfits hregular
    rw [show (scanner x options).step (some r) ch rest = ⟨some now.state, now.out, now.skip⟩ from
      Scanner.fallible_step hnow]
    exact ⟨s', statements, hruns, hsame, hrel⟩

end

/-! ### The end of the input -/

section

variable {options : SqlParsingOptions} {r : RangeSplitter}

private theorem statementsOf_trim (stopOnError : Bool) (text : Text) :
    statementsOf options stopOnError (trim text) = statementsOf options stopOnError text := by
  rw [statementsOf, trim_trim, statementsOf]

private theorem statementsOf_nil (stopOnError : Bool) :
    statementsOf options stopOnError [] = [] := by
  rw [statementsOf, show hasExecutableSqlWithOptions (trim []) options = false
    from rfl, if_neg (by simp)]

private theorem untilLastLine_same (start : Nat) (stopOnError : Bool) {text : Text}
    (hleading : leadingIsRegular options text)
    (hline : (!text.contains '\n' || !(trim (lastLine text)).isEmpty)) :
    SameStatements options
      (if text.contains '\n' then pushStatementRange options start (throughLastNewline text)
        else [])
      (statementsOf options stopOnError (trim (beforeLastNewline (trim text)))) := by
  split
  · next hnewline =>
    have hlast : trim (lastLine text) ≠ [] := by
      rw [hnewline] at hline
      simpa using hline
    rw [trim_beforeLastNewline_trim hlast, statementsOf_trim]
    exact sameStatements_slice start stopOnError
      (leadingIsRegular_of_isPrefix (List.rdropWhile_prefix _ _) hleading)
  · next hnewline =>
    have hfree : '\n' ∉ trim text := by
      intro hmem
      exact hnewline (by simpa using mem_of_mem_trim hmem)
    rw [beforeLastNewline_eq_nil hfree, show trim [] = [] from rfl, statementsOf_nil]
    exact sameStatements_nil

private theorem finish_same {s : SqlStatementSplitter} (hbuffer : s.buffer = r.current)
    (hdelimiter : s.customDelimiter = r.customDelimiter)
    (hregular : r.finishIsRegular options) :
    SameStatements options (r.finish options) (s.finishBuffer options) := by
  simp only [finishIsRegular, Bool.and_eq_true] at hregular
  obtain ⟨hleading, hregular⟩ := hregular
  simp only [finish, finishBuffer, hbuffer, hdelimiter, statementsOf_nil, append_nil]
  split at hregular
  · next hcommand =>
    have hsame := untilLastLine_same r.start s.stopOnError hleading hregular
    split
    · exact hsame
    · next hno =>
      rw [Bool.or_eq_true] at hcommand
      rw [if_pos (hcommand.resolve_left hno), if_pos (hcommand.resolve_left hno)]
      exact hsame
  · next hcommand =>
    rw [Bool.or_eq_true, not_or] at hcommand
    rw [if_neg hcommand.1, if_neg hcommand.1, if_neg hcommand.2, if_neg hcommand.2]
    have hsame := sameStatements_slice r.start s.stopOnError hleading
    split
    · next delimiter hsome =>
      rw [hsome, Option.any_some, Bool.not_eq_true'] at hregular
      rw [hregular, if_neg (by simp)]
      exact hsame
    · exact hsame

end

end RangeSplitter

/-! ### The two splitters -/

section

variable (x : Externals) (options : SqlParsingOptions)

/-- Every step of the range splitter over the text and the end of its input are regular. -/
def RunIsRegular (sql : Text) : Prop :=
  (RangeSplitter.scanner x options).Along
      (fun r ch rest _ => RangeSplitter.StepIsRegular x options r ch rest) [] 0 (some {}) sql ∧
    ((RangeSplitter.scanner x options).scan 0 (some {}) sql).1.any
      (finishIsRegular options)
  deriving Decidable

/-- Over every text whose steps are regular the range splitter does not panic, and its texts are
the statements of the executor without their leading comments. -/
theorem splitSqlStatementRanges_eq_split
    (hpsql : options.profile.supportsPsqlControlCommands = false) (sql : Text)
    (hregular : RunIsRegular x options sql) :
    ∃ ranges, splitSqlStatementRangesWithOptions x sql options = some ranges ∧
      ranges.map (some ·.text) =
        (splitSqlStatementsWithOptions x sql options).map (executableSql options) := by
  obtain ⟨hsteps, hfinish⟩ := hregular
  have hstart : RangeSplitter.Related options (some {}) ({} : SqlStatementSplitter) sql := by
    refine ⟨{}, rfl, Nat.le_refl _, rfl, rfl, rfl, fun _ => ⟨none, rfl, ?_⟩⟩
    apply previousFits_of_ne <;> simp
  obtain ⟨hend, hout⟩ := (runSimulation hpsql).scan sql 0 _ _ hsteps hstart
  obtain ⟨r, hr, -, hbuffer, hdelimiter, hpending, -⟩ := hend
  rw [hr] at hfinish
  have hlast := finish_same hbuffer hdelimiter hfinish
  have hpush : ({} : SqlStatementSplitter).pushChunkWithControl x options sql =
      (SqlStatementSplitter.scanner x options).scan 0 {} sql := by
    cases sql <;> rfl
  rw [drop_zero] at hpending hlast hout
  refine ⟨((RangeSplitter.scanner x options).scan 0 (some {}) sql).2 ++ r.finish options, ?_, ?_⟩
  · simp only [splitSqlStatementRangesWithOptions, hr, Option.map_some]
  · simp only [splitSqlStatementsWithOptions, hpush, finishWithControl, hpending, map_map]
    exact hout.append hlast

end

/-- A script with custom delimiters, quoted semicolons and comments. -/
theorem splitSqlStatementRanges_eq_split_delimiters :
    RunIsRegular .ascii (SqlParsingOptions.forDatabaseType .mysql).withoutPsqlControl
        "select 1;\nDELIMITER $$\nselect ';'; -- x\nselect 2$$\nDELIMITER ;\n# x\nselect 3" ∧
      ∃ ranges, splitSqlStatementRangesWithOptions .ascii
          "select 1;\nDELIMITER $$\nselect ';'; -- x\nselect 2$$\nDELIMITER ;\n# x\nselect 3"
          (SqlParsingOptions.forDatabaseType .mysql).withoutPsqlControl = some ranges ∧
        ranges.map (some ·.text) = (splitSqlStatementsWithOptions .ascii
            "select 1;\nDELIMITER $$\nselect ';'; -- x\nselect 2$$\nDELIMITER ;\n# x\nselect 3"
            (SqlParsingOptions.forDatabaseType .mysql).withoutPsqlControl).map
          (executableSql (SqlParsingOptions.forDatabaseType .mysql).withoutPsqlControl) := by
  have hregular : RunIsRegular .ascii (forDatabaseType .mysql).withoutPsqlControl
      "select 1;\nDELIMITER $$\nselect ';'; -- x\nselect 2$$\nDELIMITER ;\n# x\nselect 3" := by
    decide +kernel
  exact ⟨hregular, splitSqlStatementRanges_eq_split _ _ rfl _ hregular⟩

/-- The executor does not take `$1$` for the tag of a dollar quote, the range splitter does: they
find three statements and two. -/
theorem splitSqlStatementRanges_ne_split_digitTag :
    (splitSqlStatementRangesWithOptions .ascii "select $1$;$1$; x"
        (SqlParsingOptions.forDatabaseType .postgres).withoutPsqlControl).map
        (·.map (some ·.text)) ≠
      some ((splitSqlStatementsWithOptions .ascii "select $1$;$1$; x"
        (SqlParsingOptions.forDatabaseType .postgres).withoutPsqlControl).map
        (executableSql (SqlParsingOptions.forDatabaseType .postgres).withoutPsqlControl)) := by
  decide +kernel

end DbxSpec.Sql
