import DbxSpec.Sql.Splitter

/-!
# Cutting a script into chunks

A step of the splitter looks ahead inside its chunk only. `cutHazard` lists the cuts at which
that changes the outcome: inside a dollar tag, between the two characters of a comment
opener, and between two dashes and what follows them. Away from those cuts a chunked run
and a run over the whole script emit the same statements.
-/

namespace DbxSpec.Sql.SqlStatementSplitter

open DbxSpec.Base List Option Nat

section

variable (x : Externals) (options : SqlParsingOptions) (s : SqlStatementSplitter) (ch : Char)
  (rest following : Text)

/-- Outside comments, literals and quoted identifiers. -/
def inCode : Bool :=
  s.dollarQuoteTag.isNone && !s.inLineComment && s.blockCommentDepth == 0 &&
    !s.oracleQQuote.isOpen && s.outsideQuotes

/-- The active custom delimiter ends with `ch` here. -/
def delimiterEndsAt : Bool :=
  s.customDelimiter.any (endsWith (s.append ch).buffer) && !(s.append ch).onDelimiterLine options

/-- The cut falls inside the tag that closes a dollar quote. -/
def cutsClosingTag : Bool :=
  s.dollarQuoteTag.any fun tag =>
    tag.isPrefixOf (ch :: (rest ++ following)) && !tag.isPrefixOf (ch :: rest)

/-- The cut falls inside the tag that opens a dollar quote. -/
def cutsOpeningTag : Bool :=
  s.inCode && (s.openingDollarTag options ch rest).isNone &&
    (s.openingDollarTag options ch (rest ++ following)).isSome

/-- The cut separates the `/` and the `*` of a comment opener, and either a `/` comes next, which
then closes the comment in the whole script only, or a custom delimiter ends at the `/`. -/
def cutsCommentOpener : Bool :=
  s.inCode && ch == '/' && rest.isEmpty && following.head? == some '*' &&
    (following.tail.head? == some '/' || s.delimiterEndsAt options ch)

/-- The cut follows two dashes that open no comment and end a custom delimiter. -/
def cutsDashes : Bool :=
  s.inCode && s.previous == some '-' && ch == '-' &&
    options.profile.requiresWhitespaceAfterLineCommentDashes && rest.isEmpty &&
    !dashDashStartsLineComment options.profile following.head? && s.delimiterEndsAt options ch

/-- The cuts at which a step does something else than in the whole script. `rest` is the rest of
the chunk and `following` the text of the chunks after it. -/
def cutHazard : Bool :=
  s.pendingPsqlCommand.isNone &&
    (s.cutsClosingTag ch rest following || s.cutsOpeningTag options ch rest following ||
      s.cutsCommentOpener options ch rest following || s.cutsDashes options ch rest following)

/-! ### Pending dashes -/

variable {s} {ch} {rest}

section

variable (h : s.pendingMysqlLineCommentDashes = false)

include h

private theorem endBlockIf_pending {complete : Bool} :
    (s.endBlockIf options complete).1.pendingMysqlLineCommentDashes = false := by
  unfold endBlockIf
  split
  · rfl
  · exact h

omit h in
private theorem sqlserverBatchEnd_pending (s : SqlStatementSplitter) :
    (s.sqlserverBatchEnd options).1.pendingMysqlLineCommentDashes = false := by
  unfold sqlserverBatchEnd
  dsimp only
  split_ifs <;> rfl

private theorem semicolonOutsidePlSql_pending :
    (s.semicolonOutsidePlSql x options).1.pendingMysqlLineCommentDashes = false := by
  unfold semicolonOutsidePlSql
  dsimp only
  split_ifs
  · exact endBlockIf_pending options h
  · exact endBlockIf_pending options h
  · exact sqlserverBatchEnd_pending options s
  · exact h
  · rfl

private theorem semicolon_pending :
    (s.semicolon x options).1.pendingMysqlLineCommentDashes = false := by
  unfold semicolon
  dsimp only
  split_ifs
  any_goals exact h
  · rfl
  · exact semicolonOutsidePlSql_pending x options h
  · refine endBlockIf_pending options ?_
    exact h
  · exact semicolonOutsidePlSql_pending x options h

private theorem matchChar_pending :
    (s.matchChar x options ch).1.pendingMysqlLineCommentDashes = false := by
  unfold matchChar
  split_ifs
  any_goals exact h
  exact semicolon_pending x options h

private theorem afterChar_pending :
    (s.afterChar options ch).1.pendingMysqlLineCommentDashes = false := by
  unfold afterChar
  split
  · split
    · next ended hended =>
      split at hended
      · obtain ⟨-, rfl⟩ | ⟨_, -, -, rfl⟩ := lineEnd_some hended
        · exact h
        · exact h
      · cases hended
    · unfold customDelimiterEnd
      split
      · split
        · rfl
        · exact h
      · exact h
  · exact h

private theorem ordinaryStep_pending :
    (s.ordinaryStep x options ch).state.pendingMysqlLineCommentDashes = false :=
  afterChar_pending options (matchChar_pending x options h)

private theorem plainStep_pending
    (hp : (s.plainStep x options ch rest).state.pendingMysqlLineCommentDashes) :
    rest = [] ∧ ch = '-' := by
  have hne : s.pendingMysqlLineCommentDashes ≠ true := by simp [h]
  revert hp
  fun_cases s.plainStep x options ch rest with
  | case1 =>
    unfold dollarQuotedStep
    split <;> exact (absurd · hne)
  | case2 | case4 => exact (absurd · hne)
  | case3 =>
    unfold blockCommentStep
    split_ifs <;> exact (absurd · hne)
  | case5 =>
    fun_cases s.openerStep x options ch rest with
    | case2 dashes _ hd =>
      simp only [dashes, Bool.and_eq_true, beq_iff_eq, List.isEmpty_iff] at hd
      exact fun _ => ⟨hd.2, hd.1.1.2⟩
    | case8 => simp [ordinaryStep_pending x options h]
    | _ => exact (absurd · hne)
  | case6 => simp [ordinaryStep_pending x options h]

omit h in
private theorem plainScan_pending (skip : Nat) {text : Text}
    (h : s.pendingMysqlLineCommentDashes = false)
    (hp : ((plainScanner x options).scan skip s text).1.pendingMysqlLineCommentDashes) :
    text.getLast? = some '-' := by
  induction text generalizing skip s with
  | nil => simp [Scanner.scan, h] at hp
  | cons ch rest ih =>
    have hlast : rest.getLast? = some '-' → (ch :: rest).getLast? = some '-' := by
      intro hr
      simp [getLast?_cons, hr]
    cases skip with
    | succ skip => exact hlast (ih skip h hp)
    | zero =>
      simp only [Scanner.scan] at hp
      rcases hs : (s.plainStep x options ch rest).state.pendingMysqlLineCommentDashes with _ | _
      · exact hlast (ih _ hs hp)
      obtain ⟨rfl, rfl⟩ := plainStep_pending x options h hs
      rfl

omit h in
private theorem resume_pending (s : SqlStatementSplitter) (first : Char) :
    (s.resume options first).pendingMysqlLineCommentDashes = false := by
  unfold resume
  split
  · rfl
  · next h => simpa using h

private theorem finishPsqlCommand_pending {command : Text} :
    (s.finishPsqlCommand x options (command ++ ['\n'])).1.pendingMysqlLineCommentDashes =
      false := by
  unfold finishPsqlCommand
  split
  · exact h
  · rcases hc : command ++ ['\n'] with _ | ⟨first, rest⟩
    · simp at hc
    by_contra hp
    have hlast := plainScan_pending x options.withoutPsqlControl 0
      (resume_pending options.withoutPsqlControl { s with pendingPsqlCommand := none } first)
      ((Bool.not_eq_false _).mp hp)
    rw [← hc] at hlast
    simp at hlast

private theorem step_pending (hp : (s.step x options ch rest).state.pendingMysqlLineCommentDashes) :
    rest = [] ∧ ch = '-' := by
  have hne : s.pendingMysqlLineCommentDashes ≠ true := by simp [h]
  revert hp
  fun_cases s.step x options ch rest with
  | case1 command _ hn finished =>
    obtain rfl : ch = '\n' := by simpa using hn
    simp [finished, finishPsqlCommand_pending x options h]
  | case2 | case3 => exact (absurd · hne)
  | case4 => exact plainStep_pending x options h

end

/-! ### How far a step reads -/

private theorem openingDollarTag_isPrefix {tag : Text}
    (h : s.openingDollarTag options ch rest = some tag) : tag <+: ch :: rest := by
  unfold openingDollarTag at h
  split at h
  · exact dollarQuoteTagAt_isPrefix h
  · cases h

private theorem tag_length_sub_le {tag : Text} (h : tag <+: ch :: rest) :
    tag.length - 1 ≤ rest.length := by
  have := h.length_le
  simp only [length_cons] at this
  omega

private theorem step_skip_le (s : SqlStatementSplitter) (ch : Char) (rest : Text) :
    (s.step x options ch rest).skip ≤ rest.length := by
  fun_cases s.step x options ch rest with
  | case1 | case2 | case3 => exact zero_le _
  | case4 =>
    fun_cases s.plainStep x options ch rest with
    | case1 =>
      unfold dollarQuotedStep
      split
      · next hp => exact tag_length_sub_le (List.isPrefixOf_iff_prefix.mp hp)
      · exact zero_le _
    | case2 | case4 | case6 => exact zero_le _
    | case3 =>
      unfold blockCommentStep
      split_ifs <;> exact zero_le _
    | case5 =>
      fun_cases s.openerStep x options ch rest with
      | case7 _ _ _ _ _ _ _ tag htag =>
        exact tag_length_sub_le (openingDollarTag_isPrefix options htag)
      | _ => exact zero_le _

/-! ### One step with and without the text that follows -/

variable {following}

private theorem ordinaryStep_append (hquotes : s.outsideQuotes)
    (hdollar : s.dollarQuoteTag = none) (hch : ch = '-' ∨ ch = '/')
    (hd : s.delimiterEndsAt options ch = false) :
    s.ordinaryStep x options ch = silently (s.pushChar ch) := by
  have hmatch : s.matchChar x options ch = (s.append ch, []) := by
    rcases hch with rfl | rfl <;> simp [matchChar]
  have hquotes' : (s.append ch).outsideQuotes := hquotes
  have hdollar' : (s.append ch).dollarQuoteTag = none := hdollar
  have hline : (ch == '\n') = false := by rcases hch with rfl | rfl <;> rfl
  have hend : (s.append ch).customDelimiterEnd options = (s.append ch, []) := by
    unfold customDelimiterEnd
    split
    · next delimiter hdel =>
      have hdel' : s.customDelimiter = some delimiter := hdel
      simp only [delimiterEndsAt, hdel', any_some] at hd
      simp [hd]
    · rfl
  have hafter : (s.append ch).afterChar options ch = (s.pushChar ch, []) := by
    have hguard : ((s.append ch).outsideQuotes && (s.append ch).dollarQuoteTag.isNone) := by
      simp [hquotes', hdollar']
    unfold afterChar
    rw [if_pos hguard]
    simp only [hline, Bool.false_eq_true, if_false, hend]
    rfl
  simp only [ordinaryStep, hmatch, hafter, append_nil]
  rfl

private theorem openingDollarTag_append (hcode : s.inCode)
    (h : s.cutsOpeningTag options ch rest following = false) :
    s.openingDollarTag options ch (rest ++ following) = s.openingDollarTag options ch rest := by
  cases htag : s.openingDollarTag options ch rest with
  | none =>
    simpa [cutsOpeningTag, hcode, htag] using h
  | some tag =>
    unfold openingDollarTag at htag ⊢
    split at htag
    · next hc =>
      rw [if_pos hc]
      exact dollarQuoteTagAt_append htag following
    · cases htag

/-- The chunk ends with the `/` of a comment opener: only the whole run has opened it. -/
structure OpensLater (s w : SqlStatementSplitter) (remaining : Text) : Prop where
  code : s.inCode
  psql : s.pendingPsqlCommand = none
  pending : s.pendingMysqlLineCommentDashes = false
  previous : s.previous = some '/'
  whole : w = { s with blockCommentDepth := 1, previous := none }
  remaining : ∃ later, remaining = '*' :: later ∧ later.head? ≠ some '/'

/-- One character later both runs are inside the comment and differ in the previous character. -/
structure OpenedLate (s w : SqlStatementSplitter) (remaining : Text) : Prop where
  depth : s.blockCommentDepth = 1
  dollar : s.dollarQuoteTag = none
  line : s.inLineComment = false
  psql : s.pendingPsqlCommand = none
  pending : s.pendingMysqlLineCommentDashes = false
  previous : s.previous = none
  whole : w = { s with previous := some '*' }
  remaining : remaining.head? ≠ some '/'

/-- The states of the two runs at a character of a chunk. -/
inductive Within (s w : SqlStatementSplitter) (remaining : Text) : Prop
  | same (eq : s = w) (pending : s.pendingMysqlLineCommentDashes = false)
  | opensLater (h : OpensLater s w remaining)
  | openedLate (h : OpenedLate s w remaining)

/-- The states of the two runs at the end of a chunk. -/
inductive Between (s w : SqlStatementSplitter) (remaining : Text) : Prop
  | same (eq : s = w) (pending : remaining ≠ [] → s.pendingMysqlLineCommentDashes = false)
  | opensLater (h : OpensLater s w remaining)
  | openedLate (h : OpenedLate s w remaining)
  | dashes (first : Char) (later : Text) (remaining_eq : remaining = first :: later)
      (whole : w = s.resume options first)

/-- How the step at the end of a chunk may differ from the one that sees more text. -/
inductive StepAgrees (s : SqlStatementSplitter) (ch : Char) (rest following : Text) : Prop
  | same (h : s.step x options ch rest = s.step x options ch (rest ++ following))
  | opensLater (s' w' : SqlStatementSplitter) (hrest : rest = [])
      (hs : s.step x options ch [] = silently s') (hw : s.step x options ch following = silently w')
      (h : OpensLater s' w' following)
  | dashes (s' : SqlStatementSplitter) (first : Char) (later : Text) (hrest : rest = [])
      (hfollowing : following = first :: later) (hs : s.step x options ch [] = silently s')
      (hw : s.step x options ch following = silently (s'.resume options first))

/-- Nothing is open. -/
theorem inCode_iff (s : SqlStatementSplitter) :
    s.inCode ↔ s.dollarQuoteTag = none ∧ s.inLineComment = false ∧
      s.blockCommentDepth = 0 ∧ s.oracleQQuote.isOpen = false ∧ s.outsideQuotes := by
  simp [inCode, and_assoc]

/-- In code a character opens something or is ordinary. -/
theorem plainStep_inCode (hcode : s.inCode) (ch : Char) (rest : Text) :
    s.plainStep x options ch rest =
      (s.openerStep x options ch rest).getD (s.ordinaryStep x options ch) := by
  obtain ⟨hdollar, hline, hdepth, hq, hquotes⟩ := (inCode_iff s).mp hcode
  simp [plainStep, hdollar, hline, hdepth, hq, hquotes]

private theorem openerStep_append {next : Char} (hcode : s.inCode)
    (h : s.cutsOpeningTag options ch (next :: rest) following = false) :
    s.openerStep x options ch (next :: (rest ++ following)) =
      s.openerStep x options ch (next :: rest) := by
  have htag := openingDollarTag_append options hcode h
  rw [cons_append] at htag
  unfold openerStep
  rw [htag]
  rfl

private theorem plainStep_notInCode (hcode : s.inCode = false)
    (h : s.cutsClosingTag ch rest following = false) :
    s.plainStep x options ch rest = s.plainStep x options ch (rest ++ following) := by
  unfold plainStep
  split
  · next tag htag =>
    unfold dollarQuotedStep
    simp only [cutsClosingTag, htag, any_some, Bool.and_eq_false_imp, Bool.not_eq_false'] at h
    by_cases hp : tag.isPrefixOf (ch :: rest)
    · have hlong : tag.isPrefixOf (ch :: (rest ++ following)) := by
        rw [List.isPrefixOf_iff_prefix] at hp ⊢
        exact hp.trans ⟨following, by simp⟩
      rw [if_pos hp, if_pos hlong]
    · have hlong : ¬tag.isPrefixOf (ch :: (rest ++ following)) := fun hl => hp (h hl)
      rw [if_neg hp, if_neg hlong]
  · next hdollar =>
    split_ifs with hline hdepth hq hquotes
    · rfl
    · rfl
    · rfl
    · have : s.inCode := by
        refine (inCode_iff s).mpr ⟨hdollar, by simpa using hline, by omega, by simpa using hq,
          hquotes⟩
      rw [hcode] at this
      cases this
    · rfl

private theorem openingDollarTag_of_ne (h : ch ≠ '$') :
    s.openingDollarTag options ch rest = none := by
  unfold openingDollarTag
  split
  · unfold dollarQuoteTagAt
    split
    · next heq => exact absurd (cons.inj heq).1 h
    · next heq => exact absurd (cons.inj heq).1 h
    · rfl
  · rfl

private theorem plainStep_dashes {first : Char} {later : Text} (hcode : s.inCode)
    (hpending : s.pendingMysqlLineCommentDashes = false) (hprev : s.previous = some '-')
    (hreq : options.profile.requiresWhitespaceAfterLineCommentDashes)
    (hd : s.cutsDashes options '-' [] (first :: later) = false) :
    s.plainStep x options '-' [] =
        silently { s.pushChar '-' with pendingMysqlLineCommentDashes := true } ∧
      s.plainStep x options '-' (first :: later) = silently (resume options
          { s.pushChar '-' with pendingMysqlLineCommentDashes := true } first) := by
  obtain ⟨hdollar, hline, -, -, hquotes⟩ := (inCode_iff s).mp hcode
  rw [plainStep_inCode x options hcode, plainStep_inCode x options hcode]
  refine ⟨by simp [openerStep, hprev, hreq], ?_⟩
  cases hdd : dashDashStartsLineComment options.profile (some first) with
  | true => simp [openerStep, hprev, hdd, resume, silently, pushChar, hpending]
  | false =>
    have hend : s.delimiterEndsAt options '-' = false := by
      simpa [cutsDashes, hcode, hprev, hreq, hdd] using hd
    have hnone : s.openerStep x options '-' (first :: later) = none := by
      simp [openerStep, hprev, hdd, openingDollarTag_of_ne]
    rw [hnone, getD_none, ordinaryStep_append x options hquotes hdollar (.inl rfl) hend]
    simp [resume, silently, pushChar, hpending, hline, hdd]

private theorem plainStep_slash {later : Text} (hcode : s.inCode)
    (hd : s.cutsCommentOpener options '/' [] ('*' :: later) = false) :
    s.plainStep x options '/' [] = silently (s.pushChar '/') ∧
      s.plainStep x options '/' ('*' :: later) =
        silently { s.pushChar '/' with blockCommentDepth := 1, previous := none } ∧
      later.head? ≠ some '/' := by
  obtain ⟨hdollar, -, -, -, hquotes⟩ := (inCode_iff s).mp hcode
  have hboth : later.head? ≠ some '/' ∧ s.delimiterEndsAt options '/' = false := by
    simpa [cutsCommentOpener, hcode] using hd
  rw [plainStep_inCode x options hcode, plainStep_inCode x options hcode]
  refine ⟨?_, by simp [openerStep], hboth.1⟩
  have hnone : s.openerStep x options '/' [] = none := by
    simp [openerStep, openingDollarTag_of_ne]
  rw [hnone, getD_none, ordinaryStep_append x options hquotes hdollar (.inr rfl) hboth.2]

private theorem openerStep_last {first : Char} {later : Text} (hcode : s.inCode)
    (htag : s.cutsOpeningTag options ch [] (first :: later) = false)
    (hdash : ¬(s.previous = some '-' ∧ ch = '-' ∧
      options.profile.requiresWhitespaceAfterLineCommentDashes))
    (hslash : ¬(ch = '/' ∧ first = '*')) :
    s.openerStep x options ch (first :: later) = s.openerStep x options ch [] := by
  have htag' := openingDollarTag_append options hcode htag
  rw [nil_append] at htag'
  have hopen : (ch == '/' && (first :: later).head? == some '*') =
      (ch == '/' && ([] : Text).head? == some '*') := by
    simpa using fun hc => (not_and.mp hslash) hc
  have hdashes : (s.previous == some '-' && ch == '-' &&
        options.profile.requiresWhitespaceAfterLineCommentDashes) = false := by
    rw [Bool.eq_false_iff]
    intro hall
    simp only [Bool.and_eq_true, beq_iff_eq] at hall
    exact hdash ⟨hall.1.1, hall.1.2, hall.2⟩
  have hcomment : (s.previous == some '-' && ch == '-' &&
        dashDashStartsLineComment options.profile (first :: later).head?) =
      (s.previous == some '-' && ch == '-' &&
        dashDashStartsLineComment options.profile ([] : Text).head?) := by
    cases hreq : options.profile.requiresWhitespaceAfterLineCommentDashes with
    | true =>
      rw [hreq, Bool.and_true] at hdashes
      simp [hdashes]
    | false => simp [dashDashStartsLineComment, hreq]
  unfold openerStep
  dsimp only
  rw [htag', hopen, hcomment, hdashes, Bool.false_and, Bool.false_and]

private theorem step_agrees (hpending : s.pendingMysqlLineCommentDashes = false)
    (h : s.cutHazard options ch rest following = false) :
    StepAgrees x options s ch rest following := by
  cases hpsql : s.pendingPsqlCommand with
  | some command => exact .same (by simp only [step, hpsql])
  | none =>
    simp only [cutHazard, hpsql, isNone_none, Bool.true_and, Bool.or_eq_false_iff] at h
    obtain ⟨⟨⟨hclosing, hopening⟩, hcomment⟩, hdashes⟩ := h
    cases hstarts : s.startsPsqlCommand options ch with
    | true => exact .same (by simp only [step, hpsql, hstarts, if_true])
    | false =>
      have hstep : ∀ more, s.step x options ch more = s.plainStep x options ch more := by
        simp [step, hpsql, hstarts]
      cases hcode : s.inCode with
      | false =>
        refine .same ?_
        rw [hstep, hstep]
        exact plainStep_notInCode x options hcode hclosing
      | true =>
        cases rest with
        | cons next rest =>
          refine .same ?_
          rw [hstep, hstep, plainStep_inCode x options hcode, plainStep_inCode x options hcode,
            cons_append, openerStep_append x options hcode hopening]
        | nil =>
          rcases following with _ | ⟨first, later⟩
          · exact .same rfl
          by_cases hd : s.previous = some '-' ∧ ch = '-' ∧
              options.profile.requiresWhitespaceAfterLineCommentDashes
          · obtain ⟨hprev, rfl, hreq⟩ := hd
            obtain ⟨hs, hw⟩ := plainStep_dashes x options hcode hpending hprev hreq hdashes
            exact .dashes _ first later rfl rfl ((hstep _).trans hs) ((hstep _).trans hw)
          · by_cases hsl : ch = '/' ∧ first = '*'
            · obtain ⟨rfl, rfl⟩ := hsl
              obtain ⟨hs, hw, hnext⟩ := plainStep_slash x options hcode hcomment
              exact .opensLater _ _ rfl ((hstep _).trans hs) ((hstep _).trans hw)
                ⟨hcode, hpsql, hpending, rfl, rfl, later, rfl, hnext⟩
            · refine .same ?_
              rw [hstep, hstep, plainStep_inCode x options hcode,
                plainStep_inCode x options hcode, nil_append,
                openerStep_last x options hcode hopening hd hsl]

/-! ### Whole runs -/

variable {w : SqlStatementSplitter}

private theorem step_opensLater (h : OpensLater s w (ch :: (rest ++ following))) :
    ∃ s' w', s.step x options ch rest = silently s' ∧
      w.step x options ch (rest ++ following) = silently w' ∧
      OpenedLate s' w' (rest ++ following) := by
  obtain ⟨hcode, hpsql, hpending, hprev, rfl, later, hrem, hnext⟩ := h
  obtain ⟨rfl, rfl⟩ := cons.inj hrem
  obtain ⟨hdollar, hline, -, -, -⟩ := (inCode_iff s).mp hcode
  refine ⟨{ s.pushChar '*' with blockCommentDepth := 1, previous := none },
    { s.pushChar '*' with blockCommentDepth := 1, previous := some '*' }, ?_, ?_, ?_⟩
  · simp [step, hpsql, startsPsqlCommand, plainStep_inCode x options hcode, openerStep, hprev]
  · simp [step, hpsql, startsPsqlCommand, plainStep, hdollar, hline, blockCommentStep, silently,
      pushChar]
  · exact ⟨rfl, hdollar, hline, hpsql, hpending, rfl, rfl, hnext⟩

private theorem step_openedLate (h : OpenedLate s w (ch :: (rest ++ following))) :
    s.step x options ch rest = silently (s.pushChar ch) ∧
      w.step x options ch (rest ++ following) = silently (s.pushChar ch) := by
  obtain ⟨hdepth, hdollar, hline, hpsql, -, hprev, rfl, hnext⟩ := h
  have hch : ch ≠ '/' := by simpa using hnext
  constructor
  · simp [step, hpsql, startsPsqlCommand, plainStep, hdollar, hline, hdepth, blockCommentStep,
      hprev]
  · simp [step, hpsql, startsPsqlCommand, plainStep, hdollar, hline, hdepth, blockCommentStep,
      silently, pushChar, hch]

/-- What a step does to two related states. -/
structure Matched (s w : Step) (rest following : Text) : Prop where
  out : s.out = w.out
  skip : s.skip = w.skip
  inside : rest.drop s.skip ≠ [] → Within s.state w.state (rest.drop s.skip ++ following)
  atEnd : rest.drop s.skip = [] → Between options s.state w.state following

private theorem within_step (h : Within s w (ch :: (rest ++ following)))
    (hsafe : s.cutHazard options ch rest following = false) :
    Matched options (s.step x options ch rest) (w.step x options ch (rest ++ following)) rest
      following := by
  cases h with
  | same heq hpending =>
    subst heq
    cases step_agrees x options hpending hsafe with
    | same heq =>
      refine ⟨by rw [heq], by rw [heq], fun hmore => ?_, fun _ => ?_⟩
      · refine .same (by rw [heq]) ?_
        by_contra hp
        obtain ⟨rfl, -⟩ := step_pending x options hpending ((Bool.not_eq_false _).mp hp)
        simp at hmore
      · refine .same (by rw [heq]) fun hmore => ?_
        rw [heq]
        by_contra hp
        have hnil := (step_pending x options hpending ((Bool.not_eq_false _).mp hp)).1
        exact hmore (append_eq_nil_iff.mp hnil).2
    | opensLater s' w' hrest hs hw hlater =>
      subst hrest
      rw [nil_append, hs, hw]
      exact ⟨rfl, rfl, fun hmore => absurd rfl hmore, fun _ => .opensLater hlater⟩
    | dashes s' first later hrest hfollowing hs hw =>
      subst hrest
      rw [nil_append, hs, hw]
      exact ⟨rfl, rfl, fun hmore => absurd rfl hmore, fun _ => .dashes first later hfollowing rfl⟩
  | opensLater h =>
    obtain ⟨s', w', hs, hw, hlate⟩ := step_opensLater x options h
    rw [hs, hw]
    refine ⟨rfl, rfl, fun _ => .openedLate hlate, fun hend => .openedLate ?_⟩
    obtain rfl : rest = [] := hend
    exact hlate
  | openedLate h =>
    obtain ⟨hs, hw⟩ := step_openedLate x options h
    rw [hs, hw]
    exact ⟨rfl, rfl, fun _ => .same rfl h.pending, fun _ => .same rfl fun _ => h.pending⟩

private theorem resume_of_not_pending (first : Char) (h : s.pendingMysqlLineCommentDashes = false) :
    s.resume options first = s := by
  simp [resume, h]

private theorem chunkSimulation : (scanner x options).ChunkSimulation
      (fun s ch rest following => s.cutHazard options ch rest following = false)
      Within (Between options) where
  start := by
    intro s w first following h
    change Within (s.resume options first) w (first :: following)
    cases h with
    | same heq hpending =>
      have hp := hpending (by simp)
      rw [resume_of_not_pending options first hp]
      exact .same heq hp
    | opensLater h =>
      rw [resume_of_not_pending options first h.pending]
      exact .opensLater h
    | openedLate h =>
      rw [resume_of_not_pending options first h.pending]
      exact .openedLate h
    | dashes first' later hrem hw =>
      obtain ⟨rfl, -⟩ := cons.inj hrem
      exact .same hw.symm (resume_pending options s first)
  out h hsafe := (within_step x options h hsafe).out
  skip h hsafe := (within_step x options h hsafe).skip
  skip_le := step_skip_le x options
  inside h hsafe := (within_step x options h hsafe).inside
  atEnd h hsafe := (within_step x options h hsafe).atEnd

private theorem finishWithControl_between (h : Between options s w []) :
    s.finishWithControl x options = w.finishWithControl x options := by
  cases h with
  | same heq _ => rw [heq]
  | opensLater h =>
    obtain ⟨later, hrem, -⟩ := h.remaining
    cases hrem
  | openedLate h =>
    obtain ⟨-, -, -, hpsql, -, -, rfl, -⟩ := h
    simp only [finishWithControl, hpsql]
    rfl
  | dashes first later hrem _ => cases hrem

/-- A fresh splitter fed with the chunks and finished. -/
def runChunks (chunks : List Text) : List SqlStatementWithControl :=
  let pushed := (scanner x options).pushAll {} chunks
  pushed.2 ++ pushed.1.finishWithControl x options

private theorem push_fresh (text : Text) :
    (scanner x options).push {} text = (scanner x options).scan 0 {} text := by
  cases text <;> rfl

/-- No cut of the run falls where the splitter would have to look into the next chunk. -/
def CutsAreSafe (chunks : List Text) : Prop :=
  (scanner x options).AlongAll
    (fun s ch rest following => s.cutHazard options ch rest following = false) {} chunks
  deriving Decidable

/-- In every run all of whose steps are away from a cut hazard, the chunks give the statements
and the error handling of the script as a whole. -/
theorem runChunks_eq_whole (chunks : List Text) (h : CutsAreSafe x options chunks) :
    runChunks x options chunks = runChunks x options [chunks.flatten] := by
  have hstart : Between options {} {} chunks.flatten := .same rfl fun _ => rfl
  obtain ⟨hend, hout⟩ := (chunkSimulation x options).pushAll chunks {} {} h hstart
  simp only [runChunks, Scanner.pushAll, push_fresh, append_nil]
  rw [hout, finishWithControl_between x options hend]

end

/-- A cut in the text of a dollar quote and one between the two dashes of a comment are
harmless. -/
theorem runChunks_eq_whole_dollarBody : CutsAreSafe .ascii (.forDatabaseType .postgres)
        ["select $a$;", "$a$; -", "- x"] ∧
      runChunks .ascii (.forDatabaseType .postgres) ["select $a$;", "$a$; -", "- x"] =
      runChunks .ascii (.forDatabaseType .postgres)
        [["select $a$;".toList, "$a$; -".toList, "- x".toList].flatten] := by
  have hsafe : CutsAreSafe .ascii (.forDatabaseType .postgres)
      ["select $a$;", "$a$; -", "- x"] := by decide +kernel
  exact ⟨hsafe, runChunks_eq_whole _ _ _ hsafe⟩

/-- A cut inside the closing tag `$a$` loses the end of the dollar quote, and the two statements
arrive as one. -/
theorem runChunks_ne_whole_closingTag : runChunks .ascii (.forDatabaseType .postgres)
        ["select $a$;$a", "$; select 2"] ≠
      runChunks .ascii (.forDatabaseType .postgres)
        [["select $a$;$a".toList, "$; select 2".toList].flatten] := by
  decide +kernel

end DbxSpec.Sql.SqlStatementSplitter
