import DbxSpec.Sql.Splitter

/-!
# What becomes of the input

Every character of a script ends up in an emitted statement or in a stretch that may be
dropped: text with nothing to execute, a statement delimiter, a `DELIMITER` command or a
`/`. The segments of a run are collected in input order, with the delimiter that is active
at each of them, so that nothing is lost, duplicated or reordered.
-/

namespace DbxSpec.Sql

open DbxSpec.Base List SqlStatementWithControl SqlParsingOptions

/-- A stretch of the input and what the splitter made of it. -/
inductive Segment
  | statement (text : Text)
  | idle (text : Text)
  | delimiter (text : Text)
  | delimiterCommand (text : Text)
  | slash (text : Text)

namespace Segment

/-- The text of a segment. -/
def text : Segment → Text
  | .statement text | .idle text | .delimiter text | .delimiterCommand text | .slash text => text

/-- The statement a segment stands for. -/
def statement? : Segment → Option Text
  | .statement text => some text
  | _ => none

/-- The custom delimiter after a segment. -/
def activeAfter (active : Option Text) : Segment → Option Text
  | .delimiterCommand text =>
    match parseDelimiterCommand (trim text) with
    | some new => if new = [';'] then none else some new
    | none => active
  | _ => active

/-- Why a segment may stand where it does. `Line` is what a command has to meet with the input
before and after it. -/
def Accounted (options : SqlParsingOptions) (Line : Text → Text → Prop) (active : Option Text)
    (before after : Text) : Segment → Prop
  | .statement _ => True
  | .idle text => hasExecutableSqlWithOptions text options = false
  | .delimiter text => text = active.getD [';']
  | .delimiterCommand text =>
    (parseDelimiterCommand (trim text)).isSome ∧ '\n' ∉ text ∧ Line before after
  | .slash text => trim text = ['/'] ∧ '\n' ∉ text ∧ Line before after

end Segment

/-- The input that a list of segments makes up. -/
def textOf (segments : List Segment) : Text := segments.flatMap Segment.text

/-- The statements among the segments. -/
def statementsIn (segments : List Segment) : List Text := segments.filterMap Segment.statement?

/-- The custom delimiter after a list of segments. -/
def activeAfterAll (active : Option Text) (segments : List Segment) : Option Text :=
  segments.foldl Segment.activeAfter active

/-- Every segment is accounted for, given the delimiter active at it and the input around it. -/
def Accounts (options : SqlParsingOptions) (Line : Text → Text → Prop) :
    Option Text → Text → List Segment → Prop
  | _, _, [] => True
  | active, before, segment :: later =>
    segment.Accounted options Line active before (textOf later) ∧
      Accounts options Line (segment.activeAfter active) (before ++ segment.text) later

/-- The statements are disjoint parts of the input in input order, and the rest of the input is
accounted for. -/
def Covered (options : SqlParsingOptions) (Line : Text → Text → Prop) (input : Text)
    (statements : List Text) : Prop :=
  ∃ segments, textOf segments = input ∧ statementsIn segments = statements ∧
    Accounts options Line none [] segments

/-- The command is alone on its line of the input. -/
def StandsAlone (before after : Text) : Prop :=
  (lastLine before).all isWhitespace ∧ (after.takeWhile (· != '\n')).all isWhitespace

/-- Nothing but white space follows the command on its line. -/
def EndsLine (_before after : Text) : Prop := (after.takeWhile (· != '\n')).all isWhitespace

/-- The line feed comes right after the command. -/
def NextIsNewline (_before after : Text) : Prop := after.head? = some '\n'

variable {options : SqlParsingOptions} {Line : Text → Text → Prop} {active : Option Text}
  {before : Text} {segment : Segment} {later : List Segment}

private theorem endsLine_of_nextIsNewline (before before' after more : Text)
    (h : NextIsNewline before after) : EndsLine before' (after ++ more) := by
  obtain ⟨rest, rfl⟩ : ∃ rest, after = '\n' :: rest := head?_eq_some_iff.mp h
  simp [EndsLine]

private theorem nextIsNewline_append (before before' after more : Text)
    (h : NextIsNewline before after) : NextIsNewline before' (after ++ more) := by
  obtain ⟨rest, rfl⟩ : ∃ rest, after = '\n' :: rest := head?_eq_some_iff.mp h
  rfl

@[simp] private theorem textOf_append (a b : List Segment) :
    textOf (a ++ b) = textOf a ++ textOf b := by
  simp [textOf]

@[simp] private theorem statementsIn_append (a b : List Segment) :
    statementsIn (a ++ b) = statementsIn a ++ statementsIn b := by
  simp [statementsIn]

private theorem activeAfterAll_append (active : Option Text) (a b : List Segment) :
    activeAfterAll active (a ++ b) = activeAfterAll (activeAfterAll active a) b := by
  simp [activeAfterAll]

private theorem Segment.Accounted.mono {Line' : Text → Text → Prop} {before' after after' : Text}
    (hline : Line before after → Line' before' after')
    (h : segment.Accounted options Line active before after) :
    segment.Accounted options Line' active before' after' := by
  cases segment with
  | statement text => trivial
  | idle text | delimiter text => exact h
  | delimiterCommand text | slash text => exact ⟨h.1, h.2.1, hline h.2.2⟩

private theorem Accounts.append {Line' : Text → Text → Prop}
    (hline : ∀ before before' after more, Line before after → Line' before' (after ++ more))
    {before' : Text} {segments : List Segment} (h : Accounts options Line active before segments)
    (hlater : Accounts options Line' (activeAfterAll active segments) (before' ++ textOf segments)
      later) : Accounts options Line' active before' (segments ++ later) := by
  induction segments generalizing active before before' with
  | nil => simpa [textOf, activeAfterAll] using hlater
  | cons segment segments ih =>
    obtain ⟨hhead, htail⟩ := h
    have hhead' : segment.Accounted options Line' active before' (textOf (segments ++ later)) := by
      rw [textOf_append]
      exact hhead.mono (hline _ _ _ _)
    refine ⟨hhead', ih htail ?_⟩
    simpa [textOf, activeAfterAll, append_assoc] using hlater

/-! ### Stretches -/

/-- A stretch of the input that is dealt with, from one active delimiter to the next. -/
def Stretch (options : SqlParsingOptions) (active : Option Text) (text : Text)
    (statements : List Text) (active' : Option Text) : Prop :=
  ∃ segments, textOf segments = text ∧ statementsIn segments = statements ∧
    Accounts options NextIsNewline active [] segments ∧ activeAfterAll active segments = active'

namespace Stretch

variable {options : SqlParsingOptions} {active active' active'' : Option Text}
  {text text' : Text} {statements statements' : List Text}

private theorem nil : Stretch options active [] [] active := ⟨[], rfl, rfl, trivial, rfl⟩

private theorem trans (h : Stretch options active text statements active')
    (h' : Stretch options active' text' statements' active'') :
    Stretch options active (text ++ text') (statements ++ statements') active'' := by
  obtain ⟨segments, rfl, rfl, hacc, rfl⟩ := h
  obtain ⟨later, rfl, rfl, hacc', rfl⟩ := h'
  refine ⟨segments ++ later, by simp, by simp, ?_, activeAfterAll_append _ _ _⟩
  refine hacc.append nextIsNewline_append ?_
  have hmoved : Accounts options NextIsNewline (activeAfterAll active segments)
      ([] ++ textOf segments) (later ++ []) := hacc'.append nextIsNewline_append trivial
  rwa [append_nil] at hmoved

private theorem idle (h : hasExecutableSqlWithOptions text options = false) :
    Stretch options active text [] active :=
  ⟨[.idle text], by simp [textOf, Segment.text], rfl, ⟨h, trivial⟩, rfl⟩

private theorem whitespace (h : ∀ c ∈ text, isWhitespace c) :
    Stretch options active text [] active :=
  idle (hasExecutableSqlWithOptions_whitespace options h)

private theorem statement : Stretch options active text [text] active :=
  ⟨[.statement text], by simp [textOf, Segment.text], rfl, ⟨trivial, trivial⟩, rfl⟩

private theorem delimiter (h : text = active.getD [';']) : Stretch options active text [] active :=
  ⟨[.delimiter text], by simp [textOf, Segment.text], rfl, ⟨h, trivial⟩, rfl⟩

private theorem statementsOf (stopOnError : Bool) (text : Text) : Stretch options active text
      ((SqlStatementSplitter.statementsOf options stopOnError text).map sql) active := by
  obtain ⟨lead, trail, htext, hlead, htrail⟩ := trim_decompose text
  have hmiddle : Stretch options active (trim text)
      ((SqlStatementSplitter.statementsOf options stopOnError text).map sql) active := by
    unfold SqlStatementSplitter.statementsOf
    split
    · exact statement
    · next h => exact idle (by simpa using h)
  have hall := ((whitespace hlead).trans hmiddle).trans (whitespace htrail)
  rw [← htext] at hall
  simpa using hall

private theorem delimited (stopOnError : Bool) (text : Text) :
    Stretch options active (text ++ active.getD [';'])
      ((SqlStatementSplitter.statementsOf options stopOnError text).map sql) active := by
  simpa using (statementsOf stopOnError text).trans (Stretch.delimiter rfl)

end Stretch

/-- The last stretch of the input: it may end with a command that no line feed follows. -/
def LastStretch (options : SqlParsingOptions) (active : Option Text) (text : Text)
    (statements : List Text) : Prop :=
  ∃ segments, textOf segments = text ∧ statementsIn segments = statements ∧
    ∀ before, Accounts options EndsLine active before segments

private theorem Stretch.last {active' : Option Text} {text text' : Text}
    {statements statements' : List Text} (h : Stretch options active text statements active')
    (h' : LastStretch options active' text' statements') :
    LastStretch options active (text ++ text') (statements ++ statements') := by
  obtain ⟨segments, rfl, rfl, hacc, rfl⟩ := h
  obtain ⟨later, rfl, rfl, hacc'⟩ := h'
  exact ⟨segments ++ later, by simp, by simp,
    fun before => hacc.append endsLine_of_nextIsNewline (hacc' _)⟩

private theorem LastStretch.nil : LastStretch options active [] [] :=
  ⟨[], rfl, rfl, fun _ => trivial⟩

private theorem LastStretch.command {trail : Text} (segment : Segment)
    (haccounted : ∀ before, segment.Accounted options EndsLine active before trail)
    (hnone : segment.statement? = none) (htrail : ∀ c ∈ trail, isWhitespace c) :
    LastStretch options active (segment.text ++ trail) [] := by
  have hstatements : statementsIn [segment, .idle trail] = [] := by
    simp only [statementsIn, filterMap_cons, hnone]
    rfl
  have htext : textOf [Segment.idle trail] = trail := by simp [textOf, Segment.text]
  refine ⟨[segment, .idle trail], by simp [textOf, Segment.text], hstatements, fun before => ?_⟩
  refine ⟨?_, hasExecutableSqlWithOptions_whitespace options htrail, trivial⟩
  rw [htext]
  exact haccounted before

private theorem endsLine_of_whitespace {after : Text} (h : ∀ c ∈ after, isWhitespace c) :
    EndsLine before after := by
  simp only [EndsLine, all_eq_true]
  exact fun c hc => h c (takeWhile_subset _ hc)

namespace SqlStatementSplitter

variable {x : Externals} {options : SqlParsingOptions}

/-- From `s` to `s'` the splitter reads `consumed` and emits `out`: what it had buffered and what
it read is dealt with or is buffered now. -/
structure Advance (options : SqlParsingOptions) (s : SqlStatementSplitter)
    (consumed : Text) (out : List SqlStatementWithControl) (s' : SqlStatementSplitter) : Prop where
  stretch : ∃ text, Stretch options s.customDelimiter text
    (out.map sql) s'.customDelimiter ∧
      s.buffer ++ consumed = text ++ s'.buffer
  psql : s'.pendingPsqlCommand = s.pendingPsqlCommand
  tag : s.dollarQuoteTag ≠ some [] → s'.dollarQuoteTag ≠ some []

namespace Advance

variable {s s' s'' : SqlStatementSplitter} {consumed consumed' : Text}
  {out out' : List SqlStatementWithControl}

private theorem refl (s : SqlStatementSplitter) : Advance options s [] [] s :=
  ⟨⟨[], .nil, by simp⟩, rfl, id⟩

private theorem trans (h : Advance options s consumed out s')
    (h' : Advance options s' consumed' out' s'') :
    Advance options s (consumed ++ consumed') (out ++ out') s'' := by
  obtain ⟨⟨text, hstretch, hbuffer⟩, hpsql, htag⟩ := h
  obtain ⟨⟨text', hstretch', hbuffer'⟩, hpsql', htag'⟩ := h'
  refine ⟨⟨text ++ text', by simpa using hstretch.trans hstretch', ?_⟩, hpsql'.trans hpsql,
    fun ht => htag' (htag ht)⟩
  rw [← append_assoc, hbuffer, append_assoc, hbuffer', append_assoc]

private theorem buffered (hbuffer : s'.buffer = s.buffer ++ consumed)
    (hdelimiter : s'.customDelimiter = s.customDelimiter)
    (hpsql : s'.pendingPsqlCommand = s.pendingPsqlCommand)
    (htag : s'.dollarQuoteTag = s.dollarQuoteTag) : Advance options s consumed [] s' := by
  refine ⟨⟨[], ?_, by simp [hbuffer]⟩, hpsql, fun h => by rwa [htag]⟩
  rw [hdelimiter]
  exact .nil

private theorem of_eq (h : Advance options s consumed out s')
    (hbuffer : s''.buffer = s.buffer) (hdelimiter : s''.customDelimiter = s.customDelimiter)
    (hpsql : s''.pendingPsqlCommand = s.pendingPsqlCommand)
    (htag : s''.dollarQuoteTag = s.dollarQuoteTag) : Advance options s'' consumed out s' := by
  obtain ⟨hstretch, hpsql', htag'⟩ := h
  rw [← hbuffer, ← hdelimiter] at hstretch
  exact ⟨hstretch, hpsql'.trans hpsql.symm, fun h => htag' (by rwa [← htag])⟩

end Advance

variable {s : SqlStatementSplitter}

private theorem append_advance (ch : Char) :
    Advance options s [ch] [] (s.append ch) := .buffered rfl rfl rfl rfl

private theorem pushCurrentStatement_advance :
    Advance options s [] (s.pushCurrentStatement options).2 (s.pushCurrentStatement options).1 :=
  ⟨⟨s.buffer, .statementsOf _ _, rfl⟩, rfl, id⟩

private theorem pushCurrentStatement_semicolon (hactive : s.customDelimiter = none) :
    Advance options s [';'] (s.pushCurrentStatement options).2
      (s.pushCurrentStatement options).1 :=
  ⟨⟨_, .delimited _ s.buffer, by simp [hactive, pushCurrentStatement, dropBuffer]⟩, rfl, id⟩

private theorem endBlockIf_advance (complete : Bool) :
    Advance options s [';'] (s.endBlockIf options complete).2
      (s.endBlockIf options complete).1 := by
  unfold endBlockIf
  split
  · exact (append_advance ';').trans pushCurrentStatement_advance
  · exact append_advance ';'

/-! ### SQL Server batches -/

private theorem sqlserverPieces_flatten (fuel : Nat) (body : Text) :
    (sqlserverPieces fuel body).1.flatten ++ (sqlserverPieces fuel body).2 = body := by
  fun_induction sqlserverPieces fuel body with
  | case1 | case2 | case3 => rfl
  | case4 fuel body relative _ _ later ih => simp [later, ih]

private theorem pieces_stretch (active : Option Text) (stopOnError : Bool) (pieces : List Text) :
    Stretch options active pieces.flatten
      ((pieces.flatMap (statementsOf options stopOnError)).map sql)
      active := by
  induction pieces with
  | nil => exact .nil
  | cons piece pieces ih =>
    simpa using (Stretch.statementsOf stopOnError piece).trans ih

private theorem whitespace_of_trim_nil {text : Text} (h : (trim text).isEmpty) :
    ∀ c ∈ text, isWhitespace c := by
  obtain ⟨lead, trail, htext, hlead, htrail⟩ := trim_decompose text
  rw [isEmpty_iff.mp h, append_nil] at htext
  rw [htext]
  intro c hc
  rcases mem_append.mp hc with hc | hc
  · exact hlead c hc
  · exact htrail c hc

private theorem sqlserverPieces_advance (options : SqlParsingOptions) : Advance options s []
      ((sqlserverPieces s.buffer.length s.buffer).1.flatMap (statementsOf options s.stopOnError))
      { s.dropBuffer with
        pendingMysqlLineCommentDashes := false
        buffer := (sqlserverPieces s.buffer.length s.buffer).2 } :=
  ⟨⟨_, pieces_stretch _ _ _, by simp [sqlserverPieces_flatten]⟩, rfl, id⟩

private theorem sqlserverBatchEnd_advance (hactive : s.customDelimiter = none) :
    Advance options s [';'] (s.sqlserverBatchEnd options).2 (s.sqlserverBatchEnd options).1 := by
  have hpieces := sqlserverPieces_advance (s := s) options
  unfold sqlserverBatchEnd
  dsimp only
  split
  · exact (append_advance ';').trans pushCurrentStatement_advance
  · split
    · next hblank =>
      -- the white space after the last boundary and the `;` are dropped
      have hdrop : Advance options { s.dropBuffer with
            pendingMysqlLineCommentDashes := false
            buffer := (sqlserverPieces s.buffer.length s.buffer).2 } [';'] []
          { s.dropBuffer with pendingMysqlLineCommentDashes := false } := by
        refine ⟨⟨(sqlserverPieces s.buffer.length s.buffer).2 ++ [';'], ?_, by simp [dropBuffer]⟩,
          rfl, id⟩
        have hdelimiter : Stretch options s.customDelimiter [';'] [] s.customDelimiter :=
          .delimiter (by simp [hactive])
        exact (Stretch.whitespace (whitespace_of_trim_nil hblank)).trans hdelimiter
      simpa using hpieces.trans hdrop
    · split
      · split
        · exact hpieces.trans ((append_advance ';').trans pushCurrentStatement_advance)
        · have hopen := hpieces.trans (append_advance ';')
          rw [append_nil] at hopen
          exact hopen
      · exact hpieces.trans (pushCurrentStatement_semicolon hactive)

/-! ### The `;` and the other characters -/

private theorem semicolonOutsidePlSql_advance (hactive : s.customDelimiter = none) :
    Advance options s [';'] (s.semicolonOutsidePlSql x options).2
      (s.semicolonOutsidePlSql x options).1 := by
  fun_cases s.semicolonOutsidePlSql x options with
  | case1 | case2 => exact endBlockIf_advance _
  | case3 => exact sqlserverBatchEnd_advance hactive
  | case4 => exact append_advance ';'
  | case5 => exact pushCurrentStatement_semicolon hactive

private theorem semicolon_advance :
    Advance options s [';'] (s.semicolon x options).2 (s.semicolon x options).1 := by
  have hactive {onLine : Bool} (hplain : ¬(onLine || s.customDelimiter.isSome)) :
      s.customDelimiter = none := by
    simp only [Bool.or_eq_true, not_or] at hplain
    simpa using hplain.2
  fun_cases s.semicolon x options with
  | case1 | case2 | case4 => exact append_advance ';'
  | case3 _ hplain => exact pushCurrentStatement_semicolon (hactive hplain)
  | case5 _ hplain => exact semicolonOutsidePlSql_advance (hactive hplain)
  | case6 => exact (endBlockIf_advance _).of_eq rfl rfl rfl rfl
  | case7 _ hplain =>
    refine (semicolonOutsidePlSql_advance ?_).of_eq rfl rfl rfl rfl
    exact hactive hplain

private theorem matchChar_advance (ch : Char) :
    Advance options s [ch] (s.matchChar x options ch).2 (s.matchChar x options ch).1 := by
  fun_cases s.matchChar x options ch with
  | case1 | case2 | case3 => exact .buffered rfl rfl rfl rfl
  | case4 _ _ _ hsemi =>
    obtain rfl : ch = ';' := by
      simp only [Bool.and_eq_true, beq_iff_eq] at hsemi
      exact hsemi.1
    exact semicolon_advance
  | case5 => exact append_advance ch

/-! ### Ends of lines and custom delimiters -/

private theorem command_stretch (options : SqlParsingOptions) (active : Option Text)
    (segment : Segment)
    (haccounted : segment.Accounted options NextIsNewline active [] ['\n'])
    (hnone : segment.statement? = none) :
    Stretch options active (segment.text ++ ['\n']) [] (segment.activeAfter active) := by
  have hstatements : statementsIn [segment, .idle ['\n']] = [] := by
    simp only [statementsIn, filterMap_cons, hnone]
    rfl
  refine ⟨[segment, .idle ['\n']], by simp [textOf, Segment.text], hstatements,
    ⟨haccounted, ?_, trivial⟩, rfl⟩
  exact hasExecutableSqlWithOptions_whitespace options (by simp; decide)

private theorem lineEnd_advance {text : Text} (hbuffer : s.buffer = text ++ ['\n'])
    {ended : SqlStatementSplitter × List SqlStatementWithControl}
    (h : s.lineEnd options = some ended) : Advance options s [] ended.2 ended.1 := by
  have hsplit : s.buffer = throughLastNewline text ++ (lastLine text ++ ['\n']) := by
    rw [hbuffer, ← append_assoc, throughLastNewline_append_lastLine]
  have hends := lineEnd_some h
  rw [hbuffer, dropLast_concat] at hends
  obtain ⟨hslash, rfl⟩ | ⟨delimiter, hparse, -, rfl⟩ := hends
  · have hcommand := command_stretch options s.customDelimiter
      (.slash (lastLine text)) ⟨hslash, newline_notMem_lastLine text, rfl⟩ rfl
    have hboth := (Stretch.statementsOf s.stopOnError (throughLastNewline text)).trans hcommand
    rw [append_nil] at hboth
    exact ⟨⟨_, hboth, by simpa [dropBuffer, Segment.text] using hsplit⟩, rfl, id⟩
  · have hcommand := command_stretch options s.customDelimiter (.delimiterCommand (lastLine text))
      ⟨by simp [hparse], newline_notMem_lastLine text, rfl⟩ rfl
    have hactive : Segment.activeAfter s.customDelimiter (.delimiterCommand (lastLine text)) =
        if delimiter = [';'] then none else some delimiter := by
      simp [Segment.activeAfter, hparse]
    rw [hactive] at hcommand
    have hbefore : Stretch options s.customDelimiter (throughLastNewline text)
        ((if (throughLastNewline text).isEmpty then []
          else statementsOf options s.stopOnError (throughLastNewline text)).map
          sql) s.customDelimiter := by
      split
      · next hempty =>
        rw [isEmpty_iff.mp hempty]
        exact .nil
      · exact .statementsOf _ _
    have hboth := hbefore.trans hcommand
    rw [append_nil] at hboth
    exact ⟨⟨_, hboth, by simpa [dropBuffer, Segment.text] using hsplit⟩, rfl, id⟩

private theorem customDelimiterEnd_advance (options : SqlParsingOptions) :
    Advance options s [] (s.customDelimiterEnd options).2 (s.customDelimiterEnd options).1 := by
  fun_cases s.customDelimiterEnd options with
  | case1 delimiter hactive hends =>
    simp only [Bool.and_eq_true] at hends
    have hsplit := take_append_of_endsWith hends.1
    exact ⟨⟨_, .delimited _ _,
      by simpa [hactive, pushCurrentStatement, dropBuffer] using hsplit.symm⟩, rfl, id⟩
  | case2 | case3 => exact .refl s

private theorem afterChar_advance {ch : Char}
    (hbuffer : ch = '\n' → ∃ text, s.buffer = text ++ ['\n']) :
    Advance options s [] (s.afterChar options ch).2 (s.afterChar options ch).1 := by
  unfold afterChar
  split
  · split
    · next ended hended =>
      split at hended
      · next hch =>
        obtain ⟨text, htext⟩ := hbuffer (by simpa using hch)
        exact lineEnd_advance htext hended
      · cases hended
    · obtain ⟨hstretch, hpsql, htag⟩ := customDelimiterEnd_advance options
      exact ⟨hstretch, hpsql, htag⟩
  · exact .buffered (by simp) rfl rfl rfl

private theorem ordinaryStep_advance (ch : Char) :
    Advance options s [ch] (s.ordinaryStep x options ch).out
      (s.ordinaryStep x options ch).state := by
  have hnewline : ch = '\n' → ∃ text, (s.matchChar x options ch).1.buffer = text ++ ['\n'] := by
    rintro rfl
    exact ⟨s.buffer, by simp [matchChar, append]⟩
  exact (matchChar_advance ch).trans (afterChar_advance hnewline)

/-! ### Steps and runs -/

private theorem tag_eq {tag : Text} {ch : Char} {rest : Text} (h : tag <+: ch :: rest)
    (hne : tag ≠ []) : tag = ch :: rest.take (tag.length - 1) := by
  cases tag with
  | nil => exact absurd rfl hne
  | cons first tag =>
    obtain ⟨rfl, htail⟩ := cons_prefix_cons.mp h
    simpa using prefix_iff_eq_take.mp htail

private theorem openerStep_advance {ch : Char} {rest : Text} {opened : Step}
    (h : s.openerStep x options ch rest = some opened) :
    Advance options s (ch :: rest.take opened.skip) opened.out opened.state := by
  unfold openerStep at h
  dsimp only at h
  split_ifs at h
  case neg =>
    split at h
    · next tag htag =>
      have hat : dollarQuoteTagAt (ch :: rest) = some tag := by
        unfold openingDollarTag at htag
        split at htag
        · exact htag
        · cases htag
      have hne : tag ≠ [] := by
        rintro rfl
        exact absurd (dollarQuoteTagAt_head hat) (by simp)
      cases h
      have htext := tag_eq (dollarQuoteTagAt_isPrefix hat) hne
      refine ⟨⟨[], .nil, ?_⟩, rfl, fun _ => by simpa using hne⟩
      simp only [pushTag, nil_append]
      rw [← htext]
    · cases h
  all_goals
    cases h
    exact .buffered (by simp [silently, pushChar]) rfl rfl rfl

private theorem plainStep_advance (htag : s.dollarQuoteTag ≠ some []) (ch : Char) (rest : Text) :
    Advance options s (ch :: rest.take (s.plainStep x options ch rest).skip)
      (s.plainStep x options ch rest).out (s.plainStep x options ch rest).state := by
  fun_cases s.plainStep x options ch rest with
  | case1 tag hdollar =>
    unfold dollarQuotedStep
    split
    · next hprefix =>
      have hne : tag ≠ [] := by
        rintro rfl
        exact htag hdollar
      have htext := tag_eq (List.isPrefixOf_iff_prefix.mp hprefix) hne
      refine ⟨⟨[], .nil, ?_⟩, rfl, fun _ => by simp⟩
      simp only [pushTag, nil_append]
      rw [← htext]
    · exact .buffered (by simp [silently, pushChar]) rfl rfl rfl
  | case2 => exact .buffered (by simp [lineCommentStep, silently, pushChar]) rfl rfl rfl
  | case3 =>
    unfold blockCommentStep
    split_ifs <;> exact .buffered (by simp [silently, pushChar]) rfl rfl rfl
  | case4 => exact .buffered (by simp [oracleQQuoteStep, silently, pushChar]) rfl rfl rfl
  | case5 =>
    cases hopened : s.openerStep x options ch rest with
    | some opened => exact openerStep_advance hopened
    | none => simpa [ordinaryStep] using ordinaryStep_advance (x := x) ch
  | case6 => simpa [ordinaryStep] using ordinaryStep_advance (x := x) ch

private theorem scan_advance (x : Externals) (options : SqlParsingOptions)
    (hoff : options.profile.supportsPsqlControlCommands = false) (sql : Text) :
    Advance options {} sql ((scanner x options).scan 0 {} sql).2
      ((scanner x options).scan 0 {} sql).1 := by
  -- `scan_of_step` needs a relation that holds of every state, so the two facts that a run
  -- keeps (no psql command, no empty tag) are its premises
  have hrun := (scanner x options).scan_of_step
    (Q := fun s consumed out s' => s.pendingPsqlCommand = none → s.dollarQuoteTag ≠ some [] →
      Advance options s consumed out s')
    (fun s _ _ => .refl s)
    (fun h h' hpsql htag => by
      have hfirst := h hpsql htag
      exact hfirst.trans (h' (hfirst.psql.trans hpsql) (hfirst.tag htag)))
    (fun s ch rest hpsql htag => by
      have hstep : (scanner x options).step s ch rest = s.plainStep x options ch rest := by
        change s.step x options ch rest = _
        simp [step, hpsql, startsPsqlCommand, hoff]
      rw [hstep]
      exact plainStep_advance htag ch rest)
    0 {} sql
  exact hrun rfl (by simp)

private theorem lastCommand_stretch {active : Option Text} (stopOnError : Bool) (buffer : Text)
    (segment : Segment) (htext : segment.text = lastLine (trim buffer))
    (haccounted : ∀ before after, EndsLine before after →
      segment.Accounted options EndsLine active before after)
    (hnone : segment.statement? = none) :
    LastStretch options active buffer
      ((statementsOf options stopOnError (trim (beforeLastNewline (trim buffer))) ++
        statementsOf options stopOnError []).map sql) := by
  obtain ⟨lead, trail, hbuffer, hlead, htrail⟩ := trim_decompose buffer
  obtain ⟨sep, htrimmed, hsep⟩ := beforeLastNewline_decompose (trim buffer)
  obtain ⟨lead', trail', hbefore, hlead', htrail'⟩ :=
    trim_decompose (beforeLastNewline (trim buffer))
  have hsepWs : ∀ c ∈ sep, isWhitespace c := by
    intro c hc
    rw [hsep c hc]
    decide
  have hempty : statementsOf options stopOnError [] = [] := rfl
  have hcommand : LastStretch options active (segment.text ++ trail) [] := .command segment
    (fun before => haccounted before trail (endsLine_of_whitespace htrail)) hnone htrail
  rw [htext] at hcommand
  have hall := (((Stretch.whitespace hlead).trans (Stretch.whitespace hlead')).trans
    (((Stretch.statementsOf stopOnError (trim (beforeLastNewline (trim buffer)))).trans
      (Stretch.whitespace htrail')).trans (Stretch.whitespace hsepWs))).last hcommand
  have hjoin : lead ++ lead' ++ (trim (beforeLastNewline (trim buffer)) ++ trail' ++ sep) ++
      (lastLine (trim buffer) ++ trail) = buffer := by
    calc lead ++ lead' ++ (trim (beforeLastNewline (trim buffer)) ++ trail' ++ sep) ++
          (lastLine (trim buffer) ++ trail)
        = lead ++ ((lead' ++ trim (beforeLastNewline (trim buffer)) ++ trail') ++ sep ++
            lastLine (trim buffer)) ++ trail := by simp only [append_assoc]
      _ = lead ++ trim buffer ++ trail := by rw [← hbefore, ← htrimmed]
      _ = buffer := hbuffer.symm
  rw [hjoin] at hall
  simpa [hempty] using hall

private theorem finishBuffer_stretch : LastStretch options s.customDelimiter s.buffer
      ((s.finishBuffer options).map sql) := by
  fun_cases s.finishBuffer options with
  | case1 _ _ _ hcommand =>
    simp only [Bool.and_eq_true] at hcommand
    exact lastCommand_stretch _ _ (.delimiterCommand (lastLine (trim s.buffer))) rfl
      (fun _ _ hline => ⟨hcommand.1.2, newline_notMem_lastLine _, hline⟩) rfl
  | case2 _ _ _ _ hslash =>
    simp only [Bool.and_eq_true, beq_iff_eq] at hslash
    exact lastCommand_stretch _ _ (.slash (lastLine (trim s.buffer))) rfl
      (fun _ _ hline => ⟨hslash.2, newline_notMem_lastLine _, hline⟩) rfl
  | case3 _ _ _ _ _ delimiter hactive hends =>
    have hall : LastStretch options s.customDelimiter _ _ := (Stretch.delimited s.stopOnError
      (s.buffer.take (s.buffer.length - delimiter.length))).last .nil
    simpa [hactive, take_append_of_endsWith hends] using hall
  | case4 | case5 => simpa using (Stretch.statementsOf s.stopOnError s.buffer).last .nil

end SqlStatementSplitter

private theorem Accounts.at {front : List Segment}
    (h : Accounts options Line active before (front ++ segment :: later)) :
    segment.Accounted options Line (activeAfterAll active front) (before ++ textOf front)
      (textOf later) := by
  induction front generalizing active before with
  | nil => simpa [textOf, activeAfterAll] using h.1
  | cons first front ih =>
    simpa [textOf, activeAfterAll, append_assoc] using ih h.2

private theorem segment_eq_take {front : List Segment} {input : Text}
    (h : textOf (front ++ segment :: later) = input) :
    textOf front = input.take (textOf front).length ∧
      segment.text = (input.drop (textOf front).length).take segment.text.length ∧
      (textOf front).length ≤ input.length ∧ segment.text.length ≤ input.length := by
  have hjoin : input = textOf front ++ (segment.text ++ textOf later) := by
    rw [← h, textOf_append]
    rfl
  refine ⟨by simp [hjoin], by simp [hjoin], ?_, ?_⟩ <;>
    · rw [hjoin]
      simp only [length_append]
      omega

private def slashAfterStatement : Text := "SELECT 1; /\n"

private def oracleOptions : SqlParsingOptions :=
  (forDatabaseType .oracle).withoutPsqlControl

private theorem slashAfterStatement_parts : ∀ i < 13, ∀ j < 13,
    parseDelimiterCommand (trim ((slashAfterStatement.drop i).take j)) = none ∧
      ('/' ∈ (slashAfterStatement.drop i).take j →
        hasExecutableSqlWithOptions ((slashAfterStatement.drop i).take j) oracleOptions ∧
          (trim ((slashAfterStatement.drop i).take j) = ['/'] →
            (lastLine (slashAfterStatement.take i)).all isWhitespace = false)) := by
  decide +kernel

private theorem activeAfterAll_none {segments : List Segment}
    (h : ∀ segment ∈ segments, parseDelimiterCommand (trim segment.text) = none) :
    activeAfterAll none segments = none := by
  induction segments with
  | nil => rfl
  | cons segment segments ih =>
    have hfirst : segment.activeAfter none = none := by
      have hparse := h segment (by simp)
      cases segment <;> simp_all [Segment.activeAfter, Segment.text]
    rw [activeAfterAll, foldl_cons, hfirst]
    exact ih fun later hlater => h later (by simp [hlater])

end DbxSpec.Sql
