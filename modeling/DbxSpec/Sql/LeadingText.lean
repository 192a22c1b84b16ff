import DbxSpec.Sql.Ranges

/-!
# Two readings of leading comments

Whether a text holds anything to execute is decided by `has_executable_sql_with_options`
(`crates/dbx-sql-core/src/sql.rs:4657`) for the streaming splitter and by
`leading_executable_sql_with_options` (`sql.rs:3513`) for the ranges. The two read the white
space and the comments at the start of a text in different ways: the first takes every
white space character and remembers the previous character inside a comment, the second
takes ASCII white space and compares pairs, and takes two dashes for a comment in every
dialect. They agree where that leading text is regular.
-/

namespace DbxSpec.Sql

open DbxSpec.Base List

/-- `sql[start..end]` for the bounds of `executable_sql_bounds`: the statement without leading
white space and comments. -/
def executableSql (options : SqlParsingOptions) (statement : Text) : Option Text :=
  (executableSqlBounds statement options).map fun bounds =>
    (statement.take bounds.2).drop bounds.1

/-- A comment, from the text after its opener on, in which no `*` follows a `*/` that closes an
inner comment. -/
def commentIsRegular (nested : Bool) : Nat → Text → Bool
  | _, [] => true
  | _, [_] => true
  | depth, a :: b :: rest =>
    if a == '*' && b == '/' then
      depth ≤ 1 || (rest.head? != some '*' && commentIsRegular nested (depth - 1) rest)
    else if nested && a == '/' && b == '*' then commentIsRegular nested (depth + 1) rest
    else commentIsRegular nested depth (b :: rest)

/-- The loop of `leadingIsRegular`. -/
def leadingIsRegularLoop (profile : SqlDialectProfile) : Nat → Text → Bool
  | 0, _ => true
  | fuel + 1, sql =>
    match sql.dropWhile isAsciiWhitespace with
    | [] => true
    | a :: rest =>
      if isWhitespace a then false
      else if a == '-' && rest.head? == some '-' then
        dashDashStartsLineComment profile rest.tail.head? &&
          leadingIsRegularLoop profile fuel (rest.tail.dropWhile (· != '\n'))
      else if profile.supportsHashLineComments && a == '#' then
        leadingIsRegularLoop profile fuel (rest.dropWhile (· != '\n'))
      else if a == '/' && rest.head? == some '*' then
        isMysqlExecutableCommentStart (a :: rest) ||
          (rest.tail.head? != some '/' &&
            commentIsRegular profile.supportsNestedBlockComments 1 rest.tail &&
            match afterBlockCommentClose profile.supportsNestedBlockComments 1 rest.tail with
            | none => true
            | some after => leadingIsRegularLoop profile fuel after)
      else true

/-- The text has regular white space and comments at its start: the white space is ASCII, two
dashes open a comment, no comment is opened by `/*/` and no `*` follows the end of an inner
comment. -/
def leadingIsRegular (options : SqlParsingOptions) (text : Text) : Bool :=
  leadingIsRegularLoop options.profile text.length text

/-! ### Anything to execute -/

section

variable {profile : SqlDialectProfile}

private theorem hasExecutableSqlLoop_previous (previous : Option Char) (text : Text) :
    hasExecutableSqlLoop profile false 0 previous text =
      hasExecutableSqlLoop profile false 0 none text := by
  cases text with
  | nil => rfl
  | cons ch rest => simp only [hasExecutableSqlLoop, gt_iff_lt, Nat.lt_irrefl, if_false]

private theorem hasExecutableSqlLoop_dropWhile {p : Char → Bool}
    (hp : ∀ ch, p ch → isWhitespace ch) (text : Text) :
    hasExecutableSqlLoop profile false 0 none (text.dropWhile p) =
      hasExecutableSqlLoop profile false 0 none text := by
  induction text with
  | nil => rfl
  | cons ch rest ih =>
    rw [dropWhile_cons]
    split
    · next h =>
      rw [ih, hasExecutableSqlLoop_whitespace (hp ch h), hasExecutableSqlLoop_previous (some ch)]
    · rfl

private theorem hasExecutableSqlLoop_lineComment (previous : Option Char) (text : Text) :
    hasExecutableSqlLoop profile true 0 previous text =
      hasExecutableSqlLoop profile false 0 none (text.dropWhile (· != '\n')) := by
  induction text generalizing previous with
  | nil => rfl
  | cons ch rest ih =>
    rw [hasExecutableSqlLoop, dropWhile_cons]
    by_cases hch : ch = '\n'
    · subst hch
      rw [if_pos rfl, if_neg (by simp), hasExecutableSqlLoop_whitespace (by decide)]
      rfl
    · have hne : (ch != '\n') := by simpa using hch
      rw [if_pos rfl, if_pos hne, hne]
      exact ih (some ch)

/-- What the previous character inside a comment must not be for the pair it makes with the next
one to be read a second time. -/
def FitsComment (nested : Bool) (previous : Option Char) (text : Text) : Prop :=
  (previous = some '*' → text.head? ≠ some '/') ∧
    (nested → previous = some '/' → text.head? ≠ some '*')

variable {nested : Bool} {text : Text} {depth : Nat}

private theorem hasExecutableSqlLoop_inside (hdepth : 0 < depth) {previous : Option Char}
    {ch : Char} {rest : Text}
    (h : FitsComment profile.supportsNestedBlockComments previous (ch :: rest)) :
    hasExecutableSqlLoop profile false depth previous (ch :: rest) =
      hasExecutableSqlLoop profile false depth (some ch) rest := by
  have hopen : (profile.supportsNestedBlockComments && previous == some '/' && ch == '*') =
      false := by
    rw [← Bool.not_eq_true]
    intro hopen
    simp only [Bool.and_eq_true, beq_iff_eq] at hopen
    exact h.2 hopen.1.1 hopen.1.2 (by simp [hopen.2])
  have hclose : (previous == some '*' && ch == '/') = false := by
    rw [← Bool.not_eq_true]
    intro hclose
    simp only [Bool.and_eq_true, beq_iff_eq] at hclose
    exact h.1 hclose.1 (by simp [hclose.2])
  rw [hasExecutableSqlLoop]
  simp only [hopen, hclose, hdepth, if_true, Bool.false_eq_true, if_false]

private theorem hasExecutableSqlLoop_comment
    (hnested : profile.supportsNestedBlockComments = nested) (depth : Nat) (text : Text) :
    ∀ previous, 0 < depth → FitsComment nested previous text → commentIsRegular nested depth text →
      hasExecutableSqlLoop profile false depth previous text =
        ((afterBlockCommentClose nested depth text).map
          (hasExecutableSqlLoop profile false 0 none)).getD false := by
  subst hnested
  fun_induction afterBlockCommentClose profile.supportsNestedBlockComments depth text with
  | case1 => intro previous hdepth hfits hregular; rfl
  | case2 depth ch =>
    intro previous hdepth hfits hregular
    rw [hasExecutableSqlLoop_inside hdepth hfits]
    rfl
  | case3 depth a b rest hclose hlast =>
    intro previous hdepth hfits hregular
    simp only [Bool.and_eq_true, beq_iff_eq] at hclose
    obtain ⟨rfl, rfl⟩ := hclose
    have hone : depth = 1 := by omega
    subst hone
    rw [hasExecutableSqlLoop_inside hdepth hfits, hasExecutableSqlLoop]
    simpa using hasExecutableSqlLoop_previous _ rest
  | case4 depth a b rest hclose hmore ih =>
    intro previous hdepth hfits hregular
    simp only [Bool.and_eq_true, beq_iff_eq] at hclose
    obtain ⟨rfl, rfl⟩ := hclose
    rw [commentIsRegular] at hregular
    simp only [beq_self_eq_true, Bool.and_self, if_true, Bool.or_eq_true, decide_eq_true_eq,
      hmore, false_or, Bool.and_eq_true, bne_iff_ne] at hregular
    rw [hasExecutableSqlLoop_inside hdepth hfits, ← ih (some '/') (by omega)
      ⟨by simp, fun _ _ => hregular.1⟩ hregular.2, hasExecutableSqlLoop]
    simp [hdepth]
  | case5 depth a b rest hclose hopen ih =>
    intro previous hdepth hfits hregular
    rw [commentIsRegular, if_neg hclose, if_pos hopen] at hregular
    simp only [Bool.and_eq_true, beq_iff_eq] at hopen
    obtain ⟨⟨hnested, rfl⟩, rfl⟩ := hopen
    rw [hasExecutableSqlLoop_inside hdepth hfits, ← ih none (by omega)
      ⟨by simp, by simp⟩ hregular, hasExecutableSqlLoop]
    simp [hdepth, hnested]
  | case6 depth a b rest hclose hopen ih =>
    intro previous hdepth hfits hregular
    rw [commentIsRegular, if_neg hclose, if_neg hopen] at hregular
    have hnext : FitsComment profile.supportsNestedBlockComments (some a) (b :: rest) := by
      constructor
      · rintro ⟨rfl⟩ hb
        exact hclose (by simpa using hb)
      · rintro hnested ⟨rfl⟩ hb
        exact hopen (by simpa [hnested] using hb)
    rw [hasExecutableSqlLoop_inside hdepth hfits, ih (some a) hdepth hnext hregular]

private theorem afterBlockCommentClose_suffix {after : Text}
    (h : afterBlockCommentClose nested depth text = some after) : after <:+ text := by
  fun_induction afterBlockCommentClose nested depth text with
  | case1 | case2 => cases h
  | case3 depth a b rest hclose hlast =>
    cases h
    exact ⟨[a, b], rfl⟩
  | case4 depth a b rest hclose hmore ih
  | case5 depth a b rest hclose hopen ih => exact (ih h).trans ⟨[a, b], rfl⟩
  | case6 depth a b rest hclose hopen ih => exact (ih h).trans ⟨[a], rfl⟩

private theorem hasExecutableSqlLoop_eq_leading (fuel : Nat) (text : Text)
    (hfuel : text.length ≤ fuel) (hregular : leadingIsRegularLoop profile fuel text) :
    hasExecutableSqlLoop profile false 0 none text =
      !(leadingExecutableSqlLoop profile fuel text).isEmpty := by
  induction fuel generalizing text with
  | zero =>
    have hnil : text = [] := eq_nil_of_length_eq_zero (by omega)
    subst hnil
    rfl
  | succ fuel ih =>
    have hlength := (text.dropWhile_sublist isAsciiWhitespace).length_le
    rw [← hasExecutableSqlLoop_dropWhile fun _ => isWhitespace_of_ascii]
    rw [leadingIsRegularLoop] at hregular
    rw [leadingExecutableSqlLoop]
    generalize text.dropWhile isAsciiWhitespace = body at hlength hregular ⊢
    rcases body with _ | ⟨a, rest⟩
    · rfl
    simp only [length_cons] at hlength
    have hdrop (t : Text) := (t.dropWhile_sublist (· != '\n')).length_le
    dsimp only at hregular ⊢
    split at hregular
    · cases hregular
    · next hspace =>
      rw [hasExecutableSqlLoop]
      simp only [Bool.false_eq_true, if_false, gt_iff_lt, Nat.lt_irrefl]
      split at hregular
      · next hdash =>
        -- the first dash is skipped as part of the comment
        obtain ⟨hstarts, hlater⟩ := (Bool.and_eq_true _ _).mp hregular
        have htail := hdrop rest.tail
        rw [length_tail] at htail
        rw [if_pos (by rw [hdash, hstarts]; rfl), if_pos hdash,
          hasExecutableSqlLoop_lineComment, ← ih _ (by omega) hlater]
        simp only [Bool.and_eq_true, beq_iff_eq] at hdash
        obtain ⟨later, rfl⟩ := head?_eq_some_iff.mp hdash.2
        rfl
      · next hdash =>
        rw [if_neg (by simp only [Bool.and_eq_true] at hdash ⊢; exact fun h => hdash h.1),
          if_neg hdash]
        split at hregular
        · next hhash =>
          have hrest := hdrop rest
          rw [if_pos hhash, if_pos hhash, hasExecutableSqlLoop_lineComment,
            ← ih _ (by omega) hregular]
        · next hhash =>
          rw [if_neg hhash, if_neg hhash]
          split at hregular
          · next hcomment =>
            rw [if_pos hcomment, if_pos hcomment]
            split
            · rfl
            · next hexec =>
              simp only [hexec, Bool.false_or, Bool.and_eq_true, bne_iff_ne] at hregular
              obtain ⟨⟨hslash, hinner⟩, hafter⟩ := hregular
              simp only [Bool.and_eq_true, beq_iff_eq] at hcomment
              obtain ⟨later, rfl⟩ := head?_eq_some_iff.mp hcomment.2
              rw [hasExecutableSqlLoop_inside (by decide) ⟨by simp, by simp⟩,
                hasExecutableSqlLoop_comment rfl 1 later _ (by decide)
                  ⟨fun _ => hslash, by simp⟩ hinner]
              rw [tail_cons] at hafter ⊢
              cases hclose : afterBlockCommentClose profile.supportsNestedBlockComments 1 later
                with
              | none => rfl
              | some after =>
                have := (afterBlockCommentClose_suffix hclose).length_le
                rw [hclose] at hafter
                simp only [length_cons] at hlength
                exact ih after (by omega) hafter
          · next hcomment =>
            rw [if_neg hcomment, if_neg hcomment, if_pos (by simpa using hspace)]
            rfl

/-! ### Prefixes of regular text -/

variable {more : Text}

private theorem afterBlockCommentClose_append {after : Text} (more : Text)
    (h : afterBlockCommentClose nested depth text = some after) :
    afterBlockCommentClose nested depth (text ++ more) = some (after ++ more) := by
  fun_induction afterBlockCommentClose nested depth text with
  | case1 | case2 => cases h
  | case3 depth a b rest hclose hlast =>
    cases h
    simp only [cons_append, afterBlockCommentClose, hclose, hlast, if_true]
  | case4 depth a b rest hclose hmore ih =>
    simp only [cons_append, afterBlockCommentClose, hclose, hmore, if_true, if_false]
    exact ih h
  | case5 depth a b rest hclose hopen ih =>
    simp only [cons_append, afterBlockCommentClose, hclose, hopen, if_true]
    exact ih h
  | case6 depth a b rest hclose hopen ih =>
    simp only [cons_append, afterBlockCommentClose, hclose, hopen]
    exact ih h

private theorem commentIsRegular_of_append (h : commentIsRegular nested depth (text ++ more)) :
    commentIsRegular nested depth text := by
  fun_induction commentIsRegular nested depth text with
  | case1 | case2 => rfl
  | case3 depth a b rest hclose ih =>
    simp only [cons_append, commentIsRegular, hclose, if_true, Bool.or_eq_true,
      Bool.and_eq_true, bne_iff_ne] at h ⊢
    refine h.imp_right fun hinner => ⟨fun hhead => hinner.1 ?_, ih hinner.2⟩
    simp [hhead]
  | case4 depth a b rest hclose hopen ih =>
    simp only [cons_append, commentIsRegular, hclose, hopen, if_true] at h
    exact ih h
  | case5 depth a b rest hclose hopen ih =>
    simp only [cons_append, commentIsRegular, hclose, hopen] at h
    exact ih h

private theorem leadingIsRegularLoop_nil (fuel : Nat) : leadingIsRegularLoop profile fuel [] := by
  cases fuel <;> rfl

private theorem dropWhile_append_cases (p : Char → Bool) (text more : Text) :
    text.dropWhile p = [] ∨ (text ++ more).dropWhile p = text.dropWhile p ++ more := by
  rw [dropWhile_append]
  cases h : text.dropWhile p with
  | nil => exact .inl rfl
  | cons a rest => exact .inr rfl

private theorem dashDashStartsLineComment_of_append
    (h : dashDashStartsLineComment profile (text ++ more).head?) :
    dashDashStartsLineComment profile text.head? := by
  cases text with
  | nil =>
    unfold dashDashStartsLineComment
    split <;> rfl
  | cons ch rest => exact h

private theorem comment_regular_of_short
    (hstart : isMysqlExecutableCommentStart ('/' :: '*' :: (text ++ more)))
    (hcut : isMysqlExecutableCommentStart ('/' :: '*' :: text) = false) :
    text.length ≤ 1 ∧ text.head? ≠ some '/' := by
  match text with
  | [] => exact ⟨by simp, by simp⟩
  | [ch] =>
    refine ⟨by simp, ?_⟩
    rintro ⟨rfl⟩
    cases hstart
  | a :: b :: rest =>
    unfold isMysqlExecutableCommentStart at hstart hcut
    split at hstart <;> simp_all

private theorem leadingComment_of_append {later : Text} {regular regular' : Text → Bool}
    (hafter : ∀ after, regular' (after ++ more) → regular after)
    (h : (isMysqlExecutableCommentStart ('/' :: '*' :: (later ++ more)) || ((later ++ more).head? !=
      some '/' && commentIsRegular nested 1 (later ++ more) && match afterBlockCommentClose nested 1
      (later ++ more) with | none => true | some after => regular' after))) :
    (isMysqlExecutableCommentStart ('/' :: '*' :: later) ||
      (later.head? != some '/' && commentIsRegular nested 1 later &&
        match afterBlockCommentClose nested 1 later with
        | none => true
        | some after => regular after)) := by
  cases hexec : isMysqlExecutableCommentStart ('/' :: '*' :: later) with
  | true => rfl
  | false =>
    rw [Bool.false_or]
    cases hfull : isMysqlExecutableCommentStart ('/' :: '*' :: (later ++ more)) with
    | true =>
      obtain ⟨hshort, hslash⟩ := comment_regular_of_short hfull hexec
      match later with
      | [] => rfl
      | [ch] => simpa [commentIsRegular, afterBlockCommentClose] using hslash
    | false =>
      rw [hfull, Bool.false_or] at h
      simp only [Bool.and_eq_true, bne_iff_ne] at h ⊢
      obtain ⟨⟨hslash, hinner⟩, hlater⟩ := h
      refine ⟨⟨fun hhead => hslash (by simp [hhead]), commentIsRegular_of_append hinner⟩, ?_⟩
      split
      · rfl
      · next after hclose =>
        rw [afterBlockCommentClose_append more hclose] at hlater
        exact hafter after hlater

private theorem leadingIsRegularLoop_of_append {fuel fuel' : Nat} (hfuel : fuel ≤ fuel')
    (h : leadingIsRegularLoop profile fuel' (text ++ more)) :
    leadingIsRegularLoop profile fuel text := by
  induction fuel generalizing fuel' text with
  | zero => rfl
  | succ fuel ih =>
    obtain ⟨fuel', rfl⟩ := Nat.exists_eq_add_of_le' (Nat.lt_of_lt_of_le (Nat.succ_pos fuel) hfuel)
    have hle : fuel ≤ fuel' := by omega
    have hline (rest : Text) :
        leadingIsRegularLoop profile fuel' ((rest ++ more).dropWhile (· != '\n')) →
          leadingIsRegularLoop profile fuel (rest.dropWhile (· != '\n')) := by
      intro hlater
      rcases dropWhile_append_cases (· != '\n') rest more with hnil | hcons
      · rw [hnil]
        exact leadingIsRegularLoop_nil fuel
      · exact ih hle (hcons ▸ hlater)
    rw [leadingIsRegularLoop] at h ⊢
    rcases dropWhile_append_cases isAsciiWhitespace text more with hnil | hcons
    · rw [hnil]
    · rw [hcons] at h
      rcases hbody : text.dropWhile isAsciiWhitespace with _ | ⟨a, rest⟩
      · rfl
      rw [hbody, cons_append] at h
      dsimp only at h ⊢
      split at h
      · cases h
      · next hspace =>
        rw [if_neg hspace]
        cases rest with
        | nil =>
          simp only [head?_nil, Bool.and_eq_true, reduceCtorEq, beq_iff_eq, and_false, if_false]
          split
          · exact leadingIsRegularLoop_nil fuel
          · rfl
        | cons b later =>
          -- the second character is there, so both texts take the same branch
          split at h
          · next hdash =>
            rw [if_pos (show (a == '-' && (b :: later).head? == some '-') from hdash)]
            obtain ⟨hstarts, hlater⟩ := (Bool.and_eq_true _ _).mp h
            exact (Bool.and_eq_true _ _).mpr
              ⟨dashDashStartsLineComment_of_append hstarts, hline later hlater⟩
          · next hdash =>
            rw [if_neg (show ¬(a == '-' && (b :: later).head? == some '-') from hdash)]
            split at h
            · next hhash =>
              rw [if_pos hhash]
              exact hline (b :: later) h
            · next hhash =>
              rw [if_neg hhash]
              split at h
              · next hcomment =>
                simp only [Bool.and_eq_true, beq_iff_eq, cons_append, head?_cons,
                  Option.some.injEq] at hcomment
                obtain ⟨rfl, rfl⟩ := hcomment
                exact leadingComment_of_append (fun after => ih hle) h
              · next hcomment =>
                rw [if_neg (show ¬(a == '/' && (b :: later).head? == some '*') from hcomment)]

end

variable {text : Text}

/-- A prefix of a text with a regular start has a regular start. -/
theorem leadingIsRegular_of_isPrefix {options : SqlParsingOptions} {whole : Text}
    (hfront : text <+: whole) (h : leadingIsRegular options whole) :
    leadingIsRegular options text := by
  obtain ⟨more, rfl⟩ := hfront
  exact leadingIsRegularLoop_of_append (by simp) h

/-! ### The executable part of a slice -/

section

variable {profile : SqlDialectProfile}

private theorem leadingExecutableSqlLoop_fuel {fuel fuel' : Nat} {text : Text}
    (h : text.length ≤ fuel) (h' : text.length ≤ fuel') :
    leadingExecutableSqlLoop profile fuel text = leadingExecutableSqlLoop profile fuel' text := by
  induction fuel generalizing fuel' text with
  | zero =>
    have hnil : text = [] := eq_nil_of_length_eq_zero (by omega)
    subst hnil
    cases fuel' <;> rfl
  | succ fuel ih =>
    cases fuel' with
    | zero =>
      have hnil : text = [] := eq_nil_of_length_eq_zero (by omega)
      subst hnil
      rfl
    | succ fuel' =>
      have hlength := (text.dropWhile_sublist isAsciiWhitespace).length_le
      rw [leadingExecutableSqlLoop, leadingExecutableSqlLoop]
      generalize text.dropWhile isAsciiWhitespace = body at hlength
      rcases body with _ | ⟨a, rest⟩
      · rfl
      simp only [length_cons] at hlength
      have hdrop (t : Text) := (t.dropWhile_sublist (· != '\n')).length_le
      have htail := hdrop rest.tail
      rw [length_tail] at htail
      have hrest := hdrop rest
      dsimp only
      have hround (t : Text) (ht : t.length ≤ rest.length) :
          leadingExecutableSqlLoop profile fuel t = leadingExecutableSqlLoop profile fuel' t :=
        ih (by omega) (by omega)
      rw [hround (rest.tail.dropWhile (· != '\n')) (by omega),
        hround (rest.dropWhile (· != '\n')) (by omega)]
      cases hclose : afterBlockCommentClose profile.supportsNestedBlockComments 1 rest.tail with
      | none => rfl
      | some after =>
        have hafter := (afterBlockCommentClose_suffix hclose).length_le
        rw [length_tail] at hafter
        dsimp only
        rw [hround after (by omega)]

private theorem leadingExecutableSqlLoop_suffix (fuel : Nat) (text : Text) :
    leadingExecutableSqlLoop profile fuel text <:+ text := by
  have hrest {text : Text} {a : Char} {rest : Text}
      (h : text.dropWhile isAsciiWhitespace = a :: rest) : rest <:+ text :=
    (suffix_cons a rest).trans (h ▸ dropWhile_suffix _)
  fun_induction leadingExecutableSqlLoop profile fuel text with
  | case1 => exact suffix_rfl
  | case2 | case6 => exact nil_suffix
  | case3 _ _ _ _ _ hbody _ ih =>
    exact (ih.trans (dropWhile_suffix _)).trans ((tail_suffix _).trans (hrest hbody))
  | case4 _ _ _ _ _ hbody _ _ ih => exact (ih.trans (dropWhile_suffix _)).trans (hrest hbody)
  | case5 | case8 => exact dropWhile_suffix _
  | case7 _ _ _ _ _ hbody _ _ _ _ _ hclose ih =>
    exact (ih.trans (afterBlockCommentClose_suffix hclose)).trans
      ((tail_suffix _).trans (hrest hbody))

end

variable {options : SqlParsingOptions} {lead : Text}

private theorem leadingExecutableSql_append (h : ∀ c ∈ lead, isAsciiWhitespace c) :
    leadingExecutableSqlWithOptions (lead ++ text) options =
      leadingExecutableSqlWithOptions text options := by
  have hfuel : leadingExecutableSqlWithOptions text options =
      leadingExecutableSqlLoop options.profile ((lead ++ text).length + 1) text :=
    leadingExecutableSqlLoop_fuel le_rfl (by simp only [length_append]; omega)
  rw [hfuel, leadingExecutableSqlWithOptions, leadingExecutableSqlLoop_fuel le_rfl (Nat.le_succ _),
    leadingExecutableSqlLoop, leadingExecutableSqlLoop, dropWhile_append_of_pos h]

/-- Where the executable part of a text without trailing white space starts. -/
def executableStart (options : SqlParsingOptions) (trimmed : Text) : Nat :=
  let start := trimmed.length - (leadingExecutableSqlWithOptions trimmed options).length
  if options.profile.preservesTdsqlLeadingDirectives then
    (leadingDirectiveStart trimmed start).getD start
  else start

private theorem executableSql_eq (slice : Text) : executableSql options slice =
      if (leadingExecutableSqlWithOptions (trimEnd slice) options).isEmpty then none
      else some ((trimEnd slice).drop (executableStart options (trimEnd slice))) := by
  have htake : slice.take (trimEnd slice).length = trimEnd slice :=
    (prefix_iff_eq_take.mp (List.rdropWhile_prefix isWhitespace slice)).symm
  rw [executableSql, executableSqlBounds]
  split
  · rfl
  · rw [Option.map_some, htake]
    rfl

/-! ### Directives of the TDSQL proxy -/

private theorem drop_length_rdropWhile (p : Char → Bool) (text : Text) :
    text.drop (text.rdropWhile p).length = text.rtakeWhile p := by
  have h : (text.rdropWhile p ++ text.rtakeWhile p).drop (text.rdropWhile p).length =
      text.rtakeWhile p := drop_left
  rwa [rdropWhile_append_rtakeWhile] at h

private theorem length_rdropWhile_add (p : Char → Bool) (text : Text) :
    (text.rdropWhile p).length + (text.rtakeWhile p).length = text.length := by
  rw [← length_append, rdropWhile_append_rtakeWhile]

private theorem trimStart_rtakeWhile_append (p : Char → Bool) (text : Text)
    (hlead : ∀ c ∈ lead, isWhitespace c) :
    trimStart ((lead ++ text).rtakeWhile p) = trimStart (text.rtakeWhile p) := by
  rw [rtakeWhile_append]
  split
  · next hall =>
    have hself : text.rtakeWhile p = text :=
      rtakeWhile_eq_self_iff.mpr (rdropWhile_eq_nil_iff.mp hall)
    rw [hself]
    exact dropWhile_append_of_pos fun c hc => hlead c (rtakeWhile_suffix p lead |>.mem hc)
  · rfl

private theorem endsWith_append_whitespace {suffix : Text}
    (hlead : ∀ c ∈ lead, isWhitespace c) (hsuffix : ∀ c ∈ suffix, isWhitespace c = false) :
    endsWith (lead ++ text) suffix = endsWith text suffix := by
  rw [Bool.eq_iff_iff, endsWith, endsWith, isSuffixOf_iff_suffix, isSuffixOf_iff_suffix]
  constructor
  · intro h
    rcases suffix_or_suffix_of_suffix h (suffix_append lead text) with hs | ⟨cut, rfl⟩
    · exact hs
    · rcases hcut : cut.getLast? with _ | c
      · rw [getLast?_eq_none_iff.mp hcut]; exact suffix_rfl
      -- the cut part of the suffix would be white space
      have hmem : c ∈ cut := mem_of_getLast? hcut
      have hcl : cut <:+ lead := by
        obtain ⟨before, hbefore⟩ := h
        rw [← append_assoc] at hbefore
        exact ⟨before, append_cancel_right hbefore⟩
      have := hlead c (hcl.mem hmem)
      rw [hsuffix c (mem_append_left _ hmem)] at this
      cases this
  · exact fun h => h.trans (suffix_append lead text)

private theorem leadingDirectiveStart_append (text : Text) (start : Nat)
    (hlead : ∀ c ∈ lead, isWhitespace c) :
    leadingDirectiveStart (lead ++ text) (lead.length + start) =
      (leadingDirectiveStart text start).map (lead.length + ·) := by
  have hproxy : ∀ c ∈ "/*proxy*/".toList, isWhitespace c = false := by
    have hall : ("/*proxy*/".toList.all (!isWhitespace ·)) := by decide
    simpa only [all_eq_true, Bool.not_eq_true'] using hall
  rw [leadingDirectiveStart, leadingDirectiveStart]
  dsimp only
  rw [take_length_add_append, drop_length_rdropWhile, drop_length_rdropWhile,
    trimStart_rtakeWhile_append _ _ hlead, length_rdropWhile_add, length_rdropWhile_add]
  generalize text.take start = front
  have hle : (trimStart (front.rtakeWhile (fun c => !(c == '\r' || c == '\n')))).length ≤
      front.length :=
    ((dropWhile_suffix _).trans (rtakeWhile_suffix _ _)).length_le
  split
  · rw [Option.map_some, length_append, Nat.add_sub_assoc hle]
  · have hend : trimEnd (lead ++ front) =
        if trimEnd front = [] then trimEnd lead else lead ++ trimEnd front :=
      rdropWhile_append _ _ _
    rw [hend]
    split
    · next hnil =>
      rw [hnil, show trimEnd lead = [] from rdropWhile_eq_nil_iff.mpr hlead]
      rfl
    · rw [endsWith_append_whitespace hlead hproxy]
      split
      · next hends =>
        have hlength : "/*proxy*/".length ≤ (trimEnd front).length :=
          (isSuffixOf_iff_suffix.mp hends).length_le
        rw [Option.map_some, length_append, Nat.add_sub_assoc hlength]
      · rfl

private theorem leadingDirectiveStart_le {start found : Nat}
    (h : leadingDirectiveStart text start = some found) : found ≤ start := by
  have hfront : (text.take start).length ≤ start := length_take_le start text
  rw [leadingDirectiveStart] at h
  dsimp only at h
  rw [drop_length_rdropWhile, length_rdropWhile_add] at h
  split at h
  · cases h
    omega
  · split at h
    · cases h
      have := (List.rdropWhile_prefix isWhitespace (text.take start)).length_le
      simp only [trimEnd]
      omega
    · cases h

/-! ### What a slice gives rise to -/

private theorem executableStart_append (text : Text) (hlead : ∀ c ∈ lead, isAsciiWhitespace c) :
    executableStart options (lead ++ text) = lead.length + executableStart options text := by
  have hle : (leadingExecutableSqlWithOptions text options).length ≤ text.length :=
    (leadingExecutableSqlLoop_suffix _ _).length_le
  rw [executableStart, executableStart, leadingExecutableSql_append hlead, length_append,
    Nat.add_sub_assoc hle]
  split
  · rw [leadingDirectiveStart_append _ _ fun c hc => isWhitespace_of_ascii (hlead c hc)]
    cases leadingDirectiveStart text
      (text.length - (leadingExecutableSqlWithOptions text options).length) <;> rfl
  · rfl

private theorem dropWhile_ascii_of_regular (h : leadingIsRegular options text) :
    text.dropWhile isAsciiWhitespace = trimStart text := by
  rcases text with _ | ⟨ch, rest⟩
  · rfl
  rw [leadingIsRegular, length_cons, leadingIsRegularLoop] at h
  have hsplit := takeWhile_append_dropWhile (p := isAsciiWhitespace) (l := ch :: rest)
  have hlead : ∀ c ∈ (ch :: rest).takeWhile isAsciiWhitespace, isWhitespace c :=
    fun c hc => isWhitespace_of_ascii (mem_takeWhile_imp hc)
  rw [trimStart, ← hsplit, dropWhile_append_of_pos hlead, hsplit]
  rcases hbody : (ch :: rest).dropWhile isAsciiWhitespace with _ | ⟨a, later⟩
  · rfl
  rw [hbody] at h
  dsimp only at h
  split at h
  · cases h
  · next hspace => rw [dropWhile_cons_of_neg hspace]

section

variable {slice : Text} (h : leadingIsRegular options (trimEnd slice))

include h

/-- A slice and its trimmed text have the same executable part. -/
theorem executableSql_trim :
    executableSql options (trim slice) = executableSql options slice := by
  have htrim : trimEnd (trim slice) = trim slice := rdropWhile_idempotent _ _
  have hlead : ∀ c ∈ (trimEnd slice).takeWhile isAsciiWhitespace, isAsciiWhitespace c :=
    fun c hc => mem_takeWhile_imp hc
  have hsplit : (trimEnd slice).takeWhile isAsciiWhitespace ++ trim slice = trimEnd slice := by
    rw [trim_eq_trimStart_trimEnd, ← dropWhile_ascii_of_regular h, takeWhile_append_dropWhile]
  rw [executableSql_eq, executableSql_eq, htrim, ← hsplit, leadingExecutableSql_append hlead,
    executableStart_append _ hlead, drop_length_add_append]

/-- The trimmed text holds something to execute exactly if the slice has an executable part. -/
theorem hasExecutableSql_trim :
    hasExecutableSqlWithOptions (trim slice) options = (executableSql options slice).isSome := by
  have hloop := hasExecutableSqlLoop_eq_leading (trimEnd slice).length (trimEnd slice) le_rfl h
  rw [executableSql_eq, trim_eq_trimStart_trimEnd, hasExecutableSqlWithOptions, trimStart,
    hasExecutableSqlLoop_dropWhile fun _ hc => hc, hloop, leadingExecutableSqlWithOptions]
  split
  · next hempty => rw [hempty]; rfl
  · next hempty => rw [Bool.not_eq_true _ |>.mp hempty]; rfl

end

/-- `push_statement_range` pushes the executable part of its slice, if there is one. -/
theorem pushStatementRange_text (start : Nat) (slice : Text) :
    (pushStatementRange options start slice).map SqlStatementRange.text =
      (executableSql options slice).toList := by
  have heq : executableSql options slice = _ := executableSql_eq slice
  rw [executableSql] at heq ⊢
  rw [pushStatementRange]
  rcases hbounds : executableSqlBounds slice options with _ | bounds
  · rfl
  rw [hbounds, Option.map_some] at heq
  split at heq
  · cases heq
  · next hexec =>
    have htext : (slice.take bounds.2).drop bounds.1 =
        (trimEnd slice).drop (executableStart options (trimEnd slice)) := Option.some.inj heq
    have hlt : executableStart options (trimEnd slice) < (trimEnd slice).length := by
      have hsuffix : leadingExecutableSqlLoop options.profile (trimEnd slice).length
          (trimEnd slice) <:+ trimEnd slice := leadingExecutableSqlLoop_suffix _ _
      have hle := hsuffix.length_le
      have hpos := length_pos_iff.mpr fun hnil => hexec (isEmpty_iff.mpr hnil)
      rw [leadingExecutableSqlWithOptions] at hpos
      rw [executableStart, leadingExecutableSqlWithOptions]
      split
      · rcases hd : leadingDirectiveStart (trimEnd slice) _ with _ | found
        · rw [Option.getD_none]; omega
        have := leadingDirectiveStart_le hd
        rw [Option.getD_some]
        omega
      · omega
    have hne : ((slice.take bounds.2).drop bounds.1).isEmpty = false := by
      rw [htext, isEmpty_eq_false_iff, ← length_pos_iff, length_drop]
      omega
    dsimp only
    rw [hne]
    rfl

end DbxSpec.Sql
