import DbxSpec.Delimited.Export

/-!
# Rows under any delimiter and quote

`csv_export.rs:182-237` and `415-422` for the characters that a request may choose. A row is read
back as its guarded cells unless the quote takes several bytes and stands in a cell, or the
apostrophe of a guard is the quote or an unprotected delimiter.
-/

namespace DbxSpec.Delimited

open DbxSpec.Base RecordSyntax List

namespace CsvTextFormat

variable (format : CsvTextFormat)

/-- The characters that give a row its shape. -/
def recordSyntax : RecordSyntax := ⟨format.delimiter, format.quoteChar⟩

/-- `csv_export.rs:213`: the text is escaped between quotes. -/
def writesQuotes (value : Text) : Bool :=
  match format.quoteMode with
  | .all | .strings => true
  | .necessary => csvFieldNeedsQuotes value format.delimiter format.quoteChar
  | .never => false

/-- `csv_export.rs:188`: the slice `rest[..=pos]` ends one byte after the start of a quote, which
panics inside of a character unless the quote takes one byte. -/
def slicesFit (value : Text) : Bool :=
  format.quoteChar.utf8Size == 1 || !value.contains format.quoteChar

/-- `csv_export.rs:415` for a row of texts; nothing where a slice panics. -/
def pushTextRow (display : Json → Text) (row : List Text) : Option Text :=
  if row.all fun value => !format.writesQuotes value || format.slicesFit value then
    some (pushQueryResultCsvRowWithFormat display (row.map .string) format)
  else none

/-- The apostrophe of a guard is not the quote, and as the delimiter it stands between quotes. -/
def GuardFits (value : Text) : Prop :=
  takesFormulaGuard value →
    format.quoteChar ≠ '\'' ∧ (format.delimiter = '\'' → format.writesQuotes value)

end CsvTextFormat

open CsvTextFormat RecordState

/-- A value with its guard. -/
def guarded (value : Text) : Text := pushFormulaGuard value ++ value

/-- The guard is an apostrophe. -/
theorem guarded_eq (value : Text) :
    guarded value = if takesFormulaGuard value then '\'' :: value else value := by
  unfold guarded pushFormulaGuard
  split <;> rfl

/-- The fields of a line from a place in it, if the line ends outside of quotes. -/
def readFrom (d : RecordSyntax) (s : RecordState) (text : Text) : Option (List Text) :=
  let s := d.run s text
  if s.mode ≠ .quoted ∧ s.records = [] then some (s.fields ++ [s.field]) else none

/-- The fields of a line. -/
def readRow (d : RecordSyntax) (text : Text) : Option (List Text) :=
  readFrom d ⟨.startField, [], [], []⟩ text

/-! ### What has been read stays -/

section

variable {d : RecordSyntax} {s : RecordState} {text : Text} {fields : List Text}

private theorem step_extends (d : RecordSyntax) (s : RecordState) (ch : Char) :
    (d.step s ch).records = s.records ∧ (s.field <+: (d.step s ch).field ∧
      (d.step s ch).fields = s.fields ∨ (d.step s ch).fields = s.fields ++ [s.field]) ∨
    (d.step s ch).records ≠ [] := by
  unfold RecordSyntax.step
  split_ifs <;> simp [push, endField, endRecord, fresh]

private theorem readFrom_cons (ch : Char) :
    readFrom d s (ch :: text) = readFrom d (d.step s ch) text := rfl

private theorem readFrom_extends (h : readFrom d s text = some fields) :
    s.records = [] ∧ ∃ field later, fields = s.fields ++ field :: later ∧ s.field <+: field := by
  induction text generalizing s with
  | nil =>
    obtain ⟨⟨-, hrecords⟩, ⟨rfl⟩⟩ := Option.ite_none_right_eq_some.mp h
    exact ⟨hrecords, s.field, [], rfl, prefix_rfl⟩
  | cons ch text ih =>
    obtain ⟨hrecords, field, later, rfl, hfield⟩ := ih h
    rcases step_extends d s ch with ⟨hsame, ⟨hmore, hfields⟩ | hfields⟩ | hended
    · exact ⟨hsame ▸ hrecords, field, later, by rw [hfields], hmore.trans hfield⟩
    · exact ⟨hsame ▸ hrecords, s.field, field :: later, by simp [hfields], prefix_rfl⟩
    · exact absurd hrecords hended

private theorem field_isPrefix {field : Text} {others : List Text}
    (h : readFrom d s text = some (s.fields ++ field :: others)) : s.field <+: field := by
  obtain ⟨-, _, _, hfields, hfield⟩ := readFrom_extends h
  exact (cons.inj (append_cancel_left hfields)).1 ▸ hfield

private theorem not_readFrom_escaped {d : RecordSyntax} (hd : d.Apart) {later : Text}
    (hlater : later = [] ∨ later.head? = some d.delimiter) (others : List Text) (cell : Text) :
    ∀ s : RecordState, s.mode = .quoteInQuoted →
      readFrom d s (cell.flatMap d.escapeQuote ++ d.quote :: later) ≠
        some (s.fields ++ (s.field ++ d.quote :: cell) :: others) := by
  have hquote : (d.quote == d.delimiter) = false := by simpa using hd.delimiter_ne_quote.symm
  have hline := hd.quote_lineEnd
  induction cell with
  | nil =>
    intro s hmode h
    have hstep : d.step s d.quote = s.push .quoted d.quote := by simp [step, hmode, hquote, hline]
    rw [flatMap_nil, nil_append, readFrom_cons, hstep] at h
    rcases hlater with rfl | hlater
    · cases h
    · obtain ⟨more, rfl⟩ := head?_eq_some_iff.mp hlater
      have hdelimiter : d.step (s.push .quoted d.quote) d.delimiter =
          (s.push .quoted d.quote).push .quoted d.delimiter := by
        simp [step, push, hd.delimiter_ne_quote]
      rw [readFrom_cons, hdelimiter] at h
      simpa [push] using (field_isPrefix h).length_le
  | cons ch cell ih =>
    intro s hmode h
    by_cases hch : ch = d.quote
    · subst hch
      have hsteps : d.run s (d.escapeQuote d.quote) =
          { s.push .quoted d.quote with mode := .quoteInQuoted } := by
        simp [escapeQuote, step, push, hmode, hquote, hline]
      rw [flatMap_cons, append_assoc, readFrom, run_append, hsteps] at h
      refine ih { s.push .quoted d.quote with mode := .quoteInQuoted } rfl (h.trans ?_)
      simp [push]
    · have hescape : d.escapeQuote ch = [ch] := if_neg (by simpa using hch)
      have hstep : d.step s ch = if ch == d.delimiter then s.endField
          else if isLineEnd ch then s.endRecord else s.push .bare ch := by
        simp [step, hmode, hch]
      rw [flatMap_cons, hescape, cons_append, nil_append, cons_append, readFrom_cons, hstep] at h
      obtain ⟨hrecords, field, rest, hfields, hfield⟩ := readFrom_extends h
      split_ifs at hrecords hfields hfield
      · have hsame := (cons.inj (append_cancel_left (hfields.trans (append_assoc _ _ _)))).1
        simpa using congrArg List.length hsame
      · simp [endRecord, fresh] at hrecords
      · obtain rfl := (cons.inj (append_cancel_left hfields)).1
        exact hch (cons_prefix_cons.mp ((prefix_append_right_inj s.field).mp hfield)).1

end

/-! ### Cells -/

section

variable {format : CsvTextFormat} {s : RecordState} {cell : Text}

/-- A cell as it stands in a row. -/
def CsvTextFormat.cellText (format : CsvTextFormat) (cell : Text) : Text :=
  if format.writesQuotes cell then quotedField cell format.quoteChar else guarded cell

private theorem pushCsvValueFormatted_string (display : Json → Text) (cell : Text) :
    pushCsvValueFormatted display (.string cell) format false = format.cellText cell := by
  obtain ⟨mode, delimiter, quoteChar, header, literal⟩ := format
  cases mode <;> rfl

variable (hmode : format.quoteMode ≠ .never) (hd : format.recordSyntax.Apart)

include hmode

private theorem needsQuotes_of_bare (h : format.writesQuotes cell = false) :
    ∀ ch ∈ cell, format.recordSyntax.needsQuotes ch = false := by
  rw [writesQuotes] at h
  split at h
  · cases h
  · cases h
  · exact fun ch hch => (Bool.not_eq_true _).mp (any_eq_false.mp h ch hch)
  · next hnever => exact absurd hnever hmode

/-- A cell is a written field if its guard fits. -/
theorem cellText_spells (hguard : format.GuardFits cell) :
    format.recordSyntax.FieldSpells (format.cellText cell) (guarded cell) := by
  unfold CsvTextFormat.cellText
  split
  · have hescape : (pushFormulaGuard cell).flatMap format.recordSyntax.escapeQuote =
        pushFormulaGuard cell := by
      unfold pushFormulaGuard
      split
      · next htakes => simp [escapeQuote, recordSyntax, (hguard htakes).1.symm]
      · rfl
    have htext : quotedField cell format.quoteChar =
        format.recordSyntax.quotedText (guarded cell) := by
      rw [quotedText, guarded, flatMap_append, hescape]
      rfl
    rw [htext]
    exact .quoted _
  · next hquotes =>
    have hplain := needsQuotes_of_bare hmode ((Bool.not_eq_true _).mp hquotes)
    refine .bare _ fun ch hch => ?_
    rw [guarded_eq] at hch
    split at hch
    · next htakes =>
      obtain ⟨hquote, hdelimiter⟩ := hguard htakes
      rcases mem_cons.mp hch with rfl | hch
      · have hne : format.delimiter ≠ '\'' := fun heq => hquotes (hdelimiter heq)
        simp [needsQuotes, recordSyntax, isLineEnd, hquote.symm, hne.symm]
      · exact hplain ch hch
    · exact hplain ch hch

include hd

private theorem not_readFrom_cell (hguard : ¬format.GuardFits cell) {later : Text}
    (hlater : later = [] ∨ later.head? = some format.delimiter) (others : List Text)
    (hs : s.mode = .startField) (hfield : s.field = []) :
    readFrom format.recordSyntax s (format.cellText cell ++ later) ≠
      some (s.fields ++ guarded cell :: others) := by
  rw [GuardFits, Classical.not_imp, not_and_or, not_not, Classical.not_imp] at hguard
  obtain ⟨htakes, hquote | ⟨hdelimiter, hquotes⟩⟩ := hguard
  all_goals rw [guarded_eq, if_pos htakes]
  · have hopens : format.recordSyntax.step s '\'' = { s with mode := .quoted } := by
      have hne : ('\'' == format.delimiter) = false := by
        simpa [recordSyntax, hquote] using hd.delimiter_ne_quote.symm
      simp [step, hs, recordSyntax, hquote, hne, isLineEnd]
    intro h
    unfold CsvTextFormat.cellText at h
    split at h
    · -- the guard closes the quotes
      have hcloses : format.recordSyntax.step { s with mode := .quoted } '\'' =
          { s with mode := .quoteInQuoted } := by
        simp [step, recordSyntax, hquote]
      have htext : quotedField cell format.quoteChar ++ later = '\'' :: '\'' ::
          (cell.flatMap format.recordSyntax.escapeQuote ++ format.recordSyntax.quote :: later) := by
        simp only [quotedField, pushFormulaGuard, htakes, if_true, hquote, recordSyntax,
          cons_append, nil_append, append_assoc]
        rfl
      rw [htext, readFrom_cons, hopens, readFrom_cons, hcloses] at h
      refine not_readFrom_escaped hd hlater others cell { s with mode := .quoteInQuoted } rfl ?_
      rw [h, hfield]
      simp [recordSyntax, hquote]
    · -- the guard opens quotes
      next hquotes =>
      rcases cell with _ | ⟨ch, cell⟩
      · cases htakes
      have hplain := needsQuotes_of_bare hmode ((Bool.not_eq_true _).mp hquotes) ch mem_cons_self
      have hch : (ch == '\'') = false := by
        rw [needsQuotes, Bool.or_eq_false_iff] at hplain
        exact hquote ▸ hplain.2
      have hstep : format.recordSyntax.step { s with mode := .quoted } ch =
          s.push .quoted ch := by
        simp [step, recordSyntax, hquote, hch, push]
      rw [guarded_eq, if_pos htakes, cons_append, readFrom_cons, hopens, cons_append,
        readFrom_cons, hstep] at h
      have hstart := field_isPrefix (s := s.push .quoted ch) h
      rw [push, hfield] at hstart
      simp at hch
      exact hch (cons_prefix_cons.mp hstart).1
  · intro h
    have hends : format.recordSyntax.step s '\'' = s.endField := by
      simp [step, hs, recordSyntax, hdelimiter]
    rw [CsvTextFormat.cellText, if_neg hquotes, guarded_eq, if_pos htakes, cons_append,
      readFrom_cons, hends] at h
    obtain ⟨-, field, rest, hfields, -⟩ := readFrom_extends h
    have hsame := (cons.inj (append_cancel_left (hfields.trans (append_assoc _ _ _)))).1
    rw [hfield] at hsame
    cases hsame

private theorem readFrom_row_iff (row : List Text) (hrow : row ≠ []) :
    ∀ s : RecordState, s.mode = .startField → s.field = [] → s.records = [] →
      (readFrom format.recordSyntax s (joinTexts [format.delimiter] (row.map format.cellText)) =
        some (s.fields ++ row.map guarded) ↔ ∀ cell ∈ row, format.GuardFits cell) := by
  induction row with
  | nil => exact absurd rfl hrow
  | cons cell row ih =>
    intro s hs hfield hrecords
    obtain ⟨later, htext, hlater⟩ : ∃ later, joinTexts [format.delimiter]
        ((cell :: row).map format.cellText) = format.cellText cell ++ later ∧
        (later = [] ∨ later.head? = some format.delimiter) := by
      cases row <;> exact ⟨_, joinTexts_cons _ _ _, by simp⟩
    rw [forall_mem_cons]
    by_cases hguard : format.GuardFits cell
    · obtain ⟨mode, hrun, hquoted, -⟩ := run_field hd
        ⟨_, _, cellText_spells hmode hguard⟩ hfield (.inr hs)
      rw [and_iff_right hguard]
      cases row with
      | nil =>
        refine iff_of_true ?_ (by simp)
        rw [map_singleton, joinTexts_cons, flatMap_nil, append_nil, readFrom, hrun]
        exact if_pos ⟨hquoted, hrecords⟩
      | cons next others =>
        have hnext := ih (cons_ne_nil _ _)
          ({ s with mode := mode, field := guarded cell } : RecordState).endField rfl rfl hrecords
        rw [← hnext]
        have hjoin : joinTexts [format.delimiter] ((cell :: next :: others).map format.cellText) =
            format.cellText cell ++ format.delimiter ::
              joinTexts [format.delimiter] ((next :: others).map format.cellText) := by
          simp [joinTexts, intercalate_cons_cons]
        rw [hjoin, readFrom, run_append, hrun, run_cons,
          show format.delimiter = format.recordSyntax.delimiter from rfl, step_delimiter hquoted]
        simp [readFrom, endField]
    · refine iff_of_false ?_ (fun h => hguard h.1)
      rw [htext]
      exact not_readFrom_cell hmode hd hguard hlater _ hs hfield

end

/-- A row of texts is written and read back as its guarded cells iff no quote of several bytes
stands in a cell and all guards fit. A row without cells is read as one empty field. -/
theorem pushTextRow_read_iff (display : Json → Text) (format : CsvTextFormat) (row : List Text)
    (hmode : format.quoteMode ≠ .never) (hd : format.recordSyntax.Apart) :
    (format.pushTextRow display row).bind (readRow format.recordSyntax) =
        some (if row = [] then [[]] else row.map guarded) ↔
      ∀ cell ∈ row, (format.quoteChar.utf8Size = 1 ∨ format.quoteChar ∉ cell) ∧
        format.GuardFits cell := by
  have hslices (cell : Text) : (!format.writesQuotes cell || format.slicesFit cell) ↔
      (format.quoteChar.utf8Size = 1 ∨ format.quoteChar ∉ cell) := by
    cases hquotes : format.writesQuotes cell with
    | true => simp [slicesFit]
    | false =>
      refine iff_of_true rfl (.inr fun hmem => ?_)
      have hplain := needsQuotes_of_bare hmode hquotes _ hmem
      simp [needsQuotes, recordSyntax] at hplain
  rw [pushTextRow]
  split
  · next hall =>
    rw [all_eq_true] at hall
    have htext : pushQueryResultCsvRowWithFormat display (row.map .string) format =
        joinTexts [format.delimiter] (row.map format.cellText) := by
      rw [pushQueryResultCsvRowWithFormat, map_map]
      exact congrArg _ (map_congr_left fun cell _ => pushCsvValueFormatted_string display cell)
    by_cases hrow : row = []
    · subst hrow
      exact iff_of_true rfl (by simp)
    · rw [if_neg hrow, htext, Option.bind_some]
      refine (readFrom_row_iff hmode hd row hrow _ rfl rfl rfl).trans ?_
      exact forall₂_congr fun cell hcell =>
        (and_iff_right ((hslices cell).mp (hall cell hcell))).symm
  · next hnone =>
    refine iff_of_false (by simp) fun h => hnone (all_eq_true.mpr fun cell hcell => ?_)
    exact (hslices cell).mpr (h cell hcell).1

/-- Apostrophes as delimiters, a guard between quotes and a cell with the delimiter in it. -/
theorem pushTextRow_read_apostrophe :
    ((⟨.strings, '\'', '"', true, none⟩ : CsvTextFormat).pushTextRow (fun _ => [])
        ["=1", "it's"]).bind (readRow ⟨'\'', '"'⟩) =
      some ["'=1".toList, "it's".toList] :=
  (pushTextRow_read_iff _ ⟨.strings, '\'', '"', true, none⟩ _ (by decide)
    ⟨by decide, rfl, rfl⟩).mpr fun _ _ => ⟨.inl rfl, fun _ => ⟨by decide, fun _ => rfl⟩⟩

/-- With apostrophes for quotes the guard closes the field, and a quote of two bytes in a cell is
cut. -/
theorem pushTextRow_misread :
    ((⟨.all, ',', '\'', true, none⟩ : CsvTextFormat).pushTextRow (fun _ => []) ["=1"]).bind
        (readRow ⟨',', '\''⟩) ≠ some [guarded "=1"] ∧
      (⟨.all, ',', 'é', true, none⟩ : CsvTextFormat).pushTextRow (fun _ => []) [['é']] = none := by
  decide

end DbxSpec.Delimited
