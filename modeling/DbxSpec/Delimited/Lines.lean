import DbxSpec.Delimited.AnyQuote
import DbxSpec.Delimited.Import

/-!
# An exported file as lines of fields

A file is written from columns and rows of texts and nulls. It consists of lines of written fields,
whose values are the names and texts with their guards; only a row of one empty text may be written
as a line that holds nothing.
-/

namespace DbxSpec.Delimited

open DbxSpec.Base WrittenField List

/-! ### Writers -/

/-- How a file is written: as CSV in a quote mode, or by the TSV writer. -/
inductive DelimitedWriter
  | csv (quoteMode : CsvQuoteMode)
  | tsv
  deriving DecidableEq, Repr

namespace DelimitedWriter

/-- The format that such a file is imported as. -/
def format : DelimitedWriter → DelimitedFormat
  | csv _ => .csv
  | tsv => .tsv

variable (writer : DelimitedWriter)

/-- The characters of such a file that give it its shape. -/
def recordSyntax : RecordSyntax :=
  ⟨if writer.format = .tsv then '\t' else ',', '"'⟩

/-- Quotes are left out where they can be. -/
def sparesQuotes : DelimitedWriter → Bool
  | csv quoteMode => quoteMode == .necessary
  | tsv => true

/-- A cell that is a text or a null. -/
def cellJson : Option Text → Json
  | none => .null
  | some text => .string text

/-- The file for columns and rows, with the default literal for a null. -/
def write (display : Json → Text) (columns : List Text) (rows : List (List (Option Text))) : Text :=
  match writer with
  | csv quoteMode =>
    formatCsvWithOptions display columns (rows.map (map cellJson)) quoteMode
      (some defaultCsvNullLiteral)
  | tsv => tsvExport display columns (rows.map (map cellJson)) (some defaultCsvNullLiteral)

/-- The text of a column name or of a text cell. -/
def fieldText (value : Text) : Text :=
  match writer with
  | csv quoteMode =>
    pushCsvFieldWithFormat value (formatWithNullLiteral quoteMode (some defaultCsvNullLiteral))
  | tsv => pushTsvEscaped value

/-- The text of a cell. -/
def cellText : Option Text → Text
  | none => defaultCsvNullLiteral
  | some text => writer.fieldText text

end DelimitedWriter

/-- A value without the byte order marks at its start. -/
def withoutMark (value : Text) : Text := value.dropWhile (· == byteOrderMark)

/-! ### The file as lines of written fields -/

namespace DelimitedWriter

variable {writer : DelimitedWriter}

/-- The delimiter, the quote and the line ends differ. -/
theorem apart (writer : DelimitedWriter) : writer.recordSyntax.Apart := by
  cases writer with
  | csv quoteMode => exact ⟨show ',' ≠ '"' by decide, rfl, rfl⟩
  | tsv => exact ⟨show '\t' ≠ '"' by decide, rfl, rfl⟩

/-- The format of the fields of such a file. -/
def textFormat : DelimitedWriter → CsvTextFormat
  | csv quoteMode => formatWithNullLiteral quoteMode (some defaultCsvNullLiteral)
  | tsv => { quoteMode := .necessary, delimiter := '\t' }

private theorem fieldText_eq (value : Text) :
    writer.fieldText value = writer.textFormat.cellText value := by
  match writer with
  | .csv quoteMode => cases quoteMode <;> rfl
  | .tsv =>
    have hneeds : (value.contains '\t' || value.contains '\n' || value.contains '\r' ||
        value.contains '"') = csvFieldNeedsQuotes value '\t' '"' := by
      rw [Bool.eq_iff_iff]
      simp only [Bool.or_eq_true, contains_iff_mem, csvFieldNeedsQuotes, any_eq_true, beq_iff_eq]
      constructor
      · rintro (((h | h) | h) | h) <;> exact ⟨_, h, by simp⟩
      · rintro ⟨ch, hmem, ((rfl | rfl) | rfl) | rfl⟩ <;> simp [hmem]
    rw [fieldText, pushTsvEscaped, hneeds]
    rfl

section

variable (hwriter : writer ≠ .csv .never)

include hwriter

private theorem fieldText_spells (value : Text) :
    writer.recordSyntax.FieldSpells (writer.fieldText value) (guarded value) := by
  have hsyntax : writer.recordSyntax = writer.textFormat.recordSyntax := by cases writer <;> rfl
  rw [fieldText_eq, hsyntax]
  apply cellText_spells
  · match writer with
    | .csv quoteMode => exact fun heq => hwriter (congrArg _ heq)
    | .tsv => exact CsvQuoteMode.noConfusion
  · cases writer <;> simp [CsvTextFormat.GuardFits, textFormat, formatWithNullLiteral]

/-- A column name or text cell as a field. -/
def field (hwriter : writer ≠ .csv .never) (value : Text) : WrittenField writer.recordSyntax :=
  ⟨writer.fieldText value, guarded value, fieldText_spells hwriter value⟩

omit hwriter in
private theorem needsQuotes_null (writer : DelimitedWriter) :
    ∀ ch ∈ defaultCsvNullLiteral, writer.recordSyntax.needsQuotes ch = false := by
  intro ch hch
  rcases mem_pair.mp hch with rfl | rfl <;> cases writer <;> rfl

/-- A cell as a field. -/
def cellField (hwriter : writer ≠ .csv .never) : Option Text → WrittenField writer.recordSyntax
  | none => ⟨defaultCsvNullLiteral, defaultCsvNullLiteral, .bare _ (needsQuotes_null writer)⟩
  | some text => field hwriter text

private theorem cellField_text (cell : Option Text) :
    (cellField hwriter cell).text = writer.cellText cell := by
  cases cell <;> rfl

omit hwriter in
private theorem pushCsvValueFormatted_cell (display : Json → Text) {quoteMode : CsvQuoteMode}
    (cell : Option Text) :
    pushCsvValueFormatted display (cellJson cell)
        (formatWithNullLiteral quoteMode (some defaultCsvNullLiteral)) false =
      (csv quoteMode).cellText cell := by
  match cell, quoteMode with
  | none, _ => rfl
  | some _, .all => rfl
  | some _, .necessary => rfl
  | some _, .never => rfl
  | some _, .strings => rfl

omit hwriter in
private theorem pushTsvValue_cell (display : Json → Text) (cell : Option Text) :
    pushTsvValue display (cellJson cell) (some defaultCsvNullLiteral) = tsv.cellText cell := by
  match cell with
  | none => rfl
  | some _ => rfl

/-- The lines of a file: the names of the columns and the rows. -/
def lines (hwriter : writer ≠ .csv .never) (columns : List Text)
    (rows : List (List (Option Text))) : List (List (WrittenField writer.recordSyntax)) :=
  columns.map (field hwriter) :: rows.map (map (cellField hwriter))

private theorem line_columns (columns : List Text) :
    WrittenField.line (columns.map (field hwriter)) =
      joinTexts [writer.recordSyntax.delimiter] (columns.map writer.fieldText) := by
  rw [WrittenField.line, map_map]
  rfl

private theorem line_cells (row : List (Option Text)) :
    WrittenField.line (row.map (cellField hwriter)) =
      joinTexts [writer.recordSyntax.delimiter] (row.map writer.cellText) := by
  rw [WrittenField.line, map_map]
  congr 1
  exact map_congr_left fun cell _ => cellField_text hwriter cell

/-- A file is its lines. -/
theorem write_eq (display : Json → Text) (columns : List Text) {rows : List (List (Option Text))}
    (hrows : rows ≠ []) :
    writer.write display columns rows =
      joinTexts ['\n'] ((lines hwriter columns rows).map WrittenField.line) := by
  obtain ⟨first, rest, rfl⟩ := exists_cons_of_ne_nil hrows
  rw [lines, map_cons, line_columns, joinTexts_cons, map_map]
  have hline := line_cells hwriter
  match writer with
  | .csv quoteMode =>
    have hrow : ∀ row : List (Option Text), pushQueryResultCsvRowWithFormat display
        (row.map cellJson) (formatWithNullLiteral quoteMode (some defaultCsvNullLiteral)) =
          WrittenField.line (row.map (cellField hwriter)) := by
      intro row
      rw [hline, pushQueryResultCsvRowWithFormat, map_map]
      congr 1
      exact map_congr_left fun cell _ => pushCsvValueFormatted_cell display cell
    have hrows : ((first :: rest).map (map cellJson)).map (pushQueryResultCsvRowWithFormat
        display · (formatWithNullLiteral quoteMode (some defaultCsvNullLiteral))) =
          (first :: rest).map fun row => WrittenField.line (row.map (cellField hwriter)) := by
      rw [map_map]
      exact map_congr_left fun row _ => hrow row
    rw [write, formatCsvWithOptions, formatCsvWithFormat, hrows, map_cons, joinTexts_cons]
    simp only [formatWithNullLiteral, recordSyntax, format, flatMap_map, if_true]
    simp only [append_assoc, singleton_append, flatMap_cons, Function.comp_def]
    rfl
  | .tsv =>
    have hrow : ∀ row : List (Option Text), pushTsvRow display (row.map cellJson)
        (some defaultCsvNullLiteral) = WrittenField.line (row.map (cellField hwriter)) := by
      intro row
      rw [hline, pushTsvRow, map_map]
      congr 1
      exact map_congr_left fun cell _ => pushTsvValue_cell display cell
    have hheader : tsvExportHeader display columns =
        joinTexts ['\t'] (columns.map pushTsvEscaped) := by
      have hends : endsWith (joinTexts ['\t'] (columns.map pushTsvEscaped) ++ ['\n']) ['\n'] =
          true := isSuffixOf_iff_suffix.mpr (suffix_append _ _)
      simp [tsvExportHeader, formatTsv, show joinTexts ['\n'] [] = [] from rfl, hends]
    rw [write, tsvExport, hheader, flatMap_map, flatMap_map]
    simp [hrow, recordSyntax, format, show tsv.fieldText = pushTsvEscaped from rfl]

/-! ### The records of a file -/

/-- The value that a cell's field stands for. -/
def cellValue : Option Text → Text
  | none => defaultCsvNullLiteral
  | some text => guarded text

private theorem values_cells (row : List (Option Text)) :
    WrittenField.values (row.map (cellField hwriter)) = row.map cellValue := by
  rw [WrittenField.values, map_map]
  exact map_congr_left fun cell _ => by cases cell <;> rfl

/-- A row whose line holds nothing: one empty text, written without quotes. -/
def blankRow (writer : DelimitedWriter) (row : List (Option Text)) : Bool :=
  writer.sparesQuotes && row == [some []]

private theorem fieldText_eq_nil_iff (value : Text) :
    writer.fieldText value = [] ↔ writer.sparesQuotes ∧ value = [] := by
  have hempty : writer.textFormat.writesQuotes [] = !writer.sparesQuotes := by
    match writer with
    | .csv .all | .csv .strings | .csv .necessary | .tsv => rfl
    | .csv .never => exact absurd rfl hwriter
  rw [fieldText_eq, CsvTextFormat.cellText]
  split
  · next hquotes =>
    refine iff_of_false (by simp [quotedField]) ?_
    rintro ⟨hspares, rfl⟩
    rw [hempty, hspares] at hquotes
    cases hquotes
  · next hquotes =>
    constructor
    · intro hnil
      obtain rfl : value = [] := (append_eq_nil_iff.mp hnil).2
      exact ⟨by simpa [hempty] using hquotes, rfl⟩
    · rintro ⟨-, rfl⟩
      rfl

private theorem line_cells_eq_nil_iff {row : List (Option Text)} (hrow : row ≠ []) :
    WrittenField.line (row.map (cellField hwriter)) = [] ↔ writer.blankRow row := by
  rw [line_eq_nil_iff (by simpa using hrow), blankRow, Bool.and_eq_true, beq_iff_eq]
  constructor
  · rintro ⟨written, hwritten, htext⟩
    obtain ⟨cell, rfl, rfl⟩ := map_eq_singleton_iff.mp hwritten
    rcases cell with _ | text
    · exact absurd htext (by simp [cellField, defaultCsvNullLiteral])
    obtain ⟨hspares, rfl⟩ := (fieldText_eq_nil_iff hwriter text).mp htext
    exact ⟨hspares, rfl⟩
  · rintro ⟨hspares, rfl⟩
    exact ⟨_, rfl, (fieldText_eq_nil_iff hwriter []).mpr ⟨hspares, rfl⟩⟩

/-- The rows of a file come back as the values of their cells, but for blank ones. -/
theorem recordsOf_rows {rows : List (List (Option Text))} (hrows : ∀ row ∈ rows, row ≠ []) :
    RecordSyntax.recordsOf (rows.map (map (cellField hwriter))) =
      (rows.filter (!writer.blankRow ·)).map (map cellValue) := by
  rw [RecordSyntax.recordsOf, filter_map, map_map]
  have hfilter : rows.filter ((fun fields => !(WrittenField.line fields).isEmpty) ∘
      map (cellField hwriter)) = rows.filter (!writer.blankRow ·) := by
    apply filter_congr
    intro row hrow
    rw [Function.comp_apply, Bool.eq_iff_iff, Bool.not_eq_true', Bool.not_eq_true',
      ← Bool.not_eq_true, ← Bool.not_eq_true, List.isEmpty_iff,
      line_cells_eq_nil_iff hwriter (hrows row hrow)]
  rw [hfilter]
  exact map_congr_left fun row _ => values_cells hwriter row

end

/-! ### The byte order mark -/

/-- Where the text starts with a byte order mark, that is the start of a bare first field. -/
theorem exists_dropByteOrderMark (writer : DelimitedWriter)
    {fields : List (WrittenField writer.recordSyntax)} (hfields : fields ≠ []) {rest : Text}
    (hrest : rest.head? ≠ some byteOrderMark) :
    ∃ fields' : List (WrittenField writer.recordSyntax), fields' ≠ [] ∧
      dropByteOrderMark (WrittenField.line fields ++ rest) = WrittenField.line fields' ++ rest ∧
      (WrittenField.values fields').map withoutMark =
        (WrittenField.values fields).map withoutMark := by
  have hdelimiter : writer.recordSyntax.delimiter ≠ byteOrderMark := by
    cases writer with
    | csv quoteMode => exact show ',' ≠ byteOrderMark by decide
    | tsv => exact show '\t' ≠ byteOrderMark by decide
  obtain ⟨⟨text, value, spells⟩, others, rfl⟩ := exists_cons_of_ne_nil hfields
  by_cases hmark : text.head? = some byteOrderMark
  · obtain ⟨tail, rfl⟩ := head?_eq_some_iff.mp hmark
    cases spells with
    | bare _ hplain =>
      have htail := RecordSyntax.FieldSpells.bare tail fun ch hch => hplain ch (by simp [hch])
      refine ⟨⟨tail, tail, htail⟩ :: others, by simp, ?_, ?_⟩
      · cases others with
        | nil => simp [line_singleton, dropByteOrderMark]
        | cons next others => simp [line_cons_cons, dropByteOrderMark]
      · rw [values_cons, values_cons, map_cons, map_cons]
        congr 1
  · refine ⟨_, by simp, ?_, rfl⟩
    have hhead : (WrittenField.line (⟨text, value, spells⟩ :: others) ++ rest).head? ≠
        some byteOrderMark := by
      cases others with
      | nil =>
        rw [line_singleton]
        cases text with
        | nil => simpa using hrest
        | cons ch text => simpa using hmark
      | cons next others =>
        rw [line_cons_cons]
        cases text with
        | nil => simpa using hdelimiter
        | cons ch text => simpa using hmark
    generalize WrittenField.line (⟨text, value, spells⟩ :: others) ++ rest = whole at hhead
    cases whole with
    | nil => rfl
    | cons ch whole =>
      exact if_neg fun heq => hhead (by rw [heq]; rfl)

end DelimitedWriter

end DbxSpec.Delimited
