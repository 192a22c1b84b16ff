import DbxSpec.Delimited.Lines

/-!
# An exported file read back

A file is written from columns and rows of texts and nulls, and read under the default options. The
apostrophe that guards a cell is written into the file and stays in what is read; what comes back
unchanged is told by `ReadsBack`.
-/

namespace DbxSpec.Delimited

open DbxSpec.Base DelimitedWriter List WrittenField

/-! ### Names -/

/-- A name that is read as it was written: no guard and no byte order mark at its start. -/
def nameReadsBack (column : Text) : Bool :=
  !takesFormulaGuard column && column.head? != some byteOrderMark

private theorem trimEnd_eq_self {text : Text} (htrim : trim text = text) : trimEnd text = text := by
  rw [← htrim]
  exact rdropWhile_idempotent _ _

private theorem trim_cons {ch : Char} {text : Text} (hch : isWhitespace ch = false)
    (htrim : trim text = text) (htext : text ≠ []) : trim (ch :: text) = ch :: text := by
  have hstart : trimStart (ch :: text) = ch :: text := dropWhile_cons_of_neg (by simp [hch])
  have hend := trimEnd_eq_self htrim
  rw [trimEnd] at hend
  rw [trim, hstart, trimEnd, ← singleton_append, rdropWhile_append, hend, if_neg htext]

private theorem normalizeHeader_of_trimmed {text : Text} (htrim : trim text = text)
    (htext : text ≠ []) (index : Nat) : normalizeHeader text index = text := by
  rw [normalizeHeader]
  simp only [htrim]
  exact if_neg (by simpa using htext)

private theorem withoutMark_guarded {column : Text} (hback : nameReadsBack column) :
    withoutMark (guarded column) = column := by
  simp only [nameReadsBack, Bool.and_eq_true, Bool.not_eq_true', bne_iff_ne] at hback
  rw [guarded_eq, hback.1, if_neg (by simp)]
  cases column with
  | nil => rfl
  | cons ch rest => exact dropWhile_cons_of_neg (by simpa using hback.2)

private theorem length_le_numberedHeader (header : Text) (k : Nat) :
    header.length ≤ (numberedHeader header k).length := by
  unfold numberedHeader
  split <;> simp

/-- A byte order mark at the start of a name is lost: what is left has as many low lines, so that
a number would show, and it is shorter than the name. -/
theorem numberedHeader_ne_of_mark {column : Text} (hhead : column.head? = some byteOrderMark)
    (index k : Nat) :
    numberedHeader (normalizeHeader (withoutMark column) index) k ≠ column := by
  obtain ⟨rest, rfl⟩ := head?_eq_some_iff.mp hhead
  have hdrop : withoutMark (byteOrderMark :: rest) = withoutMark rest :=
    dropWhile_cons_of_pos (by simp)
  have hrest : rest = rest.takeWhile (· == byteOrderMark) ++ withoutMark rest :=
    takeWhile_append_dropWhile.symm
  have hmarks : (rest.takeWhile (· == byteOrderMark)).count '_' = 0 := by
    apply count_eq_zero_of_not_mem
    intro hmem
    exact absurd (mem_takeWhile_imp hmem) (by decide)
  obtain ⟨lead, trail, htrim, hlead, htrail⟩ := trim_decompose (withoutMark rest)
  have hlow : ∀ {text : Text}, (∀ ch ∈ text, isWhitespace ch) → text.count '_' = 0 := by
    intro text htext
    apply count_eq_zero_of_not_mem
    exact fun hmem => absurd (htext '_' hmem) (by decide)
  intro heq
  rw [hdrop, normalizeHeader] at heq
  by_cases hempty : (trim (withoutMark rest)).isEmpty
  · -- the column is named by its position
    have hhead := congrArg head? heq
    unfold numberedHeader columnName at hhead
    split at hhead <;> exact absurd hhead (by simp [byteOrderMark])
  · simp only [if_neg hempty] at heq
    have hcount := congrArg (count '_') heq
    have hlength := congrArg length heq
    have hle : (trim (withoutMark rest)).length ≤ rest.length := by
      conv_rhs => rw [hrest, htrim]
      simp only [length_append]
      omega
    have hsame : rest.count '_' = (trim (withoutMark rest)).count '_' := by
      conv_lhs => rw [hrest, htrim]
      simp only [count_append, hmarks, hlow hlead, hlow htrail]
      omega
    unfold numberedHeader at hcount hlength
    split at hcount
    · next hzero =>
      rw [if_pos hzero, length_cons] at hlength
      omega
    · rw [count_append, count_cons_self, count_cons_of_ne (by decide), hsame] at hcount
      omega

private theorem nameReadsBack_of_numberedHeader {column : Text} (htrim : trim column = column)
    (hcolumn : column ≠ []) {index k : Nat}
    (heq : numberedHeader (normalizeHeader (withoutMark (guarded column)) index) k = column) :
    nameReadsBack column := by
  simp only [nameReadsBack, Bool.and_eq_true, Bool.not_eq_true', bne_iff_ne]
  by_cases hguard : takesFormulaGuard column
  · -- a guarded name is longer than it was
    have hmark : withoutMark ('\'' :: column) = '\'' :: column := dropWhile_cons_of_neg (by decide)
    rw [guarded_eq, if_pos hguard, hmark, normalizeHeader_of_trimmed
      (trim_cons (by decide) htrim hcolumn) (by simp)] at heq
    have hlength := length_le_numberedHeader ('\'' :: column) k
    rw [heq, length_cons] at hlength
    omega
  · refine ⟨by simpa using hguard, fun hhead => ?_⟩
    rw [guarded_eq, if_neg hguard] at heq
    exact numberedHeader_ne_of_mark hhead index k heq

private theorem titleColumns_eq_iff (lower : Text → Text) {columns : List Text} {title : List Text}
    (htitle : title.map withoutMark = (columns.map guarded).map withoutMark)
    (hdistinct : (columns.map lower).Nodup)
    (hcolumns : ∀ column ∈ columns, trim column = column ∧ column ≠ []) :
    titleColumns lower title = columns ↔ ∀ column ∈ columns, nameReadsBack column := by
  have hlength : title.length = columns.length := by
    simpa using congrArg length htitle
  have hheaders : (title.mapIdx fun index header =>
      normalizeHeader (header.dropWhile (· == byteOrderMark)) index) =
      columns.mapIdx fun index column => normalizeHeader (withoutMark (guarded column)) index := by
    apply ext_getElem
    · simpa using hlength
    · intro index hleft hright
      have hvalue := getElem_of_eq htitle (i := index) (by simpa using hleft)
      rw [getElem_map, getElem_map, getElem_map] at hvalue
      rw [getElem_mapIdx, getElem_mapIdx, ← hvalue]
      rfl
  rw [titleColumns, hheaders]
  constructor
  · intro heq column hmem
    obtain ⟨index, hindex, rfl⟩ := getElem_of_mem hmem
    have hcandidates := uniqueImportHeaders_candidates lower
      (columns.mapIdx fun index column => normalizeHeader (withoutMark (guarded column)) index)
    rw [heq] at hcandidates
    obtain ⟨k, hk⟩ := hcandidates.get hindex (by simpa using hindex)
    obtain ⟨htrim, hne⟩ := hcolumns columns[index] hmem
    have hnumbered : numberedHeader
        (normalizeHeader (withoutMark (guarded columns[index])) index) k = columns[index] := by
      simpa using hk.symm
    exact nameReadsBack_of_numberedHeader htrim hne hnumbered
  · intro hback
    have hnames : (columns.mapIdx fun index column =>
        normalizeHeader (withoutMark (guarded column)) index) = columns := by
      apply ext_getElem
      · simp
      · intro index hleft hright
        obtain ⟨htrim, hne⟩ := hcolumns columns[index] (getElem_mem hright)
        rw [getElem_mapIdx, withoutMark_guarded (hback _ (getElem_mem hright))]
        exact normalizeHeader_of_trimmed htrim hne index
    rw [hnames]
    exact uniqueImportHeaders_eq lower hdistinct

/-! ### Cells -/

/-- A cell that is read as it was written: a null, or a text without guard that is not the
literal. -/
def cellReadsBack : Option Text → Bool
  | none => true
  | some text => !takesFormulaGuard text && text != defaultCsvNullLiteral

variable (format : DelimitedFormat)

/-- The configuration that the default options come to. -/
def defaultConfig : DelimitedParseConfig where
  delimiter := if format = .tsv then '\t' else ','
  decimalSeparator := '.'
  trimValues := false
  emptyStringAsNull := false
  nullLiteral := some defaultCsvNullLiteral
  rowRange := ⟨some 1, 2, none⟩

private theorem unwrapCsvForceText_of_ne {value : Text} (h : value.head? ≠ some '=') :
    unwrapCsvForceText value = value := by
  unfold unwrapCsvForceText
  split
  · exact absurd rfl h
  · rfl

private theorem csvValueWithConfig_default {value : Text} (h : value.head? ≠ some '=') :
    csvValueWithConfig value (defaultConfig format) =
      if value = defaultCsvNullLiteral then .null else .string value := by
  simp only [csvValueWithConfig, defaultConfig, Bool.false_eq_true, if_false, Bool.false_and,
    unwrapCsvForceText_of_ne h, show ('.' == ',') = false from rfl, beq_iff_eq, Option.some.injEq,
    eq_comm (a := defaultCsvNullLiteral)]

private theorem csvValueWithConfig_cell_iff (cell : Option Text) :
    csvValueWithConfig (cellValue cell) (defaultConfig format) =
      cellJson cell ↔ cellReadsBack cell := by
  cases cell with
  | none =>
    exact ⟨fun _ => rfl, fun _ => rfl⟩
  | some text =>
    rw [cellValue, cellJson, cellReadsBack, guarded_eq]
    by_cases hguard : takesFormulaGuard text
    · rw [if_pos hguard, csvValueWithConfig_default format (by simp),
        if_neg (by simp [defaultCsvNullLiteral])]
      simp [hguard]
    · have hhead : text.head? ≠ some '=' := by
        intro hhead
        obtain ⟨rest, rfl⟩ := head?_eq_some_iff.mp hhead
        exact hguard (takesFormulaGuard_equals rest)
      rw [if_neg hguard, csvValueWithConfig_default format hhead]
      by_cases hnull : text = defaultCsvNullLiteral <;> simp [hguard, hnull]

/-! ### The file -/

/-- The rows and columns that come back as they were. -/
structure ReadsBack (writer : DelimitedWriter) (columns : List Text)
    (rows : List (List (Option Text))) : Prop where
  names : ∀ column ∈ columns, nameReadsBack column
  lines : ∀ row ∈ rows, writer.blankRow row = false
  cells : ∀ row ∈ rows, ∀ cell ∈ row, cellReadsBack cell

section File

variable {writer : DelimitedWriter} {rows : List (List (Option Text))} {columns : List Text}

private theorem parseDelimited_default (lower : Text → Text) (writer : DelimitedWriter)
    (previewLimit : Nat) (text : Text) :
    parseDelimited lower writer.format {} previewLimit text =
      parseCsvReaderInner lower (writer.recordSyntax.readRecords (dropByteOrderMark text))
        (defaultConfig writer.format) previewLimit true := by
  rfl

private theorem exists_readRecords_write (hwriter : writer ≠ .csv .never) (display : Json → Text)
    (hcolumns : columns ≠ []) (hrows : rows ≠ []) (hcells : ∀ row ∈ rows, row ≠ []) :
    ∃ fields : List (WrittenField writer.recordSyntax), fields ≠ [] ∧
      (values fields).map withoutMark = (columns.map guarded).map withoutMark ∧
      writer.recordSyntax.readRecords (dropByteOrderMark (writer.write display columns rows)) =
        (if line fields = [] then [] else [values fields]) ++
          (rows.filter (!writer.blankRow ·)).map (map cellValue) := by
  have hrest : (((rows.map (map (cellField hwriter))).map
      line).flatMap (['\n'] ++ ·)).head? ≠ some byteOrderMark := by
    cases rows with
    | nil => exact absurd rfl hrows
    | cons row rows => exact show some '\n' ≠ some byteOrderMark by decide
  have htitle : columns.map (field hwriter) ≠ [] := by simpa using hcolumns
  obtain ⟨fields, hfields, hdrop, hvalues⟩ := writer.exists_dropByteOrderMark htitle hrest
  refine ⟨fields, hfields, ?_, ?_⟩
  · rw [hvalues, values, map_map, map_map, map_map]
    rfl
  · have hlines : ∀ line ∈ fields :: rows.map (map (cellField hwriter)), line ≠ [] := by
      intro line hline
      rcases mem_cons.mp hline with rfl | hmem
      · exact hfields
      · obtain ⟨row, hrow, rfl⟩ := mem_map.mp hmem
        simpa using hcells row hrow
    rw [write_eq hwriter display columns hrows, lines, map_cons, joinTexts_cons, hdrop,
      ← joinTexts_cons, ← map_cons, RecordSyntax.readRecords_lines writer.apart _ hlines,
      RecordSyntax.recordsOf_cons, recordsOf_rows hwriter hcells]

private theorem map_delimitedRecordToRow (config : DelimitedParseConfig) {width : Nat}
    (hwidth : ∀ row ∈ rows, row.length = width) :
    (rows.map (map cellValue)).map (delimitedRecordToRow · width config) =
      rows.map (map fun cell => csvValueWithConfig (cellValue cell) config) := by
  rw [map_map]
  apply map_congr_left
  intro row hrow
  have hlength : (row.map cellValue).length = width := by
    rw [length_map, hwidth row hrow]
  rw [Function.comp_apply, ← hlength, delimitedRecordToRow_length, map_map]
  rfl

private theorem rows_eq_iff (format : DelimitedFormat) : rows.map (map fun cell =>
        csvValueWithConfig (cellValue cell) (defaultConfig format)) =
      rows.map (map cellJson) ↔
      ∀ row ∈ rows, ∀ cell ∈ row, cellReadsBack cell := by
  simp only [map_inj_left, csvValueWithConfig_cell_iff]

private theorem not_names_of_line_eq_nil {d : RecordSyntax} {fields : List (WrittenField d)}
    (hfields : fields ≠ []) (hline : line fields = [])
    (hvalues : (values fields).map withoutMark = (columns.map guarded).map withoutMark)
    (hcolumns : ∀ column ∈ columns, column ≠ []) :
    ¬ ∀ column ∈ columns, nameReadsBack column := by
  intro hback
  obtain ⟨⟨text, value, spells⟩, rfl, htext⟩ := (line_eq_nil_iff hfields).mp hline
  cases spells with
  | quoted _ => exact absurd htext (by simp [RecordSyntax.quotedText])
  | bare _ hplain =>
    have hnil : text = [] := htext
    subst hnil
    have hsingle : [[]] = (columns.map guarded).map withoutMark := hvalues
    rw [map_map] at hsingle
    obtain ⟨column, rfl, hcolumn⟩ := map_eq_singleton_iff.mp hsingle.symm
    rw [Function.comp_apply, withoutMark_guarded (hback column (by simp))] at hcolumn
    exact hcolumns column (by simp) hcolumn

/-- **An exported file is imported as it was** exactly if no column name and no text is written with
a guard, no name starts with a byte order mark, no text is the literal for a null, and no row is a
single empty text that is written without quotes. -/
theorem parseDelimited_write_iff (lower : Text → Text) (display : Json → Text)
    (hwriter : writer ≠ .csv .never) (hcolumns : columns ≠ [])
    (hdistinct : (columns.map lower).Nodup)
    (hnames : ∀ column ∈ columns, trim column = column ∧ column ≠ []) (hrows : rows ≠ [])
    (hwidth : ∀ row ∈ rows, row.length = columns.length) {previewLimit : Nat}
    (hlimit : rows.length ≤ previewLimit) :
    parseDelimited lower writer.format {} previewLimit (writer.write display columns rows) =
        .ok ⟨columns, rows.map (map DelimitedWriter.cellJson), rows.length⟩ ↔
      ReadsBack writer columns rows := by
  have hcells : ∀ row ∈ rows, row ≠ [] := by
    intro row hrow hnil
    have hlength := hwidth row hrow
    rw [hnil, length_nil] at hlength
    exact hcolumns (length_eq_zero_iff.mp hlength.symm)
  obtain ⟨fields, hfields, hvalues, hrecords⟩ :=
    exists_readRecords_write hwriter display hcolumns hrows hcells
  have hfilter := length_filter_le (!writer.blankRow ·) rows
  rw [parseDelimited_default, hrecords]
  by_cases hline : line fields = []
  · -- the title was lost, so the first row stands for it
    rw [if_pos hline, nil_append]
    constructor
    · intro hfile
      have hrecord : ∀ record ∈ (rows.filter (!writer.blankRow ·)).map
          (map cellValue), record ≠ [] := by
        intro record hrecord
        obtain ⟨row, hrow, rfl⟩ := mem_map.mp hrecord
        simpa using hcells row (mem_filter.mp hrow).1
      have hlt := totalRows_lt lower rfl hrecord
        (by rw [length_map]; exact hfilter.trans hlimit) hfile
      rw [length_map] at hlt
      exact absurd hfilter (Nat.not_le.mpr hlt)
    · intro hback
      exact absurd hback.names
        (not_names_of_line_eq_nil hfields hline hvalues fun column hmem => (hnames column hmem).2)
  · have htitle : values fields ≠ [] := by
      simpa [values] using hfields
    have hlength : (values fields).length = columns.length := by
      simpa using congrArg length hvalues
    rw [if_neg hline, singleton_append, parseCsvReaderInner_title lower rfl htitle
      (by rw [length_map]; exact hfilter.trans hlimit), hlength]
    constructor
    · intro hfile
      split at hfile
      · exact absurd hfile (by simp)
      · rw [Except.ok.injEq, ParsedImportFile.mk.injEq, length_map] at hfile
        obtain ⟨htitles, hread, hcount⟩ := hfile
        have hall := length_filter_eq_length_iff.mp hcount
        rw [filter_eq_self.mpr hall, map_delimitedRecordToRow _ hwidth, rows_eq_iff] at hread
        refine ⟨(titleColumns_eq_iff lower hvalues hdistinct hnames).mp htitles, ?_, hread⟩
        intro row hrow
        simpa using hall row hrow
    · intro hback
      have hall : rows.filter (!writer.blankRow ·) = rows := by
        apply filter_eq_self.mpr
        intro row hrow
        rw [hback.lines row hrow]
        rfl
      rw [hall, if_neg (by simpa using hrows), map_delimitedRecordToRow _ hwidth,
        (rows_eq_iff writer.format).mpr hback.cells,
        (titleColumns_eq_iff lower hvalues hdistinct hnames).mpr hback.names, length_map]

end File

/-- The columns and rows of a small file. -/
def plainColumns : List Text := [['i', 'd'], ['a']]

/-- Rows with a null, an empty text, a comma and an apostrophe of their own. -/
def plainRows : List (List (Option Text)) :=
  [[some ['1'], none], [some [], some ['x', ',', '\'']]]

/-- What is quoted only where it has to be comes back, with the null and the empty text apart. -/
theorem parseDelimited_write_plain : parseDelimited toAsciiLowercase .csv {} 2
        ((DelimitedWriter.csv .necessary).write (fun _ => []) plainColumns plainRows) =
      .ok ⟨plainColumns, plainRows.map (map DelimitedWriter.cellJson), 2⟩ := by
  have hback : ReadsBack (.csv .necessary) plainColumns plainRows :=
    ⟨by decide, by decide, by decide⟩
  have hwriter : csv .necessary ≠ .csv .never := by decide
  exact (parseDelimited_write_iff toAsciiLowercase (fun _ => []) hwriter (by decide) (by decide)
    (by decide) (by decide) (by decide) (by decide)).mpr hback

/-- A text that starts with an equals sign comes back with an apostrophe before it. -/
theorem parseDelimited_write_equals : parseDelimited toAsciiLowercase .csv {} 1
        ((DelimitedWriter.csv .all).write (fun _ => []) [['a']] [[some ['=', '1']]]) =
      .ok ⟨[['a']], [[.string ['\'', '=', '1']]], 1⟩ ∧
    parseDelimited toAsciiLowercase .csv {} 1
        ((DelimitedWriter.csv .all).write (fun _ => []) [['a']] [[some ['=', '1']]]) ≠
      .ok ⟨[['a']], [[.string ['=', '1']]], 1⟩ := by
  have hread : parseDelimited toAsciiLowercase .csv {} 1
      ((csv .all).write (fun _ => []) [['a']] [[some ['=', '1']]]) =
        .ok ⟨[['a']], [[.string ['\'', '=', '1']]], 1⟩ := rfl
  rw [hread]
  simp

end DbxSpec.Delimited
