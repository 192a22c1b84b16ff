import DbxSpec.Delimited.Export

/-!
# Delimited text as it is imported

The reader of `crates/dbx-core/src/data/table_import.rs`: its options, the names of the columns and
the values of the cells. Records are those of an RFC 4180 reader, which the source takes from the
`csv` crate with the quote character `"`. `str::to_lowercase` is a parameter.
-/

namespace DbxSpec.Delimited

open DbxSpec.Base List

/-! ### Options -/

/-- `TableImportSourceFormat`, as far as delimited text goes. -/
inductive DelimitedFormat
  | csv
  | tsv
  deriving DecidableEq, Repr

/-- `table_import.rs:295`, what delimited text reads of it, with the values of its `Default`. -/
structure TableImportParseOptions where
  delimiter : Option Text := none
  decimalSeparator : Option Text := none
  hasHeader : Option Bool := none
  titleRow : Option Nat := none
  dataStartRow : Option Nat := none
  lastDataRow : Option Nat := none
  trimValues : Option Bool := some false
  emptyStringAsNull : Option Bool := some true
  nullLiteral : Option Text := none

/-- `table_import.rs:843`. -/
structure ImportRowRange where
  titleRow : Option Nat
  dataStartRow : Nat
  lastDataRow : Option Nat
  deriving DecidableEq, Repr

/-- `table_import.rs:822`. -/
structure DelimitedParseConfig where
  delimiter : Char
  decimalSeparator : Char
  trimValues : Bool
  emptyStringAsNull : Bool
  nullLiteral : Option Text
  rowRange : ImportRowRange
  deriving DecidableEq, Repr

/-- `table_import.rs:834`. -/
def effectiveDelimitedNullLiteral : Option Text → Option Text
  | none => some defaultCsvNullLiteral
  | some raw => csvNullLiteral raw

/-- `table_import.rs:849`. -/
def effectiveImportRowRange (options : TableImportParseOptions) : Except Text ImportRowRange :=
  let titleRow := match options.titleRow with
    | some 0 => none
    | some row => some row
    | none => if options.hasHeader.getD true then some 1 else none
  let dataStartRow := options.dataStartRow.getD (titleRow.elim 1 (· + 1))
  let lastDataRow := options.lastDataRow.filter (0 < ·)
  if dataStartRow = 0 then .error "Data start row must be at least 1"
  else if titleRow.any (dataStartRow ≤ ·) then
    .error "Title row must be before the data start row"
  else if lastDataRow.any (· < dataStartRow) then
    .error "Last data row must be 0 or not less than the data start row"
  else .ok ⟨titleRow, dataStartRow, lastDataRow⟩

variable (format : DelimitedFormat)

/-- The delimiter of `table_import.rs:872`. One byte is one ASCII character. -/
def effectiveDelimiter : Option Text → Except Text Char
  | none => .ok (if format = .tsv then '\t' else ',')
  | some value =>
    if value.isEmpty then .ok (if format = .tsv then '\t' else ',')
    else if ["\\t", "tab", "TAB"].map String.toList |>.contains value then .ok '\t'
    else match value with
      | [ch] =>
        if isAscii ch then .ok ch else .error "Delimiter must be a single-byte character"
      | _ => .error "Delimiter must be a single-byte character"

/-- The decimal separator of `table_import.rs:872`. -/
def effectiveDecimalSeparator : Option Text → Except Text Char
  | none => .ok '.'
  | some ['.'] => .ok '.'
  | some [','] => .ok ','
  | some _ => .error "Decimal separator must be '.' or ','"

/-- `table_import.rs:872`. -/
def effectiveDelimitedConfig (options : TableImportParseOptions) :
    Except Text DelimitedParseConfig := do
  let delimiter ← effectiveDelimiter format options.delimiter
  let nullLiteral := effectiveDelimitedNullLiteral options.nullLiteral
  let decimalSeparator ← effectiveDecimalSeparator options.decimalSeparator
  let rowRange ← effectiveImportRowRange options
  return {
    delimiter := delimiter
    decimalSeparator := decimalSeparator
    trimValues := options.trimValues.getD false
    emptyStringAsNull := nullLiteral.isNone && options.emptyStringAsNull.getD true
    nullLiteral := nullLiteral
    rowRange := rowRange }

/-! ### Names of columns -/

/-- `format!("column_{}", index + 1)`. -/
def columnName (index : Nat) : Text := "column_" ++ (toString (index + 1)).toList

variable (value : Text)

/-- `table_import.rs:794`. -/
def normalizeHeader (index : Nat) : Text :=
  let trimmed := trim value
  if trimmed.isEmpty then columnName index else trimmed

/-- A candidate of `table_import.rs:803`. -/
def numberedHeader (header : Text) (suffix : Nat) : Text :=
  if suffix = 0 then header else header ++ '_' :: (toString suffix).toList

section Headers

variable (lower : Text → Text)

/-- The inner loop of `table_import.rs:803`: the first candidate that is not seen, and the suffix
after it. The first argument bounds the candidates that are tried in vain. -/
def firstFreeHeader (header : Text) (seen : List Text) : Nat → Nat → Text × Nat
  | 0, suffix => (numberedHeader header suffix, suffix + 1)
  | tries + 1, suffix =>
    if seen.contains (lower (numberedHeader header suffix)) then
      firstFreeHeader header seen tries (suffix + 1)
    else (numberedHeader header suffix, suffix + 1)

/-- The outer loop of `table_import.rs:803`, with the names seen and the next suffixes. -/
def uniqueHeadersLoop (seen : List Text) (nextSuffix : List (Text × Nat)) :
    List Text → List Text
  | [] => []
  | header :: headers =>
    let suffix := (nextSuffix.lookup (lower header)).getD 0
    let found := firstFreeHeader lower header seen seen.length suffix
    found.1 :: uniqueHeadersLoop (lower found.1 :: seen) ((lower header, found.2) :: nextSuffix)
      headers

/-- `table_import.rs:803`. -/
def uniqueImportHeaders (headers : List Text) : List Text := uniqueHeadersLoop lower [] [] headers

end Headers

/-! ### Values of cells -/

/-- `table_import.rs:921`. -/
def unwrapCsvForceText : Text :=
  match value with
  | '=' :: '"' :: rest =>
    if rest.getLast? == some '"' && !rest.dropLast.contains '"' then rest.dropLast else value
  | _ => value

/-- The digits at the start of a text are dropped; there may have to be one. -/
def dropDigits (required : Bool) (text : Text) : Option Text :=
  if required && !text.head?.any Char.isDigit then none else some (text.dropWhile Char.isDigit)

/-- An optional sign is dropped. -/
def dropSign (text : Text) : Text :=
  if text.head? == some '+' || text.head? == some '-' then text.tail else text

/-- The expression `^[+-]?(?:[0-9]+(?:,[0-9]*)?|,[0-9]+)(?:[eE][+-]?[0-9]+)?$` of
`table_import.rs:946`. -/
def isCommaDecimal : Bool :=
  let mantissa := match dropSign value with
    | ',' :: rest => dropDigits true rest
    | digits => (dropDigits true digits).bind fun
      | ',' :: rest => dropDigits false rest
      | rest => some rest
  match mantissa with
  | none => false
  | some [] => true
  | some (mark :: rest) =>
    (mark == 'e' || mark == 'E') && dropDigits true (dropSign rest) == some []

/-- `table_import.rs:931`. -/
def csvValueWithConfig (config : DelimitedParseConfig) : Json :=
  let trimmed := if config.trimValues then trim value else value
  let value := unwrapCsvForceText trimmed
  if config.nullLiteral == some value then .null
  else if config.emptyStringAsNull && value.isEmpty then .null
  else if config.decimalSeparator == ',' && value.contains ',' && isCommaDecimal value then
    .string (value.map fun ch => if ch == ',' then '.' else ch)
  else .string value

/-- `table_import.rs:7082`. -/
def delimitedRecordToRow (record : List Text) (columnsLen : Nat) (config : DelimitedParseConfig) :
    List Json :=
  (range columnsLen).map fun index =>
    (record[index]?.map (csvValueWithConfig · config)).getD .null

/-! ### Records -/

/-- `table_import.rs` on what an import file holds, without its encoding. -/
structure ParsedImportFile where
  columns : List Text
  rows : List (List Json)
  totalRows : Nat

/-- The byte order mark. -/
def byteOrderMark : Char := '\ufeff'

section Reader

variable (lower : Text → Text)

/-- The columns that a title row names. -/
def titleColumns (record : List Text) : List Text :=
  uniqueImportHeaders lower
    (record.mapIdx fun index header =>
      normalizeHeader (header.dropWhile (· == byteOrderMark)) index)

/-- The loop of `table_import.rs:1390`; the first argument counts the records before. -/
def parseCsvRecords (config : DelimitedParseConfig) (previewLimit : Nat) (countAllRows : Bool) :
    Nat → ParsedImportFile → List (List Text) → ParsedImportFile
  | _, file, [] => file
  | index, file, record :: records =>
    if config.rowRange.titleRow = some (index + 1) then
      parseCsvRecords config previewLimit countAllRows (index + 1)
        { file with columns := titleColumns lower record } records
    else if index + 1 < config.rowRange.dataStartRow then
      parseCsvRecords config previewLimit countAllRows (index + 1) file records
    else if config.rowRange.lastDataRow.any (· < index + 1) then file
    else
      let columns :=
        if file.columns.isEmpty then (range record.length).map columnName else file.columns
      let rows :=
        if file.rows.length < previewLimit then
          file.rows ++ [delimitedRecordToRow record columns.length config]
        else file.rows
      let next : ParsedImportFile := ⟨columns, rows, file.totalRows + 1⟩
      if !countAllRows && decide (previewLimit ≤ rows.length) then next
      else parseCsvRecords config previewLimit countAllRows (index + 1) next records

/-- `table_import.rs:1390`. -/
def parseCsvReaderInner (records : List (List Text)) (config : DelimitedParseConfig)
    (previewLimit : Nat) (countAllRows : Bool) : Except Text ParsedImportFile :=
  let file := parseCsvRecords lower config previewLimit countAllRows 0 ⟨[], [], 0⟩ records
  if file.columns.isEmpty then
    .error "Import file has no columns in the selected row range"
  else if file.totalRows = 0 then
    .error "Import file has no data rows in the selected row range"
  else .ok file

/-- The byte order mark that `table_import.rs:1134` finds at the start of a text is passed over. -/
def dropByteOrderMark : Text → Text
  | [] => []
  | ch :: rest => if ch = byteOrderMark then rest else ch :: rest

/-- `table_import.rs:1316` for a text in UTF-8. -/
def parseDelimited (format : DelimitedFormat) (options : TableImportParseOptions)
    (previewLimit : Nat) (text : Text) : Except Text ParsedImportFile := do
  let config ← effectiveDelimitedConfig format options
  let records := RecordSyntax.readRecords ⟨config.delimiter, '"'⟩ (dropByteOrderMark text)
  parseCsvReaderInner lower records config previewLimit true

end Reader

/-! ### Names made distinct -/

section Headers

variable (lower : Text → Text)

private theorem firstFreeHeader_candidate (header : Text) (seen : List Text) (tries : Nat) :
    ∀ suffix, ∃ k, (firstFreeHeader lower header seen tries suffix).1 =
      numberedHeader header k := by
  induction tries with
  | zero => exact fun suffix => ⟨suffix, rfl⟩
  | succ tries ih =>
    intro suffix
    rw [firstFreeHeader]
    split
    · exact ih (suffix + 1)
    · exact ⟨suffix, rfl⟩

private theorem uniqueHeadersLoop_candidates (headers : List Text) : ∀ seen nextSuffix,
    Forall₂ (fun name header => ∃ k, name = numberedHeader header k)
      (uniqueHeadersLoop lower seen nextSuffix headers) headers := by
  induction headers with
  | nil => intro seen nextSuffix; exact .nil
  | cons header headers ih =>
    intro seen nextSuffix
    exact .cons (firstFreeHeader_candidate lower header seen _ _) (ih _ _)

private theorem uniqueHeadersLoop_eq (headers : List Text) : ∀ seen nextSuffix,
    (headers.map lower).Nodup → (∀ header ∈ headers, lower header ∉ seen) →
    (∀ header ∈ headers, nextSuffix.lookup (lower header) = none) →
    uniqueHeadersLoop lower seen nextSuffix headers = headers := by
  induction headers with
  | nil => intro seen nextSuffix _ _ _; rfl
  | cons header headers ih =>
    intro seen nextSuffix hnodup hseen hsuffix
    rw [map_cons, nodup_cons] at hnodup
    have hfree : firstFreeHeader lower header seen seen.length 0 = (header, 1) := by
      have hnot : seen.contains (lower (numberedHeader header 0)) = false := by
        simpa [numberedHeader] using hseen header (by simp)
      cases seen.length with
      | zero => rfl
      | succ tries => rw [firstFreeHeader, hnot, if_neg (by simp)]; rfl
    have hother : ∀ other ∈ headers, lower other ≠ lower header := by
      intro other hmem heq
      apply hnodup.1
      rw [← heq]
      exact mem_map_of_mem hmem
    rw [uniqueHeadersLoop, hsuffix header (by simp), Option.getD_none, hfree]
    congr 1
    apply ih _ _ hnodup.2
    · intro other hmem
      rw [mem_cons, not_or]
      exact ⟨hother other hmem, hseen other (by simp [hmem])⟩
    · intro other hmem
      rw [lookup_cons, beq_eq_false_iff_ne.mpr (hother other hmem)]
      exact hsuffix other (by simp [hmem])

/-- Distinct headers are kept. -/
theorem uniqueImportHeaders_eq {headers : List Text} (hnodup : (headers.map lower).Nodup) :
    uniqueImportHeaders lower headers = headers :=
  uniqueHeadersLoop_eq lower headers [] [] hnodup (by simp) (by simp)

/-- Names are numbered headers. -/
theorem uniqueImportHeaders_candidates (headers : List Text) :
    Forall₂ (fun name header => ∃ k, name = numberedHeader header k)
      (uniqueImportHeaders lower headers) headers :=
  uniqueHeadersLoop_candidates lower headers [] []

variable {lower}

private theorem mem_of_firstFreeHeader_mem {header : Text} {seen : List Text} {tries suffix : Nat}
    (h : lower (firstFreeHeader lower header seen tries suffix).1 ∈ seen) :
    ∀ k ≤ tries, lower (numberedHeader header (suffix + k)) ∈ seen := by
  fun_induction firstFreeHeader lower header seen tries suffix with
  | case1 suffix =>
    intro k hk
    rwa [Nat.le_zero.mp hk]
  | case2 suffix tries hseen ih =>
    rintro (_ | k) hk
    · exact contains_iff_mem.mp hseen
    · rw [add_comm k, ← add_assoc]
      exact ih h k (Nat.le_of_succ_le_succ hk)
  | case3 suffix tries hseen => exact absurd (contains_iff_mem.mpr h) hseen

private theorem numberedHeader_injective (header : Text) :
    Function.Injective (numberedHeader header) := by
  intro a b h
  unfold numberedHeader at h
  split_ifs at h with ha hb hb
  · rw [ha, hb]
  · simp at h
  · simp at h
  · exact Nat.repr_inj.mp (String.toList_injective (cons_inj_right _ |>.mp (append_cancel_left h)))

variable (hinjective : ∀ header, Function.Injective fun k => lower (numberedHeader header k))

include hinjective

/-- Where the candidates of a header differ, the name that is found is not one that was seen: the
bound on the tries leaves one that is free. -/
theorem firstFreeHeader_not_seen (header : Text) (seen : List Text) (suffix : Nat) :
    lower (firstFreeHeader lower header seen seen.length suffix).1 ∉ seen := by
  intro hmem
  -- `seen.length + 1` different names would all have been seen
  have hcard := Finset.card_le_card_of_injOn (s := Finset.range (seen.length + 1))
    (t := seen.toFinset) (fun k => lower (numberedHeader header (suffix + k)))
    (fun k hk => mem_toFinset.mpr (mem_of_firstFreeHeader_mem hmem k
      (Nat.le_of_lt_succ (Finset.mem_range.mp hk))))
    fun a _ b _ hab => Nat.add_left_cancel (hinjective header hab)
  have hseen := toFinset_card_le seen
  rw [Finset.card_range] at hcard
  omega

private theorem uniqueHeadersLoop_nodup (headers seen : List Text)
    (nextSuffix : List (Text × Nat)) :
    let names := (uniqueHeadersLoop lower seen nextSuffix headers).map lower
    names.Nodup ∧ ∀ name ∈ names, name ∉ seen := by
  induction headers generalizing seen nextSuffix with
  | nil => exact ⟨.nil, nofun⟩
  | cons header headers ih =>
    dsimp only at ih ⊢
    rw [uniqueHeadersLoop, map_cons, nodup_cons, forall_mem_cons]
    obtain ⟨hnodup, hrest⟩ := ih _ _
    exact ⟨⟨fun hmem => hrest _ hmem mem_cons_self, hnodup⟩,
      firstFreeHeader_not_seen hinjective header seen _,
      fun name hname hseen => hrest name hname (mem_cons_of_mem _ hseen)⟩

private theorem nodup_dataColumns {columns : List Text} (h : (columns.map lower).Nodup)
    (count : Nat) :
    ((if columns.isEmpty then (range count).map columnName else columns).map lower).Nodup := by
  split
  · rw [map_map]
    exact nodup_range.map fun a b hab => Nat.succ_injective (hinjective "column" hab)
  · exact h

/-- The names of imported columns differ in lower case, whichever rows are read and whether the
names come from a title row or are made up. -/
theorem nodup_columns_parseCsvRecords (config : DelimitedParseConfig) (previewLimit : Nat)
    (countAllRows : Bool) (index : Nat) (file : ParsedImportFile)
    (hfile : (file.columns.map lower).Nodup) (records : List (List Text)) :
    ((parseCsvRecords lower config previewLimit countAllRows index file records).columns.map
      lower).Nodup := by
  fun_induction parseCsvRecords lower config previewLimit countAllRows index file records with
  | case1 | case4 => exact hfile
  | case2 _ _ _ _ _ ih => exact ih (uniqueHeadersLoop_nodup hinjective _ [] []).1
  | case3 _ _ _ _ _ _ ih => exact ih hfile
  | case5 => exact nodup_dataColumns hinjective hfile _
  | case6 _ _ _ _ _ _ _ _ _ _ _ ih => exact ih (nodup_dataColumns hinjective hfile _)

omit hinjective in
/-- Two columns of one name are told apart. -/
theorem nodup_columns_twice : ((parseCsvRecords id
    ⟨',', '.', false, true, none, ⟨some 1, 2, none⟩⟩ 5 true 0 ⟨[], [], 0⟩
    [["a", "a"], ["1", "2"]]).columns.map id).Nodup :=
  nodup_columns_parseCsvRecords numberedHeader_injective _ _ _ _ ⟨[], [], 0⟩ nodup_nil _

end Headers

/-! ### Reading records under the default options -/

/-- A row with a value for each field. -/
theorem delimitedRecordToRow_length (record : List Text) (config : DelimitedParseConfig) :
    delimitedRecordToRow record record.length config =
      record.map (csvValueWithConfig · config) := by
  apply ext_getElem
  · simp [delimitedRecordToRow]
  · intro index hleft hright
    have hindex : index < record.length := by simpa using hright
    simp [delimitedRecordToRow, getElem?_eq_getElem hindex]

section Reader

variable (lower : Text → Text) {config : DelimitedParseConfig}

private theorem length_titleColumns (record : List Text) :
    (titleColumns lower record).length = record.length := by
  rw [titleColumns, (uniqueImportHeaders_candidates lower _).length_eq, length_mapIdx]

section

variable (hrange : config.rowRange = ⟨some 1, 2, none⟩)

include hrange

private theorem parseCsvRecords_data (previewLimit : Nat)
    (records : List (List Text)) : ∀ (index : Nat) (file : ParsedImportFile), 1 ≤ index →
    file.columns ≠ [] → file.rows.length + records.length ≤ previewLimit →
    parseCsvRecords lower config previewLimit true index file records = ⟨file.columns, file.rows ++
        records.map (delimitedRecordToRow · file.columns.length config),
        file.totalRows + records.length⟩ := by
  induction records with
  | nil => intro index file _ _ _; simp [parseCsvRecords]
  | cons record records ih =>
    intro index file hindex hcolumns hlimit
    rw [length_cons] at hlimit
    have htitle : ¬ config.rowRange.titleRow = some (index + 1) := by
      rw [hrange]
      simp only [Option.some.injEq]
      omega
    have hstart : ¬ index + 1 < config.rowRange.dataStartRow := by
      rw [hrange]
      simp only
      omega
    have hlast : ¬ config.rowRange.lastDataRow.any (· < index + 1) := by simp [hrange]
    have hempty : ¬ file.columns.isEmpty := by simpa using hcolumns
    rw [parseCsvRecords, if_neg htitle, if_neg hstart, if_neg hlast]
    simp only [if_neg hempty, if_pos (show file.rows.length < previewLimit by omega), Bool.not_true,
      Bool.false_and, Bool.false_eq_true, if_false]
    have hnext := ih (index + 1) ⟨file.columns,
      file.rows ++ [delimitedRecordToRow record file.columns.length config], file.totalRows + 1⟩
      (by omega) hcolumns (by simp only [length_append, length_singleton]; omega)
    rw [hnext]
    simp [Nat.add_assoc, Nat.add_comm 1]

/-- A title row and the rows after it are what the file holds. -/
theorem parseCsvReaderInner_title {previewLimit : Nat} {title : List Text}
    {records : List (List Text)} (htitle : title ≠ []) (hlimit : records.length ≤ previewLimit) :
    parseCsvReaderInner lower (title :: records) config previewLimit true =
      if records = [] then
        .error "Import file has no data rows in the selected row range"
      else .ok ⟨titleColumns lower title,
        records.map (delimitedRecordToRow · title.length config), records.length⟩ := by
  have hlength := length_titleColumns lower title
  have hcolumns : titleColumns lower title ≠ [] := by
    rw [← length_pos_iff, hlength]
    exact length_pos_iff.mpr htitle
  have hfile : parseCsvRecords lower config previewLimit true 0 ⟨[], [], 0⟩ (title :: records) =
      ⟨titleColumns lower title, records.map (delimitedRecordToRow · title.length config),
        records.length⟩ := by
    rw [parseCsvRecords, if_pos (by rw [hrange]),
      parseCsvRecords_data lower hrange _ _ _ _ (by omega) hcolumns (by simpa using hlimit)]
    simp [hlength]
  rw [parseCsvReaderInner, hfile]
  have hempty : ¬ (titleColumns lower title).isEmpty := by simpa using hcolumns
  simp only [if_neg hempty, length_eq_zero_iff]

/-- There is a row for every record but the title row. -/
theorem totalRows_lt {previewLimit : Nat}
    {records : List (List Text)} {file : ParsedImportFile}
    (hrecords : ∀ record ∈ records, record ≠ []) (hlimit : records.length ≤ previewLimit)
    (hfile : parseCsvReaderInner lower records config previewLimit true = .ok file) :
    file.totalRows < records.length := by
  rcases records with _ | ⟨title, records⟩
  · exact absurd hfile (by simp [parseCsvReaderInner, parseCsvRecords])
  rw [length_cons] at hlimit
  rw [parseCsvReaderInner_title lower hrange (hrecords title (by simp)) (by omega)] at hfile
  split at hfile
  · exact absurd hfile (by simp)
  · rw [← (Except.ok.inj hfile)]
    simp

end

end Reader

end DbxSpec.Delimited
