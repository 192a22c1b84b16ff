import DbxSpec.Base.Text

/-!
# Delimited records

A reader for records of fields in the format of RFC 4180, over any delimiter and quote character.
Records end at a line feed or a carriage return, and a line without a character is no record. A
field is written bare or between quotes; what a writer made of such fields is read back as the
fields it wrote, but for the lines that hold nothing.
-/

namespace DbxSpec.Base

/-- The characters that give a text of records its shape. -/
structure RecordSyntax where
  delimiter : Char
  quote : Char
  deriving DecidableEq, Repr

/-- A character that ends a record. -/
def isLineEnd (ch : Char) : Bool := ch == '\n' || ch == '\r'

/-- The characters of the shape are three different ones. -/
structure RecordSyntax.Apart (d : RecordSyntax) : Prop where
  delimiter_ne_quote : d.delimiter ≠ d.quote
  delimiter_lineEnd : isLineEnd d.delimiter = false
  quote_lineEnd : isLineEnd d.quote = false

/-! ### The reader -/

/-- Where the reader stands in a record. -/
inductive RecordMode
  | startRecord
  | startField
  | bare
  | quoted
  | quoteInQuoted
  deriving DecidableEq, Repr

/-- The field that is being read, the fields of its record before it and the records before. -/
structure RecordState where
  mode : RecordMode
  field : Text
  fields : List Text
  records : List (List Text)
  deriving DecidableEq, Repr

namespace RecordState

/-- Before the first character of a record. -/
def fresh (records : List (List Text)) : RecordState := ⟨.startRecord, [], [], records⟩

variable (s : RecordState)

/-- The field is complete and another one follows. -/
def endField : RecordState :=
  { s with mode := .startField, field := [], fields := s.fields ++ [s.field] }

/-- The field is the last one of its record. -/
def endRecord : RecordState := fresh (s.records ++ [s.fields ++ [s.field]])

/-- One more character of the field. -/
def push (mode : RecordMode) (ch : Char) : RecordState :=
  { s with mode := mode, field := s.field ++ [ch] }

/-- The records once the text is at its end. -/
def finish : List (List Text) :=
  if s.mode = .startRecord then s.records else s.endRecord.records

end RecordState

namespace RecordSyntax

variable (d : RecordSyntax) (s : RecordState) (ch : Char)

/-- A character of a text of records. -/
def step : RecordState :=
  if s.mode = .quoted then
    if ch == d.quote then { s with mode := .quoteInQuoted } else s.push .quoted ch
  else if ch == d.delimiter then s.endField
  else if isLineEnd ch then
    if s.mode = .startRecord then s else s.endRecord
  else if ch == d.quote && s.mode != .bare then
    -- two quotes inside of quotes are one, any other quote here opens them
    if s.mode = .quoteInQuoted then s.push .quoted ch else { s with mode := .quoted }
  else s.push .bare ch

/-- The state after a text. -/
def run (text : Text) : RecordState := text.foldl d.step s

/-- The records of a text. -/
def readRecords (text : Text) : List (List Text) := (d.run (.fresh []) text).finish

@[simp] private theorem run_nil : d.run s [] = s := rfl

/-- A text is read character by character. -/
@[simp] theorem run_cons (rest : Text) : d.run s (ch :: rest) = d.run (d.step s ch) rest := rfl

/-- A text is read part by part. -/
theorem run_append (front back : Text) :
    d.run s (front ++ back) = d.run (d.run s front) back := List.foldl_append

/-! ### Written fields -/

/-- A character that a bare field cannot hold. -/
def needsQuotes : Bool := isLineEnd ch || ch == d.delimiter || ch == d.quote

/-- A character between quotes. -/
def escapeQuote : Text := if ch == d.quote then [ch, ch] else [ch]

/-- A value between quotes. -/
def quotedText (value : Text) : Text := d.quote :: value.flatMap d.escapeQuote ++ [d.quote]

/-- A text that stands for a field's value. -/
inductive FieldSpells : Text → Text → Prop where
  | bare (value : Text) (h : ∀ ch ∈ value, d.needsQuotes ch = false) : FieldSpells value value
  | quoted (value : Text) : FieldSpells (d.quotedText value) value

end RecordSyntax

/-- A field as it is written, with the value it stands for. -/
structure WrittenField (d : RecordSyntax) where
  text : Text
  value : Text
  spells : d.FieldSpells text value

namespace WrittenField

variable {d : RecordSyntax}

/-- A line of fields. -/
def line (fields : List (WrittenField d)) : Text :=
  joinTexts [d.delimiter] (fields.map text)

/-- The values that a line of fields stands for. -/
def values (fields : List (WrittenField d)) : List Text := fields.map value

variable (fields : List (WrittenField d))

/-- The values field by field. -/
@[simp] theorem values_cons (field : WrittenField d) :
    values (field :: fields) = field.value :: values fields := rfl

/-- A line of one field. -/
theorem line_singleton (field : WrittenField d) : line [field] = field.text := by
  simp [line, joinTexts]

/-- Fields are joined by the delimiter. -/
theorem line_cons_cons (field next : WrittenField d) :
    line (field :: next :: fields) = field.text ++ d.delimiter :: line (next :: fields) := by
  simp [line, joinTexts, List.intercalate_cons_cons]

/-- A line without a character is that of one field without a character. -/
theorem line_eq_nil_iff {fields : List (WrittenField d)} (hfields : fields ≠ []) :
    line fields = [] ↔ ∃ field, fields = [field] ∧ field.text = [] := by
  match fields, hfields with
  | [field], _ => simp [line_singleton]
  | field :: next :: rest, _ => simp [line_cons_cons]

end WrittenField

namespace RecordSyntax

variable {d : RecordSyntax} {s : RecordState}

/-! ### Reading a field -/

private theorem step_bare (hmode : s.mode ≠ .quoted) {ch : Char} (hch : d.needsQuotes ch = false) :
    d.step s ch = s.push .bare ch := by
  simp only [needsQuotes, Bool.or_eq_false_iff] at hch
  obtain ⟨⟨hline, hdelimiter⟩, hq⟩ := hch
  simp [step, hmode, hline, hdelimiter, hq]

private theorem run_bare (value : Text) : ∀ {s : RecordState}, s.mode ≠ .quoted →
    (∀ ch ∈ value, d.needsQuotes ch = false) →
    d.run s value =
      { s with mode := if value = [] then s.mode else .bare, field := s.field ++ value } := by
  induction value with
  | nil => intro s _ _; simp
  | cons ch rest ih =>
    intro s hmode hplain
    rw [run_cons, step_bare hmode (hplain ch (by simp)),
      ih (by simp [RecordState.push]) fun other hother => hplain other (by simp [hother])]
    simp [RecordState.push]

section

variable (hd : d.Apart)

include hd

private theorem quote_beq_delimiter : (d.quote == d.delimiter) = false :=
  beq_eq_false_iff_ne.mpr hd.delimiter_ne_quote.symm

private theorem run_escapeQuote (hmode : s.mode = .quoted) (ch : Char) :
    d.run s (d.escapeQuote ch) = s.push .quoted ch := by
  unfold escapeQuote
  split
  · next hquote =>
    rw [beq_iff_eq] at hquote
    simp [step, hmode, hquote, hd.quote_lineEnd, quote_beq_delimiter hd, RecordState.push]
  · next hquote => simp [step, hmode, hquote]

private theorem run_quotedBody (value : Text) : ∀ {s : RecordState}, s.mode = .quoted →
    d.run s (value.flatMap d.escapeQuote) = { s with field := s.field ++ value } := by
  induction value with
  | nil => intro s _; simp
  | cons ch rest ih =>
    intro s hmode
    rw [List.flatMap_cons, run_append, run_escapeQuote hd hmode, ih rfl]
    simp [RecordState.push, hmode]

private theorem run_quotedText (value : Text) (hfield : s.field = [])
    (hmode : s.mode = .startRecord ∨ s.mode = .startField) :
    d.run s (d.quotedText value) = { s with mode := .quoteInQuoted, field := value } := by
  have hopen : d.step s d.quote = { s with mode := .quoted } := by
    rcases hmode with h | h <;> simp [step, h, hd.quote_lineEnd, quote_beq_delimiter hd]
  rw [quotedText, run_append, run_cons d s d.quote, hopen, run_quotedBody hd value rfl]
  simp [step, hfield]

/-- A written field is read as its value, and the reader is then outside of quotes. At the start of
a record it has moved on unless nothing was written. -/
theorem run_field (field : WrittenField d) (hfield : s.field = [])
    (hmode : s.mode = .startRecord ∨ s.mode = .startField) :
    ∃ mode, d.run s field.text = { s with mode := mode, field := field.value } ∧ mode ≠ .quoted ∧
      (mode = .startRecord ↔ s.mode = .startRecord ∧ field.text = []) := by
  obtain ⟨text, value, spells⟩ := field
  cases spells with
  | bare _ hplain =>
    have hrun := run_bare text (s := s) (by rcases hmode with h | h <;> simp [h]) hplain
    rw [hfield, List.nil_append] at hrun
    refine ⟨_, hrun, ?_, ?_⟩ <;>
      by_cases hnil : text = [] <;> rcases hmode with h | h <;> simp [h, hnil]
  | quoted _ =>
    exact ⟨.quoteInQuoted, run_quotedText hd value hfield hmode, by simp, by simp [quotedText]⟩

end

/-! ### Reading lines -/

/-- A delimiter ends a field outside quotes. -/
theorem step_delimiter (hmode : s.mode ≠ .quoted) : d.step s d.delimiter = s.endField := by
  simp [step, hmode]

variable (fields : List (WrittenField d))

private theorem run_line (hd : d.Apart) (hfields : fields ≠ []) :
    ∀ {s : RecordState}, s.field = [] → s.mode = .startRecord ∨ s.mode = .startField →
    ∃ s', d.run s (WrittenField.line fields) = s' ∧ s'.mode ≠ .quoted ∧
      s'.fields ++ [s'.field] = s.fields ++ WrittenField.values fields ∧ s'.records = s.records ∧
      (s'.mode = .startRecord ↔ s.mode = .startRecord ∧ WrittenField.line fields = []) := by
  induction fields with
  | nil => exact absurd rfl hfields
  | cons field rest ih =>
    intro s hfield hmode
    obtain ⟨mode, hrun, hquoted, hstart⟩ := run_field hd field hfield hmode
    cases rest with
    | nil =>
      refine ⟨_, rfl, ?_⟩
      rw [WrittenField.line_singleton, hrun]
      exact ⟨hquoted, rfl, rfl, hstart⟩
    | cons next others =>
      obtain ⟨s', hs', hquoted', hvalues, hrecords, hstart'⟩ := ih (by simp)
        (s := ({ s with mode := mode, field := field.value } : RecordState).endField) rfl (.inr rfl)
      refine ⟨s', ?_, hquoted', ?_, hrecords, ?_⟩
      · rw [WrittenField.line_cons_cons, run_append, hrun, run_cons, step_delimiter hquoted, hs']
      · rw [hvalues]
        simp [RecordState.endField]
      · rw [hstart', WrittenField.line_cons_cons]
        simp [RecordState.endField]

private theorem step_newline (hd : d.Apart) (hmode : s.mode ≠ .quoted) :
    d.step s '\n' = if s.mode = .startRecord then s else s.endRecord := by
  have hne : ('\n' == d.delimiter) = false := by
    have hline := hd.delimiter_lineEnd
    simp only [beq_eq_false_iff_ne]
    rintro heq
    rw [← heq] at hline
    exact absurd hline (by decide)
  simp [step, hmode, hne, isLineEnd]

/-- The records that lines of fields stand for: those of the lines that hold something. -/
def recordsOf (lines : List (List (WrittenField d))) : List (List Text) :=
  (lines.filter fun fields => !(WrittenField.line fields).isEmpty).map WrittenField.values

/-- An empty line gives no record. -/
theorem recordsOf_cons (lines : List (List (WrittenField d))) : recordsOf (fields :: lines) =
      (if WrittenField.line fields = [] then [] else [WrittenField.values fields]) ++
        recordsOf lines := by
  by_cases hline : WrittenField.line fields = [] <;> simp [recordsOf, hline]

private theorem run_record (hd : d.Apart) {fields : List (WrittenField d)} (hfields : fields ≠ [])
    (records : List (List Text)) :
    (d.run (.fresh records) (WrittenField.line fields)).finish =
        records ++ (if WrittenField.line fields = [] then [] else [WrittenField.values fields]) ∧
      d.run (.fresh records) (WrittenField.line fields ++ ['\n']) = .fresh (records ++
          (if WrittenField.line fields = [] then [] else [WrittenField.values fields])) := by
  by_cases hline : WrittenField.line fields = []
  · have hstep := step_newline hd (s := .fresh records) (by simp [RecordState.fresh])
    simp only [RecordState.fresh, if_true] at hstep
    simp [hline, RecordState.finish, RecordState.fresh, hstep]
  · obtain ⟨s', hs', hquoted, hvalues, hrecords, hstart⟩ :=
      run_line fields hd hfields (s := .fresh records) rfl (.inl rfl)
    have hmode : s'.mode ≠ .startRecord := by simp [hstart, hline]
    rw [run_append, hs', run_cons, run_nil, step_newline hd hquoted, if_neg hmode, if_neg hline]
    have hend : s'.endRecord = .fresh (records ++ [WrittenField.values fields]) := by
      rw [RecordState.endRecord, hvalues, hrecords]
      simp [RecordState.fresh]
    refine ⟨?_, hend⟩
    rw [RecordState.finish, if_neg hmode, hend]
    rfl

private theorem run_lines (hd : d.Apart) (lines : List (List (WrittenField d)))
    (hlines : ∀ fields ∈ lines, fields ≠ []) : ∀ records : List (List Text),
    (d.run (.fresh records) (joinTexts ['\n'] (lines.map WrittenField.line))).finish =
      records ++ recordsOf lines := by
  induction lines with
  | nil => intro records; simp [joinTexts, recordsOf, RecordState.finish, RecordState.fresh]
  | cons fields rest ih =>
    intro records
    have hrecord := run_record hd (hlines fields (by simp)) records
    cases rest with
    | nil =>
      rw [recordsOf_cons]
      simpa [joinTexts, recordsOf] using hrecord.1
    | cons next others =>
      have htext : joinTexts ['\n'] ((fields :: next :: others).map WrittenField.line) =
          (WrittenField.line fields ++ ['\n']) ++
            joinTexts ['\n'] ((next :: others).map WrittenField.line) := by
        simp [joinTexts, List.intercalate_cons_cons]
      rw [htext, run_append, hrecord.2, ih (fun other hother => hlines other (by simp [hother])),
        recordsOf_cons fields, List.append_assoc]

/-- What was written as lines of fields is read back as its records. -/
theorem readRecords_lines (hd : d.Apart) (lines : List (List (WrittenField d)))
    (hlines : ∀ fields ∈ lines, fields ≠ []) :
    d.readRecords (joinTexts ['\n'] (lines.map WrittenField.line)) = recordsOf lines := by
  rw [readRecords, run_lines hd lines hlines, List.nil_append]

end RecordSyntax

end DbxSpec.Base
