import DbxSpec.TableImport.Build
import DbxSpec.Transfer.EscapeRead

/-!
# Imports that continue after errors

`execute_import_rows_batch` and `import_failed_batch_rows` of
`crates/dbx-core/src/data/table_import.rs:6567-6883` with `continue_on_error`, without cancellation.
The fast paths are closed to such an import, so nothing is pending when a chunk comes in. A batch
is one statement; the rows of a batch that fails are sent again one by one.

The database answers a statement by what was sent to it before, and a statement that it accepts
stores its rows.
-/

namespace DbxSpec.TableImport

open DbxSpec.Base DbxSpec.Sql DbxSpec.Transfer List

/-! ### Failures -/

/-- `table_import.rs:408`. -/
structure TableImportFailure where
  table : Text
  row : Nat
  error : Text
  deriving DecidableEq, Repr

/-- `table_import.rs:83`. -/
def importFailureRecordLimit : Nat := 1000

/-- `table_import.rs:419`. -/
structure ImportFailureSink where
  table : Text
  failures : List TableImportFailure
  failed : Nat
  omitted : Nat
  capped : failures.length ≤ importFailureRecordLimit
  counted : failed = failures.length + omitted

namespace ImportFailureSink

/-- `table_import.rs:427`. -/
def new (table : Text) : ImportFailureSink where
  table := table
  failures := []
  failed := 0
  omitted := 0
  capped := Nat.zero_le _
  counted := rfl

/-- `table_import.rs:431`. -/
def record (sink : ImportFailureSink) (row : Nat) (error : Text) : ImportFailureSink :=
  if h : sink.failures.length < importFailureRecordLimit then
    { table := sink.table
      failures := sink.failures ++ [⟨sink.table, row, error⟩]
      failed := sink.failed + 1
      omitted := sink.omitted
      capped := by
        rw [length_append, length_singleton]
        exact h
      counted := by
        rw [length_append, length_singleton, sink.counted]
        omega }
  else
    { sink with
      failed := sink.failed + 1
      omitted := sink.omitted + 1
      counted := by rw [sink.counted, Nat.add_assoc] }

@[simp] private theorem record_table (sink : ImportFailureSink) (row : Nat) (error : Text) :
    (sink.record row error).table = sink.table := by
  rw [record]
  split <;> rfl

private theorem record_failures {sink : ImportFailureSink}
    (hroom : sink.failures.length < importFailureRecordLimit) (row : Nat) (error : Text) :
    (sink.record row error).failures = sink.failures ++ [⟨sink.table, row, error⟩] := by
  rw [record, dif_pos hroom]

end ImportFailureSink

/-! ### Execution -/

/-- The database: it answers a statement after others with the number of rows that it affected, or
with an error. -/
abbrev Oracle := List Text → Text → Except Text Nat

/-- Where an import is. -/
structure ImportRun where
  /-- All statements that were sent. -/
  sent : List Text
  /-- The statements that were accepted. -/
  accepted : List Text
  failures : ImportFailureSink
  rowsImported : Nat

namespace ImportRun

/-- A statement that was accepted. -/
def accept (run : ImportRun) (sql : Text) (rows : Nat) : ImportRun :=
  { run with
    sent := run.sent ++ [sql]
    accepted := run.accepted ++ [sql]
    rowsImported := run.rowsImported + rows }

/-- A statement that was refused. -/
def reject (run : ImportRun) (sql : Text) : ImportRun := { run with sent := run.sent ++ [sql] }

/-- A row that failed. -/
def record (run : ImportRun) (row : Nat) (error : Text) : ImportRun :=
  { run with failures := run.failures.record row error }

end ImportRun

/-- `table_import.rs:6440`. -/
def completedImportRows (policy : ConflictPolicy) (submittedRows affectedRows : Nat) : Nat :=
  if policy = .skipDuplicates then affectedRows else submittedRows

section Execution

variable (t : ImportTarget) (c : ImportColumns) (policy : ConflictPolicy) (oracle : Oracle)

/-- The statements of a row that is sent again: `table_import.rs:6866-6879`. -/
def sendRowBatches (sourceRow : Nat) : List ImportSqlBatch → ImportRun → ImportRun
  | [], run => run
  | batch :: batches, run =>
    match oracle run.sent batch.sql with
    | .ok affected => sendRowBatches sourceRow batches
        (run.accept batch.sql (completedImportRows policy batch.rowCount affected))
    | .error error => (run.reject batch.sql).record sourceRow error

variable (startRowOffset : Nat)

/-- A row that is sent again: `table_import.rs:6838-6880`. -/
def importFailedRow (row : Row) (run : ImportRun) : ImportRun :=
  match buildImportExecutionBatches t c policy run.sent startRowOffset [row] with
  | .ok batches => sendRowBatches policy oracle (startRowOffset + 1) batches run
  | .error error => run.record (startRowOffset + 1) error

/-- `table_import.rs:6814`. -/
def importFailedBatchRows : Nat → List Row → ImportRun → ImportRun
  | _, [], run => run
  | startRowOffset, row :: rows, run =>
    importFailedBatchRows (startRowOffset + 1) rows
      (importFailedRow t c policy oracle startRowOffset row run)

/-- A batch of a chunk: `table_import.rs:6761-6808`. -/
def executeImportBatch (batch : ImportSqlBatch) (rows : List Row) (run : ImportRun) : ImportRun :=
  match oracle run.sent batch.sql with
  | .ok affected => run.accept batch.sql (completedImportRows policy batch.rowCount affected)
  | .error _ => importFailedBatchRows t c policy oracle startRowOffset rows (run.reject batch.sql)

/-- The batches of a chunk, with the rows that they are for. -/
def executeImportBatches : Nat → List ImportSqlBatch → List Row → ImportRun → ImportRun
  | _, [], _, run => run
  | startRowOffset, batch :: batches, rows, run =>
    let batchRows := rows.take batch.rowCount
    executeImportBatches (startRowOffset + batchRows.length) batches (rows.drop batch.rowCount)
      (executeImportBatch t c policy oracle startRowOffset batch batchRows run)

/-- `table_import.rs:6567`: the chunk, or the message after which it is given up. -/
def executeImportRowsBatch (rows : List Row) (run : ImportRun) : Except Text ImportRun :=
  (buildImportExecutionBatches t c policy run.sent startRowOffset rows).map fun batches =>
    executeImportBatches t c policy oracle startRowOffset batches rows run

end Execution

/-! ### Accounts -/

/-- What became of numbered rows: those that a statement stored, and those that failed. -/
structure Ledger where
  stored : List (Text × List (Nat × Row))
  failed : List ((Nat × Row) × Text)

namespace Ledger

/-- The rows that were stored. -/
def storedRows (ledger : Ledger) : List (Nat × Row) := ledger.stored.flatMap Prod.snd

/-- The rows that failed. -/
def failedRows (ledger : Ledger) : List (Nat × Row) := ledger.failed.map Prod.fst

/-- One ledger after another. -/
def append (first second : Ledger) : Ledger :=
  ⟨first.stored ++ second.stored, first.failed ++ second.failed⟩

end Ledger

/-- A statement that was sent between two places of a run, and its answer. -/
def Answered (oracle : Oracle) (before after : ImportRun) (sql : Text)
    (answer : Except Text Nat) : Prop :=
  ∃ sent, before.sent <+: sent ∧ sent ++ [sql] <+: after.sent ∧ oracle sent sql = answer

/-- A row cannot be imported: it is not built alone, or its own statement was sent and rejected. -/
def FailsAlone (t : ImportTarget) (c : ImportColumns) (oracle : Oracle) (shape : StatementShape)
    (before after : ImportRun) (item : Nat × Row) (error : Text) : Prop :=
  (∃ sent, before.sent <+: sent ∧ sent <+: after.sent ∧ ¬ shape.Fits t c sent item) ∨
    ∃ moment, Answered oracle before after (shape.statement t c moment [item]) (.error error)

/-- Every row is stored once by a statement that was accepted, or failed by itself, and what the run
counts and records is that. -/
structure Accounts (t : ImportTarget) (c : ImportColumns) (oracle : Oracle) (shape : StatementShape)
    (items : List (Nat × Row)) (ledger : Ledger) (before after : ImportRun) : Prop where
  rows : (ledger.storedRows ++ ledger.failedRows).Perm items
  sent : before.sent <+: after.sent
  accepted : after.accepted = before.accepted ++ ledger.stored.map Prod.fst
  written : ∀ entry ∈ ledger.stored, ∃ moment affected,
    entry.1 = shape.statement t c moment entry.2 ∧
      Answered oracle before after entry.1 (.ok affected)
  counted : after.rowsImported = before.rowsImported + ledger.storedRows.length
  recorded : after.failures =
    ledger.failed.foldl (fun sink entry => sink.record entry.1.1 entry.2) before.failures
  alone : ∀ entry ∈ ledger.failed, FailsAlone t c oracle shape before after entry.1 entry.2

section Accounts

variable {t : ImportTarget} {c : ImportColumns} {oracle : Oracle} {shape : StatementShape}

private theorem Answered.mono {first before after last : ImportRun} {sql : Text}
    {answer : Except Text Nat} (h : Answered oracle before after sql answer)
    (hfirst : first.sent <+: before.sent) (hlast : after.sent <+: last.sent) :
    Answered oracle first last sql answer := by
  obtain ⟨sent, hbefore, hafter, hanswer⟩ := h
  exact ⟨sent, hfirst.trans hbefore, hafter.trans hlast, hanswer⟩

private theorem FailsAlone.mono {first before after last : ImportRun} {item : Nat × Row}
    {error : Text} (h : FailsAlone t c oracle shape before after item error)
    (hfirst : first.sent <+: before.sent) (hlast : after.sent <+: last.sent) :
    FailsAlone t c oracle shape first last item error := by
  rcases h with ⟨sent, hbefore, hafter, hfits⟩ | ⟨moment, hanswered⟩
  · exact .inl ⟨sent, hfirst.trans hbefore, hafter.trans hlast, hfits⟩
  · exact .inr ⟨moment, hanswered.mono hfirst hlast⟩

namespace Accounts

private theorem nil (run : ImportRun) : Accounts t c oracle shape [] ⟨[], []⟩ run run where
  rows := List.Perm.refl []
  sent := prefix_rfl
  accepted := (append_nil _).symm
  written := by simp
  counted := rfl
  recorded := rfl
  alone := by simp

private theorem append {first second : List (Nat × Row)} {ledger later : Ledger}
    {before between after : ImportRun}
    (hfirst : Accounts t c oracle shape first ledger before between)
    (hsecond : Accounts t c oracle shape second later between after) :
    Accounts t c oracle shape (first ++ second) (ledger.append later) before after where
  rows := by
    have hstored : (ledger.append later).storedRows = ledger.storedRows ++ later.storedRows := by
      simp [Ledger.append, Ledger.storedRows]
    have hfailed : (ledger.append later).failedRows = ledger.failedRows ++ later.failedRows := by
      simp [Ledger.append, Ledger.failedRows]
    rw [hstored, hfailed]
    apply List.Perm.trans _ (hfirst.rows.append hsecond.rows)
    -- the stored rows of the second part and the failed rows of the first change places
    rw [append_assoc, append_assoc]
    apply List.Perm.append_left
    rw [← append_assoc, ← append_assoc]
    exact perm_append_comm.append_right _
  sent := hfirst.sent.trans hsecond.sent
  accepted := by
    rw [hsecond.accepted, hfirst.accepted, append_assoc, Ledger.append, map_append]
  written entry hentry := by
    rcases mem_append.mp hentry with hmem | hmem
    · obtain ⟨moment, affected, hstatement, hanswered⟩ := hfirst.written entry hmem
      exact ⟨moment, affected, hstatement, hanswered.mono prefix_rfl hsecond.sent⟩
    · obtain ⟨moment, affected, hstatement, hanswered⟩ := hsecond.written entry hmem
      exact ⟨moment, affected, hstatement, hanswered.mono hfirst.sent prefix_rfl⟩
  counted := by
    rw [hsecond.counted, hfirst.counted]
    simp only [Ledger.append, Ledger.storedRows, flatMap_append, length_append]
    omega
  recorded := by
    rw [hsecond.recorded, hfirst.recorded, Ledger.append, foldl_append]
  alone entry hentry := by
    rcases mem_append.mp hentry with hmem | hmem
    · exact (hfirst.alone entry hmem).mono prefix_rfl hsecond.sent
    · exact (hsecond.alone entry hmem).mono hfirst.sent prefix_rfl

variable {moment : List Text}

private theorem accept {items : List (Nat × Row)} {run : ImportRun} {affected : Nat}
    (haccepted : oracle run.sent (shape.statement t c moment items) = .ok affected) :
    Accounts t c oracle shape items ⟨[(shape.statement t c moment items, items)], []⟩ run
      (run.accept (shape.statement t c moment items) items.length) where
  rows := by simp [Ledger.storedRows, Ledger.failedRows]
  sent := prefix_append _ _
  accepted := rfl
  written entry hentry := by
    obtain rfl := mem_singleton.mp hentry
    exact ⟨moment, affected, rfl, run.sent, prefix_rfl, prefix_rfl, haccepted⟩
  counted := by simp [Ledger.storedRows, ImportRun.accept]
  recorded := rfl
  alone := by simp

private theorem record {item : Nat × Row} {error : Text} {before run : ImportRun}
    (hsent : before.sent <+: run.sent) (haccepted : run.accepted = before.accepted)
    (hcounted : run.rowsImported = before.rowsImported) (hfailures : run.failures = before.failures)
    (hfails : FailsAlone t c oracle shape before run item error) :
    Accounts t c oracle shape [item] ⟨[], [(item, error)]⟩ before (run.record item.1 error) where
  rows := List.Perm.refl [item]
  sent := hsent
  accepted := haccepted.trans (append_nil _).symm
  written := by simp
  counted := hcounted
  recorded := congrArg (·.record item.1 error) hfailures
  alone entry hentry := by
    obtain rfl := mem_singleton.mp hentry
    exact hfails

private theorem of_reject {items : List (Nat × Row)} {ledger : Ledger} {run after : ImportRun}
    {sql : Text} (h : Accounts t c oracle shape items ledger (run.reject sql) after) :
    Accounts t c oracle shape items ledger run after where
  rows := h.rows
  sent := (prefix_append _ _).trans h.sent
  accepted := h.accepted
  written entry hentry := by
    obtain ⟨moment, affected, hstatement, hanswered⟩ := h.written entry hentry
    exact ⟨moment, affected, hstatement, hanswered.mono (prefix_append _ _) prefix_rfl⟩
  counted := h.counted
  recorded := h.recorded
  alone entry hentry := (h.alone entry hentry).mono (prefix_append _ _) prefix_rfl

end Accounts

private theorem SplitInto.eq_singleton {statement : List (Nat × Row) → Text} {item : Nat × Row}
    {batches : List ImportSqlBatch} {parts : List (List (Nat × Row))}
    (h : SplitInto statement [item] batches parts) : batches = [⟨statement [item], 1⟩] := by
  have horder := h.order
  rcases parts with _ | ⟨part, parts⟩
  · cases horder
  have hpart : part ≠ [] := h.filled part mem_cons_self
  rw [flatten_cons, append_eq_singleton_iff] at horder
  rcases horder with ⟨rfl, -⟩ | ⟨rfl, hrest⟩
  · exact absurd rfl hpart
  · cases parts with
    | nil => exact h.built
    | cons other others =>
      rw [flatten_cons, append_eq_nil_iff] at hrest
      exact absurd hrest.1 (h.filled other (by simp))

variable (hshape : statementShape t c = .ok shape)
include hshape

private theorem importFailedRow_accounts (startRowOffset : Nat) (row : Row) (run : ImportRun) :
    ∃ ledger, Accounts t c oracle shape [(startRowOffset + 1, row)] ledger run
      (importFailedRow t c .insert oracle startRowOffset row run) := by
  rw [importFailedRow]
  cases hbuild : buildImportExecutionBatches t c .insert run.sent startRowOffset [row] with
  | error error =>
    obtain ⟨item, hitem, hfits⟩ := buildImportExecutionBatches_gives hshape hbuild
    obtain rfl := mem_singleton.mp hitem
    exact ⟨_, Accounts.record prefix_rfl rfl rfl rfl
      (.inl ⟨run.sent, prefix_rfl, prefix_rfl, hfits⟩)⟩
  | ok batches =>
    obtain ⟨⟨parts, hsplit⟩, -⟩ := buildImportExecutionBatches_gives hshape hbuild
    obtain rfl := hsplit.eq_singleton
    dsimp only [sendRowBatches]
    cases hanswer : oracle run.sent (shape.statement t c run.sent [(startRowOffset + 1, row)]) with
    | ok affected => exact ⟨_, Accounts.accept hanswer⟩
    | error error =>
      exact ⟨_, Accounts.record (prefix_append _ _) rfl rfl rfl
        (.inr ⟨run.sent, run.sent, prefix_rfl, prefix_rfl, hanswer⟩)⟩

private theorem importFailedBatchRows_accounts (rows : List Row) : ∀ (startRowOffset : Nat)
    (run : ImportRun), ∃ ledger, Accounts t c oracle shape (numbered startRowOffset rows) ledger run
      (importFailedBatchRows t c .insert oracle startRowOffset rows run) := by
  induction rows with
  | nil =>
    intro startRowOffset run
    exact ⟨_, Accounts.nil run⟩
  | cons row rows ih =>
    intro startRowOffset run
    obtain ⟨first, hfirst⟩ :=
      @importFailedRow_accounts t c oracle shape hshape startRowOffset row run
    obtain ⟨later, hlater⟩ := ih (startRowOffset + 1)
      (importFailedRow t c .insert oracle startRowOffset row run)
    rw [numbered_cons]
    exact ⟨first.append later, hfirst.append hlater⟩

private theorem executeImportBatch_accounts (startRowOffset : Nat) (rows : List Row)
    (run : ImportRun) :
    ∃ ledger, Accounts t c oracle shape (numbered startRowOffset rows) ledger run
      (executeImportBatch t c .insert oracle startRowOffset
        ⟨shape.statement t c moment (numbered startRowOffset rows), rows.length⟩ rows run) := by
  rw [executeImportBatch]
  cases hanswer : oracle run.sent (shape.statement t c moment (numbered startRowOffset rows)) with
  | ok affected =>
    have haccounts := Accounts.accept hanswer
    rw [length_numbered] at haccounts
    exact ⟨_, haccounts⟩
  | error error =>
    obtain ⟨ledger, hledger⟩ := @importFailedBatchRows_accounts t c oracle shape hshape rows
      startRowOffset (run.reject (shape.statement t c moment (numbered startRowOffset rows)))
    exact ⟨ledger, hledger.of_reject⟩

private theorem executeImportBatches_accounts (parts : List (List (Nat × Row))) :
    ∀ {startRowOffset : Nat} {rows : List Row} (run : ImportRun),
    parts.flatten = numbered startRowOffset rows →
    ∃ ledger, Accounts t c oracle shape (numbered startRowOffset rows) ledger run
      (executeImportBatches t c .insert oracle startRowOffset
        (parts.map fun part => ⟨shape.statement t c moment part, part.length⟩) rows run) := by
  induction parts with
  | nil =>
    intro startRowOffset rows run hflatten
    rw [← hflatten]
    exact ⟨_, Accounts.nil run⟩
  | cons part parts ih =>
    intro startRowOffset rows run hflatten
    rw [flatten_cons] at hflatten
    obtain ⟨hpart, hrest⟩ := eq_numbered_of_append hflatten
    have hlength : (rows.take part.length).length = part.length := by
      conv_rhs => rw [hpart, length_numbered]
    obtain ⟨first, hfirst⟩ := @executeImportBatch_accounts t c oracle shape hshape moment
      startRowOffset (rows.take part.length) run
    rw [← hpart, hlength] at hfirst
    obtain ⟨later, hlater⟩ := ih (executeImportBatch t c .insert oracle startRowOffset
      ⟨shape.statement t c moment part, part.length⟩ (rows.take part.length) run) hrest
    refine ⟨first.append later, ?_⟩
    rw [map_cons, executeImportBatches, hlength, ← hflatten, hrest]
    exact hfirst.append hlater

end Accounts

/-! ### Every row is accounted for -/

/-- The chunk is imported: every row is stored or fails by itself, and the sink lists the failures
under their numbers, up to its limit. -/
def ImportsRows (t : ImportTarget) (c : ImportColumns) (oracle : Oracle) (startRowOffset : Nat)
    (rows : List Row) (run : ImportRun) : Prop :=
  ∃ shape ledger after, statementShape t c = .ok shape ∧
    executeImportRowsBatch t c .insert oracle startRowOffset rows run = .ok after ∧
    Accounts t c oracle shape (numbered startRowOffset rows) ledger run after ∧
    after.failures.failures = (run.failures.failures ++ ledger.failed.map fun entry =>
      TableImportFailure.mk run.failures.table entry.1.1 entry.2).take importFailureRecordLimit

private theorem foldl_record_failures (failed : List ((Nat × Row) × Text)) :
    ∀ (sink : ImportFailureSink),
    (failed.foldl (fun sink entry => sink.record entry.1.1 entry.2) sink).failures =
      (sink.failures ++ failed.map fun entry =>
        TableImportFailure.mk sink.table entry.1.1 entry.2).take importFailureRecordLimit := by
  induction failed with
  | nil =>
    intro sink
    rw [map_nil, append_nil, take_of_length_le sink.capped]
    rfl
  | cons entry failed ih =>
    intro sink
    rw [foldl_cons, ih, ImportFailureSink.record_table]
    by_cases hroom : sink.failures.length < importFailureRecordLimit
    · rw [ImportFailureSink.record_failures hroom, append_assoc, singleton_append, map_cons]
    · have hfull : (sink.record entry.1.1 entry.2).failures = sink.failures := by
        rw [ImportFailureSink.record, dif_neg hroom]
      have hlength : importFailureRecordLimit ≤ sink.failures.length := Nat.le_of_not_lt hroom
      rw [hfull, take_append_of_le_length hlength, take_append_of_le_length hlength]

/-- An import of one column into a table of MySQL, whose names are quoted. -/
def mysqlTarget (hardSqlBytes : Nat) : ImportTarget where
  names := ⟨"MySQL", fun _ => "`t`", fun _ _ column => "`" ++ column ++ "`"⟩
  dbType := .mysql
  identifierQuote := none
  hardSqlBytes := some hardSqlBytes
  forms := .plain
  normalizeImportValue _ value := value
  generated _ _ _ _ := []

end DbxSpec.TableImport
