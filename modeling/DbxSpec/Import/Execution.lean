import DbxSpec.Import.InsertBatch

/-!
# Executing the statements of a file

`crates/dbx-core/src/data/sql_file_import.rs:2337-2413` and `2736-3176`: the statements of a file
are planned and sent one after the other. A merged statement that fails is replayed source by
source. The executor and the cancellation token are an environment that answers as it likes; the
ledger says which source statements have been counted, and as what.
-/

namespace DbxSpec.Import

open DbxSpec.Base DbxSpec.Sql List Nat

/-! ### Plans -/

/-- `sql_file_import.rs:103`. -/
structure ControlledSqlFileImportStatement where
  statement : SqlFileImportStatement
  stopOnError : Bool
  deriving DecidableEq, Repr

section

variable (x : Externals) (dbType : Option DatabaseType) (driverProfile : Option Text)
  (maxInsertBatchStatements : Option Nat)

/-- `sql_file_import.rs:2374`. -/
def optimizeSqlFileImportStatementsForBatch (sql : List Text) : List SqlFileImportStatement :=
  match maxInsertBatchStatements with
  | some limit =>
    optimizeSqlFileImportStatementsWithMaxInsertBatchStatements x dbType driverProfile limit sql
  | none => optimizeSqlFileImportStatements x dbType driverProfile sql

/-- `sql_file_import.rs:2391`: the statements with one `stopOnError` after the other. -/
def optimizeControlledSqlFileImportStatements :
    List SqlStatementWithControl → List ControlledSqlFileImportStatement
  | [] => []
  | first :: statements =>
    let same := statements.takeWhile (·.stopOnError == first.stopOnError)
    let planned := optimizeSqlFileImportStatementsForBatch x dbType driverProfile
      maxInsertBatchStatements ((first :: same).map (·.sql))
    planned.map (⟨·, first.stopOnError⟩) ++
      optimizeControlledSqlFileImportStatements
        (statements.dropWhile (·.stopOnError == first.stopOnError))
termination_by statements => statements.length
decreasing_by
  rw [length_cons]
  exact lt_succ_of_le (length_dropWhile_le _ _)

/-- `sql_file_import.rs:2337`. -/
def planSqlFileStatements (statements : List SqlStatementWithControl) (manual : Bool) :
    List ControlledSqlFileImportStatement :=
  if !manual then
    optimizeControlledSqlFileImportStatements x dbType driverProfile maxInsertBatchStatements
      statements
  else
    statements.flatMap fun statement =>
      (optimizeSqlFileImportStatementsForBatch x dbType driverProfile maxInsertBatchStatements
        [statement.sql]).map (⟨·, true⟩)

end

/-! ### Progress -/

/-- `crates/dbx-sql-core/src/sql.rs:146`. -/
inductive SqlFileStatus
  | started
  | running
  | statementDone
  | statementFailed
  | done
  | error
  | cancelled
  deriving DecidableEq, Repr

/-- `crates/dbx-sql-core/src/sql.rs:507`, with the fields that are set here. -/
structure SqlFileProgress where
  executionId : Text
  status : SqlFileStatus
  statementIndex : Nat
  successCount : Nat
  failureCount : Nat
  affectedRows : Nat
  statementSummary : Text
  error : Option Text
  failureSql : Option Text
  deriving DecidableEq, Repr

/-- `sql_file_import.rs:243`. -/
structure SqlFileExecutionProgress where
  statementIndex : Nat := 0
  successCount : Nat := 0
  failureCount : Nat := 0
  affectedRows : Nat := 0
  deriving DecidableEq, Repr

/-- `crates/dbx-sql-core/src/sql.rs:2686`. -/
def statementSummary (statement : Text) : Text :=
  (joinTexts " " (splitWhitespace statement)).take 120

/-- What the program does not decide: the answer to a text after the texts that have been sent, and
what the token says when it is looked at for the nth time. -/
structure Environment where
  answer : List Text → Text → Except Text Nat
  cancelled : Nat → Bool

/-- A run: its counters, the texts that have been sent, the events that have been emitted and the
number of looks at the token. -/
structure Execution where
  progress : SqlFileExecutionProgress := {}
  sent : List Text := []
  events : List SqlFileProgress := []
  looks : Nat := 0
  deriving DecidableEq, Repr

variable (e : Execution)

namespace Execution

/-- `sql_file_progress` with the counters of the run (`sql_file_import.rs:2417`), emitted. -/
def emit (executionId : Text) (status : SqlFileStatus) (statementIndex : Nat)
    (summary : Text) (error failureSql : Option Text) : Execution :=
  { e with
    events := e.events ++ [{
      executionId
      status
      statementIndex
      successCount := e.progress.successCount
      failureCount := e.progress.failureCount
      affectedRows := e.progress.affectedRows
      statementSummary := summary
      error
      failureSql }] }

/-- A statement is counted as a success for its sources, with the rows it has affected. -/
def succeed (sources affected : Nat) : Execution :=
  { e with progress := { e.progress with
      successCount := e.progress.successCount + sources
      affectedRows := e.progress.affectedRows + affected } }

/-- A statement is counted as a failure. -/
def fail : Execution :=
  { e with progress := { e.progress with failureCount := e.progress.failureCount + 1 } }

/-- A text has been sent. -/
def send (sql : Text) : Execution := { e with sent := e.sent ++ [sql] }

/-- The token has been looked at. -/
def look : Execution := { e with looks := e.looks + 1 }

@[simp]
private theorem sent_emit (executionId summary : Text) (status : SqlFileStatus)
    (index : Nat) (error failureSql : Option Text) :
    (e.emit executionId status index summary error failureSql).sent = e.sent := rfl

@[simp]
private theorem sent_look : e.look.sent = e.sent := rfl

end Execution

section

variable (env : Environment) (executionId : Text)

/-- `sql_file_import.rs:3112`, with the events emitted and the failure counted. -/
def statementErrorDecision (continueOnError : Bool) (statementIndex : Nat)
    (summary statementSql error : Text) (e : Execution) : Except Text Bool × Execution :=
  if env.cancelled e.looks then
    (.ok true, e.look.emit executionId .cancelled statementIndex summary none none)
  else
    let failed := e.look.fail.emit executionId .statementFailed statementIndex summary (some error)
      (some statementSql)
    if continueOnError then (.ok false, failed)
    else (.error error, failed.emit executionId .error statementIndex summary (some error) none)

/-- `sql_file_import.rs:2933`. -/
def executeMergedStatementFallbackWithProgress (continueOnError : Bool) :
    Nat → List Text → Execution → Except Text Bool × Execution
  | _, [], e => (.ok false, e)
  | statementIndex, sourceSql :: sourceSqls, e =>
    let summary := statementSummary sourceSql
    if env.cancelled e.looks then
      (.ok true, e.look.emit executionId .cancelled statementIndex summary none none)
    else
      let running := e.look.emit executionId .running statementIndex summary none none
      match env.answer running.sent sourceSql with
      | .ok affected =>
        executeMergedStatementFallbackWithProgress continueOnError (statementIndex + 1) sourceSqls
          (((running.send sourceSql).succeed 1 affected).emit executionId .statementDone
            statementIndex summary none none)
      | .error error =>
        match statementErrorDecision env executionId continueOnError statementIndex summary
          sourceSql error (running.send sourceSql) with
        | (.ok false, e) =>
          executeMergedStatementFallbackWithProgress continueOnError (statementIndex + 1)
            sourceSqls e
        | (result, e) => (result, e)

/-- `sql_file_import.rs:2777`. -/
def executeStatementWithProgress (requestContinueOnError : Bool) (statementIndex : Nat)
    (controlledStatement : ControlledSqlFileImportStatement) (e : Execution) :
    Except Text Bool × Execution :=
  let statement := controlledStatement.statement
  let continueOnError := requestContinueOnError && !controlledStatement.stopOnError
  let summary := statementSummary statement.sql
  if env.cancelled e.looks then
    (.ok true, e.look.emit executionId .cancelled statementIndex summary none none)
  else
    let running := e.look.emit executionId .running statementIndex summary none none
    if statement.kind = .skip then
      (.ok false, (running.succeed statement.sourceStatementCount 0).emit executionId
        .statementDone statementIndex summary none none)
    else
      match env.answer running.sent statement.sql with
      | .ok affected =>
        (.ok false, ((running.send statement.sql).succeed statement.sourceStatementCount
          affected).emit executionId .statementDone statementIndex summary none none)
      | .error error =>
        let sent := running.send statement.sql
        if 1 < statement.sourceStatementCount then
          if env.cancelled sent.looks then
            statementErrorDecision env executionId continueOnError statementIndex summary
              statement.sql error sent.look
          else
            executeMergedStatementFallbackWithProgress env executionId continueOnError
              (statementIndex + 1 - statement.sourceStatementCount) statement.sourceSqls sent.look
        else
          statementErrorDecision env executionId continueOnError statementIndex summary
            statement.sql error sent

/-- `sql_file_import.rs:2736`. -/
def executePlannedStatementsWithProgress (requestContinueOnError : Bool) :
    List ControlledSqlFileImportStatement → Execution → Except Text Unit × Execution
  | [], e => (.ok (), e)
  | planned :: plannedStatements, e =>
    if env.cancelled e.looks then (.ok (), e.look)
    else
      let nextStatementIndex := e.progress.statementIndex + planned.statement.sourceStatementCount
      match executeStatementWithProgress env executionId requestContinueOnError nextStatementIndex
        planned e.look with
      | (.error error, e) => (.error error, e)
      | (.ok true, e) => (.ok (), e)
      | (.ok false, e) =>
        executePlannedStatementsWithProgress requestContinueOnError plannedStatements
          { e with progress := { e.progress with statementIndex := nextStatementIndex } }

end

/-! ### Ledgers -/

/-- The verdicts on source statements, in their order, the texts that have been sent for them and
the error that has stopped the run. -/
structure Ledger where
  verdicts : List Bool
  sent : List Text
  stopped : Option Text
  deriving DecidableEq, Repr

/-- One verdict, and then those of a ledger. -/
def Ledger.cons (verdict : Bool) (text : Text) (ledger : Ledger) : Ledger :=
  ⟨verdict :: ledger.verdicts, text :: ledger.sent, ledger.stopped⟩

section

variable (answer : List Text → Text → Except Text Nat)

/-- Sources that are sent one by one, after the texts that have been sent before. -/
def replay (continueOnError : Bool) : List Text → List Text → Ledger
  | _, [] => ⟨[], [], none⟩
  | before, source :: sources =>
    match answer before source with
    | .ok _ => (replay continueOnError (before ++ [source]) sources).cons true source
    | .error error =>
      if continueOnError then
        (replay continueOnError (before ++ [source]) sources).cons false source
      else ⟨[false], [source], some error⟩

/-- A statement that is skipped or accepted settles all of its sources; one that is refused settles
its only source, or none before they are replayed. -/
def settle (continueOnError : Bool) (before : List Text) (statement : SqlFileImportStatement) :
    Ledger :=
  if statement.kind = .skip then
    ⟨replicate statement.sourceStatementCount true, [], none⟩
  else
    match answer before statement.sql with
    | .ok _ => ⟨replicate statement.sourceStatementCount true, [statement.sql], none⟩
    | .error error =>
      if 1 < statement.sourceStatementCount then
        let ledger := replay answer continueOnError (before ++ [statement.sql]) statement.sourceSqls
        { ledger with sent := statement.sql :: ledger.sent }
      else ⟨[false], [statement.sql], if continueOnError then none else some error⟩

/-- The statements of a plan, up to the first that stops the run. -/
def settleAll (requestContinueOnError : Bool) :
    List Text → List ControlledSqlFileImportStatement → Ledger
  | _, [] => ⟨[], [], none⟩
  | before, planned :: plannedStatements =>
    let now := settle answer (requestContinueOnError && !planned.stopOnError) before
      planned.statement
    match now.stopped with
    | some _ => now
    | none =>
      let later := settleAll requestContinueOnError (before ++ now.sent) plannedStatements
      ⟨now.verdicts ++ later.verdicts, now.sent ++ later.sent, later.stopped⟩

end

/-! ### What ledgers hold -/

section

variable (answer : List Text → Text → Except Text Nat) (continueOnError : Bool)

/-- Each source is sent once and gets one verdict, up to the one that fails if the run is stopped
there. -/
def Ledger.Covers (ledger : Ledger) (sources : List Text) : Prop :=
  ledger.sent = sources.take ledger.verdicts.length ∧
    (ledger.stopped = none → ledger.verdicts.length = sources.length) ∧
    (ledger.stopped ≠ none → ledger.verdicts.length ≤ sources.length ∧
      ledger.verdicts.getLast? = some false)

variable {ledger : Ledger}

private theorem Ledger.Covers.cons {sources : List Text} (h : ledger.Covers sources)
    (verdict : Bool) (source : Text) : (ledger.cons verdict source).Covers (source :: sources) := by
  obtain ⟨hsent, hall, hsome⟩ := h
  refine ⟨congrArg (List.cons source) hsent, fun h => congrArg (· + 1) (hall h), fun h => ?_⟩
  obtain ⟨hle, hlast⟩ := hsome h
  refine ⟨succ_le_succ hle, ?_⟩
  rw [Ledger.cons, getLast?_cons, hlast]
  rfl

private theorem replay_covers (before sources : List Text) :
    (replay answer continueOnError before sources).Covers sources := by
  induction sources generalizing before with
  | nil => exact ⟨rfl, fun _ => rfl, fun h => absurd rfl h⟩
  | cons source sources ih =>
    rw [replay]
    cases answer before source with
    | ok affected => exact (ih _).cons true source
    | error error =>
      dsimp only
      split
      · exact (ih _).cons false source
      · exact ⟨rfl, fun h => (nomatch h), fun _ => ⟨by simp, rfl⟩⟩

/-- A statement with the sources that it counts, of which there is one at least. -/
def SqlFileImportStatement.Counted (statement : SqlFileImportStatement) : Prop :=
  statement.sourceStatementCount = statement.sourceSqls.length ∧ 0 < statement.sourceStatementCount

private theorem settle_verdicts {statement : SqlFileImportStatement} (h : statement.Counted)
    (before : List Text) :
    let ledger := settle answer continueOnError before statement
    (ledger.stopped = none → ledger.verdicts.length = statement.sourceStatementCount) ∧
      (ledger.stopped ≠ none → ledger.verdicts.length ≤ statement.sourceStatementCount ∧
          ledger.verdicts.getLast? = some false ∧
          ledger.sent = statement.sql :: if 1 < statement.sourceStatementCount then
            statement.sourceSqls.take ledger.verdicts.length else []) := by
  obtain ⟨hcount, hpos⟩ := h
  unfold settle
  by_cases hskip : statement.kind = .skip
  · rw [if_pos hskip]
    exact ⟨fun _ => length_replicate, fun hstop => absurd rfl hstop⟩
  rw [if_neg hskip]
  cases answer before statement.sql with
  | ok affected => exact ⟨fun _ => length_replicate, fun hstop => absurd rfl hstop⟩
  | error error =>
    dsimp only
    by_cases hmerged : 1 < statement.sourceStatementCount
    · rw [if_pos hmerged, if_pos hmerged]
      obtain ⟨hsent, hall, hsome⟩ := replay_covers answer continueOnError
        (before ++ [statement.sql]) statement.sourceSqls
      rw [hcount]
      exact ⟨hall, fun hstop =>
        ⟨(hsome hstop).1, (hsome hstop).2, congrArg (cons statement.sql) hsent⟩⟩
    · have hone : statement.sourceStatementCount = 1 := by omega
      rw [if_neg hmerged, if_neg hmerged, hone]
      exact ⟨fun _ => rfl, fun _ => ⟨le_rfl, rfl, rfl⟩⟩

/-- The sources of a plan. -/
def sourceTotal (planned : List ControlledSqlFileImportStatement) : Nat :=
  (planned.map (·.statement.sourceStatementCount)).sum

/-- A ledger, and then another. -/
def Ledger.followedBy (now later : Ledger) : Ledger :=
  ⟨now.verdicts ++ later.verdicts, now.sent ++ later.sent, later.stopped⟩

section

variable {planned : List ControlledSqlFileImportStatement} (requestContinueOnError : Bool)
  (before : List Text) {p : ControlledSqlFileImportStatement} {now : Ledger}

section

variable (rest : List ControlledSqlFileImportStatement)

private theorem settleAll_cons_of_stopped {error : Text}
    (hnow : settle answer (requestContinueOnError && !p.stopOnError) before p.statement = now)
    (hstop : now.stopped = some error) :
    settleAll answer requestContinueOnError before (p :: rest) = now := by
  rw [settleAll]
  rw [hnow, hstop]

private theorem settleAll_cons
    (hnow : settle answer (requestContinueOnError && !p.stopOnError) before p.statement = now)
    (hstop : now.stopped = none) :
    settleAll answer requestContinueOnError before (p :: rest) =
      now.followedBy (settleAll answer requestContinueOnError (before ++ now.sent) rest) := by
  rw [settleAll]
  rw [hnow, hstop]
  rfl

end

section

variable (hplanned : ∀ p ∈ planned, p.statement.Counted)

include hplanned

/-- Each source of a plan gets one verdict unless the run is stopped. Then it is stopped by the last
source it has sent: the statements before it have all been settled, and none is sent after it. -/
theorem settleAll_verdicts
    (hledger : settleAll answer requestContinueOnError before planned = ledger) :
    (ledger.stopped = none → ledger.verdicts.length = sourceTotal planned) ∧
      (ledger.stopped ≠ none → ∃ earlier failing later, planned = earlier ++ failing :: later ∧
        ledger.verdicts.getLast? = some false ∧ sourceTotal earlier < ledger.verdicts.length ∧
        ledger.verdicts.length ≤ sourceTotal earlier + failing.statement.sourceStatementCount ∧
        ledger.sent = (settleAll answer requestContinueOnError before earlier).sent ++
          failing.statement.sql :: if 1 < failing.statement.sourceStatementCount then
            failing.statement.sourceSqls.take (ledger.verdicts.length - sourceTotal earlier)
          else []) := by
  induction planned generalizing before ledger with
  | nil =>
    subst hledger
    exact ⟨fun _ => rfl, fun h => absurd rfl h⟩
  | cons p planned ih =>
    obtain ⟨hall, hsome⟩ := settle_verdicts answer (requestContinueOnError && !p.stopOnError)
      (hplanned p mem_cons_self) before
    generalize hnow : settle answer (requestContinueOnError && !p.stopOnError) before
      p.statement = now at hall hsome
    cases hstop : now.stopped with
    | some error =>
      rw [settleAll_cons_of_stopped _ _ _ _ hnow hstop] at hledger
      subst hledger
      refine ⟨fun h => (nomatch hstop.symm.trans h), fun h => ?_⟩
      obtain ⟨hle, hlast, hsent⟩ := hsome h
      refine ⟨[], p, planned, rfl, hlast, ?_, ?_, hsent⟩
      · exact length_pos_of_mem (mem_of_getLast? hlast)
      · rw [sourceTotal, map_nil, sum_nil, zero_add]
        exact hle
    | none =>
      rw [settleAll_cons _ _ _ _ hnow hstop] at hledger
      subst hledger
      obtain ⟨hrest, hstopped⟩ := ih _ (fun q hq => hplanned q (mem_cons_of_mem _ hq)) rfl
      have hcount := hall hstop
      dsimp only [Ledger.followedBy]
      rw [length_append, hcount]
      refine ⟨fun h => congrArg _ (hrest h), fun h => ?_⟩
      obtain ⟨earlier, failing, later, rfl, hlast, hlt, hle, hsent⟩ := hstopped h
      have htotal : sourceTotal (p :: earlier) =
          p.statement.sourceStatementCount + sourceTotal earlier := rfl
      refine ⟨p :: earlier, failing, later, rfl, ?_⟩
      rw [settleAll_cons _ _ _ _ hnow hstop, htotal, Nat.add_sub_add_left]
      refine ⟨?_, by omega, by omega, ?_⟩
      · rw [getLast?_append, hlast]
        rfl
      · rw [hsent, Ledger.followedBy, append_assoc]

end

end

end

/-! ### Runs and ledgers -/

/-- The run has ended with the event of an error at a source. -/
def Execution.StopsAt (index : Nat) (error : Text) : Prop :=
  ∃ event, e.events.getLast? = some event ∧ event.status = .error ∧ event.statementIndex = index ∧
    event.error = some error

/-- What a ledger lets a statement return. -/
def Ledger.result (ledger : Ledger) : Except Text Bool :=
  match ledger.stopped with
  | none => .ok false
  | some error => .error error

/-- A ledger has been entered into a run, after a number of sources. -/
structure Enters (index : Nat) (ledger : Ledger) (e after : Execution) : Prop where
  success : after.progress.successCount = e.progress.successCount + ledger.verdicts.count true
  failure : after.progress.failureCount = e.progress.failureCount + ledger.verdicts.count false
  statementIndex : after.progress.statementIndex = e.progress.statementIndex
  sent : after.sent = e.sent ++ ledger.sent
  stops : ∀ error, ledger.stopped = some error →
    after.StopsAt (index + ledger.verdicts.length) error

private theorem Enters.followedBy {index : Nat} {now later : Ledger} {e between after : Execution}
    (h : Enters index now e between)
    (h' : Enters (index + now.verdicts.length) later between after) :
    Enters index (now.followedBy later) e after where
  success := by rw [h'.success, h.success, Ledger.followedBy, count_append, add_assoc]
  failure := by rw [h'.failure, h.failure, Ledger.followedBy, count_append, add_assoc]
  statementIndex := h'.statementIndex.trans h.statementIndex
  sent := by rw [h'.sent, h.sent, Ledger.followedBy, append_assoc]
  stops error hstop := by
    rw [Ledger.followedBy, length_append, ← add_assoc]
    exact h'.stops error hstop

section

variable {env : Environment} (hcancel : ∀ n, env.cancelled n = false) (executionId : Text)
include hcancel

/-- What has been sent when a statement is running. -/
def Execution.running (e : Execution) (index : Nat) (sql : Text) : Execution :=
  (e.look.emit executionId .running index (statementSummary sql) none none).send sql

private theorem statementErrorDecision_enters (continueOnError : Bool) (index : Nat)
    (sql error : Text) (e : Execution) :
    let ledger : Ledger := ⟨[false], [sql], if continueOnError then none else some error⟩
    ∃ after, statementErrorDecision env executionId continueOnError (index + 1)
        (statementSummary sql) sql error (e.running executionId (index + 1) sql) =
        (ledger.result, after) ∧ Enters index ledger e after := by
  unfold statementErrorDecision
  rw [hcancel, if_neg Bool.false_ne_true]
  cases continueOnError with
  | true => exact ⟨_, rfl, rfl, rfl, rfl, rfl, nofun⟩
  | false =>
    refine ⟨_, rfl, rfl, rfl, rfl, rfl, ?_⟩
    rintro _ ⟨⟩
    exact ⟨_, getLast?_concat, rfl, rfl, rfl⟩

private theorem fallback_enters (continueOnError : Bool) (index : Nat) (sources : List Text)
    (e : Execution) :
    let ledger := replay env.answer continueOnError e.sent sources
    let run := executeMergedStatementFallbackWithProgress env executionId continueOnError
      (index + 1) sources e
    run.1 = ledger.result ∧ Enters index ledger e run.2 := by
  induction sources generalizing index e with
  | nil =>
    refine ⟨rfl, rfl, rfl, rfl, ?_, fun error h => (nomatch h)⟩
    exact (append_nil _).symm
  | cons source sources ih =>
    rw [executeMergedStatementFallbackWithProgress, replay, hcancel, if_neg Bool.false_ne_true]
    dsimp only
    rw [Execution.sent_emit, Execution.sent_look]
    cases hanswer : env.answer e.sent source with
    | ok affected =>
      obtain ⟨hresult, henters⟩ := ih (index + 1) (((e.running executionId (index + 1)
        source).succeed 1 affected).emit executionId .statementDone (index + 1)
          (statementSummary source) none none)
      refine ⟨hresult, @Enters.followedBy index ⟨[true], [source], none⟩ _ _ _ _ ?_ henters⟩
      exact ⟨rfl, rfl, rfl, rfl, nofun⟩
    | error error =>
      dsimp only
      obtain ⟨after, hdecision, hnow⟩ := statementErrorDecision_enters hcancel executionId
        continueOnError index source error e
      rw [Execution.running] at hdecision
      rw [hdecision]
      cases continueOnError with
      | true =>
        obtain ⟨hresult, henters⟩ := ih (index + 1) after
        rw [hnow.sent] at hresult henters
        exact ⟨hresult, hnow.followedBy henters⟩
      | false => exact ⟨rfl, hnow⟩

private theorem executeStatement_enters (requestContinueOnError : Bool) (index : Nat)
    (controlled : ControlledSqlFileImportStatement) (hcounted : controlled.statement.Counted)
    (e : Execution) :
    let ledger := settle env.answer (requestContinueOnError && !controlled.stopOnError) e.sent
      controlled.statement
    let run := executeStatementWithProgress env executionId requestContinueOnError
      (index + controlled.statement.sourceStatementCount) controlled e
    run.1 = ledger.result ∧ Enters index ledger e run.2 := by
  obtain ⟨statement, stopOnError⟩ := controlled
  obtain ⟨hcount, hpos⟩ := hcounted
  unfold executeStatementWithProgress settle
  generalize (requestContinueOnError && !stopOnError) = continueOnError
  rw [hcancel, if_neg Bool.false_ne_true]
  dsimp only at hcount hpos ⊢
  rw [Execution.sent_emit, Execution.sent_look]
  by_cases hskip : statement.kind = .skip
  · rw [if_pos hskip, if_pos hskip]
    refine ⟨rfl, ?_, ?_, rfl, (append_nil _).symm, fun error h => (nomatch h)⟩
    · rw [count_replicate_self]; rfl
    · rw [count_replicate, if_neg (by decide)]; rfl
  rw [if_neg hskip, if_neg hskip]
  cases hanswer : env.answer e.sent statement.sql with
  | ok affected =>
    refine ⟨rfl, ?_, ?_, rfl, rfl, fun error h => (nomatch h)⟩
    · rw [count_replicate_self]; rfl
    · rw [count_replicate, if_neg (by decide)]; rfl
  | error error =>
    dsimp only
    by_cases hmerged : 1 < statement.sourceStatementCount
    · -- The batch is not counted; the replay starts at the first of its sources.
      have hfirst : index + statement.sourceStatementCount + 1 - statement.sourceStatementCount =
          index + 1 := by omega
      rw [if_pos hmerged, if_pos hmerged, hcancel, if_neg Bool.false_ne_true, hfirst]
      obtain ⟨hresult, henters⟩ := fallback_enters hcancel executionId continueOnError index
        statement.sourceSqls
        (e.running executionId (index + statement.sourceStatementCount) statement.sql).look
      refine ⟨hresult, henters.success, henters.failure, henters.statementIndex, ?_, henters.stops⟩
      exact henters.sent.trans (append_assoc _ _ _)
    · have hone : statement.sourceStatementCount = 1 := by omega
      rw [if_neg hmerged, if_neg hmerged, hone]
      obtain ⟨after, hdecision, hnow⟩ := statementErrorDecision_enters hcancel executionId
        continueOnError index statement.sql error e
      rw [Execution.running] at hdecision
      rw [hdecision]
      exact ⟨rfl, hnow⟩

/-- A run whose index is set. -/
def Execution.indexed (e : Execution) (statementIndex : Nat) : Execution :=
  { e with progress := { e.progress with statementIndex } }

private theorem executePlanned_enters (requestContinueOnError : Bool)
    (planned : List ControlledSqlFileImportStatement)
    (hplanned : ∀ p ∈ planned, p.statement.Counted) (e : Execution)
    {run : Except Text Unit × Execution}
    (hledger : settleAll env.answer requestContinueOnError e.sent planned = ledger)
    (hrun : executePlannedStatementsWithProgress env executionId requestContinueOnError planned e =
      run) :
    run.1 = ledger.result.map (fun _ => ()) ∧
      (ledger.stopped = none →
        run.2.progress.statementIndex = e.progress.statementIndex + sourceTotal planned) ∧
      Enters e.progress.statementIndex ledger e (run.2.indexed e.progress.statementIndex) := by
  induction planned generalizing e ledger run with
  | nil =>
    subst hledger hrun
    exact ⟨rfl, fun _ => rfl, rfl, rfl, rfl, (append_nil _).symm, nofun⟩
  | cons p planned ih =>
    obtain ⟨hresult, henters⟩ := executeStatement_enters hcancel executionId requestContinueOnError
      e.progress.statementIndex p (hplanned p mem_cons_self) e.look
    have hverdicts := (settle_verdicts env.answer (requestContinueOnError && !p.stopOnError)
      (hplanned p mem_cons_self) e.sent).1
    rw [Execution.sent_look] at hresult henters
    rw [executePlannedStatementsWithProgress, hcancel, if_neg Bool.false_ne_true] at hrun
    dsimp only at hrun
    generalize hnow : settle env.answer (requestContinueOnError && !p.stopOnError) e.sent
      p.statement = now at hresult henters hverdicts
    generalize executeStatementWithProgress env executionId requestContinueOnError
      (e.progress.statementIndex + p.statement.sourceStatementCount) p e.look = step at *
    obtain ⟨result, after⟩ := step
    obtain rfl : result = now.result := hresult
    have hnowEnters : Enters e.progress.statementIndex now e
        (after.indexed e.progress.statementIndex) :=
      ⟨henters.success, henters.failure, rfl, henters.sent, henters.stops⟩
    cases hstop : now.stopped with
    | some error =>
      rw [settleAll_cons_of_stopped _ _ _ _ hnow hstop] at hledger
      rw [Ledger.result, hstop] at hrun
      subst hrun hledger
      exact ⟨by rw [Ledger.result, hstop]; rfl, fun hnone => (nomatch hstop.symm.trans hnone),
        hnowEnters⟩
    | none =>
      rw [settleAll_cons _ _ _ _ hnow hstop] at hledger
      rw [Ledger.result, hstop] at hrun
      obtain ⟨hresult', hindex, hlater⟩ := ih
        (fun q hq => hplanned q (mem_cons_of_mem _ hq))
        (after.indexed (e.progress.statementIndex + p.statement.sourceStatementCount))
        (congrArg (settleAll env.answer requestContinueOnError · planned) henters.sent) hrun
      subst hledger
      refine ⟨hresult', ?_, hnowEnters.followedBy ?_⟩
      · intro hnone
        rw [hindex hnone]
        exact add_assoc _ _ _
      · rw [hverdicts hstop]
        exact ⟨hlater.success, hlater.failure, rfl, hlater.sent, hlater.stops⟩

end

/-- Without cancellation the counters are those of the ledger. If the run ends well, each source
statement of the plan has one verdict and the index is at its end. If it ends with an error, the
verdicts go up to the failing source, which is the last that has been sent, and the event of the
error has its index. -/
theorem executePlannedStatements_accounts (env : Environment)
    (hcancel : ∀ n, env.cancelled n = false) (executionId : Text) (requestContinueOnError : Bool)
    (planned : List ControlledSqlFileImportStatement)
    (hplanned : ∀ p ∈ planned, p.statement.Counted) (e : Execution) :
    let ledger := settleAll env.answer requestContinueOnError e.sent planned
    let run := executePlannedStatementsWithProgress env executionId requestContinueOnError planned e
    run.2.progress.successCount = e.progress.successCount + ledger.verdicts.count true ∧
      run.2.progress.failureCount = e.progress.failureCount + ledger.verdicts.count false ∧
      (run.1 = .ok () → ledger.verdicts.length = sourceTotal planned ∧
        run.2.progress.successCount + run.2.progress.failureCount =
          e.progress.successCount + e.progress.failureCount + sourceTotal planned ∧
        run.2.progress.statementIndex = e.progress.statementIndex + sourceTotal planned) ∧
      ∀ error, run.1 = .error error →
        ∃ earlier failing later, planned = earlier ++ failing :: later ∧
          sourceTotal earlier < ledger.verdicts.length ∧
          ledger.verdicts.length ≤ sourceTotal earlier + failing.statement.sourceStatementCount ∧
          ledger.verdicts.getLast? = some false ∧
          run.2.sent = e.sent ++
            ((settleAll env.answer requestContinueOnError e.sent earlier).sent ++
              failing.statement.sql :: if 1 < failing.statement.sourceStatementCount then
                failing.statement.sourceSqls.take (ledger.verdicts.length - sourceTotal earlier)
              else []) ∧
          run.2.progress.successCount + run.2.progress.failureCount =
            e.progress.successCount + e.progress.failureCount + ledger.verdicts.length ∧
          run.2.StopsAt (e.progress.statementIndex + ledger.verdicts.length) error := by
  intro ledger run
  obtain ⟨hresult, hindex, hsuccess, hfailure, -, hsent, hstops⟩ :=
    executePlanned_enters hcancel executionId requestContinueOnError planned hplanned e
      (rfl : _ = ledger) (rfl : _ = run)
  have hcount : run.2.progress.successCount + run.2.progress.failureCount =
      e.progress.successCount + e.progress.failureCount + ledger.verdicts.length := by
    have hverdicts := count_true_add_count_false ledger.verdicts
    dsimp only [Execution.indexed] at hsuccess hfailure
    omega
  obtain ⟨hall, hstopped⟩ :=
    settleAll_verdicts env.answer requestContinueOnError e.sent hplanned (rfl : _ = ledger)
  refine ⟨hsuccess, hfailure, fun hok => ?_, fun error herror => ?_⟩
  · have hnone : ledger.stopped = none := by
      rw [hresult, Ledger.result] at hok
      split at hok
      · next hstop => exact hstop
      · cases hok
    exact ⟨hall hnone, by rw [hcount, hall hnone], hindex hnone⟩
  · have hsome : ledger.stopped = some error := by
      rw [hresult, Ledger.result] at herror
      split at herror
      · cases herror
      · next hstop =>
        cases herror
        exact hstop
    obtain ⟨earlier, failing, later, hsplit, hlast, hlt, hle, htexts⟩ :=
      hstopped (by rw [hsome]; exact nofun)
    exact ⟨earlier, failing, later, hsplit, hlt, hle, hlast, hsent.trans (by rw [htexts]), hcount,
      hstops error hsome⟩

/-- An executor that refuses the text of a merged statement and that of one of its sources. -/
def refusing : Environment where
  answer _ text := if text = "b" then .error "refused"
    else if text = "ab" then .error "refused" else .ok 1
  cancelled _ := false

private def mergedPlan : List ControlledSqlFileImportStatement :=
  [⟨⟨.execute, "ab", ["a", "b"], 2⟩, false⟩,
    ⟨⟨.execute, "c", ["c"], 1⟩, false⟩]

/-- A merged statement that is refused and replayed. -/
theorem executePlannedStatements_accounts_merged : (∀ p ∈ mergedPlan, p.statement.Counted) ∧
    (executePlannedStatementsWithProgress refusing [] true mergedPlan {}).2.progress.failureCount =
      0 + (settleAll refusing.answer true [] mergedPlan).verdicts.count false := by
  have hplanned : ∀ p ∈ mergedPlan, p.statement.Counted := by
    intro p hp
    simp only [mergedPlan, mem_cons, not_mem_nil, or_false] at hp
    rcases hp with rfl | rfl <;> exact ⟨rfl, by decide⟩
  exact ⟨hplanned, (executePlannedStatements_accounts refusing (fun _ => rfl) [] true mergedPlan
    hplanned {}).2.1⟩

/-! ### Plans are counted -/

section

variable (x : Externals) (dbType : Option DatabaseType) (driverProfile : Option Text)
  (maxInsertBatchStatements : Option Nat)

/-- A plan whose statements have the sources they count, so many in all. -/
def CountsTo (planned : List ControlledSqlFileImportStatement) (total : Nat) : Prop :=
  sourceTotal planned = total ∧ ∀ p ∈ planned, p.statement.Counted

private theorem CountsTo.batch_append {later : List ControlledSqlFileImportStatement} {total : Nat}
    (h : CountsTo later total) (sql : List Text) (stopOnError : Bool) :
    CountsTo ((optimizeSqlFileImportStatementsForBatch x dbType driverProfile
      maxInsertBatchStatements sql).map (⟨·, stopOnError⟩) ++ later) (sql.length + total) := by
  have hcounts : ∀ limit, CountsTo ((optimizeSqlFileImportStatementsWithMaxInsertBatchStatements x
      dbType driverProfile limit sql).map (⟨·, stopOnError⟩) ++ later) (sql.length + total) := by
    intro limit
    have hnone : CollectsPending x dbType driverProfile limit [] none := rfl
    obtain ⟨-, hsum, hentries⟩ := (standForAll_optimizeLoop hnone sql).counts
    constructor
    · rw [sourceTotal, map_append, sum_append_nat, map_map, ← h.1]
      exact congrArg (· + sourceTotal later) hsum
    · intro p hp
      rcases mem_append.mp hp with hnow | hlater
      · obtain ⟨entry, hentry, rfl⟩ := mem_map.mp hnow
        exact ⟨(hentries entry hentry).1, (hentries entry hentry).2.1⟩
      · exact h.2 p hlater
  cases maxInsertBatchStatements with
  | some limit => exact hcounts limit
  | none => exact hcounts sqlFileInsertBatchMaxStatements

variable {x dbType driverProfile maxInsertBatchStatements}

private theorem optimizeControlled_countsTo (statements : List SqlStatementWithControl) :
    CountsTo (optimizeControlledSqlFileImportStatements x dbType driverProfile
      maxInsertBatchStatements statements) statements.length := by
  fun_induction optimizeControlledSqlFileImportStatements x dbType driverProfile
    maxInsertBatchStatements statements with
  | case1 => exact ⟨rfl, fun p hp => (not_mem_nil hp).elim⟩
  | case2 first statements same planned ih =>
    have hcounts := ih.batch_append x dbType driverProfile maxInsertBatchStatements
      ((first :: same).map (·.sql)) first.stopOnError
    rwa [length_map, length_cons, add_right_comm, ← length_append,
      takeWhile_append_dropWhile] at hcounts

variable (x dbType driverProfile maxInsertBatchStatements)

private theorem planSqlFileStatements_countsTo (statements : List SqlStatementWithControl)
    (manual : Bool) : CountsTo (planSqlFileStatements x dbType driverProfile
      maxInsertBatchStatements statements manual) statements.length := by
  rcases manual with _ | _
  · exact optimizeControlled_countsTo statements
  induction statements with
  | nil => exact ⟨rfl, fun p hp => (not_mem_nil hp).elim⟩
  | cons statement statements ih =>
    rw [length_cons, add_comm]
    exact CountsTo.batch_append x dbType driverProfile maxInsertBatchStatements ih
      [statement.sql] true

/-- Without cancellation, a file that runs to its end counts each of its statements once, however
they are merged into batches. One that is stopped counts no more. -/
theorem executePlanned_counts_file (answer : List Text → Text → Except Text Nat)
    (executionId : Text) (continueOnError manual : Bool) (statements : List SqlStatementWithControl)
    (e : Execution) :
    let run := executePlannedStatementsWithProgress ⟨answer, fun _ => false⟩ executionId
      continueOnError (planSqlFileStatements x dbType driverProfile maxInsertBatchStatements
        statements manual) e
    let before := e.progress.successCount + e.progress.failureCount
    let counted := run.2.progress.successCount + run.2.progress.failureCount
    counted ≤ before + statements.length ∧ (run.1 = .ok () →
      counted = before + statements.length ∧
        run.2.progress.statementIndex = e.progress.statementIndex + statements.length) := by
  intro run before counted
  obtain ⟨htotal, hplanned⟩ := planSqlFileStatements_countsTo x dbType driverProfile
    maxInsertBatchStatements statements manual
  obtain ⟨hresult, hindex, hsuccess, hfailure, -⟩ := executePlanned_enters (fun _ => rfl)
    executionId continueOnError _ hplanned e rfl (rfl : _ = run)
  obtain ⟨hall, hstopped⟩ := settleAll_verdicts answer continueOnError e.sent hplanned rfl
  generalize settleAll answer continueOnError e.sent _ = ledger at *
  have hcounted : counted = before + ledger.verdicts.length := by
    have hverdicts := count_true_add_count_false ledger.verdicts
    dsimp only [Execution.indexed] at hsuccess hfailure
    omega
  by_cases hnone : ledger.stopped = none
  · have hlength := (hall hnone).trans htotal
    exact ⟨by omega, fun _ => ⟨by omega, by rw [hindex hnone, htotal]⟩⟩
  · obtain ⟨earlier, failing, later, hsplit, -, -, hle, -⟩ := hstopped hnone
    have hsum : sourceTotal (earlier ++ failing :: later) = statements.length := hsplit ▸ htotal
    simp only [sourceTotal, map_append, map_cons, sum_append_nat, sum_cons] at hle hsum
    refine ⟨by omega, fun hok => absurd ?_ hnone⟩
    rw [hresult, Ledger.result] at hok
    split at hok
    · next hstop => exact hstop
    · cases hok

end

end DbxSpec.Import
