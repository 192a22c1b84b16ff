import DbxSpec.Base.Fallible

/-!
# Confirmed writes of the agent

Model of the write grant of `crates/dbx-core/src/ai/agent_tools.rs` and of the tool dispatch of
`agent_loop.rs`, for a database type other than MongoDb; `classify` is the risk classification at
that type. The user confirms one text, and the loop takes the grant back before it dispatches the
call that uses it. The loop classifies the text of a call as it came, the tool the trimmed text.
-/

namespace DbxSpec.Ai

open Base List

/-- `sql_risk.rs:19`. -/
inductive SqlRisk
  | readOnly
  | write
  | ddl
  | transaction
  deriving DecidableEq

/-- `Display` of a risk. -/
def SqlRisk.display : SqlRisk → Text
  | .readOnly => "read-only"
  | .write => "write"
  | .ddl => "DDL"
  | .transaction => "transaction"

/-- Classified as a write or DDL. -/
def isChange : Except Text SqlRisk → Bool
  | .ok .write | .ok .ddl => true
  | _ => false

/-- `agent_tools.rs:177`. -/
structure AgentSqlPermissions where
  allowWrites : Bool := false
  allowDangerous : Bool := false
  confirmedWriteSql : Option Text := none

/-- `agent_tools.rs:189`. -/
def confirmedWriteSqlPermissions (productionDatabase allowWriteSql : Bool)
    (confirmedWriteSql : Option Text) : AgentSqlPermissions :=
  let confirmedWriteSql := confirmedWriteSql.filter fun sql => trim sql ≠ []
  let writeSqlConfirmed := !productionDatabase && allowWriteSql && confirmedWriteSql.isSome
  ⟨writeSqlConfirmed, writeSqlConfirmed, if writeSqlConfirmed then confirmedWriteSql else none⟩

/-- A tool call. `execute_query` has its string argument `sql`, if there is one, and what
`targets_production_database` answers when it runs. -/
inductive ToolCall
  | executeQuery (sql : Option Text) (targetsProduction : Bool)
  | other (name : Text)
  deriving DecidableEq

/-- The statements `execute_query` lets through, with their risk. -/
abbrev Log := List (ToolCall × SqlRisk)

section

variable (classify : Text → Except Text SqlRisk) (permissions : AgentSqlPermissions)

/-- `agent_tools.rs:245`. -/
def sqlRiskAllowed : SqlRisk → Bool
  | .readOnly => true
  | .write => permissions.allowWrites
  | .ddl => permissions.allowDangerous
  | .transaction => false

/-- The caller drops an error. -/
def writeRequiresConfirmation (sql : Text) : Bool :=
  !(permissions.allowWrites || permissions.allowDangerous ||
    permissions.confirmedWriteSql.isSome) && isChange (classify sql)

/-- `agent_tools.rs:1110`. -/
def sqlMatchesConfirmedWrite (executedSql : Text) : Option Text → Bool
  | none => true
  | some confirmed => trim executedSql = trim confirmed

/-- The permissions left; the call itself runs with `permissions`. -/
def takeSqlPermissionsForExecution (sql : Text) : AgentSqlPermissions :=
  let consumesConfirmation := isChange (classify sql) &&
    (classify sql).toOption.any (sqlRiskAllowed permissions) &&
    sqlMatchesConfirmedWrite sql permissions.confirmedWriteSql &&
    permissions.confirmedWriteSql.isSome
  if consumesConfirmation then {} else permissions

/-- `agent_tools.rs:1097`. -/
def truncateSqlForError (sql : Text) : Text :=
  if (trim sql).length ≤ 120 then trim sql else (trim sql).take 117 ++ "..."

/-- The checks of `execute_query`. -/
def executeExecuteQuery (sql : Option Text) (targetsProduction : Bool) : Except Text SqlRisk :=
  match sql.map trim with
  | none => .error "Missing required parameter: sql"
  | some sql =>
    if sql = [] then .error "SQL query cannot be empty" else
    (classify sql).bind fun risk =>
    if risk ≠ .readOnly ∧ targetsProduction then
      .error ("Blocked: AI agents cannot execute writes or DDL on a production database. " ++
        "Return the SQL for the user to review and execute manually in DBX.")
    else if ¬sqlRiskAllowed permissions risk then
      .error (if risk = .transaction then
        "Blocked: transaction control statements are not available to the AI agent."
      else "Blocked: " ++ risk.display ++ " statement detected. " ++
        "Ask the user to confirm the proposed database change before executing it.")
    else if risk ≠ .readOnly ∧ ¬sqlMatchesConfirmedWrite sql permissions.confirmedWriteSql then
      .error ("Blocked: the executed SQL does not match the user-confirmed SQL.\n" ++
        "Confirmed: " ++ truncateSqlForError (permissions.confirmedWriteSql.getD []) ++
        "\nAttempted: " ++ truncateSqlForError sql)
    else .ok risk

/-- No tool but `execute_query` reads the permissions. -/
def executeTool : ToolCall → Log
  | .executeQuery sql targetsProduction =>
    match executeExecuteQuery classify permissions sql targetsProduction with
    | .ok risk => [(.executeQuery sql targetsProduction, risk)]
    | .error _ => []
  | .other _ => []

/-- `agent_loop.rs:1495`. -/
def sequentialToolPermissions : ToolCall → AgentSqlPermissions
  | .executeQuery (some sql) _ => takeSqlPermissionsForExecution classify permissions sql
  | _ => permissions

/-- `agent_loop.rs:1511`. -/
def unconfirmedWriteSql (calls : List ToolCall) : Option Text :=
  calls.findSome? fun
    | .executeQuery sql _ => sql.filter (writeRequiresConfirmation classify permissions)
    | .other _ => none

end

/-- The metadata of a tool: no definition of `execute_query` may run in parallel. -/
def ToolCall.isParallel (parallelOk : Text → Bool) : ToolCall → Bool
  | .executeQuery _ _ => false
  | .other name => parallelOk name

section

variable (classify : Text → Except Text SqlRisk) (parallelOk : Text → Bool)

/-- The sequential group of a turn, and the permissions left. -/
def runSequential : AgentSqlPermissions → List ToolCall → Log × AgentSqlPermissions
  | permissions, [] => ([], permissions)
  | permissions, call :: calls =>
    let rest := runSequential (sequentialToolPermissions classify permissions call) calls
    (executeTool classify permissions call ++ rest.1, rest.2)

/-- The dispatch of a turn; `none` where the loop ends before any tool runs. -/
def runTurn (permissions : AgentSqlPermissions) (calls : List ToolCall) :
    Option (Log × AgentSqlPermissions) :=
  if (unconfirmedWriteSql classify permissions calls).isSome then none
  else
    let (parallel, sequential) := calls.partition (·.isParallel parallelOk)
    let rest := runSequential classify permissions sequential
    some (parallel.flatMap (executeTool classify permissions) ++ rest.1, rest.2)

/-- The turns of a run, and the permissions left unless it ended. -/
def runTurns : AgentSqlPermissions → List (List ToolCall) → Log × Option AgentSqlPermissions
  | permissions, [] => ([], some permissions)
  | permissions, calls :: turns =>
    match runTurn classify parallelOk permissions calls with
    | none => ([], none)
    | some (log, left) => (runTurns left turns).map (log ++ ·) id

/-- One confirmation allows one write: what a run lets through that starts from it. -/
structure OneWrite (production allow : Bool) (confirmed : Option Text)
    (result : Log × Option AgentSqlPermissions) : Prop where
  once : result.1.countP (·.2 ≠ .readOnly) ≤ 1
  confirmed : ∀ entry ∈ result.1, entry.2 ≠ .readOnly → production = false ∧ allow ∧
    ∃ text, confirmed = some text ∧ trim text ≠ [] ∧
      ∃ sql, entry.1 = .executeQuery (some sql) false ∧ trim sql = trim text
  transaction : ∀ call, (call, .transaction) ∉ result.1
  stops : ∀ left ∈ result.2, left.confirmedWriteSql = none → ∀ calls sql targetsProduction,
    .executeQuery (some sql) targetsProduction ∈ calls → isChange (classify (trim sql)) →
      runTurn classify parallelOk left calls = none

end

/-! ### The grant is spent once -/

section

variable {classify : Text → Except Text SqlRisk} {parallelOk : Text → Bool} {text : Text}
  {grant left : Bool} {log : Log}

/-- The permissions while the grant for a text is outstanding, and after. -/
def held (text : Text) (grant : Bool) : AgentSqlPermissions :=
  ⟨grant, grant, if grant then some text else none⟩

/-- What is let through while the grant goes from `grant` to `left`. -/
structure Spends (text : Text) (grant left : Bool) (log : Log) : Prop where
  budget : log.countP (·.2 ≠ .readOnly) + left.toNat ≤ grant.toNat
  each : ∀ entry ∈ log, entry.2 ≠ .readOnly → entry.2 ≠ .transaction ∧
    ∃ sql, entry.1 = .executeQuery (some sql) false ∧ trim sql = trim text

private theorem Spends.nil (h : left ≤ grant) : Spends text grant left [] :=
  ⟨by simpa using Bool.toNat_le_toNat h, by simp⟩

private theorem Spends.append {between : Bool} {later : Log} (h : Spends text grant between log)
    (hlater : Spends text between left later) : Spends text grant left (log ++ later) := by
  refine ⟨?_, forall_mem_append.mpr ⟨h.each, hlater.each⟩⟩
  have := h.budget
  have := hlater.budget
  rw [countP_append]
  omega

private theorem executeExecuteQuery_held {sql : Option Text} {production : Bool} {risk : SqlRisk}
    (h : executeExecuteQuery classify (held text grant) sql production = .ok risk)
    (hrisk : risk ≠ .readOnly) : grant ∧ risk ≠ .transaction ∧ production = false ∧
      ∃ raw, sql = some raw ∧ isChange (classify (trim raw)) ∧ trim raw = trim text := by
  unfold executeExecuteQuery at h
  rcases sql with _ | raw
  · cases h
  · simp only [Option.map_some, guard_eq_ok_iff, bind_eq_ok_iff] at h
    obtain ⟨-, found, hclass, hproduction, hallowed, hmatches, hfound⟩ := h
    cases hfound
    cases grant <;> cases risk <;>
      simp_all [held, sqlRiskAllowed, sqlMatchesConfirmedWrite, isChange, trim_trim]

private theorem takeSqlPermissionsForExecution_held (sql : Text) :
    takeSqlPermissionsForExecution classify (held text grant) sql =
      held text (grant && !(isChange (classify sql) && trim sql = trim text)) := by
  unfold takeSqlPermissionsForExecution
  cases hclass : classify sql with
  | error => simp [isChange]
  | ok risk =>
    cases risk <;> cases grant <;> by_cases hsame : trim sql = trim text <;>
      simp [hsame, held, isChange, sqlRiskAllowed, sqlMatchesConfirmedWrite, Except.toOption]

variable (hraw : ∀ sql, isChange (classify (trim sql)) → isChange (classify sql))
include hraw

private theorem spends_call (call : ToolCall) : ∃ left,
    sequentialToolPermissions classify (held text grant) call = held text left ∧
      Spends text grant left (executeTool classify (held text grant) call) := by
  rcases call with ⟨_ | sql, production⟩ | name
  · exact ⟨grant, rfl, .nil le_rfl⟩
  · refine ⟨_, takeSqlPermissionsForExecution_held sql, ?_⟩
    simp only [executeTool]
    split
    · next risk hok =>
      by_cases hrisk : risk = .readOnly
      · exact ⟨by cases grant <;> simp [hrisk, Bool.toNat_le], by simp [hrisk]⟩
      · obtain ⟨rfl, htransaction, rfl, _, ⟨⟩, hchange, hsame⟩ := executeExecuteQuery_held hok hrisk
        exact ⟨by simp [hrisk, hraw sql hchange, hsame], by simp [htransaction, hsame]⟩
    · exact .nil (Bool.and_le_left _ _)
  · exact ⟨grant, rfl, .nil le_rfl⟩

private theorem spends_sequential (calls : List ToolCall) : ∃ left,
    (runSequential classify (held text grant) calls).2 = held text left ∧
      Spends text grant left (runSequential classify (held text grant) calls).1 := by
  induction calls generalizing grant with
  | nil => exact ⟨grant, rfl, .nil le_rfl⟩
  | cons call calls ih =>
    obtain ⟨between, hbetween, hcall⟩ := spends_call hraw call
    obtain ⟨left, hleft, hcalls⟩ := @ih between
    rw [← hbetween] at hleft hcalls
    exact ⟨left, hleft, hcall.append hcalls⟩

private theorem spends_turn {calls : List ToolCall} {after : AgentSqlPermissions}
    (h : runTurn classify parallelOk (held text grant) calls = some (log, after)) :
    ∃ left, after = held text left ∧ Spends text grant left log := by
  simp only [runTurn, partition_eq_filter_filter, Option.ite_none_left_eq_some,
    Option.some.injEq, Prod.mk.injEq] at h
  obtain ⟨-, rfl, rfl⟩ := h
  -- No call of the parallel group is `execute_query`.
  rw [flatMap_eq_nil_iff.mpr, nil_append]
  · exact spends_sequential hraw _
  · intro call hcall
    cases call with
    | executeQuery => simp [ToolCall.isParallel] at hcall
    | other => rfl

private theorem spends_turns (turns : List (List ToolCall)) : ∃ left,
    (∀ after ∈ (runTurns classify parallelOk (held text grant) turns).2, after = held text left) ∧
      Spends text grant left (runTurns classify parallelOk (held text grant) turns).1 := by
  induction turns generalizing grant with
  | nil => exact ⟨grant, by simp [runTurns], .nil le_rfl⟩
  | cons calls turns ih =>
    unfold runTurns
    split
    · exact ⟨false, by simp, .nil (Bool.false_le _)⟩
    · next log after hturn =>
      obtain ⟨between, rfl, hspends⟩ := spends_turn hraw hturn
      obtain ⟨left, hleft, hlater⟩ := @ih between
      exact ⟨left, hleft, hspends.append hlater⟩

omit hraw

private theorem runTurn_eq_none_iff {permissions : AgentSqlPermissions} {calls : List ToolCall} :
    runTurn classify parallelOk permissions calls = none ↔ ∃ sql production,
      .executeQuery (some sql) production ∈ calls ∧
        writeRequiresConfirmation classify permissions sql := by
  simp only [runTurn, ite_eq_left_iff, unconfirmedWriteSql, findSome?_isSome_iff, reduceCtorEq,
    imp_false, not_not]
  constructor
  · rintro ⟨⟨_ | sql, production⟩ | name, hcall, h⟩
    · cases h
    · exact ⟨sql, production, hcall, by simpa using h⟩
    · cases h
  · rintro ⟨sql, production, hcall, h⟩
    exact ⟨_, hcall, by simpa using h⟩

private theorem confirmedWriteSqlPermissions_eq_held (production allow : Bool)
    (confirmed : Option Text) :
    ∃ text grant, confirmedWriteSqlPermissions production allow confirmed = held text grant ∧
      (grant → production = false ∧ allow ∧ confirmed = some text ∧ trim text ≠ []) := by
  refine ⟨confirmed.getD [],
    !production && allow && (confirmed.filter (trim · ≠ [])).isSome, ?_, ?_⟩
  · cases confirmed <;> grind [confirmedWriteSqlPermissions, held]
  · cases confirmed <;> grind

end

private def afterIdeographicSpace (sql : Text) : Except Text SqlRisk :=
  .ok (if sql = "\u3000SET @a = 1" then .readOnly else .write)

end DbxSpec.Ai
