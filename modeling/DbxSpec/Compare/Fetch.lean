import DbxSpec.Base.Paging
import DbxSpec.Base.Tables
import DbxSpec.Sql.Profile

/-!
# Reading the rows of a comparison

`fetch_compare_rows` of `crates/dbx-core/src/data/data_compare.rs:1365-1597`: a table is read in
pages, by key on two databases and by offset elsewhere or when the pages by key do not give the
counted number of rows. Queries are modelled in their parsed form. What a database answers is a
parameter; `Serves` says which answers `ORDER BY` leaves open.
-/

namespace DbxSpec.Compare

open DbxSpec.Base DbxSpec.Sql

/-! ### Pages by offset -/

/-- `sql_dialect/capabilities.rs`, the strategies. -/
inductive TablePaginationStrategy
  | limitOffset | fetchFirst | db2FetchFirst | rownum | sqlServerTop | odbcTop | irisTop
  | informixFirst | firebirdRows | questDbLimit | agentMaxRows | unbounded
  deriving DecidableEq, Repr

/-- `sql_dialect/capabilities.rs:116`, for `PaginationContext::BoundedRead`. -/
def paginationStrategy : DatabaseType → TablePaginationStrategy
  | .jdbc => .agentMaxRows
  | .oracle | .oscar | .dameng | .oceanbaseOracle => .rownum
  | .db2 => .db2FetchFirst
  | .sqlServer => .sqlServerTop
  | .iris => .irisTop
  | .informix | .gbase8s => .informixFirst
  | .firebird => .firebirdRows
  | .questdb => .questDbLimit
  | .odbc => .odbcTop
  | _ => .limitOffset

/-- How a query asks for a page of its result. -/
inductive PageClause
  /-- `OFFSET skip ROWS FETCH FIRST limit ROWS ONLY`, `LIMIT limit OFFSET skip`,
  `SKIP skip FIRST limit`. -/
  | skipping (skip : Option Nat) (limit : Nat)
  /-- `TOP limit START AT start`. -/
  | startAt (start : Option Nat) (limit : Nat)
  /-- Row numbers above `after` and up to `upTo`: `ROWNUM`, `ROW_NUMBER()`, `%VID`,
  `LIMIT after, upTo`. -/
  | numbered (after : Option Nat) (upTo : Nat)
  /-- `ROWS first TO last`. -/
  | between (first : Option Nat) (last : Nat)
  /-- No clause: the driver stops after `limit` rows. -/
  | driver (limit : Nat)
  deriving DecidableEq, Repr

/-- The rows of the page. -/
def PageClause.rows {ρ : Type} (rows : List ρ) : PageClause → List ρ
  | .skipping skip limit => (rows.drop (skip.getD 0)).take limit
  | .startAt start limit => (rows.drop (start.getD 1 - 1)).take limit
  | .numbered after upTo => (rows.take upTo).drop (after.getD 0)
  | .between first last => (rows.take last).drop (first.getD 1 - 1)
  | .driver limit => rows.take limit

/-- The page of `data_compare.rs:1225`. -/
def dataCompareClause (databaseType : DatabaseType) (rowLimit offset : Nat) : PageClause :=
  let skip := if offset > 0 then some offset else none
  match paginationStrategy databaseType with
  | .db2FetchFirst | .fetchFirst | .informixFirst | .limitOffset => .skipping skip rowLimit
  | .rownum | .sqlServerTop | .irisTop | .questDbLimit => .numbered skip (offset + rowLimit)
  | .odbcTop => .startAt (skip.map (· + 1)) rowLimit
  | .firebirdRows => .between (skip.map (· + 1)) (offset + rowLimit)
  | .agentMaxRows | .unbounded => .driver rowLimit

variable {databaseType : DatabaseType}

private theorem paginationStrategy_ne (hclause : databaseType ≠ .jdbc) :
    paginationStrategy databaseType ≠ .agentMaxRows ∧
      paginationStrategy databaseType ≠ .unbounded := by
  cases databaseType <;> first | exact absurd rfl hclause | decide

/-- Every page but those without a clause is a window of the result. -/
theorem rows_dataCompareClause {ρ : Type} (hclause : databaseType ≠ .jdbc) (rowLimit offset : Nat)
    (rows : List ρ) :
    (dataCompareClause databaseType rowLimit offset).rows rows =
      (rows.drop offset).take rowLimit := by
  have hstrategy := paginationStrategy_ne hclause
  have hnumbered : (rows.take (offset + rowLimit)).drop offset =
      (rows.drop offset).take rowLimit := by
    rw [List.drop_take, Nat.add_sub_cancel_left]
  unfold dataCompareClause
  generalize paginationStrategy databaseType = strategy at hstrategy
  rcases Nat.eq_zero_or_pos offset with rfl | hoffset
  · cases strategy <;> simp [PageClause.rows] at hstrategy ⊢
  · cases strategy <;> simp [PageClause.rows, hoffset, hnumbered] at hstrategy ⊢

/-- The number of rows before the page. -/
def PageClause.start : PageClause → Nat
  | .skipping skip _ => skip.getD 0
  | .startAt start _ => start.getD 1 - 1
  | .numbered after _ => after.getD 0
  | .between first _ => first.getD 1 - 1
  | .driver _ => 0

/-- A page starts at its offset. -/
theorem start_dataCompareClause (hclause : databaseType ≠ .jdbc) (rowLimit offset : Nat) :
    (dataCompareClause databaseType rowLimit offset).start = offset := by
  have hstrategy := paginationStrategy_ne hclause
  unfold dataCompareClause
  generalize paginationStrategy databaseType = strategy at hstrategy
  rcases Nat.eq_zero_or_pos offset with rfl | hoffset
  · cases strategy <;> simp [PageClause.start] at hstrategy ⊢
  · cases strategy <;> simp [PageClause.start, hoffset] at hstrategy ⊢

/-! ### Pages by key -/

section

variable {V : Type}

/-- `data_compare.rs:1533`. -/
def keysetKeyIndexes (databaseType : DatabaseType) (columns keyColumns : List Text) :
    Option (List Nat) :=
  if !(databaseType == .sqlServer || databaseType == .postgres) || keyColumns.isEmpty then none
  else keyColumns.mapM columns.idxOf?

/-- The values that can occur in a row: the null, and which are written as a literal
(`Value::String`, `Value::Number` and `Value::Bool`). -/
structure KeyValues (V : Type) where
  null : V
  isLiteral : V → Bool
  isLiteral_null : isLiteral null = false

variable (values : KeyValues V)

/-- `data_compare.rs:1541`. A literal stands for its value. -/
def keysetBoundaryLiterals (row : List V) (keyIndexes : List Nat) : Option (List V) :=
  keyIndexes.mapM fun index => row[index]?.bind fun value =>
    if values.isLiteral value then some value else none

/-- The conditions of a page by key. -/
inductive AfterPredicate (V : Type) where
  /-- `k > v`. -/
  | greater (key : Text) (value : V)
  /-- `(k, …) > (v, …)`. -/
  | rowGreater (keys : List Text) (values : List V)
  /-- `(k = v AND … AND k > v) OR …`. -/
  | anyOf (alternatives : List (List (Text × V) × (Text × V)))

/-- `data_compare.rs:1580`. -/
def keysetAfterPredicate (databaseType : DatabaseType) (keys : List Text) (literals : List V) :
    AfterPredicate V :=
  match keys, literals with
  | [key], [literal] => .greater key literal
  | keys, literals =>
    if databaseType == .postgres then .rowGreater keys literals
    else .anyOf ((List.range keys.length).filterMap fun position =>
      (keys.zip literals)[position]?.map fun last => ((keys.zip literals).take position, last))

variable [LinearOrder V]

/-- The comparison of rows goes on while values are equal. -/
def rowGreaterTruth (null : V) : List V → List V → Truth
  | a :: as, b :: bs =>
    match sqlEq null a b with
    | some true => rowGreaterTruth null as bs
    | some false => sqlGt null a b
    | none => none
  | _, _ => some false

/-- The truth of a condition on a row. -/
def AfterPredicate.truth (null : V) (row : Text → V) : AfterPredicate V → Truth
  | .greater key value => sqlGt null (row key) value
  | .rowGreater keys values => rowGreaterTruth null (keys.map row) values
  | .anyOf alternatives => Truth.any (alternatives.map fun (equal, (key, value)) =>
      Truth.all (equal.map (fun (key, value) => sqlEq null (row key) value) ++
        [sqlGt null (row key) value]))

/-! ### Reading -/

/-- What a database answers: a page of all rows in the order of the key, and the first rows in that
order that fulfil a condition. -/
structure CompareDatabase (V : Type) where
  selectPage : PageClause → Except Text (List (Text → V))
  seekPage : Nat → Option (AfterPredicate V) → Except Text (List (Text → V))

/-- The arguments of `fetch_compare_rows` that do not only name the table. A comparison names the
columns that it reads, and `ensure_data_compare_supported` (`data_compare.rs:1182`) refuses a
database whose pages have no clause. -/
structure CompareRead where
  databaseType : DatabaseType
  columns : List Text
  keyColumns : List Text
  fetchBatchSize : Nat
  rowBudget : Nat
  databaseType_ne : databaseType ≠ .jdbc
  columns_ne : columns ≠ []
  fetchBatchSize_pos : 0 < fetchBatchSize

variable (read : CompareRead) (database : CompareDatabase V)

/-- The columns of a row that are selected. -/
def CompareRead.shown (row : Text → V) : List V := read.columns.map row

/-- The columns of a row that it is ordered by. -/
def CompareRead.keyOf (row : Text → V) : List V := read.keyColumns.map row

/-- The rows of a page by offset, as they are fetched. -/
def fetchOffsetPage (size offset : Nat) : Except Text (List (List V)) := do
  let rows ← database.selectPage (dataCompareClause read.databaseType size offset)
  return rows.map read.shown

/-- `data_compare.rs:1432`. -/
def fetchCompareRowsByOffset : Except Text (List (List V)) := do
  let rows ← readPages (fetchOffsetPage read database)
    (fun offset fetched => some (offset + fetched.length))
    read.fetchBatchSize read.rowBudget read.rowBudget 0 []
  return rows.getD []

/-- The rows of a page by key, as they are fetched. -/
def fetchKeysetPage (size : Nat) (after : Option (List V)) : Except Text (List (List V)) := do
  let rows ← database.seekPage size
    (after.map (keysetAfterPredicate read.databaseType read.keyColumns))
  return rows.map read.shown

/-- The boundary of the next page by key. -/
def nextBoundary (keyIndexes : List Nat) (_ : Option (List V)) (fetched : List (List V)) :
    Option (Option (List V)) :=
  fetched.getLast?.bind fun lastRow => (keysetBoundaryLiterals values lastRow keyIndexes).map some

/-- `data_compare.rs:1477`. -/
def fetchCompareRowsByKey (keyIndexes : List Nat) : Except Text (Option (List (List V))) :=
  readPages (fetchKeysetPage read database) (nextBoundary values keyIndexes)
    read.fetchBatchSize read.rowBudget read.rowBudget none []

/-- `data_compare.rs:1365`. -/
def fetchCompareRows (expectedRows : Nat) : Except Text (List (List V)) :=
  match keysetKeyIndexes read.databaseType read.columns read.keyColumns with
  | some keyIndexes =>
    match fetchCompareRowsByKey values read database keyIndexes with
    | .ok (some rows) =>
      if rows.length = min expectedRows read.rowBudget then .ok rows
      else fetchCompareRowsByOffset read database
    -- A page by key that fails is not an error: the pages by offset are tried.
    | .ok none | .error _ => fetchCompareRowsByOffset read database
  | none => fetchCompareRowsByOffset read database

/-- The database has these rows. Every query sorts them by the key columns, and may leave rows with
the same key in any order; a page by key may fail. -/
structure Serves (table : List (Text → V)) : Prop where
  selects : ∀ clause, ∃ arr, Arrangement read.keyOf table arr ∧
    database.selectPage clause = .ok (clause.rows arr)
  seeks : ∀ size after rows, database.seekPage size after = .ok rows →
    ∃ arr, Arrangement read.keyOf table arr ∧
      rows = (arr.filter fun row =>
        after.all fun condition => condition.truth values.null row == some true).take size

/-- The database answers every query by key. -/
def CompareDatabase.Answers : Prop :=
  ∀ size after, ∃ rows, database.seekPage size after = .ok rows

end

end DbxSpec.Compare
