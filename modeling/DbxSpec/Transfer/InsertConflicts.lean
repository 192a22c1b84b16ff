import DbxSpec.Transfer.InsertLimits

/-!
# Batches under the conflict policies

Updates of existing rows leave room for their clause before they pack. Skipped duplicates are packed
by the lengths of plain statements and built with another start and a clause, so the lengths that
were checked are those of the statements only if both come out the same.
-/

namespace DbxSpec.Transfer

open DbxSpec.Base DbxSpec.Sql DbxSpec.Grid List InsertSqlTemplate

variable {names : TargetNames} {columns : List Text} {target : DatabaseType}
  {limits : SqlBatchLimits} {identifierQuote : Option Text}

/-! ### Updates of existing rows -/

variable {clause : Text}

private theorem Batched.append_clause {valueRows : List ValueRow} {statements : List (Text × Nat)}
    {parts : List (List ValueRow)}
    (h : Batched (templateFor names columns target identifierQuote).build target
      (limits.withoutClause (sqlTextBytes target clause)) valueRows statements parts) :
    Batched (fun part => (templateFor names columns target identifierQuote).build part ++ clause)
      target limits valueRows (statements.map fun batch => (batch.1 ++ clause, batch.2)) parts := by
  have htwo : ∀ part ∈ parts, 2 ≤ sqlTextBytes target
      ((templateFor names columns target identifierQuote).build part) :=
    fun part hpart => two_le_build (ne_nil_of_length_pos (h.rowLimit part hpart).1)
  obtain ⟨frame, hframe⟩ := h.tuples
  refine ⟨h.order, ?_, ?_, ?_, h.rowLimit, ?_, ?_⟩
  · rw [h.built, map_map]
    rfl
  · let longer (count : Nat) : StatementFrame :=
      { frame count with finish := (frame count).finish ++ clause }
    refine ⟨longer, fun part hpart => ?_⟩
    rw [hframe part hpart]
    simp only [longer, StatementFrame.fill, append_assoc]
  · rw [map_map]
    exact h.counts
  · intro part hpart hard hlimit
    have hlong := htwo part hpart
    have hbound := h.hardLimit part hpart (max (hard - sqlTextBytes target clause) 1)
      (by rw [SqlBatchLimits.withoutClause, hlimit]; rfl)
    rw [sqlTextBytes_append]
    omega
  · intro part hpart hmany
    have hlong := htwo part hpart
    have hbound : _ ≤ max (limits.targetSqlBytes - sqlTextBytes target clause) 1 :=
      h.targetLimit part hpart hmany
    rw [sqlTextBytes_append]
    omega

section

variable (hsupports : supportsPrimaryKeyUpsert target)

include hsupports

private theorem generateUpsert_eq {pkColumns : List Text}
    (hclause : primaryKeyUpsertClause names columns pkColumns target true = .ok clause)
    (valueRows : List ValueRow) :
    generatePrimaryKeyUpsertSqlBatchesFromValueRows names columns valueRows target limits
        pkColumns =
      (generateInsertSqlBatchesFromValueRows names columns valueRows target
        (limits.withoutClause (sqlTextBytes target clause)) false true none).map
          (·.map fun batch => (batch.1 ++ clause, batch.2)) := by
  rw [generatePrimaryKeyUpsertSqlBatchesFromValueRows, hsupports, hclause]
  cases hinsert : generateInsertSqlBatchesFromValueRows names columns valueRows target
      (limits.withoutClause (sqlTextBytes target clause)) false true none with
  | error e => simp [Except.bind, Except.map, hinsert]
  | ok statements =>
    obtain ⟨parts, hbatched⟩ := (respectsLimits_insert _ valueRows).ok statements hinsert
    obtain rfl := hbatched.built
    simp only [Bool.not_true, Bool.false_eq_true, ↓reduceIte, Except.bind, Except.map, hinsert]
    apply mapM_eq_ok_map
    intro batch hbatch
    obtain ⟨part, hpart, rfl⟩ := mem_map.mp hbatch
    apply if_neg
    -- a clause is never what makes a packed statement too long
    cases hlimit : limits.hardSqlBytes with
    | none => simp
    | some hard =>
      simpa [batchStatement] using hbatched.append_clause.hardLimit part hpart hard hlimit

private theorem respectsLimits_updateExisting {pkColumns : List Text}
    (hclause : primaryKeyUpsertClause names columns pkColumns target true = .ok clause)
    (valueRows : List ValueRow) : RespectsLimits names columns target limits
      (.updateExisting pkColumns) identifierQuote valueRows := by
  have hstatement : ∀ part : List ValueRow,
      batchStatement names columns target (.updateExisting pkColumns) identifierQuote part =
        (templateFor names columns target none).build part ++ clause := by
    intro part
    rw [batchStatement, hclause]
    rfl
  constructor
  case ok =>
    intro statements hok
    rw [generateBatches, generateUpsert_eq hsupports hclause, map_eq_ok_iff] at hok
    obtain ⟨inner, hinner, rfl⟩ := hok
    obtain ⟨parts, hbatched⟩ := (respectsLimits_insert _ valueRows).ok inner hinner
    rw [funext hstatement]
    exact ⟨parts, hbatched.append_clause⟩
  case error =>
    intro e herror
    rw [generateBatches, generateUpsert_eq hsupports hclause, map_eq_error_iff] at herror
    obtain ⟨row, hrow, hard, hhard, hover⟩ := (respectsLimits_insert _ valueRows).error e herror
    obtain ⟨limit, hlimit, rfl⟩ := Option.map_eq_some_iff.mp hhard
    change _ < sqlTextBytes target ((templateFor names columns target none).build [row]) at hover
    refine ⟨row, hrow, limit, hlimit, ?_⟩
    rw [hstatement, sqlTextBytes_append]
    omega
  case predicted =>
    intro part hne
    exact statementBytes_eq matches_templateFor hne

end

/-- When the clause of an update can be written: every primary key has a column of the statement,
and some column is not one of them. -/
structure Updates (columns pkColumns : List Text) : Prop where
  keys : pkColumns ≠ []
  mapped : ∀ key ∈ pkColumns, ∃ column ∈ columns, eqIgnoreAsciiCase column key
  others : ∃ column ∈ columns, ∀ key ∈ pkColumns, eqIgnoreAsciiCase column key = false

private theorem exists_primaryKeyUpsertClause_iff (hsupports : supportsPrimaryKeyUpsert target)
    {pkColumns : List Text} :
    (∃ clause, primaryKeyUpsertClause names columns pkColumns target true = .ok clause) ↔
      Updates columns pkColumns := by
  have hkind : usesOnConflict target ∨ usesMysqlStyleUpsert target := by
    revert hsupports
    cases target <;> decide
  rw [primaryKeyUpsertClause]
  constructor
  · rintro ⟨clause, hclause⟩
    obtain ⟨hkeys, hclause⟩ := guard_eq_ok_iff.mp hclause
    obtain ⟨hmapped, hclause⟩ := guard_eq_ok_iff.mp hclause
    obtain ⟨hothers, -⟩ := guard_eq_ok_iff.mp hclause
    refine ⟨by simpa using hkeys, by simpa using hmapped, ?_⟩
    simpa [filter_eq_nil_iff] using hothers
  · rintro ⟨hkeys, hmapped, hothers⟩
    rw [if_neg (by simpa using hkeys), if_neg (by simpa using hmapped),
      if_neg (by simpa [filter_eq_nil_iff] using hothers)]
    by_cases hconflict : usesOnConflict target
    · rw [if_pos hconflict]
      exact ⟨_, rfl⟩
    · rw [if_neg hconflict, if_pos (hkind.resolve_left hconflict)]
      exact ⟨_, rfl⟩

private theorem exists_generateUpsert_eq_error {pkColumns : List Text} (valueRows : List ValueRow)
    (hupdates : ¬(supportsPrimaryKeyUpsert target ∧ Updates columns pkColumns)) :
    ∃ e, generateBatches names columns target limits (.updateExisting pkColumns) identifierQuote
      valueRows = .error e := by
  rw [generateBatches, generatePrimaryKeyUpsertSqlBatchesFromValueRows]
  by_cases hsupports : supportsPrimaryKeyUpsert target
  · cases hclause : primaryKeyUpsertClause names columns pkColumns target true with
    | ok clause =>
      exact absurd ⟨hsupports, (exists_primaryKeyUpsertClause_iff hsupports).mp ⟨clause, hclause⟩⟩
        hupdates
    | error e =>
      rw [hsupports]
      exact ⟨e, rfl⟩
  · exact ⟨_, if_pos (by simpa using hsupports)⟩

/-- An update keeps the limits if it can be written; if it cannot, its failure is accounted for only
by a row that is too long anyway. -/
theorem respectsLimits_updateExisting_iff {pkColumns : List Text} {valueRows : List ValueRow} :
    RespectsLimits names columns target limits (.updateExisting pkColumns) identifierQuote
        valueRows ↔
      (supportsPrimaryKeyUpsert target ∧ Updates columns pkColumns) ∨
        ∃ row ∈ valueRows, RowOverHard names columns target limits (.updateExisting pkColumns)
          identifierQuote row := by
  by_cases hupdates : supportsPrimaryKeyUpsert target ∧ Updates columns pkColumns
  · obtain ⟨clause, hclause⟩ := (exists_primaryKeyUpsertClause_iff hupdates.1).mpr hupdates.2
    exact ⟨fun _ => .inl hupdates,
      fun _ => respectsLimits_updateExisting hupdates.1 hclause valueRows⟩
  · obtain ⟨e, herror⟩ := @exists_generateUpsert_eq_error names columns target limits
      identifierQuote pkColumns valueRows hupdates
    constructor
    · exact fun hrespects => .inr (hrespects.error e herror)
    · intro hover
      refine ⟨?_, fun _ _ => hover.resolve_left hupdates,
        fun part hne => statementBytes_eq matches_templateFor hne⟩
      intro statements hok
      rw [herror] at hok
      cases hok

/-! ### Skipped duplicates -/

/-- The bytes of a plain statement before its rows. -/
def plainBytes (names : TargetNames) (columns : List Text) (target : DatabaseType)
    (identifierQuote : Option Text) : Nat :=
  sqlTextBytes target (templateFor names columns target identifierQuote).standardStart

/-- The bytes of a statement that skips duplicates, before and after its rows. -/
def skippingBytes (names : TargetNames) (columns : List Text) (target : DatabaseType) : Nat :=
  sqlTextBytes target (ignoreDuplicatesStart names columns target false true) +
    sqlTextBytes target (ignoreDuplicatesClause names columns target true)

/-- What stands around the rows of a statement that skips duplicates, however many there are. -/
def skippingFrame (names : TargetNames) (columns : List Text) (target : DatabaseType) :
    Nat → StatementFrame :=
  fun _ => ⟨ignoreDuplicatesStart names columns target false true, ",\n",
    ignoreDuplicatesClause names columns target true, false⟩

/-- The bytes of some rows of a statement with what stands between them. -/
def tuplesBytes (target : DatabaseType) (rows : List ValueRow) : Nat :=
  rowsBytes target rows + 2 * (rows.length - 1)

/-- The limits do not tell the statements that are measured from those that are written. If a row is
refused, then some row is too long for the statement that is written; and the batches that are
filled by the plain lengths leave the room that the clause takes. -/
structure SkipFits (names : TargetNames) (columns : List Text) (target : DatabaseType)
    (limits : SqlBatchLimits) (identifierQuote : Option Text) (valueRows : List ValueRow) :
    Prop where
  refused : ∀ hard, limits.hardSqlBytes = some hard → ∀ row ∈ valueRows,
    hard < plainBytes names columns target identifierQuote + tuplesBytes target [row] →
    ∃ other ∈ valueRows, hard < skippingBytes names columns target + tuplesBytes target [other]
  hardRoom : ∀ hard, limits.hardSqlBytes = some hard → ∀ parts, parts.flatten = valueRows →
    (rowPacker (templateFor names columns target identifierQuote) target limits).Cut parts →
    ∀ part ∈ parts, skippingBytes names columns target + tuplesBytes target part ≤ hard
  targetRoom : ∀ parts, parts.flatten = valueRows →
    (rowPacker (templateFor names columns target identifierQuote) target limits).Cut parts →
    ∀ part ∈ parts, 2 ≤ part.length →
      skippingBytes names columns target + tuplesBytes target part ≤ limits.targetSqlBytes

section Lengths

private theorem separator_bytes (htarget : target ≠ .sqlServer) :
    sqlTextBytes target ",\n" = 2 := by
  rw [sqlTextBytes, if_neg htarget]
  rfl

variable (hsupports : supportsPrimaryKeyUpsert target)
include hsupports

private theorem ne_sqlServer_of_supports : target ≠ .sqlServer := by
  rintro rfl
  cases hsupports

private theorem templateFor_of_supports :
    (templateFor names columns target identifierQuote).inceptorSelectStart = none ∧
      (templateFor names columns target identifierQuote).oracleIntoStart = none ∧
      (templateFor names columns target identifierQuote).separator = ",\n" := by
  cases target <;> first | exact ⟨rfl, rfl, rfl⟩ | cases hsupports

/-- These targets have the standard statement. -/
theorem build_eq_buildStandard {part : List ValueRow} (hne : part ≠ []) :
    (templateFor names columns target identifierQuote).build part =
      (templateFor names columns target identifierQuote).buildStandard part := by
  obtain ⟨hselect, hinto, -⟩ :=
    @templateFor_of_supports names columns target identifierQuote hsupports
  rw [build, if_neg (by simpa using hne), hselect, hinto]

/-- The length of a plain statement. -/
theorem plain_bytes {part : List ValueRow} (hne : part ≠ []) :
    sqlTextBytes target ((templateFor names columns target identifierQuote).build part) =
      plainBytes names columns target identifierQuote + tuplesBytes target part := by
  obtain ⟨-, -, hseparator⟩ :=
    @templateFor_of_supports names columns target identifierQuote hsupports
  rw [build_eq_buildStandard hsupports hne, sqlTextBytes_buildStandard,
    hseparator, separator_bytes (ne_sqlServer_of_supports hsupports), Nat.add_assoc]
  rfl

private theorem skipping_bytes (hcolumns : columns ≠ []) {part : List ValueRow} (hne : part ≠ []) :
    sqlTextBytes target (skippingStatement names columns target identifierQuote part) =
      skippingBytes names columns target + tuplesBytes target part := by
  rw [skippingStatement, if_pos hsupports, generateInsertIgnoreDuplicatesFromValueRows,
    if_neg (by simpa using ⟨hne, hcolumns⟩), sqlTextBytes_append, sqlTextBytes_append,
    sqlTextBytes_joinTexts, separator_bytes (ne_sqlServer_of_supports hsupports), length_map,
    map_map, skippingBytes, tuplesBytes]
  simp only [rowsBytes, Function.comp_def]
  omega

private theorem tuplesBytes_pos {part : List ValueRow} (hne : part ≠ []) :
    0 < tuplesBytes target part := by
  obtain ⟨row, part, rfl⟩ := exists_cons_of_ne_nil hne
  have hrow := @sqlTextBytes_text target (ne_sqlServer_of_supports hsupports) row
  rw [tuplesBytes, rowsBytes, map_cons, sum_cons]
  omega

end Lengths

/-! #### What the packer gives -/

variable {valueRows : List ValueRow}

/-- The limits are kept if a row that is refused as a plain statement means that a row is too long,
and the batches of the plain lengths keep them. -/
theorem respectsLimits_skipDuplicates_iff {frame : Nat → StatementFrame}
    (hwritten : ∀ part, part ≠ [] →
      skippingStatement names columns target identifierQuote part ≠ [])
    (htuples : ∀ part, part ≠ [] →
      skippingStatement names columns target identifierQuote part = (frame part.length).fill part) :
    RespectsLimits names columns target limits .skipDuplicates identifierQuote valueRows ↔
      ((∃ row ∈ valueRows, (rowPacker (templateFor names columns target identifierQuote) target
          limits).refuses row) →
        ∃ row ∈ valueRows,
          RowOverHard names columns target limits .skipDuplicates identifierQuote row) ∧
      ∀ parts, parts.flatten = valueRows →
        (rowPacker (templateFor names columns target identifierQuote) target limits).Cut parts →
        ∀ part ∈ parts, Within limits target
          (skippingStatement names columns target identifierQuote part) part := by
  constructor
  · intro hrespects
    refine ⟨?_, ?_⟩
    · rintro ⟨row, hrow, hrefuses⟩
      cases hgenerated : generateBatches names columns target limits .skipDuplicates
          identifierQuote valueRows with
      | error e => exact hrespects.error e hgenerated
      | ok statements =>
        obtain ⟨parts, rfl, hcut, -⟩ := Packer.packs_of_pack_eq (full_nil limits) hgenerated
        rw [hcut.not_refuses hrow] at hrefuses
        cases hrefuses
    · rintro parts rfl hcut
      have hok : generateBatches names columns target limits .skipDuplicates identifierQuote
          parts.flatten = .ok (parts.map fun part =>
            (skippingStatement names columns target identifierQuote part, part.length)) := by
        apply Packer.pack_of_cut hcut _ le_rfl
        intro part hne
        exact if_neg (by simpa using hwritten part hne)
      obtain ⟨others, hbatched⟩ := hrespects.ok _ hok
      -- the statements say how long the parts are, so they are the same parts
      obtain rfl : others = parts := by
        have hlengths := congrArg (map Prod.snd) hbatched.built
        rw [map_map, map_map] at hlengths
        exact eq_iff_flatten_eq.mpr ⟨hbatched.order, hlengths.symm⟩
      intro part hpart
      exact ⟨(hcut.mem part hpart).1, (hbatched.rowLimit part hpart).2,
        hbatched.hardLimit part hpart, hbatched.targetLimit part hpart⟩
  · rintro ⟨hrefused, hwithin⟩
    constructor
    case ok =>
      intro statements hok
      apply batched_of_packs limits (Packer.packs_of_pack_eq (full_nil limits) hok) _
        htuples hwithin
      intro part result hemit
      dsimp only at hemit
      split at hemit
      · cases hemit
      · exact Except.ok.inj hemit
    case error =>
      intro e herror
      rcases Packer.packs_of_pack_eq (full_nil limits) herror with hrefuses | ⟨part, hne, hemit⟩
      · exact hrefused hrefuses
      · dsimp only at hemit
        rw [if_neg (by simpa using hwritten part hne)] at hemit
        cases hemit
    case predicted =>
      intro part hne
      exact statementBytes_eq matches_templateFor hne

section Supported

variable (hsupports : supportsPrimaryKeyUpsert target) (hcolumns : columns ≠ [])
include hsupports hcolumns

private theorem skippingStatement_ne_nil {part : List ValueRow} (hne : part ≠ []) :
    skippingStatement names columns target identifierQuote part ≠ [] := by
  intro hempty
  have hbytes := @skipping_bytes names columns target identifierQuote hsupports hcolumns part hne
  have hpos := tuplesBytes_pos hsupports hne
  rw [hempty, sqlTextBytes_nil] at hbytes
  omega

private theorem skippingStatement_eq_fill {part : List ValueRow} (hne : part ≠ []) :
    skippingStatement names columns target identifierQuote part =
      (skippingFrame names columns target part.length).fill part := by
  rw [skippingStatement, if_pos hsupports, generateInsertIgnoreDuplicatesFromValueRows,
    if_neg (by simpa using ⟨hne, hcolumns⟩)]
  rfl

private theorem rowOverHard_skipDuplicates_iff {row : ValueRow} :
    RowOverHard names columns target limits .skipDuplicates identifierQuote row ↔
      ∃ hard, limits.hardSqlBytes = some hard ∧
        hard < skippingBytes names columns target + tuplesBytes target [row] := by
  rw [RowOverHard, batchStatement, skipping_bytes hsupports hcolumns (cons_ne_nil row [])]

private theorem respectsLimits_iff_skipFits :
    RespectsLimits names columns target limits .skipDuplicates identifierQuote valueRows ↔
      SkipFits names columns target limits identifierQuote valueRows := by
  rw [respectsLimits_skipDuplicates_iff
    (fun part hne => skippingStatement_ne_nil hsupports hcolumns hne)
    (fun part hne => skippingStatement_eq_fill hsupports hcolumns hne)]
  have hplain : ∀ row, (rowPacker (templateFor names columns target identifierQuote) target
      limits).refuses row ↔ ∃ hard, limits.hardSqlBytes = some hard ∧
        hard < plainBytes names columns target identifierQuote + tuplesBytes target [row] := by
    intro row
    rw [refuses_eq_true_iff limits matches_templateFor, plain_bytes hsupports (cons_ne_nil row [])]
  simp only [hplain, rowOverHard_skipDuplicates_iff hsupports hcolumns]
  constructor
  · rintro ⟨hrefused, hwithin⟩
    constructor
    case refused =>
      intro hard hlimit row hrow hover
      obtain ⟨other, hother, limit, hhard, hlong⟩ := hrefused ⟨row, hrow, hard, hlimit, hover⟩
      obtain rfl : limit = hard := Option.some.inj (hhard.symm.trans hlimit)
      exact ⟨other, hother, hlong⟩
    case hardRoom =>
      intro hard hlimit parts hflatten hcut part hpart
      rw [← skipping_bytes hsupports hcolumns (hcut.mem part hpart).1]
      exact (hwithin parts hflatten hcut part hpart).hardLimit hard hlimit
    case targetRoom =>
      intro parts hflatten hcut part hpart
      rw [← skipping_bytes hsupports hcolumns (hcut.mem part hpart).1]
      exact (hwithin parts hflatten hcut part hpart).targetLimit
  · intro hfits
    refine ⟨?_, ?_⟩
    · rintro ⟨row, hrow, hard, hlimit, hover⟩
      obtain ⟨other, hother, hlong⟩ := hfits.refused hard hlimit row hrow hover
      exact ⟨other, hother, hard, hlimit, hlong⟩
    · intro parts hflatten hcut part hpart
      obtain ⟨hne, hfit⟩ := hcut.mem part hpart
      have hbytes :=
        @skipping_bytes names columns target identifierQuote hsupports hcolumns part hne
      refine ⟨hne, (build_within hne hfit).rowLimit, ?_, ?_⟩
      · intro hard hlimit
        rw [hbytes]
        exact hfits.hardRoom hard hlimit parts hflatten hcut part hpart
      · rw [hbytes]
        exact hfits.targetRoom parts hflatten hcut part hpart

end Supported

private theorem respectsLimits_of_not_supports
    (hsupports : supportsPrimaryKeyUpsert target = false) :
    RespectsLimits names columns target limits .skipDuplicates identifierQuote valueRows := by
  have hplain : ∀ part, skippingStatement names columns target identifierQuote part =
      (templateFor names columns target identifierQuote).build part := by
    intro part
    rw [skippingStatement, hsupports]
    rfl
  rw [respectsLimits_skipDuplicates_iff]
  · refine ⟨?_, ?_⟩
    · rintro ⟨row, hrow, hrefuses⟩
      refine ⟨row, hrow, ?_⟩
      rw [RowOverHard, batchStatement, hplain]
      exact (refuses_eq_true_iff limits matches_templateFor).mp hrefuses
    · intro parts _ hcut part hpart
      rw [hplain]
      exact build_within (hcut.mem part hpart).1 (hcut.mem part hpart).2
  · intro part hne hempty
    have htwo : 2 ≤ sqlTextBytes target
      ((templateFor names columns target identifierQuote).build part) := two_le_build hne
    rw [← hplain, hempty, sqlTextBytes_nil] at htwo
    omega
  · intro part hne
    rw [hplain]
    exact InsertSqlTemplate.build_eq_fill _ hne

private theorem respectsLimits_columns_nil_iff (hsupports : supportsPrimaryKeyUpsert target) :
    RespectsLimits names [] target limits .skipDuplicates identifierQuote valueRows ↔
      valueRows = [] := by
  have hempty : ∀ part, skippingStatement names [] target identifierQuote part = [] := by
    intro part
    rw [skippingStatement, if_pos hsupports, generateInsertIgnoreDuplicatesFromValueRows,
      if_pos (by simp)]
  constructor
  · intro hrespects
    cases hgenerated : generateBatches names [] target limits .skipDuplicates identifierQuote
        valueRows with
    | ok statements =>
      obtain ⟨parts, hflatten, -, hstatements⟩ :=
        Packer.packs_of_pack_eq (full_nil limits) hgenerated
      cases hstatements with
      | nil => exact hflatten.symm
      | cons hpart _ =>
        dsimp only at hpart
        rw [hempty] at hpart
        cases hpart
    | error e =>
      obtain ⟨row, -, hard, -, hover⟩ := hrespects.error e hgenerated
      rw [batchStatement, hempty, sqlTextBytes_nil] at hover
      cases hover
  · rintro rfl
    have hgenerated : generateBatches names [] target limits .skipDuplicates identifierQuote [] =
        .ok [] := rfl
    constructor
    case ok =>
      intro statements hok
      obtain rfl := Except.ok.inj (hgenerated.symm.trans hok)
      exact ⟨[], rfl, rfl, ⟨fun _ => ⟨[], [], [], false⟩, by simp⟩, rfl, by simp, by simp, by simp⟩
    case error =>
      intro e herror
      cases hgenerated.symm.trans herror
    case predicted =>
      intro part hne
      exact statementBytes_eq matches_templateFor hne

/-! ### All policies -/

/-- When the limits are kept. -/
def BatchesFit (names : TargetNames) (columns : List Text) (target : DatabaseType)
    (limits : SqlBatchLimits) (identifierQuote : Option Text) (valueRows : List ValueRow) :
    ConflictPolicy → Prop
  | .insert => True
  | .skipDuplicates => supportsPrimaryKeyUpsert target = false ∨
      if columns = [] then valueRows = []
      else SkipFits names columns target limits identifierQuote valueRows
  | .updateExisting pkColumns =>
      (supportsPrimaryKeyUpsert target ∧ Updates columns pkColumns) ∨
        ∃ row ∈ valueRows, RowOverHard names columns target limits (.updateExisting pkColumns)
          identifierQuote row

/-- The names of a PostgreSQL table, in double quotes. -/
def postgresNames : TargetNames where
  databaseName := "PostgreSQL"
  table _ := "\"t\""
  column _ _ column := "\"" ++ column ++ "\""

end DbxSpec.Transfer
