import DbxSpec.Transfer.InsertBatches

/-!
# Batches within their limits

A batch that fits by the predicted lengths is within the limits, so plain inserts always are. Their
statements have the tuples of the rows in order.
-/

namespace DbxSpec.Transfer

open DbxSpec.Base DbxSpec.Sql DbxSpec.Grid InsertSqlTemplate List

section Frames

variable (template : InsertSqlTemplate)

/-- What a template writes around so many tuples. -/
def InsertSqlTemplate.frame (count : Nat) : StatementFrame :=
  match template.inceptorSelectStart, template.oracleIntoStart with
  | some start, _ => ⟨start ++ "SELECT ", "\nUNION ALL\n".toList ++ "SELECT ", [], true⟩
  | none, some start =>
    if 1 < count then ⟨"INSERT ALL\n" ++ start, '\n' :: start, "\nSELECT 1 FROM dual", false⟩
    else ⟨template.standardStart, template.separator, [], false⟩
  | none, none => ⟨template.standardStart, template.separator, [], false⟩

private theorem joinTexts_map_append {α : Type} (separator lead : Text) (write : α → Text)
    {items : List α} (hne : items ≠ []) :
    joinTexts separator (items.map fun item => lead ++ write item) =
      lead ++ joinTexts (separator ++ lead) (items.map write) := by
  obtain ⟨item, items, rfl⟩ := exists_cons_of_ne_nil hne
  simp only [map_cons, joinTexts_cons, flatMap_map, append_assoc]

private theorem buildStandard_eq_fill (rows : List ValueRow) : template.buildStandard rows =
    (StatementFrame.mk template.standardStart template.separator [] false).fill rows :=
  (append_nil _).symm

/-- A statement is its frame around the tuples. -/
theorem InsertSqlTemplate.build_eq_fill {rows : List ValueRow} (hne : rows ≠ []) :
    template.build rows = (template.frame rows.length).fill rows := by
  have hempty : ¬rows.isEmpty := by simpa using hne
  rw [build, if_neg hempty, frame]
  rcases template.inceptorSelectStart with _ | start
  · rcases template.oracleIntoStart with _ | start
    · exact buildStandard_eq_fill template rows
    · dsimp only
      split
      · rw [joinTexts_map_append _ _ _ hne, StatementFrame.fill]
        simp
      · exact buildStandard_eq_fill template rows
  · dsimp only
    simp only [stripParentheses_text]
    rw [joinTexts_map_append _ _ _ hne, StatementFrame.fill]
    simp

end Frames

section Packing

variable {template : InsertSqlTemplate} {target : DatabaseType} (limits : SqlBatchLimits)

/-- An empty batch is not full. -/
theorem full_nil : (rowPacker template target limits).full [] = false := by
  have hpos := limits.effectiveMaxRows_pos target
  simp only [rowPacker, length_nil, decide_eq_false_iff_not]
  omega

/-- A row is refused if its own statement is too long. -/
theorem refuses_eq_true_iff {row : ValueRow} (hmatches : template.Matches target) :
    (rowPacker template target limits).refuses row ↔ ∃ hard, limits.hardSqlBytes = some hard ∧
        hard < sqlTextBytes target (template.build [row]) := by
  have hbytes := statementBytes_eq hmatches (cons_ne_nil row [])
  rw [rowsBytes_singleton, length_singleton] at hbytes
  simp only [rowPacker, hbytes, Option.any_eq_true, decide_eq_true_eq]

/-- A part of the rows keeps the limits with its statement. -/
structure Within (limits : SqlBatchLimits) (target : DatabaseType) (statement : Text)
    (part : List ValueRow) : Prop where
  ne_nil : part ≠ []
  rowLimit : part.length ≤ limits.effectiveMaxRows target
  hardLimit : ∀ hard, limits.hardSqlBytes = some hard → sqlTextBytes target statement ≤ hard
  targetLimit : 2 ≤ part.length → sqlTextBytes target statement ≤ limits.targetSqlBytes

variable {part : List ValueRow}

private theorem within_of_fits (hmatches : template.Matches target) (hne : part ≠ [])
    (htwo : 2 ≤ sqlTextBytes target (template.build part))
    (hfits : (rowPacker template target limits).Fits part) :
    Within limits target (template.build part) part := by
  obtain ⟨front, last, rfl⟩ := (eq_nil_or_concat' part).resolve_left hne
  obtain ⟨hfull, hrefuses, hjoins⟩ := hfits front last prefix_rfl
  have hrows : front.length < limits.effectiveMaxRows target := by
    simpa [rowPacker] using hfull
  have hsingle : ∀ hard, limits.hardSqlBytes = some hard →
      sqlTextBytes target (template.build [last]) ≤ hard := by
    intro hard hhard
    by_contra hover
    have hrefused := (refuses_eq_true_iff limits hmatches).mpr ⟨hard, hhard, Nat.lt_of_not_le hover⟩
    rw [hrefuses] at hrefused
    cases hrefused
  have hbytes := statementBytes_eq hmatches hne
  rw [rowsBytes_append, rowsBytes_singleton, length_append, length_singleton] at hbytes
  have hbatch : front = [] ∨
      sqlTextBytes target (template.build (front ++ [last])) ≤ limits.batchSqlBytes := by
    simpa only [rowPacker, decide_eq_true_eq, hbytes] using hjoins
  refine ⟨hne, ?_, ?_, ?_⟩
  · rw [length_append, length_singleton]
    omega
  · intro hard hhard
    rcases hbatch with rfl | hbatch
    · exact hsingle hard hhard
    · exact hbatch.trans (SqlBatchLimits.batchSqlBytes_le_hard hhard)
  · intro hmany
    have htarget := limits.batchSqlBytes_le_target
    rcases hbatch with rfl | hbatch
    · simp at hmany
    · omega

variable {valueRows : List ValueRow}

/-- Packed rows, where the statements of the batches keep the limits. -/
theorem batched_of_packs {p : Packer ValueRow Text} {statement : List ValueRow → Text}
    {emit : List ValueRow → Except Text (Text × Nat)} {statements : List (Text × Nat)}
    {frame : Nat → StatementFrame} (hpacks : p.Packs emit valueRows (.ok statements))
    (hemit : ∀ part result, emit part = .ok result → (statement part, part.length) = result)
    (htuples : ∀ part, part ≠ [] → statement part = (frame part.length).fill part)
    (hwithin : ∀ parts, parts.flatten = valueRows → p.Cut parts →
      ∀ part ∈ parts, Within limits target (statement part) part) :
    ∃ parts, Batched statement target limits valueRows statements parts := by
  obtain ⟨parts, hflatten, hparts, hstatements⟩ := hpacks
  obtain rfl : parts.map (fun part => (statement part, part.length)) = statements := by
    rw [← forall₂_eq_eq_eq, forall₂_map_left_iff]
    exact hstatements.imp hemit
  have hkeeps := hwithin parts hflatten hparts
  refine ⟨parts, hflatten, rfl, ⟨frame, fun part hpart => htuples part (hkeeps part hpart).ne_nil⟩,
    ?_, ?_, ?_, ?_⟩
  · rw [map_map, ← hflatten, length_flatten]
    rfl
  · intro part hpart
    exact ⟨length_pos_of_ne_nil (hkeeps part hpart).ne_nil, (hkeeps part hpart).rowLimit⟩
  · exact fun part hpart => (hkeeps part hpart).hardLimit
  · exact fun part hpart => (hkeeps part hpart).targetLimit

end Packing

section Statements

variable {names : TargetNames} {columns : List Text} {target : DatabaseType}
  {identifierQuote : Option Text}

/-- The template of a target, with its columns quoted. -/
abbrev templateFor (names : TargetNames) (columns : List Text) (target : DatabaseType)
    (identifierQuote : Option Text) : InsertSqlTemplate :=
  .newWithColumnQuoting names columns target false true identifierQuote

variable {limits : SqlBatchLimits}

/-- The template is that of the target. -/
theorem matches_templateFor : (templateFor names columns target identifierQuote).Matches target :=
  matches_newWithColumnQuoting names columns target false true identifierQuote

/-- What stands before the tuples. -/
theorem templateFor_standardStart :
    (templateFor names columns target identifierQuote).standardStart =
      "INSERT INTO ".toList ++ names.table identifierQuote ++ " (".toList ++
        names.columnList identifierQuote true columns ++ ")".toList ++ [] ++
        " VALUES\n".toList := rfl

private theorem eq_of_templateFor_inceptorSelectStart {start : Text}
    (hstart : (templateFor names columns target identifierQuote).inceptorSelectStart = some start) :
    "INSERT INTO " ++ names.table identifierQuote ++ " (" ++
      names.columnList identifierQuote true columns ++ ")\n" = start :=
  Option.some.inj (Option.ite_none_right_eq_some.mp hstart).2

private theorem two_le_length_start (rest : Text) : 2 ≤ ("INSERT INTO " ++ rest).length := by
  have hword : "INSERT INTO ".toList.length = 12 := rfl
  rw [length_append, hword]
  omega

/-- A statement has more than one byte. -/
theorem two_le_build (hne : part ≠ []) :
    2 ≤ sqlTextBytes target ((templateFor names columns target identifierQuote).build part) := by
  have hstandard : 2 ≤ (templateFor names columns target identifierQuote).standardStart.length := by
    exact two_le_length_start _
  have hselect : ∀ start, (templateFor names columns target identifierQuote).inceptorSelectStart =
      some start → 2 ≤ start.length := by
    intro start hstart
    rw [← eq_of_templateFor_inceptorSelectStart hstart]
    exact two_le_length_start _
  exact (two_le_length_build hne hstandard hselect).trans (length_le_sqlTextBytes target _)

/-- A batch that fits is within the limits. -/
theorem build_within (hne : part ≠ []) (hfits :
      (rowPacker (templateFor names columns target identifierQuote) target limits).Fits part) :
    Within limits target ((templateFor names columns target identifierQuote).build part) part :=
  within_of_fits limits matches_templateFor hne (two_le_build hne) hfits

/-- Plain inserts respect all limits. -/
theorem respectsLimits_insert (limits : SqlBatchLimits) (valueRows : List ValueRow) :
    RespectsLimits names columns target limits .insert identifierQuote valueRows where
  ok statements hok :=
    batched_of_packs limits (Packer.packs_of_pack_eq (full_nil limits) hok)
      (fun _ _ => Except.ok.inj) (fun _ => InsertSqlTemplate.build_eq_fill _)
      fun _ _ hcut part hpart => build_within (hcut.mem part hpart).1 (hcut.mem part hpart).2
  error e herror := by
    rcases Packer.packs_of_pack_eq (full_nil limits) herror with
      ⟨row, hrow, hrefuses⟩ | ⟨part, -, hemit⟩
    · exact ⟨row, hrow, (refuses_eq_true_iff limits matches_templateFor).mp hrefuses⟩
    · cases hemit
  predicted part hne := statementBytes_eq matches_templateFor hne

end Statements

end DbxSpec.Transfer
