import DbxSpec.TableImport.Plan

/-!
# Rows split into statements

What the builders of an import give under the policy that takes no duplicates: the statements are
those of consecutive rows, and a chunk is built exactly if each of its rows can be built alone.
-/

namespace DbxSpec.TableImport

open DbxSpec.Base DbxSpec.Sql DbxSpec.Transfer List

/-! ### Numbered rows -/

variable (startRowOffset : Nat)

/-- Rows are numbered from the first. -/
theorem numbered_cons (row : Row) (rows : List Row) : numbered startRowOffset (row :: rows) =
      (startRowOffset + 1, row) :: numbered (startRowOffset + 1) rows := by
  have hshift : (fun (index : Nat) (row : Row) => (startRowOffset + (index + 1) + 1, row)) =
      fun index row => (startRowOffset + 1 + index + 1, row) := by
    funext index row
    rw [Nat.add_right_comm startRowOffset 1 index, Nat.add_assoc startRowOffset index 1]
  rw [numbered, mapIdx_cons, hshift]
  rfl

/-- Every row has a number. -/
@[simp] theorem length_numbered (rows : List Row) :
    (numbered startRowOffset rows).length = rows.length := by
  simp [numbered]

@[simp] private theorem map_snd_numbered (rows : List Row) :
    (numbered startRowOffset rows).map Prod.snd = rows := by
  induction rows generalizing startRowOffset with
  | nil => rfl
  | cons row rows ih => rw [numbered_cons, map_cons, ih]

private theorem any_eq_any_numbered (rows : List Row) (test : Row → Bool) :
    rows.any test = (numbered startRowOffset rows).any fun item => test item.2 := by
  conv_lhs => rw [← map_snd_numbered startRowOffset rows, any_map]
  rfl

variable {rows : List Row}

/-- A first part of numbered rows is that of the rows. -/
theorem eq_numbered_of_append : ∀ {startRowOffset : Nat}
    {part rest : List (Nat × Row)}, part ++ rest = numbered startRowOffset rows →
    part = numbered startRowOffset (rows.take part.length) ∧
      rest = numbered (startRowOffset + part.length) (rows.drop part.length) := by
  induction rows with
  | nil =>
    intro startRowOffset part rest h
    obtain ⟨rfl, rfl⟩ := append_eq_nil_iff.mp h
    exact ⟨rfl, rfl⟩
  | cons row rows ih =>
    intro startRowOffset part rest h
    rcases part with _ | ⟨item, part⟩
    · exact ⟨rfl, h⟩
    rw [numbered_cons, cons_append, cons.injEq] at h
    obtain ⟨rfl, h⟩ := h
    obtain ⟨hpart, hrest⟩ := ih h
    rw [length_cons, take_succ_cons, drop_succ_cons, numbered_cons, ← hpart]
    refine ⟨rfl, ?_⟩
    rw [hrest, Nat.add_assoc, Nat.add_comm 1]

/-! ### The shapes of statements -/

/-- How the statements of an import are written. -/
inductive StatementShape
  | planned (plan : CompiledImportPlan)
  | cloudflareD1 (mapped : List (Option Nat × TableImportColumnMapping))

/-- The shape that an import without updates takes. -/
def statementShape (t : ImportTarget) (c : ImportColumns) : Except Text StatementShape :=
  match c.plan with
  | some plan => .ok (.planned plan)
  | none =>
    if t.dbType = .cloudflareD1 then
      (mappingIndexesWithMappings c.columns c.mappings).map .cloudflareD1
    else (compileImportPlan c.columns c.mappings c.targetColumnTypes).map .planned

/-- The statement of some rows. -/
def StatementShape.statement (t : ImportTarget) (c : ImportColumns) (sent : List Text)
    (items : List (Nat × Row)) : StatementShape → Text
  | planned plan => (templateFor t.names plan.targetColumns t.dbType t.identifierQuote).build
      (items.map (importValueRow t sent plan))
  | cloudflareD1 mapped => d1Statement (d1Render t c sent mapped items)

/-- A row is short enough for a statement of its own, and has no text that is taken for a token. -/
def StatementShape.Fits (t : ImportTarget) (c : ImportColumns) (sent : List Text)
    (item : Nat × Row) : StatementShape → Prop
  | planned plan => ∀ hard, t.hardSqlBytes = some hard →
      sqlTextBytes t.dbType ((templateFor t.names plan.targetColumns t.dbType
        t.identifierQuote).build [importValueRow t sent plan item]) ≤ hard
  | cloudflareD1 mapped => item.2.any holdsToken = false ∧
      utf8Len (d1Render t c sent mapped [item]) ≤ maxSqlStatementBytes

/-- Batches are the statements of consecutive rows. -/
structure SplitInto (statement : List (Nat × Row) → Text) (items : List (Nat × Row))
    (batches : List ImportSqlBatch) (parts : List (List (Nat × Row))) : Prop where
  order : parts.flatten = items
  filled : ∀ part ∈ parts, part ≠ []
  built : batches = parts.map fun part => ⟨statement part, part.length⟩

/-- What a builder may give: the statements of consecutive rows, if all rows fit, or an error. -/
def StatementShape.Gives (t : ImportTarget) (c : ImportColumns) (sent : List Text)
    (items : List (Nat × Row)) (shape : StatementShape) :
    Except Text (List ImportSqlBatch) → Prop
  | .ok batches => (∃ parts, SplitInto (shape.statement t c sent ·) items batches parts) ∧
      ∀ item ∈ items, shape.Fits t c sent item
  | .error _ => ∃ item ∈ items, ¬ shape.Fits t c sent item

/-! ### Statements after a plan -/

section Planned

variable {t : ImportTarget} {c : ImportColumns} {plan : CompiledImportPlan} {sent : List Text}
  {startRowOffset : Nat} {rows : List Row}

private theorem planned_gives :
    (StatementShape.planned plan).Gives t c sent (numbered startRowOffset rows)
    (buildImportInsertBatchesWithPlanAndIdentifierQuote t plan .insert sent startRowOffset
      rows) := by
  rw [buildImportInsertBatchesWithPlanAndIdentifierQuote]
  split
  · next hempty =>
    obtain rfl := isEmpty_iff.mp hempty
    exact ⟨⟨[], rfl, by simp, rfl⟩, by simp [numbered]⟩
  · dsimp only
    generalize hresult : generateBatches t.names plan.targetColumns t.dbType _ .insert _ _ = result
    cases result with
    | error e =>
      obtain ⟨row, hrow, hard, hhard, hover⟩ := (respectsLimits_insert _ _).error e hresult
      obtain ⟨item, hitem, rfl⟩ := mem_map.mp hrow
      refine ⟨item, hitem, ?_⟩
      intro hfits
      exact absurd (hfits hard hhard) (Nat.not_le.mpr hover)
    | ok statements =>
      obtain ⟨parts, hflatten, hcut, hstatements⟩ :=
        Packer.packs_of_pack_eq (full_nil _) hresult
      obtain rfl : parts.map (fun part => (_, part.length)) = statements := by
        rw [← forall₂_eq_eq_eq, forall₂_map_left_iff]
        exact hstatements.imp fun _ _ => Except.ok.inj
      obtain ⟨origins, horigins, rfl⟩ := exists_parts_of_flatten_eq_map hflatten
      constructor
      · refine ⟨origins, horigins, ?_, ?_⟩
        · rintro part hpart rfl
          exact (hcut.mem _ (mem_map_of_mem hpart)).1 rfl
        · simp [StatementShape.statement]
      · intro item hitem hard hhard
        have hmem : importValueRow t sent plan item ∈
            importValueRowsSql t sent plan startRowOffset rows := mem_map_of_mem hitem
        rw [← hflatten] at hmem
        have hrefuses := hcut.not_refuses hmem
        rw [Bool.eq_false_iff] at hrefuses
        by_contra hover
        apply hrefuses
        exact (refuses_eq_true_iff _ matches_templateFor).mpr
          ⟨hard, hhard, Nat.lt_of_not_le hover⟩

end Planned

/-! ### Statements of Cloudflare D1 -/

section D1

variable {α : Type} {render : List α → Text} {maxItems : Nat}

private theorem extendSqlBatch_spec (items : List α) : ∀ {batch : List α},
    utf8Len (render batch) ≤ maxSqlStatementBytes →
    (extendSqlBatch render maxItems batch items).1 ++
        (extendSqlBatch render maxItems batch items).2 = batch ++ items ∧
      batch <+: (extendSqlBatch render maxItems batch items).1 ∧
      utf8Len (render (extendSqlBatch render maxItems batch items).1) ≤ maxSqlStatementBytes := by
  induction items with
  | nil =>
    intro batch hbatch
    exact ⟨rfl, prefix_rfl, hbatch⟩
  | cons item items ih =>
    intro batch hbatch
    rw [extendSqlBatch]
    split
    · exact ⟨rfl, prefix_rfl, hbatch⟩
    · split
      · exact ⟨rfl, prefix_rfl, hbatch⟩
      · next hfits =>
        obtain ⟨hitems, hprefix, hbytes⟩ := ih (Nat.le_of_not_lt hfits)
        refine ⟨?_, (prefix_append _ _).trans hprefix, hbytes⟩
        rw [hitems, append_assoc, singleton_append]

/-- What the batches of a loop may be: consecutive items, or an item that is too long alone. -/
def SqlBatches (render : List α → Text) (items : List α) :
    Except Text (List (Text × Nat)) → Prop
  | .ok batches => ∃ parts : List (List α), parts.flatten = items ∧
      (∀ part ∈ parts, part ≠ [] ∧ utf8Len (render part) ≤ maxSqlStatementBytes) ∧
      batches = parts.map fun part => (render part, part.length)
  | .error _ => ∃ item ∈ items, maxSqlStatementBytes < utf8Len (render [item])

private theorem sqlBatches_nil : SqlBatches render [] (.ok []) := ⟨[], rfl, by simp, rfl⟩

private theorem buildSqlBatchesLoop_sqlBatches {itemLabel : Text}
    (hwritten : ∀ part, part ≠ [] → trim (render part) ≠ []) (fuel : Nat) :
    ∀ {start : Nat} {items : List α}, items.length ≤ fuel →
    SqlBatches render items (buildSqlBatchesLoop itemLabel render maxItems fuel start items) := by
  induction fuel with
  | zero =>
    intro start items hlength
    obtain rfl : items = [] := length_eq_zero_iff.mp (Nat.le_zero.mp hlength)
    exact sqlBatches_nil
  | succ fuel ih =>
    intro start items hlength
    rcases items with _ | ⟨item, items⟩
    · exact sqlBatches_nil
    rw [buildSqlBatchesLoop]
    split
    · next hfirst => exact ⟨item, mem_cons_self, hfirst⟩
    · next hfirst =>
      have hspec := @extendSqlBatch_spec _ render maxItems items [item] (Nat.le_of_not_lt hfirst)
      generalize extendSqlBatch render maxItems [item] items = extended at hspec ⊢
      obtain ⟨batch, rest⟩ := extended
      obtain ⟨hitems, hprefix, hbytes⟩ := hspec
      have hne : batch ≠ [] := by
        rintro rfl
        exact absurd (prefix_nil.mp hprefix) (cons_ne_nil item [])
      have hrest : rest.length ≤ fuel := by
        have hsum := congrArg length hitems
        have hpos := length_pos_of_ne_nil hne
        simp only [length_append, length_cons, length_nil] at hsum hlength
        omega
      have hlater := @ih (start + batch.length) rest hrest
      dsimp only at hitems ⊢
      generalize buildSqlBatchesLoop itemLabel render maxItems fuel _ rest = result at hlater ⊢
      cases result with
      | error e =>
        obtain ⟨later, hmem, hover⟩ := hlater
        refine ⟨later, ?_, hover⟩
        have hall : later ∈ batch ++ rest := mem_append_right _ hmem
        rwa [hitems] at hall
      | ok later =>
        obtain ⟨parts, hflatten, hparts, rfl⟩ := hlater
        refine ⟨batch :: parts, ?_, forall_mem_cons.mpr ⟨⟨hne, hbytes⟩, hparts⟩, ?_⟩
        · rw [flatten_cons, hflatten]
          exact hitems
        · exact if_neg (by simpa using hwritten batch hne)

end D1

section Rendered

variable {t : ImportTarget} {c : ImportColumns} {sent : List Text}
  {mapped : List (Option Nat × TableImportColumnMapping)} {items : List (Nat × Row)}

private theorem d1_supported : supportsPrimaryKeyUpsert .cloudflareD1 := rfl

private theorem valueRows_ne_nil {columnTypes : List (Option Text)} {write : Nat × Row → List Json}
    (hne : items ≠ []) : valueRowsSql t.forms .cloudflareD1 columnTypes (items.map write) ≠ [] := by
  simpa [valueRowsSql] using hne

private theorem trim_d1Render_ne_nil (hne : items ≠ []) :
    trim (d1Render t c sent mapped items) ≠ [] := by
  have hletter : 'I' ∈ d1Render t c sent mapped items := by
    rw [d1Render, build_eq_buildStandard d1_supported (valueRows_ne_nil hne),
      InsertSqlTemplate.buildStandard, templateFor_standardStart]
    repeat rw [append_assoc]
    exact mem_append_left _ (by decide)
  intro hblank
  obtain ⟨lead, trail, hdecompose, hlead, htrail⟩ := trim_decompose (d1Render t c sent mapped items)
  rw [hdecompose, hblank, append_nil, mem_append] at hletter
  rcases hletter with hmem | hmem
  · exact absurd (hlead 'I' hmem) (by decide)
  · exact absurd (htrail 'I' hmem) (by decide)

private theorem d1Render_singleton_le {item : Nat × Row} (hitem : item ∈ items) :
    utf8Len (d1Render t c sent mapped [item]) ≤ utf8Len (d1Render t c sent mapped items) := by
  have hutf8 : ∀ text, utf8Len text = sqlTextBytes .cloudflareD1 text := fun _ => rfl
  rw [hutf8, hutf8, d1Render, d1Render,
    plain_bytes d1_supported (valueRows_ne_nil (cons_ne_nil item [])),
    plain_bytes d1_supported (valueRows_ne_nil (ne_nil_of_mem hitem))]
  have hrows : sqlTextBytes .cloudflareD1 (ValueRow.ofValues t.forms .cloudflareD1
      ((mapped.map fun entry => entry.2.targetColumn).map (targetColumnType c.targetColumnTypes))
      (mapped.mapIdx (d1Value t sent item))).text ≤ rowsBytes .cloudflareD1
        (valueRowsSql t.forms .cloudflareD1
          ((mapped.map fun entry => entry.2.targetColumn).map
            (targetColumnType c.targetColumnTypes))
          (items.map fun item => mapped.mapIdx (d1Value t sent item))) := by
    apply sqlTextBytes_le_rowsBytes
    apply mem_map_of_mem
    exact mem_map_of_mem hitem
  rw [map_singleton, valueRowsSql, map_singleton, tuplesBytes, tuplesBytes, rowsBytes_singleton,
    length_singleton]
  omega

private theorem d1_gives {startRowOffset maxRows : Nat} {rows : List Row}
    (hmapped : mappingIndexesWithMappings c.columns c.mappings = .ok mapped) :
    (StatementShape.cloudflareD1 mapped).Gives t c sent (numbered startRowOffset rows)
      (d1BuildImportInsertBatches t c maxRows sent startRowOffset rows) := by
  rw [d1BuildImportInsertBatches, hmapped]
  dsimp only [Except.bind]
  rw [any_eq_any_numbered startRowOffset]
  split
  · next htokens =>
    obtain ⟨item, hitem, htoken⟩ := any_eq_true.mp htokens
    refine ⟨item, hitem, ?_⟩
    rintro ⟨hnone, -⟩
    rw [hnone] at htoken
    cases htoken
  · next htokens =>
    have hbatches := @buildSqlBatchesLoop_sqlBatches _ (d1Render t c sent mapped) (max maxRows 1)
      "import row" (fun _ hne => trim_d1Render_ne_nil hne) _ 0 (numbered startRowOffset rows) le_rfl
    rw [← buildSqlBatches] at hbatches
    generalize buildSqlBatches _ _ _ _ = result at hbatches ⊢
    cases result with
    | error e =>
      obtain ⟨item, hitem, hover⟩ := hbatches
      exact ⟨item, hitem, fun hfits => absurd hfits.2 (Nat.not_le.mpr hover)⟩
    | ok statements =>
      obtain ⟨parts, hflatten, hparts, rfl⟩ := hbatches
      constructor
      · exact ⟨parts, hflatten, fun part hpart => (hparts part hpart).1, map_map⟩
      · intro item hitem
        constructor
        · rw [Bool.not_eq_true, any_eq_false] at htokens
          exact Bool.not_eq_true _ ▸ htokens item hitem
        · rw [← hflatten] at hitem
          obtain ⟨part, hpart, hmem⟩ := mem_flatten.mp hitem
          exact (d1Render_singleton_le hmem).trans (hparts part hpart).2

end Rendered

/-! ### All shapes -/

/-- What is built, by the shape of the statements. -/
theorem buildImportExecutionBatches_gives {t : ImportTarget} {c : ImportColumns}
    {shape : StatementShape} {result : Except Text (List ImportSqlBatch)}
    (hshape : statementShape t c = .ok shape) {sent : List Text} {startRowOffset : Nat}
    {rows : List Row}
    (hbuild : buildImportExecutionBatches t c .insert sent startRowOffset rows = result) :
    shape.Gives t c sent (numbered startRowOffset rows) result := by
  rw [← hbuild, buildImportExecutionBatches]
  rw [statementShape] at hshape
  cases hplan : c.plan with
  | some plan =>
    rw [hplan] at hshape
    cases hshape
    exact planned_gives
  | none =>
    rw [hplan] at hshape
    by_cases hd1 : t.dbType = .cloudflareD1
    · simp only [if_pos hd1] at hshape
      obtain ⟨mapped, hmapped, rfl⟩ := map_eq_ok_iff.mp hshape
      dsimp only
      rw [if_pos (by simp [hd1])]
      exact d1_gives hmapped
    · simp only [if_neg hd1] at hshape
      obtain ⟨plan, hcompiled, rfl⟩ := map_eq_ok_iff.mp hshape
      dsimp only
      rw [if_neg (by simp [hd1]), hcompiled]
      exact planned_gives

end DbxSpec.TableImport
