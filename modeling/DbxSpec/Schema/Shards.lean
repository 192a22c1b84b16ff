import DbxSpec.Base.Sharding
import DbxSpec.Schema.Diff

/-!
# Shards against the whole comparison

When a comparison in shards (`schema_diff.rs:1671-1784`) reports what the whole comparison
reports. Pairing the names of a part is the restriction of pairing all names as soon as no name is
linked to a name outside the part; the other things that a comparison reads of the whole schema
are the tables that a foreign key may mean and whether renamed columns are looked for.
-/

namespace DbxSpec.Schema

open DbxSpec.Base DbxSpec.Sql SchemaDiffPreparationOptions List ResolvedTargets Bool

/-! ### Pairing a part of the names -/

section Pairing

variable {sourceNames targetNames : List Text} {mappings : List SchemaDiffTableMapping}
  {ignoreTableNameCase : Bool} {keepSource keepTarget : Text → Bool}

/-- A source and a target name that the resolution may pair. -/
def Linked (mappings : List SchemaDiffTableMapping) (ignoreTableNameCase : Bool)
    (sourceName targetName : Text) : Prop :=
  explicitTarget mappings sourceName = some targetName ∨ sourceName = targetName ∨
    ignoreTableNameCase ∧ identifiersEqual sourceName targetName true

/-- A part of the names with all the names that these are linked to. -/
def ClosedPart (sourceNames targetNames : List Text) (mappings : List SchemaDiffTableMapping)
    (ignoreTableNameCase : Bool) (keepSource keepTarget : Text → Bool) : Prop :=
  ∀ sourceName ∈ sourceNames, ∀ targetName ∈ targetNames,
    Linked mappings ignoreTableNameCase sourceName targetName →
      keepSource sourceName = keepTarget targetName

private theorem contains_filter_of_kept {targetName : Text} (h : keepTarget targetName) :
    (targetNames.filter keepTarget).contains targetName = targetNames.contains targetName := by
  simp [h]

/-- What the pairs found for all names and for a part have to do with each other. -/
def RestrictsTo (keepSource keepTarget : Text → Bool) (whole part : ResolvedTargets) : Prop :=
  part = whole.filter (fun entry => keepSource entry.1) ∧
    ∀ entry ∈ whole, keepSource entry.1 = keepTarget entry.2

namespace RestrictsTo

variable {whole part : ResolvedTargets} {sourceName targetName : Text}
  (h : RestrictsTo keepSource keepTarget whole part)

include h

private theorem uses_eq (ht : keepTarget targetName) :
    part.uses targetName = whole.uses targetName := by
  rw [Bool.eq_iff_iff]
  simp only [uses, contains_iff_mem, mem_map, h.1, mem_filter]
  constructor
  · intro ⟨entry, hentry, heq⟩
    exact ⟨entry, hentry.1, heq⟩
  · intro ⟨entry, hentry, heq⟩
    refine ⟨entry, ⟨hentry, ?_⟩, heq⟩
    rw [h.2 entry hentry, heq, ht]

private theorem target_eq (hs : keepSource sourceName) :
    part.target sourceName = whole.target sourceName := by
  rw [target, target, h.1, find?_filter]
  congr 2
  funext entry
  by_cases heq : entry.1 = sourceName
  · simp [heq, hs]
  · simp [heq]

private theorem append (hsame : keepSource sourceName = keepTarget targetName) :
    RestrictsTo keepSource keepTarget (whole ++ [(sourceName, targetName)])
      (if keepSource sourceName then part ++ [(sourceName, targetName)] else part) := by
  constructor
  · cases hs : keepSource sourceName <;> simp [h.1, hs]
  · intro entry hentry
    rcases mem_append.mp hentry with hold | hnew
    · exact h.2 entry hold
    · rw [mem_singleton.mp hnew, hsame]

private theorem unlessResolved {next next' : ResolvedTargets}
    (hnext : RestrictsTo keepSource keepTarget next
      (if keepSource sourceName then next' else part)) :
    RestrictsTo keepSource keepTarget (if (whole.target sourceName).isSome then whole else next)
      (if keepSource sourceName then if (part.target sourceName).isSome then part else next'
        else part) := by
  by_cases hs : keepSource sourceName
  · rw [if_pos hs] at hnext ⊢
    rw [h.target_eq hs]
    split
    · exact h
    · exact hnext
  · rw [if_neg hs] at hnext ⊢
    split
    · exact h
    · exact hnext

private theorem appendFree (hsame : targetName ∈ targetNames →
    keepSource sourceName = keepTarget targetName) :
    RestrictsTo keepSource keepTarget
      (if targetNames.contains targetName && !whole.uses targetName then
        whole ++ [(sourceName, targetName)] else whole)
      (if keepSource sourceName then
        if (targetNames.filter keepTarget).contains targetName && !part.uses targetName then
          part ++ [(sourceName, targetName)] else part else part) := by
  by_cases hin : targetName ∈ targetNames
  · have happend := h.append (hsame hin)
    by_cases hs : keepSource sourceName
    · have ht : keepTarget targetName := hsame hin ▸ hs
      rw [if_pos hs] at happend ⊢
      rw [contains_filter_of_kept ht, h.uses_eq ht]
      split
      · exact happend
      · exact h
    · rw [if_neg hs] at happend ⊢
      split
      · exact happend
      · exact h
  · simpa [hin] using h

end RestrictsTo

variable (hclosed : ClosedPart sourceNames targetNames mappings ignoreTableNameCase keepSource
  keepTarget)

include hclosed

section

variable (hcase : ignoreTableNameCase) (whole part : ResolvedTargets) (sourceName : Text)
  (hmem : sourceName ∈ sourceNames) (h : RestrictsTo keepSource keepTarget whole part)

include hmem h

private theorem explicit_restrict :
    RestrictsTo keepSource keepTarget (resolveExplicit targetNames mappings whole sourceName)
      (if keepSource sourceName then
        resolveExplicit (targetNames.filter keepTarget) mappings part sourceName else part) := by
  unfold resolveExplicit
  rcases hexplicit : explicitTarget mappings sourceName with _ | targetName
  · simpa using h
  exact h.appendFree fun hin => hclosed sourceName hmem targetName hin (.inl hexplicit)

private theorem exact_restrict :
    RestrictsTo keepSource keepTarget (resolveExact targetNames whole sourceName)
      (if keepSource sourceName then resolveExact (targetNames.filter keepTarget) part sourceName
        else part) :=
  h.unlessResolved
    (h.appendFree fun hin => hclosed sourceName hmem sourceName hin (.inr (.inl rfl)))

include hcase in
private theorem ignoringCase_restrict :
    RestrictsTo keepSource keepTarget (resolveIgnoringCase targetNames whole sourceName)
      (if keepSource sourceName then
        resolveIgnoringCase (targetNames.filter keepTarget) part sourceName else part) := by
  have hsame : ∀ targetName ∈ targetNames, identifiersEqual sourceName targetName true →
      keepSource sourceName = keepTarget targetName := fun targetName hin heq =>
    hclosed sourceName hmem targetName hin (.inr (.inr ⟨hcase, heq⟩))
  -- every candidate is in the part, and free there if it is free
  have hcandidates (hs : keepSource sourceName) :
      ((targetNames.filter keepTarget).filter fun targetName =>
        !part.uses targetName && identifiersEqual sourceName targetName true) =
      targetNames.filter fun targetName =>
        !whole.uses targetName && identifiersEqual sourceName targetName true := by
    rw [filter_filter]
    apply filter_congr
    intro targetName hin
    rcases heq : identifiersEqual sourceName targetName true with _ | _
    · simp
    have ht : keepTarget targetName := hsame targetName hin heq ▸ hs
    simp [ht, h.uses_eq ht]
  apply h.unlessResolved
  split
  · next targetName heq =>
    have hone := mem_singleton_self targetName
    rw [← heq, mem_filter, and_eq_true] at hone
    have happend := h.append (hsame targetName hone.1 hone.2.2)
    by_cases hs : keepSource sourceName
    · rw [hcandidates hs, heq]
      exact happend
    · rwa [if_neg hs] at happend ⊢
  · next hnone =>
    by_cases hs : keepSource sourceName
    · rw [if_pos hs, hcandidates hs]
      split
      · next targetName heq => exact absurd heq (hnone targetName)
      · exact h
    · rwa [if_neg hs]

end

private theorem resolvedTargets_restrict : RestrictsTo keepSource keepTarget
      (resolvedTargets sourceNames targetNames mappings ignoreTableNameCase)
      (resolvedTargets (sourceNames.filter keepSource) (targetNames.filter keepTarget) mappings
        ignoreTableNameCase) := by
  have hexplicit := foldl_restrict keepSource (RestrictsTo keepSource keepTarget) sourceNames
    (explicit_restrict hclosed) [] [] ⟨rfl, by simp⟩
  have hexact := foldl_restrict keepSource (RestrictsTo keepSource keepTarget) sourceNames
    (exact_restrict hclosed) _ _ hexplicit
  rcases hcase : ignoreTableNameCase with _ | _
  · exact hexact
  exact foldl_restrict keepSource (RestrictsTo keepSource keepTarget) sourceNames
    (ignoringCase_restrict hclosed hcase) _ _ hexact

end Pairing

section Resolution

variable {sourceNames targetNames : List Text} {mappings : List SchemaDiffTableMapping}
  {ignoreTableNameCase : Bool} {keepSource keepTarget : Text → Bool}

private theorem filterMap_filter_congr {α β : Type} (keep : α → Bool) (f g : α → Option β)
    (keep' : β → Bool) (l : List α) (hkept : ∀ a ∈ l, keep a → f a = g a)
    (hkeep : ∀ a ∈ l, ∀ b, g a = some b → keep' b = keep a) :
    (l.filter keep).filterMap f = (l.filterMap g).filter keep' := by
  rw [filterMap_filter, filter_filterMap]
  apply filterMap_congr
  intro a ha
  have hb := hkeep a ha
  split <;> cases hg : g a <;> simp_all [Option.filter_some]

variable (hclosed : ClosedPart sourceNames targetNames mappings ignoreTableNameCase keepSource
  keepTarget)

include hclosed

private theorem resolveSchemaDiffTableNames_restrict :
    resolveSchemaDiffTableNames (sourceNames.filter keepSource) (targetNames.filter keepTarget)
      mappings ignoreTableNameCase =
    let whole := resolveSchemaDiffTableNames sourceNames targetNames mappings ignoreTableNameCase
    ⟨whole.pairs.filter fun pair => keepSource pair.1, whole.sourceOnly.filter keepSource,
      whole.targetOnly.filter keepTarget⟩ := by
  have hrestrict := resolvedTargets_restrict hclosed
  simp only [resolveSchemaDiffTableNames, filter_filter]
  congr 1
  · apply filterMap_filter_congr
    · intro name _ hs
      rw [hrestrict.target_eq hs]
    · intro name _ pair hpair
      obtain ⟨targetName, _, rfl⟩ := Option.map_eq_some_iff.mp hpair
      rfl
  · apply filter_congr
    intro name _
    cases hs : keepSource name with
    | false => simp
    | true => simp [hrestrict.target_eq hs]
  · apply filter_congr
    intro name _
    cases ht : keepTarget name with
    | false => simp
    | true => simp [hrestrict.uses_eq ht]

variable {pair : Text × Text}

private theorem keep_of_mem_pairs
    (hpair : pair ∈ (resolveSchemaDiffTableNames sourceNames targetNames mappings
      ignoreTableNameCase).pairs) : keepSource pair.1 = keepTarget pair.2 := by
  have hrestrict := resolvedTargets_restrict hclosed
  simp only [resolveSchemaDiffTableNames, mem_filterMap, Option.map_eq_some_iff] at hpair
  obtain ⟨name, _, targetName, htarget, rfl⟩ := hpair
  rw [target, Option.map_eq_some_iff] at htarget
  obtain ⟨entry, hfind, rfl⟩ := htarget
  have hname := find?_some hfind
  rw [beq_iff_eq] at hname
  rw [← hname]
  exact hrestrict.2 entry (mem_of_find?_eq_some hfind)

end Resolution

/-! ### When shards are safe -/

variable (options : SchemaDiffPreparationOptions)

/-- A source and a target object that the whole comparison may pair, or that a shard may bring
together. -/
def Related (source target : TableInfo) : Prop :=
  source.name = target.name ∨ ⟨source.name, target.name⟩ ∈ options.tableMappings ∨
    options.ignoreTableNameCase ∧ source.isView = target.isView ∧
      eqIgnoreAsciiCase source.name target.name
  deriving Decidable

/-- Every table that a source foreign key may mean is in the shard. -/
def SourceKeyInside (shard : List Text) (fk : ForeignKeyInfo) : Prop :=
  (∀ name ∈ namesOfKind options.sourceTables false,
    identifiersEqual name fk.refTable options.ignoreTableNameCase → name ∈ shard) ∧
  ∀ mapping ∈ options.tableMappings, mapping.sourceTable = fk.refTable → fk.refTable ∈ shard
  deriving Decidable

/-- A source foreign key that names no schema and means a table under its target name. -/
def SourceKeySettled (fk : ForeignKeyInfo) : Prop :=
  fk.refSchema = none ∧
  (∀ mapping ∈ options.tableMappings, mapping.sourceTable = fk.refTable →
    mapping.targetTable ∈ namesOfKind options.targetTables false →
      mapping.targetTable = fk.refTable) ∧
  ∀ pair ∈ (options.resolution false).pairs,
    identifiersEqual pair.1 fk.refTable options.ignoreTableNameCase → pair.2 = fk.refTable
  deriving Decidable

/-- A target foreign key that names no schema, or whose possible tables are all in the shard. -/
def TargetKeyInside (shard : List Text) (fk : ForeignKeyInfo) : Prop :=
  fk.refSchema = none ∨ ∀ name ∈ namesOfKind options.targetTables false,
    identifiersEqual name fk.refTable options.ignoreTableNameCase →
      inShard options shard name
  deriving Decidable

/-- Of two columns, of which one is reported as removed and the other one as added, the second could
be the first under a new name. -/
def RenameCandidate (source target : List ColumnInfo) : Prop :=
  let diffs := diffMatchedColumns options.columnCompareOptions source target
  ∃ removed ∈ diffs, removed.diffType = .removed ∧ ∃ added ∈ diffs, added.diffType = .added ∧
    (removed.target.bind fun old =>
      added.source.bind (renameScore options.renameThreshold old)).any (0 < ·)
  deriving Decidable

/-- Names are distinct, every target object goes with a shard, objects that may be paired share
their shards, foreign keys are read alike in a shard, and renamed columns are not looked for where
there could be one. -/
structure ShardSafe (shards : List (List Text)) : Prop where
  sourceNames : (options.sourceTables.map (·.name)).Nodup
  targetNames : (options.targetTables.map (·.name)).Nodup
  covered : ∀ target ∈ options.targetTables, ∃ shard ∈ shards,
    inShard options shard target.name
  together : ∀ shard ∈ shards, ∀ source ∈ options.sourceTables, ∀ target ∈ options.targetTables,
    Related options source target → shard.contains source.name = inShard options shard target.name
  sourceKeys : ∀ shard ∈ shards, ∀ detail ∈ options.sourceDetails, detail.name ∈ shard →
    ∀ fk ∈ detail.foreignKeys, SourceKeyInside options shard fk ∨ SourceKeySettled options fk
  targetKeys : ∀ shard ∈ shards, ∀ detail ∈ options.targetDetails,
    inShard options shard detail.name →
      ∀ fk ∈ detail.foreignKeys, TargetKeyInside options shard fk
  noRenames : options.detectRenames → 0 < options.renameThreshold →
    ∀ pair ∈ (options.resolution false).pairs, ∀ source ∈ options.sourceDetail pair.1,
      ∀ target ∈ options.targetDetail pair.2,
        ¬RenameCandidate options source.columns target.columns

variable {options}

/-! ### Renamed columns -/

section Renames

variable {source target : List ColumnInfo}

private theorem foldl_eq_of_fixed {α β : Type} {f : β → α → β} {b : β} {l : List α}
    (h : ∀ a ∈ l, f b a = b) : l.foldl f b = b := by
  induction l with
  | nil => rfl
  | cons a l ih =>
    rw [foldl_cons, h a mem_cons_self]
    exact ih fun other hother => h other (mem_cons_of_mem a hother)

private theorem applyRenames_of_no_candidate (h : ¬RenameCandidate options source target) :
    applyRenames options.renameThreshold
        (diffMatchedColumns options.columnCompareOptions source target) =
      diffMatchedColumns options.columnCompareOptions source target := by
  unfold RenameCandidate at h
  generalize diffMatchedColumns options.columnCompareOptions source target = diffs at h ⊢
  have hbest : ∀ removed ∈ diffs, removed.diffType = .removed → ∀ old ∈ removed.target, ∀ taken,
      bestRename options.renameThreshold diffs taken old = none := by
    intro removed hmem hremoved old hold taken
    rw [bestRename, foldl_eq_of_fixed]
    intro entry hentry
    rw [mem_filter, Bool.and_eq_true, decide_eq_true_eq] at hentry
    cases hscore : entry.1.source.bind (renameScore options.renameThreshold old) with
    | none => rfl
    | some score =>
      apply if_neg
      intro hpos
      refine h ⟨removed, hmem, hremoved, entry.1, fst_mem_of_mem_zipIdx hentry.1, hentry.2.1, ?_⟩
      rw [hold, Option.bind_some, hscore]
      simpa using hpos
  have hpairs : renamePairs options.renameThreshold diffs = [] := by
    rw [renamePairs, foldl_eq_of_fixed]
    intro entry hentry
    rw [mem_filter, decide_eq_true_eq] at hentry
    cases htarget : entry.1.target with
    | none => rfl
    | some old =>
      rw [Option.bind_some, hbest _ (fst_mem_of_mem_zipIdx hentry.1) hentry.2 old htarget]
  rw [applyRenames, hpairs]
  simp

end Renames

/-! ### One shard -/

section Shard

variable {shards : List (List Text)} {shard : List Text}

private theorem namesOfKind_filter (tables : List TableInfo) (keep : Text → Bool) (isView : Bool) :
    namesOfKind (tables.filter fun table => keep table.name) isView =
      (namesOfKind tables isView).filter keep := by
  simp only [namesOfKind, filter_map, filter_filter, Function.comp_def]
  congr 1
  apply filter_congr
  intro table _
  exact and_comm _ _

private theorem lastNamed_filter {α : Type} (name : α → Text) (items : List α) (keep : Text → Bool)
    {key : Text} (hkey : keep key) :
    lastNamed name (items.filter fun item => keep (name item)) key = lastNamed name items key := by
  simp only [lastNamed, filter_filter]
  congr 1
  apply filter_congr
  intro item _
  by_cases hname : name item = key
  · simp [hname, hkey]
  · simp [hname]

private theorem mem_of_lastNamed {α : Type} {name : α → Text} {items : List α} {key : Text}
    {item : α} (h : lastNamed name items key = some item) : item ∈ items ∧ name item = key := by
  have hmem := mem_of_getLast? h
  simpa using hmem

private theorem mem_mappings_of_explicitTarget {sourceName targetName : Text}
    {mappings : List SchemaDiffTableMapping}
    (h : explicitTarget mappings sourceName = some targetName) :
    ⟨sourceName, targetName⟩ ∈ mappings := by
  obtain ⟨mapping, hfind, rfl⟩ := Option.map_eq_some_iff.mp h
  have hsource := find?_some hfind
  simp only [and_eq_true, beq_iff_eq] at hsource
  rw [← hsource.2]
  exact mem_of_find?_eq_some hfind

variable {name : Text} {fk : ForeignKeyInfo}

private theorem sourceDetail_shard (hname : shard.contains name) :
    (shardOptions options shard).sourceDetail name = options.sourceDetail name :=
  lastNamed_filter TableSchemaDetail.name options.sourceDetails shard.contains hname

private theorem targetDetail_shard (hname : inShard options shard name) :
    (shardOptions options shard).targetDetail name = options.targetDetail name :=
  lastNamed_filter TableSchemaDetail.name options.targetDetails (inShard options shard) hname

private theorem sourceTableComment_shard (hname : shard.contains name) :
    (shardOptions options shard).sourceTableComment name = options.sourceTableComment name :=
  congrArg (Option.map TableInfo.comment)
    (lastNamed_filter TableInfo.name options.sourceTables shard.contains hname)

private theorem targetTableComment_shard (hname : inShard options shard name) :
    (shardOptions options shard).targetTableComment name = options.targetTableComment name :=
  congrArg (Option.map TableInfo.comment)
    (lastNamed_filter TableInfo.name options.targetTables (inShard options shard) hname)

private theorem any_filter_of_imp {α : Type} (l : List α) (keep accept : α → Bool)
    (h : ∀ a ∈ l, accept a → keep a) : (l.filter keep).any accept = l.any accept := by
  rw [Bool.eq_iff_iff]
  simp only [any_eq_true, mem_filter]
  exact exists_congr fun a => ⟨fun ⟨ha, haccept⟩ => ⟨ha.1, haccept⟩,
    fun ⟨ha, haccept⟩ => ⟨⟨ha, h a ha haccept⟩, haccept⟩⟩

private theorem targetNames_shard : namesOfKind (shardOptions options shard).targetTables false =
    (namesOfKind options.targetTables false).filter (inShard options shard) :=
  namesOfKind_filter _ _ _

private theorem normalizeSelf_filter {names : List Text} {keep : Text → Bool} {fk : ForeignKeyInfo}
    (h : ∀ name ∈ names, identifiersEqual name fk.refTable options.ignoreTableNameCase →
      keep name) :
    (shardOptions options shard).normalizeSelfReferencingFk (names.filter keep) fk =
      options.normalizeSelfReferencingFk names fk := by
  exact congrArg (fun found => if fk.refSchema.isSome && found then
    { fk with refSchema := none } else fk) (any_filter_of_imp names keep _ h)

private theorem fst_mem_of_mem_pairs {isView : Bool}
    (h : pair ∈ (options.resolution isView).pairs) : pair.1 ∈ namesOfKind options.sourceTables
      isView := by
  simp only [resolution, resolveSchemaDiffTableNames, mem_filterMap, Option.map_eq_some_iff] at h
  obtain ⟨name, hname, targetName, _, rfl⟩ := h
  exact hname

private theorem normalizeMappedForeignKey_settled (hschema : fk.refSchema = none)
    (htarget : ∀ targetName, options.mappedTarget fk.refTable = some targetName → targetName =
      fk.refTable) : options.normalizeMappedForeignKey fk = fk := by
  have hself : options.normalizeSelfReferencingFk (namesOfKind options.sourceTables false) fk =
      fk := by
    simp [normalizeSelfReferencingFk, hschema]
  simp only [normalizeMappedForeignKey, hself]
  split
  · next targetName hmapped =>
    rw [htarget targetName hmapped, ← hschema]
  · rfl

private theorem eq_of_mappedTarget {refTable : Text}
    (hmappings : ∀ mapping ∈ options.tableMappings, mapping.sourceTable = refTable →
      mapping.targetTable ∈ namesOfKind options.targetTables false → mapping.targetTable = refTable)
    (hpairs : ∀ pair ∈ (options.resolution false).pairs,
      identifiersEqual pair.1 refTable options.ignoreTableNameCase → pair.2 = refTable)
    {targetName : Text} (h : options.mappedTarget refTable = some targetName) :
    targetName = refTable := by
  rw [mappedTarget, Option.or_eq_some_iff] at h
  rcases h with h | ⟨_, h⟩
  · obtain ⟨mapping, hfind, rfl⟩ := Option.map_eq_some_iff.mp h
    have haccept := find?_some hfind
    simp only [and_eq_true, beq_iff_eq, contains_iff_mem] at haccept
    exact hmappings mapping (mem_of_find?_eq_some hfind) haccept.1 haccept.2
  · obtain ⟨pair, hfind, rfl⟩ := Option.map_eq_some_iff.mp h
    have hequal : identifiersEqual pair.1 refTable options.ignoreTableNameCase := by
      simpa using find?_some hfind
    exact hpairs pair (mem_of_find?_eq_some hfind) hequal

private theorem removedTable_shard (hname : inShard options shard name) :
    (shardOptions options shard).removedTable name = options.removedTable name := by
  unfold removedTable
  rw [targetDetail_shard hname, targetTableComment_shard hname]

private theorem addedView_shard (hname : shard.contains name) :
    (shardOptions options shard).addedView name = options.addedView name := by
  unfold addedView
  rw [sourceDetail_shard hname]

private theorem removedView_shard (hname : inShard options shard name) :
    (shardOptions options shard).removedView name = options.removedView name := by
  unfold removedView
  rw [targetDetail_shard hname]

private theorem comparedView_shard (readers : DdlReaders) (hsource : shard.contains pair.1)
    (htarget : inShard options shard pair.2) :
    (shardOptions options shard).comparedView readers pair = options.comparedView readers pair := by
  unfold comparedView
  rw [sourceDetail_shard hsource, targetDetail_shard htarget]
  rfl

variable (hsafe : ShardSafe options shards) (hshard : shard ∈ shards)

include hsafe hshard

private theorem ShardSafe.closedPart (isView : Bool) :
    ClosedPart (namesOfKind options.sourceTables isView) (namesOfKind options.targetTables isView)
      options.tableMappings options.ignoreTableNameCase shard.contains
      (inShard options shard) := by
  intro sourceName hsource targetName htarget hlinked
  simp only [namesOfKind, mem_map, mem_filter, beq_iff_eq] at hsource htarget
  obtain ⟨source, ⟨hsource, hsourceKind⟩, rfl⟩ := hsource
  obtain ⟨target, ⟨htarget, htargetKind⟩, rfl⟩ := htarget
  apply hsafe.together shard hshard source hsource target htarget
  rcases hlinked with hexplicit | hname | ⟨hcase, hequal⟩
  · exact .inr (.inl (mem_mappings_of_explicitTarget hexplicit))
  · exact .inl hname
  · exact .inr (.inr ⟨hcase, hsourceKind.trans htargetKind.symm, hequal⟩)

private theorem ShardSafe.resolution_shard (isView : Bool) :
    (shardOptions options shard).resolution isView =
      let whole := options.resolution isView
      ⟨whole.pairs.filter fun pair => shard.contains pair.1, whole.sourceOnly.filter shard.contains,
        whole.targetOnly.filter (inShard options shard)⟩ := by
  have hrestrict := resolveSchemaDiffTableNames_restrict (hsafe.closedPart hshard isView)
  rw [← namesOfKind_filter, ← namesOfKind_filter] at hrestrict
  exact hrestrict

private theorem normalizeMapped_shard_of_settled (hfk : SourceKeySettled options fk) :
    (shardOptions options shard).normalizeMappedForeignKey fk =
      options.normalizeMappedForeignKey fk := by
  obtain ⟨hschema, hmappings, hpairs⟩ := hfk
  rw [normalizeMappedForeignKey_settled hschema fun _ => eq_of_mappedTarget hmappings hpairs]
  apply normalizeMappedForeignKey_settled hschema
  apply eq_of_mappedTarget
  · intro mapping hmapping hsource htarget
    rw [targetNames_shard, mem_filter] at htarget
    exact hmappings mapping hmapping hsource htarget.1
  · intro pair hpair
    rw [hsafe.resolution_shard hshard] at hpair
    exact hpairs pair (mem_of_mem_filter hpair)

private theorem mappedTarget_shard_of_inside (hfk : SourceKeyInside options shard fk) :
    (shardOptions options shard).mappedTarget fk.refTable = options.mappedTarget fk.refTable := by
  -- a mapping of the table that is meant brings its target into the shard
  have hfind : options.tableMappings.find? (fun mapping => mapping.sourceTable == fk.refTable &&
        ((namesOfKind options.targetTables false).filter (inShard options shard)).contains
          mapping.targetTable) =
      options.tableMappings.find? fun mapping => mapping.sourceTable == fk.refTable &&
        (namesOfKind options.targetTables false).contains mapping.targetTable := by
    apply find?_congr
    intro mapping hmapping
    by_cases hsource : mapping.sourceTable = fk.refTable
    · have hinside : inShard options shard mapping.targetTable := by
        have href := hfk.2 mapping hmapping hsource
        simp only [inShard, or_eq_true, any_eq_true, and_eq_true, beq_iff_eq]
        exact .inr ⟨mapping, hmapping, by simpa [hsource] using href, rfl⟩
      rw [contains_filter_of_kept hinside]
    · rw [beq_false_of_ne hsource, Bool.false_and, Bool.false_and]
  have hpairs : ((options.resolution false).pairs.filter fun pair => shard.contains pair.1).find?
        (fun pair => identifiersEqual pair.1 fk.refTable options.ignoreTableNameCase) =
      (options.resolution false).pairs.find? fun pair =>
        identifiersEqual pair.1 fk.refTable options.ignoreTableNameCase := by
    apply find?_filter_of_imp
    intro pair hpair hequal
    simpa using hfk.1 pair.1 (fst_mem_of_mem_pairs hpair) hequal
  have hlocal : (shardOptions options shard).mappedTarget fk.refTable =
      ((options.tableMappings.find? fun mapping => mapping.sourceTable == fk.refTable &&
        (namesOfKind (shardOptions options shard).targetTables false).contains
          mapping.targetTable).map (·.targetTable)).or
      ((((shardOptions options shard).resolution false).pairs.find? fun pair =>
        identifiersEqual pair.1 fk.refTable options.ignoreTableNameCase).map Prod.snd) := rfl
  rw [hlocal, targetNames_shard, hsafe.resolution_shard hshard]
  rw [hfind, hpairs, mappedTarget]

private theorem normalizeMapped_shard_of_inside (hfk : SourceKeyInside options shard fk) :
    (shardOptions options shard).normalizeMappedForeignKey fk =
      options.normalizeMappedForeignKey fk := by
  have hnames : namesOfKind (shardOptions options shard).sourceTables false =
      (namesOfKind options.sourceTables false).filter shard.contains := namesOfKind_filter _ _ _
  have hself : (shardOptions options shard).normalizeSelfReferencingFk
        ((namesOfKind options.sourceTables false).filter shard.contains) fk =
      options.normalizeSelfReferencingFk (namesOfKind options.sourceTables false) fk :=
    normalizeSelf_filter fun name hname hequal => by simpa using hfk.1 name hname hequal
  have href : (options.normalizeSelfReferencingFk (namesOfKind options.sourceTables false)
      fk).refTable = fk.refTable := by
    unfold normalizeSelfReferencingFk
    split <;> rfl
  simp only [normalizeMappedForeignKey, hnames, hself, href,
    mappedTarget_shard_of_inside hsafe hshard hfk]

private theorem ShardSafe.sourceKeys_shard {detail : TableSchemaDetail}
    (hname : shard.contains name) (hdetail : options.sourceDetail name = some detail) :
    detail.foreignKeys.map (shardOptions options shard).normalizeMappedForeignKey =
      detail.foreignKeys.map options.normalizeMappedForeignKey := by
  obtain ⟨hmem, rfl⟩ := mem_of_lastNamed hdetail
  apply map_congr_left
  intro fk hfk
  rcases hsafe.sourceKeys shard hshard detail hmem (by simpa using hname) fk hfk with
    hinside | hsettled
  · exact normalizeMapped_shard_of_inside hsafe hshard hinside
  · exact normalizeMapped_shard_of_settled hsafe hshard hsettled

private theorem ShardSafe.targetKeys_shard {detail : TableSchemaDetail}
    (hname : inShard options shard name) (hdetail : options.targetDetail name = some detail) :
    detail.foreignKeys.map ((shardOptions options shard).normalizeSelfReferencingFk
      (namesOfKind (shardOptions options shard).targetTables false)) =
    detail.foreignKeys.map (options.normalizeSelfReferencingFk
      (namesOfKind options.targetTables false)) := by
  obtain ⟨hmem, rfl⟩ := mem_of_lastNamed hdetail
  rw [targetNames_shard]
  apply map_congr_left
  intro fk hfk
  rcases hsafe.targetKeys shard hshard detail hmem hname fk hfk with hschema | hinside
  · simp [normalizeSelfReferencingFk, hschema]
  · exact normalizeSelf_filter hinside

private theorem addedTable_shard (hname : shard.contains name) :
    (shardOptions options shard).addedTable name = options.addedTable name := by
  unfold addedTable
  rw [sourceDetail_shard hname]
  rcases hdetail : options.sourceDetail name with _ | detail
  · rfl
  simp only [Option.map_some, hsafe.sourceKeys_shard hshard hname hdetail]

omit hshard in
private theorem diffColumns_shard {source target : TableSchemaDetail}
    (hpair : pair ∈ (options.resolution false).pairs)
    (hsource : options.sourceDetail pair.1 = some source)
    (htarget : options.targetDetail pair.2 = some target) :
    diffColumnsWithIdentifierOptions (shardOptions options shard).columnCompareOptions
        source.columns target.columns =
      diffColumnsWithIdentifierOptions options.columnCompareOptions source.columns
        target.columns := by
  have hwhole : diffColumnsWithIdentifierOptions options.columnCompareOptions source.columns
      target.columns =
        diffMatchedColumns options.columnCompareOptions source.columns target.columns := by
    rw [diffColumnsWithIdentifierOptions]
    split
    · next hrenames =>
      rw [Bool.and_eq_true, decide_eq_true_eq] at hrenames
      exact applyRenames_of_no_candidate
        (hsafe.noRenames hrenames.1 hrenames.2 pair hpair source hsource target htarget)
    · rfl
  rw [hwhole]
  rfl

private theorem comparedTable_shard (readers : DdlReaders)
    (hpair : pair ∈ (options.resolution false).pairs) (hsource : shard.contains pair.1)
    (htarget : inShard options shard pair.2) :
    (shardOptions options shard).comparedTable readers pair =
      options.comparedTable readers pair := by
  unfold comparedTable
  rw [sourceDetail_shard hsource, targetDetail_shard htarget, sourceTableComment_shard hsource,
    targetTableComment_shard htarget]
  rcases hsourceDetail : options.sourceDetail pair.1 with _ | source
  · rfl
  rcases htargetDetail : options.targetDetail pair.2 with _ | target
  · rfl
  simp only [diffColumns_shard hsafe hpair hsourceDetail htargetDetail,
    hsafe.sourceKeys_shard hshard hsource hsourceDetail,
    hsafe.targetKeys_shard hshard htarget htargetDetail]
  rfl

private theorem ShardSafe.diffSchema_shard (readers : DdlReaders) :
    diffSchema readers (shardOptions options shard) =
      (((options.resolution false).sourceOnly.filter shard.contains).map options.addedTable ++
        ((options.resolution false).targetOnly.filter (inShard options shard)).map
          options.removedTable ++
        ((options.resolution true).sourceOnly.filter shard.contains).map options.addedView ++
        ((options.resolution true).targetOnly.filter (inShard options shard)).map
          options.removedView ++
        ((options.resolution true).pairs.filter fun pair => shard.contains pair.1).filterMap
          (options.comparedView readers) ++
        ((options.resolution false).pairs.filter fun pair => shard.contains pair.1).filterMap
          (options.comparedTable readers)).filter fun diff => diff.diffType ≠ .none := by
  have hinside : ∀ isView, ∀ pair ∈ (options.resolution isView).pairs.filter
      (fun pair => shard.contains pair.1),
      shard.contains pair.1 ∧ inShard options shard pair.2 := by
    intro isView pair hpair
    rw [mem_filter] at hpair
    have hkeep := keep_of_mem_pairs (hsafe.closedPart hshard isView) hpair.1
    exact ⟨hpair.2, hkeep ▸ hpair.2⟩
  unfold diffSchema
  simp only [hsafe.resolution_shard hshard]
  rw [map_congr_left fun name hname =>
      addedTable_shard hsafe hshard (of_mem_filter hname),
    map_congr_left fun name hname => removedTable_shard (of_mem_filter hname),
    map_congr_left fun name hname => addedView_shard (of_mem_filter hname),
    map_congr_left fun name hname => removedView_shard (of_mem_filter hname),
    filterMap_congr fun pair hpair =>
      comparedView_shard readers (hinside true pair hpair).1 (hinside true pair hpair).2,
    filterMap_congr fun pair hpair => comparedTable_shard hsafe hshard readers
      (mem_of_mem_filter hpair) (hinside false pair hpair).1 (hinside false pair hpair).2]

end Shard

/-! ### All shards -/

private theorem dealLoop_perm {shardCount : Nat} (hpos : 0 < shardCount)
    (entries : List (List Text × Nat)) (shards : List (List Text))
    (hlength : shards.length = shardCount) :
    (entries.foldl (fun shards entry => shards.modify (entry.2 % shardCount) (· ++ entry.1))
      shards).flatten.Perm (shards.flatten ++ (entries.map Prod.fst).flatten) := by
  induction entries generalizing shards with
  | nil => simp
  | cons entry entries ih =>
    have hslot : entry.2 % shardCount < shards.length := by
      rw [hlength]
      exact Nat.mod_lt entry.2 hpos
    have hrest := ih (shards.modify (entry.2 % shardCount) (· ++ entry.1))
      (by rw [length_modify, hlength])
    rw [foldl_cons, map_cons, flatten_cons, ← append_assoc]
    exact hrest.trans ((flatten_modify_perm shards _ hslot entry.1).append_right _)

private theorem dealOut_perm {shardCount : Nat} (hpos : 0 < shardCount)
    (groups : List (List Text)) : (dealOut shardCount groups).flatten.Perm groups.flatten := by
  have hperm := dealLoop_perm hpos groups.zipIdx (replicate shardCount []) length_replicate
  simpa [dealOut] using hperm

variable (groups : List (Text × List Text))

private theorem keys_addToSchemaGroup (table : TableInfo) (h : (groups.map Prod.fst).Nodup) :
    ((addToSchemaGroup groups table).map Prod.fst).Nodup := by
  unfold addToSchemaGroup
  dsimp only
  split
  · have hkeys : ∀ key : Text, (Prod.fst ∘ fun group : Text × List Text =>
        if group.1 == key then (group.1, group.2 ++ [table.name]) else group) = Prod.fst := by
      intro key
      funext group
      simp only [Function.comp_apply]
      split <;> rfl
    rw [map_map, hkeys]
    exact h
  · next hnew =>
    rw [map_append, map_singleton, nodup_append]
    refine ⟨h, nodup_singleton _, ?_⟩
    intro key hkey key' hkey' heq
    obtain ⟨group, hgroup, rfl⟩ := mem_map.mp hkey
    rw [mem_singleton] at hkey'
    apply hnew
    rw [any_eq_true]
    exact ⟨group, hgroup, by simp [heq, hkey']⟩

private theorem map_group_perm (key name : Text) (hkeys : (groups.map Prod.fst).Nodup)
    (hmem : key ∈ groups.map Prod.fst) :
    ((groups.map fun group =>
      if group.1 == key then (group.1, group.2 ++ [name]) else group).map Prod.snd).flatten.Perm
      ((groups.map Prod.snd).flatten ++ [name]) := by
  induction groups with
  | nil => simp at hmem
  | cons group groups ih =>
    rw [map_cons, nodup_cons] at hkeys
    simp only [map_cons, flatten_cons, append_assoc]
    by_cases hkey : group.1 = key
    · -- no later group has this schema
      have hrest : (groups.map fun group =>
          if group.1 == key then (group.1, group.2 ++ [name]) else group) = groups := by
        conv_rhs => rw [← map_id groups]
        apply map_congr_left
        intro other hother
        have hne : other.1 ≠ key := by
          intro hsame
          apply hkeys.1
          rw [hkey, ← hsame]
          exact mem_map_of_mem hother
        simp [hne]
      rw [hrest]
      simp only [hkey, beq_self_eq_true, if_true, append_assoc]
      exact perm_append_comm.append_left group.2
    · have htail : key ∈ groups.map Prod.fst := by
        rw [map_cons, mem_cons] at hmem
        exact hmem.resolve_left (Ne.symm hkey)
      rw [if_neg (by simpa using hkey)]
      exact (ih hkeys.2 htail).append_left group.2

private theorem addToSchemaGroup_perm (table : TableInfo) (h : (groups.map Prod.fst).Nodup) :
    ((addToSchemaGroup groups table).map Prod.snd).flatten.Perm
      ((groups.map Prod.snd).flatten ++ [table.name]) := by
  unfold addToSchemaGroup
  dsimp only
  split
  · next hold =>
    apply map_group_perm _ _ _ h
    obtain ⟨group, hgroup, hkey⟩ := any_eq_true.mp hold
    rw [beq_iff_eq] at hkey
    rw [← hkey]
    exact mem_map_of_mem hgroup
  · simp

private theorem schemaGroups_perm (tables : List TableInfo) (h : (groups.map Prod.fst).Nodup) :
    ((tables.foldl addToSchemaGroup groups).map Prod.snd).flatten.Perm
      ((groups.map Prod.snd).flatten ++ tables.map (·.name)) := by
  induction tables generalizing groups with
  | nil => simp
  | cons table tables ih =>
    have hrest := ih (addToSchemaGroup groups table) (keys_addToSchemaGroup groups table h)
    have hstep := addToSchemaGroup_perm groups table h
    rw [foldl_cons, map_cons, ← singleton_append, ← append_assoc]
    exact hrest.trans (hstep.append_right _)

private theorem namesOfKind_perm (tables : List TableInfo) :
    (namesOfKind tables false ++ namesOfKind tables true).Perm (tables.map (·.name)) := by
  rw [namesOfKind, namesOfKind, ← map_append]
  apply List.Perm.map
  have hperm := filter_append_perm (fun table : TableInfo => table.isView == false) tables
  have hother : (tables.filter fun table => !(table.isView == false)) =
      tables.filter fun table => table.isView == true := by
    apply filter_congr
    intro table _
    cases table.isView <;> rfl
  rw [hother] at hperm
  exact hperm

private theorem shardsOf_perm (order : HashOrder) (strategy : ShardStrategy)
    (hpos : 0 < effectiveShardCount options strategy) :
    (shardsOf order options strategy).flatten.Perm (options.sourceTables.map (·.name)) := by
  have hnames : (dealOut (effectiveShardCount options strategy)
      ((namesOfKind options.sourceTables false ++
        namesOfKind options.sourceTables true).map ([·]))).flatten.Perm
      (options.sourceTables.map (·.name)) := by
    refine (dealOut_perm hpos _).trans ?_
    rw [← flatMap_def, flatMap_singleton']
    exact namesOfKind_perm options.sourceTables
  unfold shardsOf
  split
  · exact hnames
  · exact hnames
  · refine (dealOut_perm hpos _).trans ?_
    have hgroups := ((order.iterate_perm
      (options.sourceTables.foldl addToSchemaGroup [])).map Prod.snd).flatten
    exact hgroups.trans (by simpa using schemaGroups_perm [] options.sourceTables nodup_nil)

section AllShards

variable {shards : List (List Text)}
  (hsafe : ShardSafe options shards)
  (hperm : shards.flatten.Perm (options.sourceTables.map (·.name)))

include hsafe hperm

private theorem countP_source {name : Text} (hname : name ∈ options.sourceTables.map (·.name)) :
    shards.countP (·.contains name) = 1 :=
  countP_contains_of_nodup shards (hperm.nodup_iff.mpr hsafe.sourceNames) name
    (hperm.mem_iff.mpr hname)

private theorem countP_target {name : Text} (hname : name ∈ options.targetTables.map (·.name)) :
    shards.countP (inShard options · name) = 1 := by
  obtain ⟨target, htarget, rfl⟩ := mem_map.mp hname
  obtain ⟨shard, hshard, hinside⟩ := hsafe.covered target htarget
  have hrelated : ∃ source ∈ options.sourceTables, Related options source target := by
    have hmem : ∀ name ∈ shard, ∃ source ∈ options.sourceTables, source.name = name := by
      intro name hin
      have hsource := hperm.mem_iff.mp (mem_flatten_of_mem hshard hin)
      simpa using hsource
    simp only [inShard, or_eq_true, contains_iff_mem, any_eq_true,
      and_eq_true, beq_iff_eq] at hinside
    rcases hinside with hin | ⟨mapping, hmapping, hin, hmapped⟩
    · obtain ⟨source, hsource, hsame⟩ := hmem target.name hin
      exact ⟨source, hsource, .inl hsame⟩
    · obtain ⟨source, hsource, hsame⟩ := hmem mapping.sourceTable hin
      refine ⟨source, hsource, .inr (.inl ?_)⟩
      rw [hsame, ← hmapped]
      exact hmapping
  obtain ⟨source, hsource, hrelated⟩ := hrelated
  rw [← countP_source hsafe hperm (mem_map_of_mem hsource)]
  apply countP_congr
  intro other hother
  rw [hsafe.together other hother source hsource target htarget hrelated]

omit hsafe hperm in
private theorem mem_names_of_mem_namesOfKind {tables : List TableInfo} {isView : Bool}
    {name : Text} (h : name ∈ namesOfKind tables isView) : name ∈ tables.map (·.name) := by
  simp only [namesOfKind, mem_map, mem_filter] at h
  obtain ⟨table, htable, rfl⟩ := h
  exact mem_map_of_mem htable.1

private theorem ShardSafe.flatMap_diffSchema_perm (readers : DdlReaders) :
    (shards.flatMap fun shard => diffSchema readers (shardOptions options shard)).Perm
      (diffSchema readers options) := by
  have hsources : ∀ isView, ∀ name ∈ (options.resolution isView).sourceOnly,
      shards.countP (·.contains name) = 1 := fun isView name hname =>
    countP_source hsafe hperm (mem_names_of_mem_namesOfKind (mem_of_mem_filter hname))
  have htargets : ∀ isView, ∀ name ∈ (options.resolution isView).targetOnly,
      shards.countP (inShard options · name) = 1 := fun isView name hname =>
    countP_target hsafe hperm (mem_names_of_mem_namesOfKind (mem_of_mem_filter hname))
  have hpairs : ∀ isView, ∀ pair ∈ (options.resolution isView).pairs,
      shards.countP (·.contains pair.1) = 1 := fun isView pair hpair =>
    countP_source hsafe hperm (mem_names_of_mem_namesOfKind (fst_mem_of_mem_pairs hpair))
  have hshards := flatMap_congr fun shard hshard => hsafe.diffSchema_shard hshard readers
  rw [hshards, ← filter_flatMap]
  apply List.Perm.filter
  refine flatMap_append_perm_of (flatMap_append_perm_of (flatMap_append_perm_of
    (flatMap_append_perm_of (flatMap_append_perm_of ?_ ?_) ?_) ?_) ?_) ?_
  · exact flatMap_map_perm (fun shard => shard.contains) shards (hsources false) _
  · exact flatMap_map_perm (fun shard => inShard options shard) shards (htargets false) _
  · exact flatMap_map_perm (fun shard => shard.contains) shards (hsources true) _
  · exact flatMap_map_perm (fun shard => inShard options shard) shards (htargets true) _
  · exact flatMap_filterMap_perm (fun (shard : List Text) (pair : Text × Text) =>
      shard.contains pair.1) shards (hpairs true) _
  · exact flatMap_filterMap_perm (fun (shard : List Text) (pair : Text × Text) =>
      shard.contains pair.1) shards (hpairs false) _

end AllShards

/-! ### Merging -/

/-- What the merge takes two differences to be the same by. -/
def SameEntry (a b : TableDiff) : Prop := a.name = b.name ∧ a.diffType = b.diffType

private theorem not_sameEntry_symm {a b : TableDiff} (hne : ¬SameEntry a b) : ¬SameEntry b a :=
  fun hsame => hne ⟨hsame.1.symm, hsame.2.symm⟩

/-- Differences of distinct names, of some kinds only. -/
structure DistinctOf (kinds : List DiffType) (diffs : List TableDiff) : Prop where
  names : (diffs.map (·.name)).Nodup
  kind : ∀ diff ∈ diffs, diff.diffType ∈ kinds

private theorem DistinctOf.pairwise {kinds : List DiffType} {diffs : List TableDiff}
    (h : DistinctOf kinds diffs) : diffs.Pairwise fun a b => ¬SameEntry a b := by
  have hnames := h.names
  rw [List.Nodup, pairwise_map] at hnames
  exact hnames.imp fun hne hsame => hne hsame.1

private theorem pairwise_append_of_kinds {kinds kinds' : List DiffType} {l l' : List TableDiff}
    (h : l.Pairwise fun a b => ¬SameEntry a b) (h' : l'.Pairwise fun a b => ¬SameEntry a b)
    (hl : ∀ a ∈ l, a.diffType ∈ kinds) (hl' : ∀ b ∈ l', b.diffType ∈ kinds')
    (hkinds : ∀ kind ∈ kinds, kind ∉ kinds') : (l ++ l').Pairwise fun a b => ¬SameEntry a b := by
  rw [pairwise_append]
  refine ⟨h, h', ?_⟩
  intro a ha b hb hsame
  exact hkinds _ (hl a ha) (hsame.2 ▸ hl' b hb)

private theorem nodup_namesOfKind {tables : List TableInfo} (h : (tables.map (·.name)).Nodup) :
    (namesOfKind tables false ++ namesOfKind tables true).Nodup :=
  (namesOfKind_perm tables).nodup_iff.mpr h

variable {diff : TableDiff}

private theorem comparedView_entry {readers : DdlReaders}
    (h : options.comparedView readers pair = some diff) :
    diff.name = pair.1 ∧ diff.diffType = .modified := by
  unfold comparedView at h
  split at h
  · split at h
    · cases h
      exact ⟨rfl, rfl⟩
    · cases h
  · cases h

private theorem comparedTable_entry {readers : DdlReaders}
    (h : options.comparedTable readers pair = some diff) :
    diff.name = pair.1 ∧ (diff.diffType = .modified ∨ diff.diffType = .none) := by
  unfold comparedTable at h
  split at h
  · cases h
    exact ⟨rfl, ite_eq_or_eq _ _ _⟩
  · cases h

private theorem names_map {f : Text → TableDiff} (hf : ∀ name, (f name).name = name)
    (names : List Text) : (names.map f).map (·.name) = names := by
  rw [map_map]
  conv_rhs => rw [← map_id names]
  exact map_congr_left fun name _ => hf name

private theorem names_filterMap_sublist {α β : Type} {f : α → Option β} {name : α → Text}
    {name' : β → Text} (hf : ∀ a b, f a = some b → name' b = name a) (l : List α) :
    ((l.filterMap f).map name').Sublist (l.map name) := by
  induction l with
  | nil => exact List.Sublist.refl _
  | cons a l ih =>
    rw [filterMap_cons, map_cons]
    rcases hfound : f a with _ | b
    · exact ih.cons _
    rw [map_cons, hf a b hfound]
    exact ih.cons_cons _

private theorem fst_pairs_sublist (isView : Bool) :
    ((options.resolution isView).pairs.map Prod.fst).Sublist
      (namesOfKind options.sourceTables isView) := by
  rw [← map_id (namesOfKind options.sourceTables isView)]
  apply names_filterMap_sublist
  intro name pair hpair
  obtain ⟨targetName, _, rfl⟩ := Option.map_eq_some_iff.mp hpair
  rfl

private theorem diffSchema_pairwise (readers : DdlReaders)
    (hsources : (options.sourceTables.map (·.name)).Nodup)
    (htargets : (options.targetTables.map (·.name)).Nodup) :
    (diffSchema readers options).Pairwise fun a b => ¬SameEntry a b := by
  have hsourceNames := nodup_namesOfKind hsources
  have hadded : DistinctOf [.added] ((options.resolution false).sourceOnly.map options.addedTable ++
      (options.resolution true).sourceOnly.map options.addedView) := by
    constructor
    · rw [map_append, names_map (fun _ => rfl), names_map (fun _ => rfl)]
      exact hsourceNames.sublist (filter_sublist.append filter_sublist)
    · simp only [mem_append, mem_map]
      rintro diff (⟨name, _, rfl⟩ | ⟨name, _, rfl⟩) <;> exact mem_cons_self
  have hremoved : DistinctOf [.removed] ((options.resolution false).targetOnly.map
      options.removedTable ++ (options.resolution true).targetOnly.map options.removedView) := by
    constructor
    · rw [map_append, names_map (fun _ => rfl), names_map (fun _ => rfl)]
      exact (nodup_namesOfKind htargets).sublist (filter_sublist.append filter_sublist)
    · simp only [mem_append, mem_map]
      rintro diff (⟨name, _, rfl⟩ | ⟨name, _, rfl⟩) <;> exact mem_cons_self
  -- a compared pair is reported as modified, or as none and then dropped
  have hcompared : DistinctOf [.modified, .none] ((options.resolution true).pairs.filterMap
      (options.comparedView readers) ++
      (options.resolution false).pairs.filterMap (options.comparedTable readers)) := by
    constructor
    · have hviews := names_filterMap_sublist (f := options.comparedView readers)
        (fun _ _ h => (comparedView_entry h).1) (options.resolution true).pairs
      have htables := names_filterMap_sublist (f := options.comparedTable readers)
        (fun _ _ h => (comparedTable_entry h).1) (options.resolution false).pairs
      rw [map_append]
      exact (perm_append_comm.nodup_iff.mp hsourceNames).sublist
        ((hviews.trans (fst_pairs_sublist true)).append
          (htables.trans (fst_pairs_sublist false)))
    · simp only [mem_append, mem_filterMap]
      rintro diff (⟨pair, _, hview⟩ | ⟨pair, _, htable⟩)
      · simp [(comparedView_entry hview).2]
      · simpa using (comparedTable_entry htable).2
  have hrest := pairwise_append_of_kinds hremoved.pairwise hcompared.pairwise hremoved.kind
    hcompared.kind (by decide)
  have hall := @pairwise_append_of_kinds _ [.removed, .modified, .none] _ _ hadded.pairwise
    hrest hadded.kind (forall_mem_append.mpr
      ⟨fun diff hdiff => mem_append_left _ (hremoved.kind diff hdiff),
        fun diff hdiff => mem_cons_of_mem _ (hcompared.kind diff hdiff)⟩) (by decide)
  apply List.Pairwise.filter
  refine (List.Perm.pairwise_iff not_sameEntry_symm ?_).mpr hall
  simp only [append_assoc]
  exact (perm_append_comm_assoc _ _ _).append_left _

private theorem mergeShards_perm (results : List (List TableDiff))
    (h : results.flatten.Pairwise fun a b => ¬SameEntry a b) :
    (mergeShards results).Perm results.flatten := by
  have hsorted := mergeSort_perm results.flatten fun a b => decide (a.name ≤ b.name)
  have hpairwise : (results.flatten.mergeSort fun a b => decide (a.name ≤ b.name)).Pairwise
      fun previous diff => ¬(diff.name = previous.name ∧ diff.diffType = previous.diffType) := by
    exact (List.Perm.pairwise_iff not_sameEntry_symm hsorted).mpr (h.imp not_sameEntry_symm)
  rw [mergeShards, destutter_of_isChain _ _ hpairwise.isChain]
  exact hsorted

private theorem ShardSafe.nonempty {shards : List (List Text)} (h : ShardSafe options shards) :
    ShardSafe options (shards.filter (!·.isEmpty)) where
  sourceNames := h.sourceNames
  targetNames := h.targetNames
  covered target htarget := by
    obtain ⟨shard, hshard, hinside⟩ := h.covered target htarget
    refine ⟨shard, mem_filter.mpr ⟨hshard, ?_⟩, hinside⟩
    cases shard with
    | nil => simp [inShard] at hinside
    | cons name names => rfl
  together shard hshard := h.together shard (mem_of_mem_filter hshard)
  sourceKeys shard hshard := h.sourceKeys shard (mem_of_mem_filter hshard)
  targetKeys shard hshard := h.targetKeys shard (mem_of_mem_filter hshard)
  noRenames := h.noRenames

/-- Readers that find nothing in a definition. -/
def DdlReaders.silent : DdlReaders where
  tableDefaults _ := none
  normalizeMysqlViewDdl := id
  oracleViewSchemas _ _ := []
  normalizeOracleViewDdlWithSchemas ddl _ := ddl

/-- Entries in the order in which they were inserted. -/
def HashOrder.insertion : HashOrder where
  iterate := id
  iterate_perm := List.Perm.refl

private def bareColumn (name dataType : String) : ColumnInfo where
  name := name.toList
  dataType := dataType.toList
  isNullable := true
  columnDefault := none
  isPrimaryKey := false
  extra := none
  comment := none
  numericPrecision := none
  numericScale := none
  characterMaximumLength := none
  characterSet := none
  collation := none

private def bareTable (name : String) : TableInfo := ⟨name.toList, "TABLE", none, none⟩

private def bareKey (name refTable : String) (refSchema : Option Text) : ForeignKeyInfo where
  name := name.toList
  column := "x"
  refSchema := refSchema
  refTable := refTable.toList
  refColumn := "x"
  onUpdate := none
  onDelete := none

/-- `b` is mapped to `c` and points to itself, with its schema, and to `a` in the other shard. -/
def mappedOptions : SchemaDiffPreparationOptions where
  sourceTables := [bareTable "a", bareTable "b"]
  targetTables := [bareTable "a", bareTable "c"]
  sourceDetails := [
    { name := "a", columns := [bareColumn "x" "int"] },
    { name := "b", columns := [bareColumn "x" "int"]
      foreignKeys := [bareKey "self" "b" (some "app"), bareKey "up" "a" none] }]
  targetDetails := [
    { name := "a", columns := [bareColumn "x" "text"] },
    { name := "c", columns := [bareColumn "x" "text"] }]
  tableMappings := [⟨"b", "c"⟩]
  detectRenames := true

/-- A target table without a source table goes with no shard. -/
def targetOnlyOptions : SchemaDiffPreparationOptions where
  sourceTables := [bareTable "a", bareTable "b"]
  targetTables := [bareTable "a", bareTable "b", bareTable "c"]

private theorem mem_of_mem_mergeShards {results : List (List TableDiff)}
    (h : diff ∈ mergeShards results) : diff ∈ results.flatten :=
  mem_mergeSort.mp ((destutter_sublist _ _).subset h)

end DbxSpec.Schema
