import DbxSpec.Base.Toposort
import DbxSpec.Schema.Types
import DbxSpec.Sql.Lexical

/-!
# The order of a sync script

`order_diffs_for_execution` of `crates/dbx-sql-schema/src/schema_diff.rs:6508-6653`, which puts
table differences in an order in which their statements can run, and what the statements of the
generator (`6720-7304`) need: a table is there before a foreign key to it is added, and no
foreign key to a table is left when it is dropped.
-/

namespace DbxSpec.Schema

open DbxSpec.Base DbxSpec.Base.Toposort DbxSpec.Sql List Relation.TransGen

/-! ### References -/

/-- The patterns of `schema_diff.rs:674`, which mention a table. -/
def referencePatterns (tableUp : Text) : List Text :=
  [" FROM " ++ tableUp, " JOIN " ++ tableUp, " INTO " ++ tableUp,
    " TABLE " ++ tableUp, " REFERENCES " ++ tableUp, " UPDATE " ++ tableUp,
    "DELETE FROM " ++ tableUp, "FROM " ++ tableUp ++ " (",
    " " ++ tableUp ++ "."]

section

variable (x : Externals)

/-- `schema_diff.rs:667`. -/
def extractDdlReferences (sql : Text) (knownTables : List Text) : List Text :=
  let upper := toUppercase x sql
  knownTables.filter fun table =>
    (referencePatterns (toUppercase x table)).any (containsText upper)

/-- `schema_diff.rs:6516`. -/
def pushUnique (names : List Text) (name : Text) : List Text :=
  if !name.isEmpty && !names.contains name then names ++ [name] else names

/-- `schema_diff.rs:6524`: the side that owns the definition comes first. -/
def referencedInfo (diffType : DiffType) (foreignKey : ForeignKeyDiff) :
    Option SchemaForeignKeyInfo :=
  match diffType with
  | .removed => foreignKey.target.or foreignKey.source
  | _ => foreignKey.source.or foreignKey.target

/-- `schema_diff.rs:6533-6541`. -/
def viewReferences (diff : TableDiff) (known : List Text) : List Text :=
  if diff.objectType = some .view then
    match diff.ddl.or diff.targetDdl with
    | some ddl =>
      let unquoted := ddl.filter fun ch => ch ∉ ['`', '"', '[', ']']
      extractDdlReferences x unquoted known
    | none => []
  else []

/-- `schema_diff.rs:6514`. -/
def diffReferencedObjects (diff : TableDiff) (known : List Text) : List Text :=
  let keys := (diff.foreignKeys.getD []).filterMap (referencedInfo diff.diffType)
  (keys.map (·.refTable) ++ viewReferences x diff known).foldl pushUnique []

/-! ### The dependency graph -/

variable (diffs : List TableDiff)

/-- `added.get(name)` and `removed.get(name)`: the last difference of that type and name. -/
def diffIndex (diffType : DiffType) (name : Text) : Option Nat :=
  (diffs.zipIdx.filter fun entry =>
    entry.1.diffType = diffType && entry.1.name = name).getLast?.map Prod.snd

/-- `schema_diff.rs:6593-6629`, one turn of the loop: the arguments of the calls of `add_edge`. -/
def edgesOf (known : List Text) (entry : TableDiff × Nat) : List (Nat × Nat) :=
  let (diff, index) := entry
  match diff.diffType with
  | .added => (diffReferencedObjects x diff known).filterMap fun dependency =>
      (diffIndex diffs .added dependency).map fun parent => (parent, index)
  | .removed => (diffReferencedObjects x diff known).filterMap fun dependency =>
      (diffIndex diffs .removed dependency).map fun parent => (index, parent)
  | _ => (diff.foreignKeys.getD []).filterMap fun foreignKey =>
      (foreignKey.source.or foreignKey.target).bind fun info =>
        match foreignKey.diffType with
        | .added => (diffIndex diffs .added info.refTable).map fun parent => (parent, index)
        | .removed => (diffIndex diffs .removed info.refTable).map fun parent => (index, parent)
        | _ => none

/-- `schema_diff.rs:6585`. -/
def addEdge (edges : List (Nat × Nat)) (edge : Nat × Nat) : List (Nat × Nat) :=
  if edge.1 != edge.2 && !edges.contains edge then edges ++ [edge] else edges

/-- `schema_diff.rs:6578-6629`; `successors` and `in_degree` are read off the list. -/
def dependencyEdges : List (Nat × Nat) :=
  (diffs.zipIdx.flatMap (edgesOf x diffs (diffs.map (·.name)))).foldl addEdge []

/-- `schema_diff.rs:6556`. -/
def orderDiffsForExecution : List TableDiff :=
  if diffs.any (·.diffType = .added) || diffs.any (·.diffType = .removed) then
    let ordered := completed (range diffs.length)
      (kahn diffs.length (dependencyEdges x diffs))
    ordered.filterMap fun index => diffs[index]?
  else diffs

end

/-! ### What the statements need -/

variable (diff : TableDiff)

/-- The table that the difference creates, `schema_diff.rs:6756`. -/
def createdTable : Option Text :=
  if diff.diffType = .added && diff.objectType != some .view then some (targetTableName diff)
  else none

/-- The table that the difference drops, `schema_diff.rs:6911`. -/
def droppedTable : Option Text :=
  if diff.diffType = .removed && diff.objectType != some .view then some (targetTableName diff)
  else none

/-- The foreign keys that the statements of the difference add: those of a new table
(`schema_diff.rs:6005`; a native definition that is passed through declares the same ones), and of
a modified one `schema_diff.rs:7296`. -/
def addedForeignKeys : List SchemaForeignKeyInfo :=
  match diff.diffType with
  | .added =>
    if diff.objectType = some .view then []
    else (diff.foreignKeys.getD []).filterMap (·.source)
  | .modified => ((diff.foreignKeys.getD []).filter fun foreignKey =>
      foreignKey.diffType = .added || foreignKey.diffType = .modified).filterMap (·.source)
  | _ => []

/-- The foreign keys that are gone after the statements of the difference: those of a dropped
table, and of a modified one `schema_diff.rs:6929`. -/
def droppedForeignKeys : List SchemaForeignKeyInfo :=
  match diff.diffType with
  | .removed =>
    if diff.objectType = some .view then []
    else (diff.foreignKeys.getD []).filterMap (·.target)
  | .modified => ((diff.foreignKeys.getD []).filter fun foreignKey =>
      foreignKey.diffType = .removed || foreignKey.diffType = .modified).filterMap (·.target)
  | _ => []

/-- Whether a key references a table of the synchronised schema; `schema_diff.rs:4958`. -/
def ForeignKeyInfo.pointsTo (foreignKey : ForeignKeyInfo) (schema : Option Text) (table : Text) :
    Bool :=
  foreignKey.refTable = table && foreignKey.refSchema.or schema = schema

/-- The statements of `before` must run first: they create the table of a key that `after` adds,
or take away a key to the table that `after` drops. -/
def mustPrecede (schema : Option Text) (before after : TableDiff) : Bool :=
  ((createdTable before).any fun table =>
    (addedForeignKeys after).any fun foreignKey => foreignKey.pointsTo schema table) ||
  (droppedTable after).any fun table =>
    (droppedForeignKeys before).any fun foreignKey => foreignKey.pointsTo schema table

/-- A new view comes after, and a dropped one before, what its definition mentions. -/
def viewPrecedes (x : Externals) (known : List Text) (before after : TableDiff) : Bool :=
  (before.diffType = .added && after.diffType = .added &&
    (viewReferences x after known).contains before.name) ||
  (before.diffType = .removed && after.diffType = .removed &&
    (viewReferences x before known).contains after.name)

/-- The dependencies between the differences of a list. -/
def Depends (x : Externals) (schema : Option Text) (diffs : List TableDiff)
    (before after : TableDiff) : Prop :=
  before ∈ diffs ∧ after ∈ diffs ∧ before ≠ after ∧
    (mustPrecede schema before after ∨
      viewPrecedes x (diffs.map (·.name)) before after)

/-- A difference without dependencies. -/
def Independent (x : Externals) (schema : Option Text) (diffs : List TableDiff)
    (diff : TableDiff) : Prop :=
  ∀ other, ¬Depends x schema diffs diff other ∧ ¬Depends x schema diffs other diff

/-- The script runs from top to bottom: the differences are permuted, each comes after what its
statements need unless both are on a dependency cycle, and those without dependencies keep their
order. -/
structure RunsTopToBottom (x : Externals) (schema : Option Text) (diffs ordered : List TableDiff) :
    Prop where
  perm : ordered.Perm diffs
  needs : ∀ before ∈ diffs, ∀ after ∈ diffs, before ≠ after →
    mustPrecede schema before after →
    ¬(Relation.TransGen (Depends x schema diffs) before after ∧
      Relation.TransGen (Depends x schema diffs) after before) →
    Precedes ordered before after
  independent : ∀ first second, Precedes diffs first second →
    Independent x schema diffs first → Independent x schema diffs second →
    Precedes ordered first second

/-! ### What the graph knows -/

/-- Neither added nor removed: the last branch of `schema_diff.rs:6593`. -/
def staysInPlace : Bool :=
  diff.diffType != .added && diff.diffType != .removed

/-- The difference has a foreign key of the given kind whose first known side references the
table. -/
def keyReferences (diffType : DiffType) (table : Text) : Bool :=
  (diff.foreignKeys.getD []).any fun foreignKey => foreignKey.diffType = diffType &&
    (foreignKey.source.or foreignKey.target).any fun info => info.refTable = table

/-- Whether the graph has an edge between two differences. -/
def draws (x : Externals) (known : List Text) (before after : TableDiff) : Bool :=
  (before.diffType = .added && after.diffType = .added &&
    (diffReferencedObjects x after known).contains before.name) ||
  (before.diffType = .removed && after.diffType = .removed &&
    (diffReferencedObjects x before known).contains after.name) ||
  (before.diffType = .added && staysInPlace after && keyReferences after .added before.name) ||
  (after.diffType = .removed && staysInPlace before && keyReferences before .removed after.name)

/-- The edges of the graph, as a relation on the differences of a list. -/
def Draws (x : Externals) (diffs : List TableDiff) (before after : TableDiff) : Prop :=
  before ∈ diffs ∧ after ∈ diffs ∧ before ≠ after ∧
    draws x (diffs.map (·.name)) before after

section Graph

variable (x : Externals) {diffs : List TableDiff} (hnames : (diffs.map (·.name)).Nodup)

include hnames

private theorem name_injective {i j : Nat} {d e : TableDiff} (hi : diffs[i]? = some d)
    (hj : diffs[j]? = some e) (hname : d.name = e.name) : i = j := by
  have hi' : (diffs.map (·.name))[i]? = some d.name := by simp [hi]
  have hj' : (diffs.map (·.name))[j]? = some d.name := by simp [hj, hname]
  obtain ⟨hilt, -⟩ := List.getElem?_eq_some_iff.mp hi'
  exact (getElem?_inj hilt hnames).mp (hi'.trans hj'.symm)

private theorem diffIndex_eq_some {diffType : DiffType} {name : Text} {i : Nat} :
    diffIndex diffs diffType name = some i ↔
      ∃ d, diffs[i]? = some d ∧ d.diffType = diffType ∧ d.name = name := by
  have hmem {entry : TableDiff × Nat} : entry ∈ (diffs.zipIdx.filter fun entry =>
        entry.1.diffType = diffType && entry.1.name = name) ↔
      diffs[entry.2]? = some entry.1 ∧ entry.1.diffType = diffType ∧ entry.1.name = name := by
    simp [mem_zipIdx_iff_getElem?]
  rw [diffIndex, Option.map_eq_some_iff]
  constructor
  · rintro ⟨⟨d, j⟩, hlast, rfl⟩
    exact ⟨d, hmem.mp (mem_of_getLast? hlast)⟩
  · rintro ⟨d, hget, htype, hname⟩
    have hentry := hmem.mpr (show diffs[(d, i).2]? = some (d, i).1 ∧ _ from ⟨hget, htype, hname⟩)
    obtain ⟨⟨e, j⟩, hlast⟩ := Option.isSome_iff_exists.mp
      (getLast?_isSome.mpr (ne_nil_of_mem hentry))
    obtain ⟨hget', -, hname'⟩ := hmem.mp (mem_of_getLast? hlast)
    obtain rfl : i = j := name_injective hnames hget hget' (hname.trans hname'.symm)
    exact ⟨(e, i), hlast, rfl⟩

end Graph

private theorem mem_addEdge {edges : List (Nat × Nat)} {call edge : Nat × Nat} :
    edge ∈ addEdge edges call ↔ edge ∈ edges ∨ edge = call ∧ edge.1 ≠ edge.2 := by
  rw [addEdge]
  split
  · next hnew =>
    simp only [Bool.and_eq_true, bne_iff_ne] at hnew
    rw [mem_append, mem_singleton]
    exact or_congr_right ⟨fun h => ⟨h, h ▸ hnew.1⟩, And.left⟩
  · next hold =>
    refine ⟨.inl, ?_⟩
    rintro (h | ⟨rfl, hne⟩)
    · exact h
    · simpa [hne] using hold

private theorem mem_foldl_addEdge {edges calls : List (Nat × Nat)} {edge : Nat × Nat} :
    edge ∈ calls.foldl addEdge edges ↔ edge ∈ edges ∨ edge ∈ calls ∧ edge.1 ≠ edge.2 := by
  induction calls generalizing edges with
  | nil => simp
  | cons call calls ih => rw [foldl_cons, ih, mem_addEdge, mem_cons, or_and_right, or_assoc]

private theorem nodup_foldl_addEdge {edges calls : List (Nat × Nat)} (hedges : edges.Nodup) :
    (calls.foldl addEdge edges).Nodup := by
  refine foldlRecOn (motive := List.Nodup) calls addEdge hedges ?_
  intro edges hedges call _
  rw [addEdge]
  split
  · next hnew =>
    simp only [Bool.and_eq_true, Bool.not_eq_true', contains_eq_mem,
      decide_eq_false_iff_not] at hnew
    exact hedges.append (nodup_singleton _) (by simpa using hnew.2)
  · exact hedges

private theorem mem_keyReferences {diff : TableDiff} {diffType : DiffType} {table : Text} :
    keyReferences diff diffType table ↔ ∃ foreignKey ∈ diff.foreignKeys.getD [],
      foreignKey.diffType = diffType ∧ ∃ info, foreignKey.source.or foreignKey.target = some info ∧
        info.refTable = table := by
  simp [keyReferences, Option.any_eq_true]

section Graph

variable {x : Externals} {diffs : List TableDiff} (hnames : (diffs.map (·.name)).Nodup)

include hnames

private theorem mem_edgesOf_entry {known : List Text} {diff : TableDiff} {index i j : Nat} :
    (i, j) ∈ edgesOf x diffs known (diff, index) ↔
      (∃ d, diffs[i]? = some d ∧ index = j ∧ d.diffType = .added ∧
        (diff.diffType = .added ∧ d.name ∈ diffReferencedObjects x diff known ∨
          staysInPlace diff ∧ keyReferences diff .added d.name)) ∨
      ∃ e, diffs[j]? = some e ∧ index = i ∧ e.diffType = .removed ∧
        (diff.diffType = .removed ∧ e.name ∈ diffReferencedObjects x diff known ∨
          staysInPlace diff ∧ keyReferences diff .removed e.name) := by
  cases htype : diff.diffType <;> simp only [edgesOf, htype, staysInPlace, mem_filterMap,
    Option.map_eq_some_iff, Option.bind_eq_some_iff, Prod.mk.injEq, diffIndex_eq_some hnames,
    mem_keyReferences]
  case added | removed =>
    simp only [reduceCtorEq, bne_self_eq_false, Bool.false_and, Bool.and_false, false_and,
      and_false, exists_false, or_false, false_or, true_and]
    constructor
    · rintro ⟨_, hreference, _, ⟨d, hd, hkind, rfl⟩, rfl, rfl⟩
      exact ⟨d, hd, rfl, hkind, hreference⟩
    · rintro ⟨d, hd, rfl, hkind, hreference⟩
      exact ⟨_, hreference, _, ⟨d, hd, hkind, rfl⟩, rfl, rfl⟩
  all_goals
    constructor
    · rintro ⟨foreignKey, hkey, info, hinfo, hedge⟩
      split at hedge
      · next hkind =>
        simp only [Option.map_eq_some_iff, Prod.mk.injEq, diffIndex_eq_some hnames] at hedge
        obtain ⟨_, ⟨d, hd, hadded, hname⟩, rfl, rfl⟩ := hedge
        exact .inl
          ⟨d, hd, rfl, hadded, .inr ⟨rfl, foreignKey, hkey, hkind, info, hinfo, hname.symm⟩⟩
      · next hkind =>
        simp only [Option.map_eq_some_iff, Prod.mk.injEq, diffIndex_eq_some hnames] at hedge
        obtain ⟨_, ⟨e, he, hremoved, hname⟩, rfl, rfl⟩ := hedge
        exact .inr
          ⟨e, he, rfl, hremoved, .inr ⟨rfl, foreignKey, hkey, hkind, info, hinfo, hname.symm⟩⟩
      · cases hedge
    · rintro (⟨d, hd, rfl, htype', ⟨⟨⟩, -⟩ | ⟨-, foreignKey, hkey, hkind, info, hinfo, hname⟩⟩ |
        ⟨d, hd, rfl, htype', ⟨⟨⟩, -⟩ | ⟨-, foreignKey, hkey, hkind, info, hinfo, hname⟩⟩)
      all_goals
        refine ⟨foreignKey, hkey, info, hinfo, ?_⟩
        rw [hkind, hname, (diffIndex_eq_some hnames).mpr ⟨d, hd, htype', rfl⟩]
        rfl

private theorem mem_edgesOf {i j : Nat} :
    (∃ entry ∈ diffs.zipIdx, (i, j) ∈ edgesOf x diffs (diffs.map (·.name)) entry) ↔
      ∃ d e, diffs[i]? = some d ∧ diffs[j]? = some e ∧ draws x (diffs.map (·.name)) d e := by
  simp only [Prod.exists, mem_zipIdx_iff_getElem?, mem_edgesOf_entry hnames, draws,
    Bool.or_eq_true, Bool.and_eq_true, decide_eq_true_eq, contains_iff_mem]
  constructor
  · rintro ⟨diff, _, hget, ⟨d, hd, rfl, hadded, h⟩ | ⟨e, he, rfl, hremoved, h⟩⟩
    · refine ⟨d, diff, hd, hget, ?_⟩
      rcases h with h | h <;> simp [hadded, h]
    · refine ⟨diff, e, hget, he, ?_⟩
      rcases h with h | h <;> simp [hremoved, h]
  · rintro ⟨d, e, hd, he, ((⟨⟨hadded, h⟩, hreference⟩ | ⟨⟨h, hremoved⟩, hreference⟩) |
      ⟨⟨hadded, hkeys⟩⟩) | ⟨⟨hremoved, hstays⟩, hkeys⟩⟩
    · exact ⟨e, j, he, .inl ⟨d, hd, rfl, hadded, .inl ⟨h, hreference⟩⟩⟩
    · exact ⟨d, i, hd, .inr ⟨e, he, rfl, hremoved, .inl ⟨h, hreference⟩⟩⟩
    · exact ⟨e, j, he, .inl ⟨d, hd, rfl, hadded.1, .inr ⟨hadded.2, hkeys⟩⟩⟩
    · exact ⟨d, i, hd, .inr ⟨e, he, rfl, hremoved, .inr ⟨hstays, hkeys⟩⟩⟩

private theorem mem_dependencyEdges {i j : Nat} : (i, j) ∈ dependencyEdges x diffs ↔
      ∃ d e, diffs[i]? = some d ∧ diffs[j]? = some e ∧ Draws x diffs d e := by
  rw [dependencyEdges, mem_foldl_addEdge]
  simp only [not_mem_nil, false_or, mem_flatMap, mem_edgesOf hnames]
  constructor
  · rintro ⟨⟨d, e, hi, hj, hdraws⟩, hne⟩
    refine ⟨d, e, hi, hj, mem_of_getElem? hi, mem_of_getElem? hj, ?_, hdraws⟩
    rintro rfl
    exact hne (name_injective hnames hi hj rfl)
  · rintro ⟨d, e, hi, hj, -, -, hne, hdraws⟩
    refine ⟨⟨d, e, hi, hj, hdraws⟩, ?_⟩
    rintro rfl
    exact hne (Option.some.inj (hi.symm.trans hj))

private theorem edgeList_dependencyEdges : EdgeList diffs.length (dependencyEdges x diffs) where
  nodup := nodup_foldl_addEdge nodup_nil
  bounded := by
    rintro ⟨i, j⟩ hedge
    obtain ⟨d, e, hi, hj, -⟩ := (mem_dependencyEdges hnames).mp hedge
    exact ⟨(List.getElem?_eq_some_iff.mp hi).1, (List.getElem?_eq_some_iff.mp hj).1⟩
  loopless edge hedge := ((mem_foldl_addEdge.mp hedge).resolve_left not_mem_nil).2

private theorem orderDiffsForExecution_eq : ∃ order, Greedy diffs (Draws x diffs) [] order ∧
    orderDiffsForExecution x diffs = completed diffs order := by
  let at_ (i : Nat) : TableDiff := diffs[i]?.getD { diffType := .none, name := [] }
  have hat {i : Nat} {d : TableDiff} (hi : diffs[i]? = some d) : at_ i = d := by simp [at_, hi]
  have hget {i : Nat} (hi : i ∈ range diffs.length) : diffs[i]? = some (at_ i) := by
    obtain ⟨d, hd⟩ : ∃ d, diffs[i]? = some d := ⟨_, getElem?_eq_getElem (by simpa using hi)⟩
    rw [hat hd, hd]
  have hnodes : (range diffs.length).map at_ = diffs := by
    refine ext_getElem? fun i => ?_
    by_cases hi : i < diffs.length
    · rw [getElem?_map, getElem?_range hi, Option.map_some, hget (by simpa using hi)]
    · simp [hi]
  have hinjective : ∀ i ∈ range diffs.length, ∀ j ∈ range diffs.length, at_ i = at_ j → i = j := by
    intro i hi j hj hij
    exact name_injective hnames (hget hi) (hget hj) (congrArg _ hij)
  have hedges := edgeList_dependencyEdges (x := x) hnames
  rw [orderDiffsForExecution]
  split
  · have hrun := kahn_greedy hedges
    have hsource (i j : Nat) (hedge : Edge (dependencyEdges x diffs) i j) :
        i ∈ range diffs.length := by
      simpa using (hedges.bounded _ hedge).1
    have hdraws (d : TableDiff) (j : Nat) (hj : j ∈ range diffs.length) :
        Draws x diffs d (at_ j) ↔ ∃ i, Edge (dependencyEdges x diffs) i j ∧ at_ i = d := by
      simp only [Edge, mem_dependencyEdges hnames]
      constructor
      · intro hd
        obtain ⟨i, hi⟩ := mem_iff_getElem?.mp hd.1
        exact ⟨i, ⟨d, at_ j, hi, hget hj, hd⟩, hat hi⟩
      · rintro ⟨i, ⟨d', e, hi, hj', hd⟩, rfl⟩
        rwa [hat hi, hat hj']
    have hmapped := hrun.map hinjective hsource hdraws (by simp)
    rw [hnodes] at hmapped
    refine ⟨_, hmapped, ?_⟩
    have hcompleted := completed_map hinjective hrun.subset
    rw [hnodes] at hcompleted
    rw [hcompleted]
    have hbounded : ∀ i ∈ completed (range diffs.length)
        (kahn diffs.length (dependencyEdges x diffs)), diffs[i]? = some (at_ i) := by
      intro i hi
      exact hget ((hrun.completed_perm nodup_range).mem_iff.mp hi)
    rw [filterMap_congr hbounded, filterMap_eq_map']
  · next hnone =>
    have hempty (d e : TableDiff) : ¬Draws x diffs d e := by
      rintro ⟨hd, he, -, hdraws⟩
      simp only [Bool.or_eq_true, any_eq_true, decide_eq_true_eq, not_or, not_exists,
        not_and] at hnone
      simp [draws, hnone.1 d hd, hnone.2 e he] at hdraws
    have hnodup : diffs.Nodup := List.Nodup.of_map _ hnames
    exact ⟨diffs, greedy_self hnodup hempty, by simp [completed]⟩

end Graph

/-! ### When the script runs -/

/-- Two differences whose statements must run in this order and are not on a dependency cycle. -/
def Needs (x : Externals) (schema : Option Text) (diffs : List TableDiff)
    (before after : TableDiff) : Prop :=
  before ∈ diffs ∧ after ∈ diffs ∧ before ≠ after ∧ mustPrecede schema before after ∧
    ¬(Relation.TransGen (Depends x schema diffs) before after ∧
      Relation.TransGen (Depends x schema diffs) after before)

/-- No edge of the graph leads to a difference without dependencies. -/
def IndependentUndrawn (x : Externals) (schema : Option Text) (diffs : List TableDiff) : Prop :=
  ∀ diff, Independent x schema diffs diff → ∀ other, ¬Draws x diffs other diff

/-- The condition under which the order is right: whatever must come first is settled to come
first by the graph and the given order, and so is the first of two differences without
dependencies. -/
structure Orderable (x : Externals) (schema : Option Text) (diffs : List TableDiff) : Prop where
  settles : ∀ before after, Needs x schema diffs before after →
    Settles diffs (Draws x diffs) before after
  undrawn : ∀ first second, Precedes diffs first second → Independent x schema diffs first →
    Independent x schema diffs second → Settles diffs (Draws x diffs) first second

private theorem settles_of_undrawn {x : Externals} {diffs : List TableDiff}
    {first second : TableDiff} (hfirst : ∀ other, ¬Draws x diffs other first)
    (hlisted : Precedes diffs first second) : Settles diffs (Draws x diffs) first second := by
  have hself {c : TableDiff} (hc : Relation.ReflTransGen (Draws x diffs) c first) : c = first := by
    rcases Relation.ReflTransGen.cases_tail_iff _ _ _ |>.mp hc with h | ⟨d, -, hd⟩
    · exact h.symm
    · exact absurd hd (hfirst d)
  refine .inl ⟨?_, .inr ?_⟩
  · rintro ⟨k, hcycle, hreach⟩
    obtain rfl := hself hreach
    obtain ⟨d, -, hd⟩ := tail'_iff.mp hcycle
    exact hfirst d hd
  · intro c hc
    rw [hself hc]
    exact .inl hlisted

/-- The order runs from top to bottom whenever the condition holds; and where every need is an
edge of the graph, only then. -/
theorem orderDiffsForExecution_runs (x : Externals) (schema : Option Text) (diffs : List TableDiff)
    (hnames : (diffs.map (·.name)).Nodup) :
    (Orderable x schema diffs → RunsTopToBottom x schema diffs (orderDiffsForExecution x diffs)) ∧
    ((∀ before after, Needs x schema diffs before after → Draws x diffs before after) →
      IndependentUndrawn x schema diffs →
      RunsTopToBottom x schema diffs (orderDiffsForExecution x diffs) →
      Orderable x schema diffs) := by
  obtain ⟨order, hrun, heq⟩ := orderDiffsForExecution_eq (x := x) hnames
  have hnodup : diffs.Nodup := List.Nodup.of_map _ hnames
  have hsource : ∀ d e, Draws x diffs d e → d ∈ diffs := fun d e hd => hd.1
  rw [heq]
  constructor
  · rintro ⟨hsettles, hundrawn⟩
    refine ⟨hrun.completed_perm hnodup, ?_, ?_⟩
    · intro before hbefore after hafter hne hmust hcycle
      exact hrun.completed_precedes hsource hnodup hbefore hafter
        (hsettles before after ⟨hbefore, hafter, hne, hmust, hcycle⟩)
    · intro first second hlisted hfirst hsecond
      exact hrun.completed_precedes hsource hnodup hlisted.mem.1 hlisted.mem.2
        (hundrawn first second hlisted hfirst hsecond)
  · intro hdrawn hundrawn hruns
    refine ⟨fun before after hneeds => ?_, fun first second hlisted hfirst _ =>
      settles_of_undrawn (hundrawn first hfirst) hlisted⟩
    obtain ⟨hbefore, hafter, hne, hmust, hcycle⟩ := id hneeds
    exact hrun.settles_of_edge hsource hnodup (hdrawn before after hneeds)
      (hruns.needs before hbefore after hafter hne hmust hcycle)

/-- A key `name` to the column `id` of a table. -/
def keyTo (name table : String) : SchemaForeignKeyInfo :=
  { name := name.toList, column := "ref", refSchema := none, refTable := table.toList,
    refColumn := "id", onUpdate := none, onDelete := none, columnPairs := [] }

/-- A new table `a` with a key to a new table `b` that is listed after it. -/
def childBeforeParent : List TableDiff :=
  [{ diffType := .added, objectType := some .table, name := "a",
     foreignKeys := some [⟨.added, "k", some (keyTo "k" "b"), none, []⟩] },
   { diffType := .added, objectType := some .table, name := "b" }]

/-- The parent is moved to the front. -/
theorem orderDiffsForExecution_runs_childBeforeParent :
    RunsTopToBottom .ascii none childBeforeParent
      (orderDiffsForExecution .ascii childBeforeParent) := by
  refine (orderDiffsForExecution_runs .ascii none childBeforeParent (by decide +kernel)).1 ?_
  have hdraws : ∀ d ∈ childBeforeParent, ∀ e ∈ childBeforeParent, d ≠ e →
      (mustPrecede none d e || draws .ascii (childBeforeParent.map (·.name)) d e) →
      mustPrecede none d e ∧ draws .ascii (childBeforeParent.map (·.name)) d e ∧
        d.name = "b" ∧ e.name = "a" := by decide +kernel
  have hdrawn (d e : TableDiff) (h : Draws .ascii childBeforeParent d e) :=
    hdraws d h.1 e h.2.1 h.2.2.1 (by simp [h.2.2.2])
  have hfree := not_stuck_of_rank (E := Draws .ascii childBeforeParent)
    (fun d => if d.name = "b" then 0 else 1) fun d e h => by
      obtain ⟨-, -, hd, he⟩ := hdrawn d e h
      simp [hd, he]
  refine ⟨?_, ?_⟩
  · rintro d e ⟨hd, he, hne, hmust, -⟩
    have hedge : Draws .ascii childBeforeParent d e :=
      ⟨hd, he, hne, (hdraws d hd e he hne (by simp [hmust])).2.1⟩
    exact .inl ⟨hfree d, .inr fun c hc => .inr (tail' hc hedge)⟩
  · intro first second hlisted hfirst _
    refine settles_of_undrawn (fun other h => (hfirst other).2 ?_) hlisted
    exact ⟨h.1, h.2.1, h.2.2.1, .inl (hdrawn other first h).1⟩

/-- A table `a` whose key is moved to a new table `b` that is listed after it. -/
def keyMovedToNewTable : List TableDiff :=
  [{ diffType := .modified, objectType := some .table, name := "a",
     foreignKeys := some
       [⟨.modified, "k", some (keyTo "k" "b"), some (keyTo "k" "c"), []⟩] },
   { diffType := .added, objectType := some .table, name := "b" }]

/-- The key is added before its table is there. -/
theorem orderDiffsForExecution_modifiedKey : (keyMovedToNewTable.map (·.name)).Nodup ∧
    ¬RunsTopToBottom .ascii none keyMovedToNewTable
      (orderDiffsForExecution .ascii keyMovedToNewTable) := by
  refine ⟨by decide +kernel, fun hruns => ?_⟩
  have hfacts : ∀ d ∈ keyMovedToNewTable, ∀ e ∈ keyMovedToNewTable, (mustPrecede none d e ∨
        viewPrecedes .ascii (keyMovedToNewTable.map (·.name)) d e) →
      d.diffType = .added ∧ e.diffType = .modified := by decide +kernel
  have hpair := hruns.needs keyMovedToNewTable[1] (by simp [keyMovedToNewTable])
    keyMovedToNewTable[0] (by simp [keyMovedToNewTable]) (by decide +kernel) (by decide +kernel) ?_
  · revert hpair
    rw [Precedes]
    decide +kernel
  · rintro ⟨-, hback⟩
    obtain ⟨c, hc, -⟩ := head'_iff.mp hback
    have htype := (hfacts _ hc.1 _ hc.2.1 hc.2.2.2).1
    simp [keyMovedToNewTable] at htype

end DbxSpec.Schema
