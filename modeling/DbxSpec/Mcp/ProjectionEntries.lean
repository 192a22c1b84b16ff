import DbxSpec.Mcp.Projection

/-!
# What the projection holds for one connection

The loop of `to_v1` over all rules, read at one connection: its entry is made of its own
connection rule and its own sub-scope rules, and normalisation finds exactly that entry again.
-/

namespace DbxSpec.Mcp

open DbxSpec.Base List

namespace McpAccessPolicy

/-! ### One connection in the draft -/

variable (p : McpAccessPolicy)

/-- The connection whose entry the loop changes for a rule. -/
def entryConnection (entry : McpRuleTarget × McpAccessRule) : Option Text :=
  match entry.1 with
  | .group _ => none
  | .connection id => some id
  | .scope connectionId _ _ => some connectionId

/-- The change. -/
def updateEntry (entry : McpRuleTarget × McpAccessRule) (policy : Option McpConnectionPolicy) :
    Option McpConnectionPolicy :=
  match entry.1 with
  | .group _ => policy
  | .connection id =>
    some (p.setConnectionPolicy id entry.2 (policy.getD (blankConnectionPolicy id)))
  | .scope connectionId scope value =>
    some (p.setScopePolicy connectionId scope value entry.2
      (policy.getD (blankConnectionPolicy connectionId)))

private theorem projectRules_connectionPolicies : p.projectRules.connectionPolicies =
      foldEntries entryConnection p.updateEntry p.rules.toList ∅ := by
  refine (foldl_hom ProjectionDraft.connectionPolicies fun draft entry => ?_).symm
  obtain ⟨target, rule⟩ := entry
  cases target with
  | group id => rfl
  | connection id =>
    simp only [entryConnection, projectRule, projectConnection]
    split
    · rfl
    · split <;> rfl
  | scope connectionId scope value => rfl

/-- What the lists of the draft say about the rules. -/
structure DraftSound (draft : ProjectionDraft) : Prop where
  isSome : draft.allowedConnectionIds.isSome = (p.visibility == .selected)
  connections : ∀ ids, draft.allowedConnectionIds = some ids → ∀ id ∈ ids,
    ∃ rule, p.connectionRule id = some rule ∧ rule.visible = some true
  groups : ∀ id ∈ draft.allowedGroupIds,
    ∃ rule, p.rule (.group id) = some rule ∧ rule.visible = some true

variable {entry : McpRuleTarget × McpAccessRule} {draft : ProjectionDraft} {rule : McpAccessRule}

private theorem projectRule_sound (hdraft : p.DraftSound draft)
    (hentry : p.rule entry.1 = some entry.2) : p.DraftSound (p.projectRule draft entry) := by
  obtain ⟨target, rule⟩ := entry
  obtain ⟨hisSome, hconnections, hgroups⟩ := hdraft
  cases target with
  | group id =>
    refine ⟨hisSome, hconnections, ?_⟩
    intro other hother
    simp only [projectRule, projectGroup] at hother
    split at hother
    · next hvisible =>
      simp only [Bool.and_eq_true, beq_iff_eq] at hvisible
      rcases mem_append.mp hother with hother | hother
      · exact hgroups other hother
      · obtain rfl : other = id := by simpa using hother
        exact ⟨rule, hentry, hvisible.1⟩
    · exact hgroups other hother
  | connection id =>
    simp only [projectRule, projectConnection]
    split
    · exact ⟨hisSome, hconnections, hgroups⟩
    split
    · next hvisible =>
      refine ⟨by simpa using hisSome, ?_, hgroups⟩
      intro ids hids other hother
      obtain ⟨earlier, hearlier, rfl⟩ := Option.map_eq_some_iff.mp hids
      rcases mem_append.mp hother with hother | hother
      · exact hconnections earlier hearlier other hother
      · obtain rfl : other = id := by simpa using hother
        exact ⟨rule, hentry, by simpa using hvisible⟩
    · exact ⟨hisSome, hconnections, hgroups⟩
  | scope connectionId scope value => exact ⟨hisSome, hconnections, hgroups⟩

/-- The entries are the rules. -/
theorem mem_rules_iff : entry ∈ p.rules.toList ↔ p.rule entry.1 = some entry.2 :=
  Std.TreeMap.mem_toList_iff_getElem?_eq_some

/-- The draft is sound. -/
theorem projectRules_sound : p.DraftSound p.projectRules := by
  refine foldlRecOn (motive := p.DraftSound) p.rules.toList p.projectRule ?_
    fun draft hdraft entry hentry => p.projectRule_sound hdraft (p.mem_rules_iff.mp hentry)
  refine ⟨?_, ?_, by simp⟩
  · cases p.visibility <;> rfl
  · intro ids hids
    split at hids
    · cases hids
      simp
    · cases hids

/-- A connection that the projection locks. -/
def Locks (id : Text) (rule : McpAccessRule) : Prop :=
  rule.denies ∨ p.projectedConnectionLevel id rule = some .none

private theorem mem_projectConnection_hidden {other : Text} {id : Text} :
    id ∈ (p.projectConnection other rule draft).hiddenConnections ↔
      id ∈ draft.hiddenConnections ∨ id = other ∧ p.Locks other rule := by
  have hidden : (p.projectConnection other rule draft).hiddenConnections =
      let hidden :=
        if rule.denies then draft.hiddenConnections ++ [other] else draft.hiddenConnections
      if p.projectedConnectionLevel other rule == some .none && !hidden.contains other
      then hidden ++ [other] else hidden := by
    unfold projectConnection
    cases rule.denies with
    | true => rfl
    | false => cases rule.visible == some true <;> rfl
  rw [hidden, Locks]
  by_cases hlevel : p.projectedConnectionLevel other rule = some .none
  · cases rule.denies with
    | true => simp [hlevel]
    | false =>
      by_cases hmem : other ∈ draft.hiddenConnections
      · simp only [hlevel, Bool.false_eq_true, if_false, contains_iff_mem.mpr hmem,
          Bool.not_true, Bool.and_false, or_true, and_true]
        refine ⟨.inl, ?_⟩
        rintro (hother | rfl)
        · exact hother
        · exact hmem
      · simp [hlevel, hmem]
  · cases rule.denies <;> simp [hlevel]

private theorem mem_projectRule_hidden {id : Text} :
    id ∈ (p.projectRule draft entry).hiddenConnections ↔
      id ∈ draft.hiddenConnections ∨ entry.1 = .connection id ∧ p.Locks id entry.2 := by
  obtain ⟨target, rule⟩ := entry
  cases target with
  | group other => simp [projectRule, projectGroup]
  | connection other =>
    rw [projectRule, mem_projectConnection_hidden]
    refine or_congr_right ⟨?_, ?_⟩
    · rintro ⟨rfl, hlocks⟩
      exact ⟨rfl, hlocks⟩
    · rintro ⟨heq, hlocks⟩
      cases heq
      exact ⟨rfl, hlocks⟩
  | scope connectionId scope value => simp [projectRule]

/-- Hidden connections are locked by a rule. -/
theorem mem_hiddenConnections {id : Text} : id ∈ p.projectRules.hiddenConnections ↔
    ∃ rule, p.connectionRule id = some rule ∧ p.Locks id rule := by
  have hfold : ∀ (entries : List (McpRuleTarget × McpAccessRule)) (draft : ProjectionDraft),
      id ∈ (entries.foldl p.projectRule draft).hiddenConnections ↔ id ∈ draft.hiddenConnections ∨
          ∃ entry ∈ entries, entry.1 = .connection id ∧ p.Locks id entry.2 := by
    intro entries
    induction entries with
    | nil => simp
    | cons entry entries ih =>
      intro draft
      simp only [foldl_cons, ih, mem_projectRule_hidden, mem_cons, exists_eq_or_imp, or_assoc]
  rw [projectRules, hfold]
  simp only [not_mem_nil, false_or]
  constructor
  · rintro ⟨⟨target, rule⟩, hentry, rfl, hlocks⟩
    exact ⟨rule, p.mem_rules_iff.mp hentry, hlocks⟩
  · rintro ⟨rule, hrule, hlocks⟩
    exact ⟨(.connection id, rule), p.mem_rules_iff.mpr hrule, rfl, hlocks⟩

/-- The group policy of a rule. -/
def groupPolicyOf (entry : McpRuleTarget × McpAccessRule) : Option McpGroupPolicy :=
  match entry.1 with
  | .group id => entry.2.access.map fun level =>
    { groupId := id, readOnly := (max level .read).toFlags.1,
      allowDangerousSql := (max level .read).toFlags.2 }
  | _ => none

/-- Group rules are projected one by one. -/
theorem projectRules_groupPolicies :
    p.projectRules.groupPolicies = p.rules.toList.filterMap groupPolicyOf := by
  have hfold : ∀ (entries : List (McpRuleTarget × McpAccessRule)) (draft : ProjectionDraft),
      (entries.foldl p.projectRule draft).groupPolicies =
        draft.groupPolicies ++ entries.filterMap groupPolicyOf := by
    intro entries
    induction entries with
    | nil => simp
    | cons entry entries ih =>
      intro draft
      obtain ⟨target, rule⟩ := entry
      rw [foldl_cons, ih]
      cases target with
      | group id =>
        cases haccess : rule.access <;>
          simp [projectRule, projectGroup, groupPolicyOf, haccess]
      | connection id =>
        simp only [projectRule, projectConnection, groupPolicyOf, filterMap_cons]
        split
        · rfl
        · split <;> rfl
      | scope connectionId scope value => rfl
  rw [projectRules, hfold]
  rfl

/-! ### The entry of one connection -/

/-- The sub-scope rules of a connection, in their order. -/
def scopeRules (connectionId : Text) : List (McpRuleTarget × McpAccessRule) :=
  p.rules.toList.filter fun entry => match entry.1 with
    | .scope id _ _ => id = connectionId
    | _ => false

private theorem filter_entryConnection (connectionId : Text) :
    p.rules.toList.filter (fun entry => entryConnection entry = some connectionId) =
      (p.connectionRule connectionId).toList.map (.connection connectionId, ·) ++
        p.scopeRules connectionId := by
  have hsplit : (fun entry : McpRuleTarget × McpAccessRule =>
      decide (entryConnection entry = some connectionId)) =
        fun entry => decide (entry.1 = .connection connectionId) || (match entry.1 with
            | .scope id _ _ => decide (id = connectionId)
            | _ => false) := by
    funext ⟨target, rule⟩
    cases target <;> simp [entryConnection]
  rw [hsplit, filter_or_eq_append (r := fun a b => McpRuleTarget.order a.1 b.1 = .lt)
    Std.TreeMap.ordered_keys_toList ?_ ?_, filter_toList_eq]
  · rfl
  · rintro ⟨a, rule⟩ ⟨b, rule'⟩ hlt hscope
    cases a with
    | group id | connection id => cases hscope
    | scope id scope value =>
      refine decide_eq_false ?_
      rintro rfl
      cases hlt
  · rintro ⟨target, rule⟩ hconnection
    obtain rfl : target = .connection connectionId := by simpa using hconnection
    rfl

/-- A sub-scope rule applied to the entry of its connection. -/
def setScopeRule (policy : McpConnectionPolicy) (entry : McpRuleTarget × McpAccessRule) :
    McpConnectionPolicy :=
  match entry.1 with
  | .scope connectionId scope value => p.setScopePolicy connectionId scope value entry.2 policy
  | _ => policy

/-- The entry of a connection before its sub-scope rules. -/
def basePolicy (connectionId : Text) : McpConnectionPolicy :=
  match p.connectionRule connectionId with
  | some rule => p.setConnectionPolicy connectionId rule (blankConnectionPolicy connectionId)
  | none => blankConnectionPolicy connectionId

/-- The entry of a connection after all of its rules. -/
def draftPolicy (connectionId : Text) : McpConnectionPolicy :=
  (p.scopeRules connectionId).foldl p.setScopeRule (p.basePolicy connectionId)

variable {connectionId : Text}

private theorem foldl_updateEntry {entries : List (McpRuleTarget × McpAccessRule)}
    (hentries : ∀ entry ∈ entries, ∃ scope value, entry.1 = .scope connectionId scope value)
    (policy : McpConnectionPolicy) :
    entries.foldl (fun policy entry => p.updateEntry entry policy) (some policy) =
      some (entries.foldl p.setScopeRule policy) := by
  induction entries generalizing policy with
  | nil => rfl
  | cons entry entries ih =>
    obtain ⟨⟨scope, value, hentry⟩, hrest⟩ := forall_mem_cons.mp hentries
    simp only [foldl_cons, ← ih hrest]
    simp [updateEntry, setScopeRule, hentry]

private theorem scopeRules_target (hentry : entry ∈ p.scopeRules connectionId) :
    ∃ scope value, entry.1 = .scope connectionId scope value := by
  obtain ⟨target, rule⟩ := entry
  have hscope := (mem_filter.mp hentry).2
  cases target with
  | group id | connection id => cases hscope
  | scope id scope value =>
    obtain rfl : id = connectionId := by simpa using hscope
    exact ⟨scope, value, rfl⟩

/-- The loop leaves an entry for the connections that some rule names, and that entry is made of
the rules of the connection alone. -/
theorem projectRules_entry : p.projectRules.connectionPolicies[connectionId]? =
      if p.connectionRule connectionId = none ∧ p.scopeRules connectionId = [] then none
      else some (p.draftPolicy connectionId) := by
  rw [projectRules_connectionPolicies, getElem?_foldEntries, filter_entryConnection,
    foldl_append, Std.TreeMap.getElem?_emptyc, draftPolicy, basePolicy]
  have hscopes : ∀ entry ∈ p.scopeRules connectionId,
      ∃ scope value, entry.1 = .scope connectionId scope value :=
    fun entry => p.scopeRules_target
  cases hrule : p.connectionRule connectionId with
  | some rule =>
    exact p.foldl_updateEntry hscopes _
  | none =>
    rcases hlist : p.scopeRules connectionId with _ | ⟨entry, entries⟩
    · rfl
    rw [hlist] at hscopes
    obtain ⟨⟨scope, value, hentry⟩, hrest⟩ := forall_mem_cons.mp hscopes
    simp only [Option.toList_none, map_nil, foldl_nil, foldl_cons]
    rw [← p.foldl_updateEntry hrest]
    simp [updateEntry, setScopeRule, hentry]

/-! ### What the sub-scope rules leave -/

/-- A rule of a kind that v1 does not know closes the scope. -/
def closesScope (entry : McpRuleTarget × McpAccessRule) : Bool :=
  match entry.1 with
  | .scope _ scope _ =>
    scope ≠ databaseScopeKind &&
      (entry.2.visible == some false || entry.2.access.isSome || entry.2.ceiling.isSome)
  | _ => false

/-- The database that a rule lists. -/
def listedDatabase (entry : McpRuleTarget × McpAccessRule) : Option Text :=
  match entry.1 with
  | .scope _ scope value =>
    if scope = databaseScopeKind ∧ entry.2.visible = some true ∧ entry.2.denies = false
    then some value else none
  | _ => none

/-- The database policy of a rule. -/
def databasePolicyOf (entry : McpRuleTarget × McpAccessRule) : Option McpDatabasePolicy :=
  match entry.1 with
  | .scope connectionId scope value =>
    if scope = databaseScopeKind ∧ entry.2.denies = false then
      (p.projectedDatabaseLevel connectionId entry.2).map fun level =>
        { databaseName := value, readOnly := (max level .read).toFlags.1,
          allowDangerousSql := (max level .read).toFlags.2 }
    else none
  | _ => none

variable (policy : McpConnectionPolicy) {database : Text}

private theorem setScopeRule_eq (entry : McpRuleTarget × McpAccessRule) :
    p.setScopeRule policy entry =
      { policy with
        databaseScope := if closesScope entry then .none else policy.databaseScope
        allowedDatabases := policy.allowedDatabases ++ (listedDatabase entry).toList
        databasePolicies := policy.databasePolicies ++ (p.databasePolicyOf entry).toList } := by
  obtain ⟨target, rule⟩ := entry
  cases target with
  | group id | connection id => simp [setScopeRule, closesScope, listedDatabase, databasePolicyOf]
  | scope connectionId scope value =>
    by_cases hkind : scope = databaseScopeKind
    · simp only [setScopeRule, setScopePolicy, closesScope, listedDatabase, databasePolicyOf, hkind,
        true_and]
      cases hdenies : rule.denies <;> cases hlevel : p.projectedDatabaseLevel connectionId rule <;>
        by_cases hvisible : rule.visible = some true <;> simp [hvisible]
    · simp only [setScopeRule, setScopePolicy, closesScope, listedDatabase, databasePolicyOf, hkind,
        ne_eq, not_false_eq_true, if_true, false_and, if_false, decide_true, Bool.true_and]
      split <;> simp

private theorem foldl_setScopeRule (entries : List (McpRuleTarget × McpAccessRule))
    (policy : McpConnectionPolicy) :
    entries.foldl p.setScopeRule policy = { policy with
        databaseScope := if entries.any closesScope then .none else policy.databaseScope
        allowedDatabases := policy.allowedDatabases ++ entries.filterMap listedDatabase
        databasePolicies := policy.databasePolicies ++ entries.filterMap p.databasePolicyOf } := by
  induction entries generalizing policy with
  | nil => simp
  | cons entry entries ih =>
    rw [foldl_cons, ih, setScopeRule_eq]
    have hscope : (if entries.any closesScope then McpDatabaseScope.none
        else if closesScope entry then .none else policy.databaseScope) =
          if (entry :: entries).any closesScope then .none else policy.databaseScope := by
      rw [any_cons]
      cases closesScope entry with
      | false => rfl
      | true => split <;> rfl
    cases hlisted : listedDatabase entry <;> cases hpolicy : p.databasePolicyOf entry <;>
      simp [hlisted, hpolicy, hscope]

private theorem setConnectionPolicy_frame (id : Text) (rule : McpAccessRule)
    (policy : McpConnectionPolicy) :
    (p.setConnectionPolicy id rule policy).connectionId = policy.connectionId ∧
      (p.setConnectionPolicy id rule policy).executionModePolicyVersion =
        policy.executionModePolicyVersion ∧
      (p.setConnectionPolicy id rule policy).allowedDatabases = policy.allowedDatabases ∧
      (p.setConnectionPolicy id rule policy).databasePolicies = policy.databasePolicies ∧
      (p.setConnectionPolicy id rule policy).databaseScope =
        (rule.subScope.getD .all).toDatabaseScope := by
  unfold setConnectionPolicy
  cases p.projectedConnectionLevel id rule <;> simp

private theorem basePolicy_frame : (p.basePolicy connectionId).connectionId = connectionId ∧
      (p.basePolicy connectionId).executionModePolicyVersion = some mcpExecutionPolicyVersion ∧
      (p.basePolicy connectionId).allowedDatabases = [] ∧
      (p.basePolicy connectionId).databasePolicies = [] ∧
      (p.basePolicy connectionId).databaseScope =
        (p.subScopeMode connectionId).toDatabaseScope := by
  unfold basePolicy subScopeMode
  cases p.connectionRule connectionId with
  | none => exact ⟨rfl, rfl, rfl, rfl, rfl⟩
  | some rule => exact p.setConnectionPolicy_frame connectionId rule _

private theorem draftPolicy_eq : p.draftPolicy connectionId = { p.basePolicy connectionId with
        databaseScope :=
          if (p.scopeRules connectionId).any closesScope then .none
          else (p.subScopeMode connectionId).toDatabaseScope
        allowedDatabases := (p.scopeRules connectionId).filterMap listedDatabase
        databasePolicies := (p.scopeRules connectionId).filterMap p.databasePolicyOf } := by
  obtain ⟨-, -, hallowed, hpolicies, hscope⟩ := @basePolicy_frame p connectionId
  rw [draftPolicy, foldl_setScopeRule, hallowed, hpolicies, hscope, nil_append, nil_append]

private theorem draftPolicy_allowedDatabases : (p.draftPolicy connectionId).allowedDatabases =
      (p.scopeRules connectionId).filterMap listedDatabase := by
  rw [draftPolicy_eq]

private theorem draftPolicy_databasePolicies : (p.draftPolicy connectionId).databasePolicies =
      (p.scopeRules connectionId).filterMap p.databasePolicyOf := by
  rw [draftPolicy_eq]

private theorem mem_listedDatabases :
    database ∈ (p.scopeRules connectionId).filterMap listedDatabase ↔
      ∃ rule, p.rule (.scope connectionId databaseScopeKind database) = some rule ∧
        rule.visible = some true ∧ rule.denies = false := by
  constructor
  · intro hmem
    obtain ⟨⟨target, rule⟩, hentry, hlisted⟩ := mem_filterMap.mp hmem
    obtain ⟨scope, value, rfl⟩ := p.scopeRules_target hentry
    simp only [listedDatabase] at hlisted
    split at hlisted
    · next hrule =>
      cases hlisted
      obtain ⟨rfl, hvisible, hdenies⟩ := hrule
      exact ⟨rule, p.mem_rules_iff.mp (mem_filter.mp hentry).1, hvisible, hdenies⟩
    · cases hlisted
  · rintro ⟨rule, hrule, hvisible, hdenies⟩
    refine mem_filterMap.mpr ⟨(.scope connectionId databaseScopeKind database, rule), ?_, ?_⟩
    · exact mem_filter.mpr ⟨p.mem_rules_iff.mpr hrule, by simp⟩
    · simp [listedDatabase, hvisible, hdenies]

private theorem filter_databasePolicies (connectionId database : Text) :
    ((p.scopeRules connectionId).filterMap p.databasePolicyOf).filter
        (fun policy => policy.databaseName = database) =
      ((p.rule (.scope connectionId databaseScopeKind database)).bind fun rule =>
        p.databasePolicyOf (.scope connectionId databaseScopeKind database, rule)).toList := by
  rw [scopeRules, filterMap_filter, filter_filterMap_toList
    (k := McpRuleTarget.scope connectionId databaseScopeKind database)]
  · simp [rule]
  · rintro ⟨target, rule⟩ -
    cases target with
    | group id | connection id => simp
    | scope id scope value =>
      by_cases hid : id = connectionId
      · by_cases hkind : scope = databaseScopeKind
        · by_cases hvalue : value = database <;>
            cases hlevel : p.projectedDatabaseLevel connectionId rule <;>
            cases hdenies : rule.denies <;>
            simp [databasePolicyOf, hid, hkind, hvalue, hlevel, hdenies]
        · simp [databasePolicyOf, hid, hkind]
      · simp [hid]

/-! ### One connection in the projection -/

/-- Every id, sub-scope kind and value of the rules is trimmed and not empty. -/
def WellKeyed : Prop := ∀ entry ∈ p.rules.toList, ∀ field ∈ entry.1.fields, Trimmed field
  deriving Decidable

variable {p}

/-- The names in a rule are trimmed. -/
theorem WellKeyed.of_rule (hkeys : p.WellKeyed) {target : McpRuleTarget}
    (hrule : p.rule target = some rule) : ∀ field ∈ target.fields, Trimmed field :=
  hkeys (target, rule) (p.mem_rules_iff.mpr hrule)

private theorem promoteScope_connectionId :
    (p.promoteScope policy).connectionId = policy.connectionId := by
  unfold promoteScope
  split <;> rfl

private theorem draftPolicy_connectionId :
    (p.draftPolicy connectionId).connectionId = connectionId := by
  rw [draftPolicy_eq]
  exact p.basePolicy_frame.1

private theorem promoted_entry {k : Text} {policy : McpConnectionPolicy}
    (h : (p.projectRules.connectionPolicies.map fun _ policy => p.promoteScope policy)[k]? =
      some policy) : policy.connectionId = k := by
  rw [Std.TreeMap.getElem?_map, projectRules_entry] at h
  split at h
  · cases h
  · cases h
    rw [promoteScope_connectionId, draftPolicy_connectionId]

private theorem lockedPolicies_connectionId : ∀ (k : Text) (policy : McpConnectionPolicy),
    p.lockedPolicies[k]? = some policy → policy.connectionId = k := by
  refine foldEntries_invariant (fun k policy => promoted_entry) ?_
  intro id k entry policy hkey hentry hpolicy
  cases hkey
  cases hpolicy
  cases entry with
  | none => rfl
  | some earlier => exact hentry earlier rfl

private theorem lockedPolicies_trimmed (hkeys : p.WellKeyed) {k : Text}
    {policy : McpConnectionPolicy} (h : p.lockedPolicies[k]? = some policy) : Trimmed k := by
  rcases foldEntries_source h with hpromoted | ⟨id, hhidden, hid⟩
  · rw [Std.TreeMap.getElem?_map, projectRules_entry] at hpromoted
    split at hpromoted
    · cases hpromoted
    next hrules =>
    cases hrule : p.connectionRule k with
    | some rule => exact hkeys.of_rule hrule k (by simp [McpRuleTarget.fields])
    | none =>
      obtain ⟨entry, hentry⟩ := exists_mem_of_ne_nil _ fun hnil => hrules ⟨hrule, hnil⟩
      obtain ⟨scope, value, htarget⟩ := p.scopeRules_target hentry
      refine hkeys entry (mem_filter.mp hentry).1 k ?_
      rw [htarget]
      simp [McpRuleTarget.fields]
  · obtain rfl : id = k := by simpa using hid
    obtain ⟨rule, hrule, -⟩ := p.mem_hiddenConnections.mp hhidden
    exact hkeys.of_rule hrule id (by simp [McpRuleTarget.fields])

/-- The projected rule of a connection is its entry, normalised. -/
theorem toV1_connectionPolicy (hkeys : p.WellKeyed) (connectionId : Text) :
    p.toV1.connectionPolicy connectionId =
      (p.lockedPolicies[connectionId]?).map fun policy => (policy.enter connectionId).close := by
  refine find?_normalizeConnectionPolicies ?_ (filter_values lockedPolicies_connectionId _)
  intro policy hpolicy
  obtain ⟨⟨k, policy⟩, hentry, rfl⟩ := mem_map.mp hpolicy
  have hget := Std.TreeMap.mem_toList_iff_getElem?_eq_some.mp hentry
  rw [lockedPolicies_connectionId k policy hget]
  exact lockedPolicies_trimmed hkeys hget

private theorem lockedPolicies_of_not_hidden
    (hhidden : connectionId ∉ p.projectRules.hiddenConnections) :
    p.lockedPolicies[connectionId]? =
      if p.connectionRule connectionId = none ∧ p.scopeRules connectionId = [] then none
      else some (p.promoteScope (p.draftPolicy connectionId)) := by
  have hnone : p.projectRules.hiddenConnections.filter (fun id => some id = some connectionId) =
      [] := by
    rw [filter_eq_nil_iff]
    rintro id hid heq
    obtain rfl : id = connectionId := by simpa using heq
    exact hhidden hid
  rw [lockedPolicies, getElem?_foldEntries, hnone, foldl_nil, Std.TreeMap.getElem?_map,
    projectRules_entry]
  split <;> rfl

/-- A hidden connection is locked. -/
theorem lockedPolicies_of_hidden (hhidden : connectionId ∈ p.projectRules.hiddenConnections) :
    ∃ policy, p.lockedPolicies[connectionId]? = some (lockConnectionPolicy policy) := by
  have hmem : connectionId ∈ p.projectRules.hiddenConnections.filter
      (fun id => some id = some connectionId) := mem_filter.mpr ⟨hhidden, by simp⟩
  obtain ⟨earlier, last, hsplit⟩ := eq_nil_or_concat _ |>.resolve_left (ne_nil_of_mem hmem)
  rw [lockedPolicies, getElem?_foldEntries, hsplit, concat_eq_append, foldl_append]
  exact ⟨_, rfl⟩

variable (p) in
/-- The projected rule of a connection that is not hidden. -/
def projectedPolicy (connectionId : Text) : McpConnectionPolicy :=
  ((p.promoteScope (p.draftPolicy connectionId)).enter connectionId).close

/-- The policy of a connection that is not hidden. -/
theorem toV1_connectionPolicy_of_not_hidden (hkeys : p.WellKeyed)
    (hhidden : connectionId ∉ p.projectRules.hiddenConnections) :
    p.toV1.connectionPolicy connectionId =
      if p.connectionRule connectionId = none ∧ p.scopeRules connectionId = [] then none
      else some (p.projectedPolicy connectionId) := by
  rw [toV1_connectionPolicy hkeys, lockedPolicies_of_not_hidden hhidden]
  split <;> rfl

private theorem promoteScope_eq : p.promoteScope policy = { policy with
        databaseScope := (p.promoteScope policy).databaseScope
        databasePolicies := (p.promoteScope policy).databasePolicies } := by
  unfold promoteScope
  split <;> rfl

/-- The execution mode and the Salesforce switch come from the connection rule. -/
theorem projectedPolicy_frame (connectionId : Text) :
    (p.projectedPolicy connectionId).executionModePolicyVersion = some mcpExecutionPolicyVersion ∧
      (p.projectedPolicy connectionId).executionModeConfigured =
        (p.basePolicy connectionId).executionModeConfigured ∧
      (p.projectedPolicy connectionId).readOnly = (p.basePolicy connectionId).readOnly ∧
      (p.projectedPolicy connectionId).allowDangerousSql = (!(p.basePolicy connectionId).readOnly &&
          (p.basePolicy connectionId).allowDangerousSql) ∧
      (p.projectedPolicy connectionId).allowSalesforceDml =
        (!(p.basePolicy connectionId).readOnly &&
          (p.basePolicy connectionId).allowSalesforceDml) := by
  rw [projectedPolicy, promoteScope_eq, draftPolicy_eq]
  exact ⟨p.basePolicy_frame.2.1, rfl, rfl, rfl, rfl⟩

private theorem exists_databaseRule_iff :
    p.rules.toList.any (fun entry => isDatabaseRuleOf connectionId entry.1) ↔
      ∃ database rule, p.rule (.scope connectionId databaseScopeKind database) = some rule := by
  simp only [any_eq_true]
  constructor
  · rintro ⟨⟨target, rule⟩, hentry, hof⟩
    cases target with
    | group id | connection id => cases hof
    | scope id scope value =>
      simp only [isDatabaseRuleOf, Bool.and_eq_true, beq_iff_eq] at hof
      obtain ⟨rfl, rfl⟩ := hof
      exact ⟨value, rule, p.mem_rules_iff.mp hentry⟩
  · rintro ⟨database, rule, hrule⟩
    exact ⟨(_, rule), p.mem_rules_iff.mpr hrule, by simp [isDatabaseRuleOf]⟩

/-- How an open scope of the projection came about. -/
theorem projectedPolicy_scope (hopen : (p.projectedPolicy connectionId).databaseScope ≠ .none) :
    (p.projectedPolicy connectionId).databaseScope = .all ∧ p.subScopeMode connectionId = .all ∧
        (∀ database, p.rule (.scope connectionId databaseScopeKind database) = none) ∨
      (p.projectedPolicy connectionId).databaseScope = .selected ∧
        p.subScopeMode connectionId ≠ .none := by
  have hscope : (p.projectedPolicy connectionId).databaseScope =
      (p.promoteScope (p.draftPolicy connectionId)).databaseScope := rfl
  have hdraft : (p.draftPolicy connectionId).databaseScope ≠ .none →
      (p.draftPolicy connectionId).databaseScope =
        (p.subScopeMode connectionId).toDatabaseScope := by
    rw [draftPolicy_eq]
    split
    · exact fun h => absurd rfl h
    · exact fun _ => rfl
  rw [hscope] at hopen ⊢
  unfold promoteScope at hopen ⊢
  rw [draftPolicy_connectionId] at hopen ⊢
  split at hopen <;> rename_i hpromoted
  · rw [if_pos hpromoted]
    simp only [Bool.and_eq_true, decide_eq_true_eq] at hpromoted
    refine .inr ⟨rfl, fun hmode => ?_⟩
    have := hdraft (by simp [hpromoted.1])
    rw [hpromoted.1, hmode] at this
    cases this
  · rw [if_neg hpromoted]
    have hmode := hdraft hopen
    cases hmodeCase : p.subScopeMode connectionId with
    | none =>
      rw [hmode, hmodeCase] at hopen
      exact absurd rfl hopen
    | selected =>
      rw [hmode, hmodeCase]
      exact .inr ⟨rfl, by simp⟩
    | all =>
      rw [hmodeCase] at hmode
      refine .inl ⟨hmode, rfl, fun database => ?_⟩
      rcases hrule : p.rule (.scope connectionId databaseScopeKind database) with _ | rule
      · rfl
      exact absurd (by
        simp [hmode, McpSubScopeMode.toDatabaseScope,
          exists_databaseRule_iff.mpr ⟨database, rule, hrule⟩]) hpromoted

private theorem listedDatabases_trimmed (hkeys : p.WellKeyed)
    (h : database ∈ (p.scopeRules connectionId).filterMap listedDatabase) : Trimmed database := by
  obtain ⟨rule, hrule, -⟩ := p.mem_listedDatabases.mp h
  exact hkeys.of_rule hrule database (by simp [McpRuleTarget.fields])

/-- The databases that a selection of the projection lists. -/
theorem mem_projectedPolicy_allowedDatabases (hkeys : p.WellKeyed)
    (hscope : (p.projectedPolicy connectionId).databaseScope = .selected) :
    database ∈ (p.projectedPolicy connectionId).allowedDatabases ↔
      ∃ rule, p.rule (.scope connectionId databaseScopeKind database) = some rule ∧
        rule.visible = some true ∧ rule.denies = false := by
  have hlisted : (p.promoteScope (p.draftPolicy connectionId)).allowedDatabases =
      (p.scopeRules connectionId).filterMap listedDatabase := by
    rw [promoteScope_eq, draftPolicy_eq]
  have hallowed : (p.projectedPolicy connectionId).allowedDatabases =
      normalizeMcpIds (normalizeMcpIds ((p.scopeRules connectionId).filterMap listedDatabase)) := by
    rw [← hlisted]
    exact if_pos hscope
  have htrimmed : ∀ database ∈ (p.scopeRules connectionId).filterMap listedDatabase,
      Trimmed database := fun database => listedDatabases_trimmed hkeys
  rw [hallowed, mem_normalizeMcpIds, mem_normalizeMcpIds htrimmed, mem_listedDatabases]
  intro database hdatabase
  exact htrimmed database ((mem_normalizeMcpIds htrimmed).mp hdatabase)

private theorem filter_promoted_databasePolicies
    (hlisted : database ∈ (p.scopeRules connectionId).filterMap listedDatabase) :
    (p.promoteScope (p.draftPolicy connectionId)).databasePolicies.filter
        (fun policy => policy.databaseName = database) =
      ((p.rule (.scope connectionId databaseScopeKind database)).bind fun rule =>
        p.databasePolicyOf (.scope connectionId databaseScopeKind database, rule)).toList := by
  rw [← filter_databasePolicies]
  unfold promoteScope
  split
  · rw [filter_filter, draftPolicy_allowedDatabases, draftPolicy_databasePolicies]
    refine filter_congr fun policy _ => ?_
    by_cases hname : policy.databaseName = database
    · simp only [hname, decide_true, Bool.true_and, contains_iff_mem]
      exact hlisted
    · simp [hname]
  · rw [draftPolicy_databasePolicies]

/-- The policy of a listed database comes from the rule of that database. -/
theorem find?_projectedPolicy_databasePolicies (hkeys : p.WellKeyed)
    (hscope : (p.projectedPolicy connectionId).databaseScope = .selected)
    (hlisted : database ∈ (p.projectedPolicy connectionId).allowedDatabases) :
    (p.projectedPolicy connectionId).databasePolicies.find?
        (fun policy => policy.databaseName = database) =
      ((p.rule (.scope connectionId databaseScopeKind database)).bind fun rule =>
        p.databasePolicyOf (.scope connectionId databaseScopeKind database, rule)).map fun policy =>
            { databaseName := database, readOnly := policy.readOnly,
              allowDangerousSql := !policy.readOnly && policy.allowDangerousSql } := by
  have hrule := p.mem_listedDatabases.mpr
    ((mem_projectedPolicy_allowedDatabases hkeys hscope).mp hlisted)
  have htrimmed : ∀ policy ∈ (p.promoteScope (p.draftPolicy connectionId)).databasePolicies,
      Trimmed policy.databaseName := by
    intro policy hpolicy
    have hdraft : policy ∈ (p.scopeRules connectionId).filterMap p.databasePolicyOf := by
      rw [← draftPolicy_databasePolicies]
      unfold promoteScope at hpolicy
      split at hpolicy
      · exact (mem_filter.mp hpolicy).1
      · exact hpolicy
    obtain ⟨⟨target, rule⟩, hentry, hof⟩ := mem_filterMap.mp hdraft
    obtain ⟨scope, value, rfl⟩ := p.scopeRules_target hentry
    simp only [databasePolicyOf] at hof
    split at hof
    · obtain ⟨level, -, rfl⟩ := Option.map_eq_some_iff.mp hof
      exact hkeys _ (mem_filter.mp hentry).1 value (by simp [McpRuleTarget.fields])
    · cases hof
  rw [← find?_normalizeMcpDatabasePolicies htrimmed (filter_promoted_databasePolicies hrule)]
  have hpolicies : (p.projectedPolicy connectionId).databasePolicies = (normalizeMcpDatabasePolicies
        (p.promoteScope (p.draftPolicy connectionId)).databasePolicies).filter
          fun policy => (p.projectedPolicy connectionId).allowedDatabases.contains
            policy.databaseName := by
    have hentered : ((p.promoteScope (p.draftPolicy connectionId)).enter
        connectionId).databaseScope = .selected := hscope
    simp only [projectedPolicy, McpConnectionPolicy.close]
    rw [if_pos hentered, if_pos hentered]
    rfl
  rw [hpolicies, ← head?_filter, ← head?_filter, filter_filter]
  refine congrArg head? (filter_congr fun policy _ => ?_)
  by_cases hname : policy.databaseName = database
  · simpa [hname] using hlisted
  · simp [hname]

end McpAccessPolicy

end DbxSpec.Mcp
