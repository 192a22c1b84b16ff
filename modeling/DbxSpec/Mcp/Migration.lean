import DbxSpec.Mcp.Access
import DbxSpec.Mcp.Normalized

/-!
# Migrating the persisted policy

`McpAccessPolicy::from_v1` of `crates/dbx-core/src/ai/mcp_access.rs:508-579`, and that the
policy it builds decides as the persisted one does. The statements of `from_v1` that fill the
rule map are kept as a list of edits, in their order.
-/

namespace DbxSpec.Mcp

open DbxSpec.Base McpConnectionPolicy List McpAccessRule Function

/-! ### The edits -/

/-- `mcp_access.rs:159`, the derived `Default`. -/
def McpAccessRule.blank : McpAccessRule :=
  { access := none, ceiling := none, visible := none, subScope := none, toolsetCeilings := ∅ }

/-- `rules.entry(target).or_default()` and the assignments to what it returns. -/
abbrev RuleEdit := McpRuleTarget × (McpAccessRule → McpAccessRule)

/-- `….visible = Some(true)`. -/
def McpAccessRule.makeVisible (rule : McpAccessRule) : McpAccessRule :=
  { rule with visible := some true }

/-- `mcp_access.rs:526`, `547` and `565`: a versioned level overrides what is inherited, an
unversioned one only caps it. -/
def McpAccessRule.setLevel (rule : McpAccessRule) (versioned : Bool) (level : McpAccessLevel) :
    McpAccessRule :=
  if versioned then { rule with access := some level } else { rule with ceiling := some level }

/-- `mcp_access.rs:529`. -/
def McpConnectionPolicy.versioned (connection : McpConnectionPolicy) : Bool :=
  connection.executionModePolicyVersion = some mcpExecutionPolicyVersion

/-- `mcp_access.rs:531`. -/
def McpConnectionPolicy.level (connection : McpConnectionPolicy) : McpAccessLevel :=
  .fromFlags connection.readOnly connection.allowDangerousSql

/-- `mcp_access.rs:562`. -/
def McpDatabasePolicy.level (databasePolicy : McpDatabasePolicy) : McpAccessLevel :=
  .fromFlags databasePolicy.readOnly databasePolicy.allowDangerousSql

/-- `mcp_access.rs:534`. -/
def McpDatabaseScope.subScopeMode : McpDatabaseScope → McpSubScopeMode
  | .all => .all
  | .selected => .selected
  | .none => .none

/-- `mcp_access.rs:532-555`. -/
def McpConnectionPolicy.setRule (connection : McpConnectionPolicy) (rule : McpAccessRule) :
    McpAccessRule :=
  let rule := { rule with subScope := some connection.databaseScope.subScopeMode }
  let rule :=
    if connection.executionModeConfigured then rule.setLevel connection.versioned connection.level
    else rule
  { rule with
    toolsetCeilings := rule.toolsetCeilings.insert salesforceWriteToolset
      (if connection.allowSalesforceDml && !connection.readOnly then .full else .read) }

variable (rule : McpAccessRule)

@[simp] private theorem McpAccessRule.visible_setLevel (versioned : Bool) (level : McpAccessLevel) :
    (rule.setLevel versioned level).visible = rule.visible := by
  cases versioned <;> rfl

@[simp] private theorem McpAccessRule.subScope_setLevel (versioned : Bool)
    (level : McpAccessLevel) : (rule.setLevel versioned level).subScope = rule.subScope := by
  cases versioned <;> rfl

variable (connection : McpConnectionPolicy)

@[simp] private theorem visible_setRule : (connection.setRule rule).visible = rule.visible := by
  simp only [setRule]
  split <;> simp

@[simp] private theorem subScope_setRule :
    (connection.setRule rule).subScope = some connection.databaseScope.subScopeMode := by
  simp only [setRule]
  split <;> simp

/-- `mcp_access.rs:556`. -/
def McpConnectionPolicy.scopeTarget (connection : McpConnectionPolicy) (database : Text) :
    McpRuleTarget :=
  .scope connection.connectionId databaseScopeKind database

/-- `mcp_access.rs:528-572`, one turn of the loop. -/
def McpConnectionPolicy.edits (connection : McpConnectionPolicy) : List RuleEdit :=
  [(McpRuleTarget.connection connection.connectionId, connection.setRule)] ++
  (connection.allowedDatabases.map fun database =>
    (connection.scopeTarget database, makeVisible)) ++
  connection.databasePolicies.map fun databasePolicy =>
    (connection.scopeTarget databasePolicy.databaseName,
      fun rule => rule.setLevel connection.versioned databasePolicy.level)

/-- `mcp_access.rs:513-572`. -/
def McpGlobalPolicy.edits (policy : McpGlobalPolicy) : List RuleEdit :=
  ((policy.allowedConnectionIds.getD []).map fun connectionId =>
    (McpRuleTarget.connection connectionId, makeVisible)) ++
  (policy.allowedGroupIds.map fun groupId => (McpRuleTarget.group groupId, makeVisible)) ++
  (policy.groupPolicies.map fun group =>
    (McpRuleTarget.group group.groupId, fun rule =>
      { rule with access := some (.fromFlags group.readOnly group.allowDangerousSql) })) ++
  policy.connectionPolicies.flatMap McpConnectionPolicy.edits

/-- The map that the edits leave. -/
def applyEdits (edits : List RuleEdit) :
    Std.TreeMap McpRuleTarget McpAccessRule McpRuleTarget.order :=
  foldEntries (fun edit => some edit.1) (fun edit rule => some (edit.2 (rule.getD .blank))) edits ∅

/-- `mcp_access.rs:25`. -/
def mcpAccessPolicyVersion : UInt8 := 2

/-- `mcp_access.rs:510-578`, what `from_v1` does after it has normalised its argument. -/
def McpAccessPolicy.fromNormalized (policy : McpGlobalPolicy) : McpAccessPolicy :=
  { version := mcpAccessPolicyVersion
    defaultAccess := .fromFlags policy.readOnly policy.allowDangerousSql
    confirm := policy.confirmationPolicy
    visibility := if policy.allowedConnectionIds.isSome then .selected else .all
    rules := applyEdits policy.edits
    allowedToolNames := policy.allowedToolNames
    queryTimeoutSecs := policy.queryTimeoutSecs
    pluginToolsMode := policy.pluginToolsMode }

/-- `mcp_access.rs:508`. -/
def McpAccessPolicy.fromV1 (policy : McpGlobalPolicy) : McpAccessPolicy :=
  fromNormalized policy.normalized

/-! ### The rule of one target -/

/-- The rule of a target, which says nothing where there is none. -/
def McpAccessPolicy.ruleOrBlank (p : McpAccessPolicy) (target : McpRuleTarget) : McpAccessRule :=
  (p.rule target).getD .blank

private theorem getD_foldl_some {α β : Type} (f : α → β → β) (blank : β) (l : List α)
    (b : Option β) :
    (l.foldl (fun b a => some (f a (b.getD blank))) b).getD blank =
      l.foldl (fun b a => f a b) (b.getD blank) := by
  induction l generalizing b with
  | nil => rfl
  | cons a l ih => simp [ih]

private theorem ruleOrBlank_fromNormalized (policy : McpGlobalPolicy) (target : McpRuleTarget) :
    (McpAccessPolicy.fromNormalized policy).ruleOrBlank target =
      (policy.edits.filter fun edit => edit.1 = target).foldl (fun rule edit => edit.2 rule)
        .blank := by
  rw [McpAccessPolicy.ruleOrBlank, McpAccessPolicy.rule, McpAccessPolicy.fromNormalized, applyEdits,
    getElem?_foldEntries, getD_foldl_some (fun edit : RuleEdit => edit.2)]
  simp

private theorem foldl_makeVisible {α : Type} (l : List α) :
    l.foldl (fun rule _ => rule.makeVisible) rule = if l = [] then rule else rule.makeVisible := by
  induction l generalizing rule with
  | nil => rfl
  | cons a l ih =>
    rw [foldl_cons, ih]
    split <;> simp [makeVisible]

private theorem flatMap_ite {α β : Type} (p : α → Bool) (f : α → List β) (l : List α) :
    (l.flatMap fun a => if p a then f a else []) = (l.filter p).flatMap f := by
  induction l with
  | nil => rfl
  | cons a l ih => cases hp : p a <;> simp [hp, ih]

namespace McpGlobalPolicy

/-- Policies that normalisation leaves alone. -/
structure Normal (policy : McpGlobalPolicy) : Prop where
  connections : NormalConnectionPolicies policy.connectionPolicies
  groups : NormalGroupPolicies policy.groupPolicies
  readOnly : policy.readOnly → policy.allowDangerousSql = false
  groupIds : policy.allowedConnectionIds = none → policy.allowedGroupIds = []

private theorem normal_normalized (policy : McpGlobalPolicy) : policy.normalized.Normal where
  connections := normalConnectionPolicies_normalize policy.connectionPolicies
  groups := normalGroupPolicies_normalize policy.groupPolicies
  readOnly h := by simp_all [normalized]
  groupIds h := by simp_all [normalized]

variable {policy : McpGlobalPolicy}

private theorem filter_edits_group (policy : McpGlobalPolicy) (groupId : Text) :
    (policy.edits.filter fun edit => edit.1 = .group groupId) =
      ((policy.allowedGroupIds.filter (· = groupId)).map fun id =>
        (.group id, makeVisible)) ++
      (policy.groupPolicies.filter (·.groupId = groupId)).map fun group =>
        (.group group.groupId, fun rule =>
          { rule with access := some (.fromFlags group.readOnly group.allowDangerousSql) }) := by
  simp [edits, filter_append, filter_map, filter_flatMap, comp_def,
    McpConnectionPolicy.edits, McpConnectionPolicy.scopeTarget]

/-- The edits of one database. -/
def scopeEdits (database : Text) (connection : McpConnectionPolicy) : List RuleEdit :=
  ((connection.allowedDatabases.filter (· = database)).map fun name =>
    (connection.scopeTarget name, makeVisible)) ++
  (connection.databasePolicies.filter (·.databaseName = database)).map fun databasePolicy =>
    (connection.scopeTarget databasePolicy.databaseName,
      fun rule => rule.setLevel connection.versioned databasePolicy.level)

/-- A rule that admits its node or says nothing. -/
def admission (admitted : Bool) : McpAccessRule :=
  { blank with visible := if admitted then some true else none }

private theorem foldl_admissions (l : List Text) (a : Text) (target : Text → McpRuleTarget) :
    (((l.filter (· = a)).map fun name => (target name, makeVisible)) : List RuleEdit).foldl
      (fun rule edit => edit.2 rule) .blank = admission (l.contains a) := by
  rw [foldl_map, foldl_makeVisible]
  by_cases ha : a ∈ l
  · have hne : l.filter (· = a) ≠ [] := by
      simpa using ha
    simp [hne, ha, admission, makeVisible]
  · have hnil : l.filter (· = a) = [] := by
      rw [filter_eq_nil_iff]
      rintro b hb hba
      exact ha (of_decide_eq_true hba ▸ hb)
    simp [hnil, ha, admission, blank]

variable (h : policy.Normal)

include h

private theorem Normal.filter_connections (connectionId : Text) :
    (policy.connectionPolicies.filter fun rule => rule.connectionId = connectionId) =
      (policy.connectionPolicy connectionId).toList :=
  h.connections.keyed.sorted.filter_eq connectionId

private theorem filter_edits_connection (connectionId : Text) :
    (policy.edits.filter fun edit => edit.1 = .connection connectionId) =
      (((policy.allowedConnectionIds.getD []).filter (· = connectionId)).map fun id =>
        (.connection id, makeVisible)) ++
      (policy.connectionPolicy connectionId).toList.map fun connection =>
        (.connection connection.connectionId, connection.setRule) := by
  have hown (connection : McpConnectionPolicy) :
      (connection.edits.filter fun edit => edit.1 = .connection connectionId) =
        if decide (connection.connectionId = connectionId) then
          [(.connection connection.connectionId, connection.setRule)]
        else [] := by
    by_cases hid : connection.connectionId = connectionId <;>
      simp [McpConnectionPolicy.edits, McpConnectionPolicy.scopeTarget, filter_map, comp_def, hid]
  simp only [edits, filter_append, filter_flatMap, hown, flatMap_ite, h.filter_connections]
  cases policy.connectionPolicy connectionId <;> simp [filter_map, comp_def]

private theorem filter_edits_scope (connectionId database : Text) :
    (policy.edits.filter fun edit => edit.1 = .scope connectionId databaseScopeKind database) =
      (policy.connectionPolicy connectionId).toList.flatMap (scopeEdits database) := by
  have hown (connection : McpConnectionPolicy) : (connection.edits.filter fun edit =>
          edit.1 = .scope connectionId databaseScopeKind database) =
        if decide (connection.connectionId = connectionId) then scopeEdits database connection
        else [] := by
    by_cases hid : connection.connectionId = connectionId <;>
      simp [scopeEdits, McpConnectionPolicy.edits, McpConnectionPolicy.scopeTarget,
        filter_map, comp_def, hid]
  simp only [edits, filter_append, filter_flatMap, hown, flatMap_ite, h.filter_connections]
  simp [filter_map, comp_def]

private theorem ruleOrBlank_group (groupId : Text) :
    (McpAccessPolicy.fromNormalized policy).ruleOrBlank (.group groupId) =
      { admission (policy.allowedGroupIds.contains groupId) with
        access := (policy.groupPolicies.find? fun group => group.groupId = groupId).map fun group =>
          .fromFlags group.readOnly group.allowDangerousSql } := by
  rw [ruleOrBlank_fromNormalized, filter_edits_group, foldl_append, foldl_admissions,
    h.groups.keyed.sorted.filter_eq]
  cases policy.groupPolicies.find? fun group => group.groupId = groupId <;>
    simp [admission, blank]

private theorem ruleOrBlank_connection (connectionId : Text) :
    (McpAccessPolicy.fromNormalized policy).ruleOrBlank (.connection connectionId) =
      (policy.connectionPolicy connectionId).elim id McpConnectionPolicy.setRule
        (admission ((policy.allowedConnectionIds.getD []).contains connectionId)) := by
  rw [ruleOrBlank_fromNormalized, filter_edits_connection h, foldl_append, foldl_admissions]
  cases policy.connectionPolicy connectionId <;> simp

private theorem ruleOrBlank_scope (connectionId database : Text) :
    (McpAccessPolicy.fromNormalized policy).ruleOrBlank
        (.scope connectionId databaseScopeKind database) =
      (policy.connectionPolicy connectionId).elim .blank fun connection =>
        (connection.databasePolicies.find? fun entry => entry.databaseName = database).elim id
          (fun entry rule => rule.setLevel connection.versioned entry.level)
          (admission (connection.allowedDatabases.contains database)) := by
  rw [ruleOrBlank_fromNormalized, filter_edits_scope h]
  rcases hown : policy.connectionPolicy connectionId with _ | connection
  · simp
  have hnormal := h.connections.databases connection (mem_of_find?_eq_some hown)
  simp only [Option.toList_some, flatMap_singleton, scopeEdits, foldl_append,
    foldl_admissions, hnormal.keyed.sorted.filter_eq, Option.elim_some]
  cases connection.databasePolicies.find? fun entry => entry.databaseName = database <;> simp

end McpGlobalPolicy

/-! ### Decisions -/

namespace McpAccessLevel

/-- Flags as the persisted policy holds them: read-only forbids dangerous statements. -/
def Consistent (flags : Bool × Bool) : Prop := flags.1 → flags.2 = false

private theorem toFlags_fromFlagsPair {flags : Bool × Bool} (h : Consistent flags) :
    (fromFlagsPair flags).toFlags = flags := by
  obtain ⟨readOnly, allowDangerousSql⟩ := flags
  cases readOnly <;> cases allowDangerousSql <;> first | rfl | cases h rfl

private theorem fromFlagsPair_applyCeiling (current ceiling : Bool × Bool) :
    fromFlagsPair (applyCeiling current ceiling) =
      if fromFlagsPair ceiling < fromFlagsPair current then fromFlagsPair ceiling
      else fromFlagsPair current := by
  obtain ⟨currentReadOnly, currentDangerous⟩ := current
  obtain ⟨ceilingReadOnly, ceilingDangerous⟩ := ceiling
  revert currentReadOnly currentDangerous ceilingReadOnly ceilingDangerous
  decide

@[simp] private theorem fromFlags_not_and (readOnly allowDangerousSql : Bool) :
    fromFlags readOnly (!readOnly && allowDangerousSql) = fromFlags readOnly allowDangerousSql := by
  cases readOnly <;> cases allowDangerousSql <;> rfl

end McpAccessLevel

namespace McpAccessPolicy

section Rules

variable (p : McpAccessPolicy)

private theorem bind_rule {α : Type} {f : McpAccessRule → Option α} (hf : f blank = none)
    (target : McpRuleTarget) : (p.rule target).bind f = f (p.ruleOrBlank target) := by
  rw [ruleOrBlank]
  cases p.rule target with
  | none => exact hf.symm
  | some rule => rfl

private theorem toolsetCeiling_eq (connectionId toolset : Text) :
    p.toolsetCeiling connectionId toolset =
      (p.ruleOrBlank (.connection connectionId)).toolsetCeilings[toolset]?.or
        (if toolset = salesforceWriteToolset then some .read else none) := by
  rw [toolsetCeiling, connectionRule, ruleOrBlank]
  cases p.rule (.connection connectionId) with
  | none => simp [blank]
  | some rule => rfl

variable (groupIds : List Text)

private theorem connectionAccess_eq (connectionId : Text) :
    p.connectionAccess groupIds connectionId =
      applyRule (p.ruleOrBlank (.connection connectionId)) .connection
        (p.groupAccess groupIds) := by
  rw [connectionAccess, connectionRule, ruleOrBlank]
  cases p.rule (.connection connectionId) <;> rfl

private theorem resolve_level (connectionId scope value : Text)
    (hvisible : (p.resolve groupIds connectionId (some (scope, value))).visible) :
    (p.resolve groupIds connectionId (some (scope, value))).level =
      (applyRule (p.ruleOrBlank (.scope connectionId scope value)) .scope
        (p.connectionAccess groupIds connectionId)).1 := by
  simp only [resolve] at hvisible
  simp only [resolve, hvisible, Option.bind_some, ruleOrBlank]
  cases p.rule (.scope connectionId scope value) <;> rfl

end Rules

variable {policy : McpGlobalPolicy} {connection : McpConnectionPolicy} {connectionId : Text}

/-! ### Levels -/

private theorem applyRule_setLevel {rule : McpAccessRule} (haccess : rule.access = none)
    (hceiling : rule.ceiling = none) (versioned : Bool) (flags effective : Bool × Bool)
    (source : McpAccessSource) {resolved : McpAccessLevel × McpAccessSource}
    (hresolved : resolved.1 = .fromFlagsPair effective) :
    (applyRule (rule.setLevel versioned (.fromFlagsPair flags)) source resolved).1 =
      .fromFlagsPair (if versioned then (flags.1, !flags.1 && flags.2)
        else applyCeiling effective flags) := by
  cases versioned with
  | true => simp [setLevel, applyRule, hceiling, McpAccessLevel.fromFlagsPair]
  | false =>
    simp only [setLevel, applyRule, haccess, hresolved, Bool.false_eq_true, if_false,
      McpAccessLevel.fromFlagsPair_applyCeiling]
    split <;> simp [hresolved]

private theorem applyRule_setRule (source : McpAccessSource)
    (resolved : McpAccessLevel × McpAccessSource) :
    applyRule (connection.setRule rule) source resolved =
      applyRule (if connection.executionModeConfigured then
        rule.setLevel connection.versioned connection.level else rule) source resolved := by
  rw [McpConnectionPolicy.setRule]
  cases connection.executionModeConfigured <;> cases connection.versioned <;> rfl

private theorem effectiveDatabaseExecutionPolicyWithGroups_of_rule {groupIds : List Text}
    {database : Text} (hown : policy.connectionPolicy connectionId = some connection) :
    effectiveDatabaseExecutionPolicyWithGroups policy groupIds connectionId database =
      let cap (flags effective : Bool × Bool) :=
        if connection.versioned then (flags.1, !flags.1 && flags.2)
        else applyCeiling effective flags
      let effective :=
        if connection.executionModeConfigured then
          cap (connection.readOnly, connection.allowDangerousSql)
            (inheritedExecutionPolicy policy groupIds)
        else inheritedExecutionPolicy policy groupIds
      match connection.databasePolicies.find? fun entry => entry.databaseName = database with
      | some entry => cap (entry.readOnly, entry.allowDangerousSql) effective
      | none => effective := by
  rw [effectiveDatabaseExecutionPolicyWithGroups, hown]
  simp only [McpConnectionPolicy.versioned, decide_eq_true_eq]
  split <;> rfl

/-- `mcp_access.rs:1224` and the test of `dbx-mcp/src/server.rs:4555-4558` that the ceiling adds:
the write toolset of Salesforce is not held down to reading. -/
def allowsSalesforceWrites (p : McpAccessPolicy) (connectionId : Text) : Bool :=
  (p.toolsetCeiling connectionId salesforceWriteToolset).all fun ceiling => .read < ceiling

/-- The rule of a target as an override (`.access`) and a ceiling. -/
def levels (p : McpAccessPolicy) (target : McpRuleTarget) :
    Option McpAccessLevel × Option McpAccessLevel :=
  ((p.rule target).bind access, (p.rule target).bind ceiling)

private theorem levels_eq (p : McpAccessPolicy) (target : McpRuleTarget) :
    p.levels target = ((p.ruleOrBlank target).access, (p.ruleOrBlank target).ceiling) := by
  rw [levels, bind_rule (f := access) _ rfl, bind_rule (f := ceiling) _ rfl]

section

variable (h : policy.Normal)

include h

private theorem connectionVisible_fromNormalized (groupPath : Option McpConnectionGroupPath)
    (connectionId : Text) :
    (fromNormalized policy).connectionVisible ((groupPath.map (·.ids)).getD []) connectionId =
      policyAllowsConnection policy groupPath connectionId := by
  have hconnection : ((fromNormalized policy).ruleOrBlank (.connection connectionId)).visible =
      if (policy.allowedConnectionIds.getD []).contains connectionId then some true else none := by
    rw [policy.ruleOrBlank_connection h]
    cases policy.connectionPolicy connectionId <;> simp [McpGlobalPolicy.admission]
  have hgroup (groupId : Text) : ((fromNormalized policy).ruleOrBlank (.group groupId)).visible =
      if policy.allowedGroupIds.contains groupId then some true else none := by
    rw [policy.ruleOrBlank_group h]
    rfl
  have hvisibility : (fromNormalized policy).visibility =
      if policy.allowedConnectionIds.isSome then .selected else .all := rfl
  have hadmits (admitted : Bool) :
      ((if admitted then some true else none) == some true) = admitted := by
    cases admitted <;> rfl
  rw [connectionVisible, policyAllowsConnection, connectionRule]
  simp only [bind_rule (f := visible) _ rfl, hconnection, hgroup, hvisibility, hadmits]
  rcases policy.allowedConnectionIds with _ | allowed
  · simp
  cases hallowed : allowed.contains connectionId <;> cases groupPath <;>
    simp only [Option.getD_some, Option.all_some, hallowed, if_true] <;> rfl

variable (groupIds : List Text)

private theorem groupAccess_fromNormalized : ((fromNormalized policy).groupAccess groupIds).1 =
      .fromFlagsPair (inheritedExecutionPolicy policy groupIds) := by
  refine List.foldl_rel (l := groupIds) (f := (fromNormalized policy).resolveGroup)
    (g := inheritGroup policy)
    (r := fun resolved effective => resolved.1 = .fromFlagsPair effective) rfl ?_
  intro groupId _ resolved effective hlevel
  rw [resolveGroup, bind_rule (f := access) _ rfl, policy.ruleOrBlank_group h, inheritGroup]
  cases policy.groupPolicies.find? fun group => group.groupId = groupId with
  | none => exact hlevel
  | some group => simp [McpAccessLevel.fromFlagsPair]

private theorem inheritedExecutionPolicy_consistent :
    McpAccessLevel.Consistent (inheritedExecutionPolicy policy groupIds) := by
  refine List.foldlRecOn (motive := McpAccessLevel.Consistent) groupIds (inheritGroup policy)
    h.readOnly ?_
  intro effective heffective groupId _
  rw [inheritGroup]
  split
  · simp +contextual [McpAccessLevel.Consistent]
  · exact heffective

private theorem subScopeVisible_fromNormalized (connectionId database : Text) :
    (fromNormalized policy).subScopeVisible connectionId databaseScopeKind database =
      v1DatabaseVisible policy connectionId database := by
  rw [subScopeVisible, v1DatabaseVisible, subScopeMode, connectionRule,
    bind_rule (f := subScope) _ rfl, bind_rule (f := visible) _ rfl, policy.ruleOrBlank_scope h,
    policy.ruleOrBlank_connection h]
  rcases policy.connectionPolicy connectionId with _ | connection
  · simp [McpGlobalPolicy.admission, blank]
  have hvisible : ((connection.databasePolicies.find? fun entry =>
        entry.databaseName = database).elim id
      (fun entry rule => rule.setLevel connection.versioned entry.level)
      (McpGlobalPolicy.admission (connection.allowedDatabases.contains database))).visible =
      if connection.allowedDatabases.contains database then some true else none := by
    cases connection.databasePolicies.find? fun entry => entry.databaseName = database <;>
      simp [McpGlobalPolicy.admission]
  simp only [Option.elim_some, hvisible, subScope_setRule, Option.getD_some]
  by_cases hallowed : database ∈ connection.allowedDatabases <;>
    cases connection.databaseScope <;> simp [hallowed, McpDatabaseScope.subScopeMode]

private theorem applyRule_scope_fromNormalized (connectionId database : Text) :
    (applyRule
      ((fromNormalized policy).ruleOrBlank (.scope connectionId databaseScopeKind database)) .scope
      ((fromNormalized policy).connectionAccess groupIds connectionId)).1 =
      .fromFlagsPair
        (effectiveDatabaseExecutionPolicyWithGroups policy groupIds connectionId database) := by
  have hinherited := groupAccess_fromNormalized h groupIds
  rw [connectionAccess_eq, policy.ruleOrBlank_scope h, policy.ruleOrBlank_connection h]
  cases hown : policy.connectionPolicy connectionId with
  | none =>
    rw [effectiveDatabaseExecutionPolicyWithGroups, hown]
    exact hinherited
  | some connection =>
    rw [effectiveDatabaseExecutionPolicyWithGroups_of_rule hown]
    simp only [Option.elim_some]
    generalize heffective : (if connection.executionModeConfigured then _ else _ : Bool × Bool) =
      effective
    have hconnection : (applyRule (connection.setRule (McpGlobalPolicy.admission
        ((policy.allowedConnectionIds.getD []).contains connectionId))) .connection
        ((fromNormalized policy).groupAccess groupIds)).1 = .fromFlagsPair effective := by
      rw [applyRule_setRule, ← heffective]
      split
      · exact applyRule_setLevel rfl rfl _ (connection.readOnly, connection.allowDangerousSql) _ _
          hinherited
      · exact hinherited
    cases connection.databasePolicies.find? fun entry => entry.databaseName = database with
    | none => exact hconnection
    | some entry =>
      exact applyRule_setLevel rfl rfl _ (entry.readOnly, entry.allowDangerousSql) _ _ hconnection

private theorem effectiveDatabaseExecutionPolicyWithGroups_consistent
    (connectionId database : Text) :
    McpAccessLevel.Consistent
      (effectiveDatabaseExecutionPolicyWithGroups policy groupIds connectionId database) := by
  have hinherited := inheritedExecutionPolicy_consistent h groupIds
  cases hown : policy.connectionPolicy connectionId with
  | none =>
    rw [effectiveDatabaseExecutionPolicyWithGroups, hown]
    exact hinherited
  | some connection =>
    rw [effectiveDatabaseExecutionPolicyWithGroups_of_rule hown]
    have hcap (flags effective : Bool × Bool) : McpAccessLevel.Consistent
        (if connection.versioned then (flags.1, !flags.1 && flags.2)
          else applyCeiling effective flags) := by
      split <;> intro hreadOnly
      · simp_all
      · simp only [applyCeiling] at hreadOnly ⊢
        simp [hreadOnly]
    simp only
    split
    · exact hcap _ _
    · split
      · exact hcap _ _
      · exact hinherited

private theorem allowsSalesforceWrites_fromNormalized (connectionId : Text) :
    (fromNormalized policy).allowsSalesforceWrites connectionId =
      connectionAllowsSalesforceDml policy connectionId := by
  rw [allowsSalesforceWrites, toolsetCeiling_eq, policy.ruleOrBlank_connection h,
    connectionAllowsSalesforceDml]
  rcases policy.connectionPolicy connectionId with _ | connection
  · simp [McpGlobalPolicy.admission, blank]
  simp only [Option.elim_some, McpConnectionPolicy.setRule, Std.TreeMap.getElem?_insert_self,
    Option.some_or, Option.all_some, Option.any_some]
  cases connection.allowSalesforceDml && !connection.readOnly <;> decide

section

variable (hown : policy.connectionPolicy connectionId = some connection)

include hown

private theorem levels_connection_fromNormalized :
    (fromNormalized policy).levels (.connection connectionId) =
      if connection.executionModeConfigured then
        if connection.versioned then (some connection.level, none)
        else (none, some connection.level)
      else (none, none) := by
  rw [levels_eq, policy.ruleOrBlank_connection h, hown]
  simp only [Option.elim_some, McpConnectionPolicy.setRule, setLevel]
  cases connection.executionModeConfigured <;> cases connection.versioned <;> rfl

private theorem levels_scope_fromNormalized {database : Text}
    {entry : McpDatabasePolicy}
    (hentry : connection.databasePolicies.find? (fun entry => entry.databaseName = database) = some
      entry) :
    (fromNormalized policy).levels (.scope connectionId databaseScopeKind database) =
      if connection.versioned then (some entry.level, none) else (none, some entry.level) := by
  rw [levels_eq, policy.ruleOrBlank_scope h, hown]
  simp only [Option.elim_some, hentry, setLevel]
  cases connection.versioned <;> rfl

end

end

/-- The migrated policy decides as the persisted one: the same connections are visible and the
same databases admitted, an admitted database has the level of its v1 flags, rules with the
current version being overrides and others ceilings, and Salesforce writes are open for the same
connections. -/
theorem fromV1_decides_as_v1 (policy : McpGlobalPolicy)
    (groupPath : Option McpConnectionGroupPath) (connectionId database : Text) :
    let v1 := policy.normalized
    let v2 := fromV1 v1
    let groupIds := (groupPath.map (·.ids)).getD []
    let resolved := v2.resolve groupIds connectionId (some (databaseScopeKind, database))
    let flags := effectiveDatabaseExecutionPolicyWithGroups v1 groupIds connectionId database
    v2.connectionVisible groupIds connectionId = policyAllowsConnection v1 groupPath connectionId ∧
    v2.subScopeVisible connectionId databaseScopeKind database =
      v1DatabaseVisible v1 connectionId database ∧
    resolved.visible = (policyAllowsConnection v1 groupPath connectionId &&
      v1DatabaseVisible v1 connectionId database) ∧
    (resolved.visible → resolved.level = .fromFlagsPair flags ∧ resolved.level.toFlags = flags) ∧
    (∀ connection, v1.connectionPolicy connectionId = some connection →
      (v2.levels (.connection connectionId) =
        if connection.executionModeConfigured then
          if connection.versioned then (some connection.level, none)
          else (none, some connection.level)
        else (none, none)) ∧
      ∀ entry, connection.databasePolicies.find? (fun entry => entry.databaseName = database) =
          some entry →
        v2.levels (.scope connectionId databaseScopeKind database) =
          if connection.versioned then (some entry.level, none) else (none, some entry.level)) ∧
    v2.allowsSalesforceWrites connectionId = connectionAllowsSalesforceDml v1 connectionId := by
  have h := policy.normal_normalized
  simp only [fromV1, policy.normalized_normalized]
  have hvisible := connectionVisible_fromNormalized h groupPath connectionId
  have hdatabase := subScopeVisible_fromNormalized h connectionId database
  refine ⟨hvisible, hdatabase, ?_, ?_, ?_, allowsSalesforceWrites_fromNormalized h connectionId⟩
  · simp only [resolve, hvisible, Option.all_some, hdatabase]
  · intro hadmitted
    have hlevel := resolve_level _ _ _ _ _ hadmitted
    rw [applyRule_scope_fromNormalized h] at hlevel
    refine ⟨hlevel, ?_⟩
    rw [hlevel, McpAccessLevel.toFlags_fromFlagsPair
      (effectiveDatabaseExecutionPolicyWithGroups_consistent h _ _ _)]
  · intro connection hown
    exact ⟨levels_connection_fromNormalized h hown,
      fun entry hentry => levels_scope_fromNormalized h hown hentry⟩

/-- A selection of one connection with an unversioned rule, which caps its database. -/
def cappedSelection : McpGlobalPolicy :=
  { readOnly := false, allowDangerousSql := true, promptHighRiskSql := false,
    callConfirmation := none, allowedConnectionIds := some [" prod"],
    allowedGroupIds := [], allowedToolNames := none,
    connectionPolicies :=
      [{ connectionId := "prod", readOnly := false, allowDangerousSql := false,
         executionModeConfigured := true, executionModePolicyVersion := none,
         databaseScope := .selected, allowedDatabases := ["app"],
         databasePolicies := [⟨"app", false, true⟩], allowSalesforceDml := true }],
    groupPolicies := [], queryTimeoutSecs := none, pluginToolsMode := .auto }

/-- A connection whose rule caps its database. -/
theorem fromV1_decides_as_v1_capped : ((fromV1 cappedSelection.normalized).resolve [] "prod"
      (some (databaseScopeKind, "app"))).level.toFlags = (false, false) := by
  have hdecides := fromV1_decides_as_v1 cappedSelection none "prod" "app"
  have hvisible : (policyAllowsConnection cappedSelection.normalized none "prod" &&
      v1DatabaseVisible cappedSelection.normalized "prod" "app") := by
    decide +kernel
  have hflags : effectiveDatabaseExecutionPolicyWithGroups cappedSelection.normalized []
      "prod" "app" = (false, false) := by decide +kernel
  obtain ⟨-, -, hresolved, hlevel, -⟩ := hdecides
  exact (hlevel (hresolved.trans hvisible)).2.trans hflags

end McpAccessPolicy

end DbxSpec.Mcp
