import DbxSpec.Mcp.Access

/-!
# Projecting the unified policy onto the persisted one

`McpAccessPolicy::to_v1` of `crates/dbx-core/src/ai/mcp_access.rs:580-839`. One loop over the
rules fills a draft; afterwards database rules turn the scope of their connection into a
selection, hidden connections are locked, and an allowlist replaces what v1 cannot hide.
-/

namespace DbxSpec.Mcp

open DbxSpec.Base

/-- `mcp_access.rs:670`, `725` and `800`: the rule hides its node or gives it no access. -/
def McpAccessRule.denies (rule : McpAccessRule) : Bool :=
  rule.visible == some false || rule.access == some .none || rule.ceiling == some .none

variable (p : McpAccessPolicy) (connectionId : Text)

namespace McpAccessPolicy

/-- `mcp_access.rs:582`. -/
def projectedToolsetCeiling : Option McpAccessLevel :=
  (p.connectionRule connectionId).bind fun rule =>
    ((rule.toolsetCeilings.toList.filter fun entry => entry.1 != salesforceWriteToolset).map
      Prod.snd).min?

/-- `mcp_access.rs:597`. -/
def narrowByGroup (strictest : McpAccessLevel) (entry : McpRuleTarget × McpAccessRule) :
    McpAccessLevel :=
  match entry.1, entry.2.access with
  | .group _, some level => min strictest level
  | _, _ => strictest

/-- `mcp_access.rs:595-600`: the minimum of the default and every group level. -/
def strictestInheritedLevel : McpAccessLevel :=
  p.rules.toList.foldl narrowByGroup p.defaultAccess

/-- `mcp_access.rs:594`. -/
def strictestConnectionLevel : McpAccessLevel :=
  match p.connectionRule connectionId with
  | some rule =>
    let strictest := rule.access.getD p.strictestInheritedLevel
    match rule.ceiling with
    | some ceiling => min strictest ceiling
    | none => strictest
  | none => p.strictestInheritedLevel

variable (rule : McpAccessRule)

/-- `mcp_access.rs:684` and `735`: the level of a rule, a bare ceiling being taken against the
strictest level that the connection can inherit. -/
def pinnedLevel : Option McpAccessLevel :=
  match rule.access, rule.ceiling with
  | some access, some ceiling => some (min access ceiling)
  | some access, none => some access
  | none, some ceiling => some (min ceiling (p.strictestConnectionLevel connectionId))
  | none, none => none

/-- `mcp_access.rs:693`. -/
def projectedConnectionLevel : Option McpAccessLevel :=
  let level := p.pinnedLevel connectionId rule
  match p.projectedToolsetCeiling connectionId with
  | some ceiling => some (min (level.getD (p.strictestConnectionLevel connectionId)) ceiling)
  | none => level

/-- `mcp_access.rs:743`. -/
def projectedDatabaseLevel : Option McpAccessLevel :=
  (p.pinnedLevel connectionId rule).map fun level =>
    match p.projectedToolsetCeiling connectionId with
    | some ceiling => min level ceiling
    | none => level

end McpAccessPolicy

variable (id : Text)

/-- `mcp_access.rs:647`. -/
def blankConnectionPolicy : McpConnectionPolicy :=
  { connectionId := id
    readOnly := false
    allowDangerousSql := false
    executionModeConfigured := false
    executionModePolicyVersion := some mcpExecutionPolicyVersion
    databaseScope := .all
    allowedDatabases := []
    databasePolicies := []
    allowSalesforceDml := false }

/-- `mcp_access.rs:703-707`. -/
def McpSubScopeMode.toDatabaseScope : McpSubScopeMode → McpDatabaseScope
  | .all => .all
  | .selected => .selected
  | .none => .none

/-- What the loop over the rules has collected. -/
structure ProjectionDraft where
  allowedConnectionIds : Option (List Text)
  allowedGroupIds : List Text
  groupPolicies : List McpGroupPolicy
  connectionPolicies : Std.TreeMap Text McpConnectionPolicy compare
  hiddenConnections : List Text

namespace McpAccessPolicy

variable (rule : McpAccessRule)

/-- `mcp_access.rs:660-668`. -/
def projectGroup (draft : ProjectionDraft) : ProjectionDraft :=
  { draft with
    allowedGroupIds :=
      if rule.visible == some true && p.visibility == .selected then draft.allowedGroupIds ++ [id]
      else draft.allowedGroupIds
    groupPolicies :=
      match rule.access with
      | some level =>
        let flags := (max level .read).toFlags
        draft.groupPolicies ++
          [{ groupId := id, readOnly := flags.1, allowDangerousSql := flags.2 }]
      | none => draft.groupPolicies }

variable (policy : McpConnectionPolicy)

/-- `mcp_access.rs:699-712`, on the entry of the connection. -/
def setConnectionPolicy : McpConnectionPolicy :=
  let policy := match p.projectedConnectionLevel id rule with
    | some level =>
      let flags := (max level .read).toFlags
      { policy with
        readOnly := flags.1, allowDangerousSql := flags.2, executionModeConfigured := true }
    | none => policy
  { policy with
    databaseScope := (rule.subScope.getD .all).toDatabaseScope
    allowSalesforceDml :=
      (rule.toolsetCeilings[salesforceWriteToolset]?).any (fun ceiling => .read < ceiling) &&
        !policy.readOnly }

/-- `mcp_access.rs:669-713`. -/
def projectConnection (draft : ProjectionDraft) : ProjectionDraft :=
  let draft :=
    if rule.denies then { draft with hiddenConnections := draft.hiddenConnections ++ [id] }
    else if rule.visible == some true then
      { draft with allowedConnectionIds := draft.allowedConnectionIds.map (· ++ [id]) }
    else draft
  { draft with
    hiddenConnections :=
      if p.projectedConnectionLevel id rule == some .none && !draft.hiddenConnections.contains id
      then draft.hiddenConnections ++ [id]
      else draft.hiddenConnections
    connectionPolicies := draft.connectionPolicies.alter id fun entry =>
      some (p.setConnectionPolicy id rule (entry.getD (blankConnectionPolicy id))) }

/-- `mcp_access.rs:717-754`, on the entry of the connection. -/
def setScopePolicy (connectionId scope value : Text) (rule : McpAccessRule)
    (policy : McpConnectionPolicy) : McpConnectionPolicy :=
  if scope ≠ databaseScopeKind then
    if rule.visible == some false || rule.access.isSome || rule.ceiling.isSome then
      { policy with databaseScope := .none }
    else policy
  else
    { policy with
      allowedDatabases :=
        if rule.visible == some true && !rule.denies then policy.allowedDatabases ++ [value]
        else policy.allowedDatabases
      databasePolicies :=
        match p.projectedDatabaseLevel connectionId rule with
        | some level =>
          if rule.denies then policy.databasePolicies
          else
            let flags := (max level .read).toFlags
            policy.databasePolicies ++
              [{ databaseName := value, readOnly := flags.1, allowDangerousSql := flags.2 }]
        | none => policy.databasePolicies }

/-- `mcp_access.rs:659-756`, the body of the loop. -/
def projectRule (draft : ProjectionDraft)
    (entry : McpRuleTarget × McpAccessRule) : ProjectionDraft :=
  match entry.1 with
  | .group id => p.projectGroup id entry.2 draft
  | .connection id => p.projectConnection id entry.2 draft
  | .scope connectionId scope value =>
    { draft with
      connectionPolicies := draft.connectionPolicies.alter connectionId fun policy =>
        some (p.setScopePolicy connectionId scope value entry.2
          (policy.getD (blankConnectionPolicy connectionId))) }

/-- `mcp_access.rs:639-757`. -/
def projectRules : ProjectionDraft :=
  p.rules.toList.foldl p.projectRule
    { allowedConnectionIds := if p.visibility = .selected then some [] else none
      allowedGroupIds := []
      groupPolicies := []
      connectionPolicies := ∅
      hiddenConnections := [] }

/-- Whether a target is a database of the connection, `mcp_access.rs:763`. -/
def isDatabaseRuleOf : McpRuleTarget → Bool
  | .scope id scope _ => id == connectionId && scope == databaseScopeKind
  | _ => false

/-- `mcp_access.rs:761-770`. -/
def promoteScope : McpConnectionPolicy :=
  if policy.databaseScope = .all &&
      p.rules.toList.any (fun entry => isDatabaseRuleOf policy.connectionId entry.1) then
    { policy with
      databaseScope := .selected
      databasePolicies := policy.databasePolicies.filter fun database =>
        policy.allowedDatabases.contains database.databaseName }
  else policy

/-- `mcp_access.rs:779-785`. -/
def lockConnectionPolicy : McpConnectionPolicy :=
  { policy with
    readOnly := true
    allowDangerousSql := false
    allowSalesforceDml := false
    executionModeConfigured := true
    databaseScope := .none
    allowedDatabases := []
    databasePolicies := [] }

/-- `mcp_access.rs:797-803`. -/
def restrictedAncestors : Bool :=
  p.defaultAccess == .none ||
    p.rules.toList.any fun entry => match entry.1 with
      | .group _ => entry.2.denies
      | _ => false

/-- `mcp_access.rs:805-818`. -/
def explicitlyVisible (hiddenConnections : List Text) : List Text :=
  p.rules.toList.filterMap fun entry => match entry.1 with
    | .connection id =>
      if entry.2.visible == some true && !hiddenConnections.contains id &&
          (!p.restrictedAncestors || entry.2.access.any fun level => .none < level) then some id
      else none
    | _ => none

/-- `mcp_access.rs:761-786`, the entries of the connections after both loops. -/
def lockedPolicies : Std.TreeMap Text McpConnectionPolicy compare :=
  let draft := p.projectRules
  foldEntries some
    (fun id entry => some (lockConnectionPolicy (entry.getD (blankConnectionPolicy id))))
    draft.hiddenConnections (draft.connectionPolicies.map fun _ policy => p.promoteScope policy)

/-- `mcp_access.rs:639`. -/
def toV1 : McpGlobalPolicy :=
  let draft := p.projectRules
  let strict := !draft.hiddenConnections.isEmpty || p.restrictedAncestors
  let flags := (max p.defaultAccess .read).toFlags
  McpGlobalPolicy.normalized
    { readOnly := flags.1 || p.defaultAccess == .none
      allowDangerousSql := flags.2
      promptHighRiskSql := p.confirm = .full
      callConfirmation := if p.confirm = .highRisk then some p.confirm else none
      allowedConnectionIds :=
        if strict then some (p.explicitlyVisible draft.hiddenConnections)
        else draft.allowedConnectionIds.map fun ids =>
          ids.filter fun id => !draft.hiddenConnections.contains id
      allowedGroupIds := if strict then [] else draft.allowedGroupIds
      allowedToolNames := p.allowedToolNames
      connectionPolicies := p.lockedPolicies.toList.map Prod.snd
      groupPolicies := draft.groupPolicies
      queryTimeoutSecs := p.queryTimeoutSecs
      pluginToolsMode := p.pluginToolsMode }

end McpAccessPolicy

end DbxSpec.Mcp
