import DbxSpec.Mcp.Policy

/-!
# The unified access policy and its v1 projection

The v2 policy of `crates/dbx-core/src/ai/mcp_access.rs`: access levels, rules keyed by target,
resolution of one connection or sub-scope, and `to_v1`, the projection for hosts that read the
persisted policy only. The loop of `to_v1` over the rules runs in the order of their targets:
groups, then connections, then sub-scopes.
-/

namespace DbxSpec.Mcp

open DbxSpec.Base

/-! ### Levels -/

/-- `mcp_access.rs:67`, in ascending order. -/
inductive McpAccessLevel
  | none
  | read
  | write
  | full
  deriving DecidableEq, Repr

namespace McpAccessLevel

/-- The position in the order. -/
def rank : McpAccessLevel → Nat
  | none => 0
  | read => 1
  | write => 2
  | full => 3

private theorem rank_injective : Function.Injective rank := by
  intro a b h
  cases a <;> cases b <;> first | rfl | cases h

instance : LinearOrder McpAccessLevel := LinearOrder.lift' rank rank_injective

/-- `mcp_access.rs:76`. -/
def fromFlags (readOnly allowDangerousSql : Bool) : McpAccessLevel :=
  match readOnly, allowDangerousSql with
  | true, _ => read
  | false, false => write
  | false, true => full

/-- `mcp_access.rs:84`. -/
def fromFlagsPair (flags : Bool × Bool) : McpAccessLevel := fromFlags flags.1 flags.2

/-- `mcp_access.rs:89`. -/
def toFlags : McpAccessLevel → Bool × Bool
  | none => (true, false)
  | read => (true, false)
  | write => (false, false)
  | full => (false, true)

end McpAccessLevel

/-! ### Rules -/

/-- `mcp_access.rs:141`. -/
inductive McpRuleTarget
  | group (id : Text)
  | connection (id : Text)
  | scope (connectionId scope value : Text)
  deriving DecidableEq, Repr

namespace McpRuleTarget

/-- The place of the variant in its declaration, which the derived order compares first. -/
def variant : McpRuleTarget → Nat
  | group _ => 0
  | connection _ => 1
  | scope _ _ _ => 2

/-- The fields, in the order of their declaration. -/
def fields : McpRuleTarget → List Text
  | group id => [id]
  | connection id => [id]
  | scope connectionId kind value => [connectionId, kind, value]

/-- `mcp_access.rs:139`, the derived `Ord`. -/
def order : McpRuleTarget → McpRuleTarget → Ordering :=
  compareLex (compareOn variant) (compareOn fields)

instance : Std.TransCmp order := inferInstanceAs (Std.TransCmp (compareLex _ _))

instance : Std.LawfulEqCmp order where
  compare_self {target} := by simp [order, compareLex, compareOn]
  eq_of_compare {a b} h := by
    rw [order, compareLex_eq_eq] at h
    have hvariant : variant a = variant b := Std.LawfulEqCmp.eq_of_compare h.1
    have hfields : fields a = fields b := Std.LawfulEqCmp.eq_of_compare h.2
    cases a <;> cases b <;> simp_all [variant, fields]

end McpRuleTarget

/-- `mcp_access.rs:188`. -/
inductive McpSubScopeMode
  | all
  | selected
  | none
  deriving DecidableEq, Repr

/-- `mcp_access.rs:197`. -/
inductive McpVisibilityMode
  | all
  | selected
  deriving DecidableEq, Repr

/-- `mcp_access.rs:160`, without `sub_scope_kind`, which only the settings editor reads. -/
structure McpAccessRule where
  access : Option McpAccessLevel
  ceiling : Option McpAccessLevel
  visible : Option Bool
  subScope : Option McpSubScopeMode
  toolsetCeilings : Std.TreeMap Text McpAccessLevel compare

/-- `mcp_access.rs:206`. -/
def salesforceWriteToolset : Text := "salesforce.write"

/-- The sub-scope kind that v1 knows. -/
def databaseScopeKind : Text := "database"

/-- `mcp_access.rs:212`. -/
structure McpAccessPolicy where
  version : UInt8
  defaultAccess : McpAccessLevel
  confirm : McpConfirmPolicy
  visibility : McpVisibilityMode
  rules : Std.TreeMap McpRuleTarget McpAccessRule McpRuleTarget.order
  allowedToolNames : Option (List Text)
  queryTimeoutSecs : Option Nat
  pluginToolsMode : McpPluginToolsMode

/-- `mcp_access.rs:320`. -/
inductive McpAccessSource
  | default
  | group (id : Text)
  | connection
  | scope
  deriving DecidableEq, Repr

/-- `mcp_access.rs:330`. -/
structure McpResolvedAccess where
  visible : Bool
  level : McpAccessLevel
  source : McpAccessSource
  deriving DecidableEq, Repr

namespace McpAccessPolicy

/-! ### Resolution -/

variable (p : McpAccessPolicy)

/-- `mcp_access.rs:337`. -/
def rule (target : McpRuleTarget) : Option McpAccessRule := p.rules[target]?

/-- `mcp_access.rs:341`. -/
def connectionRule (connectionId : Text) : Option McpAccessRule :=
  p.rule (.connection connectionId)

variable (groupIds : List Text) (connectionId : Text)

/-- `mcp_access.rs:346`. -/
def connectionVisible : Bool :=
  let visible := (p.connectionRule connectionId).bind McpAccessRule.visible
  if visible = some false then false
  else match p.visibility with
    | .all => true
    | .selected =>
      visible == some true ||
        groupIds.any fun groupId =>
          (p.rule (.group groupId)).bind McpAccessRule.visible == some true

/-- `mcp_access.rs:373-380` and `470-477`: a level of the rule replaces the inherited one, and a
ceiling below the result replaces that. -/
def applyRule (rule : McpAccessRule) (source : McpAccessSource)
    (resolved : McpAccessLevel × McpAccessSource) : McpAccessLevel × McpAccessSource :=
  let resolved := match rule.access with
    | some level => (level, source)
    | none => resolved
  match rule.ceiling with
  | some ceiling => if ceiling < resolved.1 then (ceiling, source) else resolved
  | none => resolved

/-- `mcp_access.rs:368-371`. -/
def resolveGroup (resolved : McpAccessLevel × McpAccessSource)
    (groupId : Text) : McpAccessLevel × McpAccessSource :=
  match (p.rule (.group groupId)).bind McpAccessRule.access with
  | some level => (level, .group groupId)
  | none => resolved

/-- `mcp_access.rs:366-372`: the closest group with a level decides. -/
def groupAccess : McpAccessLevel × McpAccessSource :=
  groupIds.foldl p.resolveGroup (p.defaultAccess, .default)

/-- `mcp_access.rs:365`. -/
def connectionAccess : McpAccessLevel × McpAccessSource :=
  match p.connectionRule connectionId with
  | some rule => applyRule rule .connection (p.groupAccess groupIds)
  | none => p.groupAccess groupIds

/-- `mcp_access.rs:405`. -/
def subScopeMode : McpSubScopeMode :=
  ((p.connectionRule connectionId).bind McpAccessRule.subScope).getD .all

/-- `mcp_access.rs:385`. -/
def subScopeVisible (connectionId scope value : Text) : Bool :=
  let visible := (p.rule (.scope connectionId scope value)).bind McpAccessRule.visible
  if visible = some false then false
  else match p.subScopeMode connectionId with
    | .all => true
    | .selected => visible == some true
    | .none => false

/-- `mcp_access.rs:454`. -/
def resolve (subScope : Option (Text × Text)) : McpResolvedAccess :=
  let visible := p.connectionVisible groupIds connectionId &&
    subScope.all fun sub => p.subScopeVisible connectionId sub.1 sub.2
  let resolved := p.connectionAccess groupIds connectionId
  let resolved :=
    match subScope.bind fun sub => p.rule (.scope connectionId sub.1 sub.2) with
    | some rule => applyRule rule .scope resolved
    | none => resolved
  { visible, level := if visible then resolved.1 else .none, source := resolved.2 }

/-- `mcp_access.rs:485`. -/
def toolsetCeiling (connectionId toolset : Text) : Option McpAccessLevel :=
  ((p.connectionRule connectionId).bind fun rule => rule.toolsetCeilings[toolset]?).or
    (if toolset = salesforceWriteToolset then some .read else none)

end McpAccessPolicy

end DbxSpec.Mcp
