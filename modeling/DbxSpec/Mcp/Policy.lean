import DbxSpec.Base.Text
import DbxSpec.Base.KeyedFold

/-!
# The persisted MCP policy

The v1 policy of `crates/dbx-core/src/persistence/storage.rs:651-1111` with its normalisation,
and its evaluation in `crates/dbx-core/src/ai/mcp_policy.rs:92-182`. The source collects rules
in a `HashMap` and sorts the values by the key that each carries; here the map is sorted.
-/

namespace DbxSpec.Mcp

open DbxSpec.Base

/-! ### Records -/

/-- `mcp_access.rs:101`. -/
inductive McpConfirmPolicy
  | off
  | full
  | highRisk
  deriving DecidableEq, Repr

/-- `mcp_access.rs:30`. -/
inductive McpPluginToolsMode
  | auto
  | flat
  | lazy
  deriving DecidableEq, Repr

/-- `storage.rs:765`. -/
inductive McpDatabaseScope
  | all
  | selected
  | none
  deriving DecidableEq, Repr

/-- `storage.rs:750`. -/
structure McpDatabasePolicy where
  databaseName : Text
  readOnly : Bool
  allowDangerousSql : Bool
  deriving DecidableEq, Repr

/-- `storage.rs:689`. -/
structure McpGroupPolicy where
  groupId : Text
  readOnly : Bool
  allowDangerousSql : Bool
  deriving DecidableEq, Repr

/-- `storage.rs:703`. -/
structure McpConnectionPolicy where
  connectionId : Text
  readOnly : Bool
  allowDangerousSql : Bool
  executionModeConfigured : Bool
  executionModePolicyVersion : Option UInt8
  databaseScope : McpDatabaseScope
  allowedDatabases : List Text
  databasePolicies : List McpDatabasePolicy
  allowSalesforceDml : Bool
  deriving DecidableEq, Repr

/-- `storage.rs:652`. -/
structure McpGlobalPolicy where
  readOnly : Bool
  allowDangerousSql : Bool
  promptHighRiskSql : Bool
  callConfirmation : Option McpConfirmPolicy
  allowedConnectionIds : Option (List Text)
  allowedGroupIds : List Text
  allowedToolNames : Option (List Text)
  connectionPolicies : List McpConnectionPolicy
  groupPolicies : List McpGroupPolicy
  queryTimeoutSecs : Option Nat
  pluginToolsMode : McpPluginToolsMode
  deriving DecidableEq, Repr

/-- `mcp_policy.rs:10`. -/
def mcpExecutionPolicyVersion : UInt8 := 1

/-- `mcp_policy.rs:13`. -/
structure McpConnectionGroupPath where
  ids : List Text
  names : List Text
  deriving DecidableEq, Repr

/-! ### Normalisation -/

/-- `storage.rs:1033`. -/
def normalizeMcpIds (ids : List Text) : List Text :=
  sortDedup ((ids.map trim).filter (!·.isEmpty))

/-- `storage.rs:1040`, the same as `normalizeMcpIds`. -/
def normalizeMcpDatabaseNames (databases : List Text) : List Text := normalizeMcpIds databases

/-- The loops of `storage.rs:913`, `989` and `1054`: rules are collected under their trimmed key,
rules without a key are passed over and a rule for a known key is merged into the earlier one. -/
def collectByKey {α ν : Type} (key : α → Text) (insert : Text → α → ν) (merge : α → ν → ν)
    (rules : List α) : Std.TreeMap Text ν compare :=
  foldEntries (fun rule => if (trim (key rule)).isEmpty then none else some (trim (key rule)))
    (fun rule entry => match entry with
      | some current => some (merge rule current)
      | none => some (insert (trim (key rule)) rule)) rules ∅

/-- `storage.rs:1052`. -/
def normalizeMcpDatabasePolicies (policies : List McpDatabasePolicy) : List McpDatabasePolicy :=
  let normalized := collectByKey McpDatabasePolicy.databaseName
    (fun databaseName policy =>
      { databaseName, readOnly := policy.readOnly,
        allowDangerousSql := !policy.readOnly && policy.allowDangerousSql : McpDatabasePolicy })
    (fun policy current =>
      { current with
        readOnly := current.readOnly || policy.readOnly
        allowDangerousSql := current.allowDangerousSql && policy.allowDangerousSql }) policies
  (normalized.toList.map Prod.snd).map fun policy =>
    if policy.readOnly then { policy with allowDangerousSql := false } else policy

/-- `storage.rs:1083`. -/
def mergeMcpDatabasePolicies (left right : List McpDatabasePolicy) : List McpDatabasePolicy :=
  normalizeMcpDatabasePolicies (left ++ right)

/-- `storage.rs:1090`. -/
def intersectMcpDatabaseScopes (leftScope : McpDatabaseScope) (leftDatabases : List Text)
    (rightScope : McpDatabaseScope) (rightDatabases : List Text) :
    McpDatabaseScope × List Text :=
  match leftScope, rightScope with
  | .none, _ => (.none, [])
  | _, .none => (.none, [])
  | .all, .all => (.all, [])
  | .all, .selected => (.selected, normalizeMcpDatabaseNames rightDatabases)
  | .selected, .all => (.selected, normalizeMcpDatabaseNames leftDatabases)
  | .selected, .selected =>
    let right := normalizeMcpDatabaseNames rightDatabases
    (.selected, (normalizeMcpDatabaseNames leftDatabases).filter right.contains)

/-- `storage.rs:920-956`: a second rule for a connection only narrows the first. -/
def McpConnectionPolicy.conjoin (rule current : McpConnectionPolicy) : McpConnectionPolicy :=
  let intersection := intersectMcpDatabaseScopes current.databaseScope current.allowedDatabases
    rule.databaseScope rule.allowedDatabases
  { current with
    readOnly :=
      if rule.executionModeConfigured then
        if current.executionModeConfigured then current.readOnly || rule.readOnly
        else rule.readOnly
      else current.readOnly
    allowDangerousSql :=
      if rule.executionModeConfigured then
        if current.executionModeConfigured then current.allowDangerousSql && rule.allowDangerousSql
        else rule.allowDangerousSql
      else current.allowDangerousSql
    executionModeConfigured := current.executionModeConfigured || rule.executionModeConfigured
    executionModePolicyVersion :=
      match current.executionModePolicyVersion, rule.executionModePolicyVersion with
      | some left, some right =>
        if left == mcpExecutionPolicyVersion && right == left then some left else none
      | _, _ => none
    databaseScope := intersection.1
    allowedDatabases := intersection.2
    databasePolicies := mergeMcpDatabasePolicies current.databasePolicies rule.databasePolicies
    allowSalesforceDml := current.allowSalesforceDml && rule.allowSalesforceDml }

/-- `storage.rs:957-967`. -/
def McpConnectionPolicy.enter (connectionId : Text) (rule : McpConnectionPolicy) :
    McpConnectionPolicy :=
  { rule with
    connectionId
    allowedDatabases := normalizeMcpDatabaseNames rule.allowedDatabases
    databasePolicies := normalizeMcpDatabasePolicies rule.databasePolicies }

/-- `storage.rs:971-986`. -/
def McpConnectionPolicy.close (rule : McpConnectionPolicy) : McpConnectionPolicy :=
  let allowedDatabases := normalizeMcpDatabaseNames rule.allowedDatabases
  { rule with
    allowDangerousSql := !rule.readOnly && rule.allowDangerousSql
    allowSalesforceDml := !rule.readOnly && rule.allowSalesforceDml
    allowedDatabases := if rule.databaseScope = .selected then allowedDatabases else []
    databasePolicies :=
      if rule.databaseScope = .selected then
        rule.databasePolicies.filter fun policy => allowedDatabases.contains policy.databaseName
      else [] }

variable (policy : McpGlobalPolicy)

/-- `storage.rs:879`. -/
def McpGlobalPolicy.confirmationPolicy : McpConfirmPolicy :=
  policy.callConfirmation.getD (if policy.promptHighRiskSql then .full else .off)

/-- `storage.rs:988-1012`. -/
def normalizeGroupPolicies (rules : List McpGroupPolicy) : List McpGroupPolicy :=
  let policies := collectByKey McpGroupPolicy.groupId
    (fun groupId rule =>
      { groupId, readOnly := rule.readOnly,
        allowDangerousSql := !rule.readOnly && rule.allowDangerousSql : McpGroupPolicy })
    (fun rule current =>
      { current with
        readOnly := current.readOnly || rule.readOnly
        allowDangerousSql := current.allowDangerousSql && rule.allowDangerousSql }) rules
  (policies.toList.map Prod.snd).map fun rule =>
    if rule.readOnly then { rule with allowDangerousSql := false } else rule

/-- `storage.rs:912-986`. -/
def normalizeConnectionPolicies (rules : List McpConnectionPolicy) : List McpConnectionPolicy :=
  ((collectByKey McpConnectionPolicy.connectionId McpConnectionPolicy.enter
    McpConnectionPolicy.conjoin rules).toList.map Prod.snd).map McpConnectionPolicy.close

/-- `storage.rs:890`. -/
def McpGlobalPolicy.normalized : McpGlobalPolicy :=
  { readOnly := policy.readOnly
    allowDangerousSql := !policy.readOnly && policy.allowDangerousSql
    promptHighRiskSql := policy.confirmationPolicy = .full
    callConfirmation := if policy.confirmationPolicy = .highRisk then some .highRisk else none
    allowedConnectionIds := policy.allowedConnectionIds.map normalizeMcpIds
    allowedGroupIds :=
      if policy.allowedConnectionIds.isSome then normalizeMcpIds policy.allowedGroupIds else []
    allowedToolNames := policy.allowedToolNames.map normalizeMcpIds
    connectionPolicies := normalizeConnectionPolicies policy.connectionPolicies
    groupPolicies := normalizeGroupPolicies policy.groupPolicies
    queryTimeoutSecs := policy.queryTimeoutSecs
    pluginToolsMode := policy.pluginToolsMode }

/-! ### Looking up one key after normalisation -/

/-- A name that normalisation leaves alone: not empty and without surrounding white space. -/
def Trimmed (name : Text) : Prop := name ≠ [] ∧ trim name = name
  deriving Decidable

/-- Trimmed names stay. -/
theorem mem_normalizeMcpIds {ids : List Text} (htrimmed : ∀ id ∈ ids, Trimmed id) {id : Text} :
    id ∈ normalizeMcpIds ids ↔ id ∈ ids := by
  simp only [normalizeMcpIds, mem_sortDedup, List.mem_filter, List.mem_map]
  constructor
  · rintro ⟨⟨other, hother, rfl⟩, -⟩
    rw [(htrimmed other hother).2]
    exact hother
  · intro hid
    exact ⟨⟨id, hid, (htrimmed id hid).2⟩, by simp [(htrimmed id hid).1]⟩

section Collect

variable {α ν : Type} {key : α → Text} {insert : Text → α → ν} {merge : α → ν → ν} {id : ν → Text}

/-- What is collected under a key has it as its name. -/
theorem collectByKey_id (hinsert : ∀ k rule, id (insert k rule) = k)
    (hmerge : ∀ rule v, id (merge rule v) = id v) (rules : List α) :
    ∀ k v, (collectByKey key insert merge rules)[k]? = some v → id v = k := by
  refine foldEntries_invariant (by simp) ?_
  intro rule k entry v hkey hentry hv
  cases entry with
  | some current =>
    cases hv
    rw [hmerge, hentry current rfl]
  | none =>
    cases hv
    rw [hinsert]
    split at hkey
    · cases hkey
    · simpa using hkey

variable {k : Text}

/-- A key that one rule names once holds that rule. -/
theorem getElem?_collectByKey {rules : List α} (htrimmed : ∀ rule ∈ rules, Trimmed (key rule))
    {own : Option α} (hown : rules.filter (fun rule => key rule = k) = own.toList) :
    (collectByKey key insert merge rules)[k]? = own.map (insert k) := by
  have hkeys : ∀ rule ∈ rules,
      (decide ((if (trim (key rule)).isEmpty then none else some (trim (key rule))) = some k)) =
        decide (key rule = k) := by
    intro rule hrule
    obtain ⟨hne, htrim⟩ := htrimmed rule hrule
    simp [htrim, hne]
  rw [collectByKey, getElem?_foldEntries, List.filter_congr hkeys, hown]
  rcases own with _ | rule
  · simp
  have hmem : rule ∈ rules.filter (fun rule => key rule = k) := by simp [hown]
  obtain ⟨hrule, hkey⟩ := List.mem_filter.mp hmem
  obtain rfl : key rule = k := by simpa using hkey
  simp [(htrimmed rule hrule).2]

/-- Where every rule adds its own test, the rules for a key pass together if each does. -/
theorem all_collectByKey {p : ν → Bool} {q : α → Bool}
    (hinsert : ∀ k rule, p (insert k rule) = q rule)
    (hmerge : ∀ rule v, p (merge rule v) = (p v && q rule)) (rules : List α) :
    (collectByKey key insert merge rules)[k]?.all p ↔
      ∀ rule ∈ rules, trim (key rule) ≠ [] → trim (key rule) = k → q rule := by
  have hfold : ∀ (own : List α) entry, (own.foldl (fun entry rule => match entry with
      | some current => some (merge rule current)
      | none => some (insert (trim (key rule)) rule)) entry).all p =
        (entry.all p && own.all q) := by
    intro own
    induction own with
    | nil => simp
    | cons rule own ih =>
      intro entry
      rw [List.foldl_cons, ih]
      cases entry <;> simp [hinsert, hmerge, Bool.and_assoc]
  rw [collectByKey, getElem?_foldEntries]
  refine (Eq.congr_left (hfold _ _)).trans ?_
  simp [or_iff_not_imp_left]

private theorem find?_collectByKey (hinsert : ∀ k rule, id (insert k rule) = k)
    (hmerge : ∀ rule v, id (merge rule v) = id v) {finish : ν → ν}
    (hfinish : ∀ v, id (finish v) = id v) {rules : List α}
    (htrimmed : ∀ rule ∈ rules, Trimmed (key rule)) {own : Option α}
    (hown : rules.filter (fun rule => key rule = k) = own.toList) :
    (((collectByKey key insert merge rules).toList.map Prod.snd).map finish).find?
        (fun v => id v = k) = own.map fun rule => finish (insert k rule) := by
  have hids : ((fun v => decide (id v = k)) ∘ finish) = fun v => decide (id v = k) := by
    funext v
    simp [hfinish]
  rw [List.find?_map, hids, find?_values (collectByKey_id hinsert hmerge rules),
    getElem?_collectByKey htrimmed hown, Option.map_map]
  rfl

end Collect

/-- The one rule of a group. -/
theorem find?_normalizeGroupPolicies {rules : List McpGroupPolicy}
    (htrimmed : ∀ rule ∈ rules, Trimmed rule.groupId) {own : Option McpGroupPolicy}
    (hown : rules.filter (fun rule => rule.groupId = k) = own.toList) :
    (normalizeGroupPolicies rules).find? (fun rule => rule.groupId = k) = own.map fun rule =>
        { groupId := k, readOnly := rule.readOnly,
          allowDangerousSql := !rule.readOnly && rule.allowDangerousSql } := by
  rw [normalizeGroupPolicies, find?_collectByKey (by simp) (by simp) ?_ htrimmed hown]
  · congr 1
    funext rule
    cases rule.readOnly <;> simp
  · intro rule
    split <;> rfl

/-- The one rule of a database. -/
theorem find?_normalizeMcpDatabasePolicies {policies : List McpDatabasePolicy}
    (htrimmed : ∀ policy ∈ policies, Trimmed policy.databaseName) {own : Option McpDatabasePolicy}
    (hown : policies.filter (fun policy => policy.databaseName = k) = own.toList) :
    (normalizeMcpDatabasePolicies policies).find? (fun policy => policy.databaseName = k) =
      own.map fun policy =>
        { databaseName := k, readOnly := policy.readOnly,
          allowDangerousSql := !policy.readOnly && policy.allowDangerousSql } := by
  rw [normalizeMcpDatabasePolicies, find?_collectByKey (by simp) (by simp) ?_ htrimmed hown]
  · congr 1
    funext policy
    cases policy.readOnly <;> simp
  · intro policy
    split <;> rfl

/-- The one rule of a connection. -/
theorem find?_normalizeConnectionPolicies {rules : List McpConnectionPolicy}
    (htrimmed : ∀ rule ∈ rules, Trimmed rule.connectionId) {own : Option McpConnectionPolicy}
    (hown : rules.filter (fun rule => rule.connectionId = k) = own.toList) :
    (normalizeConnectionPolicies rules).find? (fun rule => rule.connectionId = k) =
      own.map fun rule => (rule.enter k).close := by
  rw [normalizeConnectionPolicies, find?_collectByKey (by simp [McpConnectionPolicy.enter])
    (by simp [McpConnectionPolicy.conjoin]) (by simp [McpConnectionPolicy.close]) htrimmed hown]

/-! ### Evaluation -/

/-- `mcp_policy.rs:92`. -/
def policyAllowsConnection (groupPath : Option McpConnectionGroupPath)
    (connectionId : Text) : Bool :=
  policy.allowedConnectionIds.all fun allowed =>
    allowed.contains connectionId ||
      groupPath.any fun path => path.ids.any policy.allowedGroupIds.contains

/-- The first rule of a connection, as `mcp_policy.rs:138` and `177` search it. -/
def McpGlobalPolicy.connectionPolicy (connectionId : Text) : Option McpConnectionPolicy :=
  policy.connectionPolicies.find? fun rule => rule.connectionId = connectionId

/-- `mcp_access.rs:1127`, the check of `dbx-web/src/routes/mcp_policy.rs:266`. -/
def v1DatabaseVisible (connectionId database : Text) : Bool :=
  match policy.connectionPolicy connectionId with
  | none => true
  | some rule =>
    match rule.databaseScope with
    | .all => true
    | .selected => rule.allowedDatabases.contains database
    | .none => false

/-- `mcp_policy.rs:164`. -/
def applyCeiling (current ceiling : Bool × Bool) : Bool × Bool :=
  let readOnly := current.1 || ceiling.1
  (readOnly, !readOnly && current.2 && ceiling.2)

/-- `mcp_policy.rs:134-136`. -/
def inheritGroup (effective : Bool × Bool) (groupId : Text) : Bool × Bool :=
  match policy.groupPolicies.find? fun rule => rule.groupId = groupId with
  | some rule => (rule.readOnly, !rule.readOnly && rule.allowDangerousSql)
  | none => effective

/-- `mcp_policy.rs:132-137`: the closest group with a rule decides. -/
def inheritedExecutionPolicy (groupIds : List Text) : Bool × Bool :=
  groupIds.foldl (inheritGroup policy) (policy.readOnly, policy.allowDangerousSql)

/-- `mcp_policy.rs:126`; a pair is `(read_only, allow_dangerous_sql)`. -/
def effectiveDatabaseExecutionPolicyWithGroups (groupIds : List Text)
    (connectionId database : Text) : Bool × Bool :=
  let effective := inheritedExecutionPolicy policy groupIds
  match policy.connectionPolicy connectionId with
  | none => effective
  | some rule =>
    let databasePolicy := rule.databasePolicies.find? fun entry => entry.databaseName = database
    if rule.executionModePolicyVersion = some mcpExecutionPolicyVersion then
      let effective :=
        if rule.executionModeConfigured then
          (rule.readOnly, !rule.readOnly && rule.allowDangerousSql)
        else effective
      match databasePolicy with
      | some entry => (entry.readOnly, !entry.readOnly && entry.allowDangerousSql)
      | none => effective
    else
      let effective :=
        if rule.executionModeConfigured then
          applyCeiling effective (rule.readOnly, rule.allowDangerousSql)
        else effective
      match databasePolicy with
      | some entry => applyCeiling effective (entry.readOnly, entry.allowDangerousSql)
      | none => effective

/-- `mcp_policy.rs:176`. -/
def connectionAllowsSalesforceDml (connectionId : Text) : Bool :=
  (policy.connectionPolicy connectionId).any fun rule => rule.allowSalesforceDml && !rule.readOnly

end DbxSpec.Mcp
