import DbxSpec.Mcp.Policy

/-!
# Normalised policies

`McpGlobalPolicy::normalized` (`crates/dbx-core/src/persistence/storage.rs:890-1030`) is
idempotent: what it returns has its rules in the order of their keys, one for each key, every
key trimmed and every rule in the form that a second pass leaves alone. The rules for one
connection are joined: a database is visible if all of them show it.
-/

namespace DbxSpec.Mcp

open DbxSpec.Base McpConnectionPolicy List

/-! ### Lists of rules -/

/-- One rule for each key, in the order of the keys, which are trimmed. -/
structure Keyed {α : Type} (key : α → Text) (rules : List α) : Prop where
  sorted : SortedBy compare key rules
  trimmed : ∀ rule ∈ rules, Trimmed (key rule)

private theorem Keyed.filter {α : Type} {key : α → Text} {rules : List α} (h : Keyed key rules)
    (p : α → Bool) : Keyed key (rules.filter p) :=
  ⟨List.Pairwise.filter p h.sorted, fun rule hrule => h.trimmed rule (mem_of_mem_filter hrule)⟩

private theorem Keyed.map {α : Type} {key : α → Text} {rules : List α} (h : Keyed key rules)
    {f : α → α} (hf : ∀ rule, key (f rule) = key rule) : Keyed key (rules.map f) := by
  constructor
  · rw [SortedBy, pairwise_map]
    simp only [hf]
    exact h.sorted
  · simpa only [forall_mem_map, hf] using h.trimmed

private theorem Keyed.find?_eq {α : Type} {key : α → Text} {rules : List α} (h : Keyed key rules)
    {rule : α} (hrule : rule ∈ rules) :
    rules.find? (fun other => key other = key rule) = some rule := by
  have hmem : rule ∈ rules.filter fun other => key other = key rule := by simp [hrule]
  rw [h.sorted.filter_eq] at hmem
  simpa using hmem

section Collect

variable {α : Type} {key : α → Text} {insert : Text → α → α} {merge : α → α → α}

section

variable (hinsert : ∀ k rule, key (insert k rule) = k)

include hinsert

private theorem keyed_collectByKey (hmerge : ∀ rule v, key (merge rule v) = key v)
    (rules : List α) : Keyed key ((collectByKey key insert merge rules).toList.map Prod.snd) := by
  have hid : ∀ k rule, (collectByKey key insert merge rules)[k]? = some rule → key rule = k :=
    collectByKey_id hinsert hmerge rules
  refine ⟨sortedBy_values hid, ?_⟩
  simp only [forall_mem_map]
  rintro ⟨k, rule⟩ hentry
  have hget := Std.TreeMap.mem_toList_iff_getElem?_eq_some.mp hentry
  rw [hid k rule hget]
  rcases foldEntries_source hget with hempty | ⟨item, -, hkey⟩
  · simp at hempty
  · split at hkey
    · cases hkey
    · next hne =>
      cases hkey
      exact ⟨by simpa using hne, trim_trim _⟩

private theorem collectByKey_eq_self (hmerge : ∀ rule v, key (merge rule v) = key v)
    {finish : α → α}
    (hfinish : ∀ rule, key (finish rule) = key rule) {rules : List α} (hrules : Keyed key rules)
    (hfixed : ∀ rule ∈ rules, finish (insert (key rule) rule) = rule) :
    ((collectByKey key insert merge rules).toList.map Prod.snd).map finish = rules := by
  have hget (k : Text) : (collectByKey key insert merge rules)[k]? =
      (rules.find? fun rule => key rule = k).map (insert k) :=
    getElem?_collectByKey hrules.trimmed (hrules.sorted.filter_eq k)
  refine ((keyed_collectByKey hinsert hmerge rules).map hfinish).sorted.eq_of_mem_iff
    hrules.sorted fun rule => ?_
  simp only [mem_map, Prod.exists, exists_eq_right,
    Std.TreeMap.mem_toList_iff_getElem?_eq_some, hget, Option.map_eq_some_iff]
  constructor
  · rintro ⟨_, ⟨k, own, hown, rfl⟩, rfl⟩
    obtain rfl : key own = k := by simpa using find?_some hown
    rw [hfixed own (mem_of_find?_eq_some hown)]
    exact mem_of_find?_eq_some hown
  · intro hrule
    exact ⟨_, ⟨key rule, rule, hrules.find?_eq hrule, rfl⟩, hfixed rule hrule⟩

end

end Collect

/-! ### Names -/

private theorem keyed_normalizeMcpIds (ids : List Text) : Keyed id (normalizeMcpIds ids) := by
  refine ⟨sortedBy_sortDedup _, ?_⟩
  intro name hname
  simp only [normalizeMcpIds, mem_sortDedup, mem_filter, mem_map] at hname
  obtain ⟨⟨other, -, rfl⟩, hne⟩ := hname
  exact ⟨by simpa using hne, trim_trim other⟩

private theorem normalizeMcpIds_eq_self {ids : List Text} (h : Keyed id ids) :
    normalizeMcpIds ids = ids :=
  (keyed_normalizeMcpIds ids).sorted.eq_of_mem_iff h.sorted fun _ => mem_normalizeMcpIds h.trimmed

@[simp] private theorem normalizeMcpIds_normalizeMcpIds (ids : List Text) :
    normalizeMcpIds (normalizeMcpIds ids) = normalizeMcpIds ids :=
  normalizeMcpIds_eq_self (keyed_normalizeMcpIds ids)

/-! ### Rules of databases and groups -/

/-- Database rules that a second pass leaves alone. -/
structure NormalDatabasePolicies (policies : List McpDatabasePolicy) : Prop where
  keyed : Keyed McpDatabasePolicy.databaseName policies
  readOnly : ∀ policy ∈ policies, policy.readOnly → policy.allowDangerousSql = false

private theorem NormalDatabasePolicies.filter {policies : List McpDatabasePolicy}
    (h : NormalDatabasePolicies policies) (p : McpDatabasePolicy → Bool) :
    NormalDatabasePolicies (policies.filter p) :=
  ⟨h.keyed.filter p, fun policy hpolicy => h.readOnly policy (mem_of_mem_filter hpolicy)⟩

private theorem normalDatabasePolicies_normalize (policies : List McpDatabasePolicy) :
    NormalDatabasePolicies (normalizeMcpDatabasePolicies policies) := by
  constructor
  · refine (keyed_collectByKey (by simp) (by simp) policies).map ?_
    intro policy
    split <;> rfl
  · simp only [normalizeMcpDatabasePolicies, forall_mem_map]
    intro entry _
    split
    · simp
    · next hwritable => simp [hwritable]

private theorem NormalDatabasePolicies.normalize_eq {policies : List McpDatabasePolicy}
    (h : NormalDatabasePolicies policies) : normalizeMcpDatabasePolicies policies = policies := by
  refine collectByKey_eq_self (by simp) (by simp) ?_ h.keyed ?_
  · intro policy
    split <;> rfl
  · intro policy hpolicy
    have hreadOnly := h.readOnly policy hpolicy
    obtain ⟨name, readOnly, allowDangerousSql⟩ := policy
    cases readOnly <;> simp_all

/-- Group rules that a second pass leaves alone. -/
structure NormalGroupPolicies (policies : List McpGroupPolicy) : Prop where
  keyed : Keyed McpGroupPolicy.groupId policies
  readOnly : ∀ policy ∈ policies, policy.readOnly → policy.allowDangerousSql = false

/-- Normalized group rules are normal. -/
theorem normalGroupPolicies_normalize (policies : List McpGroupPolicy) :
    NormalGroupPolicies (normalizeGroupPolicies policies) := by
  constructor
  · refine (keyed_collectByKey (by simp) (by simp) policies).map ?_
    intro policy
    split <;> rfl
  · simp only [normalizeGroupPolicies, forall_mem_map]
    intro entry _
    split
    · simp
    · next hwritable => simp [hwritable]

private theorem NormalGroupPolicies.normalize_eq {policies : List McpGroupPolicy}
    (h : NormalGroupPolicies policies) : normalizeGroupPolicies policies = policies := by
  refine collectByKey_eq_self (by simp) (by simp) ?_ h.keyed ?_
  · intro policy
    split <;> rfl
  · intro policy hpolicy
    have hreadOnly := h.readOnly policy hpolicy
    obtain ⟨name, readOnly, allowDangerousSql⟩ := policy
    cases readOnly <;> simp_all

/-! ### Rules of connections -/

private theorem close_enter_close {rule : McpConnectionPolicy}
    (hdatabases : NormalDatabasePolicies rule.databasePolicies) :
    (rule.close.enter rule.connectionId).close = rule.close := by
  have hfilter (p : McpDatabasePolicy → Bool) := (hdatabases.filter p).normalize_eq
  simp only [close, enter, normalizeMcpDatabaseNames]
  by_cases hscope : rule.databaseScope = .selected
  · simp [hscope, hfilter]
  · simp [hscope]

/-- Connection rules that a second pass leaves alone. -/
structure NormalConnectionPolicies (rules : List McpConnectionPolicy) : Prop where
  keyed : Keyed connectionId rules
  databases : ∀ rule ∈ rules, NormalDatabasePolicies rule.databasePolicies
  names : ∀ rule ∈ rules, Keyed id rule.allowedDatabases
  closed : ∀ rule ∈ rules, (rule.enter rule.connectionId).close = rule

private theorem collected_databases (rules : List McpConnectionPolicy) :
    ∀ (k : Text) (rule : McpConnectionPolicy), (collectByKey connectionId enter
        conjoin rules)[k]? = some rule →
      NormalDatabasePolicies rule.databasePolicies := by
  refine foldEntries_invariant (by simp) ?_
  intro item k entry rule _ _ hrule
  cases entry with
  | none | some current =>
    cases hrule
    exact normalDatabasePolicies_normalize _

/-- Normalized connection rules are normal. -/
theorem normalConnectionPolicies_normalize (rules : List McpConnectionPolicy) :
    NormalConnectionPolicies (normalizeConnectionPolicies rules) := by
  have hcollected : Keyed connectionId ((collectByKey connectionId enter conjoin
      rules).toList.map Prod.snd) :=
    keyed_collectByKey (by intros; rfl) (by intros; rfl) rules
  have hdatabases : ∀ entry ∈ (collectByKey connectionId enter conjoin rules).toList,
      NormalDatabasePolicies entry.2.databasePolicies := by
    rintro ⟨k, rule⟩ hentry
    exact collected_databases rules k rule (Std.TreeMap.mem_toList_iff_getElem?_eq_some.mp hentry)
  refine ⟨hcollected.map fun _ => rfl, ?_, ?_, ?_⟩ <;>
    simp only [normalizeConnectionPolicies, forall_mem_map] <;> intro entry hentry
  · simp only [close]
    split
    · exact (hdatabases entry hentry).filter _
    · exact ⟨⟨.nil, by simp⟩, by simp⟩
  · simp only [close]
    split
    · exact keyed_normalizeMcpIds _
    · exact ⟨.nil, by simp⟩
  · exact close_enter_close (hdatabases entry hentry)

private theorem NormalConnectionPolicies.normalize_eq {rules : List McpConnectionPolicy}
    (h : NormalConnectionPolicies rules) : normalizeConnectionPolicies rules = rules :=
  collectByKey_eq_self (by intros; rfl) (by intros; rfl) (by intros; rfl) h.keyed h.closed

/-! ### Whole policies -/

private theorem McpGlobalPolicy.confirmationPolicy_normalized (policy : McpGlobalPolicy) :
    policy.normalized.confirmationPolicy = policy.confirmationPolicy := by
  rw [normalized, confirmationPolicy]
  cases policy.confirmationPolicy <;> rfl

/-- A second normalisation changes nothing. -/
theorem McpGlobalPolicy.normalized_normalized (policy : McpGlobalPolicy) :
    policy.normalized.normalized = policy.normalized := by
  have hconnections := (normalConnectionPolicies_normalize policy.connectionPolicies).normalize_eq
  have hgroups := (normalGroupPolicies_normalize policy.groupPolicies).normalize_eq
  have hnames (ids : Option (List Text)) :
      (ids.map normalizeMcpIds).map normalizeMcpIds = ids.map normalizeMcpIds := by
    cases ids <;> simp
  have hconfirmation := policy.confirmationPolicy_normalized
  rw [normalized, hconfirmation]
  simp only [normalized, hconnections, hgroups, hnames, Bool.and_self_left, Option.isSome_map]
  cases policy.allowedConnectionIds.isSome <;> simp

/-! ### Several rules for one connection -/

/-- The rule lets a database be seen. -/
def McpConnectionPolicy.shows (database : Text) (rule : McpConnectionPolicy) : Bool :=
  match rule.databaseScope with
  | .all => true
  | .selected => (normalizeMcpDatabaseNames rule.allowedDatabases).contains database
  | .none => false

private theorem shows_conjoin (database : Text) (rule current : McpConnectionPolicy) :
    (rule.conjoin current).shows database = (current.shows database && rule.shows database) := by
  have hboth := normalizeMcpIds_eq_self ((keyed_normalizeMcpIds current.allowedDatabases).filter
    (normalizeMcpIds rule.allowedDatabases).contains)
  cases hcurrent : current.databaseScope <;> cases hrule : rule.databaseScope <;>
    simp [shows, conjoin, intersectMcpDatabaseScopes, hcurrent, hrule, normalizeMcpDatabaseNames,
      hboth]

/-- After normalisation a database of a connection is visible exactly if every rule that names the
connection shows it, in whatever order the rules stand. -/
theorem v1DatabaseVisible_normalized (policy : McpGlobalPolicy) (connectionId database : Text) :
    v1DatabaseVisible policy.normalized connectionId database ↔
      ∀ rule ∈ policy.connectionPolicies, trim rule.connectionId ≠ [] →
        trim rule.connectionId = connectionId → rule.shows database := by
  have henter : ∀ k rule, (enter k rule).shows database = rule.shows database := by
    simp [shows, enter, normalizeMcpDatabaseNames]
  rw [← all_collectByKey henter (shows_conjoin database)]
  have hfind : policy.normalized.connectionPolicy connectionId =
      (collectByKey _ enter conjoin _)[connectionId]?.map close :=
    find?_map.trans (congrArg (Option.map close) (find?_values
      (collectByKey_id (by intros; rfl) (by intros; rfl) policy.connectionPolicies) connectionId))
  rw [v1DatabaseVisible, hfind]
  cases (collectByKey _ enter conjoin _)[connectionId]? with
  | none => simp
  | some rule => cases hscope : rule.databaseScope <;> simp [shows, close, hscope]

end DbxSpec.Mcp
