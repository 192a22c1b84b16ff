import DbxSpec.Mcp.ProjectionEntries

/-!
# The projection grants no more than the policy

Whatever a host that reads the v1 projection admits, the unified policy admits at no lower a
level. With the entry of one connection known, the comparison is a matter of the levels of one
connection rule and one database rule.
-/

namespace DbxSpec.Mcp

open DbxSpec.Base List McpConnectionGroupPath McpAccessRule McpRuleTarget McpGlobalPolicy

/-! ### Levels and flags -/

namespace McpAccessLevel

@[simp] private theorem fromFlagsPair_toFlags (level : McpAccessLevel) :
    fromFlagsPair level.toFlags = max level .read := by
  cases level <;> decide

@[simp] private theorem fromFlagsPair_readOnly (readOnly allowDangerousSql : Bool) :
    fromFlagsPair (readOnly, !readOnly && allowDangerousSql) =
      fromFlags readOnly allowDangerousSql := by
  cases readOnly <;> cases allowDangerousSql <;> rfl

@[simp] private theorem fromFlags_toFlags (level : McpAccessLevel) :
    fromFlags level.toFlags.1 level.toFlags.2 = max level .read :=
  fromFlagsPair_toFlags level

private theorem read_le_iff {level : McpAccessLevel} : .read ≤ level ↔ level ≠ .none := by
  cases level <;> decide

private theorem le_full (level : McpAccessLevel) : level ≤ .full := by
  cases level <;> decide

end McpAccessLevel

namespace McpAccessPolicy

private theorem applyRule_fst (rule : McpAccessRule) (source : McpAccessSource)
    (resolved : McpAccessLevel × McpAccessSource) :
    (applyRule rule source resolved).1 =
      min (rule.access.getD resolved.1) (rule.ceiling.getD .full) := by
  have hmin : ∀ level ceiling : McpAccessLevel,
      (if ceiling < level then ceiling else level) = min level ceiling := by
    intro level ceiling
    cases level <;> cases ceiling <;> decide
  unfold applyRule
  cases rule.access <;> cases hceiling : rule.ceiling with
  | none => simp [McpAccessLevel.le_full]
  | some ceiling =>
    simp only [Option.getD_some, Option.getD_none, ← hmin]
    split <;> rfl

variable {p : McpAccessPolicy} {rule : McpAccessRule} {resolved : McpAccessLevel × McpAccessSource}
  {connectionId database : Text} {level : McpAccessLevel}

/-! ### Levels of the projection -/

private theorem applyRule_ne_none {source : McpAccessSource} (hdenies : rule.denies = false)
    (hresolved : rule.access = none → resolved.1 ≠ .none) :
    (applyRule rule source resolved).1 ≠ .none := by
  simp only [denies, Bool.or_eq_false_iff, beq_eq_false_iff_ne] at hdenies
  obtain ⟨⟨-, haccess⟩, hceiling⟩ := hdenies
  have hlevel : rule.access.getD resolved.1 ≠ .none := by
    rcases hrule : rule.access with _ | level
    · exact hresolved hrule
    rintro rfl
    exact haccess hrule
  have hcap : rule.ceiling.getD .full ≠ .none := by
    rcases hrule : rule.ceiling with _ | ceiling
    · decide
    rintro rfl
    exact hceiling hrule
  rw [applyRule_fst, ← McpAccessLevel.read_le_iff]
  exact le_min (McpAccessLevel.read_le_iff.mpr hlevel) (McpAccessLevel.read_le_iff.mpr hcap)

private theorem pinnedLevel_le {source : McpAccessSource}
    (hlevel : p.pinnedLevel connectionId rule = some level)
    (hstrictest : rule.access = none → p.strictestConnectionLevel connectionId ≤ resolved.1) :
    level ≤ (applyRule rule source resolved).1 := by
  rw [applyRule_fst]
  unfold pinnedLevel at hlevel
  split at hlevel <;> rename_i haccess hceiling <;> simp only [haccess, hceiling] at *
  · cases hlevel
    exact le_rfl
  · cases hlevel
    exact le_min le_rfl (McpAccessLevel.le_full _)
  · cases hlevel
    exact le_min (le_trans (min_le_right _ _) (hstrictest trivial)) (min_le_left _ _)
  · cases hlevel

private theorem foldl_le_start {α β : Type} [Preorder α] {f : α → β → α}
    (hdecreasing : ∀ a b, f a b ≤ a) (entries : List β) (start : α) :
    entries.foldl f start ≤ start := by
  induction entries generalizing start with
  | nil => exact le_rfl
  | cons entry entries ih => exact le_trans (ih (f start entry)) (hdecreasing start entry)

private theorem foldl_le_of_mem {α β : Type} [Preorder α] {f : α → β → α}
    (hdecreasing : ∀ a b, f a b ≤ a) {entries : List β} {entry : β} (hentry : entry ∈ entries)
    {bound : α} (hbound : ∀ a, f a entry ≤ bound) (start : α) :
    entries.foldl f start ≤ bound := by
  obtain ⟨before, after, rfl⟩ := append_of_mem hentry
  rw [foldl_append, foldl_cons]
  exact le_trans (foldl_le_start hdecreasing after _) (hbound _)

private theorem narrowByGroup_le (strictest : McpAccessLevel)
    (entry : McpRuleTarget × McpAccessRule) : narrowByGroup strictest entry ≤ strictest := by
  unfold narrowByGroup
  split
  · exact min_le_left _ _
  · exact le_rfl

variable (groupIds : List Text)

private theorem groupAccess_source : (p.groupAccess groupIds).1 = p.defaultAccess ∨
      ∃ id rule, p.rule (.group id) = some rule ∧
        rule.access = some (p.groupAccess groupIds).1 := by
  refine foldlRecOn (motive := fun (resolved : McpAccessLevel × McpAccessSource) =>
    resolved.1 = p.defaultAccess ∨
      ∃ id rule, p.rule (.group id) = some rule ∧ rule.access = some resolved.1)
    groupIds p.resolveGroup (.inl rfl) ?_
  intro resolved hresolved groupId _
  unfold resolveGroup
  split
  · next level hlevel =>
    obtain ⟨rule, hrule, haccess⟩ := Option.bind_eq_some_iff.mp hlevel
    exact .inr ⟨groupId, rule, hrule, haccess⟩
  · exact hresolved

private theorem strictestInheritedLevel_le :
    p.strictestInheritedLevel ≤ (p.groupAccess groupIds).1 := by
  rcases p.groupAccess_source groupIds with hdefault | ⟨id, rule, hrule, haccess⟩
  · rw [hdefault]
    exact foldl_le_start narrowByGroup_le _ _
  · have hentry : (.group id, rule) ∈ p.rules.toList := p.mem_rules_iff.mpr hrule
    refine foldl_le_of_mem narrowByGroup_le hentry (fun strictest => ?_) _
    simp [narrowByGroup, haccess]

private theorem strictestConnectionLevel_le (connectionId : Text) :
    p.strictestConnectionLevel connectionId ≤ (p.connectionAccess groupIds connectionId).1 := by
  have hinherited := p.strictestInheritedLevel_le groupIds
  unfold strictestConnectionLevel connectionAccess
  rcases p.connectionRule connectionId with _ | rule
  · exact hinherited
  have haccess : rule.access.getD p.strictestInheritedLevel ≤
      rule.access.getD (p.groupAccess groupIds).1 := by
    cases rule.access with
    | none => exact hinherited
    | some level => exact le_rfl
  dsimp only
  rw [applyRule_fst]
  cases rule.ceiling with
  | none => exact le_min haccess (McpAccessLevel.le_full _)
  | some ceiling => exact min_le_min haccess le_rfl

section

variable (hrule : p.connectionRule connectionId = some rule)

include hrule

private theorem pinnedConnectionLevel_le (hlevel : p.pinnedLevel connectionId rule = some level) :
    level ≤ (p.connectionAccess groupIds connectionId).1 := by
  simp only [connectionAccess, hrule]
  refine pinnedLevel_le hlevel fun haccess => ?_
  have hinherited := p.strictestInheritedLevel_le groupIds
  simp only [strictestConnectionLevel, hrule, haccess, Option.getD_none]
  cases rule.ceiling with
  | none => exact hinherited
  | some ceiling => exact le_trans (min_le_left _ _) hinherited

private theorem projectedConnectionLevel_le
    (hlevel : p.projectedConnectionLevel connectionId rule = some level) :
    level ≤ (p.connectionAccess groupIds connectionId).1 := by
  unfold projectedConnectionLevel at hlevel
  cases hpinned : p.pinnedLevel connectionId rule with
  | none =>
    have hstrictest := p.strictestConnectionLevel_le groupIds connectionId
    rw [hpinned] at hlevel
    split at hlevel
    · cases hlevel
      exact le_trans (min_le_left _ _) hstrictest
    · cases hlevel
  | some pinned =>
    have hle := pinnedConnectionLevel_le groupIds hrule hpinned
    rw [hpinned] at hlevel
    split at hlevel
    · cases hlevel
      exact le_trans (min_le_left _ _) hle
    · cases hlevel
      exact hle

end

private theorem projectedDatabaseLevel_le
    (hlevel : p.projectedDatabaseLevel connectionId rule = some level) :
    level ≤ (applyRule rule .scope (p.connectionAccess groupIds connectionId)).1 := by
  obtain ⟨pinned, hpinned, rfl⟩ := Option.map_eq_some_iff.mp hlevel
  have hle : pinned ≤ (applyRule rule .scope (p.connectionAccess groupIds connectionId)).1 :=
    pinnedLevel_le hpinned fun _ => p.strictestConnectionLevel_le groupIds connectionId
  split
  · exact le_trans (min_le_left _ _) hle
  · exact hle

/-! ### Rules -/

private theorem open_of_not_restricted (hopen : p.restrictedAncestors = false) :
    p.defaultAccess ≠ .none ∧ ∀ id rule, p.rule (.group id) = some rule → rule.denies = false := by
  simp only [restrictedAncestors, Bool.or_eq_false_iff, beq_eq_false_iff_ne, any_eq_false] at hopen
  exact ⟨hopen.1, fun id rule hrule => by simpa using hopen.2 (_, rule) (p.mem_rules_iff.mpr hrule)⟩

private theorem not_denies_of_not_hidden (hhidden : connectionId ∉ p.projectRules.hiddenConnections)
    (hrule : p.connectionRule connectionId = some rule) : ¬p.Locks connectionId rule :=
  fun hlocks => hhidden (p.mem_hiddenConnections.mpr ⟨rule, hrule, hlocks⟩)

private theorem rule_eq_none_of_scopeRules (h : p.scopeRules connectionId = []) :
    p.rule (.scope connectionId databaseScopeKind database) = none := by
  by_contra hne
  obtain ⟨rule, hrule⟩ := Option.ne_none_iff_exists'.mp hne
  simpa using filter_eq_nil_iff.mp h (_, rule) (p.mem_rules_iff.mpr hrule)

private theorem mem_explicitlyVisible {hidden : List Text} {id : Text}
    (h : id ∈ p.explicitlyVisible hidden) :
    ∃ rule, p.connectionRule id = some rule ∧ rule.visible = some true ∧
      (p.restrictedAncestors → rule.access.isSome) := by
  obtain ⟨⟨target, rule⟩, hentry, hid⟩ := mem_filterMap.mp h
  cases target with
  | group other | scope connectionId scope value => cases hid
  | connection other =>
    dsimp only at hid
    split at hid
    · next hvisible =>
      cases hid
      simp only [Bool.and_eq_true, beq_iff_eq, Bool.or_eq_true, Bool.not_eq_true'] at hvisible
      refine ⟨rule, p.mem_rules_iff.mp hentry, hvisible.1.1, fun hrestricted => ?_⟩
      rcases hvisible.2 with hopen | haccess
      · rw [hopen] at hrestricted
        cases hrestricted
      · cases haccessCase : rule.access with
        | none => rw [haccessCase] at haccess; cases haccess
        | some level => rfl
    · cases hid

variable (p) in
/-- Whether the projection replaces the allowlist. -/
def isStrict : Bool := !p.projectRules.hiddenConnections.isEmpty || p.restrictedAncestors

variable {groupPath : Option McpConnectionGroupPath}

private theorem toV1_allowedConnectionIds_of_strict (hstrict : p.isStrict) :
    p.toV1.allowedConnectionIds =
        some (normalizeMcpIds (p.explicitlyVisible p.projectRules.hiddenConnections)) ∧
      p.toV1.allowedGroupIds = normalizeMcpIds [] := by
  rw [isStrict] at hstrict
  simp [toV1, normalized, hstrict]

private theorem toV1_allowedConnectionIds_of_not_strict (hstrict : p.isStrict = false) :
    p.toV1.allowedConnectionIds = (p.projectRules.allowedConnectionIds.map fun ids =>
          ids.filter fun id => !p.projectRules.hiddenConnections.contains id).map normalizeMcpIds ∧
      p.toV1.allowedGroupIds =
        if p.projectRules.allowedConnectionIds.isSome
        then normalizeMcpIds p.projectRules.allowedGroupIds else [] := by
  rw [isStrict] at hstrict
  simp [toV1, normalized, hstrict]

private theorem connectionVisible_of_rule {groupIds : List Text}
    (hrule : p.connectionRule connectionId = some rule) (hvisible : rule.visible = some true) :
    p.connectionVisible groupIds connectionId := by
  unfold connectionVisible
  cases p.visibility <;> simp [hrule, hvisible]

private theorem basePolicy_level (connectionId : Text) :
    match (p.connectionRule connectionId).bind (p.projectedConnectionLevel connectionId) with
    | some level =>
      (p.basePolicy connectionId).executionModeConfigured ∧
        (p.basePolicy connectionId).readOnly = (max level .read).toFlags.1 ∧
        (p.basePolicy connectionId).allowDangerousSql = (max level .read).toFlags.2
    | none => (p.basePolicy connectionId).executionModeConfigured = false := by
  unfold basePolicy
  rcases p.connectionRule connectionId with _ | rule
  · rfl
  simp only [Option.bind_some, setConnectionPolicy]
  cases p.projectedConnectionLevel connectionId rule with
  | none => rfl
  | some level => exact ⟨rfl, rfl, rfl⟩

section

variable (hkeys : p.WellKeyed)

include hkeys

/-! ### Groups -/

private theorem toV1_groupPolicy (groupId : Text) :
    p.toV1.groupPolicies.find? (fun rule => rule.groupId = groupId) =
      ((p.rule (.group groupId)).bind access).map fun level =>
        { groupId, readOnly := (max level .read).toFlags.1,
          allowDangerousSql :=
            !(max level .read).toFlags.1 && (max level .read).toFlags.2 } := by
  have hown : p.projectRules.groupPolicies.filter (fun rule => rule.groupId = groupId) =
      ((p.rule (.group groupId)).bind fun rule => groupPolicyOf (.group groupId, rule)).toList := by
    rw [projectRules_groupPolicies]
    refine filter_filterMap_toList ?_
    rintro ⟨target, rule⟩ -
    cases target with
    | group id =>
      by_cases hid : id = groupId <;> cases haccess : rule.access <;>
        simp [groupPolicyOf, hid, haccess]
    | connection id | scope connectionId scope value => simp [groupPolicyOf]
  have htrimmed : ∀ rule ∈ p.projectRules.groupPolicies, Trimmed rule.groupId := by
    rw [projectRules_groupPolicies]
    intro policy hpolicy
    obtain ⟨⟨target, rule⟩, hentry, hof⟩ := mem_filterMap.mp hpolicy
    cases target with
    | group id =>
      obtain ⟨level, -, rfl⟩ := Option.map_eq_some_iff.mp hof
      exact hkeys _ hentry id (by simp [fields])
    | connection id | scope connectionId scope value => cases hof
  have hfind := find?_normalizeGroupPolicies htrimmed hown
  refine hfind.trans ?_
  cases p.rule (.group groupId) with
  | none => rfl
  | some rule => cases haccess : rule.access <;> simp [groupPolicyOf, haccess]

private theorem inheritGroup_level (hopen : p.restrictedAncestors = false) {flags : Bool × Bool}
    (hflags : McpAccessLevel.fromFlagsPair flags = resolved.1 ∧ resolved.1 ≠ .none)
    (groupId : Text) :
    McpAccessLevel.fromFlagsPair (inheritGroup p.toV1 flags groupId) =
        (p.resolveGroup resolved groupId).1 ∧ (p.resolveGroup resolved groupId).1 ≠ .none := by
  unfold inheritGroup resolveGroup
  rw [toV1_groupPolicy hkeys]
  rcases haccess : (p.rule (.group groupId)).bind access with _ | level
  · exact hflags
  obtain ⟨rule, hrule, hlevel⟩ := Option.bind_eq_some_iff.mp haccess
  have hdenies := (open_of_not_restricted hopen).2 groupId rule hrule
  have hne : level ≠ .none := by
    rintro rfl
    simp [denies, hlevel] at hdenies
  refine ⟨?_, hne⟩
  cases level <;> first | rfl | exact absurd rfl hne

private theorem inherited_level (hopen : p.restrictedAncestors = false) (groupIds : List Text) :
    McpAccessLevel.fromFlagsPair (inheritedExecutionPolicy p.toV1 groupIds) =
        (p.groupAccess groupIds).1 ∧ (p.groupAccess groupIds).1 ≠ .none := by
  have hdefault := (open_of_not_restricted hopen).1
  have hstart : McpAccessLevel.fromFlagsPair (p.toV1.readOnly, p.toV1.allowDangerousSql) =
      p.defaultAccess := by
    simp only [toV1, normalized]
    cases hlevel : p.defaultAccess <;> first | rfl | exact absurd hlevel hdefault
  refine foldl_rel (l := groupIds) (f := inheritGroup p.toV1) (g := p.resolveGroup)
    (r := fun flags resolved => McpAccessLevel.fromFlagsPair flags = resolved.1 ∧
      resolved.1 ≠ .none) ⟨hstart, hdefault⟩ ?_
  exact fun groupId _ _ _ h => inheritGroup_level hkeys hopen h groupId

/-! ### What the projection admits -/

section

variable (h : policyAllowsConnection p.toV1 groupPath connectionId)

include h

private theorem connectionVisible_of_strict (hstrict : p.isStrict) :
    ∃ rule, p.connectionRule connectionId = some rule ∧ rule.visible = some true ∧
      (p.restrictedAncestors → rule.access.isSome) := by
  obtain ⟨hconnections, hgroups⟩ := toV1_allowedConnectionIds_of_strict hstrict
  have htrimmed : ∀ id ∈ p.explicitlyVisible p.projectRules.hiddenConnections, Trimmed id := by
    intro id hid
    obtain ⟨rule, hrule, -⟩ := mem_explicitlyVisible hid
    exact hkeys.of_rule hrule id (by simp [fields])
  have hnone : ∀ id : Text, id ∉ normalizeMcpIds [] := by
    intro id
    rw [mem_normalizeMcpIds (by simp)]
    simp
  rw [policyAllowsConnection, hconnections, hgroups] at h
  simp only [Option.all_some, Bool.or_eq_true, contains_iff_mem, mem_normalizeMcpIds htrimmed] at h
  rcases h with hallowed | hgroup
  · exact mem_explicitlyVisible hallowed
  · rcases groupPath with _ | path
    · cases hgroup
    obtain ⟨id, -, hid⟩ := any_eq_true.mp hgroup
    rw [contains_iff_mem] at hid
    exact absurd hid (hnone id)

variable (hhidden : connectionId ∉ p.projectRules.hiddenConnections)

include hhidden

private theorem connectionVisible_of_not_strict (hstrict : p.isStrict = false) :
    p.connectionVisible (groupPath.elim [] ids) connectionId := by
  have hnotFalse : (p.connectionRule connectionId).bind visible ≠ some false := by
    intro hvisible
    obtain ⟨rule, hrule, hfalse⟩ := Option.bind_eq_some_iff.mp hvisible
    exact not_denies_of_not_hidden hhidden hrule (.inl (by simp [denies, hfalse]))
  have hsound := p.projectRules_sound
  unfold connectionVisible
  rw [if_neg hnotFalse]
  cases hvisibility : p.visibility with
  | all => rfl
  | selected =>
    obtain ⟨hconnections, hgroups⟩ := toV1_allowedConnectionIds_of_not_strict hstrict
    have hsome : p.projectRules.allowedConnectionIds.isSome := by
      rw [hsound.isSome, hvisibility]
      rfl
    obtain ⟨ids, hids⟩ := Option.isSome_iff_exists.mp hsome
    have hvisible := hsound.connections ids hids
    have htrimmed : ∀ id ∈ ids.filter (fun id => !p.projectRules.hiddenConnections.contains id),
        Trimmed id := by
      intro id hid
      obtain ⟨rule, hrule, -⟩ := hvisible id (mem_filter.mp hid).1
      exact hkeys.of_rule hrule id (by simp [fields])
    have htrimmedGroups : ∀ id ∈ p.projectRules.allowedGroupIds, Trimmed id := by
      intro id hid
      obtain ⟨rule, hrule, -⟩ := hsound.groups id hid
      exact hkeys.of_rule hrule id (by simp [fields])
    rw [policyAllowsConnection, hconnections, hgroups, if_pos hsome, hids] at h
    simp only [Option.map_some, Option.all_some, Bool.or_eq_true, contains_iff_mem,
      mem_normalizeMcpIds htrimmed] at h
    simp only [Bool.or_eq_true, beq_iff_eq, any_eq_true]
    rcases h with hallowed | hgroup
    · obtain ⟨rule, hrule, htrue⟩ := hvisible connectionId (mem_filter.mp hallowed).1
      exact .inl (by simp [hrule, htrue])
    · rcases groupPath with _ | path
      · cases hgroup
      simp only [Option.any_some, any_eq_true, contains_iff_mem,
        mem_normalizeMcpIds htrimmedGroups] at hgroup
      obtain ⟨groupId, hpath, hallowed⟩ := hgroup
      obtain ⟨rule, hrule, htrue⟩ := hsound.groups groupId hallowed
      exact .inr ⟨groupId, hpath, by simp [hrule, htrue]⟩

private theorem connectionVisible_of_allowed :
    p.connectionVisible (groupPath.elim [] ids) connectionId ∧ (p.restrictedAncestors →
        ∃ rule, p.connectionRule connectionId = some rule ∧ rule.access.isSome) := by
  cases hstrict : p.isStrict with
  | true =>
    obtain ⟨rule, hrule, hvisible, haccess⟩ := connectionVisible_of_strict hkeys h hstrict
    exact ⟨connectionVisible_of_rule hrule hvisible, fun hrestricted =>
      ⟨rule, hrule, haccess hrestricted⟩⟩
  | false =>
    refine ⟨connectionVisible_of_not_strict hkeys h hhidden hstrict, fun hrestricted => ?_⟩
    rw [isStrict, hrestricted, Bool.or_true] at hstrict
    cases hstrict

end

private theorem salesforce_ceiling (h : connectionAllowsSalesforceDml p.toV1 connectionId) :
    ∃ ceiling, p.toolsetCeiling connectionId salesforceWriteToolset = some ceiling ∧
      .read < ceiling := by
  unfold connectionAllowsSalesforceDml at h
  by_cases hhidden : connectionId ∈ p.projectRules.hiddenConnections
  · obtain ⟨policy, hlocked⟩ := lockedPolicies_of_hidden hhidden
    rw [toV1_connectionPolicy hkeys, hlocked] at h
    cases h
  · rw [toV1_connectionPolicy_of_not_hidden hkeys hhidden] at h
    split at h
    · cases h
    · obtain ⟨-, -, -, -, hsalesforce⟩ := p.projectedPolicy_frame connectionId
      rw [Option.any_some, hsalesforce] at h
      simp only [Bool.and_eq_true] at h
      have hbase := h.1.2
      unfold basePolicy at hbase
      cases hrule : p.connectionRule connectionId with
      | none =>
        rw [hrule] at hbase
        cases hbase
      | some rule =>
        rw [hrule] at hbase
        simp only [setConnectionPolicy, Bool.and_eq_true] at hbase
        cases hceiling : rule.toolsetCeilings[salesforceWriteToolset]? with
        | none =>
          rw [hceiling] at hbase
          cases hbase.1
        | some ceiling =>
          rw [hceiling] at hbase
          exact ⟨ceiling, by simp [toolsetCeiling, hrule, hceiling], by simpa using hbase.1⟩

/-! ### Levels -/

section

variable (hhidden : connectionId ∉ p.projectRules.hiddenConnections)
  (hrestricted : p.restrictedAncestors → ∃ rule, p.connectionRule connectionId = some rule
    ∧ rule.access.isSome)

include hhidden hrestricted

private theorem connectionAccess_ne_none (groupIds : List Text) :
    (p.connectionAccess groupIds connectionId).1 ≠ .none := by
  have hinherited : p.restrictedAncestors = false → (p.groupAccess groupIds).1 ≠ .none :=
    fun hopen => (inherited_level hkeys hopen groupIds).2
  unfold connectionAccess
  cases hrule : p.connectionRule connectionId with
  | none =>
    refine hinherited ?_
    rw [← Bool.not_eq_true]
    intro h
    obtain ⟨rule, hsome, -⟩ := hrestricted h
    rw [hrule] at hsome
    cases hsome
  | some rule =>
    have hlocks := not_denies_of_not_hidden hhidden hrule
    refine applyRule_ne_none ?_ fun haccess => hinherited ?_
    · rw [← Bool.not_eq_true]
      exact fun hdenies => hlocks (.inl hdenies)
    · rw [← Bool.not_eq_true]
      intro h
      obtain ⟨other, hsome, hother⟩ := hrestricted h
      rw [hrule] at hsome
      cases hsome
      rw [haccess] at hother
      cases hother

private theorem connection_level_le (groupIds : List Text) :
    ((p.connectionRule connectionId).bind (p.projectedConnectionLevel connectionId)).elim
        (McpAccessLevel.fromFlagsPair (inheritedExecutionPolicy p.toV1 groupIds)) (max · .read) ≤
      (p.connectionAccess groupIds connectionId).1 := by
  cases hlevel : (p.connectionRule connectionId).bind (p.projectedConnectionLevel connectionId) with
  | some level =>
    obtain ⟨rule, hrule, hprojected⟩ := Option.bind_eq_some_iff.mp hlevel
    exact max_le (projectedConnectionLevel_le groupIds hrule hprojected)
      (McpAccessLevel.read_le_iff.mpr (connectionAccess_ne_none hkeys hhidden hrestricted groupIds))
  | none =>
    -- without a level of its own the connection inherits, on both sides
    have hunset : ∀ rule, p.connectionRule connectionId = some rule →
        rule.access = none ∧ rule.ceiling = none := by
      intro rule hrule
      rw [hrule, Option.bind_some, projectedConnectionLevel, pinnedLevel] at hlevel
      cases haccess : rule.access <;> cases hceiling : rule.ceiling <;>
        simp_all only [and_self] <;> split at hlevel <;> cases hlevel
    have hopen : p.restrictedAncestors = false := by
      rw [← Bool.not_eq_true]
      intro h
      obtain ⟨rule, hrule, haccess⟩ := hrestricted h
      rw [(hunset rule hrule).1] at haccess
      cases haccess
    have hsame : (p.connectionAccess groupIds connectionId).1 = (p.groupAccess groupIds).1 := by
      unfold connectionAccess
      cases hrule : p.connectionRule connectionId with
      | none => rfl
      | some rule => simp [applyRule, hunset rule hrule]
    rw [hsame, Option.elim_none, (inherited_level hkeys hopen groupIds).1]

end

variable (h : v1DatabaseVisible p.toV1 connectionId database)

include h

private theorem not_hidden_of_databaseVisible :
    connectionId ∉ p.projectRules.hiddenConnections := by
  intro hhidden
  obtain ⟨policy, hlocked⟩ := lockedPolicies_of_hidden hhidden
  rw [v1DatabaseVisible, toV1_connectionPolicy hkeys, hlocked] at h
  cases h

private theorem databaseRule_of_databaseVisible : p.subScopeMode connectionId = .all ∧
        p.rule (.scope connectionId databaseScopeKind database) = none ∨
      p.subScopeMode connectionId ≠ .none ∧
        ∃ rule, p.rule (.scope connectionId databaseScopeKind database) = some rule ∧
          rule.visible = some true ∧ rule.denies = false := by
  have hhidden := not_hidden_of_databaseVisible hkeys h
  rw [v1DatabaseVisible, toV1_connectionPolicy_of_not_hidden hkeys hhidden] at h
  split at h
  · next hnone =>
    split at hnone
    · next hrules =>
      exact .inl ⟨by simp [subScopeMode, hrules.1], rule_eq_none_of_scopeRules hrules.2⟩
    · cases hnone
  · next projected hprojected =>
    split at hprojected
    · cases hprojected
    cases hprojected
    split at h
    · next hscope =>
      have hopen : (p.projectedPolicy connectionId).databaseScope ≠ .none := by simp [hscope]
      rcases projectedPolicy_scope hopen with ⟨-, hmode, hnone⟩ | ⟨hselected, -⟩
      · exact .inl ⟨hmode, hnone database⟩
      · rw [hscope] at hselected
        cases hselected
    · next hscope =>
      have hopen : (p.projectedPolicy connectionId).databaseScope ≠ .none := by simp [hscope]
      rcases projectedPolicy_scope hopen with ⟨hall, -⟩ | ⟨-, hmode⟩
      · rw [hscope] at hall
        cases hall
      · exact .inr ⟨hmode, (mem_projectedPolicy_allowedDatabases hkeys hscope).mp
          (by simpa using h)⟩
    · cases h

private theorem subScopeVisible_of_databaseVisible :
    p.subScopeVisible connectionId databaseScopeKind database := by
  unfold subScopeVisible
  rcases databaseRule_of_databaseVisible hkeys h with ⟨hmode, hrule⟩ |
    ⟨hmode, rule, hrule, hvisible, -⟩
  · simp [hrule, hmode]
  · cases hcase : p.subScopeMode connectionId with
    | none => exact absurd hcase hmode
    | all | selected => simp [hrule, hvisible]

private theorem find?_databasePolicy_of_databaseVisible
    (hprojected : p.toV1.connectionPolicy connectionId = some (p.projectedPolicy connectionId)) :
    (p.projectedPolicy connectionId).databasePolicies.find?
        (fun policy => policy.databaseName = database) =
      ((p.rule (.scope connectionId databaseScopeKind database)).bind
        (p.projectedDatabaseLevel connectionId)).map fun level =>
          { databaseName := database, readOnly := (max level .read).toFlags.1,
            allowDangerousSql :=
              !(max level .read).toFlags.1 && (max level .read).toFlags.2 } := by
  have hrule := databaseRule_of_databaseVisible hkeys h
  rw [v1DatabaseVisible, hprojected] at h
  dsimp only at h
  split at h
  · next hscope =>
    have hopen : (p.projectedPolicy connectionId).databaseScope ≠ .none := by simp [hscope]
    have hempty : (p.projectedPolicy connectionId).databasePolicies = [] := by
      refine if_neg fun hselected => ?_
      exact absurd (hselected.symm.trans hscope) (by decide)
    rcases projectedPolicy_scope hopen with ⟨-, -, hnone⟩ | ⟨hselected, -⟩
    · simp [hempty, hnone database]
    · rw [hscope] at hselected
      cases hselected
  · next hscope =>
    rw [find?_projectedPolicy_databasePolicies hkeys hscope (by simpa using h)]
    rcases hrule with ⟨-, hnone⟩ | ⟨-, rule, hsome, -, hdenies⟩
    · simp [hnone]
    · cases hlevel : p.projectedDatabaseLevel connectionId rule <;>
        simp [hsome, databasePolicyOf, hdenies, hlevel]
  · cases h

/-- The level of an admitted database in the projection: that of the database rule, else that of
the connection rule, else what the connection inherits. -/
theorem effective_level (groupIds : List Text) :
    McpAccessLevel.fromFlagsPair (effectiveDatabaseExecutionPolicyWithGroups p.toV1 groupIds
        connectionId database) =
      (((p.rule (.scope connectionId databaseScopeKind database)).bind
        (p.projectedDatabaseLevel connectionId)).or ((p.connectionRule connectionId).bind
            (p.projectedConnectionLevel connectionId))).elim
        (McpAccessLevel.fromFlagsPair (inheritedExecutionPolicy p.toV1 groupIds))
        (max · .read) := by
  have hhidden := not_hidden_of_databaseVisible hkeys h
  have hpolicy := toV1_connectionPolicy_of_not_hidden hkeys hhidden
  split at hpolicy
  · next hnone =>
    simp [effectiveDatabaseExecutionPolicyWithGroups, hpolicy, hnone.1,
      rule_eq_none_of_scopeRules hnone.2]
  · obtain ⟨hversion, hconfigured, hreadOnly, hdangerous, -⟩ := p.projectedPolicy_frame connectionId
    have hbase := p.basePolicy_level connectionId
    simp only [effectiveDatabaseExecutionPolicyWithGroups, hpolicy, hversion, if_true,
      find?_databasePolicy_of_databaseVisible hkeys h hpolicy]
    cases hdatabase : (p.rule (.scope connectionId databaseScopeKind database)).bind
        (p.projectedDatabaseLevel connectionId) with
    | some level => simp
    | none =>
      cases hlevel : (p.connectionRule connectionId).bind
          (p.projectedConnectionLevel connectionId) with
      | some level =>
        rw [hlevel] at hbase
        simp [hconfigured, hreadOnly, hdangerous, hbase]
      | none =>
        rw [hlevel] at hbase
        simp [hconfigured, hbase]

/-- The level of an admitted database in the projection is no higher than the level that the
policy resolves for it. -/
theorem database_level_le
    (hrestricted : p.restrictedAncestors → ∃ rule, p.connectionRule connectionId = some rule
      ∧ rule.access.isSome) (groupIds : List Text) :
    McpAccessLevel.fromFlagsPair (effectiveDatabaseExecutionPolicyWithGroups p.toV1 groupIds
        connectionId database) ≤
      (match p.rule (.scope connectionId databaseScopeKind database) with
        | some rule => applyRule rule .scope (p.connectionAccess groupIds connectionId)
        | none => p.connectionAccess groupIds connectionId).1 := by
  have hhidden := not_hidden_of_databaseVisible hkeys h
  have hconnection := connection_level_le hkeys hhidden hrestricted groupIds
  have hne := connectionAccess_ne_none hkeys hhidden hrestricted groupIds
  rw [effective_level hkeys h]
  rcases databaseRule_of_databaseVisible hkeys h with ⟨-, hrule⟩ |
    ⟨-, rule, hrule, -, hdenies⟩
  · simpa [hrule] using hconnection
  · simp only [hrule, Option.bind_some]
    cases hlevel : p.projectedDatabaseLevel connectionId rule with
    | some level =>
      exact max_le (projectedDatabaseLevel_le groupIds hlevel)
        (McpAccessLevel.read_le_iff.mpr (applyRule_ne_none hdenies fun _ => hne))
    | none =>
      have hunset : rule.access = none ∧ rule.ceiling = none := by
        rw [projectedDatabaseLevel, Option.map_eq_none_iff, pinnedLevel] at hlevel
        cases haccess : rule.access <;> cases hceiling : rule.ceiling <;> simp_all
      simpa [applyRule, hunset] using hconnection

end

/-! ### The projection against the policy -/

/-- What the projection admits the policy shows, at no lower a level; and it allows Salesforce
writes only where the policy has a ceiling above `read` for them. -/
theorem toV1_grants_no_more (p : McpAccessPolicy) (hkeys : p.WellKeyed)
    (groupPath : Option McpConnectionGroupPath) (connectionId database : Text) :
    (policyAllowsConnection p.toV1 groupPath connectionId →
      v1DatabaseVisible p.toV1 connectionId database →
        (p.resolve (groupPath.elim [] ids) connectionId
            (some (databaseScopeKind, database))).visible ∧
          McpAccessLevel.fromFlagsPair (effectiveDatabaseExecutionPolicyWithGroups p.toV1
              (groupPath.elim [] ids) connectionId database) ≤
            (p.resolve (groupPath.elim [] ids) connectionId
              (some (databaseScopeKind, database))).level) ∧
      (connectionAllowsSalesforceDml p.toV1 connectionId →
        ∃ ceiling, p.toolsetCeiling connectionId salesforceWriteToolset = some ceiling ∧
          .read < ceiling) := by
  refine ⟨fun hconnection hdatabase => ?_, salesforce_ceiling hkeys⟩
  have hhidden := not_hidden_of_databaseVisible hkeys hdatabase
  obtain ⟨hvisible, hrestricted⟩ := connectionVisible_of_allowed hkeys hconnection hhidden
  have hscope := subScopeVisible_of_databaseVisible hkeys hdatabase
  have hlevel := database_level_le hkeys hdatabase hrestricted (groupPath.elim [] ids)
  simp only [resolve, hvisible, Option.all_some, hscope, Bool.and_self, if_true,
    Option.bind_some, true_and]
  exact hlevel

/-- A policy that levels a group, a connection in it and one of its databases. -/
def samplePolicy : McpAccessPolicy :=
  let rule : McpAccessRule :=
    { access := none, ceiling := none, visible := none, subScope := none, toolsetCeilings := ∅ }
  { version := 2
    defaultAccess := .read
    confirm := .off
    visibility := .all
    rules := Std.TreeMap.ofList
      [(.group "team", { rule with access := some .write }),
        (.connection "c1",
          { rule with
            ceiling := some .full
            toolsetCeilings := Std.TreeMap.ofList [(salesforceWriteToolset, .full)] compare }),
        (.scope "c1" databaseScopeKind "sales",
          { rule with access := some .full, visible := some true })] order
    allowedToolNames := none
    queryTimeoutSecs := none
    pluginToolsMode := .flat }

/-- A database that the projection shows. -/
theorem toV1_grants_no_more_sample : (samplePolicy.resolve ["team"] "c1"
        (some (databaseScopeKind, "sales"))).visible ∧
      McpAccessLevel.fromFlagsPair (effectiveDatabaseExecutionPolicyWithGroups samplePolicy.toV1
          ["team"] "c1" "sales") ≤
        (samplePolicy.resolve ["team"] "c1" (some (databaseScopeKind, "sales"))).level :=
  (toV1_grants_no_more samplePolicy (by decide +kernel)
    (some { ids := ["team"], names := ["Team"] }) "c1" "sales").1
    (by decide +kernel) (by decide +kernel)

end McpAccessPolicy

end DbxSpec.Mcp
