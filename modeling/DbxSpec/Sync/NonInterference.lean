import DbxSpec.Base.Fallible
import DbxSpec.Sync.Paths

/-!
# A snapshot without secrets

Two storages whose rows are the same and whose connections agree once the storage layer sanitizes
them differ in the secret store only. Their snapshots without secrets are the same unless a
selected connection holds a secret that `scrub_connection_secrets` (`cloud_sync.rs:2462`) leaves in
place: the secrets of Salesforce, and the password of MQTT with a certificate.
-/

namespace DbxSpec.Sync

open DbxSpec.Base DbxSpec.Sql ConnectionConfig SyncSelection List SecretSection Json Forall₂
open TransportLayerConfig

/-! ### What is left in a snapshot -/

namespace SecretSection

variable {place : SecretSection} {config other : ConnectionConfig}

private theorem values_of_ne (h : config.dbType ≠ place.dbType) : place.values config = [] := by
  have hnone : place.fields config = none := if_neg h
  rw [values, hnone]
  rfl

private theorem values_mapSection (place : SecretSection)
    {f : List (Text × Json) → List (Text × Json)}
    (hkind : ∀ fields, authKind (f fields) = authKind fields)
    (hsecrets : ∀ fields, ∀ target ∈ place.targets (authKind fields),
      (f fields).lookup target.2 = fields.lookup target.2) :
    place.values (config.mapSection place.name f) = place.values config := by
  have hfields : place.fields (config.mapSection place.name f) = (place.fields config).map f := by
    unfold fields mapSection
    split
    · cases config.externalConfig with
      | none => rfl
      | some external => exact objectAt_mapObjectAt_self f external place.name
    · rfl
  rw [values, values, hfields]
  rcases place.fields config with _ | fields
  · rfl
  simp only [Option.map_some, Option.getD_some, hkind]
  exact map_congr_left (hsecrets fields)

private theorem externalConfig_eq_of_scrub (place : SecretSection)
    (htype : config.dbType = place.dbType) (htype' : other.dbType = place.dbType)
    (hscrub : config.externalConfig.map (mapObjectAt place.name place.scrubFields) =
      other.externalConfig.map (mapObjectAt place.name place.scrubFields))
    (hvalues : place.values config = place.values other) :
    config.externalConfig = other.externalConfig := by
  cases hexternal : config.externalConfig with
  | none =>
    rw [hexternal] at hscrub
    exact (Option.map_eq_none_iff.mp hscrub.symm).symm
  | some external =>
    rw [hexternal] at hscrub
    obtain ⟨second, hsecond, hmapped⟩ := Option.map_eq_some_iff.mp hscrub.symm
    rw [hsecond]
    refine congrArg some (eq_of_mapObjectAt_eq _ hmapped.symm ?_)
    intro fields fields' hfields hfields' hsame
    have hkind : authKind fields = authKind fields' := by
      rw [← authKind_scrubFields place fields, hsame, authKind_scrubFields]
    have hleft : place.fields config = some fields := by
      rw [SecretSection.fields, if_pos htype, hexternal]
      exact hfields
    have hright : place.fields other = some fields' := by
      rw [SecretSection.fields, if_pos htype', hsecond]
      exact hfields'
    rw [values, values, hleft, hright] at hvalues
    simp only [Option.map_some, Option.getD_some, hkind, map_inj_left] at hvalues
    rw [scrubFields, scrubFields, hkind] at hsame
    exact eq_of_scrub_eq hsame hvalues

end SecretSection

variable (config : ConnectionConfig) {other : ConnectionConfig}

private theorem values_congr {place : SecretSection} {config : ConnectionConfig}
    (htype : config.dbType = other.dbType)
    (hexternal : config.externalConfig = other.externalConfig) :
    place.values config = place.values other := by
  unfold values fields
  rw [htype, hexternal]

private theorem leakedSections_eq_of_mem {place : SecretSection} (hplace : place ∈ leakedSections) :
    (∀ {config : ConnectionConfig}, config.dbType = place.dbType →
      leakedSecrets config = place.values config) ∧
    ∀ external, scrubExternal leakedSections place.dbType external =
      external.map (mapObjectAt place.name place.scrubFields) := by
  simp only [leakedSections, mem_cons, not_mem_nil, or_false] at hplace
  rcases hplace with rfl | rfl <;> refine ⟨fun {config} h => ?_, fun _ => rfl⟩
  · have hother : salesforceAuth.values config = [] := values_of_ne (by rw [h]; decide)
    simp [leakedSecrets, leakedSections, hother]
  · have hother : mqttCertificateAuth.values config = [] := values_of_ne (by rw [h]; decide)
    simp [leakedSecrets, leakedSections, hother]

private theorem leakedSecrets_eq {config : ConnectionConfig} (htype : other.dbType = config.dbType)
    (hmqtt : config.dbType = .mqtt →
      mqttCertificateAuth.values other = mqttCertificateAuth.values config)
    (hsalesforce : config.dbType = .salesforce → other.externalConfig = config.externalConfig) :
    leakedSecrets other = leakedSecrets config := by
  refine congrArg flatten (map_congr_left fun place hplace => ?_)
  by_cases hplaced : config.dbType = place.dbType
  · simp only [leakedSections, mem_cons, not_mem_nil, or_false] at hplace
    rcases hplace with rfl | rfl
    · exact hmqtt hplaced
    · exact values_congr htype (hsalesforce hplaced)
  · rw [values_of_ne (htype ▸ hplaced), values_of_ne hplaced]

private theorem leakedSecrets_scrubConnectionSecrets :
    leakedSecrets (scrubConnectionSecrets config) = leakedSecrets config := by
  have hexternal : ∀ {dbType : DatabaseType}, config.dbType = dbType → dbType ≠ .messageQueue →
      (scrubConnectionSecrets config).externalConfig =
        scrubExternal snapshotSections dbType config.externalConfig := by
    intro dbType htype hqueue
    rw [scrubConnectionSecrets_eq, normalizedExternal_of_ne (htype ▸ hqueue), htype]
  have htype := dbType_scrubConnectionSecrets config
  refine leakedSecrets_eq htype ?_ fun hsalesforce => hexternal hsalesforce (by decide)
  intro hmqtt
  have hsection : mqttCertificateAuth.values (scrubConnectionSecrets config) =
      mqttCertificateAuth.values (config.mapSection "auth" mqttPasswordAuth.scrubFields) :=
    values_congr htype (hexternal hmqtt (by decide))
  rw [hsection]
  refine mqttCertificateAuth.values_mapSection (authKind_scrubFields mqttPasswordAuth) ?_
  intro fields target htarget
  have hkind : authKind fields = some "certificate".toList := by
    by_contra hne
    simp only [mqttCertificateAuth, if_neg hne, not_mem_nil] at htarget
  rw [scrubFields, hkind]
  rfl

private theorem lookup_removeFields {key : Text} {removed : List String}
    {fields : List (Text × Json)} (h : key ∉ removed.map String.toList) :
    (removed.foldl (fun object field => removeField field.toList object) fields).lookup key =
      fields.lookup key := by
  induction removed generalizing fields with
  | nil => rfl
  | cons field removed ih =>
    rw [map_cons, mem_cons, not_or] at h
    rw [foldl_cons, ih h.2, lookup_removeField_of_ne h.1]

private theorem clearDatabaseFile_fields : (clearDatabaseFile config).dbType = config.dbType ∧
    (clearDatabaseFile config).externalConfig = config.externalConfig := by
  unfold clearDatabaseFile
  split
  all_goals
    try split
    all_goals exact ⟨rfl, rfl⟩

private theorem clearDeviceLocalConnectionPaths_fields :
    (clearDeviceLocalConnectionPaths config).dbType = config.dbType ∧
    (clearDeviceLocalConnectionPaths config).externalConfig =
      (clearExternalPaths config).externalConfig := by
  obtain ⟨htype, hexternal⟩ := clearDatabaseFile_fields config
  unfold clearDeviceLocalConnectionPaths clearExternalPaths clearExternalConfigPathFields mapSection
  dsimp only
  rw [htype, hexternal]
  split <;> exact ⟨rfl, rfl⟩

private theorem leakedSecrets_clearDeviceLocalConnectionPaths :
    leakedSecrets (clearDeviceLocalConnectionPaths config) = leakedSecrets config := by
  obtain ⟨htype, hexternal⟩ := clearDeviceLocalConnectionPaths_fields config
  refine leakedSecrets_eq htype ?_ ?_
  · intro hmqtt
    rw [clearExternalPaths, hmqtt] at hexternal
    have hsection : mqttCertificateAuth.values (clearDeviceLocalConnectionPaths config) =
        mqttCertificateAuth.values (clearExternalConfigPathFields config "auth"
          ["caCertPath", "clientCertPath", "clientKeyPath"]) := values_congr htype hexternal
    rw [hsection]
    refine mqttCertificateAuth.values_mapSection ?_ ?_
    · intro fields
      rw [authKind, lookup_removeFields (by decide)]
      rfl
    · intro fields target htarget
      refine lookup_removeFields ?_
      simp only [mqttCertificateAuth] at htarget
      split_ifs at htarget <;> simp at htarget
      subst htarget
      decide
  · intro hsalesforce
    rwa [clearExternalPaths, hsalesforce] at hexternal

/-! ### Two connections of one row -/

private theorem plainType_of_mem {dbType : DatabaseType}
    (h : dbType ∈ [.mongoDb, .mysql, .tdengine, .sqlServer]) : PlainType dbType := by
  intro place hplace
  simp only [storageSections, mem_cons, not_mem_nil, or_false] at hplace h
  rcases h with rfl | rfl | rfl | rfl <;>
    rcases hplace with rfl | rfl | rfl | rfl | rfl | rfl | rfl <;> decide

namespace ConnectionConfig

variable (x : UrlExternals) {config : ConnectionConfig}

private theorem canonicalized_of_ne_sqlServer (h : config.dbType ≠ .sqlServer) :
    (config.canonicalized x).externalConfig = config.externalConfig ∧
    (config.canonicalized x).dbType ≠ .sqlServer ∧
    (config.canonicalized x = config ∨
      PlainType config.dbType ∧ PlainType (config.canonicalized x).dbType) := by
  by_cases hmongo : config.dbType = .mongoDb
  · have htype : (config.canonicalizeMongodb x).dbType = .mongoDb := by
      rw [dbType_canonicalizeMongodb, hmongo]
    rw [canonicalized_of_mongoDb x hmongo]
    refine ⟨?_, by rw [htype]; decide, .inr ⟨plainType_of_mem (by simp [hmongo]),
      plainType_of_mem (by rw [htype]; simp)⟩⟩
    unfold canonicalizeMongodb
    split <;> rfl
  by_cases hmysql : config.dbType = .mysql
  · rw [canonicalized_of_mysql x hmysql]
    rcases ite_eq_or_eq (config.dbType = .mysql ∧
      config.driverProfile.any (eqIgnoreAsciiCase · "tdengine")) _ config with htd | htd
    · rw [canonicalizeTdengine, htd]
      exact ⟨rfl, by dsimp only; decide,
        .inr ⟨plainType_of_mem (by simp [hmysql]), plainType_of_mem (by simp)⟩⟩
    · have hsame : config.canonicalizeTdengine = config := htd
      rw [hsame]
      exact ⟨rfl, h, .inl rfl⟩
  · rw [canonicalized_of_other x hmongo h hmysql]
    exact ⟨rfl, h, .inl rfl⟩

end ConnectionConfig

private theorem externalConfig_sanitizedConnectionConfig (x : UrlExternals)
    {config : ConnectionConfig} (h : config.dbType ≠ .sqlServer) :
    (sanitizedConnectionConfig x config).externalConfig = scrubExternal leakedSections config.dbType
        (scrubConnectionSecrets config).externalConfig := by
  have hsnapshot : (scrubConnectionSecrets config).externalConfig =
      scrubExternal snapshotSections config.dbType config.normalizedExternal := by
    rw [scrubConnectionSecrets_eq]
  rw [hsnapshot, ← scrubExternal_storageSections, sanitizedConnectionConfig_eq]
  obtain ⟨hexternal, -, hsame | ⟨hplain, hplain'⟩⟩ := canonicalized_of_ne_sqlServer x h
  · rw [hsame]
  · rw [scrubExternal_of_ne hplain, scrubExternal_of_ne hplain',
      normalizedExternal_of_ne hplain.ne_messageQueue,
      normalizedExternal_of_ne hplain'.ne_messageQueue, hexternal]

private theorem externalConfig_hydrateConnection {config : ConnectionConfig}
    (h : PlainType config.dbType) (secrets : Secrets) :
    (hydrateConnection secrets config).config.externalConfig = config.externalConfig := by
  have hfirst : (hydrateFields secrets config).normalizeRocketmqCredentials =
      hydrateFields secrets config := by
    have hnot : (hydrateFields secrets config).isRocketmqConnection = false :=
      if_pos h.ne_messageQueue
    rw [normalizeRocketmqCredentials, hnot]
    rfl
  have hsections : ∀ state : Loading, state.config = hydrateFields secrets config →
      salesforceAuth.hydrate (cassandraTls.hydrate (hydrateNacosAuthSecret
        (mqTokenSigning.hydrate (mqttAuth.hydrate (hydrateMqAuthSecrets state))))) = state := by
    intro state hstate
    have hplain : PlainType state.config.dbType := by
      rw [hstate]
      exact h
    have hnacos : state.config.dbType ≠ .nacos := hplain nacosAuth (by simp [storageSections])
    have hrocketmq : state.config.isRocketmqConnection = false := if_pos hplain.ne_messageQueue
    have hmq : hydrateMqAuthSecrets state = state := by
      rw [hydrateMqAuthSecrets, hrocketmq]
      exact mqAuth.hydrate_of_ne state hplain.ne_messageQueue
    rw [hmq, mqttAuth.hydrate_of_ne state (hplain mqttAuth (by simp [storageSections])),
      mqTokenSigning.hydrate_of_ne state hplain.ne_messageQueue, hydrateNacosAuthSecret,
      if_pos hnacos,
      cassandraTls.hydrate_of_ne state (hplain cassandraTls (by simp [storageSections])),
      salesforceAuth.hydrate_of_ne state (hplain salesforceAuth (by simp [storageSections]))]
  unfold hydrateConnection
  dsimp only
  rw [hsections _ hfirst]
  obtain ⟨connectionSecrets, hconfig⟩ := hydratePluginSecrets_config
    { config := (hydrateFields secrets config).normalizeRocketmqCredentials
      secrets
      needsRewrite := (hydrateFields secrets config).hasRocketmqLegacyCredentials }
    (hydrateFields secrets config).normalizeRocketmqCredentials.connectionSecrets
  rw [hconfig, hfirst]
  rfl

section OneRow

variable (x : UrlExternals) {row config : ConnectionConfig} {secrets secrets' : Secrets}

section Read

variable (hconfig : config = (hydrateConnection secrets row).config.canonicalized x)
  (hother : other = (hydrateConnection secrets' row).config.canonicalized x)

include hconfig hother

private theorem publicPart_eq_of_sanitized_eq
    (hsanitized : sanitizedConnectionConfig x config = sanitizedConnectionConfig x other) :
    config.publicPart = other.publicPart := by
  have hread : (hydrateConnection secrets row).config.publicPart =
      (hydrateConnection secrets' row).config.publicPart := by
    rw [publicPart_hydrateConnection, publicPart_hydrateConnection]
  have hdriver : ∀ {secrets : Secrets} {config : ConnectionConfig},
      config = (hydrateConnection secrets row).config.canonicalized x →
      (sanitizedConnectionConfig x config).driverProfile = config.driverProfile ∧
      (sanitizedConnectionConfig x config).driverLabel = config.driverLabel := by
    intro secrets config hconfig
    have hagain := @driver_canonicalized_canonicalized x (hydrateConnection secrets row).config
    rw [← hconfig] at hagain
    rw [sanitizedConnectionConfig_eq]
    exact hagain
  have hprofile : config.driverProfile = other.driverProfile := by
    rw [← (hdriver hconfig).1, hsanitized, (hdriver hother).1]
  have hlabel : config.driverLabel = other.driverLabel := by
    rw [← (hdriver hconfig).2, hsanitized, (hdriver hother).2]
  rw [hconfig, hother] at hprofile hlabel ⊢
  exact publicPart_canonicalized_congr x hread hprofile hlabel

private theorem externalConfig_eq_of_sqlServer
    (htype : row.dbType = .sqlServer) : config.externalConfig = other.externalConfig := by
  have hplain : PlainType row.dbType := plainType_of_mem (by simp [htype])
  have hexternal : ∀ {secrets : Secrets} {config : ConnectionConfig},
      config = (hydrateConnection secrets row).config.canonicalized x →
      config.externalConfig = row.canonicalizeSqlserverHost.externalConfig := by
    intro secrets config hconfig
    have hread := externalConfig_hydrateConnection hplain secrets
    have hpublic := publicPart_hydrateConnection row secrets
    have htypes := eq_of_publicPart ConnectionConfig.dbType (fun _ => rfl) hpublic
    have hhost := eq_of_publicPart host (fun _ => rfl) hpublic
    have hlegacy : ∀ config : ConnectionConfig,
        config.canonicalizeSqlserverLegacy.externalConfig = config.externalConfig := by
      intro config
      unfold canonicalizeSqlserverLegacy
      split <;> rfl
    rw [hconfig, canonicalized_of_sqlServer x (htypes.trans htype), hlegacy]
    unfold canonicalizeSqlserverHost
    rw [hread, hhost]
  rw [hexternal hconfig, hexternal hother]

end Read

section

variable (hsanitized : sanitizedConnectionConfig x config = sanitizedConnectionConfig x other)

include hsanitized

private theorem externalConfig_scrub_eq (htype : config.dbType = other.dbType)
    (hplain : config.dbType ≠ .sqlServer) (hleaked : leakedSecrets config = leakedSecrets other) :
    (scrubConnectionSecrets config).externalConfig =
      (scrubConnectionSecrets other).externalConfig := by
  have hleft := externalConfig_sanitizedConnectionConfig x hplain
  have hright := externalConfig_sanitizedConnectionConfig x (htype ▸ hplain)
  rw [hsanitized, hright, ← htype] at hleft
  have htypeLeft := dbType_scrubConnectionSecrets config
  have htypeRight := (dbType_scrubConnectionSecrets other).trans htype.symm
  rw [← leakedSecrets_scrubConnectionSecrets config,
    ← leakedSecrets_scrubConnectionSecrets other] at hleaked
  by_cases hplaced : ∃ place ∈ leakedSections, config.dbType = place.dbType
  · obtain ⟨place, hplace, hshown⟩ := hplaced
    obtain ⟨hvalues, hscrub⟩ := leakedSections_eq_of_mem hplace
    rw [hvalues (htypeLeft.trans hshown), hvalues (htypeRight.trans hshown)] at hleaked
    rw [hshown, hscrub, hscrub] at hleft
    exact place.externalConfig_eq_of_scrub (htypeLeft.trans hshown) (htypeRight.trans hshown)
      hleft.symm hleaked
  · have hnone : ∀ place ∈ leakedSections, config.dbType ≠ place.dbType := by
      simpa using hplaced
    rw [scrubExternal_of_ne hnone, scrubExternal_of_ne hnone] at hleft
    exact hleft.symm

/-- The connections of one row that agree once they are sanitized, in their query parameters and
in the secrets that a snapshot shows are the same in a snapshot. -/
theorem scrub_eq_of_sanitized_eq
    (hconfig : config = (hydrateConnection secrets row).config.canonicalized x)
    (hother : other = (hydrateConnection secrets' row).config.canonicalized x)
    (hparams : config.urlParams.map scrubUrlParams = other.urlParams.map scrubUrlParams)
    (hleaked : leakedSecrets config = leakedSecrets other) :
    scrubConnectionSecrets config = scrubConnectionSecrets other := by
  have hpublic := publicPart_eq_of_sanitized_eq x hconfig hother hsanitized
  have htype := eq_of_publicPart ConnectionConfig.dbType (fun _ => rfl) hpublic
  have hexternal : scrubExternal snapshotSections config.dbType config.normalizedExternal =
      scrubExternal snapshotSections other.dbType other.normalizedExternal := by
    by_cases hsqlServer : row.dbType = .sqlServer
    · have hprofile := eq_of_publicPart driverProfile (fun _ => rfl) hpublic
      rw [normalizedExternal, normalizedExternal, isRocketmqConnection, isRocketmqConnection, htype,
        hprofile, externalConfig_eq_of_sqlServer x hconfig hother hsqlServer]
    · have hread := eq_of_publicPart ConnectionConfig.dbType (fun _ => rfl)
        (publicPart_hydrateConnection row secrets)
      have hplain : config.dbType ≠ .sqlServer := by
        rw [hconfig]
        exact (canonicalized_of_ne_sqlServer x fun h => hsqlServer (hread.symm.trans h)).2.1
      have hscrubbed := externalConfig_scrub_eq x hsanitized htype hplain hleaked
      rw [scrubConnectionSecrets_eq, scrubConnectionSecrets_eq other] at hscrubbed
      exact hscrubbed
  rw [scrubConnectionSecrets_eq config, scrubConnectionSecrets_eq other]
  simp only [hpublic, hparams, hexternal]

end

end OneRow

/-! ### Two storages -/

/-- Two storages with the same rows, which may differ in the secret store. -/
structure SameRows (a b : Storage) : Prop where
  connections : a.connections = b.connections
  tunnelProfiles : a.tunnelProfiles = b.tunnelProfiles
  savedSql : a.savedSql = b.savedSql
  sidebarLayout : a.sidebarLayout = b.sidebarLayout
  pinnedTreeNodeIds : a.pinnedTreeNodeIds = b.pinnedTreeNodeIds
  desktopSettings : a.desktopSettings = b.desktopSettings

variable {connections : List ConnectionConfig} (x : SyncExternals)

private theorem config_of_loadConnection {x : UrlExternals} {secrets : Secrets}
    {row : ConnectionConfig}
    {result : ConnectionConfig × Loading} (h : loadConnection x secrets row = .ok result) :
    result.1 = (hydrateConnection secrets row.reread).config.canonicalized x := by
  unfold loadConnection at h
  dsimp only at h
  split at h
  · cases h
  · rw [← Except.ok.inj h]

private theorem forall₂_of_loadConnections {x : UrlExternals} {storage after : Storage}
    (h : storage.loadConnections x = .ok (connections, after)) :
    Forall₂ (fun row config => ∃ secrets : Secrets,
        config = (hydrateConnection secrets row.2.reread).config.canonicalized x)
      (storage.connections.filterMap fun row => row.2.map (row.1, ·)) connections := by
  obtain ⟨loaded, hrows, heq⟩ := map_eq_ok_iff.mp h
  have hconnections : loaded.map (fun entry => entry.2.1) = connections := congrArg Prod.fst heq
  rw [← hconnections, forall₂_map_right_iff]
  refine imp ?_ (mapM_eq_ok_iff.mp hrows)
  intro row entry hentry
  obtain ⟨result, hload, rfl⟩ := map_eq_ok_iff.mp hentry
  exact ⟨storage.secrets row.1, config_of_loadConnection hload⟩

private theorem forall₂_selectById {α : Type} {R : α → α → Prop} {id : α → Text}
    {items others : List α}
    (selected : Option (List Text)) (hid : ∀ item other, R item other → id item = id other)
    (h : Forall₂ R items others) :
    Forall₂ R (selectById items selected id) (selectById others selected id) := by
  unfold selectById
  rcases selected with _ | selected
  · exact h
  dsimp only
  induction h with
  | nil => exact .nil
  | @cons item other items others hitem _ ih =>
    rw [filter_cons, filter_cons, hid item other hitem]
    split
    · exact .cons hitem ih
    · exact ih

private theorem map_selectById_map {α β : Type} {f : α → α} {id : α → Text} {g : α → β}
    (hid : ∀ item, id (f item) = id item) (hg : ∀ item, g (f item) = g item) (items : List α)
    (selected : Option (List Text)) :
    (selectById (items.map f) selected id).map g = (selectById items selected id).map g := by
  have hmap : ∀ items : List α, (items.map f).map g = items.map g := by
    intro items
    rw [map_map]
    exact map_congr_left fun item _ => hg item
  unfold selectById
  rcases selected with _ | selected
  · exact hmap items
  dsimp only
  rw [filter_map, hmap]
  refine congrArg (map g) (filter_congr fun item _ => ?_)
  rw [Function.comp_apply, hid]

private theorem mergeMissingTunnelProfileSecrets_public (profile previous : TransportLayerConfig) :
    (Storage.mergeMissingTunnelProfileSecrets profile previous).id = profile.id ∧
    (clearDeviceLocalTunnelPath
      (Storage.mergeMissingTunnelProfileSecrets profile previous)).scrubSecrets =
        (clearDeviceLocalTunnelPath profile).scrubSecrets := by
  cases profile <;> cases previous <;> exact ⟨rfl, rfl⟩

private theorem tunnelProfiles_of_rows (storage : Storage) (selected : Option (List Text)) :
    (selectById storage.loadTunnelProfiles selected id).map
        (fun profile => (clearDeviceLocalTunnelPath profile).scrubSecrets) =
      (selectById storage.tunnelProfiles selected id).map
        fun profile => (clearDeviceLocalTunnelPath profile).scrubSecrets := by
  refine map_selectById_map ?_ ?_ storage.tunnelProfiles selected
  · intro profile
    split
    · exact (mergeMissingTunnelProfileSecrets_public _ _).1
    · rfl
  · intro profile
    split
    · exact (mergeMissingTunnelProfileSecrets_public _ _).2
    · rfl

private theorem mqttSubscriptionEntry_scrub {config : ConnectionConfig}
    (h : config.dbType = .mqtt) :
    mqttSubscriptionEntry x (scrubConnectionSecrets config) = mqttSubscriptionEntry x config := by
  have hqueue : config.dbType ≠ .messageQueue := by
    rw [h]
    decide
  have hid : (scrubConnectionSecrets config).id = config.id := by
    rw [scrubConnectionSecrets_eq]
    rfl
  have hexternal : (scrubConnectionSecrets config).externalConfig = config.externalConfig.map
      (mapObjectAt "auth" mqttPasswordAuth.scrubFields) := by
    rw [scrubConnectionSecrets_eq, normalizedExternal_of_ne hqueue, h]
    rfl
  have hget : ∀ key : Text, key ≠ "auth" →
      ((scrubConnectionSecrets config).externalConfig.bind fun external => external.get key) =
        config.externalConfig.bind fun external => external.get key := by
    intro key hkey
    rw [hexternal]
    cases config.externalConfig with
    | none => rfl
    | some external => exact get_mapObjectAt_of_ne _ external hkey
  have hprotocol : ((scrubConnectionSecrets config).externalConfig.bind fun external =>
      (external.get "protocolVersion").bind asStr) = config.externalConfig.bind fun external =>
          (external.get "protocolVersion").bind asStr := by
    have hsame := congrArg (Option.bind · asStr) (hget "protocolVersion" (by decide))
    rw [Option.bind_assoc, Option.bind_assoc] at hsame
    exact hsame
  unfold mqttSubscriptionEntry validateMqttSubscriptions
  rw [hget _ (by decide), hid, hprotocol]

private theorem extractMqttSubscriptions_scrub (connections : List ConnectionConfig) :
    extractMqttSubscriptions x (connections.map scrubConnectionSecrets) =
      extractMqttSubscriptions x connections := by
  unfold extractMqttSubscriptions
  rw [filter_map, mapM_map_except]
  have htype : ((fun config : ConnectionConfig => decide (config.dbType = .mqtt)) ∘
      scrubConnectionSecrets) = fun config => decide (config.dbType = .mqtt) := by
    funext config
    rw [Function.comp_apply, dbType_scrubConnectionSecrets]
  rw [htype]
  refine mapM_congr fun config hconfig => ?_
  have hmqtt : config.dbType = .mqtt := of_decide_eq_true (mem_filter.mp hconfig).2
  rw [Function.comp_apply, mqttSubscriptionEntry_scrub x hmqtt]

/-! ### Snapshots -/

/-- The connections of a snapshot. -/
def snapshotConnections (selection : Option SyncSelection) (connections : List ConnectionConfig) :
    List ConnectionConfig :=
  (selectById connections (selection.bind SyncSelection.connections) ConnectionConfig.id).map
    fun config => scrubConnectionSecrets (clearDeviceLocalConnectionPaths config)

/-- A snapshot without secrets depends on the connections through what it shows of them, and on the
rows of the other tables. -/
theorem buildSyncSnapshot_withoutSecrets {Blob : Type} (cipher : SyncCipher Blob)
    {storage after : Storage}
    (hload : storage.loadConnections x.toUrlExternals = .ok (connections, after))
    {options : SyncExportOptions} (hoptions : options.includeSecrets = false)
    (exportedAt appVersion : Text) (editorSettings : Option Json)
    (selection : Option SyncSelection) :
    buildSyncSnapshotWithSelection x cipher storage exportedAt appVersion editorSettings options
        selection =
      let savedSql := selectSavedSqlLibrary storage.savedSql
        (selection.bind savedSqlFolders) (selection.bind savedSqlFiles)
      (extractMqttSubscriptions x (snapshotConnections selection connections)).map
        fun subscriptions =>
        { schemaVersion := 3
          exportedAt
          appVersion
          connections := snapshotConnections selection connections
          mqttSubscriptions := some subscriptions
          tunnelProfiles := some ((selectById storage.tunnelProfiles
            (selection.bind tunnelProfiles) id).map
              fun profile => (clearDeviceLocalTunnelPath profile).scrubSecrets)
          sidebarLayout := if selection.bind sidebarLayout = some false then none
            else storage.sidebarLayout
          pinnedTreeNodeIds := if selection.bind pinnedTreeNodeIds = some false then []
            else storage.pinnedTreeNodeIds
          savedSql
          desktopSettings := selectSyncableDesktopSettings x storage.desktopSettings
            (selection.bind desktopSettings)
          editorSettings := selectSyncableEditorSettings editorSettings
            (selection.bind SyncSelection.editorSettings)
          encryptedSecrets := none
          selection := selection.map (includedSelection · savedSql false) } := by
  have hscrubbed : snapshotConnections selection connections = ((selectById connections
      (selection.bind SyncSelection.connections) ConnectionConfig.id).map
        clearDeviceLocalConnectionPaths).map scrubConnectionSecrets := by
    rw [snapshotConnections, map_map]
    rfl
  rw [hscrubbed, extractMqttSubscriptions_scrub, ← tunnelProfiles_of_rows]
  unfold buildSyncSnapshotWithSelection
  rw [hload, hoptions]
  rfl

section TwoStorages

variable {x : UrlExternals} {a b after after' : Storage}
  {connections others : List ConnectionConfig}

private theorem forall₂_of_sameRows (hrows : SameRows a b)
    (ha : a.loadConnections x = .ok (connections, after))
    (hb : b.loadConnections x = .ok (others, after'))
    (hsanitized : connections.map (sanitizedConnectionConfig x) =
      others.map (sanitizedConnectionConfig x))
    (hparams : connections.map (fun config => config.urlParams.map scrubUrlParams) =
      others.map fun config => config.urlParams.map scrubUrlParams) :
    Forall₂ (fun config other => config.id = other.id ∧
      (leakedSecrets config = leakedSecrets other →
        scrubConnectionSecrets config = scrubConnectionSecrets other)) connections others := by
  have hfirst := forall₂_of_loadConnections ha
  rw [hrows.connections] at hfirst
  have hrow := forall₂_of_common hfirst (forall₂_of_loadConnections hb)
  have hsame := mp (fun _ _ hleft hright => And.intro hleft hright)
    (map_eq_map_iff_forall₂.mp hsanitized) (map_eq_map_iff_forall₂.mp hparams)
  refine mp ?_ hrow hsame
  rintro config other ⟨row, ⟨secrets, hconfig⟩, secrets', hother⟩ ⟨hsanitized, hparams⟩
  have hpublic := publicPart_eq_of_sanitized_eq x hconfig hother hsanitized
  exact ⟨eq_of_publicPart ConnectionConfig.id (fun _ => rfl) hpublic,
    scrub_eq_of_sanitized_eq x hsanitized hconfig hother hparams⟩

private theorem snapshotConnections_eq_iff (h : Forall₂ (fun config other => config.id = other.id ∧
      (leakedSecrets config = leakedSecrets other →
        scrubConnectionSecrets config = scrubConnectionSecrets other)) connections others)
    (selection : Option SyncSelection) :
    snapshotConnections selection connections = snapshotConnections selection others ↔
      (selectById connections (selection.bind SyncSelection.connections)
          ConnectionConfig.id).map leakedSecrets =
        (selectById others (selection.bind SyncSelection.connections)
          ConnectionConfig.id).map leakedSecrets := by
  have hselected := forall₂_selectById (selection.bind SyncSelection.connections)
    (fun _ _ hpair => And.left hpair) h
  have hshown : ∀ connections, (snapshotConnections selection connections).map leakedSecrets =
      (selectById connections (selection.bind SyncSelection.connections)
        ConnectionConfig.id).map leakedSecrets := by
    intro connections
    rw [snapshotConnections, map_map]
    refine map_congr_left fun config _ => ?_
    rw [Function.comp_apply, leakedSecrets_scrubConnectionSecrets,
      leakedSecrets_clearDeviceLocalConnectionPaths]
  constructor
  · intro hsame
    rw [← hshown, ← hshown, hsame]
  · intro hleaked
    rw [map_eq_map_iff_forall₂] at hleaked
    refine map_eq_map_iff_forall₂.mpr (mp ?_ hselected hleaked)
    intro config other hpair hsecrets
    rw [scrub_clearDeviceLocalConnectionPaths, scrub_clearDeviceLocalConnectionPaths,
      hpair.2 hsecrets]

end TwoStorages

/-- Two storages with the same rows whose connections agree once they are sanitized, and in their
query parameters without secrets, have the same snapshot without secrets exactly if the selected
connections agree in the secrets of Salesforce and of MQTT with a certificate. -/
theorem snapshot_withoutSecrets_eq_iff {Blob : Type} (cipher : SyncCipher Blob)
    {a b after after' : Storage} {others : List ConnectionConfig} (hrows : SameRows a b)
    (ha : a.loadConnections x.toUrlExternals = .ok (connections, after))
    (hb : b.loadConnections x.toUrlExternals = .ok (others, after'))
    (hsanitized : connections.map (sanitizedConnectionConfig x.toUrlExternals) =
      others.map (sanitizedConnectionConfig x.toUrlExternals))
    (hparams : connections.map (fun config => config.urlParams.map scrubUrlParams) =
      others.map fun config => config.urlParams.map scrubUrlParams) {options : SyncExportOptions}
    (hoptions : options.includeSecrets = false) (exportedAt exportedAt' appVersion : Text)
    (editorSettings : Option Json) (selection : Option SyncSelection) {snapshot : SyncSnapshot Blob}
    (hbuild : buildSyncSnapshotWithSelection x cipher a exportedAt appVersion editorSettings options
      selection = .ok snapshot) :
    buildSyncSnapshotWithSelection x cipher b exportedAt' appVersion editorSettings options
        selection = .ok { snapshot with exportedAt := exportedAt' } ↔
      (selectById connections (selection.bind SyncSelection.connections)
          ConnectionConfig.id).map leakedSecrets =
        (selectById others (selection.bind SyncSelection.connections)
          ConnectionConfig.id).map leakedSecrets := by
  rw [← snapshotConnections_eq_iff (forall₂_of_sameRows hrows ha hb hsanitized hparams)]
  rw [buildSyncSnapshot_withoutSecrets x cipher ha hoptions] at hbuild
  rw [buildSyncSnapshot_withoutSecrets x cipher hb hoptions]
  obtain ⟨subscriptions, hsubscriptions, rfl⟩ := map_eq_ok_iff.mp hbuild
  constructor
  · intro hother
    obtain ⟨subscriptions', -, hother⟩ := map_eq_ok_iff.mp hother
    exact (congrArg SyncSnapshot.connections hother).symm
  · intro hsame
    rw [← hsame, hsubscriptions, hrows.tunnelProfiles, hrows.savedSql, hrows.sidebarLayout,
      hrows.pinnedTreeNodeIds, hrows.desktopSettings]
    rfl

/-- A storage with one connection. -/
def oneConnection (row : ConnectionConfig) (secrets : Secrets) : Storage where
  connections := [(row.id, some row)]
  ids_nodup := pairwise_singleton _ _
  secrets _ := secrets
  tunnelProfiles := []
  tunnelSecrets _ := none
  savedSql := ⟨[], []⟩
  sidebarLayout := none
  pinnedTreeNodeIds := []
  desktopSettings := []

private def plainExternals : SyncExternals where
  percentDecode := id
  desktopDefaults := []
  jsonError _ := []

private def plainCipher : SyncCipher (SensitiveSyncPayload × Text) where
  encrypt := Prod.mk
  decrypt blob _ := .ok blob.1
  decrypt_encrypt _ _ := rfl

private def withoutSecrets : SyncExportOptions := ⟨false, none, false, false⟩

private def salesforceRow : ConnectionConfig where
  id := "c"
  dbType := .salesforce
  externalConfig := some (.object [("auth",
    .object [("kind", .string "oauth2"), ("refreshToken", .string [])])])

private theorem exists_of_map_fst {α β ε : Type} {result : Except ε (α × β)} {a : α}
    (h : result.map Prod.fst = .ok a) : ∃ b, result = .ok (a, b) := by
  rcases result with _ | pair
  · cases h
  obtain ⟨first, second⟩ := pair
  cases h
  exact ⟨second, rfl⟩

/-- Two storages that differ in the refresh token of Salesforce in the secret store: the snapshot
without secrets shows it. -/
theorem snapshot_withoutSecrets_shows_refreshToken :
    let a := oneConnection salesforceRow [(salesforceAuthRefreshTokenKey, "s")]
    let b := oneConnection salesforceRow [(salesforceAuthRefreshTokenKey, "t")]
    SameRows a b ∧
    ((a.loadConnections plainExternals.toUrlExternals).map fun loaded =>
        loaded.1.map fun config => (sanitizedConnectionConfig plainExternals.toUrlExternals config,
          config.urlParams.map scrubUrlParams)) =
      ((b.loadConnections plainExternals.toUrlExternals).map fun loaded =>
        loaded.1.map fun config => (sanitizedConnectionConfig plainExternals.toUrlExternals config,
          config.urlParams.map scrubUrlParams)) ∧
    ((buildSyncSnapshotWithSelection plainExternals plainCipher a [] [] none withoutSecrets
        none).map fun snapshot => snapshot.connections.map leakedSecrets) =
      .ok [[none, some (.string "s"), none]] ∧
    ((buildSyncSnapshotWithSelection plainExternals plainCipher b [] [] none withoutSecrets
        none).map fun snapshot => snapshot.connections.map leakedSecrets) =
      .ok [[none, some (.string "t"), none]] := by
  refine ⟨⟨rfl, rfl, rfl, rfl, rfl, rfl⟩, ?_, ?_, ?_⟩ <;> decide +kernel

private def postgresRow : ConnectionConfig where
  id := "c"
  dbType := .postgres

/-- Two passwords give one snapshot. -/
theorem snapshot_withoutSecrets_eq_of_passwords :
    let a := oneConnection postgresRow [(passwordKey, "s")]
    let b := oneConnection postgresRow [(passwordKey, "t")]
    ∃ snapshot,
      buildSyncSnapshotWithSelection plainExternals plainCipher a ['0'] [] none withoutSecrets
        none = .ok snapshot ∧
      buildSyncSnapshotWithSelection plainExternals plainCipher b ['1'] [] none withoutSecrets
        none = .ok { snapshot with exportedAt := ['1'] } := by
  intro a b
  obtain ⟨after, ha⟩ := exists_of_map_fst (show
    (a.loadConnections plainExternals.toUrlExternals).map Prod.fst =
      .ok [{ postgresRow with password := "s" }] by decide +kernel)
  obtain ⟨after', hb⟩ := exists_of_map_fst (show
    (b.loadConnections plainExternals.toUrlExternals).map Prod.fst =
      .ok [{ postgresRow with password := "t" }] by decide +kernel)
  have hoptions : withoutSecrets.includeSecrets = false := rfl
  have hsubscriptions : extractMqttSubscriptions plainExternals
      (snapshotConnections none [{ postgresRow with password := "s" }]) = .ok [] := by
    decide +kernel
  obtain ⟨snapshot, hbuild⟩ : ∃ snapshot, buildSyncSnapshotWithSelection plainExternals plainCipher
      a ['0'] [] none withoutSecrets none = .ok snapshot := by
    rw [buildSyncSnapshot_withoutSecrets plainExternals plainCipher ha hoptions, hsubscriptions]
    exact ⟨_, rfl⟩
  have hrows : SameRows a b := ⟨rfl, rfl, rfl, rfl, rfl, rfl⟩
  have hiff := snapshot_withoutSecrets_eq_iff plainExternals plainCipher hrows ha hb
    (by decide +kernel) (by decide +kernel) hoptions ['0'] ['1'] [] none none hbuild
  exact ⟨snapshot, hbuild, hiff.mpr (by decide +kernel)⟩

end DbxSpec.Sync
