import DbxSpec.Sync.Storage

/-!
# Sync snapshots

Building a snapshot of the storage (`crates/dbx-core/src/persistence/cloud_sync.rs:850`), with or
without the secrets. AI configurations, sync credentials and the storage of plugins are left out.
Encryption is a parameter, and so are the default desktop settings and the texts of JSON errors.
-/

namespace DbxSpec.Sync

open DbxSpec.Base DbxSpec.Sql

/-- What comes from elsewhere. -/
structure SyncExternals extends UrlExternals where
  desktopDefaults : List (Text × Json)
  jsonError : Json → Text

/-! ### Taking the secrets out -/

/-- `cloud_sync.rs:2499`. -/
def urlParamIsSecret (key : Text) : Bool :=
  let normalized := (toAsciiLowercase (trim key)).filter fun ch => ch != '_' && ch != '-'
  ["password", "passphrase", "secret", "token", "apikey", "privatekey", "clientsecret"].any
    fun word => containsText normalized word.toList

/-- `cloud_sync.rs:2499`. -/
def scrubUrlParams (value : Text) : Text :=
  joinTexts ['&'] ((splitChar '&' value).map fun part =>
    match splitOnce '=' part with
    | some (key, _) => if urlParamIsSecret key then key ++ ['='] else part
    | none => part)

/-- `cloud_sync.rs:2687` and `2725`: here only the kind `password` holds a password. -/
def mqttPasswordAuth : SecretSection where
  dbType := .mqtt
  name := "auth"
  targets kind := if kind = some "password".toList then
    [(mqttAuthPasswordKey, "password")] else []
  field_ne_kind kind target htarget := by
    split_ifs at htarget <;> simp at htarget
    subst htarget
    decide

variable (config : ConnectionConfig)

/-- `cloud_sync.rs:2462`. -/
def scrubConnectionSecrets : ConnectionConfig :=
  let config := config.normalizeRocketmqCredentials
  let config := { config with
    password := []
    transportLayers := config.transportLayers.map TransportLayerConfig.scrubSecrets
    redisSentinelPassword := []
    urlParams := config.urlParams.map scrubUrlParams
    connectionString := none
    initScript := none }
  let config := [mqttPasswordAuth, mqAuth, mqTokenSigning, nacosAuth, nacosConsoleAuth,
    cassandraTls].foldl (fun config place => place.scrub config) config
  { config with connectionSecrets := [] }

/-! ### Paths of this device -/

/-- `cloud_sync.rs:1078`. -/
def clearExternalConfigPathFields (place : String) (fields : List String) : ConnectionConfig :=
  config.mapSection place.toList fun object =>
    fields.foldl (fun object field => removeField field.toList object) object

/-- `cloud_sync.rs:1124` and `1061-1066`. -/
def clearDeviceLocalTunnelPath : TransportLayerConfig → TransportLayerConfig
  | .ssh layer => .ssh { layer with keyPath := [], sshAgentSockPath := [] }
  | profile => profile

/-- `cloud_sync.rs:1041-1049`: the file of a database. -/
def clearDatabaseFile : ConnectionConfig :=
  match config.dbType with
  | .sqlite | .duckDb => if trim config.host ≠ ":memory:" then { config with host := [] }
      else config
  | .access => { config with host := [] }
  | .h2 => if config.port = 0 then { config with host := [], connectionString := none } else config
  | _ => config

/-- `cloud_sync.rs:1067-1075`. -/
def clearExternalPaths : ConnectionConfig :=
  match config.dbType with
  | .mqtt => clearExternalConfigPathFields config "auth" ["caCertPath", "clientCertPath",
      "clientKeyPath"]
  | .cassandra => clearExternalConfigPathFields config "tls" ["truststore_path", "keystore_path"]
  | .messageQueue => clearExternalConfigPathFields config "tls" ["ca_cert_path", "client_cert_path",
      "client_key_path"]
  | _ => config

/-- `cloud_sync.rs:1040`. -/
def clearDeviceLocalConnectionPaths : ConnectionConfig :=
  let config := clearDatabaseFile config
  clearExternalPaths { config with
    docsNotesPath := none
    caCertPath := []
    clientCertPath := []
    clientKeyPath := []
    jdbcDriverPaths := []
    attachedDatabases := config.attachedDatabases.map fun attached => { attached with path := [] }
    transportLayers := config.transportLayers.map clearDeviceLocalTunnelPath }

/-! ### Collecting the secrets -/

/-- `cloud_sync.rs:596`. -/
structure ConnectionSecretSnapshot where
  connectionId : Text
  key : Text
  secret : Text
  deriving DecidableEq, Repr

/-- `cloud_sync.rs:553`, without AI configurations, credentials and plugin storage. -/
structure SensitiveSyncPayload where
  connectionSecrets : List ConnectionSecretSnapshot
  pluginSecretsIncluded : Bool
  tunnelProfiles : Option (List TransportLayerConfig)
  deriving DecidableEq

/-- The secrets of an object under their storage keys, as `push_json_secret` finds them. -/
def SecretSection.found (place : SecretSection) (external : Option Json) : List (Text × Text) :=
  ((external.bind (Json.objectAt place.name)).map fun fields =>
    (place.targets (authKind fields)).filterMap fun target =>
      (secretField fields target.2).map (target.1, ·)).getD []

/-- `cloud_sync.rs:2667`, for every type of database. -/
def pushMqExternalConfigSecrets : List (Text × Text) :=
  mqAuth.found config.externalConfig ++ mqTokenSigning.found config.externalConfig

/-- The other `push_…` functions, `cloud_sync.rs:2687-2798`, for one type of database. -/
def SecretSection.push (place : SecretSection) (config : ConnectionConfig) : List (Text × Text) :=
  if config.dbType = place.dbType then place.found config.externalConfig else []

/-- The keys and secrets of `cloud_sync.rs:2562-2609`, those that are empty included. -/
def connectionSecretEntries (includePluginSecrets : Bool) : List (Text × Text) :=
  (if config.savePassword then [(passwordKey, config.password)] else []) ++
  [(initScriptKey, config.initScript.getD []), (urlParamsSecretKey, config.urlParams.getD [])] ++
  (config.transportLayers.zipIdx.flatMap fun entry => transportLayerSecrets entry.2 entry.1) ++
  [(redisSentinelPasswordKey, config.redisSentinelPassword),
    (connectionStringKey, config.connectionString.getD [])] ++
  (if !config.isRocketmqConnection || config.savePassword then pushMqExternalConfigSecrets config
    else []) ++
  mqttPasswordAuth.push config ++ cassandraTls.push config ++
  (if config.savePassword then nacosAuth.push config ++ nacosConsoleAuth.push config else []) ++
  (if includePluginSecrets then config.connectionSecrets.map fun entry =>
    (pluginConnectionSecretPrefix ++ entry.1, entry.2) else [])

/-- `cloud_sync.rs:2556`. -/
def collectConnectionSecrets (includePluginSecrets : Bool) :
    Except Text (List ConnectionSecretSnapshot) :=
  let normalized := config.normalizeRocketmqCredentials
  if includePluginSecrets && normalized.connectionSecrets.any fun entry => entry.1.isEmpty then
    .error "Plugin connection secret key must not be empty"
  else .ok (((connectionSecretEntries normalized includePluginSecrets).filter fun entry =>
    !entry.2.isEmpty).map fun entry => ⟨normalized.id, entry.1, entry.2⟩)

/-- `cloud_sync.rs:613`, without the AI secrets. -/
structure SyncExportOptions where
  includeSecrets : Bool
  syncPassphrase : Option Text
  includeTunnelSecrets : Bool
  includePluginSecrets : Bool
  deriving DecidableEq, Repr

/-- `cloud_sync.rs:2613`. -/
def buildSensitivePayloadWithOptions (connections : List ConnectionConfig)
    (tunnelProfiles : List TransportLayerConfig) (options : SyncExportOptions) :
    Except Text SensitiveSyncPayload :=
  (connections.mapM fun config => collectConnectionSecrets config options.includePluginSecrets).map
    fun collected =>
      { connectionSecrets := collected.flatten
        pluginSecretsIncluded := options.includePluginSecrets
        tunnelProfiles := if options.includeTunnelSecrets then some tunnelProfiles else none }

/-- Encryption of the payload under a passphrase, which decryption inverts. -/
structure SyncCipher (Blob : Type) where
  encrypt : SensitiveSyncPayload → Text → Blob
  decrypt : Blob → Text → Except Text SensitiveSyncPayload
  decrypt_encrypt : ∀ payload passphrase,
    decrypt (encrypt payload passphrase) passphrase = .ok payload

/-! ### Subscriptions -/

/-- `cloud_sync.rs:507`. -/
structure MqttSubscriptionSyncTopic where
  topic : Text
  qos : Text
  noLocal : Bool
  enabled : Bool
  deriving DecidableEq, Repr

/-- `cloud_sync.rs:500`. -/
structure MqttSubscriptionSyncEntry where
  connectionId : Text
  subscriptions : List MqttSubscriptionSyncTopic
  deriving DecidableEq, Repr

namespace MqttSubscriptionSyncTopic

/-- A text, or the default if there is none. -/
def textOr (fallback : Option Text) : Option Json → Option Text
  | none => fallback
  | some value => value.asStr

/-- A truth value, or the default if there is none. -/
def boolOr (fallback : Bool) : Option Json → Option Bool
  | none => some fallback
  | some (.bool value) => some value
  | some _ => none

/-- A topic from the values of its fields, with the defaults of `cloud_sync.rs:509-514`. -/
def ofValues (topic qos noLocal enabled : Option Json) : Option MqttSubscriptionSyncTopic := do
  let topic ← textOr none topic
  let qos ← textOr (some "atmostonce") qos
  let noLocal ← boolOr false noLocal
  let enabled ← boolOr true enabled
  some { topic, qos, noLocal, enabled }

/-- The derived `Deserialize`, which also takes the fields in order. -/
def ofJson : Json → Option MqttSubscriptionSyncTopic
  | .object fields => ofValues (fields.lookup "topic".toList) (fields.lookup "qos".toList)
      (fields.lookup "noLocal".toList) (fields.lookup "enabled".toList)
  | .array items => if items.length ≤ 4 then ofValues items[0]? items[1]? items[2]? items[3]?
      else none
  | _ => none

end MqttSubscriptionSyncTopic

/-- `serde_json::from_value` for a list of topics. -/
def topicsOfJson : Json → Option (List MqttSubscriptionSyncTopic)
  | .array items => items.mapM MqttSubscriptionSyncTopic.ofJson
  | _ => none

/-- `cloud_sync.rs:2449`. -/
def validMqttFilter (topic : Text) : Bool :=
  if topic.isEmpty || topic.any isWhitespace then false
  else
    let segments := splitChar '/' topic
    segments.zipIdx.all fun entry =>
      if entry.1 = ['#'] then entry.2 + 1 == segments.length
      else !entry.1.contains '#' && (!entry.1.contains '+' || entry.1 == ['+'])

/-- The problem that `cloud_sync.rs:2432-2444` finds with one subscription. -/
def subscriptionProblem (configId protocol : Text) (earlier : List Text)
    (subscription : MqttSubscriptionSyncTopic) : Option Text :=
  let about := "MQTT 连接 " ++ configId
  if !validMqttFilter subscription.topic then
    some (about ++ " 包含无效 Topic Filter: " ++ subscription.topic)
  else if earlier.contains subscription.topic then
    some (about ++ " 包含重复 Topic Filter: " ++ subscription.topic)
  else if !(["atmostonce", "atleastonce", "exactlyonce"].map String.toList).contains
      subscription.qos then
    some (about ++ " 包含无效 QoS: " ++ subscription.qos)
  else if subscription.noLocal && protocol != "v5" then
    some (about ++ " 使用了 MQTT 3.x 不支持的 No Local")
  else none

/-- The loop of `cloud_sync.rs:2431-2446`. -/
def validateSubscriptions (configId protocol : Text) :
    List Text → List MqttSubscriptionSyncTopic → Except Text Unit
  | _, [] => .ok ()
  | earlier, subscription :: rest =>
    match subscriptionProblem configId protocol earlier subscription with
    | some problem => .error problem
    | none => validateSubscriptions configId protocol (subscription.topic :: earlier) rest

/-- `cloud_sync.rs:2421`. -/
def validateMqttSubscriptions (subscriptions : List MqttSubscriptionSyncTopic) : Except Text Unit :=
  let protocol := ((config.externalConfig.bind fun external =>
    (external.get "protocolVersion").bind Json.asStr)).getD "v5"
  validateSubscriptions config.id protocol [] subscriptions

variable (x : SyncExternals)

/-- The subscriptions of one connection, `cloud_sync.rs:2340-2351`. -/
def mqttSubscriptionEntry (config : ConnectionConfig) : Except Text MqttSubscriptionSyncEntry :=
  let subscriptions := (config.externalConfig.bind fun external =>
    external.get "savedTopics").getD (.array [])
  match topicsOfJson subscriptions with
  | none => .error ("Invalid MQTT subscriptions for connection " ++ config.id ++
      ": " ++ x.jsonError subscriptions)
  | some topics => (validateMqttSubscriptions config topics).map fun _ => ⟨config.id, topics⟩

/-- `cloud_sync.rs:2336`. -/
def extractMqttSubscriptions (connections : List ConnectionConfig) :
    Except Text (List MqttSubscriptionSyncEntry) :=
  (connections.filter fun config => config.dbType = .mqtt).mapM (mqttSubscriptionEntry x)

/-! ### Selections -/

/-- `cloud_sync.rs:197`. -/
structure SyncSelection where
  connections : Option (List Text) := none
  connectionSecrets : Option (List Text) := none
  tunnelProfiles : Option (List Text) := none
  tunnelSecrets : Option (List Text) := none
  savedSqlFolders : Option (List Text) := none
  savedSqlFiles : Option (List Text) := none
  desktopSettings : Option (List Text) := none
  editorSettings : Option (List Text) := none
  aiConfigs : Option (List Text) := none
  pluginUiStorage : Option (List (Text × Text)) := none
  sidebarLayout : Option Bool := none
  pinnedTreeNodeIds : Option Bool := none
  includeSecrets : Bool := false
  syncCredentials : Bool := true
  deriving DecidableEq, Repr

/-- `cloud_sync.rs:621`. -/
def selectById {α : Type} (items : List α) (selected : Option (List Text)) (id : α → Text) :
    List α :=
  match selected with
  | none => items
  | some selected => items.filter fun item => selected.contains (id item)

/-- The loop of `cloud_sync.rs:642-649` for one parent: folders up to the first that is there. -/
def addParentFolders (library : SavedSqlLibrary) :
    Nat → Option Text → List SavedSqlFolder × List Text → List SavedSqlFolder × List Text
  | fuel + 1, some parentId, (folders, folderIds) =>
    if folderIds.contains parentId then (folders, folderIds)
    else match (library.folders.filter fun folder => folder.id = parentId).getLast? with
      | none => (folders, parentId :: folderIds)
      | some folder => addParentFolders library fuel folder.parentFolderId
          (folders ++ [folder], parentId :: folderIds)
  | _, _, state => state

/-- `cloud_sync.rs:627`. A parent chain has no more folders than the library. -/
def selectSavedSqlLibrary (library : SavedSqlLibrary)
    (selectedFolders selectedFiles : Option (List Text)) : SavedSqlLibrary :=
  let folders := selectById library.folders selectedFolders SavedSqlFolder.id
  let files := selectById library.files selectedFiles SavedSqlFile.id
  let requiredParents := folders.filterMap SavedSqlFolder.parentFolderId ++
    files.filterMap SavedSqlFile.folderId
  let added := requiredParents.foldl (fun state parent =>
    addParentFolders library (library.folders.length + 1) (some parent) state)
      (folders, folders.map SavedSqlFolder.id)
  { folders := added.1, files }

/-- `cloud_sync.rs:67`. -/
def desktopDeviceLocalSettings : List Text :=
  ["saved_sql_sync_dir", "driver_store_dir", "plugin_store_dir", "agent_store_dir",
    "custom_ai_skill_root_enabled", "custom_ai_skill_root", "custom_ai_skill_auto_enabled"].map
    String.toList

/-- `cloud_sync.rs:79`. -/
def nonSyncableDesktopSettings : List Text := ["debug_logging_enabled"]

/-- `cloud_sync.rs:80`. -/
def nonSyncableEditorSettings : List Text :=
  ["sidebarShowUserAdmin", "updateNotificationsEnabled", "autoDownloadUpdates", "autoUpdateApp",
    "autoUpdateDrivers", "autoUpdateJdbc", "autoUpdateMcp", "autoUpdatePlugins",
    "updateDownloadSource", "ignoredUpdateVersion"].map String.toList

/-- `cloud_sync.rs:990`. -/
def syncableDesktopSettings (settings : List (Text × Json)) : List (Text × Json) :=
  [("saved_sql_sync_dir", Json.null), ("driver_store_dir", .null), ("plugin_store_dir", .null),
    ("agent_store_dir", .null), ("custom_ai_skill_root_enabled", .bool false),
    ("custom_ai_skill_root", .null), ("custom_ai_skill_auto_enabled", .bool false),
    ("debug_logging_enabled", .bool false)].foldl
      (fun settings entry => setField entry.1.toList entry.2 settings) settings

/-- `cloud_sync.rs:1002`. -/
def selectSyncableDesktopSettings (settings : List (Text × Json))
    (selected : Option (List Text)) : List (Text × Json) :=
  let settings := syncableDesktopSettings settings
  match selected with
  | none => settings
  | some selected => selected.foldl (fun filtered key =>
      if desktopDeviceLocalSettings.contains key || nonSyncableDesktopSettings.contains key then
        filtered
      else match settings.lookup key with
        | some value => setField key value filtered
        | none => filtered) x.desktopDefaults

/-- `cloud_sync.rs:1026`. -/
def selectSyncableEditorSettings (value : Option Json) (selected : Option (List Text)) :
    Option Json :=
  value.map (Json.mapObject fun fields => fields.filter fun field =>
    !nonSyncableEditorSettings.contains field.1 &&
      (selected.all fun keys => keys.contains field.1))

/-! ### Building a snapshot -/

/-- `cloud_sync.rs:167`. -/
structure SyncSnapshot (Blob : Type) where
  schemaVersion : Nat
  exportedAt : Text
  appVersion : Text
  connections : List ConnectionConfig
  mqttSubscriptions : Option (List MqttSubscriptionSyncEntry)
  tunnelProfiles : Option (List TransportLayerConfig)
  sidebarLayout : Option Json
  pinnedTreeNodeIds : List Text
  savedSql : SavedSqlLibrary
  desktopSettings : List (Text × Json)
  editorSettings : Option Json
  encryptedSecrets : Option Blob
  selection : Option SyncSelection

/-- `cloud_sync.rs:3185`. -/
def normalizedPassphrase (passphrase : Option Text) : Option Text :=
  (passphrase.map trim).filter fun value => !value.isEmpty

/-- `cloud_sync.rs:884-906`. -/
def includedSelection (selection : SyncSelection) (savedSql : SavedSqlLibrary)
    (includeSecrets : Bool) : SyncSelection :=
  { selection with
    desktopSettings := selection.desktopSettings.map fun keys =>
      keys.filter fun key => !nonSyncableDesktopSettings.contains key
    editorSettings := selection.editorSettings.map fun keys =>
      keys.filter fun key => !nonSyncableEditorSettings.contains key
    savedSqlFolders := selection.savedSqlFolders.map fun _ => savedSql.folders.map SavedSqlFolder.id
    includeSecrets
    connectionSecrets := if includeSecrets then selection.connectionSecrets else some []
    tunnelSecrets := if includeSecrets then selection.tunnelSecrets else some []
    aiConfigs := if includeSecrets then selection.aiConfigs else some []
    syncCredentials := includeSecrets && selection.syncCredentials
    pluginUiStorage := if includeSecrets then none else some [] }

/-- The selected secrets of the payload, `cloud_sync.rs:925-938`. -/
def selectPayload (selection : Option SyncSelection) (connections : List ConnectionConfig)
    (tunnelProfiles : List TransportLayerConfig) (payload : SensitiveSyncPayload) :
    SensitiveSyncPayload :=
  { payload with
    connectionSecrets := match selection.bind SyncSelection.connectionSecrets with
      | none => payload.connectionSecrets
      | some ids => payload.connectionSecrets.filter fun secret =>
          ids.contains secret.connectionId &&
            (connections.map ConnectionConfig.id).contains secret.connectionId
    tunnelProfiles := match selection.bind SyncSelection.tunnelSecrets with
      | none => payload.tunnelProfiles
      | some ids => payload.tunnelProfiles.map fun profiles => profiles.filter fun profile =>
          ids.contains profile.id &&
            (tunnelProfiles.map TransportLayerConfig.id).contains profile.id }

/-- `cloud_sync.rs:907-948`: the secrets under the passphrase. -/
def encryptedSecretsFor {Blob : Type} (cipher : SyncCipher Blob)
    (connections : List ConnectionConfig) (tunnelProfiles : List TransportLayerConfig)
    (options : SyncExportOptions) (selection : Option SyncSelection) : Except Text Blob :=
  match normalizedPassphrase options.syncPassphrase with
  | none => .error "A sync password is required when including synced secrets."
  | some passphrase =>
    (buildSensitivePayloadWithOptions connections tunnelProfiles options).map fun payload =>
      let payload := { payload with
        tunnelProfiles := payload.tunnelProfiles.map (·.map clearDeviceLocalTunnelPath) }
      cipher.encrypt (selectPayload selection connections tunnelProfiles payload) passphrase

/-- `cloud_sync.rs:850`. -/
def buildSyncSnapshotWithSelection {Blob : Type} (x : SyncExternals) (cipher : SyncCipher Blob)
    (storage : Storage) (exportedAt appVersion : Text) (editorSettings : Option Json)
    (options : SyncExportOptions) (selection : Option SyncSelection) :
    Except Text (SyncSnapshot Blob) := do
  let (sourceConnections, _) ← storage.loadConnections x.toUrlExternals
  let connections := (selectById sourceConnections (selection.bind SyncSelection.connections)
    ConnectionConfig.id).map clearDeviceLocalConnectionPaths
  let tunnelProfiles := selectById storage.loadTunnelProfiles
    (selection.bind SyncSelection.tunnelProfiles) TransportLayerConfig.id
  let savedSql := selectSavedSqlLibrary storage.savedSql
    (selection.bind SyncSelection.savedSqlFolders) (selection.bind SyncSelection.savedSqlFiles)
  let includeSecrets := options.includeSecrets && selection.all SyncSelection.includeSecrets
  let encryptedSecrets ← if includeSecrets then
      (encryptedSecretsFor cipher connections tunnelProfiles options selection).map some
    else .ok none
  let mqttSubscriptions ← extractMqttSubscriptions x connections
  return {
    schemaVersion := 3
    exportedAt
    appVersion
    connections := connections.map scrubConnectionSecrets
    mqttSubscriptions := some mqttSubscriptions
    tunnelProfiles := some (tunnelProfiles.map fun profile =>
      (clearDeviceLocalTunnelPath profile).scrubSecrets)
    sidebarLayout := if selection.bind SyncSelection.sidebarLayout = some false then none
      else storage.sidebarLayout
    pinnedTreeNodeIds := if selection.bind SyncSelection.pinnedTreeNodeIds = some false then []
      else storage.pinnedTreeNodeIds
    savedSql
    desktopSettings := selectSyncableDesktopSettings x storage.desktopSettings
      (selection.bind SyncSelection.desktopSettings)
    editorSettings := selectSyncableEditorSettings editorSettings
      (selection.bind SyncSelection.editorSettings)
    encryptedSecrets
    selection := selection.map (includedSelection · savedSql includeSecrets) }

end DbxSpec.Sync
