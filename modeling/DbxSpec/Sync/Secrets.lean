import DbxSpec.Sync.Connection

/-!
# The secret store

How the storage layer (`crates/dbx-core/src/persistence/storage.rs`) takes the secrets out of a
connection before it writes the row (`7135`), keeps them under keys (`7154`) and puts them back when
it reads the row (`8108`). The encryption of the stored values is left out: a secret is kept as its
text. A `HashMap` is a list sorted by key.
-/

namespace DbxSpec.Sync

open DbxSpec.Base DbxSpec.Sql

/-! ### The table of secrets -/

/-- The rows of `connection_secrets` for one connection: keys and secrets. -/
abbrev Secrets := List (Text × Text)

variable (secrets : Secrets)

/-- `storage.rs:8795`. -/
def getSecret (key : Text) : Option Text :=
  (secrets.lookup key).filter fun secret => !secret.isEmpty

/-- `storage.rs:8828` and `persist_secret_in_tx`, `storage.rs:9704`. -/
def setSecret (key secret : Text) : Secrets :=
  if secret.isEmpty then removeField key secrets else setField key secret secrets

/-- `LIKE` with a pattern that ends in `%`. -/
def likePrefix : Text → Text → Bool
  | [], _ => true
  | _ :: _, [] => false
  | p :: pattern, ch :: key => (p == '_' || p.toLower == ch.toLower) && likePrefix pattern key

/-- `storage.rs:3715`. -/
def deleteSecretPrefix (keyPrefix : Text) : Secrets :=
  secrets.filter fun entry => !likePrefix keyPrefix entry.1

/-! ### Keys -/

/-- `connection_secrets.rs:15`. -/
def mqAuthSecretPrefix : Text := "mq.auth."
/-- `connection_secrets.rs:16`. -/
def mqAuthTokenKey : Text := "mq.auth.token"
/-- `connection_secrets.rs:17`. -/
def mqAuthPasswordKey : Text := "mq.auth.password"
/-- `connection_secrets.rs:18`. -/
def mqAuthApiKeyValueKey : Text := "mq.auth.api_key_value"
/-- `connection_secrets.rs:19`. -/
def mqAuthClientSecretKey : Text := "mq.auth.client_secret"
/-- `connection_secrets.rs:21`. -/
def mqTokenSigningKey : Text := "mq.token_signing.key"
/-- `connection_secrets.rs:22`. -/
def nacosAuthSecretPrefix : Text := "nacos.auth."
/-- `connection_secrets.rs:23`. -/
def nacosAuthPasswordKey : Text := "nacos.auth.password"
/-- `connection_secrets.rs:24`. -/
def nacosRnacosConsolePasswordKey : Text := "nacos.auth.rnacos_console_password"
/-- `connection_secrets.rs:26`. -/
def mqttAuthPasswordKey : Text := "mqtt.auth.password"
/-- `connection_secrets.rs:28`. -/
def cassandraTruststorePasswordKey : Text := "cassandra.tls.truststore_password"
/-- `connection_secrets.rs:29`. -/
def cassandraKeystorePasswordKey : Text := "cassandra.tls.keystore_password"
/-- `connection_secrets.rs:31`. -/
def salesforceAuthClientSecretKey : Text := "salesforce.auth.client_secret"
/-- `connection_secrets.rs:32`. -/
def salesforceAuthRefreshTokenKey : Text := "salesforce.auth.refresh_token"
/-- `connection_secrets.rs:33`. -/
def salesforceAuthPasswordKey : Text := "salesforce.auth.password"
/-- `connection_secrets.rs:9`. -/
def sshTunnelSecretPrefix : Text := "ssh_tunnels."
/-- `connection_secrets.rs:10`. -/
def transportLayerSecretPrefix : Text := "transport_layers."
/-- `connection_secrets.rs:34`. -/
def pluginConnectionSecretPrefix : Text := "plugin_connection."
/-- `connection_secrets.rs:6`. -/
def passwordKey : Text := "password"
/-- `storage.rs:58`. -/
def urlParamsSecretKey : Text := "url_params"
/-- `connection_secrets.rs:13`. -/
def connectionStringKey : Text := "connection_string"
/-- `connection_secrets.rs:14`. -/
def initScriptKey : Text := "init_script"
/-- `connection_secrets.rs:12`. -/
def redisSentinelPasswordKey : Text := "redis_sentinel_password"

/-- `usize::to_string`. -/
def showNat (n : Nat) : Text := (toString n).toList

/-- `storage.rs:3588`. -/
def transportLayerSecretSegment (index : Nat) (layer : TransportLayerConfig) : Text :=
  let id := trim layer.id
  if id.isEmpty then showNat index else id

/-- The key of a secret of a layer, `storage.rs:3597-3611`. -/
def transportLayerKey (suffix : String) (index : Nat) (layer : TransportLayerConfig) : Text :=
  transportLayerSecretPrefix ++ transportLayerSecretSegment index layer ++ suffix.toList

/-- `storage.rs:3597`. -/
def transportLayerSshPasswordKey := transportLayerKey ".ssh_password"

/-- `storage.rs:3601`. -/
def transportLayerSshKeyPassphraseKey := transportLayerKey ".ssh_key_passphrase"

/-- `storage.rs:3605`. -/
def transportLayerProxyPasswordKey := transportLayerKey ".proxy_password"

/-- `storage.rs:3609`. -/
def transportLayerHttpTunnelTokenKey := transportLayerKey ".http_tunnel_token"

/-- The key of an old tunnel's secret, `storage.rs:3572-3586`. -/
def sshTunnelKey (suffix : String) (index : Nat) (hop : SshTunnelConfig) : Text :=
  sshTunnelSecretPrefix ++ (if (trim hop.id).isEmpty then showNat index else hop.id) ++
    suffix.toList

/-! ### Secrets in the external configuration -/

/-- `storage.rs:10431`. -/
def authKind (fields : List (Text × Json)) : Option Text :=
  (fields.lookup "kind".toList).bind Json.asStr

/-- An object of the external configuration that holds secrets: for a type of database, its name
and, for each kind of authentication, the storage keys and the fields. The kind itself is not a
secret. -/
structure SecretSection where
  dbType : DatabaseType
  name : Text
  targets : Option Text → List (Text × Text)
  field_ne_kind : ∀ kind, ∀ target ∈ targets kind, target.2 ≠ "kind"

/-- `storage.rs:10495`. -/
def isApiKeyAuthKind (kind : Text) : Bool :=
  (["apiKey", "api_key", "apikey"].map String.toList).contains kind

/-- `storage.rs:3630`, `8240` and `cloud_sync.rs:2667`. -/
def mqAuth : SecretSection where
  dbType := .messageQueue
  name := "auth"
  targets kind :=
    if kind = some "token".toList then [(mqAuthTokenKey, "token")]
    else if kind = some "basic".toList then [(mqAuthPasswordKey, "password")]
    else if kind.any isApiKeyAuthKind then [(mqAuthApiKeyValueKey, "value")]
    else if kind = some "oauth2".toList then [(mqAuthClientSecretKey, "clientSecret")]
    else []
  field_ne_kind kind target htarget := by
    split_ifs at htarget <;> simp at htarget <;> subst htarget <;> decide

/-- `storage.rs:3666`, `8307` and `cloud_sync.rs:2683`. -/
def mqTokenSigning : SecretSection where
  dbType := .messageQueue
  name := "tokenSigning"
  targets _ := [(mqTokenSigningKey, "key")]
  field_ne_kind kind target htarget := by
    simp at htarget
    subst htarget
    decide

/-- `mqtt_auth_kind_carries_password`, `storage.rs:3647`. -/
def mqttAuth : SecretSection where
  dbType := .mqtt
  name := "auth"
  targets kind :=
    if kind = some "password".toList ∨ kind = some "certificate".toList then
      [(mqttAuthPasswordKey, "password")] else []
  field_ne_kind kind target htarget := by
    split_ifs at htarget <;> simp at htarget
    subst htarget
    decide

/-- The two objects of `storage.rs:3676`; they differ in their name and key. -/
def nacosSection (name key : Text) : SecretSection where
  dbType := .nacos
  name := name
  targets kind := if kind = some "usernamePassword".toList then [(key, "password")] else []
  field_ne_kind kind target htarget := by
    split_ifs at htarget <;> simp at htarget
    subst htarget
    simp

/-- `storage.rs:3680-3684`. -/
def nacosAuth : SecretSection := nacosSection "auth" nacosAuthPasswordKey

/-- `storage.rs:3685-3689`. -/
def nacosConsoleAuth : SecretSection :=
  nacosSection "rnacosConsoleAuth" nacosRnacosConsolePasswordKey

/-- `storage.rs:3692`. -/
def cassandraTls : SecretSection where
  dbType := .cassandra
  name := "tls"
  targets _ := [(cassandraTruststorePasswordKey, "truststore_password"),
    (cassandraKeystorePasswordKey, "keystore_password")]
  field_ne_kind kind target htarget := by
    simp at htarget
    rcases htarget with rfl | rfl <;> decide

/-- `storage.rs:3703`. -/
def salesforceAuth : SecretSection where
  dbType := .salesforce
  name := "auth"
  targets _ := [(salesforceAuthClientSecretKey, "clientSecret"),
    (salesforceAuthRefreshTokenKey, "refreshToken"),
    (salesforceAuthPasswordKey, "password")]
  field_ne_kind kind target htarget := by
    simp at htarget
    rcases htarget with rfl | rfl | rfl <;> decide

/-- `storage.rs:10425`. -/
def scrubJsonSecret (field : Text) (fields : List (Text × Json)) : List (Text × Json) :=
  mapField field (fun _ => .string []) fields

variable (place : SecretSection)

/-- The secrets of an object replaced by the empty text. -/
def SecretSection.scrubFields (fields : List (Text × Json)) : List (Text × Json) :=
  (place.targets (authKind fields)).foldl (fun fields target => scrubJsonSecret target.2 fields)
    fields

variable (config : ConnectionConfig)

/-- The external configuration with a changed object. -/
def ConnectionConfig.mapSection (name : Text)
    (f : List (Text × Json) → List (Text × Json)) : ConnectionConfig :=
  { config with externalConfig := config.externalConfig.map (Json.mapObjectAt name f) }

/-- The object of a connection's section, if the connection is of its type. -/
def SecretSection.fields : Option (List (Text × Json)) :=
  if config.dbType = place.dbType then config.externalConfig.bind (Json.objectAt place.name)
  else none

/-- The `scrub_…_secrets` functions, `storage.rs:3630-3713`. -/
def SecretSection.scrub : ConnectionConfig :=
  if config.dbType = place.dbType then config.mapSection place.name place.scrubFields else config

/-- `storage.rs:7135`. -/
def sanitizedConnectionConfig (x : UrlExternals) (config : ConnectionConfig) : ConnectionConfig :=
  let sanitized := (config.canonicalized x).normalizeRocketmqCredentials
  let sanitized := { sanitized with
    password := []
    urlParams := none
    transportLayers := sanitized.transportLayers.map TransportLayerConfig.scrubSecrets
    redisSentinelPassword := []
    connectionString := none
    initScript := none }
  let sanitized := [mqAuth, mqttAuth, mqTokenSigning, nacosAuth, nacosConsoleAuth, cassandraTls,
    salesforceAuth].foldl (fun config place => place.scrub config) sanitized
  { sanitized with connectionSecrets := [] }

/-! ### Reading a row -/

/-- `storage.rs:7258`. -/
def loadPluginConnectionSecrets : List (Text × Text) :=
  (secrets.filterMap fun entry =>
    if pluginConnectionSecretPrefix.isPrefixOf entry.1 then
      some (entry.1.drop pluginConnectionSecretPrefix.length, entry.2) else none).mergeSort
    fun a b => decide (a.1 ≤ b.1)

/-- `storage.rs:8130-8183`: the secrets of one layer, also under the keys of older versions. -/
def hydrateTransportLayer (index : Nat) (layer : TransportLayerConfig) : TransportLayerConfig :=
  match layer with
  | .ssh ssh =>
    let older := fun (single : String) (suffix : String) =>
      if ssh.id = "legacy" then getSecret secrets single.toList
      else getSecret secrets (sshTunnelKey suffix index ssh)
    .ssh { ssh with
      password := ((getSecret secrets (transportLayerSshPasswordKey index layer)).or
        (older "ssh_password" ".password")).getD []
      keyPassphrase := ((getSecret secrets (transportLayerSshKeyPassphraseKey index layer)).or
        (older "ssh_key_passphrase" ".key_passphrase")).getD [] }
  | .proxy proxy =>
    .proxy { proxy with
      password := ((getSecret secrets (transportLayerProxyPasswordKey index layer)).or
        (if proxy.id = "legacy-proxy" then getSecret secrets "proxy_password"
          else none)).getD [] }
  | .httpTunnel http =>
    .httpTunnel { http with
      token := (getSecret secrets (transportLayerHttpTunnelTokenKey index layer)).getD [] }

/-- A connection while it is read: its secrets may be moved into the table. -/
structure Loading where
  config : ConnectionConfig
  secrets : Secrets
  needsRewrite : Bool

/-- A field that holds a text other than the empty one. -/
def secretField (fields : List (Text × Json)) (field : Text) : Option Text :=
  ((fields.lookup field).bind Json.asStr).filter fun secret => !secret.isEmpty

/-- `storage.rs:10407`. -/
def hydrateJsonSecret (target : Text × Text) (state : List (Text × Json) × Secrets × Bool) :
    List (Text × Json) × Secrets × Bool :=
  let (fields, secrets, needsRewrite) := state
  match secretField fields target.2 with
  | some secret => (fields, setSecret secrets target.1 secret, true)
  | none =>
    match getSecret secrets target.1 with
    | some secret => (setField target.2 (.string secret) fields, secrets, needsRewrite)
    | none => state

/-- The secrets of an object, one after the other. -/
def SecretSection.hydrateFields (fields : List (Text × Json))
    (secrets : Secrets) : List (Text × Json) × Secrets × Bool :=
  (place.targets (authKind fields)).foldl (fun state target => hydrateJsonSecret target state)
    (fields, secrets, false)

variable (state : Loading)

/-- The `hydrate_…` functions, `storage.rs:8287-8412`, for a connection whose password is kept. -/
def SecretSection.hydrate : Loading :=
  match place.fields state.config with
  | none => state
  | some fields =>
    let (hydrated, secrets, rewritten) := place.hydrateFields fields state.secrets
    { config := state.config.mapSection place.name fun _ => hydrated
      secrets
      needsRewrite := state.needsRewrite || rewritten }

/-- A section of a connection whose password is not kept, `storage.rs:8245-8259` and
`8331-8351`: the secrets are dropped. -/
def SecretSection.discard (keyPrefix : Text) (state : Loading) : Loading :=
  { config := place.scrub state.config
    secrets := deleteSecretPrefix state.secrets keyPrefix
    needsRewrite := state.needsRewrite || ((place.fields state.config).any fun fields =>
      (place.targets (authKind fields)).any fun target => (secretField fields target.2).isSome) }

/-- `storage.rs:8240`. With a password that is not kept, the source looks at `auth.password`
whatever the kind of authentication. -/
def hydrateMqAuthSecrets : Loading :=
  if state.config.isRocketmqConnection && !state.config.savePassword then
    { config := mqAuth.scrub state.config
      secrets := deleteSecretPrefix state.secrets mqAuthSecretPrefix
      needsRewrite := state.needsRewrite || ((mqAuth.fields state.config).any fun fields =>
        (secretField fields "password").isSome) }
  else mqAuth.hydrate state

/-- `storage.rs:8322`. -/
def hydrateNacosAuthSecret : Loading :=
  if state.config.dbType ≠ .nacos then state
  else if state.config.savePassword then nacosConsoleAuth.hydrate (nacosAuth.hydrate state)
  else nacosConsoleAuth.discard nacosAuthSecretPrefix
    (nacosAuth.discard nacosAuthSecretPrefix state)

/-- `storage.rs:8199-8212`: one secret of a plugin, in the table if it is not empty. -/
def hydratePluginSecret (entry : Text × Text) : Loading :=
  let storageKey := pluginConnectionSecretPrefix ++ entry.1
  if entry.2.isEmpty then
    match getSecret state.secrets storageKey with
    | none => state
    | some secret => { state with config := { state.config with
        connectionSecrets := setField entry.1 secret state.config.connectionSecrets } }
  else { state with secrets := setSecret state.secrets storageKey entry.2, needsRewrite := true }

/-- `storage.rs:8127-8190`: the fields outside of the external configuration. -/
def hydrateFields : ConnectionConfig :=
  let stored := loadPluginConnectionSecrets secrets
  { config with
    password := (getSecret secrets passwordKey).getD []
    urlParams := (getSecret secrets urlParamsSecretKey).or config.urlParams
    transportLayers := config.transportLayers.zipIdx.map fun entry =>
      hydrateTransportLayer secrets entry.2 entry.1
    redisSentinelPassword := (getSecret secrets redisSentinelPasswordKey).getD []
    connectionString := getSecret secrets connectionStringKey
    initScript := getSecret secrets initScriptKey
    connectionSecrets := if stored.isEmpty then config.connectionSecrets else stored }

/-- `storage.rs:8191-8212`, in the order of the source. -/
def hydrateConnection : Loading :=
  let config := hydrateFields secrets config
  let state : Loading :=
    { config := config.normalizeRocketmqCredentials
      secrets
      needsRewrite := config.hasRocketmqLegacyCredentials }
  let state := mqTokenSigning.hydrate (mqttAuth.hydrate (hydrateMqAuthSecrets state))
  let state := salesforceAuth.hydrate (cassandraTls.hydrate (hydrateNacosAuthSecret state))
  state.config.connectionSecrets.foldl hydratePluginSecret state

/-- One turn of the loop of `storage.rs:8120-8235`; an empty plugin key is an error. -/
def loadConnection (x : UrlExternals) (secrets : Secrets) (row : ConnectionConfig) :
    Except Text (ConnectionConfig × Loading) :=
  let state := hydrateConnection secrets row.reread
  if state.config.connectionSecrets.any fun entry => entry.1.isEmpty then
    .error "Plugin connection secret key must not be empty"
  else .ok (state.config.canonicalized x, state)

end DbxSpec.Sync
