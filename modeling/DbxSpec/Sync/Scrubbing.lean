import DbxSpec.Sync.Snapshot

/-!
# What scrubbing leaves

Lemmas on the sections of the external configuration: scrubbing changes only the secrets of an
object, reading a row changes only what scrubbing takes away, and both leave the public part of a
connection alone. The storage layer and a snapshot scrub different sections, and what the first
scrubs and the second does not is named here.
-/

namespace DbxSpec.Sync

open DbxSpec.Base DbxSpec.Sql List SecretSection ConnectionConfig TransportLayerConfig Json

/-! ### One object -/

namespace SecretSection

variable {targets : List (Text × Text)} {fields fields' : List (Text × Json)}

private theorem lookup_scrub_of_ne {key : Text} (h : ∀ target ∈ targets, target.2 ≠ key) :
    (targets.foldl (fun fields target => scrubJsonSecret target.2 fields) fields).lookup key =
      fields.lookup key := by
  induction targets generalizing fields with
  | nil => rfl
  | cons target targets ih =>
    rw [foldl_cons, ih fun later hlater => h later (mem_cons_of_mem target hlater)]
    exact lookup_mapField_of_ne (h target mem_cons_self).symm _

/-- Two objects that agree after scrubbing and in their secrets are the same. -/
theorem eq_of_scrub_eq
    (h : targets.foldl (fun fields target => scrubJsonSecret target.2 fields) fields =
      targets.foldl (fun fields target => scrubJsonSecret target.2 fields) fields')
    (hsecrets : ∀ target ∈ targets, fields.lookup target.2 = fields'.lookup target.2) :
    fields = fields' := by
  induction targets generalizing fields fields' with
  | nil => exact h
  | cons target targets ih =>
    have hlater : ∀ later ∈ targets, (scrubJsonSecret target.2 fields).lookup later.2 =
        (scrubJsonSecret target.2 fields').lookup later.2 := by
      intro later hmem
      have hbefore := hsecrets later (mem_cons_of_mem target hmem)
      by_cases hsame : later.2 = target.2
      · rw [scrubJsonSecret, scrubJsonSecret, hsame, lookup_mapField_self, lookup_mapField_self,
          ← hsame, hbefore]
      · rw [scrubJsonSecret, scrubJsonSecret, lookup_mapField_of_ne hsame,
          lookup_mapField_of_ne hsame, hbefore]
    exact eq_of_mapField_eq (ih h hlater) (hsecrets target mem_cons_self)

private theorem removeField_scrub {key : Text} (h : ∀ target ∈ targets, target.2 ≠ key) :
    removeField key (targets.foldl (fun fields target => scrubJsonSecret target.2 fields) fields) =
      targets.foldl (fun fields target => scrubJsonSecret target.2 fields)
        (removeField key fields) := by
  induction targets generalizing fields with
  | nil => rfl
  | cons target targets ih =>
    have hcomm : removeField key (scrubJsonSecret target.2 fields) =
        scrubJsonSecret target.2 (removeField key fields) :=
      removeField_mapField_of_ne (h target mem_cons_self) _
    rw [foldl_cons, foldl_cons,
      ih fun later hlater => h later (mem_cons_of_mem target hlater), hcomm]

variable (place : SecretSection)

/-- The kind of authentication is kept. -/
@[simp] theorem authKind_scrubFields (fields : List (Text × Json)) :
    authKind (place.scrubFields fields) = authKind fields := by
  unfold authKind scrubFields
  rw [lookup_scrub_of_ne (place.field_ne_kind _)]

/-- Fields that hold no secret can be removed before or after scrubbing. -/
theorem removeFields_scrubFields {keys : List Text} (hkind : "kind".toList ∉ keys)
    (h : ∀ kind, ∀ target ∈ place.targets kind, target.2 ∉ keys) (fields : List (Text × Json)) :
    keys.foldl (fun fields key => removeField key fields) (place.scrubFields fields) =
      place.scrubFields (keys.foldl (fun fields key => removeField key fields) fields) := by
  induction keys generalizing fields with
  | nil => rfl
  | cons key keys ih =>
    have hkindNe : "kind".toList ≠ key := fun heq => hkind (heq ▸ mem_cons_self)
    have hremoved : removeField key (place.scrubFields fields) =
        place.scrubFields (removeField key fields) := by
      have hkept : authKind (removeField key fields) = authKind fields := by
        rw [authKind, lookup_removeField_of_ne hkindNe]
        rfl
      unfold scrubFields
      rw [hkept]
      exact removeField_scrub fun target htarget heq =>
        h _ target htarget (heq ▸ mem_cons_self)
    rw [foldl_cons, foldl_cons, hremoved]
    exact ih (fun hmem => hkind (mem_cons_of_mem key hmem))
      (fun kind target htarget hmem => h kind target htarget (mem_cons_of_mem key hmem)) _

/-- The secrets that a connection holds in a section. -/
def values (config : ConnectionConfig) : List (Option Json) :=
  ((place.fields config).map fun fields =>
    (place.targets (authKind fields)).map fun target => fields.lookup target.2).getD []

end SecretSection

/-! ### The public part -/

namespace ConnectionConfig

/-- A connection without anything that the secret store keeps or that may hold a secret. -/
def publicPart (config : ConnectionConfig) : ConnectionConfig :=
  { config with
    password := []
    urlParams := none
    initScript := none
    transportLayers := config.transportLayers.map TransportLayerConfig.scrubSecrets
    connectionString := none
    redisSentinelPassword := []
    externalConfig := none
    connectionSecrets := [] }

/-- Connections with the same public part agree in what depends on the public part only. -/
theorem eq_of_publicPart {α : Type} (f : ConnectionConfig → α)
    (hf : ∀ config, f (publicPart config) = f config) {config other : ConnectionConfig}
    (h : config.publicPart = other.publicPart) : f config = f other := by
  rw [← hf, h, hf]

variable (config : ConnectionConfig)

@[simp] private theorem publicPart_scrub (place : SecretSection) :
    (place.scrub config).publicPart = config.publicPart := by
  unfold scrub
  split <;> rfl

@[simp] private theorem publicPart_normalizeRocketmqCredentials :
    config.normalizeRocketmqCredentials.publicPart = config.publicPart := by
  unfold normalizeRocketmqCredentials
  split <;> rfl

end ConnectionConfig

private theorem scrubSecrets_hydrateTransportLayer (secrets : Secrets) (index : Nat)
    (layer : TransportLayerConfig) :
    (hydrateTransportLayer secrets index layer).scrubSecrets = layer.scrubSecrets := by
  cases layer <;> rfl

variable (config : ConnectionConfig)

private theorem publicPart_hydrateFields (secrets : Secrets) :
    (hydrateFields secrets config).publicPart = config.publicPart := by
  have hlayers : (config.transportLayers.zipIdx.map fun entry =>
      hydrateTransportLayer secrets entry.2 entry.1).map scrubSecrets =
      config.transportLayers.map scrubSecrets := by
    rw [map_map]
    have hpoint : (scrubSecrets ∘ fun entry : TransportLayerConfig × Nat =>
        hydrateTransportLayer secrets entry.2 entry.1) =
        scrubSecrets ∘ Prod.fst :=
      funext fun entry => scrubSecrets_hydrateTransportLayer secrets entry.2 entry.1
    rw [hpoint, ← map_map, zipIdx_map_fst]
  simp only [publicPart, hydrateFields, hlayers]

namespace SecretSection

variable (place : SecretSection) (state : Loading)

/-- Another database has no such place. -/
theorem hydrate_of_ne (h : state.config.dbType ≠ place.dbType) : place.hydrate state = state := by
  have hnone : place.fields state.config = none := if_neg h
  rw [hydrate, hnone]

private theorem publicPart_hydrate :
    (place.hydrate state).config.publicPart = state.config.publicPart := by
  unfold hydrate
  split <;> rfl

end SecretSection

section

variable (state : Loading)

private theorem publicPart_hydrateMqAuthSecrets :
    (hydrateMqAuthSecrets state).config.publicPart = state.config.publicPart := by
  unfold hydrateMqAuthSecrets
  split
  · exact publicPart_scrub state.config mqAuth
  · exact mqAuth.publicPart_hydrate state

private theorem publicPart_hydrateNacosAuthSecret :
    (hydrateNacosAuthSecret state).config.publicPart = state.config.publicPart := by
  unfold hydrateNacosAuthSecret
  split
  · rfl
  · split
    · rw [publicPart_hydrate, publicPart_hydrate]
    · simp only [SecretSection.discard, ConnectionConfig.publicPart_scrub]

private theorem hydratePluginSecret_config (entry : Text × Text) :
    ∃ connectionSecrets, (hydratePluginSecret state entry).config =
      { state.config with connectionSecrets } := by
  unfold hydratePluginSecret
  by_cases hempty : entry.2.isEmpty
  · simp only [hempty, if_true]
    cases getSecret state.secrets (pluginConnectionSecretPrefix ++ entry.1) with
    | none => exact ⟨state.config.connectionSecrets, rfl⟩
    | some secret => exact ⟨setField entry.1 secret state.config.connectionSecrets, rfl⟩
  · simp only [hempty]
    exact ⟨state.config.connectionSecrets, rfl⟩

/-- Only the secrets change. -/
theorem hydratePluginSecrets_config (entries : List (Text × Text)) :
    ∃ connectionSecrets, (entries.foldl hydratePluginSecret state).config =
      { state.config with connectionSecrets } := by
  induction entries generalizing state with
  | nil => exact ⟨state.config.connectionSecrets, rfl⟩
  | cons entry entries ih =>
    obtain ⟨connectionSecrets, hlater⟩ := ih (hydratePluginSecret state entry)
    obtain ⟨_, hfirst⟩ := hydratePluginSecret_config state entry
    exact ⟨connectionSecrets, by rw [foldl_cons, hlater, hfirst]⟩

private theorem publicPart_hydratePluginSecrets (entries : List (Text × Text)) :
    (entries.foldl hydratePluginSecret state).config.publicPart = state.config.publicPart := by
  obtain ⟨connectionSecrets, hconfig⟩ := hydratePluginSecrets_config state entries
  rw [hconfig]
  rfl

end

/-- Reading a row keeps its public part. -/
theorem publicPart_hydrateConnection (secrets : Secrets) :
    (hydrateConnection secrets config).config.publicPart = config.publicPart := by
  simp only [hydrateConnection, publicPart_hydratePluginSecrets, publicPart_hydrate,
    publicPart_hydrateNacosAuthSecret, publicPart_hydrateMqAuthSecrets,
    publicPart_normalizeRocketmqCredentials, publicPart_hydrateFields]

namespace ConnectionConfig

variable (x : UrlExternals)

/-- The public part of a canonical form is that of the public part, but for the driver, which may
depend on the query parameters and the connection string. -/
theorem publicPart_canonicalized : (config.canonicalized x).publicPart =
      { config.publicPart.canonicalized x with
        driverProfile := (config.canonicalized x).driverProfile
        driverLabel := (config.canonicalized x).driverLabel
        externalConfig := none } := by
  by_cases hmongo : config.dbType = .mongoDb
  · have huses : config.publicPart.usesMongodbOidc x = false := by
      unfold usesMongodbOidc
      split <;> rfl
    have hpublic : config.publicPart.canonicalizeMongodb x = config.publicPart := by
      rw [canonicalizeMongodb, huses]
      rfl
    have hpublicType : config.publicPart.dbType = .mongoDb := hmongo
    rw [canonicalized_of_mongoDb x hmongo, canonicalized_of_mongoDb x hpublicType, hpublic]
    unfold canonicalizeMongodb
    split <;> rfl
  by_cases hsqlServer : config.dbType = .sqlServer
  · have hpublicType : config.publicPart.dbType = .sqlServer := hsqlServer
    have hpublic : config.publicPart.canonicalizeSqlserverHost.canonicalizeSqlserverLegacy =
        config.publicPart.canonicalizeSqlserverHost := by
      exact if_neg (by
        change ¬sqlserverLegacyCompatibilityParam none
        decide)
    rw [canonicalized_of_sqlServer x hsqlServer, canonicalized_of_sqlServer x hpublicType, hpublic]
    unfold canonicalizeSqlserverLegacy
    split <;> rfl
  by_cases hmysql : config.dbType = .mysql
  · have hpublicType : config.publicPart.dbType = .mysql := hmysql
    rw [canonicalized_of_mysql x hmysql, canonicalized_of_mysql x hpublicType]
    by_cases htdengine : config.dbType = .mysql ∧
        config.driverProfile.any (eqIgnoreAsciiCase · "tdengine")
    · have hconfig : config.canonicalizeTdengine = _ := if_pos htdengine
      have hpublic : config.publicPart.canonicalizeTdengine = _ := if_pos htdengine
      rw [hconfig, hpublic]
      rfl
    · have hconfig : config.canonicalizeTdengine = config := if_neg htdengine
      have hpublic : config.publicPart.canonicalizeTdengine = config.publicPart := if_neg htdengine
      rw [hconfig, hpublic]
      rfl
  · have hpublic : config.publicPart.canonicalized x = config.publicPart :=
      canonicalized_of_other x hmongo hsqlServer hmysql
    rw [canonicalized_of_other x hmongo hsqlServer hmysql, hpublic]
    rfl

/-- Canonical forms of connections with the same public part have the same public part if they
have the same driver. -/
theorem publicPart_canonicalized_congr {config other : ConnectionConfig}
    (h : config.publicPart = other.publicPart)
    (hprofile : (config.canonicalized x).driverProfile = (other.canonicalized x).driverProfile)
    (hlabel : (config.canonicalized x).driverLabel = (other.canonicalized x).driverLabel) :
    (config.canonicalized x).publicPart = (other.canonicalized x).publicPart := by
  rw [publicPart_canonicalized, publicPart_canonicalized, h, hprofile, hlabel]

end ConnectionConfig

/-! ### Sections of the external configuration -/

/-- The external configuration after the sections of a type of database are scrubbed. -/
def scrubExternal (places : List SecretSection) (dbType : DatabaseType) (external : Option Json) :
    Option Json :=
  places.foldl (fun external place => if dbType = place.dbType then
    external.map (Json.mapObjectAt place.name place.scrubFields) else external) external

section ScrubExternal

variable {dbType : DatabaseType} {places : List SecretSection}

private theorem scrubExternal_cons (place : SecretSection) (external : Option Json) :
    scrubExternal (place :: places) dbType external = scrubExternal places dbType
      (if dbType = place.dbType then external.map (mapObjectAt place.name place.scrubFields)
        else external) := rfl

private theorem foldl_scrub (places : List SecretSection) :
    places.foldl (fun config place => place.scrub config) config = { config with
        externalConfig := scrubExternal places config.dbType config.externalConfig } := by
  induction places generalizing config with
  | nil => rfl
  | cons place places ih =>
    rw [foldl_cons, ih (place.scrub config), scrubExternal_cons]
    unfold scrub
    split <;> rfl

/-- A database without such places. -/
theorem scrubExternal_of_ne (h : ∀ place ∈ places, dbType ≠ place.dbType)
    (external : Option Json) : scrubExternal places dbType external = external := by
  induction places with
  | nil => rfl
  | cons place places ih =>
    rw [scrubExternal_cons, if_neg (h place mem_cons_self)]
    exact ih fun later hlater => h later (mem_cons_of_mem place hlater)

/-- A change that commutes with each section commutes with all of them. -/
theorem scrubExternal_map {f : Json → Json}
    (h : ∀ place ∈ places, dbType = place.dbType → ∀ value : Json,
      (f value).mapObjectAt place.name place.scrubFields =
        f (value.mapObjectAt place.name place.scrubFields)) (external : Option Json) :
    scrubExternal places dbType (external.map f) =
      (scrubExternal places dbType external).map f := by
  induction places generalizing external with
  | nil => rfl
  | cons place places ih =>
    have hlater := ih fun later hmem => h later (mem_cons_of_mem place hmem)
    rw [scrubExternal_cons, scrubExternal_cons]
    split
    · next htype =>
      have hcomm : (external.map f).map (mapObjectAt place.name place.scrubFields) =
          (external.map (mapObjectAt place.name place.scrubFields)).map f := by
        cases external with
        | none => rfl
        | some value => exact congrArg some (h place mem_cons_self htype value)
      rw [hcomm, hlater]
    · exact hlater external

end ScrubExternal

/-- The sections that the storage layer scrubs. -/
def storageSections : List SecretSection :=
  [mqAuth, mqttAuth, mqTokenSigning, nacosAuth, nacosConsoleAuth, cassandraTls, salesforceAuth]

/-- A type of database without secrets in the external configuration. -/
def PlainType (dbType : DatabaseType) : Prop := ∀ place ∈ storageSections, dbType ≠ place.dbType

/-- A message queue is not plain. -/
theorem PlainType.ne_messageQueue {dbType : DatabaseType} (h : PlainType dbType) :
    dbType ≠ .messageQueue := h mqAuth mem_cons_self

/-- The sections that a snapshot scrubs. -/
def snapshotSections : List SecretSection :=
  [mqttPasswordAuth, mqAuth, mqTokenSigning, nacosAuth, nacosConsoleAuth, cassandraTls]

/-- The password of MQTT with a certificate. -/
def mqttCertificateAuth : SecretSection where
  dbType := .mqtt
  name := "auth"
  targets kind := if kind = some "certificate".toList then
    [(mqttAuthPasswordKey, "password".toList)] else []
  field_ne_kind kind target htarget := by
    split_ifs at htarget <;> simp at htarget
    subst htarget
    decide

/-- The sections that the storage layer scrubs and a snapshot does not. -/
def leakedSections : List SecretSection := [mqttCertificateAuth, salesforceAuth]

/-- The secrets of a connection that its snapshot shows. -/
def leakedSecrets (config : ConnectionConfig) : List (Option Json) :=
  leakedSections.flatMap fun place => place.values config

private theorem mqttAuth_scrubFields (fields : List (Text × Json)) :
    mqttCertificateAuth.scrubFields (mqttPasswordAuth.scrubFields fields) =
      mqttAuth.scrubFields fields := by
  rw [scrubFields, authKind_scrubFields, scrubFields, scrubFields]
  by_cases hpassword : authKind fields = some "password".toList
  · rw [hpassword]
    rfl
  · by_cases hcertificate : authKind fields = some "certificate".toList
    · rw [hcertificate]
      rfl
    · simp only [mqttCertificateAuth, mqttPasswordAuth, mqttAuth, hpassword, hcertificate, or_self,
        if_false, foldl_nil]

/-- What the storage layer scrubs is what a snapshot scrubs and what it leaks. -/
theorem scrubExternal_storageSections (dbType : DatabaseType) (external : Option Json) :
    scrubExternal storageSections dbType external =
      scrubExternal leakedSections dbType (scrubExternal snapshotSections dbType external) := by
  by_cases hmqtt : dbType = .mqtt
  · subst hmqtt
    have hcomp : mapObjectAt "auth".toList mqttAuth.scrubFields =
        mapObjectAt "auth".toList mqttCertificateAuth.scrubFields ∘
          mapObjectAt "auth".toList mqttPasswordAuth.scrubFields := by
      funext value
      rw [Function.comp_apply, mapObjectAt_mapObjectAt]
      exact mapObjectAt_congr _ _ fun fields => (mqttAuth_scrubFields fields).symm
    change external.map (mapObjectAt "auth".toList mqttAuth.scrubFields) =
      (external.map (mapObjectAt "auth".toList mqttPasswordAuth.scrubFields)).map
        (mapObjectAt "auth".toList mqttCertificateAuth.scrubFields)
    rw [hcomp, Option.map_map]
  by_cases hsalesforce : dbType = .salesforce
  · subst hsalesforce
    rfl
  have hleaked : ∀ place ∈ leakedSections, dbType ≠ place.dbType := by
    intro place hplace
    simp only [leakedSections, mem_cons, not_mem_nil, or_false] at hplace
    rcases hplace with rfl | rfl
    · exact hmqtt
    · exact hsalesforce
  rw [scrubExternal_of_ne hleaked]
  simp only [scrubExternal, storageSections, snapshotSections, foldl_cons, foldl_nil]
  have hmqttAuth : dbType ≠ mqttAuth.dbType := hmqtt
  have hpasswordAuth : dbType ≠ mqttPasswordAuth.dbType := hmqtt
  have hsalesforceAuth : dbType ≠ salesforceAuth.dbType := hsalesforce
  rw [if_neg hmqttAuth, if_neg hpasswordAuth, if_neg hsalesforceAuth]

/-! ### The two ways to scrub a connection -/

namespace ConnectionConfig

/-- The external configuration with the credentials of RocketMQ in normal form. -/
def normalizedExternal (config : ConnectionConfig) : Option Json :=
  if config.isRocketmqConnection then
    config.externalConfig.map (Json.mapObject normalizeRocketmqFields)
  else config.externalConfig

private theorem normalizeRocketmqCredentials_eq : config.normalizeRocketmqCredentials =
      { config with externalConfig := config.normalizedExternal } := by
  unfold normalizeRocketmqCredentials normalizedExternal
  split <;> rfl

/-- Only message queues are normalized. -/
theorem normalizedExternal_of_ne {config : ConnectionConfig} (h : config.dbType ≠ .messageQueue) :
    config.normalizedExternal = config.externalConfig := by
  have hnot : config.isRocketmqConnection = false := if_pos h
  rw [normalizedExternal, hnot]
  rfl

end ConnectionConfig

/-- What is sanitized, field by field. -/
theorem sanitizedConnectionConfig_eq (x : UrlExternals) : sanitizedConnectionConfig x config =
      { (config.canonicalized x).publicPart with
        externalConfig := scrubExternal storageSections (config.canonicalized x).dbType
          (config.canonicalized x).normalizedExternal } := by
  unfold sanitizedConnectionConfig
  rw [normalizeRocketmqCredentials_eq]
  dsimp only
  rw [foldl_scrub]
  rfl

/-- What is scrubbed, field by field. -/
theorem scrubConnectionSecrets_eq : scrubConnectionSecrets config = { config.publicPart with
        urlParams := config.urlParams.map scrubUrlParams
        externalConfig := scrubExternal snapshotSections config.dbType
          config.normalizedExternal } := by
  unfold scrubConnectionSecrets
  rw [normalizeRocketmqCredentials_eq]
  dsimp only
  rw [foldl_scrub]
  rfl

end DbxSpec.Sync
