import DbxSpec.Base.Json
import DbxSpec.Sql.Profile

/-!
# Saved connections

The configuration of a connection (`crates/dbx-types/src/models/connection.rs:156`), its canonical
form and the normal form of RocketMQ credentials
(`crates/dbx-core/src/connection/connection_secrets.rs:117`). Percent decoding is a parameter.
-/

namespace DbxSpec.Sync

open DbxSpec.Base DbxSpec.Sql

/-! ### Configurations -/

/-- `connection.rs:477`; `others` holds the fields that nothing here reads. -/
structure SshTunnelConfig where
  id : Text
  password : Text
  keyPath : Text
  keyPassphrase : Text
  sshAgentSockPath : Text
  others : List Text
  deriving DecidableEq, Repr

/-- `connection.rs:550`. -/
structure ProxyTunnelConfig where
  id : Text
  password : Text
  others : List Text
  deriving DecidableEq, Repr

/-- `connection.rs:578`. -/
structure HttpTunnelConfig where
  id : Text
  token : Text
  others : List Text
  deriving DecidableEq, Repr

/-- `connection.rs:374`. -/
inductive TransportLayerConfig
  | ssh (layer : SshTunnelConfig)
  | proxy (layer : ProxyTunnelConfig)
  | httpTunnel (layer : HttpTunnelConfig)
  deriving DecidableEq, Repr

/-- `connection.rs:391`. -/
def TransportLayerConfig.id : TransportLayerConfig → Text
  | .ssh layer => layer.id
  | .proxy layer => layer.id
  | .httpTunnel layer => layer.id

/-- `connection.rs:434`. -/
def TransportLayerConfig.scrubSecrets : TransportLayerConfig → TransportLayerConfig
  | .ssh layer => .ssh { layer with password := [], keyPassphrase := [] }
  | .proxy layer => .proxy { layer with password := [] }
  | .httpTunnel layer => .httpTunnel { layer with token := [] }

/-- `connection.rs:607`. -/
structure AttachedDatabaseConfig where
  name : Text
  path : Text
  deriving DecidableEq, Repr

/-- `connection.rs:156`; `others` holds the fields that nothing here reads. -/
structure ConnectionConfig where
  id : Text
  dbType : DatabaseType
  driverProfile : Option Text := none
  driverLabel : Option Text := none
  urlParams : Option Text := none
  host : Text := []
  port : Nat := 0
  password : Text := []
  attachedDatabases : List AttachedDatabaseConfig := []
  initScript : Option Text := none
  docsNotesPath : Option Text := none
  transportLayers : List TransportLayerConfig := []
  caCertPath : Text := []
  clientCertPath : Text := []
  clientKeyPath : Text := []
  connectionString : Option Text := none
  redisSentinelPassword : Text := []
  externalConfig : Option Json := none
  connectionSecrets : List (Text × Text) := []
  jdbcDriverPaths : List Text := []
  savePassword : Bool := true
  others : List Text := []
  deriving DecidableEq

/-- Percent decoding of a query value, as `percent_encoding` and `decode_utf8_lossy` do it. -/
structure UrlExternals where
  percentDecode : Text → Text

/-! ### Texts -/

/-- `split_once`. -/
def splitOnce (sep : Char) (t : Text) : Option (Text × Text) :=
  match t.dropWhile (· != sep) with
  | [] => none
  | _ :: rest => some (t.takeWhile (· != sep), rest)

/-- `rsplit_once`. -/
def rsplitOnce (sep : Char) (t : Text) : Option (Text × Text) :=
  if t.contains sep then some ((t.rdropWhile (· != sep)).dropLast, t.rtakeWhile (· != sep))
  else none

/-! ### MongoDB -/

/-- `connection.rs:2310`. -/
def mongoUrlParamEquals (x : UrlExternals) (part expectedKey expectedValue : Text) : Bool :=
  match splitOnce '=' part with
  | none => false
  | some (key, value) => eqIgnoreAsciiCase (trim key) expectedKey &&
      eqIgnoreAsciiCase (trim (x.percentDecode value)) expectedValue

/-- `connection.rs:2293`. -/
def mongoUrlParamsUseOidc (x : UrlExternals) (value : Text) : Bool :=
  (splitChar '&' (value.dropWhile (· == '?'))).any fun part =>
    mongoUrlParamEquals x part "authMechanism" "MONGODB-OIDC"

/-- `connection.rs:2297`. -/
def mongoConnectionStringUsesOidc (x : UrlExternals) (value : Text) : Bool :=
  let value := trim value
  let hasScheme := fun (scheme : String) =>
    eqIgnoreAsciiCase (value.take scheme.toList.length) scheme.toList
  if !hasScheme "mongodb://" && !hasScheme "mongodb+srv://" then false
  else match splitOnce '?' value with
    | some (_, query) => mongoUrlParamsUseOidc x (query.takeWhile (· != '#'))
    | none => false

/-- `connection.rs:1280`. -/
def ConnectionConfig.usesMongodbOidc (x : UrlExternals) (config : ConnectionConfig) : Bool :=
  if config.dbType ≠ .mongoDb then false
  else match config.connectionString.filter fun value => !(trim value).isEmpty with
    | some connectionString => mongoConnectionStringUsesOidc x connectionString
    | none => config.urlParams.any (mongoUrlParamsUseOidc x)

/-! ### SQL Server -/

/-- `parse_port`, `connection.rs:3167`. -/
def parsePort (value : Text) : Option Nat :=
  let value := trim value
  if value.isEmpty || !value.all Char.isDigit then none
  else
    let port := value.foldl (fun port ch => port * 10 + (ch.toNat - '0'.toNat)) 0
    if port < 2 ^ 16 ∧ 0 < port then some port else none

/-- A host and a port apart at the last separator, `connection.rs:3196-3213`. -/
def hostAndPort (sep : Char) (host : Text) : Option (Text × Nat) :=
  (rsplitOnce sep host).bind fun parts => (parsePort (trim parts.2)).map (trim parts.1, ·)

/-- The part after an IPv6 address in brackets, `connection.rs:3182-3193`. -/
def bracketedHostPort (withoutTcp : Text) : Text × Option Nat :=
  let bracketed := withoutTcp.takeWhile (· != ']') ++ [']']
  let remainder := trim (withoutTcp.drop bracketed.length)
  match remainder with
  | [] => (bracketed, none)
  | first :: rest =>
    match if first = ',' ∨ first = ':' then parsePort rest else none with
    | some port => (bracketed, some port)
    | none => (withoutTcp, none)

/-- `connection.rs:3166`. -/
def normalizeSqlserverHostPort (rawHost : Text) : Text × Option Nat :=
  let trimmed := trim rawHost
  if trimmed.isEmpty then ([], none)
  else
    let withoutTcp := if "tcp:".toList.isPrefixOf (toAsciiLowercase trimmed) then
      trim (trimmed.drop 4) else trimmed
    if withoutTcp.head? = some '[' ∧ withoutTcp.contains ']' then bracketedHostPort withoutTcp
    else match hostAndPort ',' withoutTcp with
      | some (host, port) => (host, some port)
      | none =>
        match if withoutTcp.count ':' = 1 then hostAndPort ':' withoutTcp else none with
        | some (host, port) => (host, some port)
        | none => (withoutTcp, none)

/-- The loop of `connection.rs:1948`: a part is closed by `&` or `;` outside of braces. -/
def sqlserverUrlParamLoop (separator : Option Char) (part : Text) (inBraces : Bool) :
    Text → List (Option Char × Text)
  | [] => [(separator, part)]
  | '}' :: '}' :: rest =>
    if inBraces then sqlserverUrlParamLoop separator (part ++ ['}', '}']) true rest
    else sqlserverUrlParamLoop separator (part ++ ['}', '}']) false rest
  | ch :: rest =>
    if inBraces then sqlserverUrlParamLoop separator (part ++ [ch]) (ch != '}') rest
    else if ch == '{' then sqlserverUrlParamLoop separator (part ++ [ch]) true rest
    else if ch == '&' || ch == ';' then
      (separator, part) :: sqlserverUrlParamLoop (some ch) [] false rest
    else sqlserverUrlParamLoop separator (part ++ [ch]) false rest

variable (params : Option Text)

/-- `connection.rs:1948`. -/
def sqlserverUrlParamParts : List (Option Char × Text) :=
  sqlserverUrlParamLoop none [] false ((trim (params.getD [])).dropWhile (· == '?'))

/-- `connection.rs:1977`. -/
def sqlserverLegacyCompatibilityPart (part : Text) : Bool :=
  match splitOnce '=' part with
  | none => false
  | some (key, value) =>
    eqIgnoreAsciiCase (trim key) "sqlserverEncryption" &&
      (["disabled", "disable", "false", "0", "off", "no"].map String.toList).contains
        (toAsciiLowercase (trim value))

/-- `connection.rs:1986`. -/
def sqlserverLegacyCompatibilityParam : Bool :=
  (sqlserverUrlParamParts params).any fun part => sqlserverLegacyCompatibilityPart part.2

/-- `connection.rs:1990`. -/
def withoutSqlserverLegacyCompatibilityParam : Option Text :=
  match (sqlserverUrlParamParts params).filter fun part =>
      !(trim part.2).isEmpty && !sqlserverLegacyCompatibilityPart part.2 with
  | [] => none
  | (_, first) :: rest => some (first ++ rest.flatMap fun part => part.1.toList ++ part.2)

/-! ### Canonical form -/

namespace ConnectionConfig

section

variable (x : UrlExternals) (config : ConnectionConfig)

/-- `connection.rs:1245-1249`. -/
def canonicalizeMongodb : ConnectionConfig :=
  if config.usesMongodbOidc x then
    { config with password := [], driverProfile := some "mongodb",
                  driverLabel := some "MongoDB" }
  else config

/-- `connection.rs:1250-1258`. -/
def canonicalizeSqlserverHost : ConnectionConfig :=
  let normalized := normalizeSqlserverHostPort config.host
  { config with
    host := normalized.1
    port := normalized.2.getD config.port
    externalConfig := match normalized.2 with
      | none => config.externalConfig
      | some _ => some (.object (setField "portExplicit" (.bool true)
          ((config.externalConfig.bind Json.asObject).getD []))) }

/-- `connection.rs:1259-1263`. -/
def canonicalizeSqlserverLegacy : ConnectionConfig :=
  if sqlserverLegacyCompatibilityParam config.urlParams then
    { config with
      driverProfile := some "sqlserver-legacy"
      driverLabel := some "SQL Server legacy compatibility component"
      urlParams := withoutSqlserverLegacyCompatibilityParam config.urlParams }
  else config

/-- `connection.rs:1265-1275`. -/
def canonicalizeTdengine : ConnectionConfig :=
  if config.dbType = .mysql ∧
      config.driverProfile.any (eqIgnoreAsciiCase · "tdengine") then
    { config with
      dbType := .tdengine
      port := if config.port = 0 ∨ config.port = 6030 then 6041 else config.port
      driverProfile := some "tdengine"
      driverLabel := if (trim (config.driverLabel.getD [])).isEmpty then some "TDengine"
        else config.driverLabel }
  else config

/-- `connection.rs:1243`. -/
def canonicalized : ConnectionConfig :=
  let config := config.canonicalizeMongodb x
  let config := if config.dbType = .sqlServer then
    config.canonicalizeSqlserverHost.canonicalizeSqlserverLegacy else config
  config.canonicalizeTdengine

end

section Canonical

variable (x : UrlExternals) {config : ConnectionConfig}

/-- The database type is kept. -/
@[simp] theorem dbType_canonicalizeMongodb :
    (config.canonicalizeMongodb x).dbType = config.dbType := by
  unfold canonicalizeMongodb
  split <;> rfl

@[simp] private theorem dbType_canonicalizeSqlserverHost :
    config.canonicalizeSqlserverHost.dbType = config.dbType := rfl

@[simp] private theorem dbType_canonicalizeSqlserverLegacy :
    config.canonicalizeSqlserverLegacy.dbType = config.dbType := by
  unfold canonicalizeSqlserverLegacy
  split <;> rfl

private theorem canonicalizeMongodb_of_ne (h : config.dbType ≠ .mongoDb) :
    config.canonicalizeMongodb x = config := by
  have huses : config.usesMongodbOidc x = false := if_pos h
  rw [canonicalizeMongodb, huses]
  rfl

private theorem canonicalizeTdengine_of_ne (h : config.dbType ≠ .mysql) :
    config.canonicalizeTdengine = config := if_neg fun hboth => h hboth.1

/-- The canonical form for MongoDB. -/
theorem canonicalized_of_mongoDb (h : config.dbType = .mongoDb) :
    config.canonicalized x = config.canonicalizeMongodb x := by
  have hsqlServer : (config.canonicalizeMongodb x).dbType ≠ .sqlServer := by
    rw [dbType_canonicalizeMongodb, h]
    decide
  have hmysql : (config.canonicalizeMongodb x).dbType ≠ .mysql := by
    rw [dbType_canonicalizeMongodb, h]
    decide
  simp only [canonicalized, if_neg hsqlServer]
  exact canonicalizeTdengine_of_ne hmysql

/-- The canonical form for SQL Server. -/
theorem canonicalized_of_sqlServer (h : config.dbType = .sqlServer) : config.canonicalized x =
      config.canonicalizeSqlserverHost.canonicalizeSqlserverLegacy := by
  have hmongo : config.canonicalizeMongodb x = config :=
    canonicalizeMongodb_of_ne x (by rw [h]; decide)
  have hmysql : config.canonicalizeSqlserverHost.canonicalizeSqlserverLegacy.dbType ≠ .mysql := by
    rw [dbType_canonicalizeSqlserverLegacy, dbType_canonicalizeSqlserverHost, h]
    decide
  simp only [canonicalized, hmongo, if_pos h]
  exact canonicalizeTdengine_of_ne hmysql

/-- The canonical form for MySQL. -/
theorem canonicalized_of_mysql (h : config.dbType = .mysql) :
    config.canonicalized x = config.canonicalizeTdengine := by
  have hmongo : config.canonicalizeMongodb x = config :=
    canonicalizeMongodb_of_ne x (by rw [h]; decide)
  have hsqlServer : config.dbType ≠ .sqlServer := by
    rw [h]
    decide
  simp only [canonicalized, hmongo, if_neg hsqlServer]

/-- Other databases have no canonical form of their own. -/
theorem canonicalized_of_other (hmongoDb : config.dbType ≠ .mongoDb)
    (hsqlServer : config.dbType ≠ .sqlServer) (hmysql : config.dbType ≠ .mysql) :
    config.canonicalized x = config := by
  simp only [canonicalized, canonicalizeMongodb_of_ne x hmongoDb, if_neg hsqlServer]
  exact canonicalizeTdengine_of_ne hmysql

private theorem usesMongodbOidc_canonicalizeMongodb :
    (config.canonicalizeMongodb x).usesMongodbOidc x = config.usesMongodbOidc x := by
  unfold canonicalizeMongodb
  split <;> rfl

private theorem canonicalizeMongodb_idem :
    (config.canonicalizeMongodb x).canonicalizeMongodb x = config.canonicalizeMongodb x := by
  conv_lhs => rw [canonicalizeMongodb, usesMongodbOidc_canonicalizeMongodb]
  unfold canonicalizeMongodb
  split <;> rfl

private theorem canonicalizeTdengine_idem :
    config.canonicalizeTdengine.canonicalizeTdengine = config.canonicalizeTdengine := by
  by_cases h : config.dbType = .mysql ∧ config.driverProfile.any (eqIgnoreAsciiCase · "tdengine")
  · have htype : config.canonicalizeTdengine.dbType = .tdengine := by
      rw [canonicalizeTdengine, if_pos h]
    exact canonicalizeTdengine_of_ne (by rw [htype]; decide)
  · have hsame : config.canonicalizeTdengine = config := if_neg h
    rw [hsame, hsame]

private theorem driver_canonicalizeSqlserver_twice :
    let once := config.canonicalizeSqlserverHost.canonicalizeSqlserverLegacy
    let twice := once.canonicalizeSqlserverHost.canonicalizeSqlserverLegacy
    twice.driverProfile = once.driverProfile ∧ twice.driverLabel = once.driverLabel := by
  intro once twice
  by_cases hlegacy : sqlserverLegacyCompatibilityParam config.urlParams
  · have honce : once = _ := if_pos hlegacy
    have htwice : twice = _ ∨ twice = once.canonicalizeSqlserverHost := ite_eq_or_eq _ _ _
    rcases htwice with h | h <;> rw [h, honce] <;> exact ⟨rfl, rfl⟩
  · have honce : once = config.canonicalizeSqlserverHost := if_neg hlegacy
    have htwice : twice = once.canonicalizeSqlserverHost := if_neg (by
      rw [honce]
      exact hlegacy)
    rw [htwice]
    exact ⟨rfl, rfl⟩

/-- A second canonicalization keeps the driver. The host of a SQL Server may still change: `h,1,2`
becomes `h,1` and then `h`. -/
theorem driver_canonicalized_canonicalized :
    ((config.canonicalized x).canonicalized x).driverProfile =
      (config.canonicalized x).driverProfile ∧
    ((config.canonicalized x).canonicalized x).driverLabel =
      (config.canonicalized x).driverLabel := by
  by_cases hmongo : config.dbType = .mongoDb
  · rw [canonicalized_of_mongoDb x hmongo,
      canonicalized_of_mongoDb x ((dbType_canonicalizeMongodb x).trans hmongo),
      canonicalizeMongodb_idem]
    exact ⟨rfl, rfl⟩
  by_cases hsqlServer : config.dbType = .sqlServer
  · have hagain : config.canonicalizeSqlserverHost.canonicalizeSqlserverLegacy.dbType =
        .sqlServer := by
      rw [dbType_canonicalizeSqlserverLegacy, dbType_canonicalizeSqlserverHost, hsqlServer]
    rw [canonicalized_of_sqlServer x hsqlServer, canonicalized_of_sqlServer x hagain]
    exact driver_canonicalizeSqlserver_twice
  by_cases hmysql : config.dbType = .mysql
  · rw [canonicalized_of_mysql x hmysql]
    by_cases hagain : config.canonicalizeTdengine.dbType = .mysql
    · rw [canonicalized_of_mysql x hagain, canonicalizeTdengine_idem]
      exact ⟨rfl, rfl⟩
    · have htype : config.canonicalizeTdengine.dbType = .tdengine := by
        rcases ite_eq_or_eq (config.dbType = .mysql ∧
          config.driverProfile.any (eqIgnoreAsciiCase · "tdengine")) _ config with h | h
        · rw [canonicalizeTdengine, h]
        · exact absurd ((congrArg ConnectionConfig.dbType h).trans hmysql) hagain
      rw [canonicalized_of_other x (by rw [htype]; decide) (by rw [htype]; decide) hagain]
      exact ⟨rfl, rfl⟩
  · rw [canonicalized_of_other x hmongo hsqlServer hmysql,
      canonicalized_of_other x hmongo hsqlServer hmysql]
    exact ⟨rfl, rfl⟩

end Canonical

variable (config : ConnectionConfig)

/-- What reading a written row changes: `migrate_legacy_gbase8s_profile`, `connection.rs:994`, and
that a `null` is read as no value. -/
def reread : ConnectionConfig :=
  { config with
    dbType := if config.dbType = .gbase ∧
        config.driverProfile.any (eqIgnoreAsciiCase · "gbase8s") then .gbase8s
      else config.dbType
    externalConfig := match config.externalConfig with
      | some .null => none
      | external => external }

/-! ### RocketMQ -/

/-- `connection_secrets.rs:117`. -/
def isRocketmqConnection : Bool :=
  if config.dbType ≠ .messageQueue then false
  else
    let kind := config.externalConfig.bind fun external =>
      (external.get "systemKind").bind Json.asStr
    (kind.or config.driverProfile).any (eqIgnoreAsciiCase · "rocketmq")

/-- `string_value`, `connection_secrets.rs:149`: the first of two texts that is not blank. -/
def firstNonblank (first second : Option Json) : Text :=
  ((first.toList ++ second.toList).filterMap fun value =>
    value.asStr.filter fun text => !(trim text).isEmpty).head?.getD []

/-- The keys of the old copies of the credentials. -/
def rocketmqLegacyKeys : List Text :=
  ["accessKey", "access_key", "secretKey", "secret_key"].map String.toList

/-- The fields of the external configuration after `connection_secrets.rs:136-158`. -/
def normalizeRocketmqFields (external : List (Text × Json)) : List (Text × Json) :=
  match (external.lookup "extra".toList).bind Json.asObject with
  | none => external
  | some extra =>
    let cleaned := mapField "extra"
      (Json.mapObject fun extra => rocketmqLegacyKeys.foldl (fun extra key => removeField key extra)
        extra) external
    if (rocketmqLegacyKeys.any fun key => (extra.lookup key).isSome) &&
        (external.lookup "auth".toList).isNone then
      setField "auth" (.object [
        ("kind", .string "basic"),
        ("username", .string
          (firstNonblank (extra.lookup "accessKey".toList) (extra.lookup "access_key".toList))),
        ("password", .string
          (firstNonblank (extra.lookup "secretKey".toList) (extra.lookup "secret_key".toList)))])
        cleaned
    else cleaned

/-- `normalize_rocketmq_credentials`, `connection_secrets.rs:132`, without its result. -/
def normalizeRocketmqCredentials : ConnectionConfig :=
  if config.isRocketmqConnection then
    { config with
      externalConfig := config.externalConfig.map (Json.mapObject normalizeRocketmqFields) }
  else config

/-- Whether `normalize_rocketmq_credentials` changes the metadata, `connection_secrets.rs:147`. -/
def hasRocketmqLegacyCredentials : Bool :=
  config.isRocketmqConnection &&
    ((config.externalConfig.bind (Json.objectAt "extra")).getD []).any fun field =>
      rocketmqLegacyKeys.contains field.1

end ConnectionConfig

end DbxSpec.Sync
