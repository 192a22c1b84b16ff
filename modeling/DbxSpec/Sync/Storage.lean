import DbxSpec.Sync.Secrets

/-!
# The storage

Tables of the storage layer (`crates/dbx-core/src/persistence/storage.rs`) that a sync reads, with
the reading of connections (`8108`). A row of a connection reads and writes only the secrets of its
own id.
-/

namespace DbxSpec.Sync

open DbxSpec.Base DbxSpec.Sql

/-- The keys and secrets of one layer, `storage.rs:7177-7215`. -/
def transportLayerSecrets (index : Nat) (layer : TransportLayerConfig) : List (Text × Text) :=
  match layer with
  | .ssh ssh => [(transportLayerSshPasswordKey index layer, ssh.password),
      (transportLayerSshKeyPassphraseKey index layer, ssh.keyPassphrase)]
  | .proxy proxy => [(transportLayerProxyPasswordKey index layer, proxy.password)]
  | .httpTunnel http => [(transportLayerHttpTunnelTokenKey index layer, http.token)]

/-! ### Tables -/

/-- `saved_sql.rs:9`; `others` holds the fields that nothing here reads. -/
structure SavedSqlFolder where
  id : Text
  parentFolderId : Option Text
  others : List Text

/-- `saved_sql.rs:22`. -/
structure SavedSqlFile where
  id : Text
  folderId : Option Text
  others : List Text

/-- `saved_sql.rs:48`. -/
structure SavedSqlLibrary where
  folders : List SavedSqlFolder
  files : List SavedSqlFile

/-- The tables. A row of `connections` that cannot be read holds no configuration; ids are the
primary key. The secret of a tunnel profile is the whole profile. -/
structure Storage where
  connections : List (Text × Option ConnectionConfig)
  ids_nodup : (connections.map Prod.fst).Nodup
  secrets : Text → Secrets
  tunnelProfiles : List TransportLayerConfig
  tunnelSecrets : Text → Option TransportLayerConfig
  savedSql : SavedSqlLibrary
  sidebarLayout : Option Json
  pinnedTreeNodeIds : List Text
  desktopSettings : List (Text × Json)

namespace Storage

variable (x : UrlExternals) (storage : Storage)

/-- The rows of `storage.rs:8120-8235` that can be read, each with its id. -/
def loadRows : Except Text (List (Text × ConnectionConfig × Loading)) :=
  (storage.connections.filterMap fun row => row.2.map (row.1, ·)).mapM fun row =>
    (loadConnection x (storage.secrets row.1) row.2).map (row.1, ·)

/-- `storage.rs:8108`. A row whose secrets moved into the table is written again. -/
def loadConnections : Except Text (List ConnectionConfig × Storage) :=
  (storage.loadRows x).map fun loaded =>
    (loaded.map fun entry => entry.2.1,
      { storage with
        connections := storage.connections.map fun row =>
          match loaded.lookup row.1 with
          | some (_, state) => (row.1, if state.needsRewrite then
              some (sanitizedConnectionConfig x state.config) else row.2)
          | none => row
        ids_nodup := by
          have hids : (storage.connections.map fun row =>
              match loaded.lookup row.1 with
              | some (_, state) => (row.1, if state.needsRewrite then
                  some (sanitizedConnectionConfig x state.config) else row.2)
              | none => row).map Prod.fst = storage.connections.map Prod.fst := by
            rw [List.map_map]
            refine List.map_congr_left fun row _ => ?_
            simp only [Function.comp_apply]
            split <;> rfl
          rw [hids]
          exact storage.ids_nodup
        secrets := fun id =>
          match loaded.lookup id with
          | some (_, state) => state.secrets
          | none => storage.secrets id })

/-- `storage.rs:5253`. -/
def mergeMissingTunnelProfileSecrets (profile previous : TransportLayerConfig) :
    TransportLayerConfig :=
  match profile, previous with
  | .ssh current, .ssh previous =>
    .ssh { current with
      password := if current.password.isEmpty then previous.password else current.password
      keyPassphrase := if current.keyPassphrase.isEmpty then previous.keyPassphrase
        else current.keyPassphrase }
  | .proxy current, .proxy previous =>
    .proxy { current with
      password := if current.password.isEmpty then previous.password else current.password }
  | .httpTunnel current, .httpTunnel previous =>
    .httpTunnel { current with
      token := if current.token.isEmpty then previous.token else current.token }
  | profile, _ => profile

/-- `storage.rs:5107`, without the copy of secrets that a row still holds. -/
def loadTunnelProfiles : List TransportLayerConfig :=
  storage.tunnelProfiles.map fun profile =>
    match storage.tunnelSecrets profile.id with
    | some stored => mergeMissingTunnelProfileSecrets profile stored
    | none => profile

end Storage

end DbxSpec.Sync
