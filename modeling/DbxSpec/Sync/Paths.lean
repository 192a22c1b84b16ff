import DbxSpec.Sync.Scrubbing

/-!
# Scrubbing and clearing paths

A snapshot clears the paths of this device (`cloud_sync.rs:1040`) before it scrubs the secrets
(`cloud_sync.rs:2462`). The two commute, whatever the type of database.
-/

namespace DbxSpec.Sync

open DbxSpec.Base DbxSpec.Sql ConnectionConfig TransportLayerConfig List Json

/-! ### Paths in the external configuration -/

variable {config : ConnectionConfig}

private theorem normalizeRocketmqFields_mapField_tls (f : Json → Json)
    (fields : List (Text × Json)) :
    normalizeRocketmqFields (mapField "tls" f fields) =
      mapField "tls" f (normalizeRocketmqFields fields) := by
  have hextra : (mapField "tls".toList f fields).lookup "extra".toList =
      fields.lookup "extra".toList := lookup_mapField_of_ne (by decide) f
  have hauth : (mapField "tls".toList f fields).lookup "auth".toList =
      fields.lookup "auth".toList := lookup_mapField_of_ne (by decide) f
  unfold normalizeRocketmqFields
  rw [hextra, hauth]
  split
  · rfl
  · next extra hfound =>
    have hne : "extra".toList ≠ "tls".toList := by decide
    rw [mapField_comm hne]
    split
    · rw [mapField_setField_of_ne (by decide)]
    · rfl

private theorem normalizedExternal_mapSection_tls (f : List (Text × Json) → List (Text × Json)) :
    (config.mapSection "tls" f).normalizedExternal =
      config.normalizedExternal.map (mapObjectAt "tls" f) := by
  have hkind : (config.mapSection "tls" f).isRocketmqConnection = config.isRocketmqConnection := by
    unfold isRocketmqConnection
    dsimp only [mapSection]
    rcases config.externalConfig with _ | external
    · rfl
    dsimp only [Option.map_some, Option.bind_some]
    rw [get_mapObjectAt_of_ne f _ (by decide)]
    rfl
  have hcomm : ∀ value : Json, (value.mapObjectAt "tls" f).mapObject normalizeRocketmqFields =
      (value.mapObject normalizeRocketmqFields).mapObjectAt "tls" f := by
    intro value
    unfold mapObjectAt
    rw [mapObject_mapObject, mapObject_mapObject]
    exact congrArg (mapObject · value) (funext fun fields =>
      normalizeRocketmqFields_mapField_tls (mapObject f) fields)
  rw [normalizedExternal, normalizedExternal, hkind]
  split
  · cases hexternal : config.externalConfig with
    | none => simp only [mapSection, hexternal, Option.map_none]
    | some external => simp only [mapSection, hexternal, Option.map_some, hcomm]
  · rfl

private theorem field_mem_of_target {place : SecretSection} (hplace : place ∈ snapshotSections)
    {kind : Option Text} {target : Text × Text} (htarget : target ∈ place.targets kind) :
    target.2 ∈ ["token", "password", "value", "clientSecret", "key", "truststore_password",
      "keystore_password"].map String.toList := by
  simp only [snapshotSections, mem_cons, not_mem_nil, or_false] at hplace
  rcases hplace with rfl | rfl | rfl | rfl | rfl | rfl
  all_goals
    simp only [mqttPasswordAuth, mqAuth, mqTokenSigning, nacosAuth, nacosConsoleAuth, nacosSection,
      cassandraTls] at htarget
    first
      | split_ifs at htarget <;> simp at htarget <;> subst htarget <;> decide
      | simp at htarget
        rcases htarget with rfl | rfl <;> decide

private theorem scrub_clearExternalConfigPathFields {name : String} {fields : List String}
    (hnormal : (clearExternalConfigPathFields config name fields).normalizedExternal =
      config.normalizedExternal.map (mapObjectAt name fun object =>
        fields.foldl (fun object field => removeField field.toList object) object))
    (h : ∀ field ∈ ["kind", "token", "password", "value", "clientSecret", "key",
      "truststore_password", "keystore_password"].map String.toList,
      field ∉ fields.map String.toList) :
    scrubConnectionSecrets (clearExternalConfigPathFields config name fields) =
      clearExternalConfigPathFields (scrubConnectionSecrets config) name fields := by
  rw [scrubConnectionSecrets_eq, scrubConnectionSecrets_eq, hnormal]
  have hexternal := @scrubExternal_map config.dbType snapshotSections
    (mapObjectAt name fun object =>
      fields.foldl (fun object field => removeField field.toList object) object) ?_
    config.normalizedExternal
  · simp only [clearExternalConfigPathFields, mapSection, publicPart, hexternal]
  · intro place hplace htype value
    by_cases hname : place.name = name.toList
    · rw [hname, mapObjectAt_mapObjectAt, mapObjectAt_mapObjectAt]
      refine mapObjectAt_congr _ _ fun object => ?_
      have hcomm := place.removeFields_scrubFields (h _ mem_cons_self) (fun kind target htarget =>
        h _ (mem_cons_of_mem _ (field_mem_of_target hplace htarget))) object
      rw [foldl_map, foldl_map] at hcomm
      exact hcomm.symm
    · exact mapObjectAt_comm _ _ value hname

/-- The database type is kept. -/
theorem dbType_scrubConnectionSecrets (config : ConnectionConfig) :
    (scrubConnectionSecrets config).dbType = config.dbType := by
  rw [scrubConnectionSecrets_eq]
  rfl

private theorem scrub_clearExternalPaths (config : ConnectionConfig) :
    scrubConnectionSecrets (clearExternalPaths config) =
      clearExternalPaths (scrubConnectionSecrets config) := by
  unfold clearExternalPaths
  rw [dbType_scrubConnectionSecrets]
  split
  · next h =>
    have hqueue : config.dbType ≠ .messageQueue := by
      rw [h]
      decide
    refine scrub_clearExternalConfigPathFields ?_ (by decide)
    rw [normalizedExternal_of_ne hqueue]
    exact normalizedExternal_of_ne hqueue
  · exact scrub_clearExternalConfigPathFields (normalizedExternal_mapSection_tls _) (by decide)
  · exact scrub_clearExternalConfigPathFields (normalizedExternal_mapSection_tls _) (by decide)
  · rfl

private theorem scrub_clearDatabaseFile (config : ConnectionConfig) :
    scrubConnectionSecrets (clearDatabaseFile config) =
      clearDatabaseFile (scrubConnectionSecrets config) := by
  rw [scrubConnectionSecrets_eq config]
  unfold clearDatabaseFile publicPart
  dsimp only
  split
  all_goals
    rw [scrubConnectionSecrets_eq]
    try split
    all_goals rfl

private theorem scrubSecrets_clearDeviceLocalTunnelPath (layer : TransportLayerConfig) :
    (clearDeviceLocalTunnelPath layer).scrubSecrets =
      clearDeviceLocalTunnelPath layer.scrubSecrets := by
  cases layer <;> rfl

/-- Paths can be cleared before or after scrubbing. -/
theorem scrub_clearDeviceLocalConnectionPaths (config : ConnectionConfig) :
    scrubConnectionSecrets (clearDeviceLocalConnectionPaths config) =
      clearDeviceLocalConnectionPaths (scrubConnectionSecrets config) := by
  have hlayers : ∀ layers : List TransportLayerConfig,
      (layers.map clearDeviceLocalTunnelPath).map scrubSecrets =
        (layers.map scrubSecrets).map clearDeviceLocalTunnelPath := by
    intro layers
    rw [map_map, map_map]
    exact map_congr_left fun layer _ => scrubSecrets_clearDeviceLocalTunnelPath layer
  unfold clearDeviceLocalConnectionPaths
  dsimp only
  rw [scrub_clearExternalPaths, ← scrub_clearDatabaseFile, scrubConnectionSecrets_eq,
    scrubConnectionSecrets_eq (clearDatabaseFile config)]
  simp only [publicPart, hlayers]
  rfl

end DbxSpec.Sync
