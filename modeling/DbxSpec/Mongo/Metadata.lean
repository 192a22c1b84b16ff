import DbxSpec.Mongo.Frames

/-!
# Metadata of a collection

`CollectionMetadata` of `crates/dbx-core/src/data/mongodb_dump/metadata.rs`: its fields, how they
are completed and checked when they are read, and the limit on what is written. The JSON of a
document and the options that the driver knows are taken from elsewhere.
-/

namespace DbxSpec.Mongo

open DbxSpec.Base

/-- `metadata.rs:8`. -/
structure CollectionMetadata where
  options : Document
  indexes : List Document
  uuid : Option Text
  collectionName : Text
  kind : Text
  deriving DecidableEq, Repr

/-- Where reading metadata from JSON fails. -/
inductive JsonError
  /-- `serde_json::from_str`. -/
  | syntactic (e : Text)
  /-- `json_object_to_document_extended_json`. -/
  | extended (e : Text)
  /-- `bson::from_document`. -/
  | fields (e : Text)

/-- What the driver says of metadata. -/
structure Driver where
  /-- The canonical extended JSON of `metadata.rs:48-49`. -/
  writeJson : CollectionMetadata → Except Text Text
  /-- `metadata.rs:33-36`, where fields that are missing are empty. -/
  readJson : Text → Except JsonError CollectionMetadata
  /-- `CreateCollectionOptions` from a document. -/
  parseOptions : Document → Except Text Unit
  /-- The keys of these options, written as a document again. -/
  knownOptions : Document → Except Text (List Text)
  writeJson_ne_nil : ∀ {metadata}, writeJson metadata ≠ .ok []

/-- `metadata.rs:131`. -/
def validateDatabase (name : Text) : Except Text Unit :=
  if name.isEmpty || decide (63 < utf8Len name) ||
      name.any (fun ch => isControl ch || " /\\.\"$*<>:|?".toList.contains ch) then
    .error "Invalid MongoDB database name"
  else if name = "admin" ∨ name = "config" ∨ name = "local" then
    .error ("Internal MongoDB databases and user/role migration are not supported by " ++
      "database dump/restore")
  else .ok ()

/-- `metadata.rs:143`. -/
def validateCollection (name : Text) : Except Text Unit :=
  if name.isEmpty ∨ '\x00' ∈ name ∨ '$' ∈ name ∨
      ("system.".toList.isPrefixOf name ∧ name ≠ "system.js") then
    .error ("Unsupported MongoDB collection name: " ++ name)
  else .ok ()

/-- The checks of an index, `metadata.rs:91-94`. -/
def validateIndex (index : Document) : Except Text Unit :=
  if (index.getDocument "key").isNone then .error "Index metadata is missing key"
  else if (index.getStr "name").isNone then .error "Index metadata is missing name"
  else .ok ()

namespace CollectionMetadata

variable (metadata : CollectionMetadata)

/-- `metadata.rs:22`. -/
def empty (name : Text) : CollectionMetadata := ⟨[], [], none, name, "collection"⟩

/-- `metadata.rs:56`. -/
def isView : Bool := metadata.kind = "view"

/-- The fields that `metadata.rs:37-42` fills in. -/
def completed (name : Text) : CollectionMetadata :=
  { metadata with
    collectionName := if metadata.collectionName.isEmpty then name else metadata.collectionName
    kind := if metadata.kind.isEmpty then
        if metadata.options.containsKey "viewOn" then "view" else "collection"
      else metadata.kind }

/-- The checks of `metadata.rs:71-94`. -/
def validateKind : Except Text Unit :=
  if metadata.kind = "timeseries" ∨ metadata.options.containsKey "timeseries" ∨
      metadata.options.containsKey "encryptedFields" then
    .error (metadata.collectionName ++ (": time-series and encrypted collection dumps require " ++
      "server-specific restore support").toList)
  else if metadata.kind ≠ "collection" ∧ metadata.kind ≠ "view" then
    .error ("Unsupported collection type: " ++ metadata.kind)
  else if metadata.isView ∧ (metadata.options.getStr "viewOn").isNone then
    .error (metadata.collectionName ++ ": view metadata is missing viewOn")
  else if metadata.isView ∧ metadata.indexes ≠ [] then
    .error "View metadata cannot contain indexes"
  else (metadata.indexes.mapM validateIndex).map fun _ => ()

end CollectionMetadata

namespace Driver

variable (driver : Driver) (metadata : CollectionMetadata)

/-- `metadata.rs:60`. -/
def validate : Except Text Unit :=
  (validateCollection metadata.collectionName).bind fun _ =>
  match driver.parseOptions metadata.options with
  | .error e => .error ("Invalid collection options for " ++ metadata.collectionName ++ ": " ++ e)
  | .ok _ =>
    (driver.knownOptions metadata.options).bind fun known =>
    match (metadata.options.map Prod.fst).find? fun key =>
        !known.contains key ∧ key ≠ "autoIndexId" ∧ key ≠ "recordIdsReplicated" with
    | some key =>
      .error ("Unsupported collection option for " ++ metadata.collectionName ++ ": " ++ key)
    | none => metadata.validateKind

/-- `metadata.rs:32`. -/
def fromJson (json name : Text) : Except Text CollectionMetadata :=
  match driver.readJson json with
  | .error (.syntactic e) | .error (.fields e) =>
    .error ("Invalid metadata for " ++ name ++ ": " ++ e)
  | .error (.extended e) => .error e
  | .ok metadata =>
    (driver.validate (metadata.completed name)).map fun _ => metadata.completed name

/-- `metadata.rs:47`. -/
def toJson : Except Text Text :=
  (driver.writeJson metadata).bind fun json =>
    if maxDocument < utf8Len json then .error "Collection metadata exceeds 16 MiB" else .ok json

end Driver

end DbxSpec.Mongo
