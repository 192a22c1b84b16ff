import DbxSpec.Mongo.Metadata

/-!
# Archives of a database

`inspect`, `stream` and `pack` of
`crates/dbx-core/src/data/mongodb_dump/archive.rs:75-280`. An archive is a prelude, which names its
namespaces, and segments of documents between headers; the header that ends a namespace has the
checksum of its documents. The two loops of `stream` are one loop here that knows where it is: at a
header, at the terminator of an end, or in a segment. Neither the check for a cancelled restore nor
the receiver of the events fails.
-/

namespace DbxSpec.Mongo

open DbxSpec.Base

/-! ### Entries -/

/-- What archives are written and read with. -/
structure ArchiveEnv extends Driver where
  bson : Bson
  /-- The value of the CRC-64 digest of some bytes. -/
  crc : Bytes → UInt64
  crc_nil : crc [] = 0
  toolVersion : Text

/-- `mongodb_dump.rs:177`, with what the file at its path holds. -/
structure PreparedCollection where
  database : Text
  metadata : CollectionMetadata
  file : Option Bytes
  documents : Nat

/-- Where the documents of an entry belong. -/
def PreparedCollection.namespace (entry : PreparedCollection) : Text × Text :=
  (entry.database, entry.metadata.collectionName)

/-! ### The prelude -/

/-- `archive.rs:10`, as it is written. -/
def magic : Bytes := [0x6d, 0xe2, 0x99, 0x81]

/-- The most namespaces of an archive. -/
def maxEntries : Nat := 100000

/-- The most bytes of metadata in an archive. -/
def maxMetadataBytes : Nat := 128 * 1024 * 1024

section Inspect

variable (env : ArchiveEnv)

/-- The metadata of `archive.rs:106-110`. -/
def readMetadata (json name : Text) : Except Text CollectionMetadata :=
  if json.isEmpty then .ok (.empty name) else env.fromJson json name

/-- A header of the prelude, `archive.rs:97-129`: the entry, and the bytes of metadata so far. -/
def inspectEntry (entries : List PreparedCollection) (metadataBytes : Nat) (header : Document) :
    Except Text (PreparedCollection × Nat) :=
  (string header "db").bind fun database =>
  (validateDatabase database).bind fun _ =>
  (string header "collection").bind fun name =>
  (string header "metadata").bind fun json =>
  if maxEntries ≤ entries.length ∨ maxMetadataBytes < metadataBytes + utf8Len json then
    .error "Archive metadata exceeds the supported limit"
  else
    (readMetadata env json name).bind fun metadata =>
    (env.validate metadata).bind fun _ =>
    if metadata.collectionName ≠ name then
      .error "Archive namespace does not match collection metadata"
    else if header.getStr "type" = some "timeseries".toList then
      .error "Time-series archives require server-specific restore support"
    else if (database, name) ∈ entries.map PreparedCollection.namespace then
      .error "Duplicate archive namespace"
    else .ok (⟨database, metadata, none, 0⟩, metadataBytes + utf8Len json)

/-- The loop of `archive.rs:91`. Every header takes bytes, so the first argument never ends it. -/
def inspectLoop : Nat → List PreparedCollection → Nat → Bytes →
    Except Text (List PreparedCollection × Bytes)
  | 0, _, _, _ => .error []
  | fuel + 1, entries, metadataBytes, bytes =>
    (readFrame env.bson bytes).bind fun read =>
      if read.1 = .terminator then .ok (entries, read.2)
      else
        (document env.bson read.1).bind fun header =>
        (inspectEntry env entries metadataBytes header).bind fun entry =>
          inspectLoop fuel (entries ++ [entry.1]) entry.2 read.2

/-- `archive.rs:75`: the entries, and what is left after the prelude. -/
def inspect : Bytes → Except Text (List PreparedCollection × Bytes)
  | m0 :: m1 :: m2 :: m3 :: bytes =>
    if [m0, m1, m2, m3] ≠ magic then .error "Not a MongoDB --archive file"
    else
      (readFrame env.bson bytes).bind fun read =>
      (document env.bson read.1).bind fun header =>
      if header.getStr "version" ≠ some "0.1".toList then
        .error "Unsupported MongoDB archive version"
      else inspectLoop env (read.2.length + 1) [] 0 read.2
  | _ => .error "Invalid MongoDB archive: failed to fill whole buffer"

end Inspect

/-! ### The data -/

/-- `archive.rs:134`. -/
inductive StreamEvent
  | document (index : Nat) (bytes : Bytes)
  | endOf (index : Nat)
  deriving DecidableEq, Repr

/-- Where `stream` is in the data. -/
inductive StreamMode
  | headers
  | eof (index : Nat) (checksum : UInt64)
  | segment (index : Nat)
  deriving DecidableEq, Repr

/-- What `stream` knows of each namespace: the bytes in its digest, and whether it ended. -/
structure Tally where
  digests : Nat → Bytes
  finished : Nat → Bool

/-- The start of `stream`. -/
def Tally.start : Tally := ⟨fun _ => [], fun _ => false⟩

section Stream

variable (env : ArchiveEnv)

/-- The index of an entry in what the preview showed, `archive.rs:155-164`. -/
def mapEntry (expected : List PreparedCollection) (entry : PreparedCollection) :
    Except Text Nat :=
  let index := expected.findIdx (·.namespace = entry.namespace)
  match expected[index]? with
  | none => .error "Archive metadata changed after preview"
  | some other =>
    (env.toJson other.metadata).bind fun otherJson =>
    (env.toJson entry.metadata).bind fun json =>
      if otherJson ≠ json then .error "Archive metadata changed after preview"
      else .ok index

variable (entries : List PreparedCollection)

/-- A header of the data, `archive.rs:173-194`: what follows it. -/
def streamHeader (tally : Tally) (header : Document) : Except Text StreamMode :=
  (string header "db").bind fun database =>
  (string header "collection").bind fun collection =>
  let index := (entries.map PreparedCollection.namespace).idxOf (database, collection)
  if entries.length ≤ index then .error "Unknown namespace in archive data"
  else if tally.finished index then .error "Archive contains data after namespace EOF"
  else match header.getBool "EOF", header.getI64 "CRC" with
    | none, _ => .error "Archive header is missing EOF"
    | some _, none => .error "Archive header is missing CRC"
    | some true, some checksum => .ok (.eof index checksum)
    | some false, some checksum =>
      if checksum ≠ 0 then .error "Non-EOF archive header contains a checksum"
      else .ok (.segment index)

/-- The text of a namespace in a message. -/
def showNamespace (index : Nat) : Text :=
  match entries[index]? with
  | some entry => entry.database ++ "." ++ entry.metadata.collectionName
  | none => []

/-- The loops of `archive.rs:167` and `archive.rs:196`. Every frame takes bytes, so the first
argument never ends them. -/
def streamLoop (mapped : Nat → Nat) :
    Nat → StreamMode → Tally → List StreamEvent → Bytes → Except Text (List StreamEvent)
  | 0, _, _, _, _ => .error []
  | fuel + 1, .headers, tally, events, bytes =>
    (readFrame env.bson bytes).bind fun read =>
      if read.1 = .endOfInput then
        match (List.range entries.length).find? (!tally.finished ·) with
        | some index => .error ("Missing archive EOF: " ++ showNamespace entries index)
        | none => .ok events
      else
        (document env.bson read.1).bind fun header =>
        (streamHeader entries tally header).bind fun mode =>
          streamLoop mapped fuel mode tally events read.2
  | fuel + 1, .eof index checksum, tally, events, bytes =>
    (readFrame env.bson bytes).bind fun read =>
      if read.1 ≠ .terminator then .error "Invalid archive EOF terminator"
      else if env.crc (tally.digests index) ≠ checksum then
        .error ("Archive checksum mismatch: " ++ showNamespace entries index)
      else streamLoop mapped fuel .headers
        { tally with finished := Function.update tally.finished index true }
        (events ++ [.endOf (mapped index)]) read.2
  | fuel + 1, .segment index, tally, events, bytes =>
    (readRawFrame env.bson bytes).bind fun read =>
      match read.1 with
      | .document doc =>
        if entries[index]?.any (·.metadata.isView) then
          .error "Archive contains BSON documents for a view"
        else streamLoop mapped fuel (.segment index)
          { tally with
            digests := Function.update tally.digests index (tally.digests index ++ doc) }
          (events ++ [.document (mapped index) doc]) read.2
      | .terminator => streamLoop mapped fuel .headers tally events read.2
      | .endOfInput => .error "Truncated archive namespace segment"

/-- `archive.rs:139`: the events. -/
def stream (expected : List PreparedCollection) (bytes : Bytes) :
    Except Text (List StreamEvent) :=
  (inspect env bytes).bind fun inspected =>
    if inspected.1.length ≠ expected.length then
      .error "Archive metadata changed after preview"
    else
      (inspected.1.mapM (mapEntry env expected)).bind fun mapped =>
        streamLoop env inspected.1 (mapped.getD · 0) (inspected.2.length + 1) .headers .start []
          inspected.2

end Stream

/-! ### Writing -/

section Pack

variable (env : ArchiveEnv) (entry : PreparedCollection)

/-- A header of the data. -/
def dataHeader (eof : Bool) (checksum : UInt64) : Document :=
  [("db", .string entry.database),
    ("collection", .string entry.metadata.collectionName),
    ("EOF", .bool eof), ("CRC", .int64 checksum)]

/-- A header of the prelude. -/
def preludeHeader (json : Text) : Document :=
  [("db", .string entry.database),
    ("collection", .string entry.metadata.collectionName),
    ("metadata", .string json), ("size", .int64 (.ofNat entry.documents)),
    ("type", .string (if entry.metadata.isView then "view" else []))]

/-- The first document of an archive. -/
def archiveHeader (serverVersion : Text) : Document :=
  [("concurrent_collections", .int32 1), ("version", .string "0.1"),
    ("server_version", .string serverVersion),
    ("tool_version", .string env.toolVersion)]

/-- The loop of `archive.rs:252` over a file: what is written, and whether a segment was opened
and the bytes in the digest. Every document takes bytes, so the first argument never ends it. -/
def packLoop (entry : PreparedCollection) :
    Nat → Bool → Bytes → Bytes → Except Text (Bytes × Bool × Bytes)
  | 0, _, _, _ => .error []
  | fuel + 1, opened, digest, file =>
    (readFrame env.bson file).bind fun read =>
      match read.1 with
      | .endOfInput => .ok ([], opened, digest)
      | .terminator => .error "Unexpected terminator in BSON file"
      | .document doc =>
        (if opened then .ok [] else writeDocument env.bson (dataHeader entry false 0)).bind
          fun header =>
            (packLoop entry fuel true (digest ++ doc) read.2).map fun later =>
              (header ++ doc ++ later.1, later.2)

/-- The data of an entry, `archive.rs:239-277`. -/
def packEntry : Except Text Bytes :=
  if entry.metadata.isView then
    (writeDocument env.bson (dataHeader entry true 0)).map (· ++ terminator)
  else match entry.file with
    | none => .error "Missing collection BSON file"
    | some file =>
      (packLoop env entry (file.length + 1) false [] file).bind fun packed =>
        (writeDocument env.bson (dataHeader entry true (env.crc packed.2.2))).map fun header =>
          packed.1 ++ (if packed.2.1 then terminator else []) ++ header ++ terminator

/-- The prelude, `archive.rs:225-237`. -/
def packPrelude (entries : List PreparedCollection) (serverVersion : Text) :
    Except Text Bytes :=
  (writeDocument env.bson (archiveHeader env serverVersion)).bind fun header =>
    (entries.mapM fun entry => (env.toJson entry.metadata).bind fun json =>
      writeDocument env.bson (preludeHeader entry json)).map fun headers =>
        magic ++ header ++ headers.flatten ++ terminator

/-- `archive.rs:219`. -/
def pack (entries : List PreparedCollection) (serverVersion : Text) : Except Text Bytes :=
  (packPrelude env entries serverVersion).bind fun prelude =>
    (entries.mapM (packEntry env)).map fun data => prelude ++ data.flatten

end Pack

end DbxSpec.Mongo
