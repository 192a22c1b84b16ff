import DbxSpec.Mongo.ArchiveBody

/-!
# The prelude of an archive

Reading the prelude does not depend on what follows it, and gives distinct namespaces. A prelude
that was written is read back exactly if it is within the limits of the reader and its namespaces
and metadata are valid and distinct.
-/

namespace DbxSpec.Mongo

open DbxSpec.Base List

variable {env : ArchiveEnv} {bytes rest : Bytes}
  {entries inspected : List PreparedCollection}

/-! ### Frames with more bytes after them -/

private theorem readFrame_append {frame : Frame} (h : readFrame env.bson bytes = .ok (frame, rest))
    (hframe : frame ≠ .endOfInput) (more : Bytes) :
    readFrame env.bson (bytes ++ more) = .ok (frame, rest ++ more) := by
  rcases readRawFrame_ok (readFrame_ok h) with ⟨hend, -⟩ | ⟨rfl, rfl⟩ | ⟨doc, rfl, hraw, rfl⟩
  · exact absurd hend hframe
  · exact readFrame_terminator (rest ++ more)
  · rw [readFrame, readRawFrame_document hraw] at h
    rw [readFrame, append_assoc, readRawFrame_document hraw]
    simp only [Except.bind] at h ⊢
    split at h
    · cases h
    · rfl

/-- A document that was written is read again. -/
theorem written_document {doc : Document} (h : writeDocument env.bson doc = .ok bytes) :
    RawDocument env.bson bytes ∧ env.bson.fromSlice bytes = .ok doc := by
  obtain ⟨encoded, hencoded, h⟩ := bind_eq_ok_iff.mp h
  obtain ⟨hlength, h⟩ := guard_eq_ok_iff.mp h
  cases h
  exact ⟨⟨env.bson.framed hencoded (Nat.le_of_not_lt hlength),
    env.bson.rawDocument_toVec hencoded⟩, env.bson.fromSlice_toVec hencoded⟩

/-! ### Reading -/

private theorem inspectEntry_namespace {metadataBytes : Nat} {header : Document}
    {entry : PreparedCollection × Nat}
    (h : inspectEntry env entries metadataBytes header = .ok entry) :
    entry.1.namespace ∉ entries.map PreparedCollection.namespace := by
  obtain ⟨database, -, h⟩ := bind_eq_ok_iff.mp h
  obtain ⟨-, -, h⟩ := bind_eq_ok_iff.mp h
  obtain ⟨name, -, h⟩ := bind_eq_ok_iff.mp h
  obtain ⟨json, -, h⟩ := bind_eq_ok_iff.mp h
  obtain ⟨-, h⟩ := guard_eq_ok_iff.mp h
  obtain ⟨metadata, -, h⟩ := bind_eq_ok_iff.mp h
  obtain ⟨-, -, h⟩ := bind_eq_ok_iff.mp h
  obtain ⟨hname, h⟩ := guard_eq_ok_iff.mp h
  obtain ⟨-, h⟩ := guard_eq_ok_iff.mp h
  obtain ⟨hnew, h⟩ := guard_eq_ok_iff.mp h
  cases h
  rw [PreparedCollection.namespace, not_not.mp hname]
  exact hnew

private theorem nodup_of_inspectLoop (fuel : Nat) : ∀ {entries inspected : List PreparedCollection}
    {metadataBytes : Nat} {bytes rest : Bytes},
    (entries.map PreparedCollection.namespace).Nodup →
    inspectLoop env fuel entries metadataBytes bytes = .ok (inspected, rest) →
    (inspected.map PreparedCollection.namespace).Nodup := by
  induction fuel with
  | zero =>
    intro entries inspected metadataBytes bytes rest _ h
    cases h
  | succ fuel ih =>
    intro entries inspected metadataBytes bytes rest hnodup h
    rw [inspectLoop, bind_eq_ok_iff] at h
    obtain ⟨read, -, h⟩ := h
    split at h
    · cases h
      exact hnodup
    · obtain ⟨header, -, h⟩ := bind_eq_ok_iff.mp h
      obtain ⟨entry, hentry, h⟩ := bind_eq_ok_iff.mp h
      apply ih _ h
      rw [map_append, map_singleton, nodup_append]
      refine ⟨hnodup, pairwise_singleton _ _, ?_⟩
      rintro namespace' hold _ hnew rfl
      obtain rfl := mem_singleton.mp hnew
      exact inspectEntry_namespace hentry hold

private theorem inspectLoop_append (fuel : Nat) : ∀ {entries inspected : List PreparedCollection}
    {metadataBytes : Nat} {bytes rest : Bytes} {longer : Nat}, fuel ≤ longer →
    inspectLoop env fuel entries metadataBytes bytes = .ok (inspected, rest) → ∀ more,
    inspectLoop env longer entries metadataBytes (bytes ++ more) =
      .ok (inspected, rest ++ more) := by
  induction fuel with
  | zero =>
    intro entries inspected metadataBytes bytes rest longer _ h
    cases h
  | succ fuel ih =>
    intro entries inspected metadataBytes bytes rest longer hlonger h more
    rcases longer with _ | longer
    · omega
    rw [inspectLoop, bind_eq_ok_iff] at h
    obtain ⟨⟨frame, left⟩, hread, h⟩ := h
    have hframe : frame ≠ .endOfInput := by
      rintro rfl
      cases h
    rw [inspectLoop, readFrame_append hread hframe]
    dsimp only [Except.bind] at h ⊢
    split at h
    · next hterminator =>
      cases h
      rw [if_pos hterminator]
    · next hterminator =>
      rw [if_neg hterminator]
      obtain ⟨header, hheader, h⟩ := bind_eq_ok_iff.mp h
      obtain ⟨entry, hentry, h⟩ := bind_eq_ok_iff.mp h
      simp only [hheader, hentry]
      exact ih (Nat.le_of_succ_le_succ hlonger) h more

private theorem inspect_ok_iff : inspect env bytes = .ok (inspected, rest) ↔
      ∃ after header left doc, bytes = magic ++ after ∧
        readFrame env.bson after = .ok (.document header, left) ∧
        env.bson.fromSlice header = .ok doc ∧
        doc.getStr "version" = some "0.1".toList ∧
        inspectLoop env (left.length + 1) [] 0 left = .ok (inspected, rest) := by
  constructor
  · intro h
    match bytes with
    | [] | [_] | [_, _] | [_, _, _] => cases h
    | m0 :: m1 :: m2 :: m3 :: after =>
      rw [inspect] at h
      obtain ⟨hmagic, h⟩ := guard_eq_ok_iff.mp h
      obtain ⟨⟨frame, left⟩, hread, h⟩ := bind_eq_ok_iff.mp h
      obtain ⟨doc, hdoc, h⟩ := bind_eq_ok_iff.mp h
      obtain ⟨hversion, h⟩ := guard_eq_ok_iff.mp h
      cases frame with
      | endOfInput | terminator => cases hdoc
      | document header =>
        refine ⟨after, header, left, doc, ?_, hread, hdoc, not_not.mp hversion, h⟩
        rw [← not_not.mp hmagic]
        rfl
  · rintro ⟨after, header, left, doc, rfl, hread, hdoc, hversion, hloop⟩
    have hmagic : inspect env (magic ++ after) =
        (readFrame env.bson after).bind fun read => (document env.bson read.1).bind fun header =>
          if header.getStr "version" ≠ some "0.1".toList then
            .error "Unsupported MongoDB archive version"
          else inspectLoop env (read.2.length + 1) [] 0 read.2 := rfl
    rw [hmagic, hread]
    simp only [Except.bind, document, hdoc, hversion, ne_eq, not_true_eq_false, ↓reduceIte, hloop]

section

variable (h : inspect env bytes = .ok (inspected, rest))

include h

/-- What follows the prelude is left. -/
theorem inspect_append (more : Bytes) :
    inspect env (bytes ++ more) = .ok (inspected, rest ++ more) := by
  obtain ⟨after, header, left, doc, rfl, hread, hdoc, hversion, hloop⟩ := inspect_ok_iff.mp h
  refine inspect_ok_iff.mpr ⟨after ++ more, header, left ++ more, doc, append_assoc _ _ _,
    readFrame_append hread (by simp) more, hdoc, hversion, ?_⟩
  exact inspectLoop_append _ (by simp) hloop more

/-- Namespaces are distinct. -/
theorem nodup_of_inspect :
    (inspected.map PreparedCollection.namespace).Nodup := by
  obtain ⟨after, header, left, doc, -, -, -, -, hloop⟩ := inspect_ok_iff.mp h
  refine nodup_of_inspectLoop _ ?_ hloop
  exact nodup_nil

end

/-! ### What was written -/

/-- Metadata of a collection or of a view, whose JSON is read as the same metadata. -/
structure Rereads (env : ArchiveEnv) (metadata : CollectionMetadata) : Prop where
  kind : metadata.kind = "collection" ∨ metadata.kind = "view"
  json : ∀ json, env.writeJson metadata = .ok json → env.readJson json = .ok metadata

private theorem Rereads.completed_eq {metadata : CollectionMetadata} (h : Rereads env metadata) :
    metadata.completed metadata.collectionName = metadata := by
  have hkind : ¬metadata.kind.isEmpty := by
    rcases h.kind with hkind | hkind <;> rw [hkind] <;> decide
  rw [CollectionMetadata.completed, if_neg hkind, ite_self]

private theorem Rereads.readMetadata_eq {metadata : CollectionMetadata} (h : Rereads env metadata)
    {json : Text} (hjson : env.toJson metadata = .ok json) :
    readMetadata env json metadata.collectionName =
      (env.validate metadata).map fun _ => metadata := by
  obtain ⟨written, hwritten, hlimit⟩ := bind_eq_ok_iff.mp hjson
  obtain ⟨-, hlimit⟩ := guard_eq_ok_iff.mp hlimit
  cases hlimit
  have hne : ¬json.isEmpty := by
    rw [List.isEmpty_iff]
    rintro rfl
    exact env.writeJson_ne_nil hwritten
  rw [readMetadata, if_neg hne, Driver.fromJson, h.json json hwritten]
  simp only [h.completed_eq]

/-- The bytes of metadata of an entry. -/
def metadataSize (env : ArchiveEnv) (entry : PreparedCollection) : Nat :=
  match env.toJson entry.metadata with
  | .ok json => utf8Len json
  | .error _ => 0

/-- The entry that is read for a header of the prelude. -/
def PreparedCollection.previewed (entry : PreparedCollection) : PreparedCollection :=
  { entry with file := none, documents := 0 }

/-- An entry may follow others that have some bytes of metadata. -/
structure Admits (env : ArchiveEnv) (before : List PreparedCollection) (metadataBytes : Nat)
    (entry : PreparedCollection) : Prop where
  database : validateDatabase entry.database = .ok ()
  metadata : env.validate entry.metadata = .ok ()
  count : before.length < maxEntries
  size : metadataBytes + metadataSize env entry ≤ maxMetadataBytes
  new : entry.namespace ∉ before.map PreparedCollection.namespace

private theorem inspectEntry_preludeHeader {metadataBytes : Nat} {entry : PreparedCollection}
    {json : Text}
    (hrereads : Rereads env entry.metadata) (hjson : env.toJson entry.metadata = .ok json)
    {result : PreparedCollection × Nat} :
    inspectEntry env entries metadataBytes (preludeHeader entry json) = .ok result ↔
      Admits env entries metadataBytes entry ∧
        result = (entry.previewed, metadataBytes + metadataSize env entry) := by
  have hdb : string (preludeHeader entry json) "db" = .ok entry.database := rfl
  have hname : string (preludeHeader entry json) "collection" =
      .ok entry.metadata.collectionName := rfl
  have htext : string (preludeHeader entry json) "metadata" = .ok json := rfl
  have htype : (preludeHeader entry json).getStr "type".toList ≠ some "timeseries".toList := by
    have hfield : (preludeHeader entry json).getStr "type".toList =
        some (if entry.metadata.isView then "view".toList else []) := rfl
    rw [hfield]
    split <;> decide
  have hsize : metadataSize env entry = utf8Len json := by
    rw [metadataSize, hjson]
  simp only [inspectEntry, bind_eq_ok_iff, hdb, hname, htext, Except.ok.injEq, exists_eq_left',
    guard_eq_ok_iff, not_or, Nat.not_le, Nat.not_lt, ne_eq, not_not, htype, not_false_eq_true,
    true_and, hrereads.readMetadata_eq hjson, map_eq_ok_iff, ← hsize]
  constructor
  · rintro ⟨_, hdatabase, ⟨hcount, hbytes⟩, _, ⟨_, hvalid, rfl⟩, _, _, _, hnew, rfl⟩
    exact ⟨⟨hdatabase, hvalid, hcount, hbytes, hnew⟩, rfl⟩
  · rintro ⟨⟨hdatabase, hvalid, hcount, hbytes, hnew⟩, rfl⟩
    exact ⟨(), hdatabase, ⟨hcount, hbytes⟩, _, ⟨(), hvalid, rfl⟩, (), hvalid, rfl, hnew, rfl⟩

/-- Entries that are within the limits of `inspect` after others that have some bytes of metadata,
where all are valid and no two have one namespace. -/
structure Inspectable (env : ArchiveEnv) (before : List PreparedCollection) (metadataBytes : Nat)
    (entries : List PreparedCollection) : Prop where
  databases : ∀ entry ∈ entries, validateDatabase entry.database = .ok ()
  metadata : ∀ entry ∈ entries, env.validate entry.metadata = .ok ()
  distinct : (before.map PreparedCollection.namespace ++
    entries.map PreparedCollection.namespace).Nodup
  count : before.length + entries.length ≤ maxEntries
  size : metadataBytes + (entries.map (metadataSize env)).sum ≤ maxMetadataBytes

private theorem inspectable_cons_iff {before : List PreparedCollection} {metadataBytes : Nat}
    {entry : PreparedCollection} : Inspectable env before metadataBytes (entry :: entries) ↔
      Admits env before metadataBytes entry ∧ Inspectable env (before ++ [entry.previewed])
        (metadataBytes + metadataSize env entry) entries := by
  have hnames : (before ++ [entry.previewed]).map PreparedCollection.namespace ++
      entries.map PreparedCollection.namespace = before.map PreparedCollection.namespace ++
        (entry :: entries).map PreparedCollection.namespace := by
    simp [PreparedCollection.previewed, PreparedCollection.namespace]
  have hcounts : (before ++ [entry.previewed]).length + entries.length =
      before.length + (entry :: entries).length := by
    simp only [length_append, length_cons, length_nil]
    omega
  have hsizes : metadataBytes + metadataSize env entry + (entries.map (metadataSize env)).sum =
      metadataBytes + ((entry :: entries).map (metadataSize env)).sum := by
    rw [map_cons, sum_cons, Nat.add_assoc]
  constructor
  · rintro ⟨hdatabases, hmetadata, hdistinct, hcount, hsize⟩
    obtain ⟨hdatabase, hothers⟩ := forall_mem_cons.mp hdatabases
    obtain ⟨hvalid, hvalids⟩ := forall_mem_cons.mp hmetadata
    have hnew : entry.namespace ∉ before.map PreparedCollection.namespace := fun hold =>
      (nodup_append.mp hdistinct).2.2 _ hold _ mem_cons_self rfl
    refine ⟨⟨hdatabase, hvalid, ?_, ?_, hnew⟩, hothers, hvalids, hnames ▸ hdistinct,
      hcounts ▸ hcount, hsizes ▸ hsize⟩
    · rw [length_cons] at hcount
      omega
    · rw [← hsizes] at hsize
      omega
  · rintro ⟨hadmits, hothers⟩
    exact ⟨forall_mem_cons.mpr ⟨hadmits.database, hothers.databases⟩,
      forall_mem_cons.mpr ⟨hadmits.metadata, hothers.metadata⟩, hnames ▸ hothers.distinct,
      hcounts ▸ hothers.count, hsizes ▸ hothers.size⟩

private theorem Admits.inspectable_nil {before : List PreparedCollection} {metadataBytes : Nat}
    {entry : PreparedCollection} (h : Admits env before metadataBytes entry)
    (hbefore : Inspectable env before metadataBytes []) :
    Inspectable env (before ++ [entry.previewed]) (metadataBytes + metadataSize env entry) [] := by
  refine ⟨by simp, by simp, ?_, ?_, h.size⟩
  · have hnodup := hbefore.distinct
    rw [map_nil, append_nil] at hnodup
    rw [map_nil, append_nil, map_append]
    exact (nodup_append_comm.mp (nodup_cons.mpr ⟨h.new, hnodup⟩))
  · rw [length_append, length_singleton]
    exact h.count

/-- A header of the prelude, as it is written. -/
def writePreludeHeader (env : ArchiveEnv) (entry : PreparedCollection) : Except Text Bytes :=
  (env.toJson entry.metadata).bind fun json => writeDocument env.bson (preludeHeader entry json)

private theorem inspectLoop_written {headers : List Bytes}
    (h : Forall₂ (fun entry header => writePreludeHeader env entry = .ok header) entries headers) :
    (∀ entry ∈ entries, Rereads env entry.metadata) →
    ∀ {fuel : Nat} {before result : List PreparedCollection} {metadataBytes : Nat}
      {data rest : Bytes}, Inspectable env before metadataBytes [] →
    (headers.flatten ++ (terminator ++ data)).length < fuel →
    (inspectLoop env fuel before metadataBytes (headers.flatten ++ (terminator ++ data)) =
        .ok (result, rest) ↔
      rest = data ∧ result = before ++ entries.map PreparedCollection.previewed ∧
        Inspectable env before metadataBytes entries) := by
  induction h with
  | nil =>
    intro _ fuel before result metadataBytes data rest hbefore hfuel
    rcases fuel with _ | fuel
    · omega
    rw [flatten_nil, nil_append, inspectLoop, readFrame_terminator]
    simp only [Except.bind, ↓reduceIte, Except.ok.injEq, Prod.mk.injEq, map_nil, append_nil,
      hbefore, and_true]
    exact ⟨fun ⟨hresult, hrest⟩ => ⟨hrest.symm, hresult.symm⟩,
      fun ⟨hrest, hresult⟩ => ⟨hresult.symm, hrest.symm⟩⟩
  | @cons entry header entries headers hheader _ ih =>
    intro hrereads fuel before result metadataBytes data rest hbefore hfuel
    obtain ⟨hfirst, hlater⟩ := forall_mem_cons.mp hrereads
    obtain ⟨json, hjson, hheader⟩ := bind_eq_ok_iff.mp hheader
    obtain ⟨hraw, hdoc⟩ := written_document hheader
    have hleast := hraw.framed.least
    rcases fuel with _ | fuel
    · omega
    have hshorter : (headers.flatten ++ (terminator ++ data)).length < fuel := by
      rw [flatten_cons, append_assoc, length_append] at hfuel
      omega
    have hstep : inspectLoop env (fuel + 1) before metadataBytes
        (header ++ (headers.flatten ++ (terminator ++ data))) =
        (inspectEntry env before metadataBytes (preludeHeader entry json)).bind fun next =>
          inspectLoop env fuel (before ++ [next.1]) next.2
            (headers.flatten ++ (terminator ++ data)) := by
      rw [inspectLoop, readFrame_document hraw hdoc]
      simp only [Except.bind, reduceCtorEq, ↓reduceIte, document, hdoc]
    rw [flatten_cons, append_assoc, hstep, inspectable_cons_iff, bind_eq_ok_iff]
    constructor
    · rintro ⟨next, hnext, hloop⟩
      obtain ⟨hadmits, rfl⟩ := (inspectEntry_preludeHeader hfirst hjson).mp hnext
      obtain ⟨rfl, rfl, hothers⟩ :=
        (ih hlater (hadmits.inspectable_nil hbefore) hshorter).mp hloop
      exact ⟨rfl, by simp, hadmits, hothers⟩
    · rintro ⟨rfl, rfl, hadmits, hothers⟩
      exact ⟨_, (inspectEntry_preludeHeader hfirst hjson).mpr ⟨hadmits, rfl⟩,
        (ih hlater (hadmits.inspectable_nil hbefore) hshorter).mpr ⟨rfl, by simp, hothers⟩⟩

/-- A prelude that was written is read as its entries, if they are within the limits. -/
theorem inspect_written {serverVersion : Text} {prelude : Bytes}
    (hrereads : ∀ entry ∈ entries, Rereads env entry.metadata)
    (h : packPrelude env entries serverVersion = .ok prelude) {data : Bytes}
    {result : List PreparedCollection} :
    inspect env (prelude ++ data) = .ok (result, rest) ↔
      rest = data ∧ result = entries.map PreparedCollection.previewed ∧
        Inspectable env [] 0 entries := by
  obtain ⟨header, hheader, h⟩ := bind_eq_ok_iff.mp h
  obtain ⟨headers, hheaders, rfl⟩ := map_eq_ok_iff.mp h
  obtain ⟨hraw, hdoc⟩ := written_document hheader
  have hstart : Inspectable env [] 0 [] := ⟨by simp, by simp, nodup_nil, Nat.zero_le _,
    Nat.zero_le _⟩
  have hloop := @inspectLoop_written env entries headers (mapM_eq_ok_iff.mp hheaders) hrereads
    ((headers.flatten ++ (terminator ++ data)).length + 1) [] result 0 data rest hstart
    (Nat.lt_succ_self _)
  have hversion : (archiveHeader env serverVersion).getStr "version" = some "0.1".toList := rfl
  have hread := readFrame_document hraw hdoc (headers.flatten ++ (terminator ++ data))
  have hbytes : magic ++ header ++ headers.flatten ++ terminator ++ data =
      magic ++ (header ++ (headers.flatten ++ (terminator ++ data))) := by
    simp only [append_assoc]
  rw [hbytes]
  constructor
  · intro hinspect
    obtain ⟨after, other, left, doc, hafter, hother, -, -, hinspected⟩ :=
      inspect_ok_iff.mp hinspect
    obtain rfl := append_cancel_left hafter
    rw [hread] at hother
    cases hother
    exact hloop.mp hinspected
  · intro hinspected
    exact inspect_ok_iff.mpr ⟨_, header, _, _, rfl, hread, hdoc, hversion, hloop.mpr hinspected⟩

end DbxSpec.Mongo
