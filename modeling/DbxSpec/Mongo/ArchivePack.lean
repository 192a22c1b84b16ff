import DbxSpec.Mongo.ArchiveExact
import DbxSpec.Mongo.Plain

/-!
# Archives that are written

`pack` writes for every entry its documents in one segment, if it has any, and its end. The same
pieces in another order, or more segments for the same documents, are read as well. In every order
the documents come out as they went in, exactly if the prelude can be read again.
-/

namespace DbxSpec.Mongo

open DbxSpec.Base List

variable {env : ArchiveEnv}

/-! ### Writing pieces -/

section Pieces

variable (env)

/-- The bytes of a piece, with the headers that `pack` writes. -/
def writePiece (entries : List PreparedCollection) : Piece → Except Text Bytes
  | .segment index documents =>
    match entries[index]? with
    | none => .error []
    | some entry => (writeDocument env.bson (dataHeader entry false 0)).map
        (· ++ (documents.flatten ++ terminator))
  | .eof index checksum =>
    match entries[index]? with
    | none => .error []
    | some entry => (writeDocument env.bson (dataHeader entry true checksum)).map
        (· ++ terminator)

/-- The bytes of some pieces. -/
def writePieces (entries : List PreparedCollection) (pieces : List Piece) : Except Text Bytes :=
  (pieces.mapM (writePiece env entries)).map flatten

end Pieces

variable {entries : List PreparedCollection}

private theorem writePieces_eq_ok_iff {pieces : List Piece} {data : Bytes} :
    writePieces env entries pieces = .ok data ↔ ∃ parts, Forall₂
      (fun piece part => writePiece env entries piece = .ok part) pieces parts ∧
        parts.flatten = data := by
  rw [writePieces, map_eq_ok_iff]
  simp only [mapM_eq_ok_iff]

private theorem writePieces_append {first later : List Piece} {firstBytes laterBytes : Bytes}
    (hfirst : writePieces env entries first = .ok firstBytes)
    (hlater : writePieces env entries later = .ok laterBytes) :
    writePieces env entries (first ++ later) = .ok (firstBytes ++ laterBytes) := by
  obtain ⟨parts, hparts, rfl⟩ := writePieces_eq_ok_iff.mp hfirst
  obtain ⟨others, hothers, rfl⟩ := writePieces_eq_ok_iff.mp hlater
  exact writePieces_eq_ok_iff.mpr ⟨_, rel_append hparts hothers, flatten_append⟩

section Written

variable {entries inspected : List PreparedCollection}
  (hsame : inspected.map PreparedCollection.namespace =
    entries.map PreparedCollection.namespace)
  (hnodup : (entries.map PreparedCollection.namespace).Nodup)
include hsame hnodup

variable {entry : PreparedCollection} {index : Nat}

private theorem headerFor_written (hentry : entries[index]? = some entry) {eof : Bool}
    {checksum : UInt64}
    {header : Bytes} (h : writeDocument env.bson (dataHeader entry eof checksum) = .ok header) :
    HeaderFor env inspected index eof checksum header := by
  obtain ⟨hraw, hdoc⟩ := written_document h
  obtain ⟨hindex, rfl⟩ := List.getElem?_eq_some_iff.mp hentry
  have hlength : inspected.length = entries.length := by
    simpa using congrArg length hsame
  refine ⟨hraw, hlength ▸ hindex, _, _, _, hdoc, rfl, rfl, ?_, rfl, rfl⟩
  rw [hsame]
  have hplace := hnodup.idxOf_getElem index (by simpa using hindex)
  rw [getElem_map] at hplace
  exact hplace

variable {pieces : List Piece}

private theorem body_of_writePieces {data : Bytes}
    (hraw : ∀ index documents, .segment index documents ∈ pieces →
      ∀ doc ∈ documents, RawDocument env.bson doc)
    (h : writePieces env entries pieces = .ok data) : Body env inspected data pieces := by
  obtain ⟨parts, hparts, rfl⟩ := writePieces_eq_ok_iff.mp h
  clear h
  induction hparts with
  | nil => exact .nil
  | @cons piece part pieces parts hpart _ ih =>
    have hbody := ih fun index documents hmem => hraw index documents (mem_cons_of_mem _ hmem)
    rw [flatten_cons]
    cases piece with
    | segment index documents =>
      rw [writePiece] at hpart
      split at hpart
      · cases hpart
      · next entry hentry =>
        obtain ⟨header, hheader, rfl⟩ := map_eq_ok_iff.mp hpart
        simpa only [append_assoc] using Body.segment (headerFor_written hsame hnodup hentry hheader)
          (hraw index documents mem_cons_self) hbody
    | eof index checksum =>
      rw [writePiece] at hpart
      split at hpart
      · cases hpart
      · next entry hentry =>
        obtain ⟨header, hheader, rfl⟩ := map_eq_ok_iff.mp hpart
        simpa only [append_assoc] using Body.eof
          (headerFor_written hsame hnodup hentry hheader) hbody

end Written

/-! ### The pieces of `pack` -/

/-- The documents of an entry: none for a view, and those of its file for a collection. -/
structure HoldsDocuments (env : ArchiveEnv) (entry : PreparedCollection)
    (documents : List Bytes) : Prop where
  view : entry.metadata.isView → documents = []
  file : entry.metadata.isView = false → entry.file = some documents.flatten
  raw : ∀ doc ∈ documents, RawDocument env.bson doc
  decoded : ∀ doc ∈ documents, ∃ decoded, env.bson.fromSlice doc = .ok decoded

/-- The pieces of an entry. -/
def entryPieces (env : ArchiveEnv) (index : Nat) (documents : List Bytes) : List Piece :=
  (if documents = [] then [] else [.segment index documents]) ++
    [.eof index (env.crc documents.flatten)]

/-- The pieces of entries from an index on. -/
def packPieces (env : ArchiveEnv) : Nat → List (List Bytes) → List Piece
  | _, [] => []
  | index, documents :: later => entryPieces env index documents ++ packPieces env (index + 1) later

variable {documents : List Bytes}

private theorem packLoop_file (hraw : ∀ doc ∈ documents, RawDocument env.bson doc)
    (hdecoded : ∀ doc ∈ documents, ∃ decoded, env.bson.fromSlice doc = .ok decoded) :
    ∀ {fuel : Nat} {opened : Bool} {digest : Bytes}, documents.flatten.length < fuel →
    packLoop env entry fuel opened digest documents.flatten =
      if documents = [] then .ok ([], opened, digest)
      else (if opened then .ok [] else writeDocument env.bson (dataHeader entry false 0)).map
        fun header => (header ++ documents.flatten, true, digest ++ documents.flatten) := by
  induction documents with
  | nil =>
    intro fuel opened digest hfuel
    cases fuel with
    | zero => cases hfuel
    | succ fuel => rfl
  | cons doc documents ih =>
    intro fuel opened digest hfuel
    obtain ⟨hdoc, hlater⟩ := forall_mem_cons.mp hraw
    obtain ⟨⟨decoded, hdocDecoded⟩, hlaterDecoded⟩ := forall_mem_cons.mp hdecoded
    have hleast := hdoc.framed.least
    rcases fuel with _ | fuel
    · cases hfuel
    rw [flatten_cons, length_append] at hfuel
    rw [if_neg (cons_ne_nil doc documents), packLoop, flatten_cons,
      readFrame_document hdoc hdocDecoded]
    simp only [Except.bind]
    rw [ih hlater hlaterDecoded (by omega)]
    generalize (if opened then .ok [] else _ : Except Text Bytes) = header
    cases header <;> cases documents <;> simp [Except.map]

private theorem writePieces_of_packEntry (hentry : entries[index]? = some entry)
    (hholds : HoldsDocuments env entry documents) {part : Bytes}
    (hpart : packEntry env entry = .ok part) :
    writePieces env entries (entryPieces env index documents) = .ok part := by
  rw [writePieces_eq_ok_iff]
  have heof : ∀ {header}, writeDocument env.bson
      (dataHeader entry true (env.crc documents.flatten)) = .ok header →
      writePiece env entries (.eof index (env.crc documents.flatten)) =
        .ok (header ++ terminator) := by
    intro header hheader
    rw [writePiece, hentry]
    exact map_eq_ok_iff.mpr ⟨header, hheader, rfl⟩
  rw [packEntry] at hpart
  cases hview : entry.metadata.isView with
  | true =>
    obtain rfl := hholds.view hview
    rw [hview, if_pos rfl, ← env.crc_nil] at hpart
    obtain ⟨header, hheader, rfl⟩ := map_eq_ok_iff.mp hpart
    exact ⟨_, .cons (heof hheader) .nil, append_nil _⟩
  | false =>
    rw [hview, if_neg Bool.false_ne_true, hholds.file hview] at hpart
    obtain ⟨packed, hloop, hpart⟩ := bind_eq_ok_iff.mp hpart
    obtain ⟨last, hlast, rfl⟩ := map_eq_ok_iff.mp hpart
    rw [packLoop_file hholds.raw hholds.decoded (Nat.lt_succ_self _)] at hloop
    by_cases hnone : documents = []
    · subst hnone
      cases hloop
      exact ⟨_, .cons (heof hlast) .nil, append_nil _⟩
    · rw [if_neg hnone, if_neg Bool.false_ne_true] at hloop
      obtain ⟨header, hheader, rfl⟩ := map_eq_ok_iff.mp hloop
      have hsegment : writePiece env entries (.segment index documents) =
          .ok (header ++ (documents.flatten ++ terminator)) := by
        rw [writePiece, hentry]
        exact map_eq_ok_iff.mpr ⟨header, hheader, rfl⟩
      rw [entryPieces, if_neg hnone]
      exact ⟨_, .cons hsegment (.cons (heof hlast) .nil), by simp⟩

private theorem writePieces_packPieces :
    ∀ {these : List PreparedCollection} {documents : List (List Bytes)} {parts : List Bytes}
      {index : Nat}, (∀ k entry, these[k]? = some entry → entries[index + k]? = some entry) →
    Forall₂ (HoldsDocuments env) these documents →
    Forall₂ (fun entry part => packEntry env entry = .ok part) these parts →
    writePieces env entries (packPieces env index documents) = .ok parts.flatten := by
  intro these documents parts index hthese hholds
  induction hholds generalizing parts index with
  | nil =>
    intro hparts
    cases hparts
    rfl
  | @cons entry held these documents hfirst _ ih =>
    intro hparts
    cases hparts with
    | cons hpart hlater =>
      refine writePieces_append (writePieces_of_packEntry (hthese 0 entry rfl) hfirst hpart)
        (ih ?_ hlater)
      intro k other hother
      have hplace := hthese (k + 1) other hother
      rwa [← Nat.add_assoc, Nat.add_right_comm] at hplace

/-! ### Orders of pieces -/

/-- Pieces are segments of the documents and the ends of all entries: those of one entry in order,
those of different entries in any order. -/
structure Interleaves (env : ArchiveEnv) (documents : List (List Bytes)) (pieces : List Piece) :
    Prop where
  known : ∀ piece ∈ pieces, piece.index < documents.length
  order : ∀ index held, documents[index]? = some held → ∃ segments : List (List Bytes),
    piecesOf index pieces = segments.map (.segment index) ++ [.eof index (env.crc held.flatten)] ∧
      segments.flatten = held

private theorem entryPieces_index {piece : Piece} (h : piece ∈ entryPieces env index documents) :
    piece.index = index := by
  rw [entryPieces] at h
  split at h
  · obtain rfl := mem_singleton.mp h
    rfl
  · rcases mem_cons.mp h with rfl | h
    · rfl
    · obtain rfl := mem_singleton.mp h
      rfl

variable {documents : List (List Bytes)}

private theorem packPieces_index :
    ∀ {index : Nat} {piece : Piece}, piece ∈ packPieces env index documents →
    index ≤ piece.index ∧ piece.index < index + documents.length := by
  induction documents with
  | nil =>
    intro index piece h
    cases h
  | cons held documents ih =>
    intro index piece h
    rw [length_cons]
    rcases mem_append.mp h with h | h
    · rw [entryPieces_index h]
      omega
    · obtain ⟨hleast, hmost⟩ := ih h
      omega

private theorem piecesOf_append (index : Nat) (first later : List Piece) :
    piecesOf index (first ++ later) = piecesOf index first ++ piecesOf index later :=
  filter_append ..

private theorem piecesOf_packPieces :
    ∀ {index k : Nat} {held : List Bytes}, documents[k]? = some held →
    piecesOf (index + k) (packPieces env index documents) = entryPieces env (index + k) held := by
  induction documents with
  | nil =>
    intro index k held h
    cases h
  | cons first documents ih =>
    intro index k held h
    rw [packPieces, piecesOf_append]
    cases k with
    | zero =>
      cases h
      have hself : piecesOf index (entryPieces env index first) = entryPieces env index first :=
        filter_eq_self.mpr fun piece hpiece => by simp [entryPieces_index hpiece]
      have hnone : piecesOf index (packPieces env (index + 1) documents) = [] :=
        filter_eq_nil_iff.mpr fun piece hpiece => by
          have := (packPieces_index hpiece).1
          simp; omega
      rw [Nat.add_zero, hself, hnone, append_nil]
    | succ k =>
      have hnone : piecesOf (index + (k + 1)) (entryPieces env index first) = [] :=
        filter_eq_nil_iff.mpr fun piece hpiece => by simp [entryPieces_index hpiece]
      rw [hnone, nil_append, Nat.add_comm k, ← Nat.add_assoc]
      exact ih h

private theorem interleaves_packPieces (documents : List (List Bytes)) :
    Interleaves env documents (packPieces env 0 documents) := by
  constructor
  · intro piece hpiece
    simpa using (packPieces_index hpiece).2
  · intro index held hheld
    have hpieces := @piecesOf_packPieces env documents 0 index held hheld
    rw [Nat.zero_add, entryPieces] at hpieces
    by_cases hnone : held = []
    · subst hnone
      exact ⟨[], hpieces, rfl⟩
    · rw [if_neg hnone] at hpieces
      exact ⟨[held], hpieces, by simp⟩

private theorem Interleaves.raw (h : Interleaves env documents pieces)
    (hholds : Forall₂ (HoldsDocuments env) entries documents) {segment : List Bytes}
    (hsegment : .segment index segment ∈ pieces) :
    ∀ doc ∈ segment, RawDocument env.bson doc := by
  have hindex := h.known _ hsegment
  obtain ⟨segments, hpieces, hflatten⟩ := h.order index _ (getElem?_eq_getElem hindex)
  have hmem : Piece.segment index segment ∈ piecesOf index pieces :=
    mem_filter.mpr ⟨hsegment, by simp [Piece.index]⟩
  rw [hpieces, mem_append, mem_map] at hmem
  have hheld : segment ∈ segments := by
    rcases hmem with ⟨other, hother, heq⟩ | hmem
    · cases heq
      exact hother
    · cases mem_singleton.mp hmem
  obtain ⟨entry, -, hentry⟩ := getElem?_of_forall₂ hholds.flip (getElem?_eq_getElem hindex)
  intro doc hdoc
  refine hentry.raw doc ?_
  rw [← hflatten]
  exact mem_flatten.mpr ⟨segment, hheld, hdoc⟩

/-! ### Reading back -/

/-- `stream` over bytes, for the namespaces that the preview of these bytes showed, gives the
documents of every entry and then one end, and nothing else. -/
def ReadsBack (env : ArchiveEnv) (entries : List PreparedCollection)
    (documents : List (List Bytes)) (bytes : Bytes) : Prop :=
  ∃ inspected data events, inspect env bytes = .ok (inspected, data) ∧
    inspected.map PreparedCollection.namespace =
      entries.map PreparedCollection.namespace ∧
    stream env inspected bytes = .ok events ∧
    (∀ event ∈ events, event.index < entries.length) ∧
    ∀ index held, documents[index]? = some held →
      eventsOf index events = held.map (.document index) ++ [.endOf index]

private theorem isView_iff : IsView entries index ↔
      ∃ entry, entries[index]? = some entry ∧ entry.metadata.isView := by
  rw [IsView]
  cases entries[index]? <;> simp

private theorem getD_range {count index : Nat} (h : index < count) :
    (range count).getD index 0 = index := by
  simp [getElem?_range h]

section

variable (hnodup : (entries.map PreparedCollection.namespace).Nodup)

include hnodup

private theorem mapEntry_self (hindex : index < entries.length)
    (hjson : ∃ json, env.toJson (entries[index]).metadata = .ok json) :
    mapEntry env entries entries[index] = .ok index := by
  obtain ⟨json, hjson⟩ := hjson
  have hplace : entries.findIdx (fun other =>
      decide (other.namespace = (entries[index]).namespace)) = index := by
    rw [findIdx_eq hindex]
    refine ⟨by simp, fun other hother => ?_⟩
    rw [decide_eq_false_iff_not]
    intro heq
    have hsame : (entries.map PreparedCollection.namespace)[other]? =
        (entries.map PreparedCollection.namespace)[index]? := by
      rw [getElem?_map, getElem?_map, getElem?_eq_getElem (hother.trans hindex),
        getElem?_eq_getElem hindex, Option.map_some, Option.map_some, heq]
    have := (getElem?_inj (by simpa using hother.trans hindex) hnodup).mp hsame
    omega
  simp only [mapEntry, hplace, getElem?_eq_getElem hindex, hjson, Except.bind, ne_eq,
    not_true_eq_false, ↓reduceIte]

private theorem mapM_mapEntry_self
    (hjson : ∀ entry ∈ entries, ∃ json, env.toJson entry.metadata = .ok json) :
    entries.mapM (mapEntry env entries) = .ok (range entries.length) := by
  rw [mapM_eq_ok_iff, forall₂_iff_get]
  refine ⟨length_range.symm, fun index hindex hrange => ?_⟩
  rw [get_eq_getElem, get_eq_getElem, getElem_range]
  exact mapEntry_self hnodup hindex (hjson _ (getElem_mem hindex))

end

section Prelude

variable {entries : List PreparedCollection} {documents : List (List Bytes)}
  {serverVersion : Text} {prelude : Bytes}
  (hrereads : ∀ entry ∈ entries, Rereads env entry.metadata)
  (hprelude : packPrelude env entries serverVersion = .ok prelude)
include hrereads hprelude

omit hrereads in
private theorem toJson_of_packPrelude :
    ∀ entry ∈ entries, ∃ json, env.toJson entry.metadata = .ok json := by
  intro entry hentry
  obtain ⟨first, -, h⟩ := bind_eq_ok_iff.mp hprelude
  obtain ⟨headers, hheaders, -⟩ := map_eq_ok_iff.mp h
  obtain ⟨index, hindex⟩ := mem_iff_getElem?.mp hentry
  obtain ⟨header, -, hheader⟩ := getElem?_of_forall₂ (mapM_eq_ok_iff.mp hheaders) hindex
  obtain ⟨json, hjson, -⟩ := bind_eq_ok_iff.mp hheader
  exact ⟨json, hjson⟩

private theorem readsBack_of_inspectable (hholds : Forall₂ (HoldsDocuments env) entries documents)
    (hinspectable : Inspectable env [] 0 entries) {data : Bytes}
    (hinterleaves : Interleaves env documents pieces)
    (hdata : writePieces env entries pieces = .ok data) :
    ReadsBack env entries documents (prelude ++ data) := by
  have hsame : (entries.map PreparedCollection.previewed).map PreparedCollection.namespace =
      entries.map PreparedCollection.namespace := map_map
  have hnodup : (entries.map PreparedCollection.namespace).Nodup := hinspectable.distinct
  have hlength : (entries.map PreparedCollection.previewed).length = entries.length := length_map _
  have hinspect : inspect env (prelude ++ data) =
      .ok (entries.map PreparedCollection.previewed, data) :=
    (inspect_written hrereads hprelude).mpr ⟨rfl, rfl, hinspectable⟩
  have hbody := body_of_writePieces hsame hnodup
    (fun index segment hsegment => hinterleaves.raw hholds hsegment) hdata
  have hshown : ∀ entry ∈ entries.map PreparedCollection.previewed,
      ∃ json, env.toJson entry.metadata = .ok json :=
    forall_mem_map.mpr (toJson_of_packPrelude hprelude)
  have hmapped := mapM_mapEntry_self (hsame ▸ hnodup) hshown
  have hself := @getD_range (entries.map PreparedCollection.previewed).length
  refine ⟨entries.map PreparedCollection.previewed, data, pieces.flatMap (Piece.events
      ((range (entries.map PreparedCollection.previewed).length).getD · 0)),
    hinspect, hsame, stream_ok_iff.mpr ⟨_, _, _, hinspect, rfl, hmapped,
      streamLoop_ok_iff.mpr ⟨pieces, hbody, ?_, rfl⟩⟩, ?_, ?_⟩
  · intro index hindex
    have hheld := getElem?_eq_getElem (hholds.length_eq ▸ hlength ▸ hindex)
    obtain ⟨segments, hpieces, hflatten⟩ := hinterleaves.order index _ hheld
    refine (ordered_of_open rfl).mpr ⟨segments, hflatten ▸ hpieces, fun hview => ?_⟩
    obtain ⟨entry, hentry, hview⟩ := isView_iff.mp hview
    rw [getElem?_map, Option.map_eq_some_iff] at hentry
    obtain ⟨source, hsource, rfl⟩ := hentry
    obtain ⟨held, hsome, hheldBy⟩ := getElem?_of_forall₂ hholds hsource
    obtain rfl := Option.some.inj (hheld.symm.trans hsome)
    exact hflatten.trans (hheldBy.view hview)
  · intro event hevent
    obtain ⟨piece, hpiece, hevent⟩ := mem_flatMap.mp hevent
    rw [events_index hevent, hself (hbody.index_lt piece hpiece), ← hlength]
    exact hbody.index_lt piece hpiece
  · intro index held hheld
    have hindex : index < (entries.map PreparedCollection.previewed).length := by
      rw [hlength, hholds.length_eq]
      exact (List.getElem?_eq_some_iff.mp hheld).1
    obtain ⟨segments, hpieces, rfl⟩ := hinterleaves.order index held hheld
    have hevents := eventsOf_flatMap (mapped_injective hmapped (hsame ▸ hnodup) hindex)
      hbody.index_lt
    rw [hpieces, flatMap_events_segments, hself hindex] at hevents
    exact hevents

private theorem inspectable_of_readsBack {data : Bytes}
    (h : ReadsBack env entries documents (prelude ++ data)) : Inspectable env [] 0 entries := by
  obtain ⟨inspected, rest, events, hinspect, -⟩ := h
  exact ((inspect_written hrereads hprelude).mp hinspect).2.2

end Prelude

/-! ### Archives are read exactly -/

/-- What `pack` wrote for entries is read back, in any order of their segments; what is accepted
has all documents and ends; and nothing shorter is accepted. -/
structure ArchiveExact (env : ArchiveEnv) (entries : List PreparedCollection)
    (documents : List (List Bytes)) (serverVersion : Text) : Prop where
  packed : ∀ bytes, pack env entries serverVersion = .ok bytes →
    ReadsBack env entries documents bytes
  interleaved : ∀ prelude pieces data, packPrelude env entries serverVersion = .ok prelude →
    Interleaves env documents pieces → writePieces env entries pieces = .ok data →
    ReadsBack env entries documents (prelude ++ data)
  accepted : ∀ expected bytes events, stream env expected bytes = .ok events →
    AcceptedExactly env expected bytes events
  shortest : ∀ expected bytes more events later, stream env expected bytes = .ok events →
    stream env expected (bytes ++ more) = .ok later → more = []

/-- Archives of entries are read exactly if the entries are valid and distinct and within the limits
on entries and on metadata that `inspect` has and `pack` does not check. -/
theorem archiveExact_iff {entries : List PreparedCollection} {documents : List (List Bytes)}
    {serverVersion : Text} {bytes : Bytes}
    (hrereads : ∀ entry ∈ entries, Rereads env entry.metadata)
    (hholds : Forall₂ (HoldsDocuments env) entries documents)
    (hpack : pack env entries serverVersion = .ok bytes) :
    ArchiveExact env entries documents serverVersion ↔ Inspectable env [] 0 entries := by
  obtain ⟨prelude, hprelude, hdata⟩ := bind_eq_ok_iff.mp hpack
  obtain ⟨parts, hparts, rfl⟩ := map_eq_ok_iff.mp hdata
  constructor
  · intro h
    exact inspectable_of_readsBack hrereads hprelude (h.packed _ hpack)
  · intro hinspectable
    refine ⟨?_, ?_, fun expected bytes events => acceptedExactly_of_stream,
      fun expected bytes more events later => eq_nil_of_stream_append⟩
    · intro bytes hbytes
      obtain rfl := Except.ok.inj (hpack.symm.trans hbytes)
      refine readsBack_of_inspectable hrereads hprelude hholds hinspectable
        (interleaves_packPieces documents) ?_
      refine writePieces_packPieces (fun k entry hentry => ?_) hholds (mapM_eq_ok_iff.mp hparts)
      rwa [Nat.zero_add]
    · intro other pieces data hother hinterleaves hwritten
      exact readsBack_of_inspectable hrereads hother hholds hinspectable hinterleaves hwritten

private theorem rereads_plainEnv {metadata : CollectionMetadata}
    (hkind : metadata.kind = "collection" ∨ metadata.kind = "view") : Rereads plainEnv metadata :=
  ⟨hkind, fun _ => plainReadJson_plainWriteJson⟩

/-- The bytes of a document. -/
def smallDocument : Bytes := documentBytes [("_id", .int32 1)]

/-- A collection that holds a document twice, and a view of it. -/
def smallEntries : List PreparedCollection :=
  [⟨"db", .empty "a", some (smallDocument ++ smallDocument), 2⟩,
    ⟨"db", ⟨[("viewOn", .string "a")], [], none, "b", "view"⟩, none, 0⟩]

/-- A collection with a document twice, and a view. -/
theorem archiveExact_smallEntries :
    ArchiveExact plainEnv smallEntries [[smallDocument, smallDocument], []] "7.0" := by
  have hpack : pack plainEnv smallEntries "7.0" =
      .ok ((pack plainEnv smallEntries "7.0").toOption.getD []) := by
    decide +kernel
  refine (archiveExact_iff ?_ ?_ hpack).mpr ⟨?_, ?_, ?_, ?_, ?_⟩
  · have hkinds : ∀ entry ∈ smallEntries,
        entry.metadata.kind = "collection" ∨ entry.metadata.kind = "view" := by
      decide +kernel
    exact fun entry hentry => rereads_plainEnv (hkinds entry hentry)
  · have hplain : PlainDocument [("_id", .int32 1)] := by decide +kernel
    have hraw : RawDocument plainEnv.bson smallDocument :=
      ⟨hplain.framed (by decide +kernel), by decide +kernel⟩
    have hdecoded : plainEnv.bson.fromSlice smallDocument = .ok [("_id", .int32 1)] := by
      decide +kernel
    refine .cons ⟨?_, ?_, ?_, ?_⟩ (.cons ⟨?_, ?_, ?_, ?_⟩ .nil)
    · exact fun hview => absurd hview (by decide)
    · exact fun _ => rfl
    · simpa using hraw
    · simpa using ⟨_, hdecoded⟩
    · exact fun _ => rfl
    · exact fun hview => absurd hview (by decide)
    · simp
    · simp
  · decide +kernel
  · decide +kernel
  · decide +kernel
  · decide +kernel
  · decide +kernel

/-! ### Metadata over the limit -/

/-- A collection with a comment. -/
def commentMetadata (comment : Text) (name : Char) : CollectionMetadata :=
  ⟨[("comment", .string comment)], [], none, [name], "collection"⟩

/-- What the JSON of a collection has before its comment. -/
def commentStart : Text := "\x7b\"options\":\x7b\"comment\":\""

/-- What follows the comment. -/
def commentEnd (name : Char) : Text :=
  "\"\x7d,\"indexes\":[],\"collectionName\":\"" ++
    name :: "\",\"type\":\"collection\"\x7d"

/-- Nine empty collections with a comment. -/
def commentEntries (comment : Text) : List PreparedCollection :=
  "abcdefghi".toList.map fun name => ⟨"db", commentMetadata comment name, some [], 0⟩

section Comments

private theorem plain_names : ∀ name ∈ "abcdefghi".toList, isPlain (commentEnd name) ∧
    isPlainJson [name] ∧ isPlain [name] ∧ validateCollection [name] = .ok () := by
  have hnames : "abcdefghi".toList.all fun name => isPlain (commentEnd name) ∧
      isPlainJson [name] ∧ isPlain [name] ∧ validateCollection [name] = .ok () := by
    decide +kernel
  exact fun name hname => of_decide_eq_true (all_eq_true.mp hnames name hname)

variable {comment : Text} {name : Char} (hname : name ∈ "abcdefghi".toList)
  (hcomment : isPlainJson comment)

include hname hcomment

private theorem writeJson_commentMetadata : plainEnv.writeJson (commentMetadata comment name) =
    .ok (commentStart ++ (comment ++ commentEnd name)) := by
  have hparts : ((jsonParts (commentMetadata comment name)).getD []).all isPlainJson := by
    simp only [commentMetadata, jsonParts, namesParts, Option.getD_some, all_cons, hcomment,
      (plain_names name hname).2.1]
    decide +kernel
  exact if_pos hparts

private theorem isPlain_json : isPlain (commentStart ++ (comment ++ commentEnd name)) := by
  have hstart : isPlain commentStart := by decide +kernel
  have hplain : isPlain comment := isPlain_of_isPlainJson hcomment
  rw [isPlain, all_append, all_append, ← isPlain, ← isPlain, ← isPlain, hstart, hplain,
    (plain_names name hname).1]
  rfl

omit hname hcomment in
private theorem length_json :
    (commentStart ++ (comment ++ commentEnd name)).length = comment.length + 80 := by
  have hstart : commentStart.length = 23 := rfl
  have hend : (commentEnd name).length = 57 := rfl
  rw [length_append, length_append]
  omega

private theorem toJson_commentMetadata (hshort : comment.length ≤ 15 * 1024 * 1024) :
    plainEnv.toJson (commentMetadata comment name) =
      .ok (commentStart ++ (comment ++ commentEnd name)) := by
  refine bind_eq_ok_iff.mpr ⟨_, writeJson_commentMetadata hname hcomment,
    guard_eq_ok_iff.mpr ⟨?_, rfl⟩⟩
  rw [utf8Len_of_isPlain (isPlain_json hname hcomment), length_json, maxDocument]
  omega

private theorem preludeHeader_written (hshort : comment.length ≤ 15 * 1024 * 1024) :
    ∃ bytes, writePreludeHeader plainEnv ⟨"db", commentMetadata comment name, some [], 0⟩ =
      .ok bytes := by
  have hjson := toJson_commentMetadata hname hcomment hshort
  have hplain := isPlain_json hname hcomment
  have hlength := @length_json comment name
  generalize commentStart ++ (comment ++ commentEnd name) = json at hjson hplain hlength
  refine ⟨_, bind_eq_ok_iff.mpr ⟨json, hjson, writeDocument_plainBson ?_ ?_⟩⟩
  · have hfields : (preludeHeader ⟨"db", commentMetadata comment name, some [], 0⟩ json).all
        isPlainField = ((isPlain "db" && isPlain "db") &&
          ((isPlain "collection" && isPlain [name]) &&
            ((isPlain "metadata" && isPlain json) && (isPlain "size" && true &&
            (isPlain "type" && isPlain [] && true))))) := rfl
    rw [hfields, hplain, (plain_names name hname).2.2.1]
    decide +kernel
  · have hview : (commentMetadata comment name).isView = false := rfl
    have hsame : (commentMetadata comment name).collectionName = [name] := rfl
    simp [preludeHeader, fieldBytes, valueBytes, plainBytes, hlength, hview, hsame, maxDocument]
    omega

omit hcomment in
private theorem packEntry_commentMetadata :
    ∃ bytes, packEntry plainEnv ⟨"db", commentMetadata comment name, some [], 0⟩ = .ok bytes := by
  have hnames : "abcdefghi".toList.all fun name =>
      (packEntry plainEnv ⟨"db", commentMetadata [] name, some [], 0⟩).isOk := by
    decide +kernel
  have hsame : packEntry plainEnv ⟨"db", commentMetadata comment name, some [], 0⟩ =
      packEntry plainEnv ⟨"db", commentMetadata [] name, some [], 0⟩ := rfl
  have hok := all_eq_true.mp hnames name hname
  rw [hsame]
  cases hpart : packEntry plainEnv ⟨"db", commentMetadata [] name, some [], 0⟩ with
  | error e =>
    rw [hpart] at hok
    cases hok
  | ok bytes => exact ⟨bytes, rfl⟩

end Comments

section Nine

variable {comment : Text} (hcomment : isPlainJson comment)
  (hlength : comment.length = 15 * 1024 * 1024)

private theorem mem_commentEntries {entry : PreparedCollection}
    (hentry : entry ∈ commentEntries comment) : ∃ name ∈ "abcdefghi".toList,
      ⟨"db", commentMetadata comment name, some [], 0⟩ = entry :=
  mem_map.mp hentry

include hcomment hlength

private theorem pack_commentEntries :
    ∃ bytes, pack plainEnv (commentEntries comment) "7.0" = .ok bytes := by
  have hheader : writeDocument plainEnv.bson (archiveHeader plainEnv "7.0") =
      .ok (documentBytes (archiveHeader plainEnv "7.0")) := by
    decide +kernel
  obtain ⟨headers, hheaders⟩ := @exists_mapM_eq_ok _ _ _ (writePreludeHeader plainEnv)
    (commentEntries comment) fun entry hentry => by
      obtain ⟨name, hname, rfl⟩ := mem_commentEntries hentry
      exact preludeHeader_written hname hcomment hlength.le
  obtain ⟨parts, hparts⟩ := @exists_mapM_eq_ok _ _ _ (packEntry plainEnv) (commentEntries comment)
    fun entry hentry => by
      obtain ⟨name, hname, rfl⟩ := mem_commentEntries hentry
      exact packEntry_commentMetadata hname
  exact ⟨_, bind_eq_ok_iff.mpr ⟨_, bind_eq_ok_iff.mpr ⟨_, hheader, map_eq_ok_iff.mpr
    ⟨headers, hheaders, rfl⟩⟩, map_eq_ok_iff.mpr ⟨parts, hparts, rfl⟩⟩⟩

private theorem not_inspectable_commentEntries :
    ¬Inspectable plainEnv [] 0 (commentEntries comment) := by
  intro h
  have hsizes : (commentEntries comment).map (metadataSize plainEnv) =
      replicate 9 (15 * 1024 * 1024 + 80) := by
    rw [eq_replicate_iff]
    refine ⟨rfl, fun size hsize => ?_⟩
    obtain ⟨entry, hentry, rfl⟩ := mem_map.mp hsize
    obtain ⟨name, hname, rfl⟩ := mem_commentEntries hentry
    rw [metadataSize, toJson_commentMetadata hname hcomment hlength.le]
    dsimp only
    rw [utf8Len_of_isPlain (isPlain_json hname hcomment), length_json, hlength]
  have hsize := h.size
  rw [hsizes, sum_replicate_nat] at hsize
  exact absurd hsize (by decide)

end Nine

/-- The archive of nine collections with comments of 15 MiB is written and is not read. -/
theorem large_metadata_is_packed_and_not_read :
    let entries := commentEntries (replicate (15 * 1024 * 1024) 'x')
    (∀ entry ∈ entries, Rereads plainEnv entry.metadata ∧
      validateDatabase entry.database = .ok () ∧ plainEnv.validate entry.metadata = .ok ()) ∧
      Forall₂ (HoldsDocuments plainEnv) entries (entries.map fun _ => []) ∧
      (entries.map PreparedCollection.namespace).Nodup ∧
      (∃ bytes, pack plainEnv entries "7.0" = .ok bytes) ∧
      ¬ArchiveExact plainEnv entries (entries.map fun _ => []) "7.0" := by
  have hcomment : isPlainJson (replicate (15 * 1024 * 1024) 'x') := by
    rw [isPlainJson, all_replicate]
    decide
  have hlength : (replicate (15 * 1024 * 1024) 'x').length = 15 * 1024 * 1024 := length_replicate
  generalize replicate (15 * 1024 * 1024) 'x' = comment at hcomment hlength ⊢
  intro entries
  obtain ⟨bytes, hpack⟩ := pack_commentEntries hcomment hlength
  have hrereads : ∀ entry ∈ entries, Rereads plainEnv entry.metadata := by
    intro entry hentry
    obtain ⟨name, -, rfl⟩ := mem_commentEntries hentry
    exact rereads_plainEnv (.inl rfl)
  refine ⟨fun entry hentry => ⟨hrereads entry hentry, ?_, ?_⟩, ?_, ?_, ⟨bytes, hpack⟩, fun h => ?_⟩
  · have hdatabase : validateDatabase "db" = .ok () := by decide +kernel
    obtain ⟨name, -, rfl⟩ := mem_commentEntries hentry
    exact hdatabase
  · obtain ⟨name, hname, rfl⟩ := mem_commentEntries hentry
    have hrest : plainEnv.validate (commentMetadata comment name) =
        (validateCollection [name]).bind fun _ => .ok () := rfl
    rw [hrest, (plain_names name hname).2.2.2]
    rfl
  · rw [forall₂_map_right_iff, forall₂_same]
    intro entry hentry
    obtain ⟨name, -, rfl⟩ := mem_commentEntries hentry
    exact ⟨fun _ => rfl, fun _ => rfl, by simp, by simp⟩
  · have hnames : entries.map PreparedCollection.namespace =
        "abcdefghi".toList.map fun name => ("db".toList, [name]) := rfl
    rw [hnames]
    decide +kernel
  · obtain ⟨prelude, hprelude, hdata⟩ := bind_eq_ok_iff.mp hpack
    obtain ⟨parts, -, rfl⟩ := map_eq_ok_iff.mp hdata
    exact not_inspectable_commentEntries hcomment hlength
      (inspectable_of_readsBack hrereads hprelude (h.packed _ hpack))

end DbxSpec.Mongo
