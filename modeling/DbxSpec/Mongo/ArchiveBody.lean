import DbxSpec.Mongo.Archive

/-!
# The data of an archive

What an archive says after its prelude is a list of pieces: segments of documents, and the ends of
namespaces with their checksums. `stream` accepts bytes exactly if they are such pieces, each
namespace has segments and then one end, and the end has the checksum of its documents.
-/

namespace DbxSpec.Mongo

open DbxSpec.Base List Function

/-! ### Pieces -/

/-- A part of the data. -/
inductive Piece
  | segment (index : Nat) (documents : List Bytes)
  | eof (index : Nat) (checksum : UInt64)
  deriving DecidableEq, Repr

namespace Piece

/-- The namespace of a piece. -/
def index : Piece → Nat
  | segment index _ | eof index _ => index

/-- The events of a piece. -/
def events (mapped : Nat → Nat) : Piece → List StreamEvent
  | segment index documents => documents.map (.document (mapped index))
  | eof index _ => [.endOf (mapped index)]

end Piece

/-- Bytes are a header for a namespace. -/
structure HeaderFor (env : ArchiveEnv) (entries : List PreparedCollection) (index : Nat)
    (eof : Bool) (checksum : UInt64) (bytes : Bytes) : Prop where
  raw : RawDocument env.bson bytes
  known : index < entries.length
  document : ∃ doc database collection, env.bson.fromSlice bytes = .ok doc ∧
    doc.getStr "db" = some database ∧ doc.getStr "collection" = some collection ∧
    (entries.map PreparedCollection.namespace).idxOf (database, collection) = index ∧
    doc.getBool "EOF" = some eof ∧ doc.getI64 "CRC" = some checksum

/-- Bytes are some pieces. -/
inductive Body (env : ArchiveEnv) (entries : List PreparedCollection) :
    Bytes → List Piece → Prop
  | nil : Body env entries [] []
  | segment {index : Nat} {header rest : Bytes} {documents : List Bytes} {pieces : List Piece}
      (hheader : HeaderFor env entries index false 0 header)
      (hdocuments : ∀ doc ∈ documents, RawDocument env.bson doc)
      (hrest : Body env entries rest pieces) :
      Body env entries (header ++ (documents.flatten ++ (terminator ++ rest)))
        (.segment index documents :: pieces)
  | eof {index : Nat} {checksum : UInt64} {header rest : Bytes} {pieces : List Piece}
      (hheader : HeaderFor env entries index true checksum header)
      (hrest : Body env entries rest pieces) :
      Body env entries (header ++ (terminator ++ rest)) (.eof index checksum :: pieces)

/-- Pieces are of the entries. -/
theorem Body.index_lt {env : ArchiveEnv} {entries : List PreparedCollection} {bytes : Bytes}
    {pieces : List Piece} (h : Body env entries bytes pieces) :
    ∀ piece ∈ pieces, piece.index < entries.length := by
  induction h with
  | nil => simp
  | segment hheader _ _ ih | eof hheader _ ih => exact forall_mem_cons.mpr ⟨hheader.known, ih⟩

/-! ### Pieces that are allowed -/

/-- A namespace is that of a view. -/
def IsView (entries : List PreparedCollection) (index : Nat) : Prop :=
  entries[index]?.any (·.metadata.isView)

namespace Tally

section

variable (env : ArchiveEnv) (entries : List PreparedCollection)

/-- A piece may come next. -/
def Allows (tally : Tally) : Piece → Prop
  | .segment index documents =>
    tally.finished index = false ∧ (IsView entries index → documents = [])
  | .eof index checksum =>
    tally.finished index = false ∧ env.crc (tally.digests index) = checksum

end

variable (tally : Tally)

/-- What is known after a piece. -/
def add : Piece → Tally
  | .segment index documents =>
    { tally with
      digests := update tally.digests index (tally.digests index ++ documents.flatten) }
  | .eof index _ => { tally with finished := update tally.finished index true }

/-- What is known after some pieces. -/
def addAll (pieces : List Piece) : Tally := pieces.foldl add tally

@[simp] private theorem addAll_cons (piece : Piece) (pieces : List Piece) :
    tally.addAll (piece :: pieces) = (tally.add piece).addAll pieces := rfl

/-- Pieces may come one after the other. -/
def AllowsAll (env : ArchiveEnv) (entries : List PreparedCollection) :
    Tally → List Piece → Prop
  | _, [] => True
  | tally, piece :: pieces =>
    tally.Allows env entries piece ∧ AllowsAll env entries (tally.add piece) pieces

/-- All namespaces ended. -/
def Complete (count : Nat) : Prop := ∀ index < count, tally.finished index

private theorem add_segment_nil (index : Nat) : tally.add (.segment index []) = tally := by
  simp [add]

private theorem add_segment_singleton (index : Nat) (doc : Bytes) :
    tally.add (.segment index [doc]) = { tally with
        digests := update tally.digests index (tally.digests index ++ doc) } := by
  simp [add]

private theorem add_segment_cons (index : Nat) (doc : Bytes) (documents : List Bytes) :
    (tally.add (.segment index [doc])).add (.segment index documents) =
      tally.add (.segment index (doc :: documents)) := by
  simp [add]

end Tally

/-! ### Reading pieces -/

section Run

variable {env : ArchiveEnv} {entries : List PreparedCollection} {mapped : Nat → Nat}
  {header : Bytes}

/-- A document is read as a frame. -/
theorem readFrame_document {doc : Document} (hraw : RawDocument env.bson header)
    (hdoc : env.bson.fromSlice header = .ok doc) (rest : Bytes) :
    readFrame env.bson (header ++ rest) = .ok (.document header, rest) := by
  rw [readFrame, readRawFrame_document hraw]
  simp only [Except.bind, hdoc]

/-- A terminator is read as a frame. -/
theorem readFrame_terminator (rest : Bytes) :
    readFrame env.bson (terminator ++ rest) = .ok (.terminator, rest) := by
  rfl

private theorem streamLoop_header {index : Nat} {eof : Bool} {checksum : UInt64}
    (h : HeaderFor env entries index eof checksum header) {tally : Tally}
    (hopen : tally.finished index = false) (hsegment : eof = false → checksum = 0) (fuel : Nat)
    (events : List StreamEvent) (rest : Bytes) :
    streamLoop env entries mapped (fuel + 1) .headers tally events (header ++ rest) =
      streamLoop env entries mapped fuel (if eof then .eof index checksum else .segment index)
        tally events rest := by
  obtain ⟨doc, database, collection, hdoc, hdb, hcollection, hindex, heof, hcrc⟩ := h.document
  have hknown := h.known
  rw [streamLoop, readFrame_document h.raw hdoc]
  simp only [Except.bind, reduceCtorEq, ↓reduceIte, document, hdoc, streamHeader, string, hdb,
    hcollection, hindex, heof, hcrc, hopen, Nat.not_le.mpr hknown, Bool.false_eq_true]
  cases eof with
  | true => rfl
  | false =>
    obtain rfl := hsegment rfl
    rfl

private theorem streamLoop_segment (documents : List Bytes)
    (hraw : ∀ doc ∈ documents, RawDocument env.bson doc) {index : Nat}
    (hview : IsView entries index → documents = []) :
    ∀ {fuel : Nat} {tally : Tally} {events : List StreamEvent} {more : Bytes},
    (documents.flatten ++ (terminator ++ more)).length < fuel →
    ∃ later, more.length < later ∧ streamLoop env entries mapped fuel (.segment index) tally events
          (documents.flatten ++ (terminator ++ more)) =
        streamLoop env entries mapped later .headers (tally.add (.segment index documents))
          (events ++ documents.map (.document (mapped index))) more := by
  induction documents with
  | nil =>
    intro fuel tally events more hfuel
    rcases fuel with _ | fuel
    · omega
    refine ⟨fuel, ?_, ?_⟩
    · simp only [flatten_nil, nil_append, length_append, terminator,
        length_cons, length_nil] at hfuel
      omega
    · rw [flatten_nil, nil_append, streamLoop, readRawFrame_terminator,
        Tally.add_segment_nil, map_nil, append_nil]
      rfl
  | cons doc documents ih =>
    intro fuel tally events more hfuel
    have hdoc := hraw doc mem_cons_self
    have hlater : ∀ later ∈ documents, RawDocument env.bson later :=
      fun later hmem => hraw later (mem_cons_of_mem doc hmem)
    have hcollection : ¬ entries[index]?.any (·.metadata.isView) :=
      fun h => absurd (hview h) (cons_ne_nil _ _)
    rcases fuel with _ | fuel
    · omega
    have hshorter : (documents.flatten ++ (terminator ++ more)).length < fuel := by
      have hleast := hdoc.framed.least
      simp only [flatten_cons, length_append] at hfuel ⊢
      omega
    obtain ⟨later, hlonger, hrun⟩ := @ih hlater (fun h => absurd h hcollection) fuel
      (tally.add (.segment index [doc])) (events ++ [.document (mapped index) doc]) more hshorter
    refine ⟨later, hlonger, ?_⟩
    rw [Tally.add_segment_cons, Tally.add_segment_singleton, append_assoc,
      singleton_append] at hrun
    rw [flatten_cons, append_assoc, streamLoop, readRawFrame_document hdoc, map_cons, ← hrun]
    simp only [Except.bind, if_neg hcollection]

/-- Pieces are read one after the other, whatever follows them. -/
theorem streamLoop_body {bytes : Bytes} {pieces : List Piece} (h : Body env entries bytes pieces) :
    ∀ {fuel : Nat} {tally : Tally} {events : List StreamEvent} {more : Bytes},
    (bytes ++ more).length < fuel → tally.AllowsAll env entries pieces →
    ∃ later, more.length < later ∧
      streamLoop env entries mapped fuel .headers tally events (bytes ++ more) =
        streamLoop env entries mapped later .headers (tally.addAll pieces)
          (events ++ pieces.flatMap (Piece.events mapped)) more := by
  induction h with
  | nil =>
    intro fuel tally events more hfuel _
    exact ⟨fuel, hfuel, by simp [Tally.addAll]⟩
  | @segment index header rest documents pieces hheader hdocuments _ ih =>
    intro fuel tally events more hfuel hallows
    obtain ⟨⟨hopen, hview⟩, hallows⟩ := hallows
    have hleast := hheader.raw.framed.least
    rcases fuel with _ | fuel
    · omega
    simp only [append_assoc] at hfuel ⊢
    rw [length_append] at hfuel
    rw [streamLoop_header hheader hopen fun _ => rfl]
    obtain ⟨later, hlater, hsegment⟩ := @streamLoop_segment env entries mapped documents
      hdocuments index hview fuel tally events (rest ++ more) (by omega)
    obtain ⟨last, hlast, hrest⟩ := @ih later (tally.add (.segment index documents))
      (events ++ documents.map (.document (mapped index))) more hlater hallows
    refine ⟨last, hlast, hsegment.trans (hrest.trans ?_)⟩
    simp [Piece.events]
  | @eof index checksum header rest pieces hheader _ ih =>
    intro fuel tally events more hfuel hallows
    obtain ⟨⟨hopen, hchecksum⟩, hallows⟩ := hallows
    have hleast := hheader.raw.framed.least
    rcases fuel with _ | fuel
    · omega
    simp only [append_assoc] at hfuel ⊢
    rw [length_append] at hfuel
    rw [streamLoop_header hheader hopen (fun h => absurd h (by decide))]
    rcases fuel with _ | fuel
    · omega
    have hshorter : (rest ++ more).length < fuel := by
      rw [length_append] at hfuel
      simp only [terminator, length_cons, length_nil] at hfuel
      omega
    obtain ⟨last, hlast, hrest⟩ := @ih fuel (tally.add (.eof index checksum))
      (events ++ [.endOf (mapped index)]) more hshorter hallows
    refine ⟨last, hlast, ?_⟩
    rw [if_pos rfl, streamLoop, readFrame_terminator]
    simp only [Except.bind, ne_eq, not_true_eq_false, ↓reduceIte, hchecksum]
    refine hrest.trans ?_
    simp [Piece.events]

/-- What is read from a place on: pieces, the first of which may have been read in part. -/
inductive ReadsOn (env : ArchiveEnv) (entries : List PreparedCollection) :
    StreamMode → Tally → Bytes → List Piece → Prop
  | headers {tally : Tally} {bytes : Bytes} {pieces : List Piece}
      (hbody : Body env entries bytes pieces) (hallows : tally.AllowsAll env entries pieces) :
      ReadsOn env entries .headers tally bytes pieces
  | segment {tally : Tally} {index : Nat} {documents : List Bytes} {rest : Bytes}
      {pieces : List Piece} (hdocuments : ∀ doc ∈ documents, RawDocument env.bson doc)
      (hview : IsView entries index → documents = [])
      (hbody : Body env entries rest pieces)
      (hallows : (tally.add (.segment index documents)).AllowsAll env entries pieces) :
      ReadsOn env entries (.segment index) tally (documents.flatten ++ (terminator ++ rest))
        (.segment index documents :: pieces)
  | eof {tally : Tally} {index : Nat} {checksum : UInt64} {rest : Bytes} {pieces : List Piece}
      (hchecksum : env.crc (tally.digests index) = checksum)
      (hbody : Body env entries rest pieces)
      (hallows : (tally.add (.eof index checksum)).AllowsAll env entries pieces) :
      ReadsOn env entries (.eof index checksum) tally (terminator ++ rest)
        (.eof index checksum :: pieces)

private theorem headerFor_of_streamHeader {tally : Tally} {doc : Document} {mode : StreamMode}
    (h : streamHeader entries tally doc = .ok mode) (hraw : RawDocument env.bson header)
    (hdoc : env.bson.fromSlice header = .ok doc) :
    (∃ index, mode = .segment index ∧ tally.finished index = false ∧
      HeaderFor env entries index false 0 header) ∨
    ∃ index checksum, mode = .eof index checksum ∧ tally.finished index = false ∧
      HeaderFor env entries index true checksum header := by
  obtain ⟨database, hdb, h⟩ := bind_eq_ok_iff.mp h
  obtain ⟨collection, hcollection, h⟩ := bind_eq_ok_iff.mp h
  have hstring : ∀ {key : String} {text : Text}, string doc key = .ok text →
      doc.getStr key.toList = some text := by
    intro key text hkey
    rw [string] at hkey
    split at hkey
    · next found hfound => rw [hfound, Except.ok.inj hkey]
    · cases hkey
  obtain ⟨hknown, h⟩ := guard_eq_ok_iff.mp h
  obtain ⟨hopen, h⟩ := guard_eq_ok_iff.mp h
  have hfinished := Bool.not_eq_true _ ▸ hopen
  split at h
  · cases h
  · cases h
  · next checksum heof hcrc =>
    cases h
    exact .inr ⟨_, checksum, rfl, hfinished, hraw, Nat.lt_of_not_le hknown, doc, database,
      collection, hdoc, hstring hdb, hstring hcollection, rfl, heof, hcrc⟩
  · next checksum heof hcrc =>
    obtain ⟨hzero, h⟩ := guard_eq_ok_iff.mp h
    cases h
    obtain rfl := not_not.mp hzero
    exact .inl ⟨_, rfl, hfinished, hraw, Nat.lt_of_not_le hknown, doc, database, collection,
      hdoc, hstring hdb, hstring hcollection, rfl, heof, hcrc⟩

/-- What a frame that is read and decoded was. -/
theorem readFrame_ok {bytes rest : Bytes} {frame : Frame}
    (h : readFrame env.bson bytes = .ok (frame, rest)) :
    readRawFrame env.bson bytes = .ok (frame, rest) := by
  obtain ⟨⟨other, left⟩, hraw, h⟩ := bind_eq_ok_iff.mp h
  dsimp only at h
  split at h
  · split at h
    · cases h
    · rw [hraw, h]
  · rw [hraw, h]

/-- **What is accepted is pieces.** -/
theorem reads_of_streamLoop (fuel : Nat) : ∀ {mode : StreamMode} {tally : Tally}
    {events result : List StreamEvent} {bytes : Bytes},
    streamLoop env entries mapped fuel mode tally events bytes = .ok result →
    ∃ pieces, ReadsOn env entries mode tally bytes pieces ∧
      (tally.addAll pieces).Complete entries.length ∧
      result = events ++ pieces.flatMap (Piece.events mapped) := by
  induction fuel with
  | zero =>
    intro mode tally events result bytes h
    cases h
  | succ fuel ih =>
    intro mode tally events result bytes h
    cases mode with
    | headers =>
      rw [streamLoop, bind_eq_ok_iff] at h
      obtain ⟨⟨frame, rest⟩, hread, h⟩ := h
      dsimp only at h
      split at h
      · next hend =>
        subst hend
        rcases readRawFrame_ok (readFrame_ok hread) with ⟨-, rfl, -⟩ | ⟨hframe, -⟩ | ⟨_, hframe, -⟩
        · split at h
          · cases h
          · next hnone =>
            cases h
            refine ⟨[], .headers .nil trivial, ?_, by simp⟩
            intro index hindex
            simpa [Tally.addAll] using find?_eq_none.mp hnone index (mem_range.mpr hindex)
        · cases hframe
        · cases hframe
      · next hend =>
        obtain ⟨doc, hdoc, h⟩ := bind_eq_ok_iff.mp h
        obtain ⟨mode, hmode, h⟩ := bind_eq_ok_iff.mp h
        obtain ⟨pieces, hreads, hcomplete, rfl⟩ := ih h
        rcases readRawFrame_ok (readFrame_ok hread) with ⟨hframe, -⟩ | ⟨hframe, -⟩ |
          ⟨header, rfl, hraw, rfl⟩
        · exact absurd hframe hend
        · rw [hframe] at hdoc
          cases hdoc
        · refine ⟨pieces, ?_, hcomplete, rfl⟩
          rcases headerFor_of_streamHeader hmode hraw hdoc with
            ⟨index, rfl, hopen, hheader⟩ | ⟨index, checksum, rfl, hopen, hheader⟩
          · cases hreads with
            | segment hdocuments hview hbody hallows =>
              exact .headers (.segment hheader hdocuments hbody) ⟨⟨hopen, hview⟩, hallows⟩
          · cases hreads with
            | eof hchecksum hbody hallows =>
              exact .headers (.eof hheader hbody) ⟨⟨hopen, hchecksum⟩, hallows⟩
    | eof index checksum =>
      rw [streamLoop, bind_eq_ok_iff] at h
      obtain ⟨⟨frame, rest⟩, hread, h⟩ := h
      obtain ⟨hterminator, h⟩ := guard_eq_ok_iff.mp h
      obtain ⟨hchecksum, h⟩ := guard_eq_ok_iff.mp h
      obtain rfl := not_not.mp hterminator
      obtain ⟨pieces, hreads, hcomplete, rfl⟩ := ih h
      cases hreads with
      | headers hbody hallows =>
        rcases readRawFrame_ok (readFrame_ok hread) with ⟨hframe, -⟩ | ⟨-, rfl⟩ | ⟨_, hframe, -⟩
        · cases hframe
        · refine ⟨_, .eof (not_not.mp hchecksum) hbody hallows, hcomplete, ?_⟩
          simp [Piece.events]
        · cases hframe
    | segment index =>
      rw [streamLoop, bind_eq_ok_iff] at h
      obtain ⟨⟨frame, rest⟩, hread, h⟩ := h
      rcases readRawFrame_ok hread with ⟨rfl, -⟩ | ⟨rfl, rfl⟩ | ⟨doc, rfl, hraw, rfl⟩
      · cases h
      · obtain ⟨pieces, hreads, hcomplete, rfl⟩ := ih h
        cases hreads with
        | headers hbody hallows =>
          refine ⟨.segment index [] :: pieces, ?_, ?_, ?_⟩
          · rw [← nil_append (terminator ++ rest), ← flatten_nil]
            exact .segment (forall_mem_nil _) (fun _ => rfl) hbody (by rwa [Tally.add_segment_nil])
          · rwa [Tally.addAll_cons, Tally.add_segment_nil]
          · simp [Piece.events]
      · dsimp only at h
        obtain ⟨hcollection, h⟩ := guard_eq_ok_iff.mp h
        rw [← Tally.add_segment_singleton] at h
        obtain ⟨pieces, hreads, hcomplete, rfl⟩ := ih h
        cases hreads with
        | @segment _ _ documents rest pieces hdocuments hview hbody hallows =>
          rw [Tally.add_segment_cons] at hallows
          rw [Tally.addAll_cons, Tally.add_segment_cons] at hcomplete
          refine ⟨.segment index (doc :: documents) :: pieces, ?_, hcomplete, ?_⟩
          · rw [← append_assoc, ← flatten_cons]
            exact .segment (forall_mem_cons.mpr ⟨hraw, hdocuments⟩)
              (fun h => absurd h hcollection) hbody hallows
          · simp [Piece.events]

end Run

/-! ### One namespace after the other -/

section Order

variable {env : ArchiveEnv} {entries : List PreparedCollection}

/-- The pieces of a namespace. -/
def piecesOf (index : Nat) (pieces : List Piece) : List Piece :=
  pieces.filter (·.index = index)

/-- The pieces of a namespace are segments and one end that has the checksum of all documents; a
namespace that ended has none. -/
def Ordered (env : ArchiveEnv) (entries : List PreparedCollection) (tally : Tally)
    (pieces : List Piece) (index : Nat) : Prop :=
  if tally.finished index then piecesOf index pieces = []
  else ∃ segments : List (List Bytes), piecesOf index pieces = segments.map (.segment index) ++
      [.eof index (env.crc (tally.digests index ++ segments.flatten.flatten))] ∧
    (IsView entries index → segments.flatten = [])

variable {index : Nat} {tally : Tally} {pieces : List Piece}

/-- A piece of another entry. -/
theorem piecesOf_cons_of_ne {piece : Piece} (h : piece.index ≠ index) :
    piecesOf index (piece :: pieces) = piecesOf index pieces := by
  simp [piecesOf, h]

/-- A piece of the entry. -/
theorem piecesOf_cons_self (piece : Piece) :
    piecesOf piece.index (piece :: pieces) = piece :: piecesOf piece.index pieces := by
  simp [piecesOf]

private theorem ordered_cons_of_ne {piece : Piece} (h : piece.index ≠ index) :
    Ordered env entries tally (piece :: pieces) index ↔
      Ordered env entries (tally.add piece) pieces index := by
  have hsame : (tally.add piece).finished index = tally.finished index ∧
      (tally.add piece).digests index = tally.digests index := by
    cases piece with
    | segment other documents => exact ⟨rfl, update_of_ne (Ne.symm h) _ _⟩
    | eof other checksum => exact ⟨update_of_ne (Ne.symm h) _ _, rfl⟩
  rw [Ordered, Ordered, piecesOf_cons_of_ne h, hsame.1, hsame.2]

private theorem ordered_of_finished (h : tally.finished index) :
    Ordered env entries tally pieces index ↔ piecesOf index pieces = [] := by
  rw [Ordered, if_pos h]

/-- An open entry has its segments and then its end. -/
theorem ordered_of_open (h : tally.finished index = false) :
    Ordered env entries tally pieces index ↔
      ∃ segments : List (List Bytes), piecesOf index pieces = segments.map (.segment index) ++
          [.eof index (env.crc (tally.digests index ++ segments.flatten.flatten))] ∧
        (IsView entries index → segments.flatten = []) := by
  rw [Ordered, if_neg (by simp [h])]

private theorem ordered_cons_segment (hopen : tally.finished index = false)
    (documents : List Bytes) :
    Ordered env entries tally (.segment index documents :: pieces) index ↔
      (IsView entries index → documents = []) ∧
        Ordered env entries (tally.add (.segment index documents)) pieces index := by
  have hself : piecesOf index (.segment index documents :: pieces) =
      .segment index documents :: piecesOf index pieces := piecesOf_cons_self _
  have hstill : (tally.add (.segment index documents)).finished index = false := hopen
  have hdigest : (tally.add (.segment index documents)).digests index =
      tally.digests index ++ documents.flatten := update_self _ _ _
  rw [ordered_of_open hopen, ordered_of_open hstill, hdigest]
  constructor
  · rintro ⟨segments, hpieces, hview⟩
    rw [hself] at hpieces
    rcases segments with _ | ⟨first, segments⟩
    · cases hpieces
    simp only [map_cons, cons_append, cons.injEq, Piece.segment.injEq, true_and,
      flatten_cons, flatten_append] at hpieces
    obtain ⟨rfl, hpieces⟩ := hpieces
    have hboth : IsView entries index → documents = [] ∧ segments.flatten = [] :=
      fun h => append_eq_nil_iff.mp (hview h)
    refine ⟨fun h => (hboth h).1, segments, ?_, fun h => (hboth h).2⟩
    rw [append_assoc]
    exact hpieces
  · rintro ⟨hdocuments, segments, hpieces, hview⟩
    refine ⟨documents :: segments, ?_, ?_⟩
    · rw [hself, hpieces, append_assoc, flatten_cons, flatten_append]
      rfl
    · intro h
      rw [flatten_cons, hdocuments h, hview h, nil_append]

private theorem ordered_cons_eof (hopen : tally.finished index = false) (checksum : UInt64) :
    Ordered env entries tally (.eof index checksum :: pieces) index ↔
      env.crc (tally.digests index) = checksum ∧
        Ordered env entries (tally.add (.eof index checksum)) pieces index := by
  have hself : piecesOf index (.eof index checksum :: pieces) =
      .eof index checksum :: piecesOf index pieces := piecesOf_cons_self _
  have hended : (tally.add (.eof index checksum)).finished index := update_self _ _ _
  rw [ordered_of_open hopen, ordered_of_finished hended]
  constructor
  · rintro ⟨segments, hpieces, -⟩
    rw [hself] at hpieces
    cases segments with
    | cons first segments => cases hpieces
    | nil =>
      simp only [map_nil, nil_append, cons.injEq, Piece.eof.injEq, true_and,
        flatten_nil, append_nil] at hpieces
      exact ⟨hpieces.1.symm, hpieces.2⟩
  · rintro ⟨rfl, hpieces⟩
    refine ⟨[], ?_, fun _ => rfl⟩
    rw [hself, hpieces, flatten_nil, flatten_nil, append_nil]
    rfl

private theorem ordered_cons_self (piece : Piece) :
    Ordered env entries tally (piece :: pieces) piece.index ↔ tally.Allows env entries piece ∧
        Ordered env entries (tally.add piece) pieces piece.index := by
  cases hfinished : tally.finished piece.index with
  | true =>
    have hnot : ¬ tally.Allows env entries piece := by
      cases piece <;> exact fun h => absurd (h.1.symm.trans hfinished) Bool.false_ne_true
    rw [ordered_of_finished hfinished, piecesOf_cons_self]
    simp [hnot]
  | false =>
    cases piece with
    | segment index documents =>
      rw [Tally.Allows, and_assoc]
      exact (ordered_cons_segment hfinished documents).trans (and_iff_right hfinished).symm
    | eof index checksum =>
      rw [Tally.Allows, and_assoc]
      exact (ordered_cons_eof hfinished checksum).trans (and_iff_right hfinished).symm

/-- **Pieces are accepted whole exactly if each namespace is in order.** -/
theorem allowsAll_complete_iff : ∀ {tally : Tally},
    (∀ piece ∈ pieces, piece.index < entries.length) →
    (tally.AllowsAll env entries pieces ∧ (tally.addAll pieces).Complete entries.length ↔
      ∀ index < entries.length, Ordered env entries tally pieces index) := by
  induction pieces with
  | nil =>
    intro tally _
    have hnone : ∀ index, Ordered env entries tally [] index ↔ tally.finished index := by
      intro index
      rw [Ordered]
      cases tally.finished index <;> simp [piecesOf]
    simp only [Tally.AllowsAll, true_and, Tally.addAll, foldl_nil, Tally.Complete, hnone]
  | cons piece pieces ih =>
    intro tally hindexes
    obtain ⟨hpiece, hpieces⟩ := forall_mem_cons.mp hindexes
    rw [Tally.AllowsAll, Tally.addAll_cons, and_assoc, ih hpieces]
    constructor
    · rintro ⟨hallows, hordered⟩ index hindex
      by_cases hsame : piece.index = index
      · subst hsame
        exact (ordered_cons_self piece).mpr ⟨hallows, hordered _ hindex⟩
      · exact (ordered_cons_of_ne hsame).mpr (hordered index hindex)
    · intro hordered
      obtain ⟨hallows, hself⟩ := (ordered_cons_self piece).mp (hordered _ hpiece)
      refine ⟨hallows, ?_⟩
      intro index hindex
      by_cases hsame : piece.index = index
      · subst hsame
        exact hself
      · exact (ordered_cons_of_ne hsame).mp (hordered index hindex)

end Order

end DbxSpec.Mongo
