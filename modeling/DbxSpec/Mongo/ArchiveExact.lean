import DbxSpec.Mongo.ArchivePrelude

/-!
# Archives that are accepted

For any bytes that `stream` accepts: every namespace of the prelude has its documents and then one
end, the documents have the checksum that the end says, and no shorter start of the bytes is
accepted.
-/

namespace DbxSpec.Mongo

open DbxSpec.Base List

variable {env : ArchiveEnv}

/-! ### Events of a namespace -/

namespace StreamEvent

/-- The entry of an event. -/
def index : StreamEvent → Nat
  | document index _ | endOf index => index

end StreamEvent

/-- The events of an index. -/
def eventsOf (index : Nat) (events : List StreamEvent) : List StreamEvent :=
  events.filter (·.index = index)

variable {mapped : Nat → Nat}

/-- The events of a piece are of its entry. -/
theorem events_index {piece : Piece} {event : StreamEvent} (h : event ∈ piece.events mapped) :
    event.index = mapped piece.index := by
  cases piece with
  | segment index documents =>
    obtain ⟨doc, -, rfl⟩ := mem_map.mp h
    rfl
  | eof index checksum =>
    obtain rfl := mem_singleton.mp h
    rfl

/-- The events of a namespace are those of its pieces. -/
theorem eventsOf_flatMap {count index : Nat}
    (hmapped : ∀ other < count, mapped other = mapped index → other = index) :
    ∀ {pieces : List Piece}, (∀ piece ∈ pieces, piece.index < count) →
    eventsOf (mapped index) (pieces.flatMap (Piece.events mapped)) =
      (piecesOf index pieces).flatMap (Piece.events mapped) := by
  intro pieces
  induction pieces with
  | nil =>
    intro _
    rfl
  | cons piece pieces ih =>
    intro hpieces
    obtain ⟨hpiece, hlater⟩ := forall_mem_cons.mp hpieces
    rw [flatMap_cons, eventsOf, filter_append, ← eventsOf, ← eventsOf, ih hlater]
    by_cases hsame : piece.index = index
    · subst hsame
      have hall : eventsOf (mapped piece.index) (piece.events mapped) = piece.events mapped := by
        rw [eventsOf, filter_eq_self]
        intro event hevent
        rw [events_index hevent, decide_eq_true_eq]
      rw [hall, piecesOf_cons_self, flatMap_cons]
    · have hnone : eventsOf (mapped index) (piece.events mapped) = [] := by
        rw [eventsOf, filter_eq_nil_iff]
        intro event hevent
        rw [events_index hevent, decide_eq_true_eq]
        exact fun heq => hsame (hmapped _ hpiece heq)
      rw [hnone, piecesOf_cons_of_ne hsame, nil_append]

/-- The events of an entry: its documents and its end. -/
theorem flatMap_events_segments (mapped : Nat → Nat) (index : Nat) (checksum : UInt64)
    (segments : List (List Bytes)) :
    (segments.map (Piece.segment index) ++ [Piece.eof index checksum]).flatMap
      (Piece.events mapped) =
      segments.flatten.map (.document (mapped index)) ++ [.endOf (mapped index)] := by
  induction segments with
  | nil => rfl
  | cons documents segments ih =>
    rw [map_cons, cons_append, flatMap_cons, ih, flatten_cons, map_append, append_assoc]
    rfl

/-! ### What is accepted -/

variable {expected entries : List PreparedCollection} {events : List StreamEvent}

/-- The steps of `stream`. -/
theorem stream_ok_iff {bytes : Bytes} : stream env expected bytes = .ok events ↔
      ∃ entries data mapped, inspect env bytes = .ok (entries, data) ∧
        entries.length = expected.length ∧ entries.mapM (mapEntry env expected) = .ok mapped ∧
        streamLoop env entries (mapped.getD · 0) (data.length + 1) .headers .start [] data =
          .ok events := by
  rw [stream, bind_eq_ok_iff]
  constructor
  · rintro ⟨⟨entries, data⟩, hinspect, h⟩
    obtain ⟨hlength, h⟩ := guard_eq_ok_iff.mp h
    obtain ⟨mapped, hmapped, h⟩ := bind_eq_ok_iff.mp h
    exact ⟨entries, data, mapped, hinspect, not_not.mp hlength, hmapped, h⟩
  · rintro ⟨entries, data, mapped, hinspect, hlength, hmapped, h⟩
    exact ⟨(entries, data), hinspect, guard_eq_ok_iff.mpr ⟨not_not.mpr hlength,
      bind_eq_ok_iff.mpr ⟨mapped, hmapped, h⟩⟩⟩

/-- Pieces in order are what the data of an archive is. -/
theorem streamLoop_ok_iff {data : Bytes} :
    streamLoop env entries mapped (data.length + 1) .headers .start [] data = .ok events ↔
      ∃ pieces, Body env entries data pieces ∧
        (∀ index < entries.length, Ordered env entries .start pieces index) ∧
        events = pieces.flatMap (Piece.events mapped) := by
  constructor
  · intro h
    obtain ⟨pieces, hreads, hcomplete, rfl⟩ := reads_of_streamLoop _ h
    cases hreads with
    | headers hbody hallows =>
      exact ⟨pieces, hbody, (allowsAll_complete_iff hbody.index_lt).mp ⟨hallows, hcomplete⟩, rfl⟩
  · rintro ⟨pieces, hbody, hordered, rfl⟩
    obtain ⟨hallows, hcomplete⟩ := (allowsAll_complete_iff hbody.index_lt).mpr hordered
    obtain ⟨later, hlater, hrun⟩ := @streamLoop_body env entries mapped data pieces hbody
      (data.length + 1) .start [] [] (by simp) hallows
    rw [append_nil, nil_append] at hrun
    rw [hrun]
    rcases later with _ | later
    · cases hlater
    have hnone : (range entries.length).find?
        (!(Tally.start.addAll pieces).finished ·) = none := by
      rw [find?_eq_none]
      intro index hindex
      simp [hcomplete index (mem_range.mp hindex)]
    rw [streamLoop]
    simp only [readFrame, readRawFrame, Except.bind, ↓reduceIte, hnone]

private theorem mapEntry_ok {entry : PreparedCollection} {index : Nat}
    (h : mapEntry env expected entry = .ok index) :
    ∃ other, expected[index]? = some other ∧ other.namespace = entry.namespace := by
  rw [mapEntry] at h
  split at h
  · cases h
  · next other hother =>
    obtain ⟨otherJson, -, h⟩ := bind_eq_ok_iff.mp h
    obtain ⟨json, -, h⟩ := bind_eq_ok_iff.mp h
    obtain ⟨-, h⟩ := guard_eq_ok_iff.mp h
    cases h
    obtain ⟨hindex, hsome⟩ := List.getElem?_eq_some_iff.mp hother
    refine ⟨other, hother, ?_⟩
    rw [← hsome]
    simpa using findIdx_getElem (p := fun other : PreparedCollection =>
      decide (other.namespace = entry.namespace)) (w := hindex)

/-- Different entries are found in different places. -/
theorem mapped_injective {mapped : List Nat}
    (hmapped : entries.mapM (mapEntry env expected) = .ok mapped)
    (hnodup : (entries.map PreparedCollection.namespace).Nodup) {index : Nat}
    (hindex : index < entries.length) :
    ∀ other < entries.length, mapped.getD other 0 = mapped.getD index 0 → other = index := by
  have hfound : ∀ i < entries.length, ∃ entry found, entries[i]? = some entry ∧
      expected[mapped.getD i 0]? = some found ∧ found.namespace = entry.namespace := by
    intro i hi
    obtain ⟨j, hj, hentry⟩ := getElem?_of_forall₂ (mapM_eq_ok_iff.mp hmapped)
      (getElem?_eq_getElem hi)
    obtain ⟨found, hsome, hsame⟩ := mapEntry_ok hentry
    refine ⟨entries[i], found, getElem?_eq_getElem hi, ?_, hsame⟩
    rw [getD_eq_getElem?_getD, hj]
    exact hsome
  intro other hother heq
  obtain ⟨first, found, hfirst, hplace, hsame⟩ := hfound other hother
  obtain ⟨second, again, hsecond, hagain, hagainSame⟩ := hfound index hindex
  rw [heq, hagain, Option.some.injEq] at hplace
  have hnamespaces : (entries.map PreparedCollection.namespace)[other]? =
      (entries.map PreparedCollection.namespace)[index]? := by
    rw [getElem?_map, getElem?_map, hfirst, hsecond, Option.map_some, Option.map_some,
      ← hsame, ← hagainSame, hplace]
  exact (getElem?_inj (by simpa using hother) hnodup).mp hnamespaces

/-- Every namespace of the prelude has its documents and then one end, and they have the checksum
that the header of the end says. -/
def AcceptedExactly (env : ArchiveEnv) (expected : List PreparedCollection) (bytes : Bytes)
    (events : List StreamEvent) : Prop :=
  ∃ entries data pieces, ∃ mapped : Nat → Nat, inspect env bytes = .ok (entries, data) ∧
    Body env entries data pieces ∧
    ∀ index entry, entries[index]? = some entry →
      (∃ other, expected[mapped index]? = some other ∧
        other.namespace = entry.namespace) ∧
      ∃ segments : List (List Bytes),
        piecesOf index pieces = segments.map (.segment index) ++
          [.eof index (env.crc segments.flatten.flatten)] ∧
        eventsOf (mapped index) events =
          segments.flatten.map (.document (mapped index)) ++ [.endOf (mapped index)]

/-- What is accepted is an archive of the entries. -/
theorem acceptedExactly_of_stream {bytes : Bytes} (h : stream env expected bytes = .ok events) :
    AcceptedExactly env expected bytes events := by
  obtain ⟨entries, data, mapped, hinspect, -, hmapped, hloop⟩ := stream_ok_iff.mp h
  obtain ⟨pieces, hbody, hordered, rfl⟩ := streamLoop_ok_iff.mp hloop
  refine ⟨entries, data, pieces, (mapped.getD · 0), hinspect, hbody, ?_⟩
  intro index entry hentry
  obtain ⟨hindex, -⟩ := List.getElem?_eq_some_iff.mp hentry
  constructor
  · obtain ⟨place, hplace, hmap⟩ := getElem?_of_forall₂ (mapM_eq_ok_iff.mp hmapped) hentry
    dsimp only
    rw [getD_eq_getElem?_getD, hplace]
    exact mapEntry_ok hmap
  · obtain ⟨segments, hpieces, -⟩ := (ordered_of_open rfl).mp (hordered index hindex)
    refine ⟨segments, hpieces, ?_⟩
    rw [eventsOf_flatMap (mapped_injective hmapped (nodup_of_inspect hinspect) hindex)
      hbody.index_lt, hpieces, flatMap_events_segments]

/-! ### No shorter start is accepted -/

private theorem eq_nil_of_complete {fuel : Nat} {tally : Tally} {result : List StreamEvent}
    {more : Bytes} (hcomplete : tally.Complete entries.length)
    (h : streamLoop env entries mapped fuel .headers tally events more = .ok result) :
    more = [] := by
  obtain ⟨pieces, hreads, -, -⟩ := reads_of_streamLoop _ h
  cases hreads with
  | headers hbody hallows =>
    cases pieces with
    | nil =>
      cases hbody
      rfl
    | cons piece pieces =>
      have hended := hcomplete piece.index (hbody.index_lt piece mem_cons_self)
      cases piece with
      | segment index documents
      | eof index checksum => exact absurd (hallows.1.1.symm.trans hended) Bool.false_ne_true

/-- Nothing may follow an accepted archive. -/
theorem eq_nil_of_stream_append {bytes more : Bytes} {later : List StreamEvent}
    (h : stream env expected bytes = .ok events)
    (hmore : stream env expected (bytes ++ more) = .ok later) : more = [] := by
  obtain ⟨entries, data, mapped, hinspect, -, hmapped, hloop⟩ := stream_ok_iff.mp h
  obtain ⟨others, rest, again, hagain, -, hmappedAgain, hloopAgain⟩ := stream_ok_iff.mp hmore
  rw [inspect_append hinspect more] at hagain
  cases hagain
  obtain ⟨pieces, hbody, hordered, -⟩ := streamLoop_ok_iff.mp hloop
  obtain ⟨hallows, hcomplete⟩ := (allowsAll_complete_iff hbody.index_lt).mpr hordered
  obtain ⟨fuel, -, hrun⟩ := @streamLoop_body env entries (again.getD · 0) data pieces hbody
    ((data ++ more).length + 1) .start [] more (Nat.lt_succ_self _) hallows
  rw [hrun] at hloopAgain
  exact eq_nil_of_complete hcomplete hloopAgain

end DbxSpec.Mongo
