import DbxSpec.Base.Fallible

/-!
# Frames of BSON documents

`read_raw_frame` and `read_frame` of
`crates/dbx-core/src/data/mongodb_dump/archive.rs:23-54`. A reader is what is left to be read. How
documents are encoded is taken from elsewhere: what was encoded starts with its length and is
decoded to the same document.
-/

namespace DbxSpec.Mongo

open DbxSpec.Base

/-- What a file holds, or what is left of it. -/
abbrev Bytes := List UInt8

/-! ### Documents -/

/-- Values of the documents that an archive has besides its data. -/
inductive BsonValue
  | string (text : Text)
  | bool (value : Bool)
  | int32 (value : UInt32)
  /-- The bits of an `i64`; `as u64` and `as i64` keep them. -/
  | int64 (value : UInt64)
  | document (bytes : Bytes)
  | other (bytes : Bytes)
  deriving DecidableEq, Repr

/-- A document is its fields. -/
abbrev Document := List (Text × BsonValue)

variable (doc : Document)

namespace Document

/-- `Document::get_str`. -/
def getStr (key : Text) : Option Text :=
  match doc.lookup key with
  | some (.string text) => some text
  | _ => none

/-- `Document::get_bool`. -/
def getBool (key : Text) : Option Bool :=
  match doc.lookup key with
  | some (.bool value) => some value
  | _ => none

/-- `Document::get_i64`. -/
def getI64 (key : Text) : Option UInt64 :=
  match doc.lookup key with
  | some (.int64 value) => some value
  | _ => none

/-- The encoding of a document in a field. -/
def getDocument (key : Text) : Option Bytes :=
  match doc.lookup key with
  | some (.document bytes) => some bytes
  | _ => none

/-- `Document::contains_key`. -/
def containsKey (key : Text) : Bool := (doc.lookup key).isSome

end Document

/-- `archive.rs:15`. -/
def maxDocument : Nat := 16 * 1024 * 1024

/-- The value of `u32::from_le_bytes`. -/
def fromLeBytes (b0 b1 b2 b3 : UInt8) : Nat :=
  b0.toNat + 256 * b1.toNat + 65536 * b2.toNat + 16777216 * b3.toNat

/-- Bytes that start with their number, which is one that is read. -/
structure Framed (bytes : Bytes) : Prop where
  header : ∃ b0 b1 b2 b3 rest, bytes = b0 :: b1 :: b2 :: b3 :: rest ∧
    fromLeBytes b0 b1 b2 b3 = bytes.length
  least : 5 ≤ bytes.length
  most : bytes.length ≤ maxDocument

/-- The encoding of documents. -/
structure Bson where
  /-- `bson::to_vec`. -/
  toVec : Document → Except Text Bytes
  /-- `bson::from_slice`. -/
  fromSlice : Bytes → Except Text Document
  /-- `RawDocument::from_bytes`. -/
  rawDocument : Bytes → Except Text Unit
  framed : ∀ {doc bytes}, toVec doc = .ok bytes → bytes.length ≤ maxDocument → Framed bytes
  fromSlice_toVec : ∀ {doc bytes}, toVec doc = .ok bytes → fromSlice bytes = .ok doc
  rawDocument_toVec : ∀ {doc bytes}, toVec doc = .ok bytes → rawDocument bytes = .ok ()

/-! ### Frames -/

/-- `archive.rs:12`. -/
def terminator : Bytes := [255, 255, 255, 255]

/-- `archive.rs:17`. -/
inductive Frame
  | endOfInput
  | terminator
  | document (bytes : Bytes)
  deriving DecidableEq, Repr

/-- The text of the `i32` with these bits. -/
def showI32 (bits : Nat) : Text :=
  (toString (if bits < 2 ^ 31 then (bits : Int) else (bits : Int) - 2 ^ 32)).toList

section

variable (bson : Bson)

/-- `archive.rs:31`: a frame and what is left after it. -/
def readRawFrame : Bytes → Except Text (Frame × Bytes)
  | [] => .ok (.endOfInput, [])
  | b0 :: b1 :: b2 :: b3 :: rest =>
    if [b0, b1, b2, b3] = terminator then .ok (.terminator, rest)
    else
      let length := fromLeBytes b0 b1 b2 b3
      if ¬ (5 ≤ length ∧ length ≤ maxDocument) then
        .error ("Invalid BSON frame length: " ++ showI32 length)
      else if rest.length < length - 4 then
        .error "Truncated BSON document: failed to fill whole buffer"
      else
        let bytes := b0 :: b1 :: b2 :: b3 :: rest.take (length - 4)
        match bson.rawDocument bytes with
        | .error e => .error ("Invalid BSON document: " ++ e)
        | .ok _ => .ok (.document bytes, rest.drop (length - 4))
  | _ => .error "Truncated BSON header: failed to fill whole buffer"

/-- `archive.rs:23`. -/
def readFrame (bytes : Bytes) : Except Text (Frame × Bytes) :=
  (readRawFrame bson bytes).bind fun read =>
    match read.1 with
    | .document document =>
      match bson.fromSlice document with
      | .error e => .error ("Invalid BSON document: " ++ e)
      | .ok _ => .ok read
    | _ => .ok read

/-- `archive.rs:56`. -/
def document : Frame → Except Text Document
  | .document bytes => bson.fromSlice bytes
  | _ => .error "Expected an archive BSON header"

/-- `archive.rs:67`. -/
def writeDocument (doc : Document) : Except Text Bytes :=
  (bson.toVec doc).bind fun bytes =>
    if maxDocument < bytes.length then
      .error "Archive metadata exceeds the BSON document limit"
    else .ok bytes

end

/-- `archive.rs:63`. -/
def string (key : String) : Except Text Text :=
  match doc.getStr key.toList with
  | some text => .ok text
  | none => .error ("Archive header is missing " ++ key.toList)

/-! ### What frames are read -/

section

variable {bson : Bson}

/-- A document that is read as it is. -/
structure RawDocument (bson : Bson) (bytes : Bytes) : Prop where
  framed : Framed bytes
  raw : bson.rawDocument bytes = .ok ()

/-- A terminator is told apart. -/
@[simp] theorem readRawFrame_terminator (rest : Bytes) :
    readRawFrame bson (terminator ++ rest) = .ok (.terminator, rest) := rfl

/-- A document is read as it is. -/
theorem readRawFrame_document {bytes : Bytes} (h : RawDocument bson bytes) (rest : Bytes) :
    readRawFrame bson (bytes ++ rest) = .ok (.document bytes, rest) := by
  obtain ⟨⟨⟨b0, b1, b2, b3, tail, rfl, hlength⟩, hleast, hmost⟩, hraw⟩ := h
  have htail : fromLeBytes b0 b1 b2 b3 - 4 = tail.length := by
    rw [hlength]
    simp only [List.length_cons]
    omega
  have hnot : [b0, b1, b2, b3] ≠ terminator := by
    intro heq
    obtain ⟨rfl, rfl, rfl, rfl⟩ := heq
    rw [← hlength] at hmost
    exact absurd hmost (by decide)
  simp only [List.cons_append, readRawFrame]
  rw [if_neg hnot, if_neg (by rw [hlength]; exact not_not.mpr ⟨hleast, hmost⟩), htail,
    if_neg (by rw [List.length_append]; omega), List.take_left, hraw, List.drop_left]

/-- All that can be read. -/
theorem readRawFrame_ok {bytes rest : Bytes} {frame : Frame}
    (h : readRawFrame bson bytes = .ok (frame, rest)) :
    (frame = .endOfInput ∧ bytes = [] ∧ rest = []) ∨
    (frame = .terminator ∧ bytes = terminator ++ rest) ∨
    ∃ doc, frame = .document doc ∧ RawDocument bson doc ∧ bytes = doc ++ rest := by
  match bytes with
  | [] =>
    cases h
    exact .inl ⟨rfl, rfl, rfl⟩
  | [_] | [_, _] | [_, _, _] => cases h
  | b0 :: b1 :: b2 :: b3 :: tail =>
    right
    rw [readRawFrame] at h
    split at h
    · next hterminator =>
      cases h
      exact .inl ⟨rfl, by rw [← hterminator]; rfl⟩
    · right
      obtain ⟨hlimits, h⟩ := guard_eq_ok_iff.mp h
      obtain ⟨hlength, h⟩ := guard_eq_ok_iff.mp h
      dsimp only at h
      split at h
      · cases h
      · next hraw =>
        cases h
        obtain ⟨hleast, hmost⟩ := not_not.mp hlimits
        have hsize : (b0 :: b1 :: b2 :: b3 ::
            tail.take (fromLeBytes b0 b1 b2 b3 - 4)).length = fromLeBytes b0 b1 b2 b3 := by
          simp only [List.length_cons, List.length_take]
          omega
        refine ⟨_, rfl, ⟨⟨⟨b0, b1, b2, b3, _, rfl, hsize.symm⟩, ?_, ?_⟩, hraw⟩, ?_⟩
        · rw [hsize]
          exact hleast
        · rw [hsize]
          exact hmost
        · simp only [List.cons_append, List.take_append_drop]

end

end DbxSpec.Mongo
