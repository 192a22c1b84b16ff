import DbxSpec.Mongo.Archive

/-!
# Plain documents and metadata

BSON of documents with ASCII texts, canonical extended JSON of metadata that has at most one option,
and CRC-64/XZ: an environment in which archives can be written and read as the code does it.
-/

namespace DbxSpec.Mongo

open DbxSpec.Base List

/-! ### BSON -/

/-- The last bytes of a number, the lowest first. -/
def leBytes : Nat → Nat → Bytes
  | 0, _ => []
  | width + 1, value => .ofNat value :: leBytes width (value / 256)

/-- The number with some bytes. -/
def ofLeBytes : Bytes → Nat
  | [] => 0
  | byte :: bytes => byte.toNat + 256 * ofLeBytes bytes

/-- So many bytes as were asked for. -/
@[simp] theorem length_leBytes (width value : Nat) :
    (leBytes width value).length = width := by
  induction width generalizing value with
  | zero => rfl
  | succ width ih => rw [leBytes, length_cons, ih]

private theorem ofLeBytes_leBytes {width : Nat} :
    ∀ {value : Nat}, value < 256 ^ width → ofLeBytes (leBytes width value) = value := by
  induction width with
  | zero =>
    intro value h
    exact (Nat.lt_one_iff.mp h).symm
  | succ width ih =>
    intro value h
    rw [Nat.pow_succ] at h
    rw [leBytes, ofLeBytes, ih (Nat.div_lt_of_lt_mul (by omega)), UInt8.toNat_ofNat']
    omega

/-- Texts of ASCII without NUL. -/
def isPlain (text : Text) : Bool := text.all fun ch => 0 < ch.toNat ∧ ch.toNat < 128

private theorem isPlain_iff {text : Text} :
    isPlain text ↔ ∀ ch ∈ text, 0 < ch.toNat ∧ ch.toNat < 128 := by
  simp only [isPlain, all_eq_true, decide_eq_true_eq]

/-- A plain text has one byte for each character. -/
theorem utf8Len_of_isPlain {text : Text} (h : isPlain text) : utf8Len text = text.length := by
  have hone : ∀ ch ∈ text, ch.utf8Size = 1 := by
    intro ch hch
    have hval : ch.val ≤ 0x7f :=
      UInt32.le_iff_toNat_le.mpr (Nat.le_of_lt_succ (isPlain_iff.mp h ch hch).2)
    exact if_pos hval
  rw [utf8Len, map_congr_left hone, map_const', sum_replicate_nat, Nat.mul_one]

/-- The bytes of a plain text. -/
def plainBytes (text : Text) : Bytes := text.map fun ch => .ofNat ch.toNat

/-- The plain text with some bytes. -/
def ofPlainBytes (bytes : Bytes) : Text := bytes.map fun byte => .ofNat byte.toNat

private theorem toNat_plainByte {ch : Char} (h : ch.toNat < 128) :
    (UInt8.ofNat ch.toNat).toNat = ch.toNat := by
  rw [UInt8.toNat_ofNat']
  omega

private theorem ofPlainBytes_plainBytes {text : Text} (h : isPlain text) :
    ofPlainBytes (plainBytes text) = text := by
  rw [ofPlainBytes, plainBytes, map_map]
  refine (map_congr_left fun ch hch => ?_).trans (map_id text)
  rw [Function.comp_apply, toNat_plainByte (isPlain_iff.mp h ch hch).2, Char.ofNat_toNat, id]

private theorem ne_zero_of_mem_plainBytes {text : Text} (h : isPlain text) {byte : UInt8}
    (hbyte : byte ∈ plainBytes text) : byte ≠ 0 := by
  obtain ⟨ch, hch, rfl⟩ := mem_map.mp hbyte
  intro hzero
  have hnat := congrArg UInt8.toNat hzero
  rw [toNat_plainByte (isPlain_iff.mp h ch hch).2] at hnat
  exact absurd hnat (isPlain_iff.mp h ch hch).1.ne'

/-- The number of a type. -/
def valueType : BsonValue → UInt8
  | .string _ => 2
  | .document _ => 3
  | .bool _ => 8
  | .int32 _ => 16
  | .int64 _ => 18
  | .other _ => 5

/-- The bytes of a value. -/
def valueBytes : BsonValue → Bytes
  | .string text => leBytes 4 (text.length + 1) ++ (plainBytes text ++ [0])
  | .bool value => [if value then 1 else 0]
  | .int32 value => leBytes 4 value.toNat
  | .int64 value => leBytes 8 value.toNat
  | .document bytes | .other bytes => bytes

/-- The bytes of a field. -/
def fieldBytes (field : Text × BsonValue) : Bytes :=
  valueType field.2 :: (plainBytes field.1 ++ 0 :: valueBytes field.2)

/-- Values with ASCII texts. -/
def isPlainValue : BsonValue → Bool
  | .string text => isPlain text
  | .document _ | .other _ => false
  | _ => true

/-- Fields with ASCII texts. -/
def isPlainField (field : Text × BsonValue) : Bool := isPlain field.1 && isPlainValue field.2

/-- A value of a type, and what is left. -/
def readValue (type : UInt8) (bytes : Bytes) : Option (BsonValue × Bytes) :=
  if type = 2 then
    let length := ofLeBytes (bytes.take 4)
    some (.string (ofPlainBytes ((bytes.drop 4).take (length - 1))), bytes.drop (4 + length))
  else if type = 8 then some (.bool (bytes.head? = some 1), bytes.drop 1)
  else if type = 16 then some (.int32 (.ofNat (ofLeBytes (bytes.take 4))), bytes.drop 4)
  else if type = 18 then some (.int64 (.ofNat (ofLeBytes (bytes.take 8))), bytes.drop 8)
  else none

/-- The fields up to a zero. Every field takes bytes, so the first argument never ends it. -/
def readFields : Nat → Bytes → Option Document
  | fuel + 1, type :: bytes =>
    if type = 0 then some []
    else
      let key := bytes.takeWhile (· ≠ 0)
      (readValue type (bytes.drop (key.length + 1))).bind fun read =>
        (readFields fuel read.2).map ((ofPlainBytes key, read.1) :: ·)
  | _, _ => none

private theorem readValue_valueBytes {value : BsonValue} (h : isPlainValue value)
    (hlength : (valueBytes value).length < 2 ^ 31) (rest : Bytes) :
    readValue (valueType value) (valueBytes value ++ rest) = some (value, rest) := by
  cases value with
  | string text =>
    have hbytes : (plainBytes text).length = text.length := length_map _
    have hshort : text.length + 1 < 256 ^ 4 := by
      simp only [valueBytes, length_append, length_leBytes, hbytes] at hlength
      omega
    have htake : (valueBytes (.string text) ++ rest).take 4 = leBytes 4 (text.length + 1) := by
      rw [valueBytes, append_assoc, take_left' (length_leBytes _ _)]
    have hdrop : (valueBytes (.string text) ++ rest).drop 4 = plainBytes text ++ 0 :: rest := by
      rw [valueBytes, append_assoc, drop_left' (length_leBytes _ _), append_assoc, singleton_append]
    have hrest : (plainBytes text ++ 0 :: rest).drop (text.length + 1) = rest := by
      rw [← drop_drop, drop_left' hbytes, drop_one, tail_cons]
    simp only [readValue, valueType, ↓reduceIte, htake, ofLeBytes_leBytes hshort, ← drop_drop,
      hdrop, Nat.add_sub_cancel, take_left' hbytes, ofPlainBytes_plainBytes h, hrest]
  | bool value => cases value <;> rfl
  | int32 value =>
    have hvalue := @ofLeBytes_leBytes 4 value.toNat value.toNat_lt
    simp [readValue, valueType, valueBytes, take_left' (length_leBytes 4 value.toNat),
      drop_left' (length_leBytes 4 value.toNat), hvalue]
  | int64 value =>
    have hvalue := @ofLeBytes_leBytes 8 value.toNat value.toNat_lt
    simp [readValue, valueType, valueBytes, take_left' (length_leBytes 8 value.toNat),
      drop_left' (length_leBytes 8 value.toNat), hvalue]
  | document bytes | other bytes => cases h

private theorem readFields_fieldBytes {doc : Document} : doc.all isPlainField →
    (doc.flatMap fieldBytes).length < 2 ^ 31 → ∀ {fuel : Nat},
    (doc.flatMap fieldBytes).length < fuel →
    readFields fuel (doc.flatMap fieldBytes ++ [0]) = some doc := by
  induction doc with
  | nil =>
    intro _ _ fuel hfuel
    cases fuel with
    | zero => cases hfuel
    | succ fuel => rfl
  | cons field doc ih =>
    intro hplain hlength fuel hfuel
    rw [all_cons, Bool.and_eq_true] at hplain
    obtain ⟨hfield, hlater⟩ := hplain
    obtain ⟨hkeyPlain, hvalue⟩ := (Bool.and_eq_true _ _).mp hfield
    rcases fuel with _ | fuel
    · cases hfuel
    simp only [flatMap_cons, fieldBytes, length_append, length_cons] at hlength hfuel
    have hkey : ∀ rest, (plainBytes field.1 ++ 0 :: rest).takeWhile (· ≠ 0) =
        plainBytes field.1 := by
      intro rest
      rw [takeWhile_append_of_pos, takeWhile_cons_of_neg (by simp), append_nil]
      intro byte hbyte
      simpa using ne_zero_of_mem_plainBytes hkeyPlain hbyte
    have hrest : ∀ rest, (plainBytes field.1 ++ 0 :: rest).drop ((plainBytes field.1).length + 1) =
        rest := by
      intro rest
      rw [← drop_drop, drop_left, drop_one, tail_cons]
    have htype : valueType field.2 ≠ 0 := by
      cases field.2 <;> simp [valueType]
    simp only [flatMap_cons, fieldBytes, cons_append, append_assoc]
    rw [readFields, if_neg htype]
    simp only [hkey, hrest]
    rw [readValue_valueBytes hvalue (by omega), Option.bind_some,
      ih hlater (by omega) (by omega), ofPlainBytes_plainBytes hkeyPlain, Option.map_some]

/-- The bytes of a document. -/
def documentBytes (doc : Document) : Bytes :=
  leBytes 4 ((doc.flatMap fieldBytes).length + 5) ++ (doc.flatMap fieldBytes ++ [0])

private theorem length_documentBytes (doc : Document) :
    (documentBytes doc).length = (doc.flatMap fieldBytes).length + 5 := by
  simp only [documentBytes, length_append, length_leBytes, length_singleton]
  omega

/-- What `RawDocument::from_bytes` checks. -/
def IsRaw (bytes : Bytes) : Prop :=
  ofLeBytes (bytes.take 4) = bytes.length ∧ bytes.getLast? = some 0

instance (bytes : Bytes) : Decidable (IsRaw bytes) :=
  inferInstanceAs (Decidable (_ ∧ _))

/-- Documents with a length that is an `i32`. -/
def PlainDocument (doc : Document) : Prop :=
  doc.all isPlainField ∧ (documentBytes doc).length < 2 ^ 31

instance (doc : Document) : Decidable (PlainDocument doc) :=
  inferInstanceAs (Decidable (_ ∧ _))

private theorem take_documentBytes (doc : Document) :
    (documentBytes doc).take 4 = leBytes 4 ((doc.flatMap fieldBytes).length + 5) :=
  take_left' (length_leBytes _ _)

private theorem PlainDocument.ofLeBytes_take {doc : Document} (h : PlainDocument doc) :
    ofLeBytes ((documentBytes doc).take 4) = (documentBytes doc).length := by
  have hlength := h.2
  rw [length_documentBytes] at hlength
  rw [take_documentBytes, length_documentBytes, ofLeBytes_leBytes (by omega)]

private theorem PlainDocument.isRaw {doc : Document} (h : PlainDocument doc) :
    IsRaw (documentBytes doc) := by
  refine ⟨h.ofLeBytes_take, ?_⟩
  rw [documentBytes, ← append_assoc]
  exact getLast?_concat

/-- A document that is short enough is framed by its length. -/
theorem PlainDocument.framed {doc : Document} (h : PlainDocument doc)
    (hshort : (documentBytes doc).length ≤ maxDocument) : Framed (documentBytes doc) := by
  refine ⟨⟨_, _, _, _, _, rfl, ?_⟩, ?_, hshort⟩
  · rw [← h.ofLeBytes_take, take_documentBytes]
    simp only [fromLeBytes, leBytes, ofLeBytes]
    omega
  · rw [length_documentBytes]
    omega

/-- A plain document in bytes. -/
def plainToVec (doc : Document) : Except Text Bytes :=
  if PlainDocument doc then .ok (documentBytes doc) else .error "not a plain document"

private theorem plainToVec_eq_ok_iff {doc : Document} {bytes : Bytes} :
    plainToVec doc = .ok bytes ↔ PlainDocument doc ∧ documentBytes doc = bytes := by
  rw [plainToVec]
  split <;> simp [*]

/-- BSON of plain documents. -/
def plainBson : Bson where
  toVec := plainToVec
  fromSlice bytes :=
    match readFields bytes.length (bytes.drop 4) with
    | some doc => if IsRaw bytes then .ok doc else .error "malformed document"
    | none => .error "malformed document"
  rawDocument bytes := if IsRaw bytes then .ok () else .error "malformed document"
  framed := by
    intro doc bytes h hshort
    obtain ⟨hplain, rfl⟩ := plainToVec_eq_ok_iff.mp h
    exact hplain.framed hshort
  fromSlice_toVec := by
    intro doc bytes h
    obtain ⟨hplain, rfl⟩ := plainToVec_eq_ok_iff.mp h
    have hlength := hplain.2
    rw [length_documentBytes] at hlength
    have hread := readFields_fieldBytes hplain.1 (by omega)
      (show _ < (documentBytes doc).length by rw [length_documentBytes]; omega)
    have hdrop : (documentBytes doc).drop 4 = doc.flatMap fieldBytes ++ [0] :=
      drop_left' (length_leBytes _ _)
    rw [hdrop, hread]
    exact if_pos hplain.isRaw
  rawDocument_toVec := by
    intro doc bytes h
    obtain ⟨hplain, rfl⟩ := plainToVec_eq_ok_iff.mp h
    exact if_pos hplain.isRaw

/-- Plain documents within the limit are written. -/
theorem writeDocument_plainBson {doc : Document} (hfields : doc.all isPlainField)
    (hshort : (doc.flatMap fieldBytes).length + 5 ≤ maxDocument) :
    writeDocument plainBson doc = .ok (documentBytes doc) := by
  rw [← length_documentBytes] at hshort
  have hmost : maxDocument < 2 ^ 31 := by decide
  refine bind_eq_ok_iff.mpr
    ⟨_, plainToVec_eq_ok_iff.mpr ⟨⟨hfields, hshort.trans_lt hmost⟩, rfl⟩, ?_⟩
  exact guard_eq_ok_iff.mpr ⟨Nat.not_lt.mpr hshort, rfl⟩

/-! ### JSON -/

/-- Texts that are written without an escape. -/
def isPlainJson (text : Text) : Bool :=
  text.all fun ch => 32 ≤ ch.toNat ∧ ch.toNat < 127 ∧ ch ≠ '"' ∧ ch ≠ '\\'

/-- A text without escapes is plain. -/
theorem isPlain_of_isPlainJson {text : Text} (h : isPlainJson text) : isPlain text := by
  refine isPlain_iff.mpr fun ch hch => ?_
  have hplain := of_decide_eq_true (all_eq_true.mp h ch hch)
  omega

/-- What follows the options of a collection without indexes, cut at its quotation marks. -/
def namesParts (name kind : Text) : List Text :=
  ["indexes", ":[],", "collectionName", ":", name, ",", "type", ":", kind, "\x7d"]

/-- The canonical extended JSON of metadata with at most one option, cut at its quotation marks. -/
def jsonParts : CollectionMetadata → Option (List Text)
  | ⟨[], [], none, name, kind⟩ =>
    some ("\x7b" :: "options" :: ":\x7b\x7d," :: namesParts name kind)
  | ⟨[(key, .string value)], [], none, name, kind⟩ =>
    some ("\x7b" :: "options" :: ":\x7b" :: key :: ":" :: value :: "\x7d," :: namesParts name kind)
  | _ => none

/-- The metadata with some parts. -/
def ofJsonParts : List Text → CollectionMetadata
  | [_, _, _, _, _, _, _, name, _, _, _, kind, _] => ⟨[], [], none, name, kind⟩
  | [_, _, _, key, _, value, _, _, _, _, _, name, _, _, _, kind, _] =>
    ⟨[(key, .string value)], [], none, name, kind⟩
  | _ => .empty []

/-- The canonical extended JSON of metadata. -/
def plainWriteJson (metadata : CollectionMetadata) : Except Text Text :=
  match jsonParts metadata with
  | some parts =>
    if parts.all isPlainJson then .ok (['"'].intercalate parts) else .error "not plain metadata"
  | none => .error "not plain metadata"

/-- The metadata with some canonical extended JSON. -/
def plainReadJson (json : Text) : Except JsonError CollectionMetadata :=
  let metadata := ofJsonParts (json.splitOn '"')
  if plainWriteJson metadata = .ok json then .ok metadata
  else .error (.syntactic "not plain metadata")

private theorem ofJsonParts_of_eq {metadata : CollectionMetadata} {parts : List Text}
    (h : jsonParts metadata = some parts) : ofJsonParts parts = metadata ∧ parts ≠ [] := by
  fun_cases jsonParts metadata with
  | case1 | case2 =>
    rw [jsonParts, Option.some.injEq] at h
    rw [← h]
    exact ⟨rfl, cons_ne_nil _ _⟩
  | case3 => simp_all [jsonParts]

/-- Metadata is read as it was written. -/
theorem plainReadJson_plainWriteJson {metadata : CollectionMetadata} {json : Text}
    (h : plainWriteJson metadata = .ok json) : plainReadJson json = .ok metadata := by
  have hread : ofJsonParts (json.splitOn '"') = metadata := by
    rw [plainWriteJson] at h
    split at h
    · next parts hparts =>
      obtain ⟨hmetadata, hne⟩ := ofJsonParts_of_eq hparts
      split at h
      · next hplain =>
        have hquote : ∀ part ∈ parts, '"' ∉ part := fun part hpart hmem =>
          absurd (all_eq_true.mp (all_eq_true.mp hplain part hpart) '"' hmem) (by decide)
        rw [← Except.ok.inj h, splitOn_intercalate '"' hquote hne, hmetadata]
      · cases h
    · cases h
  unfold plainReadJson
  rw [hread]
  exact if_pos h

/-! ### Checksums -/

/-- A shift of the remainder of CRC-64/XZ. -/
def crcShift (crc : UInt64) : UInt64 :=
  if crc &&& 1 = 1 then (crc >>> 1) ^^^ 0xc96c5795d7870f42 else crc >>> 1

/-- `archive.rs:14`. -/
def crc64Xz (bytes : Bytes) : UInt64 :=
  ~~~bytes.foldl (fun crc byte => crcShift^[8] (crc ^^^ byte.toUInt64)) (~~~0)

example : crc64Xz (plainBytes "123456789") = 0x995dc9bbdf1939fa := by decide +kernel

/-! ### The environment -/

/-- An option whose value is a text. -/
def isTextOption : Text × BsonValue → Bool
  | (key, .string _) => key = "viewOn" ∨ key = "comment"
  | _ => false

/-- The driver for plain metadata. -/
def plainDriver : Driver where
  writeJson := plainWriteJson
  readJson := plainReadJson
  parseOptions options := if options.all isTextOption then .ok () else .error "unknown option"
  knownOptions options := .ok (options.map Prod.fst)
  writeJson_ne_nil := by
    intro metadata h
    have hread := plainReadJson_plainWriteJson h
    cases hread

/-- Archives of plain documents. -/
def plainEnv : ArchiveEnv where
  toDriver := plainDriver
  bson := plainBson
  crc := crc64Xz
  crc_nil := rfl
  toolVersion := "DBX 0.1.0"

end DbxSpec.Mongo
