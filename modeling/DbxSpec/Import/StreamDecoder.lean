import DbxSpec.Base.Fallible
import DbxSpec.Import.DumpNormalizer

/-!
# Reading a SQL file

`SqlFileStreamDecoder` of `crates/dbx-core/src/data/sql_file_import.rs:1453-1690`: a file is read in
rounds of 256 KiB, its binary literals are rewritten and its bytes are decoded. The reader stops at
the first round without text, so a block that is held back as a whole cuts the file off. The decoder
of `encoding_rs` is a parameter.
-/

namespace DbxSpec.Import

open DbxSpec.Base List Nat LiteralScan

/-! ### Decoders -/

/-- `encoding_rs::DecoderResult`. -/
inductive DecoderResult
  | inputEmpty
  | outputFull
  | malformed
  deriving DecidableEq, Repr

/-- What a call of a decoder gives: its result, how many bytes it has read, its output and the
decoder for the next call. -/
structure Decoded (σ : Type) where
  result : DecoderResult
  read : Nat
  output : Text
  decoder : σ

/-- `SQL_FILE_READ_CHUNK_BYTES`. -/
def sqlFileReadChunkBytes : Nat := 256 * 1024

/-- More bytes than a decoder reads without giving a character, whatever its encoding. -/
def decoderStallBytes : Nat := 64

/-- A decoder that is called with room for all of its output, as
`max_utf8_buffer_length_without_replacement` promises it: the output is never full, and cutting the
input does not change what is decoded. The flag says that the input ends. A decoder makes progress:
enough bytes give a character; and in UTF-8 an ASCII byte is a character, before which nothing is
left over. -/
structure IncrementalDecoder (σ : Type) where
  isUtf8 : Bool
  initial : σ
  decode : σ → List UInt8 → Bool → Decoded σ
  result_ne_outputFull : ∀ s input last, (decode s input last).result ≠ .outputFull
  read_eq_length : ∀ s input last, (decode s input last).result = .inputEmpty →
    (decode s input last).read = input.length
  result_append : ∀ s first second last, (decode s first false).result = .inputEmpty →
    (decode s (first ++ second) last).result =
      (decode (decode s first false).decoder second last).result
  output_append : ∀ s first second last, (decode s first false).result = .inputEmpty →
    (decode s (first ++ second) last).output =
      (decode s first false).output ++ (decode (decode s first false).decoder second last).output
  malformed_append : ∀ s first second last, (decode s first false).result = .malformed →
    (decode s (first ++ second) last).result = .malformed
  output_nil : ∀ s, (decode s [] false).output = []
  output_ne_nil : ∀ s input, (decode s input false).result = .inputEmpty →
    decoderStallBytes ≤ input.length → (decode s input false).output ≠ []
  output_of_ascii : isUtf8 → ∀ s input last, (∃ byte ∈ input, byte < 128) →
    (decode s input last).result ≠ .malformed → (decode s input last).output ≠ []
  output_before_ascii : isUtf8 → ∀ s input byte rest last, input ≠ [] → byte < 128 →
    (decode s (input ++ byte :: rest) last).result ≠ .malformed →
    (decode s input false).output ≠ []

/-! ### The reader -/

/-- `sql_file_import.rs:1464`: the bytes that are left and the sizes of the next reads. A size that
is not told is that of the buffer. -/
structure SqlFileByteReader where
  remaining : List UInt8
  sizes : List Nat

variable (reader : SqlFileByteReader)

/-- `sql_file_import.rs:1502`: a read gives at least one byte unless there is none. -/
def SqlFileByteReader.read (capacity : Nat) : List UInt8 × SqlFileByteReader :=
  let size := min capacity (max 1 (reader.sizes.headD capacity))
  (reader.remaining.take size, ⟨reader.remaining.drop size, reader.sizes.tail⟩)

/-- The loop of `sql_file_import.rs:1658-1666`: read until there is no room, or until the end. -/
def fillPending (reader : SqlFileByteReader) (pending : List UInt8) (room : Nat) :
    List UInt8 × SqlFileByteReader × Bool :=
  if room = 0 then (pending, reader, false)
  else if (reader.read room).1 = [] then (pending, (reader.read room).2, true)
  else fillPending (reader.read room).2 (pending ++ (reader.read room).1)
    (room - (reader.read room).1.length)
termination_by room
decreasing_by
  have hlength := length_pos_iff.mpr ‹¬(reader.read room).1 = []›
  omega

private theorem SqlFileByteReader.read_eq {capacity : Nat} (h : capacity ≠ 0) :
    ∃ size, 0 < size ∧ size ≤ capacity ∧ (reader.read capacity).1 = reader.remaining.take size ∧
      (reader.read capacity).2.remaining = reader.remaining.drop size :=
  ⟨min capacity (max 1 (reader.sizes.headD capacity)), by omega, by omega, rfl, rfl⟩

private theorem fillPending_eq (pending : List UInt8) (room : Nat) :
    ∃ sizes, fillPending reader pending room =
      (pending ++ reader.remaining.take room, ⟨reader.remaining.drop room, sizes⟩,
        decide (reader.remaining.length < room)) := by
  fun_induction fillPending reader pending room with
  | case1 reader pending => exact ⟨reader.sizes, by simp⟩
  | case2 reader pending room hroom hempty =>
    obtain ⟨size, hpositive, -, hbytes, hrest⟩ := reader.read_eq hroom
    have hnil : reader.remaining = [] := by
      rw [hempty, eq_comm, take_eq_nil_iff] at hbytes
      exact hbytes.resolve_left (by omega)
    have hreader : (reader.read room).2 = ⟨[], (reader.read room).2.sizes⟩ := by
      rw [hnil, drop_nil] at hrest
      rw [← hrest]
    refine ⟨(reader.read room).2.sizes, ?_⟩
    rw [hreader, hnil, take_nil, append_nil, drop_nil, length_nil,
      decide_eq_true (Nat.pos_of_ne_zero hroom)]
  | case3 reader pending room hroom hsome ih =>
    obtain ⟨size, hpositive, hle, hbytes, hrest⟩ := reader.read_eq hroom
    obtain ⟨sizes, hlater⟩ := ih
    refine ⟨sizes, hlater.trans ?_⟩
    have htake : reader.remaining.take size ++
        (reader.remaining.drop size).take (room - min size reader.remaining.length) =
          reader.remaining.take room := by
      rw [← take_add, take_eq_take_iff]
      omega
    have hdrop : (reader.remaining.drop size).drop (room - min size reader.remaining.length) =
        reader.remaining.drop room := by
      rw [drop_drop, drop_eq_drop_iff]
      omega
    have hend : (reader.remaining.length - size < room - min size reader.remaining.length) ↔
        reader.remaining.length < room := by omega
    rw [hbytes, hrest, length_take, length_drop, append_assoc, htake, hdrop,
      decide_eq_decide.mpr hend]

/-! ### Rounds -/

/-- What is held back between the rounds: by the normalizer, and in the decoder. -/
structure FileText (σ : Type) where
  normalizer : Option MysqlDumpBinaryLiteralNormalizer
  decoder : σ

/-- The error of `sql_file_import.rs:1687`. -/
def invalidEncoding : Text := "Unsupported or invalid SQL file encoding"

/-- `sql_file_import.rs:1668-1674`. -/
def normalizeInput (normalizer : Option MysqlDumpBinaryLiteralNormalizer) (input : List UInt8)
    (eof : Bool) : Except Text (Option MysqlDumpBinaryLiteralNormalizer × List UInt8) :=
  match normalizer with
  | some normalizer => (normalizer.normalize input eof).map fun now => (some now.1, now.2)
  | none => .ok (none, input)

variable {σ : Type}

/-- `sql_file_import.rs:1453`. -/
structure SqlFileStreamDecoder (σ : Type) extends FileText σ where
  reader : SqlFileByteReader
  pendingBytes : List UInt8
  pendingDecodedBytes : List UInt8
  reachedEof : Bool

namespace SqlFileStreamDecoder

/-- `sql_file_import.rs:1629`; nothing if the first read is shorter than the byte order mark, where
the source has a slice out of range. -/
def openWithResolvedEncoding (encoding : IncrementalDecoder σ) (reader : SqlFileByteReader)
    (bomLen : Nat) (normalizeMysqlBinaryLiterals : Bool) : Option (SqlFileStreamDecoder σ) :=
  let first := reader.read 3
  if bomLen ≤ first.1.length then
    some {
      normalizer := if encoding.isUtf8 && normalizeMysqlBinaryLiterals then some {} else none
      decoder := encoding.initial
      reader := first.2
      pendingBytes := first.1.drop bomLen
      pendingDecodedBytes := []
      reachedEof := false }
  else none

/-- `sql_file_import.rs:1654`. -/
def nextChunk (encoding : IncrementalDecoder σ) (d : SqlFileStreamDecoder σ) :
    Except Text (Option Text × SqlFileStreamDecoder σ) :=
  if d.reachedEof && d.pendingBytes.isEmpty && d.pendingDecodedBytes.isEmpty then .ok (none, d)
  else
    let (pendingBytes, reader, reachedEof) :=
      if d.reachedEof then (d.pendingBytes, d.reader, true)
      else fillPending d.reader d.pendingBytes (sqlFileReadChunkBytes - d.pendingBytes.length)
    (normalizeInput d.normalizer pendingBytes reachedEof).bind fun (normalizer, normalized) =>
      let input := d.pendingDecodedBytes ++ normalized
      let decoded := encoding.decode d.decoder input reachedEof
      let after : SqlFileStreamDecoder σ :=
        { normalizer
          decoder := decoded.decoder
          reader
          pendingBytes := []
          pendingDecodedBytes := input.drop decoded.read
          reachedEof }
      match decoded.result with
      | .inputEmpty => .ok (if decoded.output.isEmpty then none else some decoded.output, after)
      | .outputFull => .ok (some decoded.output, after)
      | .malformed => .error invalidEncoding

/-- The calls up to the first without a chunk, as `sql_file_import.rs:1151-1171` makes them: the
chunks and the decoder after them. -/
def drain (encoding : IncrementalDecoder σ) : Nat → SqlFileStreamDecoder σ →
    Option (Except Text (List Text × SqlFileStreamDecoder σ))
  | 0, _ => none
  | fuel + 1, d =>
    match d.nextChunk encoding with
    | .error error => some (.error error)
    | .ok (none, after) => some (.ok ([], after))
    | .ok (some chunk, after) =>
      (drain encoding fuel after).map (Except.map fun rest => (chunk :: rest.1, rest.2))

end SqlFileStreamDecoder

/-! ### The text of a file -/

namespace FileText

variable (encoding : IncrementalDecoder σ)

/-- Before the first byte. -/
def initial (normalizeMysqlBinaryLiterals : Bool) : FileText σ :=
  ⟨if encoding.isUtf8 && normalizeMysqlBinaryLiterals then some {} else none, encoding.initial⟩

/-- The text that some bytes add, and what is held back after them. -/
def feed (f : FileText σ) (bytes : List UInt8) (eof : Bool) : Except Text (Text × FileText σ) :=
  (normalizeInput f.normalizer bytes eof).bind fun now =>
    let decoded := encoding.decode f.decoder now.2 eof
    if decoded.result = .malformed then .error invalidEncoding
    else .ok (decoded.output, ⟨now.1, decoded.decoder⟩)

/-- The decoding of an entire content. -/
def decodeAll (f : FileText σ) (content : List UInt8) : Except Text Text :=
  (f.feed encoding content true).map Prod.fst

/-- The chunks up to the first block without text, and the bytes after it. -/
def untilQuiet : FileText σ → List (List UInt8) → List UInt8 →
    Except Text (List Text × List UInt8)
  | f, [], last => (f.feed encoding last true).map fun now =>
      (if now.1.isEmpty then [] else [now.1], [])
  | f, block :: blocks, last =>
    (f.feed encoding block false).bind fun now =>
      if now.1.isEmpty then .ok ([], blocks.flatten ++ last)
      else (untilQuiet now.2 blocks last).map fun later => (now.1 :: later.1, later.2)

end FileText

/-- The blocks of a content that fill a round. -/
def fullBlocks (content : List UInt8) : List (List UInt8) :=
  (range (content.length / sqlFileReadChunkBytes)).map fun k =>
    (content.drop (k * sqlFileReadChunkBytes)).take sqlFileReadChunkBytes

/-- What is left of a content after its full blocks. -/
def lastBlock (content : List UInt8) : List UInt8 :=
  content.drop (content.length / sqlFileReadChunkBytes * sqlFileReadChunkBytes)

/-- The bytes that the normalizer passes on of a block before the end. -/
def passedOn (normalizer : Option MysqlDumpBinaryLiteralNormalizer) (block : List UInt8) :
    List UInt8 :=
  ((normalizeInput normalizer block false).toOption.map Prod.snd).getD []

/-- The normalizer after a block before the end. -/
def afterBlock (normalizer : Option MysqlDumpBinaryLiteralNormalizer) (block : List UInt8) :
    Option MysqlDumpBinaryLiteralNormalizer :=
  ((normalizeInput normalizer block false).toOption.map Prod.fst).getD normalizer

/-- One of the blocks is held back as a whole: it goes on with white space only after a `_binary` in
it or in what has been held back before it. -/
def HeldBack : Option MysqlDumpBinaryLiteralNormalizer → List (List UInt8) → Prop
  | _, [] => False
  | normalizer, block :: blocks => (∃ n ∈ normalizer, n.HoldsBack (n.pending ++ block)) ∨
      HeldBack (afterBlock normalizer block) blocks

/-- Of each of the blocks enough is passed on for a character. -/
def PassedOn : Option MysqlDumpBinaryLiteralNormalizer → List (List UInt8) → Prop
  | _, [] => True
  | normalizer, block :: blocks => decoderStallBytes ≤ (passedOn normalizer block).length ∧
      PassedOn (afterBlock normalizer block) blocks

section Blocks

variable {content : List UInt8}

private theorem sqlFileReadChunkBytes_pos : 0 < sqlFileReadChunkBytes := by decide

private theorem blocks_of_short (h : content.length < sqlFileReadChunkBytes) :
    fullBlocks content = [] ∧ lastBlock content = content := by
  have hdiv := div_eq_of_lt h
  exact ⟨by rw [fullBlocks, hdiv]; rfl, by rw [lastBlock, hdiv]; simp⟩

private theorem blocks_of_long (h : sqlFileReadChunkBytes ≤ content.length) :
    fullBlocks content = content.take sqlFileReadChunkBytes ::
        fullBlocks (content.drop sqlFileReadChunkBytes) ∧
      lastBlock content = lastBlock (content.drop sqlFileReadChunkBytes) := by
  have hdiv := div_eq_sub_div sqlFileReadChunkBytes_pos h
  constructor
  · rw [fullBlocks, fullBlocks, hdiv, length_drop, range_succ_eq_map, map_cons,
      map_map, Nat.zero_mul, drop_zero]
    refine congrArg (cons _) (map_congr_left fun k _ => ?_)
    rw [Function.comp_apply, drop_drop, Nat.succ_mul, Nat.add_comm]
  · rw [lastBlock, lastBlock, hdiv, length_drop, drop_drop, Nat.succ_mul, Nat.add_comm]

private theorem length_of_mem_fullBlocks {block : List UInt8} (h : block ∈ fullBlocks content) :
    block.length = sqlFileReadChunkBytes := by
  obtain ⟨k, hk, rfl⟩ := mem_map.mp h
  have hlt := mem_range.mp hk
  have hmul : (k + 1) * sqlFileReadChunkBytes ≤ content.length :=
    (mul_le_mul_right _ hlt).trans (div_mul_le_self _ _)
  rw [succ_mul] at hmul
  rw [length_take, length_drop]
  omega

private theorem flatten_fullBlocks (content : List UInt8) :
    (fullBlocks content).flatten ++ lastBlock content = content := by
  induction hlength : content.length using Nat.strong_induction_on generalizing content with
  | _ length ih =>
    by_cases hshort : content.length < sqlFileReadChunkBytes
    · rw [(blocks_of_short hshort).1, (blocks_of_short hshort).2, flatten_nil, nil_append]
    · have hlong := blocks_of_long (Nat.le_of_not_lt hshort)
      have hpos := sqlFileReadChunkBytes_pos
      rw [hlong.1, hlong.2, flatten_cons, append_assoc,
        ih (content.drop sqlFileReadChunkBytes).length (by rw [length_drop]; omega) _ rfl,
        take_append_drop]

end Blocks

/-! ### Cutting a content -/

private theorem map_snd_some (now : Except Text (MysqlDumpBinaryLiteralNormalizer × List UInt8)) :
    (now.map fun now => (some now.1, now.2)).map Prod.snd = now.map Prod.snd := by
  cases now <;> rfl

private theorem exists_of_normalizeInput {n : MysqlDumpBinaryLiteralNormalizer}
    {input passed : List UInt8} {eof : Bool} {normalizer : Option MysqlDumpBinaryLiteralNormalizer}
    (h : normalizeInput (some n) input eof = .ok (normalizer, passed)) :
    ∃ n', normalizer = some n' ∧ n.normalize input eof = .ok (n', passed) := by
  obtain ⟨⟨n', released⟩, hnow, heq⟩ := map_eq_ok_iff.mp h
  obtain ⟨rfl, rfl⟩ := Prod.mk.inj heq
  exact ⟨n', rfl, hnow⟩

private theorem normalizeInput_false (normalizer : Option MysqlDumpBinaryLiteralNormalizer)
    (input : List UInt8) :
    ∃ after out, normalizeInput normalizer input false = .ok (after, out) ∧ ∀ future,
      (normalizeInput normalizer (input ++ future) true).map Prod.snd =
        ((normalizeInput after future true).map Prod.snd).map (out ++ ·) := by
  cases normalizer with
  | none => exact ⟨none, input, rfl, fun future => rfl⟩
  | some normalizer =>
    obtain ⟨after, out, hnow, hfuture⟩ := normalizer.normalize_false input
    refine ⟨some after, out, by rw [normalizeInput, hnow]; rfl, fun future => ?_⟩
    have hlater := hfuture future
    simp only [normalizeInput]
    rw [map_snd_some, map_snd_some]
    exact hlater

namespace FileText

variable {encoding : IncrementalDecoder σ} {f : FileText σ} {content : List UInt8} {text : Text}

private theorem decodeAll_eq_ok_iff : f.decodeAll encoding content = .ok text ↔
      ∃ bytes, (normalizeInput f.normalizer content true).map Prod.snd = .ok bytes ∧
        (encoding.decode f.decoder bytes true).result ≠ .malformed ∧
        (encoding.decode f.decoder bytes true).output = text := by
  unfold decodeAll feed
  rcases normalizeInput f.normalizer content true with _ | now
  · simp [Except.bind, Except.map]
  dsimp only [Except.bind, Except.map]
  by_cases hresult : (encoding.decode f.decoder now.2 true).result = .malformed
  · simp [hresult]
  · simp [hresult]

private theorem decodeAll_append (first rest : List UInt8) :
    f.decodeAll encoding (first ++ rest) = .ok text ↔
      ∃ now later, f.feed encoding first false = .ok now ∧
        now.2.decodeAll encoding rest = .ok later ∧ now.1 ++ later = text := by
  obtain ⟨normalizer, out, hfirst, hfuture⟩ := normalizeInput_false f.normalizer first
  have hinput : ∀ s input, (encoding.decode s input false).result = .inputEmpty ∨
      (encoding.decode s input false).result = .malformed := by
    intro s input
    have hroom := encoding.result_ne_outputFull s input false
    cases hresult : (encoding.decode s input false).result with
    | inputEmpty => exact .inl rfl
    | outputFull => exact absurd hresult hroom
    | malformed => exact .inr rfl
  rw [decodeAll_eq_ok_iff, hfuture rest]
  rcases hinput f.decoder out with hempty | hmalformed
  · have hnow : f.feed encoding first false = .ok ((encoding.decode f.decoder out false).output,
          ⟨normalizer, (encoding.decode f.decoder out false).decoder⟩) := by
      unfold feed
      rw [hfirst]
      dsimp only [Except.bind]
      rw [hempty, if_neg (by decide)]
    constructor
    · rintro ⟨bytes, hbytes, hresult, houtput⟩
      obtain ⟨tail, htail, rfl⟩ := map_eq_ok_iff.mp hbytes
      refine ⟨_, _, hnow, decodeAll_eq_ok_iff.mpr ⟨tail, htail, ?_, rfl⟩, ?_⟩
      · rw [← encoding.result_append f.decoder out tail true hempty]
        exact hresult
      · rw [← houtput, encoding.output_append f.decoder out tail true hempty]
    · rintro ⟨now, later, hfeed, hlater, rfl⟩
      rw [hnow] at hfeed
      cases hfeed
      obtain ⟨tail, htail, hresult, houtput⟩ := decodeAll_eq_ok_iff.mp hlater
      refine ⟨out ++ tail, by rw [htail]; rfl, ?_, ?_⟩
      · rw [encoding.result_append f.decoder out tail true hempty]
        exact hresult
      · rw [encoding.output_append f.decoder out tail true hempty, houtput]
  · have hnow : f.feed encoding first false = .error invalidEncoding := by
      unfold feed
      rw [hfirst]
      dsimp only [Except.bind]
      rw [hmalformed, if_pos rfl]
    constructor
    · rintro ⟨bytes, hbytes, hresult, -⟩
      obtain ⟨tail, -, rfl⟩ := map_eq_ok_iff.mp hbytes
      exact absurd (encoding.malformed_append f.decoder out tail true hmalformed) hresult
    · rintro ⟨now, later, hfeed, -, -⟩
      rw [hnow] at hfeed
      cases hfeed

/-! ### Blocks without text -/

private theorem feed_eq_ok_iff {block : List UInt8} {out : Text} {after : FileText σ} :
    f.feed encoding block false = .ok (out, after) ↔ ∃ normalizer released,
      normalizeInput f.normalizer block false = .ok (normalizer, released) ∧
      (encoding.decode f.decoder released false).result = .inputEmpty ∧
      (encoding.decode f.decoder released false).output = out ∧
      ⟨normalizer, (encoding.decode f.decoder released false).decoder⟩ = after := by
  rw [feed, bind_eq_ok_iff]
  constructor
  · rintro ⟨⟨normalizer, released⟩, hnormalize, hdecode⟩
    obtain ⟨hresult, heq⟩ := guard_eq_ok_iff.mp hdecode
    obtain ⟨rfl, rfl⟩ := Prod.mk.inj (Except.ok.inj heq)
    refine ⟨normalizer, released, hnormalize, ?_, rfl, rfl⟩
    have hroom := encoding.result_ne_outputFull f.decoder released false
    cases hempty : (encoding.decode f.decoder released false).result with
    | inputEmpty => rfl
    | outputFull => exact absurd hempty hroom
    | malformed => exact absurd hempty hresult
  · rintro ⟨normalizer, released, hnormalize, hresult, rfl, rfl⟩
    refine ⟨_, hnormalize, if_neg ?_⟩
    rw [hresult]
    decide

section

variable {block : List UInt8} {after : FileText σ} (hblock : block.length = sqlFileReadChunkBytes)
  {n : MysqlDumpBinaryLiteralNormalizer}

include hblock

private theorem feed_of_holdsBack {out : Text} (hnormalizer : f.normalizer = some n)
    (hholds : n.HoldsBack (n.pending ++ block))
    (hfeed : f.feed encoding block false = .ok (out, after)) :
    out = [] ∧ ∃ n', after.normalizer = some n' ∧ n'.HoldsBack n'.pending := by
  obtain ⟨normalizer, passed, hnormalize, -, rfl, rfl⟩ := feed_eq_ok_iff.mp hfeed
  have hlong : 7 ≤ (n.pending ++ block).length := by
    have hseven : 7 ≤ sqlFileReadChunkBytes := by decide
    rw [length_append]
    omega
  rw [hnormalizer] at hnormalize
  obtain ⟨n', rfl, hnow⟩ := exists_of_normalizeInput hnormalize
  have hnil := (n.normalize_eq_nil_iff hlong).mpr hholds
  rw [hnow] at hnil
  obtain rfl : passed = [] := Except.ok.inj hnil
  exact ⟨encoding.output_nil _, n', rfl,
    n.holdsBack_of_not_ascii hnow (by simp) (by simpa using hlong)⟩

private theorem feed_quiet_iff {out : Text} (hutf8 : f.normalizer.isSome → encoding.isUtf8)
    (hfeed : f.feed encoding block false = .ok (out, after)) {future : List UInt8}
    (hfuture : after.decodeAll encoding future = .ok text) :
    out = [] ↔ ∃ n ∈ f.normalizer, n.HoldsBack (n.pending ++ block) := by
  constructor
  · intro hquiet
    obtain ⟨normalizer, passed, hnormalize, hresult, rfl, rfl⟩ := feed_eq_ok_iff.mp hfeed
    have hshort : passed.length < decoderStallBytes := by
      by_contra hlong
      exact encoding.output_ne_nil _ _ hresult (Nat.le_of_not_lt hlong) hquiet
    have hstall : decoderStallBytes + 7 ≤ sqlFileReadChunkBytes := by decide
    cases hnormalizer : f.normalizer with
    | none =>
      rw [hnormalizer] at hnormalize
      obtain ⟨-, rfl⟩ := Prod.mk.inj (Except.ok.inj hnormalize)
      omega
    | some n =>
      rw [hnormalizer] at hnormalize
      obtain ⟨n', rfl, hnow⟩ := exists_of_normalizeInput hnormalize
      have hcode : encoding.isUtf8 := hutf8 (by rw [hnormalizer]; rfl)
      have hascii : ∀ byte ∈ passed, ¬byte < 128 := by
        intro byte hmem hlt
        exact encoding.output_of_ascii hcode _ _ _ ⟨byte, hmem, hlt⟩ (by simp [hresult]) hquiet
      have hholds := n.holdsBack_of_not_ascii hnow hascii (by rw [length_append]; omega)
      -- what comes next starts with an ASCII byte, so nothing can be left over before it
      obtain ⟨bytes, hbytes, hdecoded, -⟩ := decodeAll_eq_ok_iff.mp hfuture
      rw [normalizeInput, map_snd_some] at hbytes
      obtain ⟨byte, rest, rfl, hbyte⟩ := n'.exists_ascii_of_holdsBack hholds hbytes
      rw [← encoding.result_append _ _ _ _ hresult] at hdecoded
      have hpassed : passed = [] := by
        by_contra hne
        exact encoding.output_before_ascii hcode _ _ _ _ _ hne hbyte hdecoded hquiet
      refine ⟨n, rfl, (n.normalize_eq_nil_iff ?_).mp ?_⟩
      · rw [length_append]
        omega
      · rw [hnow, hpassed]
        rfl
  · rintro ⟨n, hnormalizer, hholds⟩
    exact (feed_of_holdsBack hblock hnormalizer hholds hfeed).1

end

private theorem decodeAll_ne_nil_of_holdsBack {n : MysqlDumpBinaryLiteralNormalizer}
    (hutf8 : encoding.isUtf8) (hnormalizer : f.normalizer = some n)
    (hholds : n.HoldsBack n.pending) : f.decodeAll encoding [] ≠ .ok [] := by
  intro hdecode
  obtain ⟨bytes, hbytes, hdecoded, houtput⟩ := decodeAll_eq_ok_iff.mp hdecode
  rw [hnormalizer, normalizeInput, map_snd_some] at hbytes
  obtain ⟨byte, rest, rfl, hbyte⟩ := n.exists_ascii_of_holdsBack hholds hbytes
  exact encoding.output_of_ascii hutf8 _ _ _ ⟨byte, mem_cons_self, hbyte⟩ hdecoded houtput

private theorem afterBlock_of_feed {block : List UInt8} {out : Text} {after : FileText σ}
    (h : f.feed encoding block false = .ok (out, after)) :
    afterBlock f.normalizer block = after.normalizer := by
  obtain ⟨normalizer, released, hnormalize, -, -, rfl⟩ := feed_eq_ok_iff.mp h
  rw [afterBlock, hnormalize]
  rfl

private theorem isSome_afterBlock (normalizer : Option MysqlDumpBinaryLiteralNormalizer)
    (block : List UInt8) : (afterBlock normalizer block).isSome = normalizer.isSome := by
  cases normalizer with
  | none => rfl
  | some n =>
    obtain ⟨after, out, hnow, -⟩ := n.normalize_false block
    rw [afterBlock, normalizeInput, hnow]
    rfl

/-- The rounds of a content that can be decoded give its text, with every byte read, if and only if
none of its full blocks is held back. -/
theorem untilQuiet_complete_iff {blocks : List (List UInt8)} {last : List UInt8}
    (hutf8 : f.normalizer.isSome → encoding.isUtf8)
    (hblocks : ∀ block ∈ blocks, block.length = sqlFileReadChunkBytes)
    (hdecode : f.decodeAll encoding (blocks.flatten ++ last) = .ok text) :
    ∃ chunks rest, f.untilQuiet encoding blocks last = .ok (chunks, rest) ∧
      (rest = [] ∧ chunks.flatten = text ↔ ¬HeldBack f.normalizer blocks) := by
  induction blocks generalizing f text with
  | nil =>
    rw [flatten_nil, nil_append] at hdecode
    obtain ⟨now, hfeed, rfl⟩ := map_eq_ok_iff.mp hdecode
    refine ⟨_, _, by rw [untilQuiet, hfeed]; rfl, iff_of_true ⟨rfl, ?_⟩ not_false⟩
    split
    · next hempty => exact (List.isEmpty_iff.mp hempty).symm
    · exact append_nil _
  | cons block blocks ih =>
    obtain ⟨hfirst, hothers⟩ := forall_mem_cons.mp hblocks
    rw [flatten_cons, append_assoc, decodeAll_append] at hdecode
    obtain ⟨now, later, hfeed, hlater, rfl⟩ := hdecode
    have hquiet := feed_quiet_iff hfirst hutf8 hfeed hlater
    have hafter := afterBlock_of_feed hfeed
    rw [untilQuiet, hfeed, HeldBack, ← hquiet, hafter]
    dsimp only [Except.bind]
    by_cases hempty : now.1 = []
    · -- The rounds stop here, and what is held back has a text.
      rw [hempty, if_pos isEmpty_nil]
      refine ⟨_, _, rfl, iff_of_false ?_ (not_not.mpr (.inl rfl))⟩
      rintro ⟨hrest, htext⟩
      obtain ⟨n, hn, hholds⟩ := hquiet.mp hempty
      obtain ⟨-, n', hn', hholds'⟩ := feed_of_holdsBack hfirst hn hholds hfeed
      obtain rfl : later = [] := htext.symm
      rw [hrest] at hlater
      exact decodeAll_ne_nil_of_holdsBack (hutf8 (Option.isSome_of_mem hn)) hn' hholds' hlater
    · rw [if_neg (by simpa using hempty)]
      have hstill : now.2.normalizer.isSome → encoding.isUtf8 := by
        rwa [← hafter, isSome_afterBlock]
      obtain ⟨chunks, rest, hrun, hiff⟩ := ih hstill hothers hlater
      refine ⟨now.1 :: chunks, rest, by rw [hrun]; rfl, ?_⟩
      rw [flatten_cons, append_cancel_left_eq, hiff, or_iff_right hempty]

private theorem untilQuiet_eq_error {blocks : List (List UInt8)} {last : List UInt8} {error : Text}
    (hpassed : PassedOn f.normalizer blocks)
    (hdecode : f.decodeAll encoding (blocks.flatten ++ last) = .error error) :
    ∃ e, f.untilQuiet encoding blocks last = .error e := by
  induction blocks generalizing f error with
  | nil =>
    rw [flatten_nil, nil_append] at hdecode
    exact ⟨error, by rw [untilQuiet, map_eq_error_iff.mp hdecode]; rfl⟩
  | cons block blocks ih =>
    rw [untilQuiet]
    rcases hfeed : f.feed encoding block false with e | ⟨out, after⟩
    · exact ⟨e, rfl⟩
    obtain ⟨normalizer, released, hnormalize, hresult, rfl, -⟩ := feed_eq_ok_iff.mp hfeed
    have hlong := hpassed.1
    rw [passedOn, hnormalize] at hlong
    have hempty := encoding.output_ne_nil _ _ hresult hlong
    dsimp only [Except.bind]
    rw [if_neg (by simpa using hempty)]
    cases hlater : after.decodeAll encoding (blocks.flatten ++ last) with
    | error e =>
      obtain ⟨e, herror⟩ := ih (afterBlock_of_feed hfeed ▸ hpassed.2) hlater
      exact ⟨e, by rw [herror]; rfl⟩
    | ok text =>
      have hwhole := (decodeAll_append block (blocks.flatten ++ last)).mpr
        ⟨_, text, hfeed, hlater, rfl⟩
      rw [flatten_cons, append_assoc, hwhole] at hdecode
      cases hdecode

end FileText

/-! ### The calls in blocks -/

namespace SqlFileStreamDecoder

variable (encoding : IncrementalDecoder σ)

/-- A decoder between two rounds before the end, with the bytes it has not decoded. -/
structure Between (d : SqlFileStreamDecoder σ) (content : List UInt8) : Prop where
  content_eq : d.pendingBytes ++ d.reader.remaining = content
  pending_le : d.pendingBytes.length ≤ sqlFileReadChunkBytes
  pendingDecodedBytes : d.pendingDecodedBytes = []
  reachedEof : d.reachedEof = false

/-- The decoder after a round that has read all of its input. -/
def afterRound (f : FileText σ) (reader : SqlFileByteReader) (reachedEof : Bool) :
    SqlFileStreamDecoder σ :=
  { f with reader, pendingBytes := [], pendingDecodedBytes := [], reachedEof }

variable {d : SqlFileStreamDecoder σ}

private theorem nextChunk_eq {content : List UInt8} (h : d.Between content) :
    ∃ sizes, d.nextChunk encoding = (d.toFileText.feed encoding (content.take sqlFileReadChunkBytes)
        (decide (content.length < sqlFileReadChunkBytes))).map fun now =>
          (if now.1.isEmpty then none else some now.1,
            afterRound now.2 ⟨content.drop sqlFileReadChunkBytes, sizes⟩
              (decide (content.length < sqlFileReadChunkBytes))) := by
  obtain ⟨sizes, hfill⟩ := fillPending_eq d.reader d.pendingBytes
    (sqlFileReadChunkBytes - d.pendingBytes.length)
  have hpending := h.pending_le
  have htake : d.pendingBytes ++ d.reader.remaining.take
      (sqlFileReadChunkBytes - d.pendingBytes.length) = content.take sqlFileReadChunkBytes := by
    rw [← h.content_eq, take_append, take_of_length_le hpending]
  have hdrop : d.reader.remaining.drop (sqlFileReadChunkBytes - d.pendingBytes.length) =
      content.drop sqlFileReadChunkBytes := by
    rw [← h.content_eq, drop_append, drop_eq_nil_of_le hpending, nil_append]
  have hend : (d.reader.remaining.length < sqlFileReadChunkBytes - d.pendingBytes.length) ↔
      content.length < sqlFileReadChunkBytes := by
    rw [← h.content_eq, length_append]
    omega
  rw [htake, hdrop, decide_eq_decide.mpr hend] at hfill
  refine ⟨sizes, ?_⟩
  unfold nextChunk FileText.feed
  rw [h.reachedEof, h.pendingDecodedBytes, hfill]
  generalize decide (content.length < sqlFileReadChunkBytes) = eof
  simp only [Bool.false_and, Bool.false_eq_true, if_false, nil_append]
  rcases normalizeInput d.normalizer (content.take sqlFileReadChunkBytes) eof with _ | now
  · rfl
  dsimp only [Except.bind]
  have hread := encoding.read_eq_length d.decoder now.2 eof
  have hroom := encoding.result_ne_outputFull d.decoder now.2 eof
  generalize encoding.decode d.decoder now.2 eof = decoded at hread hroom
  cases hresult : decoded.result with
  | inputEmpty =>
    rw [hread hresult, drop_length]
    rfl
  | outputFull => exact absurd hresult hroom
  | malformed => rfl

private theorem between_afterRound (f : FileText σ) (content : List UInt8) (sizes : List Nat) :
    (afterRound f ⟨content, sizes⟩ false).Between content :=
  ⟨rfl, zero_le _, rfl, rfl⟩

private theorem drain_eq_untilQuiet {content : List UInt8} (h : d.Between content) :
    ∃ result, d.drain encoding (content.length / sqlFileReadChunkBytes + 2) = some result ∧
      result.map (fun last => (last.1, last.2.reader.remaining)) =
        d.toFileText.untilQuiet encoding (fullBlocks content) (lastBlock content) := by
  induction hlength : content.length using Nat.strong_induction_on generalizing content d with
  | _ length ih =>
    subst hlength
    obtain ⟨sizes, hround⟩ := nextChunk_eq encoding h
    by_cases hshort : content.length < sqlFileReadChunkBytes
    · -- The last round: whatever its text, the call after it gives nothing.
      rw [(blocks_of_short hshort).1, (blocks_of_short hshort).2, div_eq_of_lt hshort]
      rw [decide_eq_true hshort, take_of_length_le hshort.le, drop_eq_nil_of_le hshort.le] at hround
      rw [drain, hround, FileText.untilQuiet]
      rcases d.toFileText.feed encoding content true with _ | now
      · exact ⟨_, rfl, rfl⟩
      dsimp only [Except.map]
      by_cases hempty : now.1.isEmpty
      · rw [if_pos hempty, if_pos hempty]
        exact ⟨_, rfl, rfl⟩
      · rw [if_neg hempty, if_neg hempty]
        exact ⟨_, rfl, rfl⟩
    · have hlong := Nat.le_of_not_lt hshort
      have hpos := sqlFileReadChunkBytes_pos
      rw [(blocks_of_long hlong).1, (blocks_of_long hlong).2,
        div_eq_sub_div sqlFileReadChunkBytes_pos hlong]
      rw [decide_eq_false hshort] at hround
      rw [drain, hround, FileText.untilQuiet]
      rcases d.toFileText.feed encoding (content.take sqlFileReadChunkBytes) false with _ | now
      · exact ⟨_, rfl, rfl⟩
      dsimp only [Except.map, Except.bind]
      by_cases hempty : now.1.isEmpty
      · rw [if_pos hempty, if_pos hempty, flatten_fullBlocks]
        exact ⟨_, rfl, rfl⟩
      · rw [if_neg hempty, if_neg hempty]
        dsimp only
        obtain ⟨result, hdrain, hresult⟩ := ih (content.drop sqlFileReadChunkBytes).length
          (by rw [length_drop]; omega)
          (between_afterRound now.2 (content.drop sqlFileReadChunkBytes) sizes) rfl
        rw [length_drop] at hdrain
        rw [hdrain]
        refine ⟨_, rfl, ?_⟩
        have hsame : (afterRound now.2 ⟨content.drop sqlFileReadChunkBytes, sizes⟩
            false).toFileText = now.2 := rfl
        rw [hsame] at hresult
        rw [← hresult]
        cases result <;> rfl

private theorem between_openWithResolvedEncoding {reader : SqlFileByteReader} {bomLen : Nat}
    {normalizeMysqlBinaryLiterals : Bool}
    (h : openWithResolvedEncoding encoding reader bomLen normalizeMysqlBinaryLiterals = some d) :
    d.toFileText = FileText.initial encoding normalizeMysqlBinaryLiterals ∧
      d.Between (reader.remaining.drop bomLen) := by
  obtain ⟨size, -, hle, hbytes, hrest⟩ := reader.read_eq (show 3 ≠ 0 by decide)
  unfold openWithResolvedEncoding at h
  dsimp only at h
  rw [hbytes] at h
  split at h
  · next hbom =>
    rw [Option.some.injEq] at h
    subst h
    refine ⟨rfl, ?_, ?_, rfl, rfl⟩
    · rw [hrest, ← drop_append_of_le_length hbom, take_append_drop]
    · have hsmall : 3 ≤ sqlFileReadChunkBytes := by decide
      rw [length_drop, length_take]
      omega
  · cases h

private theorem asciiResult_eq_inputEmpty_iff {input : List UInt8} :
    (if input.all (· < 128) then DecoderResult.inputEmpty else .malformed) = .inputEmpty ↔
      input.all (· < 128) := by
  split <;> simp_all

private theorem asciiResult_ne_malformed_iff {input : List UInt8} :
    (if input.all (· < 128) then DecoderResult.inputEmpty else .malformed) ≠ .malformed ↔
      input.all (· < 128) := by
  split <;> simp_all

private theorem takeWhile_ascii {input : List UInt8} (h : input.all (· < 128)) :
    input.takeWhile (· < 128) = input :=
  takeWhile_eq_self_iff.mpr (all_eq_true.mp h)

/-- The decoder of UTF-8 on ASCII bytes. -/
def asciiDecoder : IncrementalDecoder Unit where
  isUtf8 := true
  initial := ()
  decode _ input _ :=
    let valid := input.takeWhile (· < 128)
    { result := if input.all (· < 128) then .inputEmpty else .malformed
      read := valid.length
      output := valid.map fun b => Char.ofNat b.toNat
      decoder := () }
  result_ne_outputFull s input last := by
    dsimp only
    split <;> decide
  read_eq_length s input last h := by
    have hall := asciiResult_eq_inputEmpty_iff.mp h
    rw [takeWhile_ascii hall]
  result_append s first second last h := by
    have hall := asciiResult_eq_inputEmpty_iff.mp h
    dsimp only
    rw [all_append, hall, Bool.true_and]
  output_append s first second last h := by
    have hall := asciiResult_eq_inputEmpty_iff.mp h
    dsimp only
    rw [takeWhile_append_of_pos (all_eq_true.mp hall), map_append,
      takeWhile_ascii hall]
  malformed_append s first second last h := by
    have hsome : ¬first.all (· < 128) := by
      intro hall
      cases (asciiResult_eq_inputEmpty_iff.mpr hall).symm.trans h
    dsimp only
    rw [all_append, Bool.eq_false_iff.mpr hsome, Bool.false_and]
    rfl
  output_nil s := rfl
  output_ne_nil s input h hlong := by
    have hall := asciiResult_eq_inputEmpty_iff.mp h
    dsimp only
    rw [takeWhile_ascii hall, Ne, map_eq_nil_iff]
    rintro rfl
    exact absurd hlong (by decide)
  output_of_ascii _ s input last hascii h := by
    have hall := asciiResult_ne_malformed_iff.mp h
    obtain ⟨byte, hmem, -⟩ := hascii
    dsimp only
    rw [takeWhile_ascii hall, Ne, map_eq_nil_iff]
    exact ne_nil_of_mem hmem
  output_before_ascii _ s input byte rest last hne hbyte h := by
    have hall := asciiResult_ne_malformed_iff.mp h
    rw [all_append, Bool.and_eq_true] at hall
    dsimp only
    rw [takeWhile_ascii hall.1, Ne, map_eq_nil_iff]
    exact hne

private theorem normalize_binary_spaces (spaces : Nat) :
    ∃ held, ({} : MysqlDumpBinaryLiteralNormalizer).normalize
      (bytesOf "_binary" ++ replicate spaces 32) false = .ok (held, []) := by
  have hname : (bytesOf "_binary").length = 7 := by decide
  have hholds : LiteralScan.HoldsBack {} (bytesOf "_binary" ++ replicate spaces 32) := by
    refine ⟨rfl, by decide, ?_, fun byte hbyte => ?_⟩
    · rw [take_left' hname]
      decide
    · rw [drop_left' hname] at hbyte
      rw [eq_of_mem_replicate hbyte]
      decide
  have hquiet := (@MysqlDumpBinaryLiteralNormalizer.normalize_eq_nil_iff {}
    (bytesOf "_binary" ++ replicate spaces 32) (by simp [hname])).mpr hholds
  obtain ⟨⟨held, out⟩, hheld, rfl⟩ := map_eq_ok_iff.mp hquiet
  exact ⟨held, hheld⟩

/-- A file whose first 256 KiB are `_binary` and spaces, and that goes on after them. -/
def heldBackFile : List UInt8 :=
  bytesOf "_binary" ++ replicate (sqlFileReadChunkBytes - 7) 32 ++ bytesOf "'a';"

end SqlFileStreamDecoder

end DbxSpec.Import
