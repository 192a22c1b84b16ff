import DbxSpec.Grid.LiteralSpelling

/-!
# Literals of long texts

A long text is written in pieces: for an Oracle LOB as constructor calls with short literals
(`data_grid_sql.rs:2789-2835`), for SQL Server as a sum of literals and line breaks
(`data_grid_sql.rs:3129`). The pieces stand for the text.
-/

namespace DbxSpec.Grid

open DbxSpec.Base DbxSpec.Sql List

/-! ### Oracle -/

/-- `data_grid_sql.rs:73`. -/
def oracleSqlLiteralMaxBytes : Nat := 4000

/-- `data_grid_sql.rs:74`. -/
def oracleLobLiteralChunkBytes : Nat := 3900

/-- `data_grid_sql.rs:2817`. -/
def oracleSqlLiteralCharLen (ch : Char) : Nat := if ch = '\'' then 2 else ch.utf8Size

/-- `data_grid_sql.rs:2830`. -/
def appendOracleSqlLiteralChar (output : Text) (ch : Char) : Text :=
  output ++ if ch = '\'' then "''".toList else [ch]

/-- The loop of `data_grid_sql.rs:2801`: the bodies of the literals. -/
def oracleLobLoop (current : Text) (currentLen : Nat) : Text → List Text
  | [] => if 0 < currentLen then [current] else []
  | ch :: rest =>
    let charLen := oracleSqlLiteralCharLen ch
    if 0 < currentLen ∧ oracleLobLiteralChunkBytes < currentLen + charLen then
      current :: oracleLobLoop (appendOracleSqlLiteralChar [] ch) charLen rest
    else oracleLobLoop (appendOracleSqlLiteralChar current ch) (currentLen + charLen) rest

variable (text : Text)

/-- Whether one literal is enough, `data_grid_sql.rs:2792`. -/
def isShortOracleText : Bool :=
  (text.map oracleSqlLiteralCharLen).sum ≤ oracleSqlLiteralMaxBytes

/-- What stands between the quotes of each piece. -/
def oracleLobBodies : List Text :=
  if isShortOracleText text then [text.foldl appendOracleSqlLiteralChar []]
  else oracleLobLoop [] 0 text

/-- `data_grid_sql.rs:2789`. -/
def formatOracleLobAssignmentLiteral (text constructor : Text) : Text :=
  if isShortOracleText text then ((oracleLobBodies text).map quoted).flatten
  else joinTexts " || "
    ((oracleLobBodies text).map fun body => constructor ++ '(' :: quoted body ++ [')'])

/-- The calls that make a character LOB, `data_grid_sql.rs:4467`. -/
def oracleLobConstructors : List Text := ["TO_CLOB", "TO_NCLOB"]

/-! #### Reading the pieces back -/

/-- The body of a literal whose opening quote has been read, and the text after the literal. -/
def readLobBody : Text → Option (Text × Text)
  | [] => none
  | '\'' :: '\'' :: rest => (readLobBody rest).map fun read => ('\'' :: '\'' :: read.1, read.2)
  | ch :: rest =>
    if ch = '\'' then some ([], rest) else (readLobBody rest).map (putFront ch)

/-- The bodies of calls with `||` between them, to the end of the text and at most so many. -/
def readLobCalls (constructor : Text) : Nat → Text → Option (List Text)
  | 0, _ => none
  | fuel + 1, text => do
    let (body, rest) ← readLobBody (← (constructor ++ "('").isPrefixOf? text)
    let after ← [')'].isPrefixOf? rest
    if after.isEmpty then return [body]
    else return body :: (← readLobCalls constructor fuel (← " || ".toList.isPrefixOf? after))

/-- The bodies in the literal of a LOB: that of a single string, or those of the calls. -/
def readLobLiteral (constructor : Text) : Text → Option (List Text)
  | '\'' :: rest =>
    (readLobBody rest).bind fun read => if read.2.isEmpty then some [read.1] else none
  | text => readLobCalls constructor text.length text

/-- The text that the body of a literal stands for. A single quote would end the literal. -/
def undouble : Text → Option Text
  | [] => some []
  | '\'' :: '\'' :: rest => (undouble rest).map ('\'' :: ·)
  | ch :: rest => if ch = '\'' then none else (undouble rest).map (ch :: ·)

/-- The bodies in the literal that is written stand for the text, and each is as short as it has to
be among so many. -/
def LobCutsExact (limit : Nat → Nat) (text : Text) : Prop :=
  ∀ constructor ∈ oracleLobConstructors, ∃ bodies,
    readLobLiteral constructor (formatOracleLobAssignmentLiteral text constructor) = some bodies ∧
    (bodies.mapM undouble).map flatten = some text ∧
    ∀ body ∈ bodies, utf8Len body ≤ limit bodies.length

/-- The body that a text is written as. -/
abbrev doubled : Text := replaceChar '\'' "''" text

private theorem doubled_cons (ch : Char) (text : Text) :
    doubled (ch :: text) = (if ch = '\'' then "''".toList else [ch]) ++ doubled text := rfl

private theorem foldl_append (output text : Text) :
    text.foldl appendOracleSqlLiteralChar output = output ++ doubled text := by
  induction text generalizing output with
  | nil => exact (append_nil output).symm
  | cons ch text ih =>
    rw [foldl_cons, ih, doubled_cons, appendOracleSqlLiteralChar, append_assoc]

private theorem undouble_doubled : undouble (doubled text) = some text := by
  induction text with
  | nil => rfl
  | cons ch text ih =>
    rw [doubled_cons]
    by_cases hquote : ch = '\''
    · subst hquote
      simpa [undouble] using ih
    · simp [undouble, hquote, ih]

private theorem utf8Len_doubled :
    utf8Len (doubled text) = (text.map oracleSqlLiteralCharLen).sum := by
  induction text with
  | nil => rfl
  | cons ch text ih =>
    rw [doubled_cons, utf8Len, map_append, sum_append, ← utf8Len, ← utf8Len, ih,
      map_cons, sum_cons, oracleSqlLiteralCharLen]
    split
    · rfl
    · simp [utf8Len]

private theorem oracleSqlLiteralCharLen_bounds (ch : Char) :
    0 < oracleSqlLiteralCharLen ch ∧ oracleSqlLiteralCharLen ch ≤ 4 := by
  unfold oracleSqlLiteralCharLen
  split
  · decide
  · exact ⟨Char.utf8Size_pos ch, Char.utf8Size_le_four ch⟩

private theorem oracleLobLoop_eq (piece text : Text)
    (hpiece : utf8Len (doubled piece) ≤ oracleLobLiteralChunkBytes) :
    ∃ pieces : List Text, pieces.flatten = piece ++ text ∧
      oracleLobLoop (doubled piece) (utf8Len (doubled piece)) text = pieces.map doubled ∧
      ∀ piece ∈ pieces, utf8Len (doubled piece) ≤ oracleLobLiteralChunkBytes := by
  induction text generalizing piece with
  | nil =>
    rw [oracleLobLoop]
    split
    · exact ⟨[piece], by simp, rfl, by simpa using hpiece⟩
    · next hzero =>
      rcases piece with _ | ⟨ch, piece⟩
      · exact ⟨[], rfl, rfl, by simp⟩
      rw [utf8Len_doubled, map_cons, sum_cons] at hzero
      have := (oracleSqlLiteralCharLen_bounds ch).1
      omega
  | cons ch text ih =>
    have happend : ∀ front : Text,
        appendOracleSqlLiteralChar (doubled front) ch = doubled (front ++ [ch]) := fun front => by
      rw [doubled, doubled, replaceChar, replaceChar, flatMap_append, flatMap_singleton]
      rfl
    have hlen : ∀ front : Text, utf8Len (doubled (front ++ [ch])) =
        utf8Len (doubled front) + oracleSqlLiteralCharLen ch := fun front => by
      simp [utf8Len_doubled]
    have hsmall := (oracleSqlLiteralCharLen_bounds ch).2
    have hbound : oracleLobLiteralChunkBytes = 3900 := rfl
    have hfirst := hlen []
    rw [nil_append, show utf8Len (doubled []) = 0 from rfl, Nat.zero_add] at hfirst
    rw [oracleLobLoop]
    split
    · obtain ⟨pieces, hflatten, hloop, hpieces⟩ := ih [ch] (by omega)
      rw [hfirst] at hloop
      refine ⟨piece :: pieces, by simp [hflatten], ?_, by simpa using ⟨hpiece, hpieces⟩⟩
      rw [map_cons, ← hloop, ← nil_append [ch], ← happend []]
      rfl
    · next hfits =>
      obtain ⟨pieces, hflatten, hloop, hpieces⟩ := ih (piece ++ [ch]) (by
        rw [hlen]
        omega)
      refine ⟨pieces, by simp [hflatten], ?_, hpieces⟩
      rw [← hloop, happend, hlen]

/-- How long the body of a piece may be. -/
def oracleLobLimit (pieces : Nat) : Nat :=
  if pieces = 1 then oracleSqlLiteralMaxBytes else oracleLobLiteralChunkBytes

private theorem oracleLobBodies_eq : ∃ pieces : List Text, pieces.flatten = text ∧
    oracleLobBodies text = pieces.map doubled ∧
    (isShortOracleText text = true → pieces = [text]) ∧
    (isShortOracleText text = false → pieces ≠ []) ∧
    ∀ piece ∈ pieces, utf8Len (doubled piece) ≤ oracleLobLimit pieces.length := by
  unfold oracleLobBodies
  cases hshort : isShortOracleText text with
  | true =>
    refine ⟨[text], by simp, ?_, fun _ => rfl, nofun, ?_⟩
    · rw [if_pos rfl, foldl_append, nil_append]
      rfl
    · rw [isShortOracleText, decide_eq_true_eq, ← utf8Len_doubled] at hshort
      simpa [oracleLobLimit] using hshort
  | false =>
    obtain ⟨pieces, hflatten, hloop, hpieces⟩ := oracleLobLoop_eq [] text (Nat.zero_le _)
    rw [nil_append] at hflatten
    refine ⟨pieces, hflatten, ?_, nofun, ?_, fun piece hpiece => (hpieces piece hpiece).trans ?_⟩
    · rw [if_neg Bool.false_ne_true]
      exact hloop
    · rintro - rfl
      obtain rfl : text = [] := hflatten.symm
      cases hshort
    · unfold oracleLobLimit
      split
      · decide
      · exact Nat.le_refl _

private theorem readLobBody_doubled {rest : Text} (hrest : rest.head? ≠ some '\'') :
    readLobBody (doubled text ++ '\'' :: rest) = some (doubled text, rest) := by
  induction text with
  | nil =>
    rcases rest with _ | ⟨ch, rest⟩
    · rfl
    · have hch : ch ≠ '\'' := by simpa using hrest
      simp [readLobBody, doubled, replaceChar, hch]
  | cons ch text ih =>
    rw [doubled_cons, append_assoc]
    by_cases hquote : ch = '\''
    · subst hquote
      simpa [readLobBody] using ih
    · rw [if_neg hquote, singleton_append, readLobBody, if_neg hquote, ih]
      · rfl
      · simp [hquote]

/-- A call around a piece. -/
def lobCall (constructor piece : Text) : Text :=
  constructor ++ '(' :: quoted (doubled piece) ++ [')']

private theorem readLobCalls_call (constructor piece rest : Text) (fuel : Nat) :
    readLobCalls constructor (fuel + 1) (lobCall constructor piece ++ rest) =
      if rest.isEmpty then some [doubled piece]
      else (" || ".toList.isPrefixOf? rest).bind fun next =>
        (readLobCalls constructor fuel next).map (doubled piece :: ·) := by
  have hopen : (constructor ++ "('").isPrefixOf? (lobCall constructor piece ++ rest) =
      some (doubled piece ++ '\'' :: ')' :: rest) := by
    rw [isPrefixOf?_eq_some_iff_append_eq]
    simp [lobCall, quoted]
  have hbody : readLobBody (doubled piece ++ '\'' :: ')' :: rest) =
      some (doubled piece, ')' :: rest) := readLobBody_doubled piece (by simp)
  have hclose : [')'].isPrefixOf? (')' :: rest) = some rest :=
    isPrefixOf?_eq_some_iff_append_eq.mpr rfl
  rw [readLobCalls, hopen]
  simp only [Option.bind_eq_bind, Option.bind_some, hbody, hclose]
  split
  · rfl
  · simp only [Option.map_eq_bind]
    rfl

private theorem readLobCalls_join (constructor : Text) {pieces : List Text} (hne : pieces ≠ []) :
    ∀ {fuel : Nat}, pieces.length ≤ fuel →
    readLobCalls constructor fuel (joinTexts " || " (pieces.map (lobCall constructor))) =
      some (pieces.map doubled) := by
  induction pieces with
  | nil => exact absurd rfl hne
  | cons piece pieces ih =>
    intro fuel hfuel
    obtain ⟨fuel, rfl⟩ := Nat.exists_eq_add_one_of_ne_zero (by simp at hfuel; omega : fuel ≠ 0)
    rcases pieces with _ | ⟨next, pieces⟩
    · have hcall := readLobCalls_call constructor piece [] fuel
      rw [append_nil] at hcall
      simpa [joinTexts] using hcall
    · have hlater := @ih (cons_ne_nil next pieces) fuel (by simpa using hfuel)
      rw [map_cons, map_cons, joinTexts, intercalate_cons_cons, append_assoc, readLobCalls_call,
        if_neg (by simp), isPrefixOf?_eq_some_iff_append_eq.mpr rfl, Option.bind_some]
      rw [map_cons, joinTexts] at hlater
      rw [hlater]
      rfl

private theorem length_le_length_join (constructor : Text) (pieces : List Text) :
    pieces.length ≤ (joinTexts " || " (pieces.map (lobCall constructor))).length := by
  rcases pieces with _ | ⟨piece, pieces⟩
  · exact Nat.le_refl 0
  · have hpiece : 0 < (lobCall constructor piece).length := by simp [lobCall]
    have hlater : pieces.length ≤
        ((pieces.map (lobCall constructor)).flatMap (" || ".toList ++ ·)).length := by
      rw [length_flatMap, map_map]
      simpa using length_le_sum_of_one_le (pieces.map _) (by simp)
    rw [map_cons, joinTexts_cons, length_append, length_cons]
    omega

private theorem readLobLiteral_of_head {constructor literal : Text}
    (hhead : literal.head? ≠ some '\'') :
    readLobLiteral constructor literal = readLobCalls constructor literal.length literal := by
  rcases literal with _ | ⟨ch, literal⟩
  · rfl
  · have hch : ch ≠ '\'' := by simpa using hhead
    simp [readLobLiteral, hch]

private theorem readLobLiteral_format {constructor : Text}
    (hconstructor : constructor ∈ oracleLobConstructors) :
    readLobLiteral constructor (formatOracleLobAssignmentLiteral text constructor) =
      some (oracleLobBodies text) := by
  obtain ⟨pieces, -, hbodies, hone, hmany, -⟩ := oracleLobBodies_eq text
  unfold formatOracleLobAssignmentLiteral
  rw [hbodies]
  cases hshort : isShortOracleText text with
  | true =>
    have hread := readLobBody_doubled text (show [].head? ≠ some '\'' by simp)
    simp [hone hshort, readLobLiteral, quoted, hread]
  | false =>
    rw [if_neg Bool.false_ne_true, map_map]
    have hjoin := readLobCalls_join constructor (hmany hshort)
      (length_le_length_join constructor pieces)
    rw [readLobLiteral_of_head, ← hjoin]
    · rfl
    · rcases pieces with _ | ⟨piece, pieces⟩
      · exact absurd rfl (hmany hshort)
      · rw [map_cons, joinTexts_cons]
        fin_cases hconstructor <;> simp

private theorem lobCutsExact : LobCutsExact oracleLobLimit text := by
  have hdecoded : ∀ pieces : List Text, (pieces.map doubled).mapM undouble = some pieces := by
    intro pieces
    induction pieces with
    | nil => rfl
    | cons piece pieces ih => simp [undouble_doubled, ih]
  intro constructor hconstructor
  obtain ⟨pieces, hflatten, hbodies, -, -, hlimit⟩ := oracleLobBodies_eq text
  refine ⟨_, readLobLiteral_format text hconstructor, ?_, ?_⟩
  · rw [hbodies, hdecoded, Option.map_some, hflatten]
  · rw [hbodies, length_map]
    exact forall_mem_map.mpr hlimit

/-! ### SQL Server -/

/-- The UTF-16 code units of a text. -/
def utf16Units : List Nat :=
  text.flatMap fun ch =>
    if ch.toNat < 0x10000 then [ch.toNat]
    else [0xd800 + (ch.toNat - 0x10000) / 0x400, 0xdc00 + (ch.toNat - 0x10000) % 0x400]

/-- How SQL Server reads strings: a backslash is an ordinary character. -/
def sqlserverStrings : SqlDialectProfile :=
  { SqlDialectProfile.forDatabaseType .sqlServer with supportsBackslashEscapedQuotes := false }

private theorem mem_joinTexts {ch : Char} {separator : Text} {parts : List Text}
    (h : ch ∈ joinTexts separator parts) : ch ∈ separator ∨ ∃ part ∈ parts, ch ∈ part := by
  rcases parts with _ | ⟨part, parts⟩
  · cases h
  rw [joinTexts_cons, mem_append, mem_flatMap] at h
  rcases h with h | ⟨other, hother, h⟩
  · exact .inr ⟨part, mem_cons_self, h⟩
  · rcases mem_append.mp h with h | h
    · exact .inl h
    · exact .inr ⟨other, mem_cons_of_mem _ hother, h⟩

private theorem lineBreak_not_mem {ch : Char} (hch : ch = '\r' ∨ ch = '\n') (text : Text) :
    ch ∉ formatSqlserverUnicodeLiteral text := by
  have hfixed : ∀ fixed ∈ ["N''", " + ", "NCHAR(13)", "NCHAR(10)", "CAST(N'' AS NVARCHAR(MAX))"],
      ch ∉ fixed.toList := by
    rcases hch with rfl | rfl <;> decide
  have hpart : ∀ part ∈ sqlserverLiteralParts [] text, ch ∉ part := by
    obtain ⟨pieces, hpieces, hfst, -⟩ := sqlserverLiteralParts_eq [] text (by simp) (by simp)
    rw [← hfst]
    intro part hpart
    obtain ⟨⟨_, stands⟩, hpiece, rfl⟩ := mem_map.mp hpart
    have hstands : SqlserverPart _ stands := hpieces _ hpiece
    cases hstands with
    | segment hreturn hfeed =>
      have hfree : ch ∉ stands := by rcases hch with rfl | rfl <;> assumption
      have hquote : ch ≠ '\'' ∧ ch ≠ 'N' := by rcases hch with rfl | rfl <;> decide
      intro hmem
      simp only [quoted, replaceChar, mem_cons, mem_append, mem_flatMap, hquote,
        false_or, not_mem_nil, or_false] at hmem
      obtain ⟨other, hother, hmem⟩ := hmem
      split at hmem
      · simp [hquote] at hmem
      · exact hfree (mem_singleton.mp hmem ▸ hother)
    | carriageReturn => exact hfixed "NCHAR(13)" (by simp)
    | lineFeed => exact hfixed "NCHAR(10)" (by simp)
  unfold formatSqlserverUnicodeLiteral
  dsimp only
  split
  · exact hfixed "N''" (by simp)
  · intro hmem
    rcases mem_joinTexts hmem with hmem | ⟨part, hmem, hin⟩
    · exact hfixed " + " (by simp) hmem
    · split at hmem
      · rcases mem_cons.mp hmem with rfl | hmem
        · exact hfixed "CAST(N'' AS NVARCHAR(MAX))" (by simp) hin
        · exact hpart part hmem hin
      · exact hpart part hmem hin

private theorem anchored_of_long {text : Text}
    (hlong : sqlserverNvarcharLiteralMaxChars < utf16Len text)
    (hparts : 1 < (sqlserverLiteralParts [] text).length) :
    "CAST(N'' AS NVARCHAR(MAX)) + " <+: formatSqlserverUnicodeLiteral text := by
  unfold formatSqlserverUnicodeLiteral
  match hshape : sqlserverLiteralParts [] text with
  | [] => rw [hshape] at hparts; cases hparts
  | [part] => rw [hshape] at hparts; cases hparts; contradiction
  | first :: second :: parts =>
    rw [if_neg (by simp), if_pos (by simpa using hlong), joinTexts, intercalate_cons_cons]
    exact prefix_append _ _

/-! ### Both -/

/-- The literal of a long text is read back as that text. In Oracle each piece is short enough. In
SQL Server no line break is left in a piece, and a sum that is longer than `NVARCHAR(4000)` starts
with an operand of the type `NVARCHAR(MAX)`. -/
theorem longText_exact (text : Text) : LobCutsExact oracleLobLimit text ∧
      (readLiteral sqlserverStrings (formatSqlserverUnicodeLiteral text)).map utf16Units =
        some (utf16Units text) ∧
      ('\r' ∉ formatSqlserverUnicodeLiteral text ∧ '\n' ∉ formatSqlserverUnicodeLiteral text) ∧
      (sqlserverNvarcharLiteralMaxChars < utf16Len text →
        1 < (sqlserverLiteralParts [] text).length →
        "CAST(N'' AS NVARCHAR(MAX)) + " <+: formatSqlserverUnicodeLiteral text) := by
  refine ⟨lobCutsExact text, ?_, ⟨lineBreak_not_mem (.inl rfl) text,
    lineBreak_not_mem (.inr rfl) text⟩, anchored_of_long⟩
  rw [readLiteral_of_spells (formatSqlserverUnicodeLiteral_spells fun h => absurd h (by decide)),
    Option.map_some]

private theorem not_lobCutsExact {length : Nat} (hlong : oracleLobLiteralChunkBytes < length)
    (hshort : length ≤ oracleSqlLiteralMaxBytes) :
    ¬LobCutsExact (fun _ => oracleLobLiteralChunkBytes) (replicate length 'x') := by
  intro h
  have hsum : ((replicate length 'x').map oracleSqlLiteralCharLen).sum = length := by
    simp [oracleSqlLiteralCharLen, show 'x'.utf8Size = 1 from rfl]
  have hsingle : isShortOracleText (replicate length 'x') := by
    rw [isShortOracleText, hsum]
    exact decide_eq_true hshort
  obtain ⟨bodies, hread, -, hbodies⟩ := h "TO_CLOB" mem_cons_self
  rw [readLobLiteral_format _ mem_cons_self, Option.some.injEq] at hread
  have hbody := hbodies (doubled (replicate length 'x')) (by
    rw [← hread, oracleLobBodies, if_pos hsingle, foldl_append]
    exact mem_singleton_self _)
  rw [utf8Len_doubled, hsum] at hbody
  exact absurd hlong (Nat.not_lt.mpr hbody)

/-- A single literal may be longer than a chunk. -/
theorem single_literal_exceeds_chunk :
    ¬LobCutsExact (fun _ => oracleLobLiteralChunkBytes) (replicate 3901 'x') :=
  not_lobCutsExact (by decide) (by decide)

end DbxSpec.Grid
