import DbxSpec.Grid.LiteralRead

/-!
# The literals the grid writes

Two tables decide about a backslash: the writer's, which doubles it or keeps it, and the profile's,
by which a literal is read. `BackslashesAgree` says that they agree on a text. Where they do, the
literal spells the text; where they do not, the literal is not read back as the text.
-/

namespace DbxSpec.Grid

open DbxSpec.Base DbxSpec.Sql List SqlDialectProfile LiteralSpells PieceSpells

/-- The writer doubles the backslashes of an ordinary literal. -/
def doublesBackslashes (databaseType : DatabaseType) : Bool :=
  databaseType != .sqlServer && !isSqliteLiteralDatabase (some databaseType) &&
    !keepsLiteralBackslashes (some databaseType)

/-- The writer and the profile agree about the backslashes of a text. PostgreSQL writes them into
an `E` string, which settles the matter. -/
def BackslashesAgree (databaseType : DatabaseType) (text : Text) : Prop :=
  '\\' ∉ text ∨ databaseType = .postgres ∨
    (SqlDialectProfile.forDatabaseType databaseType).supportsBackslashEscapedQuotes =
      doublesBackslashes databaseType
  deriving Decidable

/-! ### Escaping character by character -/

/-- A text operation that works on each character by itself. -/
def Charwise (escape : Text → Text) : Prop :=
  ∀ text, escape text = text.flatMap fun ch => escape [ch]

variable {text : Text}

private theorem charwise_replaceChar (target : Char) (replacement : Text) :
    Charwise (replaceChar target replacement) := by
  intro text
  simp [replaceChar]

private theorem Charwise.comp {outer inner : Text → Text} (houter : Charwise outer)
    (hinner : Charwise inner) : Charwise (outer ∘ inner) := by
  intro text
  calc outer (inner text) = (text.flatMap fun ch => inner [ch]).flatMap fun ch => outer [ch] := by
        rw [houter, hinner text]
    _ = text.flatMap fun ch => (inner [ch]).flatMap fun ch => outer [ch] := flatMap_assoc
    _ = text.flatMap fun ch => (outer ∘ inner) [ch] := by
        simp only [Function.comp_apply, ← houter (inner _)]

private theorem Charwise.bodySpells {escape : Text → Text} (hescape : Charwise escape)
    {ordinary escapes : Bool} (h : ∀ ch ∈ text, Spells ordinary escapes (escape [ch]) ch) :
    BodySpells ordinary escapes (escape text) text := by
  rw [hescape]
  induction text with
  | nil => exact .nil
  | cons ch rest ih =>
    exact .cons (h ch mem_cons_self) (ih fun c hc => h c (mem_cons_of_mem _ hc))

section Spellings

variable {ordinary escapes : Bool} {text : Text}

private theorem bodySpells_doubleQuotes (h : escapes → '\\' ∉ text) :
    BodySpells ordinary escapes (replaceChar '\'' "''" text) text := by
  apply (charwise_replaceChar '\'' _).bodySpells
  intro ch hch
  by_cases hquote : ch = '\''
  · subst hquote
    exact .doubled
  · have hplain : escapes → ch ≠ '\\' := fun hescapes heq => h hescapes (heq ▸ hch)
    simpa [replaceChar, hquote] using Spells.plain hquote hplain

private theorem bodySpells_escaped {quotes : Text} (hescapes : escapes = false → '\\' ∉ text)
    (hquotes : Spells ordinary escapes quotes '\'')
    {controls : Text → Text} (hcontrols : Charwise controls)
    (hplain : ∀ ch ∈ text, ch ≠ '\'' → ch ≠ '\\' → Spells ordinary escapes (controls [ch]) ch)
    (hkeepsQuotes : controls quotes = quotes)
    (hkeepsBackslashes : controls ['\\', '\\'] = ['\\', '\\']) :
    BodySpells ordinary escapes
      (controls (replaceChar '\'' quotes (replaceChar '\\' "\\\\" text))) text := by
  have hcharwise := hcontrols.comp ((charwise_replaceChar '\'' quotes).comp
    (charwise_replaceChar '\\' "\\\\"))
  apply hcharwise.bodySpells
  intro ch hch
  by_cases hquote : ch = '\''
  · subst hquote
    simpa [replaceChar, hkeepsQuotes] using hquotes
  · by_cases hslash : ch = '\\'
    · subst hslash
      have htrue : escapes := by
        cases escapes with
        | true => rfl
        | false => exact absurd hch (hescapes rfl)
      have hspelled : Spells ordinary escapes ['\\', '\\'] '\\' :=
        @Spells.escaped ordinary escapes '\\' htrue (by decide) (fun heq => absurd heq (by decide))
      simpa [replaceChar, hkeepsBackslashes] using hspelled
    · simpa [replaceChar, hquote, hslash] using hplain ch hch hquote hslash

private theorem bodySpells_subControl (escape : GridSubControlEscape) :
    BodySpells ordinary true (escapeGridSubControl
      (replaceChar '\'' "''" (replaceChar '\\' "\\\\" text)) escape) text := by
  have hcharwise : Charwise (escapeGridSubControl · escape) :=
    (charwise_replaceChar _ _).comp (charwise_replaceChar _ _)
  apply bodySpells_escaped (by simp) .doubled hcharwise
  · intro ch hch hquote hslash
    by_cases hnul : ch = '\x00'
    · subst hnul
      cases escape <;>
        exact @Spells.escaped ordinary true '0' rfl (by decide) (fun heq => absurd heq (by decide))
    · by_cases hsub : ch = '\x1a'
      · subst hsub
        cases escape with
        | backslashZ =>
          exact @Spells.escaped ordinary true 'Z' rfl (by decide)
            (fun heq => absurd heq (by decide))
        | hex => exact .code rfl (.inl rfl)
      · have hself : escapeGridSubControl [ch] escape = [ch] := by
          simp [escapeGridSubControl, replaceChar, hnul, hsub]
        rw [hself]
        exact .plain hquote fun _ => hslash
  · cases escape <;> rfl
  · cases escape <;> rfl

private theorem bodySpells_escapeString : BodySpells ordinary true (replaceChar '\x1a' "\\x1A"
      (replaceChar '\'' "''" (replaceChar '\\' "\\\\" text))) text := by
  apply bodySpells_escaped (by simp) .doubled (charwise_replaceChar _ _)
  · intro ch hch hquote hslash
    by_cases hsub : ch = '\x1a'
    · subst hsub
      exact .code rfl (.inr rfl)
    · have hself : replaceChar '\x1a' "\\x1A" [ch] = [ch] := by simp [replaceChar, hsub]
      rw [hself]
      exact .plain hquote fun _ => hslash
  · rfl
  · rfl

end Spellings

/-! ### SQL Server -/

section SqlServer

variable {profile : SqlDialectProfile} {text : Text}

private theorem literalSpells_join {pieces : List (Text × Text)}
    (h : ∀ piece ∈ pieces, PieceSpells profile piece.1 piece.2) (hne : pieces ≠ []) :
    LiteralSpells profile (joinTexts " + " (pieces.map Prod.fst))
      (pieces.map Prod.snd).flatten := by
  induction pieces with
  | nil => exact absurd rfl hne
  | cons piece rest ih =>
    have hpiece := h piece mem_cons_self
    cases rest with
    | nil => simpa [joinTexts] using single hpiece
    | cons next rest =>
      have hlater := ih (fun p hp => h p (mem_cons_of_mem _ hp)) (by simp)
      have hall := concat hpiece hlater
      simpa [joinTexts, intercalate_cons_cons] using hall

/-- A part of a literal and what it stands for: a line break, or characters between two. -/
inductive SqlserverPart : Text → Text → Prop
  | segment {text : Text} (hreturn : '\r' ∉ text) (hfeed : '\n' ∉ text) :
      SqlserverPart (nationalLiteral text) text
  | carriageReturn : SqlserverPart "NCHAR(13)" ['\r']
  | lineFeed : SqlserverPart "NCHAR(10)" ['\n']

/-- The parts of a literal stand for what has been read and what is still to be read. -/
theorem sqlserverLiteralParts_eq (segment text : Text) (hreturn : '\r' ∉ segment)
    (hfeed : '\n' ∉ segment) :
    ∃ pieces : List (Text × Text), (∀ piece ∈ pieces, SqlserverPart piece.1 piece.2) ∧
      pieces.map Prod.fst = sqlserverLiteralParts segment text ∧
      (pieces.map Prod.snd).flatten = segment ++ text := by
  induction text generalizing segment with
  | nil =>
    cases hempty : segment.isEmpty with
    | true => exact ⟨[], by simp, by simp [sqlserverLiteralParts, hempty], by simpa using hempty⟩
    | false =>
      exact ⟨[(nationalLiteral segment, segment)], by simpa using .segment hreturn hfeed,
        by simp [sqlserverLiteralParts, hempty], by simp⟩
  | cons ch rest ih =>
    -- a line break ends the segment and stands for itself
    have hbreak : ∀ part, SqlserverPart part [ch] →
        ∃ pieces : List (Text × Text), (∀ piece ∈ pieces, SqlserverPart piece.1 piece.2) ∧
          pieces.map Prod.fst = (if segment.isEmpty then [] else [nationalLiteral segment]) ++
            part :: sqlserverLiteralParts [] rest ∧
          (pieces.map Prod.snd).flatten = segment ++ ch :: rest := by
      intro part hpart
      obtain ⟨after, hafter, hfst, hsnd⟩ := ih [] (by simp) (by simp)
      cases hempty : segment.isEmpty with
      | true =>
        rw [isEmpty_iff.mp hempty]
        exact ⟨(part, [ch]) :: after, by simpa using ⟨hpart, by simpa using hafter⟩,
          by simp [hfst], by simp [hsnd]⟩
      | false =>
        exact ⟨(nationalLiteral segment, segment) :: (part, [ch]) :: after,
          by simpa using ⟨.segment hreturn hfeed, hpart, by simpa using hafter⟩,
          by simp [hfst], by simp [hsnd]⟩
    rw [sqlserverLiteralParts]
    by_cases hcr : ch = '\r'
    · rw [if_pos hcr]
      exact hbreak _ (hcr ▸ SqlserverPart.carriageReturn)
    · by_cases hlf : ch = '\n'
      · rw [if_neg hcr, if_pos hlf]
        exact hbreak _ (hlf ▸ SqlserverPart.lineFeed)
      · have hlater := ih (segment ++ [ch]) (by simp [hreturn, Ne.symm hcr])
          (by simp [hfeed, Ne.symm hlf])
        simpa [hcr, hlf] using hlater

private theorem sqlserverLiteralParts_spell
    (htext : profile.supportsBackslashEscapedQuotes → '\\' ∉ text) :
    ∃ pieces : List (Text × Text), (∀ piece ∈ pieces, PieceSpells profile piece.1 piece.2) ∧
      pieces.map Prod.fst = sqlserverLiteralParts [] text ∧
      (pieces.map Prod.snd).flatten = text := by
  obtain ⟨pieces, hpieces, hfst, hsnd⟩ := sqlserverLiteralParts_eq [] text (by simp) (by simp)
  rw [nil_append] at hsnd
  refine ⟨pieces, ?_, hfst, hsnd⟩
  rintro ⟨part, stands⟩ hpiece
  have hmem : ∀ ch ∈ stands, ch ∈ text := fun ch hch =>
    hsnd ▸ mem_flatten.mpr ⟨stands, mem_map_of_mem hpiece, hch⟩
  have hpart : SqlserverPart part stands := hpieces _ hpiece
  cases hpart with
  | segment =>
    exact .national (bodySpells_doubleQuotes fun hescapes hslash =>
      htext hescapes (hmem _ hslash))
  | carriageReturn =>
    exact @fixed _ ("NCHAR(13)", ['\r']) (by simp [fixedPieces])
  | lineFeed => exact @fixed _ ("NCHAR(10)", ['\n']) (by simp [fixedPieces])

/-- A SQL Server literal spells its text. -/
theorem formatSqlserverUnicodeLiteral_spells
    (h : profile.supportsBackslashEscapedQuotes → '\\' ∉ text) :
    LiteralSpells profile (formatSqlserverUnicodeLiteral text) text := by
  obtain ⟨pieces, hpieces, hfst, hsnd⟩ := sqlserverLiteralParts_spell h
  unfold formatSqlserverUnicodeLiteral
  rw [← hfst]
  cases hempty : pieces.isEmpty with
  | true =>
    have hnil : pieces = [] := by simpa using hempty
    subst hnil
    have htext : text = [] := by simpa using hsnd.symm
    subst htext
    exact .single (.national .nil)
  | false =>
    have hne : pieces ≠ [] := by simpa using hempty
    have hmap : (pieces.map Prod.fst).isEmpty = false := by simpa using hempty
    dsimp only
    rw [hmap, if_neg (by decide)]
    split
    · let anchor : Text × Text := ("CAST(N'' AS NVARCHAR(MAX))", [])
      have hall : ∀ piece ∈ anchor :: pieces, PieceSpells profile piece.1 piece.2 := by
        intro piece hpiece
        rcases mem_cons.mp hpiece with rfl | hmem
        · exact .fixed (by simp [fixedPieces, anchor])
        · exact hpieces piece hmem
      simpa [hsnd, anchor] using literalSpells_join hall (by simp)
    · simpa [hsnd] using literalSpells_join hpieces hne

end SqlServer

/-! ### Every dialect -/

variable {databaseType : DatabaseType}

private theorem supportsBackslashEscapedQuotes_of_subControl {escape : GridSubControlEscape}
    (h : gridSubControlEscape (some databaseType) = some escape) :
    (forDatabaseType databaseType).supportsBackslashEscapedQuotes := by
  cases databaseType <;> first | rfl | cases h

private theorem stringLiteral_spells (h : BackslashesAgree databaseType text) :
    LiteralSpells (forDatabaseType databaseType) (stringLiteral (some databaseType) text) text := by
  unfold stringLiteral
  split_ifs with hpostgres hsqlserver hneo4j hkeeps
  · -- an `E` string reads escapes whatever ordinary strings do
    obtain ⟨hpostgres, -⟩ := hpostgres
    cases hpostgres
    exact .single (.escape rfl bodySpells_escapeString)
  · cases hsqlserver
    have hplain : '\\' ∉ text := by
      rcases h with h | h | h
      · exact h
      · cases h
      · cases h
    exact formatSqlserverUnicodeLiteral_spells fun _ => hplain
  · cases hneo4j
    have hquote : Spells true true ['\\', '\''] '\'' :=
      @Spells.escaped true true '\'' rfl (by decide) fun _ => rfl
    have hbody : BodySpells true true
        (replaceChar '\'' "\\'" (replaceChar '\\' "\\\\" text)) text :=
      bodySpells_escaped (by simp) hquote (fun text => (flatMap_singleton' text).symm)
        (fun ch _ hquote hslash => .plain hquote fun _ => hslash) rfl rfl
    exact .single (.string hbody)
  · have hdoubles : doublesBackslashes databaseType = false := by
      unfold doublesBackslashes
      rcases Bool.or_eq_true_iff.mp hkeeps with hsqlite | hkept
      · simp [hsqlite]
      · simp [hkept]
    refine .single (.string (bodySpells_doubleQuotes fun hescapes => ?_))
    rcases h with h | rfl | h
    · exact h
    · cases hescapes
    · rw [hescapes, hdoubles] at h
      cases h
  · have hdoubles : doublesBackslashes databaseType := by
      have hne : databaseType ≠ .sqlServer := fun heq => hsqlserver (congrArg some heq)
      simp only [Bool.or_eq_true, not_or, Bool.not_eq_true] at hkeeps
      simp [doublesBackslashes, hne, hkeeps.1, hkeeps.2]
    have hescapes : (forDatabaseType databaseType).supportsBackslashEscapedQuotes = false →
          '\\' ∉ text := by
      intro hfalse
      rcases h with h | rfl | h
      · exact h
      · intro hmem
        exact hpostgres ⟨rfl, .inl (contains_iff_mem.mpr hmem)⟩
      · rw [hfalse, hdoubles] at h
        cases h
    split
    · next escape hescape =>
      have hprofile := supportsBackslashEscapedQuotes_of_subControl hescape
      apply single
      apply string
      rw [hprofile]
      exact bodySpells_subControl escape
    · apply single
      apply string
      exact bodySpells_escaped hescapes .doubled (fun text => (flatMap_singleton' text).symm)
        (fun ch _ hquote hslash => .plain hquote fun _ => hslash) rfl rfl

/-! ### Disagreement -/

private theorem count_replaceChar {target : Char} {replacement : Text} {k : Nat}
    (h : ∀ ch, (replaceChar target replacement [ch]).count '\\' = k * [ch].count '\\')
    (text : Text) : (replaceChar target replacement text).count '\\' = k * text.count '\\' := by
  induction text with
  | nil => rfl
  | cons ch rest ih =>
    have hcons : replaceChar target replacement (ch :: rest) =
        replaceChar target replacement [ch] ++ replaceChar target replacement rest := by
      simp [replaceChar]
    rw [hcons, count_append, h, ih, ← Nat.mul_add, ← count_append]
    rfl

private theorem count_doubleQuotes (text : Text) :
    (replaceChar '\'' "''" text).count '\\' = text.count '\\' := by
  have hone : ∀ ch, (replaceChar '\'' "''" [ch]).count '\\' = 1 * [ch].count '\\' := by
    intro ch
    by_cases hch : ch = '\'' <;> simp [replaceChar, hch]
  rw [count_replaceChar hone, Nat.one_mul]

private theorem count_nationalLiteral (segment : Text) :
    (nationalLiteral segment).count '\\' = segment.count '\\' := by
  rw [nationalLiteral, quoted, cons_append, count_cons_of_ne (by decide),
    count_cons_of_ne (by decide), count_append, count_doubleQuotes]
  rfl

private theorem count_sqlserverLiteralParts (text : Text) :
    ((sqlserverLiteralParts [] text).map (count '\\')).sum = text.count '\\' := by
  obtain ⟨pieces, hpieces, hfst, hsnd⟩ := sqlserverLiteralParts_eq [] text (by simp) (by simp)
  have hcount : ∀ piece ∈ pieces, piece.1.count '\\' = piece.2.count '\\' := by
    rintro ⟨part, stands⟩ hpiece
    have hpart : SqlserverPart part stands := hpieces _ hpiece
    cases hpart with
    | segment => exact count_nationalLiteral stands
    | carriageReturn | lineFeed => decide
  rw [nil_append] at hsnd
  rw [← hfst, ← hsnd, count_flatten, map_map, map_map]
  exact congrArg sum (map_congr_left hcount)

private theorem count_joinTexts {separator : Text} (h : '\\' ∉ separator) (parts : List Text) :
    (joinTexts separator parts).count '\\' = (parts.map (count '\\')).sum := by
  have hnone : separator.count '\\' = 0 := count_eq_zero_of_not_mem h
  induction parts with
  | nil => rfl
  | cons part rest ih =>
    rcases rest with _ | ⟨next, rest⟩
    · simp [joinTexts]
    rw [joinTexts, intercalate_cons_cons, count_append, count_append, hnone]
    rw [joinTexts] at ih
    rw [ih, Nat.add_zero]
    rfl

private theorem count_stringLiteral (hpostgres : databaseType ≠ .postgres)
    (h : doublesBackslashes databaseType = false) (text : Text) :
    (stringLiteral (some databaseType) text).count '\\' = text.count '\\' := by
  unfold stringLiteral
  rw [if_neg fun hand => hpostgres (Option.some.inj hand.1)]
  by_cases hsqlserver : databaseType = .sqlServer
  · have hparts := count_sqlserverLiteralParts text
    rw [if_pos (congrArg some hsqlserver), formatSqlserverUnicodeLiteral]
    split_ifs with hempty hlong
    · rw [isEmpty_iff.mp hempty] at hparts
      simpa using hparts
    · rw [count_joinTexts (by decide), map_cons, sum_cons, hparts]
      exact Nat.zero_add _
    · rw [count_joinTexts (by decide), hparts]
  · have hkeeps : (isSqliteLiteralDatabase (some databaseType) ||
        keepsLiteralBackslashes (some databaseType)) := by
      simpa [doublesBackslashes, hsqlserver, imp_iff_not_or] using h
    have hneo4j : databaseType ≠ .neo4j := by
      rintro rfl
      cases hkeeps
    rw [if_neg fun heq => hsqlserver (Option.some.inj heq),
      if_neg fun heq => hneo4j (Option.some.inj heq), if_pos hkeeps, quoted, cons_append,
      count_cons_of_ne (by decide), count_append, count_doubleQuotes]
    rfl

/-- A text with a backslash changes when its backslashes are doubled. -/
theorem doubledBackslashes_ne (h : '\\' ∈ text) : replaceChar '\\' "\\\\" text ≠ text := by
  have htwo : ∀ ch, (replaceChar '\\' "\\\\" [ch]).count '\\' = 2 * [ch].count '\\' := by
    intro ch
    by_cases hch : ch = '\\' <;> simp [replaceChar, hch]
  intro heq
  have hpos : 0 < text.count '\\' := count_pos_iff.mpr h
  have hdoubled := count_replaceChar htwo text
  rw [heq] at hdoubled
  omega

private theorem readLiteral_ne_of_disagree (h : ¬BackslashesAgree databaseType text) :
    readLiteral (forDatabaseType databaseType)
      (stringLiteral (some databaseType) text) ≠ some text := by
  unfold BackslashesAgree at h
  simp only [not_or, not_not] at h
  obtain ⟨hmem, hpostgres, hdiffer⟩ := h
  have hpos : 0 < text.count '\\' := count_pos_iff.mpr hmem
  intro hread
  cases hprofile : (forDatabaseType databaseType).supportsBackslashEscapedQuotes
      with
  | true =>
    -- the writer keeps the backslashes and the reader takes two for one
    have hkeeps : doublesBackslashes databaseType = false := by
      rw [hprofile] at hdiffer
      simpa using hdiffer
    have hcount := count_readLiteral hprofile hread
    rw [count_stringLiteral hpostgres hkeeps] at hcount
    omega
  | false =>
    -- the writer doubles the backslashes and the reader takes them as they are
    have hdoubles : doublesBackslashes databaseType := by
      rw [hprofile] at hdiffer
      simpa using hdiffer
    have hliteral : stringLiteral (some databaseType) text =
        quoted (replaceChar '\'' "''" (replaceChar '\\' "\\\\" text)) := by
      simp only [doublesBackslashes, Bool.and_eq_true, bne_iff_ne, Bool.not_eq_true'] at hdoubles
      have hneo4j : databaseType ≠ .neo4j := by
        rintro rfl
        cases hprofile
      have hnone : gridSubControlEscape (some databaseType) = none := by
        rcases hescape : gridSubControlEscape (some databaseType) with _ | escape
        · rfl
        rw [supportsBackslashEscapedQuotes_of_subControl hescape] at hprofile
        cases hprofile
      simp [stringLiteral, hpostgres, hdoubles.1.1, hdoubles.1.2, hdoubles.2, hneo4j, hnone]
    have hspells : LiteralSpells (forDatabaseType databaseType)
        (stringLiteral (some databaseType) text)
        (replaceChar '\\' "\\\\" text) := by
      rw [hliteral]
      refine .single (.string (bodySpells_doubleQuotes fun hescapes => ?_))
      rw [hprofile] at hescapes
      cases hescapes
    rw [readLiteral_of_spells hspells] at hread
    exact doubledBackslashes_ne hmem (Option.some.inj hread)

/-! ### Timestamps of TDengine -/

private theorem splitAtByte_eq_some {offset : Nat} {front back : Text}
    (h : splitAtByte offset text = some (front, back)) :
    text = front ++ back ∧ charAtByte text offset = back.head? := by
  induction text generalizing offset front back with
  | nil =>
    cases offset with
    | zero =>
      cases h
      exact ⟨rfl, rfl⟩
    | succ offset => cases h
  | cons ch rest ih =>
    cases offset with
    | zero =>
      cases h
      exact ⟨rfl, rfl⟩
    | succ offset =>
      rw [splitAtByte] at h
      split at h
      · next hsize =>
        obtain ⟨⟨front', back'⟩, hcut, heq⟩ := Option.map_eq_some_iff.mp h
        cases heq
        obtain ⟨htext, hhead⟩ := ih hcut
        rw [charAtByte, if_pos hsize]
        exact ⟨congrArg (ch :: ·) htext, hhead⟩
      · cases h

private theorem parseTdengineTimestamp_eq_some {date time : Text} {fraction : Option Text}
    (h : parseTdengineTimestamp text = some (date, time, fraction)) :
    ∃ rest, text = date ++ ' ' :: rest := by
  unfold parseTdengineTimestamp at h
  split_ifs at h with hshort hblank hcolon
  simp only [Option.bind_eq_bind, Option.bind_eq_some_iff] at h
  obtain ⟨⟨front, back⟩, hcut, ⟨time', rest⟩, -, h⟩ := h
  have hdate : front = date := by
    split at h
    · cases h
      rfl
    · split at h
      · cases h
      · cases h
        rfl
    · cases h
  obtain ⟨htext, hhead⟩ := splitAtByte_eq_some hcut
  have hspace : charAtByte text 10 = some ' ' := by
    by_contra hne
    simp [hne] at hblank
  rw [hspace] at hhead
  obtain ⟨tail, htail⟩ := head?_eq_some_iff.mp hhead.symm
  exact ⟨tail, by rw [htext, htail, hdate]⟩

section

variable (forms : LiteralForms)

private theorem formatTdengineTimestampLiteralText_eq_self_iff (text : Text) :
    formatTdengineTimestampLiteralText forms text = text ↔ parseTdengineTimestamp text = none := by
  unfold formatTdengineTimestampLiteralText
  split
  · next hnone => exact ⟨fun _ => hnone, fun _ => rfl⟩
  · next date time fraction hsome =>
    rw [hsome]
    refine ⟨fun heq => ?_, fun hnone => absurd hnone (by simp)⟩
    obtain ⟨rest, htext⟩ := parseTdengineTimestamp_eq_some hsome
    rw [htext] at heq
    simp at heq

/-! ### Reading the grid's literals back -/

/-- The literal of a text in a `varchar` column is read back as the text exactly when writer and
profile agree about its backslashes and it is no timestamp written for TDengine. -/
theorem readLiteral_format_iff (databaseType : DatabaseType)
    {column : DataGridColumnInfo} (hcolumn : column.dataType = "varchar")
    (identifierQuote : Option Text) (spatialSrid : Option Nat) (text : Text) :
    readLiteral (forDatabaseType databaseType)
        (formatGridSqlLiteralWithSpatial forms (.string text) (some databaseType) (some column)
          identifierQuote spatialSrid) = some text ↔
      BackslashesAgree databaseType text ∧
        ¬(databaseType = .tdengine ∧ (parseTdengineTimestamp text).isSome) := by
  rw [formatGridSqlLiteralWithSpatial_varchar forms databaseType hcolumn]
  cases text with
  | nil =>
    have hagree : BackslashesAgree databaseType [] := .inl (by simp)
    have hnone : parseTdengineTimestamp [] = none := rfl
    have hread : readLiteral (forDatabaseType databaseType)
        (if databaseType = .sqlServer then "N''" else "''") = some [] := by
      split_ifs
      · exact readLiteral_of_spells (.single (.national .nil))
      · exact readLiteral_of_spells (.single (.string .nil))
    simpa [hnone, hagree] using hread
  | cons ch rest =>
    rw [if_neg (by simp)]
    by_cases htdengine : databaseType = .tdengine
    · subst htdengine
      have hagree : ∀ text, BackslashesAgree .tdengine text := fun _ => .inr (.inr rfl)
      rw [if_pos rfl, readLiteral_of_spells (stringLiteral_spells (hagree _)), Option.some.injEq,
        formatTdengineTimestampLiteralText_eq_self_iff]
      simp [hagree]
    · simp only [htdengine, false_and, not_false_eq_true, and_true]
      constructor
      · intro hread
        by_contra hdisagree
        exact readLiteral_ne_of_disagree hdisagree hread
      · exact fun hagree => readLiteral_of_spells (stringLiteral_spells hagree)

/-- Where writer and profile agree, the literal spells some text. -/
theorem format_spells {column : DataGridColumnInfo}
    (hcolumn : column.dataType = "varchar") (identifierQuote : Option Text)
    (spatialSrid : Option Nat) (h : BackslashesAgree databaseType text) :
    ∃ spelled, LiteralSpells (forDatabaseType databaseType)
      (formatGridSqlLiteralWithSpatial forms (.string text) (some databaseType) (some column)
        identifierQuote spatialSrid) spelled := by
  rw [formatGridSqlLiteralWithSpatial_varchar forms databaseType hcolumn]
  split_ifs with hempty hsqlserver htdengine
  · exact ⟨[], .single (.national .nil)⟩
  · exact ⟨[], .single (.string .nil)⟩
  · subst htdengine
    exact ⟨_, stringLiteral_spells (.inr (.inr rfl))⟩
  · exact ⟨_, stringLiteral_spells h⟩

end

end DbxSpec.Grid
