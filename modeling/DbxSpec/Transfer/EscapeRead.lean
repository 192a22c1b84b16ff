import DbxSpec.Grid.LiteralSpelling
import DbxSpec.Transfer.EscapeValue

/-!
# Reading a transferred literal

The rules by which a target reads a string: a doubled quote is a quote, and a backslash escapes in
the ordinary strings of the MySQL family and of ClickHouse and in the `E` strings of PostgreSQL. The
literal of a text or object is read as that text, and to its closing quote, exactly if the target's
rules for backslashes are those that the literal was written for.
-/

namespace DbxSpec.Transfer

open DbxSpec.Base DbxSpec.Sql DbxSpec.Grid List

/-! ### The reader -/

/-- The escapes that a string may read. -/
inductive EscapeRules
  | standard
  | mysql
  | clickHouse
  | postgres
  deriving DecidableEq, Repr

namespace EscapeRules

/-- Whether a backslash escapes. -/
def escapes : EscapeRules → Bool
  | standard => false
  | _ => true

/-- Whether `\x` starts a code of two hexadecimal digits. -/
def readsCodes : EscapeRules → Bool
  | clickHouse | postgres => true
  | _ => false

/-- What a backslash and one character stand for. The octal and Unicode escapes of PostgreSQL are
not read. -/
def unescape (rules : EscapeRules) (ch : Char) : Option Char :=
  if ch = 'n' then some '\n'
  else if ch = 'r' then some '\r'
  else if ch = 't' then some '\t'
  else if ch = 'b' then some '\x08'
  else match rules with
    | mysql => if ch = '0' then some '\x00' else if ch = 'Z' then some '\x1a' else some ch
    | clickHouse =>
      if ch = '0' then some '\x00' else if ch = 'f' then some '\x0c'
      else if ch = 'a' then some '\x07' else if ch = 'v' then some '\x0b' else some ch
    | postgres =>
      if ch = 'f' then some '\x0c' else if ch.isDigit || ch == 'u' || ch == 'U' then none
      else some ch
    | standard => some ch

end EscapeRules

/-- The value of a hexadecimal digit. -/
def hexDigitValue (ch : Char) : Option Nat :=
  if ch.isDigit then some (ch.toNat - '0'.toNat)
  else if 'a' ≤ ch ∧ ch ≤ 'f' then some (ch.toNat - 'a'.toNat + 10)
  else if 'A' ≤ ch ∧ ch ≤ 'F' then some (ch.toNat - 'A'.toNat + 10)
  else none

/-- Where the reader stands: in the text, after a quote, after a backslash, or in a code. -/
inductive QuotedMode
  | body
  | quote
  | escape
  | code
  | digit (high : Nat)
  deriving DecidableEq, Repr

/-- Read a string whose opening quote has been read: what it stands for and the text after it. A
code stands for an ASCII character that is not NUL. -/
def readQuoted (rules : EscapeRules) : QuotedMode → Text → Option (Text × Text)
  | .body, [] => none
  | .body, ch :: rest =>
    if ch = '\'' then readQuoted rules .quote rest
    else if rules.escapes ∧ ch = '\\' then readQuoted rules .escape rest
    else (readQuoted rules .body rest).map (putFront ch)
  | .quote, [] => some ([], [])
  | .quote, ch :: rest =>
    if ch = '\'' then (readQuoted rules .body rest).map (putFront '\'')
    else some ([], ch :: rest)
  | .escape, [] => none
  | .escape, ch :: rest =>
    if rules.readsCodes ∧ ch = 'x' then readQuoted rules .code rest
    else match rules.unescape ch with
      | some other => (readQuoted rules .body rest).map (putFront other)
      | none => none
  | .code, [] => none
  | .code, ch :: rest =>
    match hexDigitValue ch with
    | some high => readQuoted rules (.digit high) rest
    | none => none
  | .digit _, [] => none
  | .digit high, ch :: rest =>
    match hexDigitValue ch with
    | some low =>
      if 16 * high + low = 0 ∨ 128 ≤ 16 * high + low then none
      else (readQuoted rules .body rest).map (putFront (Char.ofNat (16 * high + low)))
    | none => none

/-- The escapes of a target's ordinary strings. -/
def ordinaryRules (target : DatabaseType) : EscapeRules :=
  if isMysqlFamilyTarget target then .mysql
  else if target = .clickHouse then .clickHouse
  else .standard

/-- Read a string literal of a target at the start of a text. -/
def readStringLiteral (target : DatabaseType) (text : Text) : Option (Text × Text) :=
  match text with
  | '\'' :: rest => readQuoted (ordinaryRules target) .body rest
  | 'N' :: '\'' :: rest => if target = .sqlServer then readQuoted .standard .body rest else none
  | 'E' :: '\'' :: rest =>
    if isPostgresFamilyTarget target then readQuoted .postgres .body rest else none
  | _ => none

/-! ### What is written is read -/

section Reads

variable {rules : EscapeRules}

/-- The reader takes a stretch of text for one character. -/
def UnitReads (rules : EscapeRules) (unit : Text) (ch : Char) : Prop :=
  ∀ rest, readQuoted rules .body (unit ++ rest) =
    (readQuoted rules .body rest).map (putFront ch)

variable {text rest : Text} {ch : Char}

private theorem unitReads_plain (hquote : ch ≠ '\'') (hbackslash : rules.escapes → ch ≠ '\\') :
    UnitReads rules [ch] ch := by
  intro rest
  have hplain : ¬ (rules.escapes ∧ ch = '\\') := fun h => hbackslash h.1 h.2
  rw [singleton_append, readQuoted, if_neg hquote, if_neg hplain]

private theorem unitReads_quote : UnitReads rules ['\'', '\''] '\'' := fun _ => rfl

private theorem unitReads_escape {ch other : Char} (hescapes : rules.escapes)
    (hcode : rules.readsCodes → ch ≠ 'x') (hunescape : rules.unescape ch = some other) :
    UnitReads rules ['\\', ch] other := by
  intro rest
  have hnocode : ¬ (rules.readsCodes ∧ ch = 'x') := fun h => hcode h.1 h.2
  rw [show ['\\', ch] ++ rest = '\\' :: ch :: rest from rfl, readQuoted, if_neg (by decide),
    if_pos ⟨hescapes, rfl⟩, readQuoted, if_neg hnocode, hunescape]

private theorem unitReads_code {high low : Nat} {first second : Char} (hescapes : rules.escapes)
    (hcodes : rules.readsCodes) (hfirst : hexDigitValue first = some high)
    (hsecond : hexDigitValue second = some low) (hpos : 16 * high + low ≠ 0)
    (hlt : 16 * high + low < 128) :
    UnitReads rules ['\\', 'x', first, second] (Char.ofNat (16 * high + low)) := by
  intro rest
  have hrange : ¬ (16 * high + low = 0 ∨ 128 ≤ 16 * high + low) := by omega
  rw [show ['\\', 'x', first, second] ++ rest = '\\' :: 'x' :: first :: second :: rest from rfl,
    readQuoted, if_neg (by decide), if_pos ⟨hescapes, rfl⟩, readQuoted, if_pos ⟨hcodes, rfl⟩,
    readQuoted, hfirst]
  dsimp only
  rw [readQuoted, hsecond]
  simp only [if_neg hrange]

section

variable (hrest : rest.head? ≠ some '\'')

include hrest

/-- A text whose characters are read one by one is read, up to the closing quote. -/
theorem readQuoted_flatMap {write : Char → Text}
    (hunits : ∀ ch ∈ text, UnitReads rules (write ch) ch) :
    readQuoted rules .body (text.flatMap write ++ '\'' :: rest) = some (text, rest) := by
  induction text with
  | nil =>
    cases rest with
    | nil => rfl
    | cons ch rest =>
      have hch : ch ≠ '\'' := by simpa using hrest
      simp [readQuoted, hch]
  | cons ch text ih =>
    rw [flatMap_cons, append_assoc, hunits ch (by simp),
      ih fun other hother => hunits other (by simp [hother])]
    rfl

/-- Quotes twice. -/
theorem readQuoted_replaceQuotes (hrules : rules.escapes → '\\' ∉ text) :
    readQuoted rules .body (replaceChar '\'' "''" text ++ '\'' :: rest) = some (text, rest) := by
  apply readQuoted_flatMap hrest _
  intro ch hch
  by_cases hquote : ch = '\''
  · rw [if_pos hquote, hquote]
    exact unitReads_quote
  · rw [if_neg hquote]
    apply unitReads_plain hquote
    rintro hescapes rfl
    exact hrules hescapes hch

private theorem readQuoted_replaceBoth (hrules : rules = .mysql ∨ rules = .clickHouse) :
    readQuoted rules .body (replaceChar '\'' "''" (replaceChar '\\' "\\\\" text) ++ '\'' :: rest) =
      some (text, rest) := by
  have hboth : replaceChar '\'' "''" (replaceChar '\\' "\\\\" text) =
      text.flatMap fun ch => replaceChar '\'' "''"
        (if ch = '\\' then "\\\\" else [ch]) := flatMap_assoc
  rw [hboth]
  apply readQuoted_flatMap hrest _
  intro ch _
  by_cases hslash : ch = '\\'
  · subst hslash
    rcases hrules with rfl | rfl <;> exact unitReads_escape rfl (by decide) rfl
  · rw [if_neg hslash]
    by_cases hquote : ch = '\''
    · subst hquote
      exact unitReads_quote
    · have hsingle : replaceChar '\'' "''" [ch] = [ch] := by simp [replaceChar, hquote]
      rw [hsingle]
      exact unitReads_plain hquote fun _ => hslash

end

private theorem hexDigitValue_hexDigit :
    ∀ value < 16, hexDigitValue (hexDigit value) = some value := by
  decide

/-- What an escape string writes for a character is read as that character. -/
theorem unitReads_escapePostgresChar (hnul : ch ≠ '\x00') :
    UnitReads .postgres (escapePostgresChar ch) ch := by
  unfold escapePostgresChar
  split_ifs with hslash hlf hcr htab hbs hff hquote hcontrol
  iterate 6
    · subst ch
      exact unitReads_escape rfl (by decide) rfl
  · subst hquote
    exact unitReads_quote
  · have hlt : ch.toNat < 128 := by
      simp only [isAsciiControl, Bool.or_eq_true, decide_eq_true_eq, beq_iff_eq] at hcontrol
      omega
    have hpos : ch.toNat ≠ 0 := by
      intro hzero
      apply hnul
      rw [← Char.ofNat_toNat ch, hzero]
    have hcode : UnitReads .postgres ['\\', 'x', hexDigit (ch.toNat / 16), hexDigit (ch.toNat % 16)]
        (Char.ofNat (16 * (ch.toNat / 16) + ch.toNat % 16)) :=
      unitReads_code rfl rfl (hexDigitValue_hexDigit _ (by omega))
        (hexDigitValue_hexDigit _ (by omega)) (by omega) (by omega)
    rwa [show 16 * (ch.toNat / 16) + ch.toNat % 16 = ch.toNat by omega, Char.ofNat_toNat] at hcode
  · exact unitReads_plain hquote fun _ => hslash

private theorem readStringLiteral_quotePostgres (hnul : '\x00' ∉ text)
    (hrest : rest.head? ≠ some '\'') :
    readStringLiteral .postgres (quotePostgresStringLiteral text ++ rest) = some (text, rest) := by
  unfold quotePostgresStringLiteral
  split
  · have hread : readQuoted (ordinaryRules .postgres) .body
        (replaceChar '\'' "''" text ++ '\'' :: rest) = some (text, rest) :=
      readQuoted_replaceQuotes hrest (fun h => absurd h (by decide))
    simpa [quoteStringLiteral, quoted, readStringLiteral] using hread
  · have hunits : ∀ ch ∈ text, UnitReads .postgres (escapePostgresChar ch) ch :=
      fun ch hch => unitReads_escapePostgresChar fun heq => hnul (heq ▸ hch)
    have hread := readQuoted_flatMap hrest hunits
    simpa [quoted, readStringLiteral, isPostgresFamilyTarget] using hread

end Reads

/-! ### Plain columns -/

/-- The names that the types of character and JSON columns start with. -/
def plainTypeNames : List Text :=
  ["char", "nchar", "varchar", "nvarchar", "bpchar", "text", "ntext", "tinytext", "mediumtext",
    "longtext", "clob", "nclob", "string", "fixedstring", "json"].map String.toList

/-- The type of a character or JSON column. -/
def isPlainColumnType (columnType : Text) : Bool :=
  plainTypeNames.any fun name => name.isPrefixOf (toAsciiLowercase (trim columnType))

/-- Some names that no plain type can be taken for: none starts like one. -/
def farFromPlain (names : List String) : Bool :=
  names.all fun name => plainTypeNames.all fun plain => !plain.isPrefixOf name.toList

private theorem toLower_of_isWhitespace (h : isWhitespace ch) : ch.toLower = ch := by
  rw [Char.toLower, dif_neg]
  rintro ⟨hlow, hhigh⟩
  have hlow' : 65 ≤ ch.toNat := UInt32.le_iff_toNat_le.mp hlow
  have hhigh' : ch.toNat ≤ 90 := UInt32.le_iff_toNat_le.mp hhigh
  simp only [isWhitespace, Bool.or_eq_true, Bool.and_eq_true, decide_eq_true_eq, beq_iff_eq] at h
  omega

section Plain

variable {columnType : Text} (hplain : isPlainColumnType columnType)

include hplain

section

variable {separators : List Char}
  (hseparators : plainTypeNames.all (fun name => name.all fun ch => !separators.contains ch))

include hseparators

private theorem isPrefixOf_firstPiece :
    ∃ name ∈ plainTypeNames, name <+: typeBase separators columnType := by
  obtain ⟨name, hname, hprefix⟩ := any_eq_true.mp hplain
  obtain ⟨rest, hrest⟩ := List.isPrefixOf_iff_prefix.mp hprefix
  have hletters := all_eq_true.mp (all_eq_true.mp hseparators name hname)
  refine ⟨name, hname, rest.takeWhile (fun ch => !separators.contains ch), ?_⟩
  rw [typeBase, firstPiece, ← hrest, takeWhile_append_of_pos hletters]

private theorem isOneOf_typeBase (names : List String) (hnames : farFromPlain names) :
    isOneOf names (typeBase separators columnType) = false := by
  obtain ⟨name, hname, hprefix⟩ := isPrefixOf_firstPiece hplain hseparators
  rw [Bool.eq_false_iff]
  intro hone
  obtain ⟨candidate, hcandidate, heq⟩ := mem_map.mp (contains_iff_mem.mp hone)
  have hfar := all_eq_true.mp (all_eq_true.mp hnames candidate hcandidate) name hname
  rw [heq, List.isPrefixOf_iff_prefix.mpr hprefix] at hfar
  exact absurd hfar (by decide)

end

private theorem temporalColumnKind_plain : temporalColumnKind columnType = none := by
  have hnone := @isOneOf_typeBase _ hplain ['(', ':', ' '] rfl
  simp only [temporalColumnKind, hnone ["date"] rfl, hnone ["time"] rfl,
    hnone ["datetime", "timestamp"] rfl, Bool.false_eq_true, if_false]

private theorem isBinaryTransferColumnType_plain : isBinaryTransferColumnType columnType = false :=
  isOneOf_typeBase hplain rfl _ rfl

private theorem isMysqlNumericBaseType_plain : isMysqlNumericBaseType columnType = false :=
  isOneOf_typeBase hplain rfl _ rfl

private theorem postgresIntegerBounds_plain : postgresIntegerBounds columnType = none := by
  have hnone := @isOneOf_typeBase _ hplain ['(', ' '] rfl
  simp only [postgresIntegerBounds, hnone ["smallint", "int2"] rfl,
    hnone ["integer", "int4"] rfl, hnone ["bigint", "int8"] rfl, Bool.false_eq_true, if_false]

private theorem sqlserverIntegerBounds_plain : sqlserverIntegerBounds columnType = none := by
  have hnone := @isOneOf_typeBase _ hplain ['(', ' '] rfl
  simp only [sqlserverIntegerBounds, hnone ["bit"] rfl, hnone ["tinyint"] rfl,
    hnone ["smallint"] rfl, hnone ["int", "integer"] rfl, hnone ["bigint"] rfl,
    Bool.false_eq_true, if_false]

private theorem isSqlserverTemporalColumnType_plain :
    isSqlserverTemporalColumnType columnType = false := by
  have hnone : isOneOf ["date", "daten", "smalldatetime", "datetime", "datetimen", "datetime4",
      "datetime2", "time", "timen", "datetimeoffset", "datetimeoffsetn"]
      (typeBase ['(', ' ', '\t', '\n'] columnType) = false := isOneOf_typeBase hplain rfl _ rfl
  rw [Bool.eq_false_iff] at hnone ⊢
  intro htemporal
  apply hnone
  obtain ⟨name, hname, heq⟩ := any_eq_true.mp htemporal
  exact contains_iff_mem.mpr (mem_map.mpr ⟨name, hname, (beq_iff_eq.mp heq).symm⟩)

private theorem isMysqlBitType_plain : isMysqlBitType columnType = false := by
  obtain ⟨name, hname, hprefix⟩ := any_eq_true.mp hplain
  obtain ⟨rest, hrest⟩ := List.isPrefixOf_iff_prefix.mp hprefix
  rw [isMysqlBitType, ← hrest]
  simp only [plainTypeNames, map_cons, map_nil, mem_cons, not_mem_nil, or_false] at hname
  rcases hname with rfl | rfl | rfl | rfl | rfl | rfl | rfl | rfl | rfl | rfl | rfl | rfl | rfl |
    rfl | rfl <;> rfl

private theorem isStarrocksJsonArrayType_plain : isStarrocksJsonArrayType columnType = false := by
  obtain ⟨name, hname, hprefix⟩ := any_eq_true.mp hplain
  obtain ⟨rest, hrest⟩ := List.isPrefixOf_iff_prefix.mp hprefix
  obtain ⟨lead, trail, hdecompose, hlead, -⟩ := trim_decompose columnType
  -- the first character of the type itself is no white space and no `a`
  have hnames : plainTypeNames.all (fun name => name.head?.any
      fun ch => ch != 'a' && !isWhitespace ch) := rfl
  have hany := all_eq_true.mp hnames name hname
  rw [Option.any_eq_true] at hany
  obtain ⟨first, hhead, hfirst⟩ := hany
  simp only [Bool.and_eq_true, bne_iff_ne, Bool.not_eq_true'] at hfirst
  obtain ⟨letters, rfl⟩ := head?_eq_some_iff.mp hhead
  obtain ⟨ch, more, htrim, hlower, -⟩ := map_eq_cons_iff.mp
    (show (trim columnType).map Char.toLower = first :: (letters ++ rest) from hrest.symm)
  have hnospace : isAsciiWhitespace ch = false := by
    rw [Bool.eq_false_iff]
    intro hspace
    have hwide := isWhitespace_of_ascii hspace
    rw [← hlower, toLower_of_isWhitespace hwide, hwide] at hfirst
    exact absurd hfirst.2 (by decide)
  rw [Bool.eq_false_iff]
  intro harray
  have hletter := congrArg head? (beq_iff_eq.mp harray)
  rw [toAsciiLowercase, head?_map, head?_filter, hdecompose, htrim, append_assoc, find?_append,
    cons_append, find?_cons_of_pos (by simp [hnospace])] at hletter
  cases hfound : lead.find? (!isAsciiWhitespace ·) with
  | some space =>
    have hspace := hlead space (mem_of_find?_eq_some hfound)
    rw [hfound, Option.some_or, Option.map_some, toLower_of_isWhitespace hspace] at hletter
    rw [Option.some.inj hletter] at hspace
    exact absurd hspace (by decide)
  | none =>
    rw [hfound, Option.none_or, Option.map_some, hlower] at hletter
    exact hfirst.1 (Option.some.inj hletter)

end Plain

/-! ### Texts and objects -/

/-- The targets of the generic branch whose string rules are known here. -/
def isStringTarget (target : DatabaseType) : Bool :=
  isPostgresFamilyTarget target || isMysqlFamilyTarget target ||
    (keepsBackslashLiteral target && target != .xugu) ||
    target == .sqlServer || target == .duckDb || target == .clickHouse

/-- The text that a transferred text or object stands for. -/
def denotedText (forms : TransferForms) : Json → Option Text
  | .string text => some text
  | .object fields => some (forms.display (.object fields))
  | _ => none

/-- A value is a text. -/
def isText : Json → Bool
  | .string _ => true
  | _ => false

/-- The literal's backslashes are written for the rules of the target: there are none, or the
target's strings escape, or the value is a text for a target other than DuckDB. -/
def BackslashesFit (target : DatabaseType) (value : Json) (text : Text) : Prop :=
  '\\' ∉ text ∨ (ordinaryRules target).escapes ∨ (isText value ∧ target ≠ .duckDb)

section Literals

variable (forms : TransferForms) {target : DatabaseType} {columnType : Text}

private theorem typedLiteral_plain (htarget : isStringTarget target)
    (hplain : isPlainColumnType columnType) (value : Text) :
    typedLiteral forms target (some columnType) value = none := by
  have hxugu : target ≠ .xugu := by rintro rfl; cases htarget
  have hh2 : target ≠ .h2 := by rintro rfl; cases htarget
  have hbounds : normalizeIntegerLiteral value target (some columnType) = none := by
    have hnone : integerBounds target (some columnType) = none := by
      rw [integerBounds, Option.bind_some, Option.bind_some, postgresIntegerBounds_plain hplain,
        sqlserverIntegerBounds_plain hplain, ite_self, ite_self]
    rw [normalizeIntegerLiteral, hnone]
    rfl
  simp [typedLiteral, hbounds, formatXuguTypedSqlLiteral, hxugu, formatStarrocksJsonArraySqlLiteral,
    isStarrocksJsonArrayType_plain hplain, formatPostgresBinarySqlLiteral,
    isBinaryTransferColumnType_plain hplain, formatMysqlBinarySqlLiteral,
    formatSqlserverBinarySqlLiteral, formatXuguBinarySqlLiteral, formatMysqlNumericStringLiteral,
    isMysqlNonBitNumericType, isMysqlNumericBaseType_plain hplain, formatOracleTemporalSqlLiteral,
    temporalColumnKind_plain hplain, formatH2BinarySqlLiteral, hh2]

private theorem formatLiteralString_plain (hplain : isPlainColumnType columnType) (value : Text) :
    formatLiteralString forms value target (some columnType) = value := by
  have hserver : (some columnType).filter isSqlserverTemporalColumnType = none :=
    Option.filter_some_neg (by simp [isSqlserverTemporalColumnType_plain hplain])
  simp [formatLiteralString, hserver, temporalColumnKind_plain hplain]

private theorem escapeValueTyped_string (htarget : isStringTarget target)
    (hplain : isPlainColumnType columnType) (text : Text) :
    escapeValueTyped forms target (some columnType) (.string text) =
      if target = .postgres then quotePostgresStringLiteral text
      else if target = .sqlServer then 'N' :: quoteStringLiteral text
      else if isPostgresFamilyTarget target || keepsBackslashLiteral target then
        quoteStringLiteral text
      else quotedTwice text := by
  have hh2 : target ≠ .h2 := by rintro rfl; cases htarget
  have hdb2 : target ≠ .db2 := by rintro rfl; cases htarget
  have hbit : (some columnType).any isMysqlBitType = false := isMysqlBitType_plain hplain
  rw [escapeValueTyped, if_neg fun h => hh2 h.1]
  rw [escapeString, if_neg hdb2, typedLiteral_plain forms htarget hplain, Option.getD_none]
  simp only [escapePlainString, formatLiteralString_plain forms hplain, hbit]
  simp only [Bool.false_eq_true, and_false, if_false, quoteStringLiteral, quotedTwice]
  by_cases hserver : target = .sqlServer
  · subst hserver
    simp [isPostgresFamilyTarget]
  · simp only [hserver, if_false, show (target == .sqlServer) = false by simpa using hserver,
      show (target == .h2) = false by simpa using hh2, Bool.or_false]
    split_ifs <;> rfl

private theorem escapeValueTyped_object (htarget : isStringTarget target)
    (fields : List (Text × Json)) :
    escapeValueTyped forms target (some columnType) (.object fields) =
      quotedTwice (forms.display (.object fields)) := by
  have hh2 : target ≠ .h2 := by rintro rfl; cases htarget
  have hdb2 : target ≠ .db2 := by rintro rfl; cases htarget
  simp only [escapeValueTyped, hh2, false_and, if_false, escapeObject, hdb2]

private theorem readStringLiteral_quoted (body rest : Text) :
    readStringLiteral target (quoted body ++ rest) =
      readQuoted (ordinaryRules target) .body (body ++ '\'' :: rest) := by
  simp [quoted, readStringLiteral]

private theorem readStringLiteral_quoteStringLiteral {text rest : Text}
    (hrules : (ordinaryRules target).escapes → '\\' ∉ text)
    (hrest : rest.head? ≠ some '\'') :
    readStringLiteral target (quoteStringLiteral text ++ rest) = some (text, rest) := by
  rw [quoteStringLiteral, readStringLiteral_quoted]
  exact readQuoted_replaceQuotes hrest hrules

private theorem readStringLiteral_quotedTwice_iff (text : Text) :
    (∀ rest : Text, rest.head? ≠ some '\'' →
        readStringLiteral target (quotedTwice text ++ rest) = some (text, rest)) ↔
      '\\' ∉ text ∨ (ordinaryRules target).escapes := by
  by_cases hescapes : (ordinaryRules target).escapes
  · refine iff_of_true ?_ (.inr hescapes)
    intro rest hrest
    have hrules : ordinaryRules target = .mysql ∨ ordinaryRules target = .clickHouse := by
      unfold ordinaryRules at hescapes ⊢
      split_ifs at hescapes ⊢
      · exact .inl rfl
      · exact .inr rfl
      · exact absurd hescapes (by decide)
    rw [quotedTwice, readStringLiteral_quoted]
    exact readQuoted_replaceBoth hrest hrules
  · -- the text with its backslashes doubled is read
    have hread : ∀ rest : Text, rest.head? ≠ some '\'' →
        readStringLiteral target (quotedTwice text ++ rest) =
          some (replaceChar '\\' "\\\\" text, rest) := by
      intro rest hrest
      rw [quotedTwice, readStringLiteral_quoted]
      exact readQuoted_replaceQuotes hrest (fun h => absurd h hescapes)
    constructor
    · intro hback
      left
      intro hslash
      have heq := (hread [] (by simp)).symm.trans (hback [] (by simp))
      rw [Option.some.injEq, Prod.mk.injEq] at heq
      exact doubledBackslashes_ne hslash heq.1
    · rintro (hslash | h) rest hrest
      · have hsame : replaceChar '\\' "\\\\" text = text := by
          rw [replaceChar]
          have hcongr : text.flatMap (fun ch => if ch = '\\' then "\\\\" else [ch]) =
              text.flatMap fun ch => [ch] := by
            apply flatMap_congr
            intro ch hch
            apply if_neg
            rintro rfl
            exact hslash hch
          rw [hcongr, flatMap_singleton']
        rw [hread rest hrest, hsame]
      · exact absurd h hescapes

private theorem readStringLiteral_string_iff (htarget : isStringTarget target)
    (hplain : isPlainColumnType columnType) {text : Text} (hnul : '\x00' ∉ text) :
    (∀ rest : Text, rest.head? ≠ some '\'' → readStringLiteral target
        (escapeValueTyped forms target (some columnType) (.string text) ++ rest) =
          some (text, rest)) ↔
      '\\' ∉ text ∨ (ordinaryRules target).escapes ∨ target ≠ .duckDb := by
  rw [escapeValueTyped_string forms htarget hplain]
  by_cases hpostgres : target = .postgres
  · subst hpostgres
    exact iff_of_true (fun rest hrest => readStringLiteral_quotePostgres hnul hrest)
      (.inr (.inr (by decide)))
  rw [if_neg hpostgres]
  by_cases hserver : target = .sqlServer
  · subst hserver
    refine iff_of_true (fun rest hrest => ?_) (.inr (.inr (by decide)))
    have hread : readQuoted .standard .body (replaceChar '\'' "''" text ++ '\'' :: rest) =
        some (text, rest) := readQuoted_replaceQuotes hrest (fun h => absurd h (by decide))
    simpa [quoteStringLiteral, quoted, readStringLiteral] using hread
  rw [if_neg hserver]
  by_cases hkeeps : (isPostgresFamilyTarget target || keepsBackslashLiteral target)
  · rw [if_pos hkeeps]
    have hstandard : (ordinaryRules target).escapes = false := by
      cases target <;> first | rfl | cases hkeeps
    have hother : target ≠ .duckDb := by rintro rfl; cases hkeeps
    exact iff_of_true (fun rest hrest => readStringLiteral_quoteStringLiteral
      (fun h => absurd h (by simp [hstandard])) hrest) (.inr (.inr hother))
  · rw [if_neg hkeeps, readStringLiteral_quotedTwice_iff]
    have hrest : target ≠ .duckDb → (ordinaryRules target).escapes := by
      intro hother
      cases target <;> first
          | rfl
          | exact absurd rfl hother
          | exact absurd rfl hkeeps
          | exact absurd rfl hserver
          | cases htarget
    exact or_congr_right (or_iff_left_of_imp hrest).symm

/-- **The literal of a transferred text or object is read as what it stands for**, and ends at its
closing quote, exactly if its backslashes are written for the rules of the target. -/
theorem readStringLiteral_escapeValueTyped_iff (htarget : isStringTarget target)
    (hplain : isPlainColumnType columnType) {value : Json} {text : Text}
    (hvalue : denotedText forms value = some text) (hnul : isText value → '\x00' ∉ text) :
    (∀ rest : Text, rest.head? ≠ some '\'' → readStringLiteral target
        (escapeValueTyped forms target (some columnType) value ++ rest) = some (text, rest)) ↔
      BackslashesFit target value text := by
  cases value with
  | string value =>
    cases hvalue
    rw [readStringLiteral_string_iff forms htarget hplain (hnul rfl), BackslashesFit]
    simp [isText]
  | object fields =>
    cases hvalue
    rw [escapeValueTyped_object forms htarget, readStringLiteral_quotedTwice_iff, BackslashesFit]
    simp [isText]
  | _ => cases hvalue

end Literals

/-- The JSON text of the object whose one field `a` is a line feed: it has one backslash. -/
def lineFeedObject : Text := ['\x7b', '"', 'a', '"', ':', '"', '\\', 'n', '"', '\x7d']

/-- Forms that claim no text, and that show every object as that one. -/
def TransferForms.plain : TransferForms where
  display _ := lineFeedObject
  parseJsonArray _ := none
  looksLikeNumericLiteral _ := false
  db2NumericLiteral text _ := text
  db2StringLiteral text _ := text
  xuguTypedLiteral _ _ := none
  oracleTemporalLiteral _ _ _ _ := none
  sqlserverTemporalLiteral _ _ := none

/-- The object whose one field `a` is a line feed. -/
def lineFeedFields : List (Text × Json) := [(['a'], .string ['\n'])]

/-- A text with a backslash and a line feed comes back from PostgreSQL, the object from MySQL. -/
theorem readStringLiteral_escapeValueTyped_both :
    (∀ rest : Text, rest.head? ≠ some '\'' → readStringLiteral .postgres
      (escapeValueTyped .plain .postgres (some "text") (.string ['\\', '\n']) ++ rest) =
        some (['\\', '\n'], rest)) ∧
    ∀ rest : Text, rest.head? ≠ some '\'' → readStringLiteral .mysql
      (escapeValueTyped .plain .mysql (some "json") (.object lineFeedFields) ++ rest) =
        some (lineFeedObject, rest) :=
  ⟨(readStringLiteral_escapeValueTyped_iff .plain rfl rfl rfl (by decide)).mpr
      (.inr (.inr ⟨rfl, by decide⟩)),
    (readStringLiteral_escapeValueTyped_iff .plain rfl rfl rfl (by decide)).mpr (.inr (.inl rfl))⟩

/-- The object's backslash is written twice for PostgreSQL, where a backslash is no escape, and so
is that of a text for DuckDB; both are read as two. -/
theorem readStringLiteral_doubled_backslash : readStringLiteral .postgres
        (escapeValueTyped .plain .postgres (some "json") (.object lineFeedFields)) =
      some (['\x7b', '"', 'a', '"', ':', '"', '\\', '\\', 'n', '"', '\x7d'], []) ∧
    readStringLiteral .duckDb (escapeValueTyped .plain .duckDb (some "text") (.string ['\\'])) =
      some (['\\', '\\'], []) := by
  decide +kernel

end DbxSpec.Transfer
