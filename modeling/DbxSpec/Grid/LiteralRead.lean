import DbxSpec.Grid.Literal

/-!
# Reading a literal back

The rules by which a dialect profile reads a literal: a doubled quote stands for a quote, a
backslash escapes what follows it where the profile says so, `E` strings escape always, and pieces
are joined by `+` or `||`. `LiteralSpells` says that a text is one spelling of another under these
rules; such a text is read back, and to its end. A reader that escapes can take at most every
second backslash of its input for a backslash.
-/

namespace DbxSpec.Grid

open DbxSpec.Base DbxSpec.Sql List Option

/-! ### The reader -/

/-- What a backslash before a character stands for. -/
def unescape (ch : Char) : Char :=
  if ch = 'Z' then '\x1a' else if ch = '0' then '\x00' else ch

/-- A character in front of what the rest of a literal stands for. -/
def putFront (ch : Char) (read : Text × Text) : Text × Text := (ch :: read.1, read.2)

/-- Where the reader stands: in the text, after a quote, after a backslash, or in the escape by
code. -/
inductive ReadMode
  | body
  | quote
  | escape
  | code
  | digit
  deriving DecidableEq, Repr

/-- Read a literal whose opening quote has been read: what it stands for and the text after it. The
one escape by code is that of the control character SUB. -/
def readString (escapes : Bool) : ReadMode → Text → Option (Text × Text)
  | .body, [] => none
  | .body, ch :: rest =>
    if ch = '\'' then readString escapes .quote rest
    else if escapes ∧ ch = '\\' then readString escapes .escape rest
    else (readString escapes .body rest).map (putFront ch)
  | .quote, [] => some ([], [])
  | .quote, ch :: rest =>
    if ch = '\'' then (readString escapes .body rest).map (putFront '\'')
    else some ([], ch :: rest)
  | .escape, [] => none
  | .escape, ch :: rest =>
    if ch = 'x' then readString escapes .code rest
    else (readString escapes .body rest).map (putFront (unescape ch))
  | .code, [] => none
  | .code, ch :: rest => if ch = '1' then readString escapes .digit rest else none
  | .digit, [] => none
  | .digit, ch :: rest =>
    if ch = 'a' ∨ ch = 'A' then (readString escapes .body rest).map (putFront '\x1a') else none

/-- The pieces that are no quoted strings, with what they stand for. -/
def fixedPieces : List (Text × Text) :=
  [("NCHAR(13)", ['\r']), ("NCHAR(10)", ['\n']),
    ("CAST(N'' AS NVARCHAR(MAX))", [])]

/-- Read one piece of a literal. -/
def readPiece (profile : SqlDialectProfile) (text : Text) : Option (Text × Text) :=
  match text with
  | '\'' :: rest => readString profile.supportsBackslashEscapedQuotes .body rest
  | 'N' :: '\'' :: rest => readString profile.supportsBackslashEscapedQuotes .body rest
  | 'E' :: '\'' :: rest =>
    if profile.supportsPostgresEscapeStrings then readString true .body rest else none
  | _ => fixedPieces.findSome? fun piece =>
    (piece.1.isPrefixOf? text).map fun rest => (piece.2, rest)

/-- Read a concatenation of at most so many pieces that ends with the text. -/
def readPieces (profile : SqlDialectProfile) : Nat → Text → Option Text
  | 0, _ => none
  | fuel + 1, text => do
    let (piece, rest) ← readPiece profile text
    if rest.isEmpty then some piece
    else
      let next ← (" + ".toList.isPrefixOf? rest).or (" || ".toList.isPrefixOf? rest)
      return piece ++ (← readPieces profile fuel next)

/-- Read a literal to its end. -/
def readLiteral (profile : SqlDialectProfile) (text : Text) : Option Text :=
  readPieces profile text.length text

/-! ### Spellings -/

/-- The ways to write one character in a string. `escapes` says whether this string reads escapes
and `ordinary` whether ordinary strings do; a quote is escaped only where they all do. -/
inductive Spells (ordinary escapes : Bool) : Text → Char → Prop
  | plain {ch : Char} (hquote : ch ≠ '\'') (hbackslash : escapes → ch ≠ '\\') :
      Spells ordinary escapes [ch] ch
  | doubled : Spells ordinary escapes ['\'', '\''] '\''
  | escaped {ch : Char} (hescapes : escapes) (hhex : ch ≠ 'x')
      (hquote : ch = '\'' → ordinary) : Spells ordinary escapes ['\\', ch] (unescape ch)
  | code {digit : Char} (hescapes : escapes) (hdigit : digit = 'a' ∨ digit = 'A') :
      Spells ordinary escapes ['\\', 'x', '1', digit] '\x1a'

/-- The ways to write a text between quotes. -/
inductive BodySpells (ordinary escapes : Bool) : Text → Text → Prop
  | nil : BodySpells ordinary escapes [] []
  | cons {unit body text : Text} {ch : Char} (hunit : Spells ordinary escapes unit ch)
      (hbody : BodySpells ordinary escapes body text) :
      BodySpells ordinary escapes (unit ++ body) (ch :: text)

/-- The ways to write a text as one piece. -/
inductive PieceSpells (profile : SqlDialectProfile) : Text → Text → Prop
  | string {body text : Text} (hbody : BodySpells profile.supportsBackslashEscapedQuotes
      profile.supportsBackslashEscapedQuotes body text) : PieceSpells profile (quoted body) text
  | national {body text : Text} (hbody : BodySpells profile.supportsBackslashEscapedQuotes
      profile.supportsBackslashEscapedQuotes body text) :
      PieceSpells profile ('N' :: quoted body) text
  | escape {body text : Text} (hprofile : profile.supportsPostgresEscapeStrings)
      (hbody : BodySpells profile.supportsBackslashEscapedQuotes true body text) :
      PieceSpells profile ('E' :: quoted body) text
  | fixed {piece : Text × Text} (hpiece : piece ∈ fixedPieces) :
      PieceSpells profile piece.1 piece.2

/-- The ways to write a text as a literal. -/
inductive LiteralSpells (profile : SqlDialectProfile) : Text → Text → Prop
  | single {piece text : Text} (hpiece : PieceSpells profile piece text) :
      LiteralSpells profile piece text
  | concat {piece text literal more : Text} (hpiece : PieceSpells profile piece text)
      (hliteral : LiteralSpells profile literal more) :
      LiteralSpells profile (piece ++ " + " ++ literal) (text ++ more)

variable {profile : SqlDialectProfile} {ordinary escapes : Bool} {text : Text}

private theorem readString_append {unit : Text} {ch : Char} (h : Spells ordinary escapes unit ch)
    (rest : Text) : readString escapes .body (unit ++ rest) =
      (readString escapes .body rest).map (putFront ch) := by
  cases h with
  | plain hquote hbackslash =>
    have hplain : ¬(escapes ∧ ch = '\\') := fun h => hbackslash h.1 h.2
    rw [singleton_append, readString, if_neg hquote, if_neg hplain]
  | doubled => rfl
  | escaped hescapes hhex hquote =>
    subst hescapes
    simp [readString, hhex]
  | code hescapes hdigit =>
    subst hescapes
    simp [readString, hdigit]

private theorem readString_body {body rest : Text} (h : BodySpells ordinary escapes body text)
    (hrest : rest.head? ≠ some '\'') :
    readString escapes .body (body ++ '\'' :: rest) = some (text, rest) := by
  induction h with
  | nil =>
    cases rest with
    | nil => rfl
    | cons ch rest =>
      have hch : ch ≠ '\'' := by simpa using hrest
      simp [readString, hch]
  | cons hunit hbody ih =>
    rw [append_assoc, readString_append hunit, ih]
    rfl

private theorem readPiece_append {piece rest : Text} (h : PieceSpells profile piece text)
    (hrest : rest.head? ≠ some '\'') : readPiece profile (piece ++ rest) = some (text, rest) := by
  cases h with
  | string hbody | national hbody =>
    have hread := readString_body hbody hrest
    simpa [quoted, readPiece] using hread
  | escape hprofile hbody =>
    have hread := readString_body hbody hrest
    simpa [quoted, readPiece, hprofile] using hread
  | fixed hpiece =>
    fin_cases hpiece <;> rfl

private theorem PieceSpells.ne_nil {piece : Text} (h : PieceSpells profile piece text) :
    piece ≠ [] := by
  cases h with
  | string => simp [quoted]
  | national | escape => simp
  | fixed hpiece => fin_cases hpiece <;> simp

/-- A spelling of a text is read back as that text. -/
theorem readLiteral_of_spells {literal : Text} (h : LiteralSpells profile literal text) :
    readLiteral profile literal = some text := by
  have hfuel : ∀ fuel, literal.length ≤ fuel → readPieces profile fuel literal = some text := by
    induction h with
    | single hpiece =>
      intro fuel hlength
      have hpos := length_pos_of_ne_nil hpiece.ne_nil
      obtain ⟨fuel, rfl⟩ : ∃ fuel', fuel = fuel' + 1 := ⟨fuel - 1, by omega⟩
      have hread := readPiece_append hpiece (by simp : [].head? ≠ some '\'')
      rw [append_nil] at hread
      simp [readPieces, hread]
    | @concat piece text literal more hpiece hliteral ih =>
      intro fuel hlength
      have hpos := length_pos_of_ne_nil hpiece.ne_nil
      have hlengths : (piece ++ " + " ++ literal).length =
          piece.length + 3 + literal.length := by simp; omega
      obtain ⟨fuel, rfl⟩ : ∃ fuel', fuel = fuel' + 1 := ⟨fuel - 1, by omega⟩
      have hread := readPiece_append hpiece (by simp : (" + " ++ literal).head? ≠ some '\'')
      have hnext : " + ".toList.isPrefixOf? (" + " ++ literal) = some literal := by
        rw [isPrefixOf?_eq_some_iff_append_eq]
      have hmore := ih fuel (by omega)
      rw [append_assoc, readPieces, hread]
      simp only [bind_eq_bind, bind_some, hnext, some_or, hmore]
      rfl
  exact hfuel literal.length le_rfl

/-! ### Backslashes of the input -/

/-- The backslashes the reader has taken before a text and not used yet. -/
def ReadMode.paid : ReadMode → Nat
  | .escape => 1
  | _ => 0

private theorem count_putFront_of_ne {ch : Char} (h : ch ≠ '\\') (read : Text × Text) :
    (putFront ch read).1.count '\\' = read.1.count '\\' := count_cons_of_ne h

private theorem count_readString {mode : ReadMode} {input : Text} {read : Text × Text}
    (h : readString true mode input = some read) :
    2 * read.1.count '\\' + read.2.count '\\' ≤ mode.paid + input.count '\\' := by
  generalize hescapes : true = escapes at h
  fun_induction readString escapes mode input generalizing read with
  | case1 | case8 | case11 | case13 | case14 | case16 => cases h
  | case5 | case7 =>
    cases h
    simp [ReadMode.paid]
  | case2 rest ih | case12 rest ih => simpa [ReadMode.paid] using ih h
  | case9 rest ih =>
    have hlater := ih h
    simp only [ReadMode.paid, count_cons] at hlater ⊢
    omega
  | case3 ch rest hquote hslash ih =>
    obtain ⟨-, rfl⟩ := hslash
    have hlater := ih h
    simp only [ReadMode.paid, count_cons_self] at hlater ⊢
    omega
  | case4 ch rest hquote hslash ih =>
    obtain ⟨later, hread, rfl⟩ := map_eq_some_iff.mp h
    rw [count_putFront_of_ne fun hch => hslash ⟨hescapes.symm, hch⟩]
    exact (ih hread).trans (Nat.add_le_add_left count_le_count_cons _)
  | case6 rest ih | case15 ch rest hdigit ih =>
    obtain ⟨later, hread, rfl⟩ := map_eq_some_iff.mp h
    rw [count_putFront_of_ne (by decide)]
    exact (ih hread).trans (Nat.add_le_add_left count_le_count_cons _)
  | case10 ch rest hhex ih =>
    obtain ⟨later, hread, rfl⟩ := map_eq_some_iff.mp h
    have hlater := ih hread
    have hfront : unescape ch = '\\' → ch = '\\' := by
      unfold unescape
      split_ifs <;> simp
    simp only [ReadMode.paid, putFront, count_cons, beq_iff_eq] at hlater ⊢
    by_cases hslash : unescape ch = '\\'
    · rw [if_pos hslash, if_pos (hfront hslash)]
      omega
    · rw [if_neg hslash]
      omega

section

variable (hprofile : profile.supportsBackslashEscapedQuotes)

include hprofile

private theorem count_readPiece {input : Text}
    {read : Text × Text} (h : readPiece profile input = some read) :
    2 * read.1.count '\\' + read.2.count '\\' ≤ input.count '\\' := by
  unfold readPiece at h
  rw [hprofile] at h
  split at h
  · simpa [ReadMode.paid] using count_readString h
  · simpa [ReadMode.paid] using count_readString h
  · split at h
    · simpa [ReadMode.paid] using count_readString h
    · cases h
  · obtain ⟨piece, hpiece, hread⟩ := exists_of_findSome?_eq_some h
    obtain ⟨rest, hprefix, rfl⟩ := map_eq_some_iff.mp hread
    rw [← isPrefixOf?_eq_some_iff_append_eq.mp hprefix, count_append]
    have hnone : piece.2.count '\\' = 0 := by fin_cases hpiece <;> rfl
    dsimp only
    omega

/-- What an escaping reader reads has at most half of the backslashes of the literal. -/
theorem count_readLiteral {literal : Text} (h : readLiteral profile literal = some text) :
    2 * text.count '\\' ≤ literal.count '\\' := by
  have hfuel : ∀ fuel input text, readPieces profile fuel input = some text →
      2 * text.count '\\' ≤ input.count '\\' := by
    intro fuel
    induction fuel with
    | zero =>
      intro input text h
      cases h
    | succ fuel ih =>
      intro input text h
      rw [readPieces] at h
      obtain ⟨⟨piece, rest⟩, hpiece, h⟩ := bind_eq_some_iff.mp h
      have hcount := count_readPiece hprofile hpiece
      dsimp only at h hcount
      split at h
      · cases h
        omega
      · obtain ⟨next, hnext, h⟩ := bind_eq_some_iff.mp h
        obtain ⟨more, hmore, h⟩ := bind_eq_some_iff.mp h
        cases h
        have hlater := ih next more hmore
        have hrest : next.count '\\' ≤ rest.count '\\' := by
          rcases or_eq_some_iff.mp hnext with hplus | ⟨-, hbars⟩
          · rw [← isPrefixOf?_eq_some_iff_append_eq.mp hplus, count_append]
            omega
          · rw [← isPrefixOf?_eq_some_iff_append_eq.mp hbars, count_append]
            omega
        rw [count_append]
        omega
  exact hfuel _ _ _ h

end

end DbxSpec.Grid
