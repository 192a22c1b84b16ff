import Mathlib

/-!
# Text as a list of scalar values

The string operations of the Rust standard library that the SQL modules use, on the
list of `char`s of a string. Offsets count characters. Every operation below looks only
at ASCII bytes or at whole characters, so the byte offsets of the source and the
character offsets here select the same text.
-/

namespace DbxSpec.Base

open List

/-- The characters of a string, in order. -/
abbrev Text := List Char

instance : Coe String Text := ⟨String.toList⟩

/-! ### Character classes -/

variable (c : Char)

/-- `char::is_whitespace`, the Unicode property `White_Space`. -/
def isWhitespace : Bool :=
  let n := c.toNat
  (9 ≤ n && n ≤ 13) || n == 0x20 || n == 0x85 || n == 0xA0 || n == 0x1680 ||
    (0x2000 ≤ n && n ≤ 0x200A) || n == 0x2028 || n == 0x2029 || n == 0x202F ||
    n == 0x205F || n == 0x3000

/-- `char::is_control`, the general category `Cc`. -/
def isControl : Bool :=
  let n := c.toNat
  n < 32 || (127 ≤ n && n < 160)

/-- `u8::is_ascii_whitespace`: space, tab, line feed, form feed and carriage return. -/
def isAsciiWhitespace : Bool :=
  c == ' ' || c == '\t' || c == '\n' || c == '\x0c' || c == '\r'

/-- ASCII white space is white space. -/
theorem isWhitespace_of_ascii {c : Char} (h : isAsciiWhitespace c) : isWhitespace c := by
  simp only [isAsciiWhitespace, Bool.or_eq_true, beq_iff_eq] at h
  rcases h with (((rfl | rfl) | rfl) | rfl) | rfl <;> rfl

/-- `u8::is_ascii_hexdigit`. -/
def isAsciiHexdigit : Bool :=
  c.isDigit || ('a' ≤ c && c ≤ 'f') || ('A' ≤ c && c ≤ 'F')

/-- Whether a character is one of the 128 ASCII characters. -/
def isAscii : Bool := c.toNat < 128

/-! ### Case -/

/-- `str::to_ascii_uppercase`. -/
def toAsciiUppercase (t : Text) : Text := t.map Char.toUpper

/-- `str::to_ascii_lowercase`. -/
def toAsciiLowercase (t : Text) : Text := t.map Char.toLower

/-- `str::eq_ignore_ascii_case`. -/
def eqIgnoreAsciiCase (a b : Text) : Bool := toAsciiLowercase a == toAsciiLowercase b

/-! ### Trimming -/

/-- `str::trim_start`. -/
def trimStart (t : Text) : Text := t.dropWhile isWhitespace

/-- `str::trim_end`. -/
def trimEnd (t : Text) : Text := t.rdropWhile isWhitespace

/-- `str::trim`. -/
def trim (t : Text) : Text := trimEnd (trimStart t)

variable (t : Text)

/-- Trimming cuts white space off both ends and nothing else. -/
theorem trim_decompose : ∃ lead trail, t = lead ++ trim t ++ trail ∧ (∀ c ∈ lead, isWhitespace c) ∧
      ∀ c ∈ trail, isWhitespace c := by
  refine ⟨t.takeWhile isWhitespace, (trimStart t).rtakeWhile isWhitespace, ?_, ?_, ?_⟩
  · rw [trim, trimEnd, append_assoc, rdropWhile_append_rtakeWhile]
    exact takeWhile_append_dropWhile.symm
  · intro c hc
    exact mem_takeWhile_imp hc
  · intro c hc
    exact mem_rtakeWhile_imp hc

/-- Dropping from the right reaches the front part only if the back part is dropped whole. -/
theorem rdropWhile_append (p : Char → Bool) (front back : Text) : (front ++ back).rdropWhile p =
      if back.rdropWhile p = [] then front.rdropWhile p else front ++ back.rdropWhile p := by
  simp only [rdropWhile, reverse_append, dropWhile_append, reverse_eq_nil_iff, List.isEmpty_iff]
  split <;> simp

/-- Taking from the right reaches the front part only if the back part is taken whole. -/
theorem rtakeWhile_append (p : Char → Bool) (front back : Text) : (front ++ back).rtakeWhile p =
      if back.rdropWhile p = [] then front.rtakeWhile p ++ back else back.rtakeWhile p := by
  simp only [rtakeWhile, rdropWhile, reverse_append, takeWhile_append,
    reverse_eq_nil_iff, dropWhile_eq_nil_iff]
  split
  · next hlength =>
    have hall : ∀ c ∈ back.reverse, p c := by
      intro c hc
      have hself := (List.takeWhile_prefix p (l := back.reverse)).eq_of_length hlength
      rw [← hself] at hc
      exact mem_takeWhile_imp hc
    rw [if_pos hall]
    simp
  · next hlength =>
    rw [if_neg fun hall => hlength (by rw [takeWhile_eq_self_iff.mpr hall])]

/-- The two ends of a text are trimmed independently. -/
theorem trim_eq_trimStart_trimEnd : trim t = trimStart (trimEnd t) := by
  induction t with
  | nil => rfl
  | cons c t ih =>
    have hcons : trimEnd (c :: t) = if trimEnd t = [] then trimEnd [c] else c :: trimEnd t :=
      rdropWhile_append _ [c] t
    cases hc : isWhitespace c with
    | true =>
      have hskip : trim (c :: t) = trim t := by simp [trim, trimStart, hc]
      rw [hskip, ih, hcons]
      split
      · next hnil => rw [hnil, trimEnd, rdropWhile_singleton, if_pos hc]
      · simp [trimStart, hc]
    | false =>
      rw [trim, trimStart, dropWhile_cons_of_neg (by simp [hc]), hcons]
      split <;> simp [trimEnd, trimStart, rdropWhile_singleton, hc]

/-- A trimmed text stays as it is. -/
theorem trim_trim : trim (trim t) = trim t := by
  rw [trim_eq_trimStart_trimEnd (trim t), show trimEnd (trim t) = trim t from
    rdropWhile_idempotent _ _, trim_eq_trimStart_trimEnd t]
  exact dropWhile_idempotent _ _

private theorem trim_trimStart : trim (trimStart t) = trim t := by
  rw [trim, trim, trimStart, trimStart, dropWhile_idempotent]

/-- Trimming takes characters of the text only. -/
theorem mem_of_mem_trim {t : Text} {c : Char} (h : c ∈ trim t) : c ∈ t :=
  (dropWhile_suffix _).mem ((List.rdropWhile_prefix _ _).mem h)

/-! ### Lines -/

/-- The text up to and including its last line feed: `text[..start]` for
`start = text.rfind('\n').map_or(0, |p| p + 1)`. -/
def throughLastNewline (t : Text) : Text := t.rdropWhile (· != '\n')

/-- The text after its last line feed: `text.rsplit('\n').next()`. -/
def lastLine (t : Text) : Text := t.rtakeWhile (· != '\n')

/-- `text.rsplit_once('\n').map(|x| x.0).unwrap_or("")`. -/
def beforeLastNewline (t : Text) : Text := (throughLastNewline t).dropLast

/-- The two halves cut at the last line feed make up the text. -/
theorem throughLastNewline_append_lastLine : throughLastNewline t ++ lastLine t = t :=
  rdropWhile_append_rtakeWhile

/-- What stands before the last line ends with a line feed. -/
theorem throughLastNewline_eq_concat {t : Text} (h : throughLastNewline t ≠ []) :
    throughLastNewline t = beforeLastNewline t ++ ['\n'] := by
  have hlast := rdropWhile_last_not (p := (· != '\n')) (l := t) h
  have hc : (throughLastNewline t).getLast h = '\n' := by simpa [throughLastNewline] using hlast
  rw [beforeLastNewline, ← hc, dropLast_append_getLast]

/-- What stands before the last line feed, that line feed, and the last line. -/
theorem beforeLastNewline_decompose :
    ∃ sep, t = beforeLastNewline t ++ sep ++ lastLine t ∧ ∀ c ∈ sep, c = '\n' := by
  have ht := throughLastNewline_append_lastLine t
  by_cases hp : throughLastNewline t = []
  · refine ⟨[], ?_, by simp⟩
    simpa [beforeLastNewline, hp] using ht.symm
  · refine ⟨['\n'], ?_, by simp⟩
    rw [← throughLastNewline_eq_concat hp, ht]

/-- Without a line feed there is nothing before the last line. -/
theorem beforeLastNewline_eq_nil {t : Text} (h : '\n' ∉ t) : beforeLastNewline t = [] := by
  have hnil : throughLastNewline t = [] := by
    apply rdropWhile_eq_nil_iff.mpr
    intro c hc
    simpa using fun heq : c = '\n' => h (heq ▸ hc)
  rw [beforeLastNewline, hnil]
  rfl

/-- The last line holds no line feed. -/
theorem newline_notMem_lastLine : '\n' ∉ lastLine t := by
  intro h
  simpa using mem_rtakeWhile_imp h

/-- A last line that is not blank is the last line of the trimmed text as well. -/
theorem trim_beforeLastNewline_trim {t : Text} (h : trim (lastLine t) ≠ []) :
    trim (beforeLastNewline (trim t)) = trim (throughLastNewline t) := by
  have hline : (lastLine t).rdropWhile isWhitespace ≠ [] := by
    intro hnil
    rw [trim_eq_trimStart_trimEnd, trimEnd, hnil] at h
    exact h rfl
  have hend : trimEnd t = throughLastNewline t ++ trimEnd (lastLine t) := by
    have happend := rdropWhile_append isWhitespace (throughLastNewline t) (lastLine t)
    rwa [throughLastNewline_append_lastLine, if_neg hline] at happend
  have hfree : ∀ c ∈ trimEnd (lastLine t), (c != '\n') := by
    intro c hc
    have hmem : c ∈ lastLine t := (List.rdropWhile_prefix _ _).mem hc
    simpa using mem_rtakeWhile_imp hmem
  rw [trim_eq_trimStart_trimEnd t, hend, trimStart, dropWhile_append]
  by_cases hblank : trimStart (throughLastNewline t) = []
  · -- only white space before the last line: both sides are empty
    rw [if_pos (by rw [← trimStart, hblank]; rfl), beforeLastNewline_eq_nil]
    · rw [← trim_trimStart (throughLastNewline t), hblank]
    · intro hmem
      simpa using hfree _ ((dropWhile_suffix _).mem hmem)
  · rw [if_neg (by simpa [trimStart] using hblank)]
    have hne : throughLastNewline t ≠ [] := by
      intro hnil
      rw [hnil] at hblank
      exact hblank rfl
    have hsuffix : trimStart (throughLastNewline t) <:+ throughLastNewline t := dropWhile_suffix _
    have hlast : (trimStart (throughLastNewline t)).getLast hblank = '\n' := by
      rw [hsuffix.getLast hblank, getLast_congr _ (by simp) (throughLastNewline_eq_concat hne),
        getLast_concat]
    have hconcat := dropLast_append_getLast hblank
    rw [hlast] at hconcat
    have hthrough : throughLastNewline (trimStart (throughLastNewline t) ++ trimEnd (lastLine t)) =
        trimStart (throughLastNewline t) := by
      rw [throughLastNewline, rdropWhile_append, if_pos (rdropWhile_eq_nil_iff.mpr hfree),
        ← hconcat, rdropWhile_concat_neg _ _ _ (by simp)]
    rw [beforeLastNewline, ← trimStart, hthrough, trim_eq_trimStart_trimEnd,
      ← trim_trimStart (throughLastNewline t), trim_eq_trimStart_trimEnd (trimStart _)]
    conv_rhs => rw [← hconcat, trimEnd, rdropWhile_concat_pos _ _ _ (by decide)]
    rfl

/-! ### Words -/

private def splitWhitespaceLoop : Text → Text → List Text
  | word, [] => if word.isEmpty then [] else [word.reverse]
  | word, c :: rest =>
    if isWhitespace c then
      if word.isEmpty then splitWhitespaceLoop [] rest
      else word.reverse :: splitWhitespaceLoop [] rest
    else splitWhitespaceLoop (c :: word) rest

/-- `str::split_whitespace`: the maximal runs without white space. -/
def splitWhitespace (t : Text) : List Text := splitWhitespaceLoop [] t

/-- `str::split(sep)` at one character: every piece, empty ones included. -/
def splitChar (sep : Char) : Text → List Text
  | [] => [[]]
  | c :: rest =>
    if c == sep then [] :: splitChar sep rest
    else match splitChar sep rest with
      | [] => [[c]]
      | piece :: pieces => (c :: piece) :: pieces

/-- `str::contains`. -/
def containsText (t pattern : Text) : Bool := t.tails.any fun rest => pattern.isPrefixOf rest

/-- `[…].join(sep)`. -/
def joinTexts (sep : Text) (parts : List Text) : Text := intercalate sep parts

/-- All parts but the first follow a separator. -/
theorem joinTexts_cons (sep part : Text) (parts : List Text) :
    joinTexts sep (part :: parts) = part ++ parts.flatMap (sep ++ ·) := by
  induction parts generalizing part with
  | nil => simp [joinTexts]
  | cons next parts ih =>
    rw [joinTexts, intercalate_cons_cons, ← joinTexts, ih, flatMap_cons, append_assoc, append_assoc]

/-- The loop of `str::replace`; the first argument counts the characters of a match still to be
passed over. -/
def replaceLoop (pattern replacement : Text) : Nat → Text → Text
  | _, [] => []
  | skip + 1, _ :: rest => replaceLoop pattern replacement skip rest
  | 0, c :: rest =>
    if pattern.isPrefixOf (c :: rest) then
      replacement ++ replaceLoop pattern replacement (pattern.length - 1) rest
    else c :: replaceLoop pattern replacement 0 rest

/-- `str::replace` for a pattern that is not empty. -/
def replaceText (pattern replacement t : Text) : Text := replaceLoop pattern replacement 0 t

/-- `str::replacen(pattern, "", 1)`. -/
def removeFirst (pattern : Text) : Text → Text
  | [] => []
  | c :: rest =>
    if pattern.isPrefixOf (c :: rest) then (c :: rest).drop pattern.length
    else c :: removeFirst pattern rest

/-- `str::len`: the bytes of the text in UTF-8. -/
def utf8Len (t : Text) : Nat := (t.map Char.utf8Size).sum

/-! ### Suffixes -/

/-- `str::ends_with`. -/
def endsWith (t suffix : Text) : Bool := suffix.isSuffixOf t

/-- Removing a suffix that `endsWith` found leaves the text before it. -/
theorem take_append_of_endsWith {t d : Text} (h : endsWith t d) :
    t.take (t.length - d.length) ++ d = t := by
  have hs : d <:+ t := isSuffixOf_iff_suffix.mp h
  obtain ⟨p, rfl⟩ := hs
  simp

end DbxSpec.Base
