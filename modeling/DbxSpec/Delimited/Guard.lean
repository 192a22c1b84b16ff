import DbxSpec.Delimited.AnyQuote

/-!
# The guard against formulas

`csv_export.rs:94-180`: the guard of a cell can be taken off again, and no two texts have the same
cell. A cell that a spreadsheet may still take for a formula is a negative number or a name after
an at sign, except where a text has two signs: the check for a number that follows the minus sign
admits a sign of its own.
-/

namespace DbxSpec.Delimited

open DbxSpec.Base List

/-- Digits, or digits on both sides of a dot, that have at most 15 significant ones. -/
def UnsignedDecimal (text : Text) : Prop :=
  ∃ whole fraction, validDigits whole ∧
    (text = whole ∧ fraction = [] ∨ text = whole ++ '.' :: fraction ∧ validDigits fraction) ∧
    ((whole ++ fraction).dropWhile (· == '0')).length ≤ 15

/-- Past its leading spaces the cell starts no formula: it is a minus sign before an unsigned
decimal number, an at sign before nothing or before a character that is not ASCII, or something
that starts with none of the signs. -/
def FormulaSafe (cell : Text) : Prop :=
  ∀ first rest, cell.dropWhile (· == ' ') = first :: rest → first ∈ formulaTriggers →
    first = '-' ∧ UnsignedDecimal rest ∨ first = '@' ∧ rest.head?.any isAscii = false

variable (value : Text)

/-- Past its leading spaces the value is a minus sign, a sign and an unsigned decimal number. -/
def SignedTwice : Prop :=
  ∃ sign digits, value.dropWhile (· == ' ') = '-' :: sign :: digits ∧ (sign = '+' ∨ sign = '-') ∧
    UnsignedDecimal digits

private theorem dot_notMem {part : Text} (h : validDigits part) : '.' ∉ part := by
  rw [validDigits, Bool.and_eq_true, all_eq_true] at h
  intro hmem
  cases h.2 _ hmem

private theorem idxOf?_dot {whole : Text} (h : '.' ∉ whole) (rest : Text) :
    (whole ++ '.' :: rest).idxOf? '.' = some whole.length := by
  induction whole with
  | nil => rfl
  | cons ch whole ih =>
    rw [mem_cons, not_or] at h
    rw [cons_append, idxOf?_cons, if_neg (by simpa using Ne.symm h.1), ih h.2]
    rfl

private theorem filter_dot {part : Text} (h : '.' ∉ part) : part.filter (· != '.') = part :=
  filter_eq_self.mpr fun ch hch => by simpa using ne_of_mem_of_not_mem hch h

private theorem isExcelExactDecimalLiteral_iff : isExcelExactDecimalLiteral value ↔
      UnsignedDecimal (if value.head? == some '+' || value.head? == some '-' then value.tail
        else value) := by
  unfold isExcelExactDecimalLiteral UnsignedDecimal
  generalize (if value.head? == some '+' || value.head? == some '-' then value.tail else value) =
    digits
  rw [Bool.and_eq_true, decide_eq_true_iff, excelSignificantDigitLimit]
  have hsplit {whole : Text} (h : '.' ∉ whole) (fraction : Text) :
      (whole ++ '.' :: fraction).drop (whole.length + 1) = fraction := by
    simp [drop_append]
  constructor
  · rintro ⟨hvalid, hcount⟩
    by_cases hdot : '.' ∈ digits
    · obtain ⟨whole, fraction, rfl, hwhole⟩ := eq_append_cons_of_mem hdot
      simp only [idxOf?_dot hwhole, take_left, hsplit hwhole, Bool.and_eq_true] at hvalid
      rw [filter_append, filter_dot hwhole, filter_cons_of_neg (by simp),
        filter_dot (dot_notMem hvalid.2)] at hcount
      exact ⟨whole, fraction, hvalid.1, .inr ⟨rfl, hvalid.2⟩, hcount⟩
    · rw [filter_dot hdot] at hcount
      rw [idxOf?_eq_none_iff.mpr hdot] at hvalid
      exact ⟨digits, [], hvalid, .inl ⟨rfl, rfl⟩, by rwa [append_nil]⟩
  · rintro ⟨whole, fraction, hwhole, ⟨rfl, rfl⟩ | ⟨rfl, hfraction⟩, hcount⟩
    · have hdot := dot_notMem hwhole
      rw [append_nil] at hcount
      rw [idxOf?_eq_none_iff.mpr hdot, filter_dot hdot]
      exact ⟨hwhole, hcount⟩
    · have hdot := dot_notMem hwhole
      rw [filter_append, filter_dot hdot, filter_cons_of_neg (by simp),
        filter_dot (dot_notMem hfraction)]
      simp only [idxOf?_dot hdot, take_left, hsplit hdot, hwhole, hfraction]
      exact ⟨rfl, hcount⟩

private theorem needsFormulaGuard_eq_false_iff : needsFormulaGuard value = false ↔
      ∀ first rest, value.dropWhile (· == ' ') = first :: rest → first ∈ formulaTriggers →
        first = '-' ∧ isExcelExactDecimalLiteral rest ∨
          first = '@' ∧ rest.head?.any isAscii = false := by
  unfold needsFormulaGuard
  split
  · next h => simp [h]
  · next first rest h =>
    split_ifs <;> simp_all [atSignBeginsExcelFormula]
    grind

private theorem stripFormulaGuard_guarded : stripFormulaGuard (guarded value) = value := by
  rw [guarded_eq]
  split
  · next htakes =>
    rcases value with _ | ⟨first, rest⟩
    · cases htakes
    by_cases hfirst : first = '\''
    · subst hfirst
      rfl
    · rw [takesFormulaGuard_of_ne (by simpa using hfirst)] at htakes
      rw [stripFormulaGuard, htakes, Bool.or_true, if_pos rfl]
  · next htakes =>
    unfold stripFormulaGuard
    split
    · next rest =>
      exact if_neg htakes
    · rfl

private theorem formulaSafe_apostrophe (rest : Text) : FormulaSafe ('\'' :: rest) := by
  rintro _ _ ⟨⟩ hmem
  exact absurd hmem (by decide)

private theorem isExcelExactDecimalLiteral_cons {sign : Char} (hsign : sign = '+' ∨ sign = '-')
    (digits : Text) : isExcelExactDecimalLiteral (sign :: digits) ↔ UnsignedDecimal digits := by
  rw [isExcelExactDecimalLiteral_iff]
  rcases hsign with rfl | rfl <;> rfl

private theorem formulaSafe_iff {value : Text} (h : needsFormulaGuard value = false) :
    FormulaSafe value ↔ ¬SignedTwice value := by
  constructor
  · rintro hsafe ⟨sign, digits, hvalue, hsign, -⟩
    rcases hsafe _ _ hvalue (by decide) with ⟨-, whole, fraction, hwhole, htext, -⟩ | ⟨hat, -⟩
    · -- the digits before the dot would start with the sign
      have hfirst : whole.head? = some sign := by
        cases whole with
        | nil => cases hwhole
        | cons first whole =>
          rcases htext with ⟨htext, -⟩ | ⟨htext, -⟩ <;> exact congrArg some (cons.inj htext).1.symm
      rw [validDigits, Bool.and_eq_true, all_eq_true] at hwhole
      have hdigit := hwhole.2 sign (mem_of_mem_head? hfirst)
      rcases hsign with rfl | rfl <;> cases hdigit
    · cases hat
  · intro hsigns first rest hvalue hmem
    rcases (needsFormulaGuard_eq_false_iff value).mp h first rest hvalue hmem with
      ⟨rfl, hdecimal⟩ | hat
    · refine .inl ⟨rfl, ?_⟩
      rw [isExcelExactDecimalLiteral_iff] at hdecimal
      split at hdecimal
      · next hsign =>
        cases rest with
        | nil => cases hsign
        | cons sign digits =>
          exact absurd ⟨sign, digits, hvalue, by simpa using hsign, hdecimal⟩ hsigns
      · exact hdecimal
    · exact .inr hat

/-- The guard can be taken off, tells two texts apart and leaves no formula, unless the text has two
signs. -/
theorem formulaGuard_iff (value : Text) : (stripFormulaGuard (guarded value) = value ∧
      (∀ other, guarded other = guarded value → other = value) ∧ FormulaSafe (guarded value)) ↔
    ¬SignedTwice value := by
  have hinjective (other : Text) (hsame : guarded other = guarded value) : other = value := by
    rw [← stripFormulaGuard_guarded other, hsame, stripFormulaGuard_guarded]
  rw [and_iff_right (stripFormulaGuard_guarded value), and_iff_right hinjective, guarded_eq]
  by_cases hquote : value.head? = some '\''
  · obtain ⟨rest, rfl⟩ := head?_eq_some_iff.mp hquote
    refine iff_of_true ?_ ?_
    · split <;> exact formulaSafe_apostrophe _
    · rintro ⟨sign, digits, ⟨⟩, -⟩
  · rw [takesFormulaGuard_of_ne hquote]
    split
    · next hneeds =>
      refine iff_of_true (formulaSafe_apostrophe value) ?_
      rintro ⟨sign, digits, hvalue, hsign, hdigits⟩
      rw [← Bool.not_eq_false] at hneeds
      refine hneeds ((needsFormulaGuard_eq_false_iff value).mpr fun first rest heq _ => .inl ?_)
      rw [hvalue] at heq
      cases heq
      exact ⟨rfl, (isExcelExactDecimalLiteral_cons hsign digits).mpr hdigits⟩
    · next hneeds => exact formulaSafe_iff ((Bool.not_eq_true _).mp hneeds)

/-- A minus sign before `+1` is left as it is, and starts a formula. -/
theorem formulaGuard_signedTwice : guarded "-+1" = "-+1" ∧ ¬FormulaSafe (guarded "-+1") := by
  refine ⟨rfl, fun hsafe => ?_⟩
  exact (formulaSafe_iff rfl).mp hsafe ⟨'+', ['1'], rfl, .inl rfl, ['1'], [], rfl,
    .inl ⟨rfl, rfl⟩, by decide⟩

end DbxSpec.Delimited
