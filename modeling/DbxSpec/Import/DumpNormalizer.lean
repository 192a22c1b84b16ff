import DbxSpec.Base.Fallible
import DbxSpec.Base.Feeding
import DbxSpec.Base.Text

/-!
# Binary literals of a MySQL dump

`MysqlDumpBinaryLiteralNormalizer` of `crates/dbx-core/src/data/sql_file_import.rs:1692-1924`: it
rewrites `_binary '...'` literals to hexadecimal ones while a dump is read in chunks. The bytes
it cannot judge yet are kept for the next call.
-/

namespace DbxSpec.Import

open DbxSpec.Base List

/-- `sql_file_import.rs:1693`. -/
inductive MysqlDumpBinaryLiteralState
  | normal
  | singleQuoted
  | doubleQuoted
  | backtickQuoted
  | lineComment
  | blockComment
  | binaryQuoted
  deriving DecidableEq, Repr

/-- The fields of the normalizer that a round of its loop reads and writes. -/
structure LiteralScan where
  state : MysqlDumpBinaryLiteralState := .normal
  previousSourceByte : Option UInt8 := none
  quotedEscapePending : Bool := false
  deriving DecidableEq, Repr

/-- `sql_file_import.rs:1705`. -/
structure MysqlDumpBinaryLiteralNormalizer extends LiteralScan where
  pending : List UInt8 := []
  deriving DecidableEq, Repr

/-- The bytes of an ASCII text. -/
def bytesOf (text : String) : List UInt8 := text.toList.map Char.toUInt8

/-- The one error of the normalizer. -/
def unterminatedLiteral : Text := "Unterminated MySQL binary literal"

/-- `u8::is_ascii_whitespace`. -/
def isByteWhitespace (byte : UInt8) : Bool :=
  byte == 32 || byte == 9 || byte == 10 || byte == 12 || byte == 13

/-- `u8::is_ascii_control`. -/
def isByteControl (byte : UInt8) : Bool := byte < 32 || byte == 127

/-- `u8::to_ascii_lowercase`. -/
def byteToLower (byte : UInt8) : UInt8 := if 65 ≤ byte ∧ byte ≤ 90 then byte + 32 else byte

/-- `sql_file_import.rs:1911`. -/
def isSqlIdentifierByte (byte : Option UInt8) : Bool :=
  byte.any fun b => (48 ≤ b && b ≤ 57) || (65 ≤ b && b ≤ 90) || (97 ≤ b && b ≤ 122) ||
    b == '_'.toUInt8 || b == '$'.toUInt8

/-- One hexadecimal digit. -/
def hexDigit (nibble : UInt8) : UInt8 := if nibble < 10 then 48 + nibble else 55 + nibble

/-- `sql_file_import.rs:1915`. -/
def appendHex (byte : UInt8) : List UInt8 := [hexDigit (byte >>> 4), hexDigit (byte &&& 15)]

/-- `sql_file_import.rs:1852-1863`. -/
def unescapeBinary (escaped : UInt8) : UInt8 :=
  if escaped = '0'.toUInt8 then 0
  else if escaped = 'b'.toUInt8 then 8
  else if escaped = 'n'.toUInt8 then 10
  else if escaped = 'r'.toUInt8 then 13
  else if escaped = 't'.toUInt8 then 9
  else if escaped = 'Z'.toUInt8 then 26
  else escaped

namespace LiteralScan

/-- What one round of the loop does. -/
abbrev Step := Round LiteralScan UInt8 Text

/-- What `_` may open: nothing, something that has to wait, or a literal after which `skip` further
bytes have been read. -/
inductive Opening
  | none
  | wait
  | literal (skip : Nat)

/-- `sql_file_import.rs:1722-1745`. -/
def binaryOpening (eof : Bool) (before : Option UInt8) (byte : UInt8) (rest : List UInt8) :
    Opening :=
  if byte != '_'.toUInt8 then .none
  else if rest.length + 1 < 7 then if eof then .none else .wait
  else if ((byte :: rest).take 7).map byteToLower == bytesOf "_binary" &&
      !isSqlIdentifierByte before then
    let space := (rest.drop 6).takeWhile isByteWhitespace
    let after := (rest.drop 6).dropWhile isByteWhitespace
    if after.isEmpty && !eof then .wait
    else if after.head? == some '\''.toUInt8 then .literal (6 + space.length + 1)
    else .none
  else .none

/-- The bytes of a run that have been read, with the last of them remembered. -/
def reads (n : LiteralScan) (state : MysqlDumpBinaryLiteralState)
    (last : UInt8) : LiteralScan :=
  { n with state, previousSourceByte := some last }

/-- `sql_file_import.rs:1747-1785`. -/
def plainStep (eof : Bool) (n : LiteralScan) (byte : UInt8)
    (rest : List UInt8) : Step :=
  if byte == '-'.toUInt8 && rest.head? == some '-'.toUInt8 then
    let byteAfterDashes := rest.tail.head?
    if byteAfterDashes.isNone && !eof then .wait
    else
      let comment := byteAfterDashes.all fun b => isByteWhitespace b || isByteControl b
      .take (n.reads (if comment then .lineComment else n.state) byte) [byte, byte] 1
  else if byte == '-'.toUInt8 && rest.isEmpty && !eof then .wait
  else if byte == '#'.toUInt8 then .take (n.reads .lineComment byte) [byte] 0
  else if byte == '/'.toUInt8 && rest.head? == some '*'.toUInt8 then
    .take (n.reads .blockComment '*'.toUInt8) [byte, '*'.toUInt8] 1
  else if byte == '/'.toUInt8 && rest.isEmpty && !eof then .wait
  else
    let state : MysqlDumpBinaryLiteralState :=
      if byte = '\''.toUInt8 then .singleQuoted
      else if byte = '"'.toUInt8 then .doubleQuoted
      else if byte = '`'.toUInt8 then .backtickQuoted
      else .normal
    .take (n.reads state byte) [byte] 0

/-- `sql_file_import.rs:1721-1786`. -/
def normalStep (eof : Bool) (n : LiteralScan) (before : Option UInt8)
    (byte : UInt8) (rest : List UInt8) : Step :=
  match binaryOpening eof before byte rest with
  | .wait => .wait
  | .literal skip => .take (n.reads .binaryQuoted '\''.toUInt8) (bytesOf "X'") skip
  | .none => n.plainStep eof byte rest

/-- `sql_file_import.rs:1787-1821`. -/
def quotedStep (eof : Bool) (n : LiteralScan) (quote byte : UInt8)
    (rest : List UInt8) : Step :=
  if byte == quote && rest.isEmpty && !eof then .wait
  else if n.quotedEscapePending then
    .take { n.reads n.state byte with quotedEscapePending := false } [byte] 0
  else if byte == '\\'.toUInt8 then
    match rest.head? with
    | some escaped => .take (n.reads n.state escaped) [byte, escaped] 1
    | none => .take { n.reads n.state byte with quotedEscapePending := !eof } [byte] 0
  else if byte == quote then
    if rest.head? == some quote then .take (n.reads n.state quote) [byte, quote] 1
    else .take (n.reads .normal byte) [byte] 0
  else .take (n.reads n.state byte) [byte] 0

/-- `sql_file_import.rs:1822-1829`. -/
def lineCommentStep (n : LiteralScan) (byte : UInt8) : Step :=
  .take (n.reads (if byte == 10 then .normal else n.state) byte) [byte] 0

/-- `sql_file_import.rs:1830-1843`. -/
def blockCommentStep (eof : Bool) (n : LiteralScan) (byte : UInt8)
    (rest : List UInt8) : Step :=
  if byte == '*'.toUInt8 && rest.isEmpty && !eof then .wait
  else if byte == '*'.toUInt8 && rest.head? == some '/'.toUInt8 then
    .take (n.reads .normal '/'.toUInt8) [byte, '/'.toUInt8] 1
  else .take (n.reads n.state byte) [byte] 0

/-- `sql_file_import.rs:1844-1885`. -/
def binaryQuotedStep (eof : Bool) (n : LiteralScan) (byte : UInt8)
    (rest : List UInt8) : Step :=
  if byte == '\\'.toUInt8 then
    match rest.head? with
    | some escaped => .take (n.reads n.state escaped) (appendHex (unescapeBinary escaped)) 1
    | none => if eof then .fail unterminatedLiteral else .wait
  else if byte == '\''.toUInt8 && rest.isEmpty && !eof then .wait
  else if byte == '\''.toUInt8 then
    if rest.head? == some '\''.toUInt8 then .take (n.reads n.state byte) (appendHex byte) 1
    else .take (n.reads .normal byte) [byte] 0
  else .take (n.reads n.state byte) (appendHex byte) 0

/-- `sql_file_import.rs:1720-1886`: one round of the loop, with the byte before the current one. -/
def step (eof : Bool) (n : LiteralScan) (before : Option UInt8)
    (byte : UInt8) (rest : List UInt8) : Step :=
  match n.state with
  | .normal => n.normalStep eof before byte rest
  | .singleQuoted => n.quotedStep eof '\''.toUInt8 byte rest
  | .doubleQuoted => n.quotedStep eof '"'.toUInt8 byte rest
  | .backtickQuoted => n.quotedStep eof '`'.toUInt8 byte rest
  | .lineComment => n.lineCommentStep byte
  | .blockComment => n.blockCommentStep eof byte rest
  | .binaryQuoted => n.binaryQuotedStep eof byte rest

/-- `sql_file_import.rs:1718-1887`: the loop from an index on, with the byte before it if the index
is not zero (`sql_file_import.rs:1902`). -/
def loop (eof : Bool) (n : LiteralScan) : Nat → Option UInt8 → List UInt8 →
    Except Text (LiteralScan × List UInt8 × List UInt8)
  | _, _, [] => .ok (n, [], [])
  | skip + 1, _, byte :: rest => n.loop eof skip (some byte) rest
  | 0, before, byte :: rest =>
    match n.step eof (before.or n.previousSourceByte) byte rest with
    | .wait => .ok (n, [], byte :: rest)
    | .fail error => .error error
    | .take n' out skip =>
      (n'.loop eof skip (some byte) rest).map fun later => (later.1, out ++ later.2.1, later.2.2)

/-! ### Rounds and what follows the chunk -/

section

variable {n n' : LiteralScan} {eof : Bool} {before : Option UInt8}
  {quote byte : UInt8} {rest out : List UInt8} {skip : Nat} (future : List UInt8)

private theorem binaryOpening_append (h : binaryOpening false before byte rest ≠ .wait) :
    binaryOpening true before byte (rest ++ future) = binaryOpening false before byte rest := by
  unfold binaryOpening at h ⊢
  by_cases hbyte : (byte != '_'.toUInt8)
  · rw [if_pos hbyte, if_pos hbyte]
  rw [if_neg hbyte] at h
  rw [if_neg hbyte, if_neg hbyte]
  by_cases hlength : rest.length + 1 < 7
  · rw [if_pos hlength] at h
    exact absurd rfl h
  rw [if_neg hlength] at h
  have htake : (byte :: (rest ++ future)).take 7 = (byte :: rest).take 7 := by
    rw [← cons_append, take_append_of_le_length (by simp only [length_cons]; omega)]
  rw [if_neg hlength, if_neg (by rw [length_append]; omega), htake]
  split at h
  · next hmatch =>
    rw [if_pos hmatch, if_pos hmatch, drop_append_of_le_length (by omega)]
    have hafter : (rest.drop 6).dropWhile isByteWhitespace ≠ [] := by
      intro hnil
      simp [hnil] at h
    obtain ⟨next, more, hnext⟩ := exists_cons_of_ne_nil hafter
    have hsplit : rest.drop 6 = (rest.drop 6).takeWhile isByteWhitespace ++ next :: more := by
      rw [← hnext, takeWhile_append_dropWhile]
    have hstop : ¬isByteWhitespace next := by
      have hhead := head_dropWhile_not isByteWhitespace hafter
      simpa [hnext] using hhead
    have hspace : ∀ c ∈ (rest.drop 6).takeWhile isByteWhitespace, isByteWhitespace c :=
      fun c hc => mem_takeWhile_imp hc
    have hfuture : rest.drop 6 ++ future =
        (rest.drop 6).takeWhile isByteWhitespace ++ next :: (more ++ future) := by
      conv_lhs => rw [hsplit]
      simp
    rw [hfuture, takeWhile_append_of_pos hspace, dropWhile_append_of_pos hspace,
      takeWhile_cons_of_neg hstop, dropWhile_cons_of_neg hstop, append_nil, hnext]
    simp
  · next hmatch => rw [if_neg hmatch, if_neg hmatch]

private theorem plainStep_append (h : n.plainStep false byte rest = .take n' out skip) :
    n.plainStep true byte (rest ++ future) = .take n' out skip := by
  unfold plainStep at h ⊢
  rcases rest with _ | ⟨r, _ | ⟨r', rest⟩⟩
  · have hdash : (byte == '-'.toUInt8) = false := by
      cases hb : byte == '-'.toUInt8
      · rfl
      · simp [hb] at h
    have hslash : (byte == '/'.toUInt8) = false := by
      cases hb : byte == '/'.toUInt8
      · rfl
      · have := eq_of_beq hb
        subst this
        cases h
    simpa [hdash, hslash] using h
  · by_cases hdash : (byte == '-'.toUInt8 && r == '-'.toUInt8)
    · simp [hdash] at h
    · simpa [hdash] using h
  · simpa using h

private theorem blockCommentStep_append
    (h : n.blockCommentStep false byte rest = .take n' out skip) :
    n.blockCommentStep true byte (rest ++ future) = .take n' out skip := by
  unfold blockCommentStep at h ⊢
  rcases rest with _ | ⟨r, rest⟩
  · by_cases hstar : (byte == '*'.toUInt8)
    · simp [hstar] at h
    · simpa [hstar] using h
  · simpa using h

private theorem binaryQuotedStep_append
    (h : n.binaryQuotedStep false byte rest = .take n' out skip) :
    n.binaryQuotedStep true byte (rest ++ future) = .take n' out skip := by
  unfold binaryQuotedStep at h ⊢
  rcases rest with _ | ⟨r, rest⟩
  · by_cases hslash : (byte == '\\'.toUInt8)
    · simp [hslash] at h
    · by_cases hquote : (byte == '\''.toUInt8)
      · simp [hslash, hquote] at h
      · simpa [hslash, hquote] using h
  · simpa using h

private theorem quotedStep_append (h : n.quotedStep false quote byte rest = .take n' out skip) :
    n.quotedStep true quote byte (rest ++ future) = .take n' out skip ∨
      (n.quotedEscapePending = false ∧ byte = '\\'.toUInt8 ∧ byte ≠ quote ∧ rest = [] ∧
        n' = { n.reads n.state byte with quotedEscapePending := true } ∧ out = [byte] ∧
        skip = 0) := by
  unfold quotedStep at h ⊢
  rcases rest with _ | ⟨r, rest⟩
  · by_cases hquote : (byte == quote)
    · simp [hquote] at h
    · by_cases hpending : n.quotedEscapePending
      · simp [hquote, hpending] at h ⊢
        exact h
      · by_cases hslash : (byte == '\\'.toUInt8)
        · right
          simp only [head?_nil, isEmpty_nil, Bool.not_false, Bool.and_true, hquote, hpending,
            hslash, Bool.false_eq_true, if_false, if_true, Round.take.injEq] at h
          obtain ⟨rfl, rfl, rfl⟩ := h
          exact ⟨by simpa using hpending, eq_of_beq hslash, by simpa using hquote,
            rfl, rfl, rfl, rfl⟩
        · left
          simpa [hquote, hpending, hslash] using h
  · simpa using h

/-- A round that reads reads bytes of the rest and remembers the last one, and only the end of the
input makes a round fail. -/
def Reads (eof : Bool) (byte : UInt8) (rest : List UInt8) : Step → Prop
  | .wait => True
  | .fail _ => eof
  | .take n' _ skip =>
    skip ≤ rest.length ∧ n'.previousSourceByte = (rest.take skip).getLast?.or (some byte)

private theorem reads_zero (h : n'.previousSourceByte = some byte) :
    Reads eof byte rest (.take n' out 0) :=
  ⟨Nat.zero_le _, h⟩

private theorem reads_one {next : UInt8} (hhead : rest.head? = some next)
    (h : n'.previousSourceByte = some next) : Reads eof byte rest (.take n' out 1) := by
  obtain ⟨more, rfl⟩ := head?_eq_some_iff.mp hhead
  exact ⟨by simp, h⟩

private theorem binaryOpening_reads (h : binaryOpening eof before byte rest = .literal skip)
    (hlast : n'.previousSourceByte = some '\''.toUInt8) :
    Reads eof byte rest (.take n' out skip) := by
  revert h
  fun_cases binaryOpening eof before byte rest with
  | case5 _ hlength _ space after _ hquote =>
    rintro ⟨rfl⟩
    obtain ⟨more, hmore⟩ := head?_eq_some_iff.mp (eq_of_beq hquote)
    have hsplit : space ++ after = rest.drop 6 := takeWhile_append_dropWhile
    rw [hmore] at hsplit
    have htake : rest.take (6 + space.length + 1) = rest.take 6 ++ space ++ ['\''.toUInt8] := by
      rw [Nat.add_assoc, take_add, ← hsplit, take_length_add_append]
      simp
    have hcount := congrArg length hsplit
    simp only [length_append, length_cons, length_drop] at hcount
    refine ⟨by omega, ?_⟩
    rw [htake, getLast?_concat, hlast]
    rfl
  | _ => nofun

private theorem plainStep_reads : Reads eof byte rest (n.plainStep eof byte rest) := by
  fun_cases n.plainStep eof byte rest with
  | case1 | case3 | case6 => trivial
  | case2 hdashes =>
    rw [Bool.and_eq_true, beq_iff_eq, beq_iff_eq] at hdashes
    exact reads_one hdashes.2 (congrArg some hdashes.1)
  | case4 | case7 => exact reads_zero rfl
  | case5 _ _ _ hstar =>
    rw [Bool.and_eq_true, beq_iff_eq, beq_iff_eq] at hstar
    exact reads_one hstar.2 rfl

private theorem quotedStep_reads : Reads eof byte rest (n.quotedStep eof quote byte rest) := by
  unfold quotedStep
  repeat' split
  any_goals exact reads_zero rfl
  · trivial
  · next escaped hescaped => exact reads_one hescaped rfl
  · next hquote => exact reads_one (eq_of_beq hquote) rfl

private theorem blockCommentStep_reads :
    Reads eof byte rest (n.blockCommentStep eof byte rest) := by
  unfold blockCommentStep
  repeat' split
  · trivial
  · next hslash =>
    rw [Bool.and_eq_true, beq_iff_eq, beq_iff_eq] at hslash
    exact reads_one hslash.2 rfl
  · exact reads_zero rfl

private theorem binaryQuotedStep_reads :
    Reads eof byte rest (n.binaryQuotedStep eof byte rest) := by
  unfold binaryQuotedStep
  repeat' split
  any_goals exact reads_zero rfl
  · next escaped hescaped => exact reads_one hescaped rfl
  · assumption
  · trivial
  · trivial
  · next hbyte hquote => exact reads_one (eq_of_beq hquote) (congrArg some (eq_of_beq hbyte))

private theorem step_reads : Reads eof byte rest (n.step eof before byte rest) := by
  unfold step
  split
  · unfold normalStep
    split
    · trivial
    · next hopening => exact binaryOpening_reads hopening rfl
    · exact plainStep_reads
  case h_2 | h_3 | h_4 => exact quotedStep_reads
  · exact reads_zero rfl
  · exact blockCommentStep_reads
  · exact binaryQuotedStep_reads

/-- The machine, with the remembered byte for the byte before the current one. -/
def machine : Feeder LiteralScan UInt8 UInt8 Text where
  step eof n byte rest := n.step eof n.previousSourceByte byte rest
  finish n rest := if n.state = .binaryQuoted then .error unterminatedLiteral else .ok rest

private theorem loop_eq_run (text : List UInt8) (skip : Nat) (n : LiteralScan)
    (before : Option UInt8)
    (h : (((text.take skip).getLast?.or before).or n.previousSourceByte) = n.previousSourceByte) :
    n.loop eof skip before text = machine.run eof skip n text := by
  induction text generalizing skip n before with
  | nil => simp [loop, Feeder.run]
  | cons byte rest ih =>
    cases skip with
    | succ skip =>
      apply ih
      rw [take_succ_cons, getLast?_cons] at h
      cases hlast : (rest.take skip).getLast? with
      | none | some last => simpa [hlast] using h
    | zero =>
      have hbefore : before.or n.previousSourceByte = n.previousSourceByte := by simpa using h
      rw [loop, Feeder.run, hbefore]
      simp only [machine]
      have hreads := @step_reads n eof n.previousSourceByte byte rest
      cases hstep : n.step eof n.previousSourceByte byte rest with
      | wait => rfl
      | fail error => rfl
      | take n' out skip =>
        dsimp only
        rw [hstep] at hreads
        rw [ih skip n' (some byte)]
        · rfl
        · rw [hreads.2, Option.or_self]

/-- A round that reads does the same whatever follows the chunk, unless it reads a backslash in
quotes at the end of the chunk. -/
theorem step_append (h : n.step false before byte rest = .take n' out skip) :
    n.step true before byte (rest ++ future) = .take n' out skip ∨
      ∃ quote, (∀ eof n'' before byte rest, n''.state = n.state →
          step eof n'' before byte rest = n''.quotedStep eof quote byte rest) ∧
        n.quotedEscapePending = false ∧ byte = '\\'.toUInt8 ∧ byte ≠ quote ∧ rest = [] ∧
        n' = { n.reads n.state byte with quotedEscapePending := true } ∧ out = [byte] ∧
        skip = 0 := by
  unfold step at h ⊢
  split at h
  · next hstate =>
    unfold normalStep at h ⊢
    have hwait : binaryOpening false before byte rest ≠ .wait := by
      intro hw
      rw [hw] at h
      cases h
    rw [binaryOpening_append future hwait]
    split at h
    · cases h
    · exact .inl h
    · exact .inl (plainStep_append future h)
  case h_2 hstate | h_3 hstate | h_4 hstate =>
    refine (quotedStep_append future h).imp_right fun hescape => ⟨_, ?_, hescape⟩
    intro eof n'' before byte rest hsame
    rw [hsame, hstate]
  · exact .inl h
  · exact .inl (blockCommentStep_append future h)
  · exact .inl (binaryQuotedStep_append future h)

private theorem outcome_escape (hquoted : ∀ eof n'' before byte rest, n''.state = n.state →
      step eof n'' before byte rest = n''.quotedStep eof quote byte rest)
    (hpending : n.quotedEscapePending = false) (hne : '\\'.toUInt8 ≠ quote) (future : List UInt8) :
    machine.outcome n ('\\'.toUInt8 :: [] ++ future) =
      (machine.outcome { n.reads n.state '\\'.toUInt8 with quotedEscapePending := true }
        ([].drop 0 ++ future)).map (['\\'.toUInt8] ++ ·) := by
  rcases n with ⟨state, previous, escape⟩
  subst hpending
  have hquote : ('\\'.toUInt8 == quote) = false := by simpa using hne
  cases future with
  | nil =>
    have hstep : machine.step true ⟨state, previous, false⟩ '\\'.toUInt8 [] =
        .take (reads ⟨state, previous, false⟩ state '\\'.toUInt8) ['\\'.toUInt8] 0 := by
      simp only [machine]
      rw [hquoted _ _ _ _ _ rfl, quotedStep, hquote]
      rfl
    exact machine.outcome_take hstep
  | cons c more =>
    have hstep : machine.step true ⟨state, previous, false⟩ '\\'.toUInt8 (c :: more) =
        .take (reads ⟨state, previous, false⟩ state c) ['\\'.toUInt8, c] 1 := by
      simp only [machine]
      rw [hquoted _ _ _ _ _ rfl, quotedStep, hquote]
      rfl
    have hnext : machine.step true ⟨state, some '\\'.toUInt8, true⟩ c more =
        .take (reads ⟨state, previous, false⟩ state c) [c] 0 := by
      refine (hquoted true ⟨state, some '\\'.toUInt8, true⟩ _ c more rfl).trans ?_
      rw [quotedStep, if_neg (by simp)]
      rfl
    have htwo := machine.outcome_take hnext
    rw [drop_zero] at htwo
    refine (machine.outcome_take hstep).trans ?_
    refine Eq.trans ?_ (congrArg (Except.map (['\\'.toUInt8] ++ ·)) htwo).symm
    rw [drop_one, tail_cons]
    cases machine.outcome (reads ⟨state, previous, false⟩ state c) more <;> rfl

private theorem machine_patient : machine.Patient where
  step_ne_fail n byte rest error h := by
    have hreads : Reads false byte rest (machine.step false n byte rest) := step_reads
    rw [h] at hreads
    cases hreads
  step_take := by
    intro n byte rest n' out skip h future
    have hreads : Reads false byte rest (machine.step false n byte rest) := step_reads
    rw [h] at hreads
    have hle : skip ≤ rest.length := hreads.1
    rcases step_append future h with hsame |
      ⟨quote, hquoted, hpending, rfl, hne, rfl, rfl, rfl, rfl⟩
    · rw [cons_append, machine.outcome_take hsame, drop_append_of_le_length hle]
    · exact outcome_escape hquoted hpending hne future

/-- What a round that reads gives: an ASCII byte at least, or the one byte that it has read. -/
def Gives (byte : UInt8) : Step → Prop
  | .take _ out skip => (∃ b ∈ out, b < 128) ∨ (out = [byte] ∧ skip = 0)
  | _ => True

private theorem gives_ascii {b : UInt8} (hmem : b ∈ out) (hascii : b < 128) :
    Gives byte (.take n' out skip) :=
  .inl ⟨b, hmem, hascii⟩

private theorem gives_byte : Gives byte (.take n' [byte] 0) := .inr ⟨rfl, rfl⟩

private theorem gives_appendHex (read : UInt8) : Gives byte (.take n' (appendHex read) skip) := by
  refine gives_ascii mem_cons_self ?_
  have hnibble : (read >>> 4).toNat < 16 := by
    have hread := read.toNat_lt
    rw [UInt8.toNat_shiftRight]
    simp only [UInt8.reduceToNat, Nat.reduceMod, Nat.shiftRight_eq_div_pow, Nat.reducePow]
    omega
  rw [hexDigit, UInt8.lt_iff_toNat_lt]
  split
  · rw [UInt8.toNat_add]
    simp only [UInt8.reduceToNat, Nat.reducePow]
    omega
  · rw [UInt8.toNat_add]
    simp only [UInt8.reduceToNat, Nat.reducePow]
    omega

private theorem plainStep_gives : Gives byte (n.plainStep eof byte rest) := by
  fun_cases n.plainStep eof byte rest with
  | case1 | case3 | case6 => trivial
  | case2 hdashes =>
    rw [Bool.and_eq_true, beq_iff_eq] at hdashes
    exact gives_ascii mem_cons_self (hdashes.1 ▸ by decide)
  | case4 | case7 => exact gives_byte
  | case5 => exact gives_ascii (mem_cons_of_mem _ mem_cons_self) (by decide)

private theorem quotedStep_gives (hquote : quote < 128) :
    Gives byte (n.quotedStep eof quote byte rest) := by
  unfold quotedStep
  repeat' split
  any_goals exact gives_byte
  · trivial
  · next hslash _ _ _ => exact gives_ascii mem_cons_self (eq_of_beq hslash ▸ by decide)
  · exact gives_ascii (mem_cons_of_mem _ mem_cons_self) hquote

private theorem step_gives : Gives byte (n.step eof before byte rest) := by
  unfold step
  split
  · unfold normalStep
    split
    · trivial
    · exact gives_ascii mem_cons_self (by decide)
    · exact plainStep_gives
  case h_2 | h_3 | h_4 => exact quotedStep_gives (by decide)
  · exact gives_byte
  · unfold blockCommentStep
    repeat' split
    · trivial
    · exact gives_ascii (mem_cons_of_mem _ mem_cons_self) (by decide)
    · exact gives_byte
  · unfold binaryQuotedStep
    repeat' split
    any_goals first | trivial | exact gives_byte | exact gives_appendHex _

end

/-! ### What is held back -/

/-- Bytes that are held back however many they are: outside quotes and comments, `_binary` that does
not continue a name, and only white space after it. -/
structure HoldsBack (n : LiteralScan) (bytes : List UInt8) : Prop where
  normal : n.state = .normal
  boundary : isSqlIdentifierByte n.previousSourceByte = false
  name : (bytes.take 7).map byteToLower = bytesOf "_binary"
  spaces : ∀ byte ∈ bytes.drop 7, isByteWhitespace byte

section

variable {n n' : LiteralScan} {byte : UInt8} {rest : List UInt8}

private theorem eq_underscore_of_lower {b : UInt8} (h : byteToLower b = '_'.toUInt8) :
    b = '_'.toUInt8 := by
  unfold byteToLower at h
  split at h
  · next hletter =>
    have hunderscore : '_'.toUInt8.toNat = 95 := by decide
    have hsum := congrArg UInt8.toNat h
    rw [UInt8.toNat_add, hunderscore] at hsum
    rw [UInt8.le_iff_toNat_le, UInt8.le_iff_toNat_le] at hletter
    simp only [UInt8.reduceToNat, Nat.reducePow] at hsum hletter
    omega
  · exact h

private theorem binaryOpening_eq_wait_iff {before : Option UInt8} (hlong : 6 ≤ rest.length) :
    binaryOpening false before byte rest = .wait ↔
      isSqlIdentifierByte before = false ∧
        ((byte :: rest).take 7).map byteToLower = bytesOf "_binary" ∧
        ∀ b ∈ (byte :: rest).drop 7, isByteWhitespace b := by
  have hshort : ¬rest.length + 1 < 7 := by omega
  have hfirst : ((byte :: rest).take 7).map byteToLower = bytesOf "_binary" →
      byte = '_'.toUInt8 := by
    intro hname
    apply eq_underscore_of_lower
    simpa [bytesOf] using congrArg head? hname
  rw [binaryOpening, if_neg hshort, drop_succ_cons, ← dropWhile_eq_nil_iff]
  generalize ((byte :: rest).take 7).map byteToLower = word at hfirst
  generalize (rest.drop 6).dropWhile isByteWhitespace = after
  by_cases hname : word = bytesOf "_binary"
  · have hopens : ¬(byte != '_'.toUInt8) := by simp [hfirst hname]
    rw [if_neg hopens, hname, beq_self_eq_true, Bool.true_and]
    cases isSqlIdentifierByte before with
    | true => simp
    | false =>
      rcases after with _ | ⟨next, more⟩
      · simp
      · by_cases hquote : next = '\''.toUInt8 <;> simp [hquote]
  · have hother : ¬(word == bytesOf "_binary" && !isSqlIdentifierByte before) := by simp [hname]
    rw [if_neg hother]
    simp [hname]

private theorem plainStep_ne_wait {first second : UInt8} :
    n.plainStep false byte (first :: second :: rest) ≠ .wait := by
  unfold plainStep
  repeat' split
  all_goals simp_all

private theorem quotedStep_ne_wait {quote first : UInt8} :
    n.quotedStep false quote byte (first :: rest) ≠ .wait := by
  unfold quotedStep
  repeat' split
  all_goals simp_all

private theorem blockCommentStep_ne_wait {first : UInt8} :
    n.blockCommentStep false byte (first :: rest) ≠ .wait := by
  unfold blockCommentStep
  repeat' split
  all_goals simp_all

private theorem binaryQuotedStep_ne_wait {first : UInt8} :
    n.binaryQuotedStep false byte (first :: rest) ≠ .wait := by
  unfold binaryQuotedStep
  repeat' split
  all_goals simp_all

private theorem step_eq_wait_iff (hlong : 6 ≤ rest.length) :
    machine.step false n byte rest = .wait ↔ n.HoldsBack (byte :: rest) := by
  have hwaits : n.HoldsBack (byte :: rest) ↔ n.state = .normal ∧
      binaryOpening false n.previousSourceByte byte rest = .wait := by
    rw [binaryOpening_eq_wait_iff hlong]
    exact ⟨fun ⟨hstate, hbefore, hname, hspaces⟩ => ⟨hstate, hbefore, hname, hspaces⟩,
      fun ⟨hstate, hbefore, hname, hspaces⟩ => ⟨hstate, hbefore, hname, hspaces⟩⟩
  obtain ⟨first, second, rest, rfl⟩ : ∃ first second more, rest = first :: second :: more := by
    rcases rest with _ | ⟨first, _ | ⟨second, rest⟩⟩
    · simp at hlong
    · simp at hlong
    · exact ⟨first, second, rest, rfl⟩
  rw [hwaits]
  simp only [machine, step]
  cases n.state with
  | normal =>
    dsimp only
    rw [normalStep]
    cases binaryOpening false n.previousSourceByte byte (first :: second :: rest) with
    | none => simp [plainStep_ne_wait]
    | wait => simp
    | literal skip => simp
  | singleQuoted | doubleQuoted | backtickQuoted => simp [quotedStep_ne_wait]
  | lineComment => simp [lineCommentStep]
  | blockComment => simp [blockCommentStep_ne_wait]
  | binaryQuoted => simp [binaryQuotedStep_ne_wait]

private theorem run_of_not_ascii {text out left : List UInt8}
    (hrun : machine.run false 0 n text = .ok (n', out, left)) (hout : ∀ b ∈ out, ¬b < 128) :
    text = out ++ left ∧ ∀ byte rest, left = byte :: rest →
      machine.step false n' byte rest = .wait := by
  induction text generalizing n out with
  | nil =>
    cases hrun
    exact ⟨rfl, nofun⟩
  | cons byte rest ih =>
    have hgives : Gives byte (machine.step false n byte rest) := step_gives
    rw [Feeder.run] at hrun
    cases hstep : machine.step false n byte rest with
    | wait =>
      rw [hstep] at hrun
      cases hrun
      refine ⟨rfl, ?_⟩
      rintro _ _ ⟨⟩
      exact hstep
    | fail error =>
      rw [hstep] at hrun
      cases hrun
    | take next given skip =>
      rw [hstep] at hrun hgives
      obtain ⟨⟨_, later, _⟩, hlater, heq⟩ := map_eq_ok_iff.mp hrun
      cases heq
      rcases hgives with ⟨b, hmem, hascii⟩ | ⟨rfl, rfl⟩
      · exact absurd hascii (hout b (mem_append_left _ hmem))
      · obtain ⟨rfl, hwait⟩ := ih hlater fun b hb => hout b (mem_append_right _ hb)
        exact ⟨rfl, hwait⟩

private theorem step_underscore (hstate : n.state = .normal) : ∃ n' b out skip,
    machine.step true n '_'.toUInt8 rest = .take n' (b :: out) skip ∧ b < 128 := by
  simp only [machine, step, hstate, normalStep]
  cases hopening : binaryOpening true n.previousSourceByte '_'.toUInt8 rest with
  | none => exact ⟨_, _, _, _, rfl, by decide⟩
  | wait =>
    revert hopening
    fun_cases binaryOpening true n.previousSourceByte '_'.toUInt8 rest <;> simp_all
  | literal skip => exact ⟨_, _, _, _, rfl, by decide⟩

private theorem HoldsBack.exists_cons {bytes : List UInt8} (h : n.HoldsBack bytes) :
    ∃ rest, bytes = '_'.toUInt8 :: rest := by
  rcases bytes with _ | ⟨byte, rest⟩
  · cases h.name
  · have hbyte : byteToLower byte = '_'.toUInt8 := by
      simpa [bytesOf] using congrArg head? h.name
    exact ⟨rest, by rw [eq_underscore_of_lower hbyte]⟩

end

end LiteralScan

/-! ### The calls -/

namespace MysqlDumpBinaryLiteralNormalizer

/-- `sql_file_import.rs:1713`. -/
def normalize (n : MysqlDumpBinaryLiteralNormalizer) (input : List UInt8) (eof : Bool) :
    Except Text (MysqlDumpBinaryLiteralNormalizer × List UInt8) :=
  (n.toLiteralScan.loop eof 0 none (n.pending ++ input)).bind fun (scan, out, rest) =>
    if eof then
      if scan.state = .binaryQuoted then .error unterminatedLiteral
      else .ok ({ scan with pending := [] }, out ++ rest)
    else .ok ({ scan with pending := rest }, out)

/-- The calls for a list of chunks, the last of them with `eof`, and their outputs. -/
def normalizeAll : MysqlDumpBinaryLiteralNormalizer → List (List UInt8) → List UInt8 →
    Except Text (List UInt8)
  | n, [], last => (n.normalize last true).map Prod.snd
  | n, chunk :: chunks, last =>
    (n.normalize chunk false).bind fun (n', out) =>
      (normalizeAll n' chunks last).map (out ++ ·)

section

variable (n : MysqlDumpBinaryLiteralNormalizer)

private theorem normalize_true (input : List UInt8) :
    (n.normalize input true).map Prod.snd =
      LiteralScan.machine.outcome n.toLiteralScan (n.pending ++ input) := by
  rw [normalize, LiteralScan.loop_eq_run _ _ _ _ (by simp), Feeder.outcome]
  rcases LiteralScan.machine.run true 0 n.toLiteralScan (n.pending ++ input) with _ | last
  · rfl
  obtain ⟨scan, out, rest⟩ := last
  simp only [Except.bind, LiteralScan.machine, if_true]
  by_cases hstate : scan.state = .binaryQuoted
  · rw [if_pos hstate, if_pos hstate]
    rfl
  · rw [if_neg hstate, if_neg hstate]
    rfl

/-- A call before the end does not fail, and the calls after it go on with the rest. -/
theorem normalize_false (input : List UInt8) :
    ∃ after out, n.normalize input false = .ok (after, out) ∧ ∀ future,
      (n.normalize (input ++ future) true).map Prod.snd =
        ((after.normalize future true).map Prod.snd).map (out ++ ·) := by
  obtain ⟨now, hrun, hnow⟩ :=
    LiteralScan.machine_patient.run_false (n.pending ++ input) 0 n.toLiteralScan
  refine ⟨{ now.1 with pending := now.2.2 }, now.2.1, ?_, ?_⟩
  · rw [normalize, LiteralScan.loop_eq_run _ _ _ _ (by simp), hrun]
    rfl
  · intro future
    rw [normalize_true, normalize_true, ← append_assoc]
    exact hnow future

/-- A call before the end gives nothing if and only if all bytes are held back. -/
theorem normalize_eq_nil_iff {input : List UInt8} (hlong : 7 ≤ (n.pending ++ input).length) :
    (n.normalize input false).map Prod.snd = .ok [] ↔ n.HoldsBack (n.pending ++ input) := by
  rw [normalize, LiteralScan.loop_eq_run _ _ _ _ (by simp)]
  obtain ⟨byte, rest, htext⟩ := exists_cons_of_ne_nil (ne_nil_of_length_pos (by omega :
    0 < (n.pending ++ input).length))
  rw [htext, length_cons] at hlong
  rw [htext, ← LiteralScan.step_eq_wait_iff (by omega), Feeder.run]
  have hgives : LiteralScan.Gives byte (LiteralScan.machine.step false n.toLiteralScan byte rest) :=
    LiteralScan.step_gives
  cases hstep : LiteralScan.machine.step false n.toLiteralScan byte rest with
  | wait => simp [Except.bind, Except.map]
  | fail error => simp [Except.bind, Except.map]
  | take next out skip =>
    rw [hstep] at hgives
    have hout : out ≠ [] := by
      rintro rfl
      simp [LiteralScan.Gives] at hgives
    dsimp only
    cases LiteralScan.machine.run false skip next rest <;> simp [Except.bind, Except.map, hout]

/-- A call before the end that gives a few bytes and no ASCII byte among them holds back all the
others. -/
theorem holdsBack_of_not_ascii {after : MysqlDumpBinaryLiteralNormalizer} {input out : List UInt8}
    (h : n.normalize input false = .ok (after, out)) (hout : ∀ b ∈ out, ¬b < 128)
    (hlong : out.length + 7 ≤ (n.pending ++ input).length) : after.HoldsBack after.pending := by
  rw [normalize, LiteralScan.loop_eq_run _ _ _ _ (by simp), bind_eq_ok_iff] at h
  obtain ⟨⟨scan, given, left⟩, hrun, heq⟩ := h
  obtain ⟨rfl, rfl⟩ := Prod.mk.inj (Except.ok.inj heq)
  obtain ⟨htext, hwait⟩ := LiteralScan.run_of_not_ascii hrun hout
  rw [htext, length_append] at hlong
  rcases left with _ | ⟨byte, rest⟩
  · simp at hlong
  · rw [length_cons] at hlong
    exact (LiteralScan.step_eq_wait_iff (by omega)).mp (hwait byte rest rfl)

/-- What has been held back gives an ASCII byte first. -/
theorem exists_ascii_of_holdsBack {future bytes : List UInt8} (h : n.HoldsBack n.pending)
    (hbytes : (n.normalize future true).map Prod.snd = .ok bytes) :
    ∃ b rest, bytes = b :: rest ∧ b < 128 := by
  obtain ⟨rest, hpending⟩ := h.exists_cons
  obtain ⟨next, b, out, skip, hstep, hascii⟩ :=
    @LiteralScan.step_underscore n.toLiteralScan (rest ++ future) h.normal
  rw [normalize_true, hpending, cons_append, LiteralScan.machine.outcome_take hstep] at hbytes
  obtain ⟨later, -, rfl⟩ := map_eq_ok_iff.mp hbytes
  exact ⟨b, out ++ later, rfl, hascii⟩

private theorem normalizeAll_eq_feedAll (chunks : List (List UInt8)) (last : List UInt8) :
    n.normalizeAll chunks last =
      LiteralScan.machine.feedAll n.toLiteralScan n.pending chunks last := by
  induction chunks generalizing n with
  | nil => exact normalize_true n last
  | cons chunk chunks ih =>
    rw [normalizeAll, normalize, LiteralScan.loop_eq_run _ _ _ _ (by simp), Feeder.feedAll]
    cases LiteralScan.machine.run false 0 n.toLiteralScan (n.pending ++ chunk) with
    | error e => rfl
    | ok now => simp only [Except.bind, Bool.false_eq_true, if_false, ih]

end

/-- However the bytes are cut into chunks, the calls fail with the error, or give the output, of
one call with all of them. -/
theorem normalizeAll_eq_whole (chunks : List (List UInt8)) (last : List UInt8) :
    normalizeAll {} chunks last = (normalize {} (chunks.flatten ++ last) true).map Prod.snd := by
  rw [normalizeAll_eq_feedAll, LiteralScan.machine_patient.feedAll_eq, normalize_true]
  rfl

end MysqlDumpBinaryLiteralNormalizer

end DbxSpec.Import
