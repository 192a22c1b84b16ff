import DbxSpec.Base.Scanner
import DbxSpec.Transfer.EscapeRead
import DbxSpec.Redis.ClusterScan

/-!
# Arguments of a console command

`parse_command_argv` of `crates/dbx-driver-redis/src/lib.rs:2587-2697`. Arguments come back from how
`redis-cli` prints them. Every character of any other text has its place in the arguments, except
that `\x` drops a hexadecimal digit that no second one follows.
-/

namespace DbxSpec.Redis

open DbxSpec.Base DbxSpec.Transfer List

/-! ### The parser -/

/-- A quote around an argument. -/
inductive Quote
  | double
  | single
  deriving DecidableEq, Repr

/-- The quote that a character is. -/
def quoteOf (ch : Char) : Option Quote :=
  if ch = '"' then some .double else if ch = '\'' then some .single else none

/-- The variables of the loop; the arguments that are finished are its output. There is a current
argument once `token_started` is set. -/
structure ArgvState where
  current : Option Bytes := none
  quote : Option Quote := none
  escaping : Bool := false
  deriving DecidableEq, Repr

/-- Bytes at the end of the current argument. -/
@[simp] def ArgvState.push (s : ArgvState) (bytes : Bytes) : ArgvState :=
  { s with current := some (s.current.getD [] ++ bytes) }

/-- What a backslash and a character stand for. -/
def escapeBytes : Char → Bytes
  | 'n' => [10]
  | 'r' => [13]
  | 't' => [9]
  | 'a' => [7]
  | 'b' => [8]
  | 'f' => [12]
  | 'v' => [11]
  | ch => String.utf8EncodeChar ch

/-- The byte of two hexadecimal digits. -/
def hexByte : Text → Option UInt8
  | high :: low :: _ => (hexDigitValue high).bind fun high =>
      (hexDigitValue low).map fun low => .ofNat (16 * high + low)
  | _ => none

/-- What `\x` pushes, and how many characters after it are consumed. The first digit is consumed
before the second one is looked at. -/
def hexEscape (rest : Text) : Bytes × Nat :=
  match hexByte rest with
  | some byte => ([byte], 2)
  | none => (['x'.toUInt8], if (rest.head?.bind hexDigitValue).isSome then 1 else 0)

/-- The body of the loop. A quote has started the argument it stands in. -/
def argvStep (s : ArgvState) (ch : Char) (rest : Text) : ScanStep ArgvState Bytes :=
  if s.escaping then
    let escape := if ch = 'x' then hexEscape rest else (escapeBytes ch, 0)
    ⟨{ s.push escape.1 with escaping := false }, [], escape.2⟩
  else if ch = '\\' then
    ⟨{ s with current := some (s.current.getD []), escaping := true }, [], 0⟩
  else if s.quote.isSome then
    if quoteOf ch = s.quote then ⟨{ s with quote := none }, [], 0⟩
    else ⟨s.push (String.utf8EncodeChar ch), [], 0⟩
  else if (quoteOf ch).isSome then
    ⟨{ s with current := some (s.current.getD []), quote := quoteOf ch }, [], 0⟩
  else if isWhitespace ch then
    ⟨{ s with current := none }, s.current.toList, (rest.takeWhile isWhitespace).length⟩
  else ⟨s.push (String.utf8EncodeChar ch), [], 0⟩

/-- The loop. -/
def argvScanner : Scanner ArgvState Char Bytes := ⟨fun s _ => s, argvStep⟩

/-- The text without the semicolons at its end. -/
def withoutSemicolons (commandText : Text) : Text := (trimEnd commandText).rdropWhile (· == ';')

/-- `lib.rs:2587`. -/
def parseCommandArgv (commandText : Text) : Except Text (List Bytes) :=
  let (s, argv) := argvScanner.scan 0 {} (withoutSemicolons commandText)
  let s := if s.escaping then s.push ['\\'.toUInt8] else s
  if s.quote.isSome then .error "Redis command has an unterminated quote"
  else
    let argv := argv ++ s.current.toList
    if argv.head?.all isEmpty then .error "Redis command is empty" else .ok argv

/-! ### What the characters contribute -/

/-- What a character contributes in or outside of quotes, with those that belong to it. -/
def contribution (quote : Option Quote) (ch : Char) (rest : Text) :
    ScanStep (Option Quote) UInt8 :=
  if ch = '\\' then
    match rest with
    | [] => ⟨quote, ['\\'.toUInt8], 0⟩
    | next :: more =>
      match if next = 'x' then hexByte more else none with
      | some byte => ⟨quote, [byte], 3⟩
      | none => ⟨quote, escapeBytes next, 1⟩
  else if quote.isSome then
    if quoteOf ch = quote then ⟨none, [], 0⟩ else ⟨quote, String.utf8EncodeChar ch, 0⟩
  else if (quoteOf ch).isSome then ⟨quoteOf ch, [], 0⟩
  else if isWhitespace ch then ⟨quote, [], (rest.takeWhile isWhitespace).length⟩
  else ⟨quote, String.utf8EncodeChar ch, 0⟩

/-- The characters in their order. -/
def reader : Scanner (Option Quote) Char UInt8 := ⟨fun quote _ => quote, contribution⟩

/-- The bytes that a text contributes. -/
def contributions (text : Text) : Bytes := (reader.scan 0 none text).2

/-- A step that drops a digit. -/
def DropsDigit (s : ArgvState) (ch : Char) (rest : Text) : Prop :=
  s.escaping ∧ ch = 'x' ∧ hexByte rest = none ∧ (rest.head?.bind hexDigitValue).isSome
  deriving Decidable

/-- No digit of a text is dropped. -/
def DigitsKept (text : Text) : Prop :=
  argvScanner.Along (fun s ch rest _ => ¬DropsDigit s ch rest) [] 0 {} text
  deriving Decidable

/-- The backslash that was read last. -/
@[simp] def ArgvState.ahead (s : ArgvState) : Text := if s.escaping then ['\\'] else []

/-- The bytes of finished arguments and of the current one. -/
def collected (last : ArgvState × List Bytes) : Bytes :=
  last.2.flatten ++ last.1.current.getD [] ++ if last.1.escaping then ['\\'.toUInt8] else []

variable {s : ArgvState} {ch : Char} {text rest : Text}

/-- What the characters of a step contribute is pushed, but for a digit that is dropped. -/
def Pushes (s : ArgvState) (ch : Char) (rest : Text) (now : ScanStep ArgvState Bytes) : Prop :=
  ∃ bytes, reader.Runs s.quote (s.ahead ++ ch :: rest) bytes now.state.quote
      (now.state.ahead ++ rest.drop now.skip) ∧
    if DropsDigit s ch rest then
      (now.out.flatten ++ now.state.current.getD []).length < (s.current.getD [] ++ bytes).length
    else now.out.flatten ++ now.state.current.getD [] = s.current.getD [] ++ bytes

private theorem contribution_digit (quote : Option Quote) (hdigit : (hexDigitValue ch).isSome) :
    contribution quote ch rest = ⟨quote, String.utf8EncodeChar ch, 0⟩ := by
  have hne : ∀ other, hexDigitValue other = none → ch ≠ other := by
    rintro _ hother rfl
    simp [hother] at hdigit
  have hspace : isWhitespace ch = false := by
    by_contra hspace
    simp only [isWhitespace, hexDigitValue, Char.isDigit] at hspace hdigit
    split_ifs at hdigit <;> simp_all [Char.le_def, UInt32.le_iff_toNat_le] <;> omega
  have hquote : quoteOf ch = none := by simp [quoteOf, hne '"' rfl, hne '\'' rfl]
  cases quote <;> simp [contribution, hne '\\' rfl, hspace, hquote]

private theorem escape_pushes (hescaping : s.escaping) : Pushes s ch rest (argvStep s ch rest) := by
  rw [argvStep, if_pos hescaping]
  by_cases hx : ch = 'x'
  · subst hx
    cases hbyte : hexByte rest with
    | some byte =>
      have hstep : reader.step s.quote '\\' ('x' :: rest) = ⟨s.quote, [byte], 3⟩ := by
        simp [reader, contribution, hbyte]
      refine ⟨[byte], ?_, ?_⟩
      · simpa [hexEscape, hbyte, hescaping] using reader.runs_step hstep
      · simp [DropsDigit, hexEscape, hbyte]
    | none =>
      have hstep : reader.step s.quote '\\' ('x' :: rest) = ⟨s.quote, ['x'.toUInt8], 1⟩ := by
        simp [reader, contribution, hbyte]
        rfl
      have hruns := reader.runs_step hstep
      cases hdigit : (rest.head?.bind hexDigitValue).isSome with
      | false =>
        refine ⟨['x'.toUInt8], ?_, ?_⟩
        · simpa [hexEscape, hbyte, hescaping, hdigit] using hruns
        · simp [DropsDigit, hexEscape, hbyte, hdigit]
      | true =>
        rcases rest with _ | ⟨digit, more⟩
        · cases hdigit
        rw [head?_cons, Option.bind_some] at hdigit
        have hplain := reader.runs_step (@contribution_digit digit more s.quote hdigit)
        refine ⟨['x'.toUInt8] ++ String.utf8EncodeChar digit, ?_, ?_⟩
        · simpa [hexEscape, hbyte, hescaping, hdigit] using hruns.trans hplain
        · simp [DropsDigit, hexEscape, hbyte, hdigit, hescaping, Char.utf8Size_pos]
  · have hstep : reader.step s.quote '\\' (ch :: rest) = ⟨s.quote, escapeBytes ch, 1⟩ := by
      simp [reader, contribution, hx]
    refine ⟨escapeBytes ch, ?_, ?_⟩
    · simpa [hescaping, hx] using reader.runs_step hstep
    · simp [DropsDigit, hx]

private theorem argvStep_pushes (s : ArgvState) (ch : Char) (rest : Text) :
    Pushes s ch rest (argvStep s ch rest) := by
  cases hescaping : s.escaping with
  | true => exact escape_pushes hescaping
  | false =>
    have hdrops : ¬DropsDigit s ch rest := by simp [DropsDigit, hescaping]
    by_cases hch : ch = '\\'
    · subst hch
      refine ⟨[], ?_, ?_⟩
      · simp [argvStep, Scanner.Runs, hescaping]
      · simp [argvStep, hdrops, hescaping]
    · have hsame : (argvStep s ch rest).state.escaping = false ∧
          contribution s.quote ch rest = ⟨(argvStep s ch rest).state.quote,
            (contribution s.quote ch rest).out, (argvStep s ch rest).skip⟩ ∧
          (argvStep s ch rest).out.flatten ++ (argvStep s ch rest).state.current.getD [] =
            s.current.getD [] ++ (contribution s.quote ch rest).out := by
        simp only [argvStep, contribution, hescaping, hch]
        split_ifs <;> simp_all
        cases s.current <;> simp
      obtain ⟨hnow, hread, hbytes⟩ := hsame
      refine ⟨_, ?_, by rwa [if_neg hdrops]⟩
      simpa [hescaping, hnow] using reader.runs_step hread

private theorem scan_reads (text : Text) : ∀ (skip : Nat) (s : ArgvState),
    (collected (argvScanner.scan skip s text)).length ≤
      (s.current.getD [] ++ (reader.scan 0 s.quote (s.ahead ++ text.drop skip)).2).length ∧
    (collected (argvScanner.scan skip s text) =
        s.current.getD [] ++ (reader.scan 0 s.quote (s.ahead ++ text.drop skip)).2 ↔
      argvScanner.Along (fun s ch rest _ => ¬DropsDigit s ch rest) [] skip s text) := by
  induction text with
  | nil =>
    intro skip s
    have hend : collected (argvScanner.scan skip s []) =
        s.current.getD [] ++ (reader.scan 0 s.quote (s.ahead ++ [].drop skip)).2 := by
      cases hescaping : s.escaping <;>
        simp [Scanner.scan, collected, hescaping, reader, contribution]
    exact ⟨hend ▸ le_rfl, iff_of_true hend trivial⟩
  | cons ch rest ih =>
    intro skip s
    cases skip with
    | succ skip => simpa [Scanner.scan, Scanner.Along] using ih skip s
    | zero =>
      obtain ⟨bytes, hruns, hbytes⟩ := argvStep_pushes s ch rest
      obtain ⟨hle, hiff⟩ := ih (argvStep s ch rest).skip (argvStep s ch rest).state
      have hcollected : collected (argvScanner.scan 0 s (ch :: rest)) =
          (argvStep s ch rest).out.flatten ++ collected
            (argvScanner.scan (argvStep s ch rest).skip (argvStep s ch rest).state rest) := by
        simp only [collected, Scanner.scan, flatten_append, append_assoc]
        rfl
      rw [hcollected, drop_zero, hruns, Scanner.Along]
      simp only [length_append] at hle ⊢
      split at hbytes
      · next hdrops =>
        simp only [length_append] at hbytes
        refine ⟨by omega, iff_of_false ?_ fun halong => halong.1 hdrops⟩
        intro heq
        have hlength := congrArg length heq
        simp only [length_append] at hlength
        omega
      · next hkept =>
        have hlength := congrArg length hbytes
        simp only [length_append] at hlength
        refine ⟨by omega, ?_⟩
        rw [← append_assoc, ← hbytes, append_assoc, append_right_inj]
        exact hiff.trans (and_iff_right hkept).symm

private theorem flatten_eq_contributions_iff {argv : List Bytes}
    (h : parseCommandArgv text = .ok argv) :
    argv.flatten = contributions (withoutSemicolons text) ↔
      DigitsKept (withoutSemicolons text) := by
  obtain ⟨-, hiff⟩ := scan_reads (withoutSemicolons text) 0 {}
  rw [DigitsKept, ← hiff]
  rw [parseCommandArgv] at h
  generalize argvScanner.scan 0 {} (withoutSemicolons text) = last at *
  suffices hcollected : argv.flatten = collected last by rw [hcollected]; rfl
  dsimp only at h
  split_ifs at h with hescaping
  · cases h
    simp [collected, hescaping]
  · cases h
    cases hcurrent : last.1.current <;> simp [collected, hescaping, hcurrent]

/-! ### Printed arguments -/

/-- A byte as `redis-cli` prints it. -/
def printByte (byte : UInt8) : Text :=
  let digit (value : Nat) := "0123456789abcdef".toList.getD value '0'
  match [(10, 'n'), (13, 'r'), (9, 't'), (7, 'a'), (8, 'b'), (92, '\\'), (34, '"')].lookup byte with
  | some letter => ['\\', letter]
  | none =>
    if 32 ≤ byte ∧ byte < 127 then [.ofNat byte.toNat]
    else ['\\', 'x', digit (byte.toNat / 16), digit (byte.toNat % 16)]

/-- Arguments as `redis-cli` prints them, with blanks between them. -/
def printArguments (blanks : Nat) (arguments : List Bytes) : Text :=
  joinTexts (replicate (blanks + 1) ' ')
    (arguments.map fun argument => '"' :: argument.flatMap printByte ++ ['"'])

/-- A text that stands for a byte within double quotes. -/
def spells (byte : UInt8) : Text → Bool
  | [ch] => quoteOf ch ≠ some .double ∧ ch ≠ '\\' ∧ String.utf8EncodeChar ch = [byte]
  | ['\\', letter] => letter ≠ 'x' ∧ escapeBytes letter = [byte]
  | ['\\', 'x', high, low] => hexByte [high, low] = some byte
  | _ => false

private theorem spells_printByte (byte : UInt8) : spells byte (printByte byte) := by
  have hall : ∀ n < 256, spells (.ofNat n) (printByte (.ofNat n)) := by decide +kernel
  simpa using hall byte.toNat byte.toNat_lt

/-- Within double quotes. -/
def inside (current : Bytes) : ArgvState := ⟨some current, some .double, false⟩

private theorem runs_spells {byte : UInt8} (h : spells byte text) (current : Bytes) (rest : Text) :
    argvScanner.Runs (inside current) (text ++ rest) [] (inside (current ++ [byte])) rest := by
  unfold spells at h
  have hopen : ∀ rest, argvScanner.Runs (inside current) ('\\' :: rest) []
      { inside current with escaping := true } rest := fun rest => argvScanner.runs_step rfl
  split at h
  · next ch =>
    simp only [decide_eq_true_eq] at h
    have hstep : argvScanner.step (inside current) ch rest =
        ⟨inside (current ++ [byte]), [], 0⟩ := by
      simp [argvScanner, argvStep, inside, h]
    exact argvScanner.runs_step hstep
  · next letter =>
    simp only [decide_eq_true_eq] at h
    have hstep : argvScanner.step { inside current with escaping := true } letter rest =
        ⟨inside (current ++ [byte]), [], 0⟩ := by
      simp [argvScanner, argvStep, inside, h]
    exact (hopen _).trans (argvScanner.runs_step hstep)
  · next high low =>
    have hstep : argvScanner.step { inside current with escaping := true } 'x'
        (high :: low :: rest) = ⟨inside (current ++ [byte]), [], 2⟩ := by
      have hbyte : hexByte (high :: low :: rest) = some byte := of_decide_eq_true h
      simp [argvScanner, argvStep, inside, hexEscape, hbyte]
    exact (hopen _).trans (argvScanner.runs_step hstep)
  · cases h

private theorem runs_printBytes (bytes : Bytes) : ∀ (current : Bytes) (rest : Text),
    argvScanner.Runs (inside current) (bytes.flatMap printByte ++ rest) []
      (inside (current ++ bytes)) rest := by
  induction bytes with
  | nil => simp [Scanner.Runs]
  | cons byte bytes ih =>
    intro current rest
    simpa using (runs_spells (spells_printByte byte) current _).trans (ih (current ++ [byte]) rest)

/-- After an argument. -/
def ended (argument : Bytes) : ArgvState := ⟨some argument, none, false⟩

private theorem runs_argument (argument : Bytes) (rest : Text) :
    argvScanner.Runs {} ('"' :: (argument.flatMap printByte ++ '"' :: rest)) [] (ended argument)
      rest := by
  have hopen : argvScanner.Runs {} ('"' :: (argument.flatMap printByte ++ '"' :: rest)) []
      (inside []) (argument.flatMap printByte ++ '"' :: rest) := argvScanner.runs_step rfl
  have hclose : argvScanner.Runs (inside argument) ('"' :: rest) [] (ended argument) rest :=
    argvScanner.runs_step rfl
  exact (hopen.trans (runs_printBytes argument [] _)).trans hclose

variable {blanks : Nat}

private theorem scan_printArguments (others : List Bytes) : ∀ first, ∃ middle front last,
    printArguments blanks (first :: others) = '"' :: middle ++ ['"'] ∧
    argvScanner.scan 0 {} (printArguments blanks (first :: others)) = (ended last, front) ∧
      front ++ [last] = first :: others := by
  induction others with
  | nil =>
    intro first
    have hprinted : printArguments blanks [first] = '"' :: first.flatMap printByte ++ ['"'] := by
      simp [printArguments, joinTexts]
    refine ⟨first.flatMap printByte, [], first, hprinted, ?_, rfl⟩
    rw [hprinted]
    exact runs_argument first []
  | cons next others ih =>
    intro first
    obtain ⟨middle, front, last, hmiddle, hscan, hlast⟩ := ih next
    have hprinted : printArguments blanks (first :: next :: others) =
        '"' :: (first.flatMap printByte ++ '"' :: ' ' :: (replicate blanks ' ' ++
          printArguments blanks (next :: others))) := by
      simp [printArguments, joinTexts, intercalate_cons_cons, replicate_succ]
    have hblanks : (replicate blanks ' ' ++ printArguments blanks (next :: others)).takeWhile
        isWhitespace = replicate blanks ' ' := by
      rw [takeWhile_append_of_pos, hmiddle, cons_append, takeWhile_cons_of_neg (by decide),
        append_nil]
      intro ch hch
      rw [eq_of_mem_replicate hch]
      rfl
    have hstep : argvScanner.step (ended first) ' '
        (replicate blanks ' ' ++ printArguments blanks (next :: others)) =
        ⟨{}, [first], (replicate blanks ' ').length⟩ := by
      rw [← congrArg length hblanks]
      rfl
    have hrun := (runs_argument first _).trans (argvScanner.runs_step hstep)
    refine ⟨first.flatMap printByte ++ '"' :: ' ' :: (replicate blanks ' ' ++ '"' :: middle),
      first :: front, last, ?_, ?_, by rw [cons_append, hlast]⟩
    · rw [hprinted, hmiddle]
      simp
    · rw [hprinted, hrun, drop_left, hscan]
      rfl

private theorem parseCommandArgv_printArguments {first : Bytes} (hfirst : first ≠ [])
    (others : List Bytes) (semicolons : Nat) :
    parseCommandArgv (printArguments blanks (first :: others) ++ replicate semicolons ';') =
      .ok (first :: others) := by
  obtain ⟨middle, front, last, hmiddle, hscan, hlast⟩ := @scan_printArguments blanks others first
  have hends : ∀ p : Char → Bool, p '"' = false →
      (printArguments blanks (first :: others)).rdropWhile p =
        printArguments blanks (first :: others) := by
    intro p hp
    rw [hmiddle]
    exact rdropWhile_concat_neg _ _ _ (by simp [hp])
  have htext : withoutSemicolons (printArguments blanks (first :: others) ++
      replicate semicolons ';') = printArguments blanks (first :: others) := by
    have htrim : trimEnd (printArguments blanks (first :: others) ++ replicate semicolons ';') =
        printArguments blanks (first :: others) ++ replicate semicolons ';' := by
      cases semicolons with
      | zero =>
        rw [replicate_zero, append_nil]
        exact hends isWhitespace rfl
      | succ semicolons =>
        rw [replicate_succ', ← append_assoc]
        exact rdropWhile_concat_neg _ _ _ (by decide)
    rw [withoutSemicolons, htrim, rdropWhile_append, if_pos]
    · exact hends _ rfl
    · exact rdropWhile_eq_nil_iff.mpr (by simp)
  rw [parseCommandArgv, htext, hscan]
  simp [ended, hlast, hfirst]

/-- **Arguments come back from how they are printed; the characters of any other accepted text are
in its arguments exactly where no hexadecimal digit stands alone after `\x`.** -/
theorem parseCommandArgv_keeps_iff (text : Text) (argv : List Bytes)
    (h : parseCommandArgv text = .ok argv) :
    (∀ (blanks semicolons : Nat) (first : Bytes) (others : List Bytes), first ≠ [] →
      parseCommandArgv (printArguments blanks (first :: others) ++ replicate semicolons ';') =
        .ok (first :: others)) ∧
    (argv.flatten = contributions (withoutSemicolons text) ↔
      DigitsKept (withoutSemicolons text)) :=
  ⟨fun _ semicolons _ others hfirst => parseCommandArgv_printArguments hfirst others semicolons,
    flatten_eq_contributions_iff h⟩

/-- A quote and a NUL byte that are printed, and a digit pair after a letter. -/
theorem parseCommandArgv_keeps_both :
    parseCommandArgv "\"a\\\"\"  \"\\x00\";;" = .ok [[97, 34], [0]] ∧
    contributions "a\\x41" = [97, 65] := by
  obtain ⟨hprinted, hkeeps⟩ := parseCommandArgv_keeps_iff "a\\x41" [[97, 65]] (by decide +kernel)
  exact ⟨hprinted 1 2 [97, 34] [[0]] (by decide), (hkeeps.mpr (by decide +kernel)).symm⟩

/-- The digit after `\x` is lost. -/
theorem parseCommandArgv_drops_digit : parseCommandArgv "a\\x4z" = .ok [[97, 120, 122]] ∧
    contributions "a\\x4z" = [97, 120, 52, 122] := by
  decide +kernel

end DbxSpec.Redis
