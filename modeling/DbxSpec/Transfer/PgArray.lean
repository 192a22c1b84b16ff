import DbxSpec.Transfer.EscapeRead

/-!
# Array literals of PostgreSQL

The text of a rectangular array (`value_literals.rs:13`) is read back by the rules for the input of
arrays, and the string literal around it (`value_literals.rs:85`) denotes that text whether or not
ordinary strings read escapes. White space, which stands in no array text outside quotes, is not
skipped by the reader.
-/

namespace DbxSpec.Transfer

open DbxSpec.Base List DbxSpec.Grid Bool

/-! ### The reader -/

/-- An array as PostgreSQL reads it. -/
inductive PgArray
  | null
  | element (text : Text)
  | array (items : List PgArray)

/-- Read an element whose opening quote has been read. -/
def readQuotedElement : Text → Option (Text × Text)
  | [] => none
  | '\\' :: ch :: rest => (readQuotedElement rest).map (putFront ch)
  | ch :: rest =>
    if ch = '"' then some ([], rest) else (readQuotedElement rest).map (putFront ch)

/-- The characters of an element without quotes. -/
def isBare (ch : Char) : Bool := !",\x7b\x7d\"\\".toList.contains ch

/-- Read an element without quotes. -/
def readBareElement (text : Text) : Option (PgArray × Text) :=
  let bare := text.takeWhile isBare
  if bare.isEmpty then none
  else if eqIgnoreAsciiCase bare "NULL" then some (.null, text.dropWhile isBare)
  else some (.element bare, text.dropWhile isBare)

mutual

/-- Read an element or an array. -/
def readItem : Nat → Text → Option (PgArray × Text)
  | 0, _ => none
  | _ + 1, '\x7b' :: '\x7d' :: rest => some (.array [], rest)
  | fuel + 1, '\x7b' :: rest => (readItems fuel rest).map fun read => (.array read.1, read.2)
  | _ + 1, '"' :: rest => (readQuotedElement rest).map fun read => (.element read.1, read.2)
  | _ + 1, text => readBareElement text

/-- Read the items of an array up to its closing brace. -/
def readItems : Nat → Text → Option (List PgArray × Text)
  | 0, _ => none
  | fuel + 1, text =>
    (readItem fuel text).bind fun read =>
      match read.2 with
      | ',' :: rest => (readItems fuel rest).map fun later => (read.1 :: later.1, later.2)
      | '\x7d' :: rest => some ([read.1], rest)
      | _ => none

end

mutual

/-- How many items an array has at each depth; elements have no dimensions. -/
def PgArray.dimensions : PgArray → Option (List Nat)
  | .null | .element _ => some []
  | .array items => (sharedDimensions items).map (items.length :: ·)

/-- The dimensions that all items have. -/
def sharedDimensions : List PgArray → Option (List Nat)
  | [] => some []
  | [item] => item.dimensions
  | item :: next :: items =>
    item.dimensions.filter fun dims => sharedDimensions (next :: items) = some dims

end

/-- `MAXDIM` of PostgreSQL. -/
def maxPgDimensions : Nat := 6

/-- The array that its items make: the arrays in it must match in their dimensions, and one without
any element is the empty array. -/
def PgArray.assemble (array : PgArray) : Option PgArray :=
  (array.dimensions.filter fun dims => dims ≠ [] ∧ dims.length ≤ maxPgDimensions).map fun dims =>
    if 0 ∈ dims then .array [] else array

/-- Read an array to the end of a text. -/
def readPgArray (text : Text) : Option PgArray :=
  (readItem (2 * text.length + 1) text).bind fun read =>
    if read.2.isEmpty then read.1.assemble else none

/-- Read a string literal, with `standard_conforming_strings` on or off. -/
def readPostgresLiteral (conforming : Bool) (text : Text) : Option (Text × Text) :=
  match text with
  | '\'' :: rest => readQuoted (if conforming then .standard else .postgres) .body rest
  | 'E' :: '\'' :: rest => readQuoted .postgres .body rest
  | _ => none

/-! ### Arrays of scalars -/

/-- The characters of a number. -/
def isNumberChar (ch : Char) : Bool := ch.isDigit || "+-.eE".toList.contains ch

mutual

/-- A string that is accepted, another scalar, or an array of these. -/
def isArrayItem (accepts : Text → Bool) : Json → Bool
  | .string text => accepts text
  | .number text => !text.isEmpty && text.all isNumberChar
  | .array items => areArrayItems accepts items
  | .object _ => false
  | _ => true

/-- All items are such. -/
def areArrayItems (accepts : Text → Bool) : List Json → Bool
  | [] => true
  | item :: items => isArrayItem accepts item && areArrayItems accepts items

end

mutual

/-- What an item is read as. -/
def denotedItem : Json → PgArray
  | .string text | .number text => .element text
  | .bool value => .element (boolText false value)
  | .array items => .array (denotedItems items)
  | _ => .null

/-- What the items denote. -/
def denotedItems : List Json → List PgArray
  | [] => []
  | item :: items => denotedItem item :: denotedItems items

end

/-- An item has so many items at each depth. -/
inductive HasDimensions : List Nat → Json → Prop
  | scalar {item : Json} (hscalar : ∀ items, item ≠ .array items) : HasDimensions [] item
  | array {dims : List Nat} {items : List Json} (hitems : ∀ item ∈ items, HasDimensions dims item) :
      HasDimensions (items.length :: dims) (.array items)

/-- An array that PostgreSQL has: an empty one, or one in which all arrays at a depth have as many
items, none is empty, and the depth is at most six. -/
def Rectangular (items : List Json) : Prop :=
  items = [] ∨ ∃ dims, HasDimensions dims (.array items) ∧ 0 ∉ dims ∧ dims.length ≤ maxPgDimensions

variable (display : Json → Text)

/-- `value_literals.rs:13`. -/
def formatPgArrayText (items : List Json) : Text :=
  formatPgArrayElement display (.array items)

/-! ### Round trips -/

private theorem readQuotedElement_body (text rest : Text) :
    readQuotedElement (replaceChar '"' "\\\"" (replaceChar '\\' "\\\\" text) ++
      '"' :: rest) = some (text, rest) := by
  induction text with
  | nil => rfl
  | cons ch text ih =>
    have hcons : replaceChar '"' "\\\"" (replaceChar '\\' "\\\\" (ch :: text)) =
        replaceChar '"' "\\\"" (if ch = '\\' then "\\\\" else [ch]) ++
          replaceChar '"' "\\\"" (replaceChar '\\' "\\\\" text) :=
      flatMap_append
    rw [hcons, append_assoc]
    by_cases hslash : ch = '\\'
    · subst hslash
      exact congrArg (Option.map (putFront '\\')) ih
    · by_cases hquote : ch = '"'
      · subst hquote
        exact congrArg (Option.map (putFront '"')) ih
      · rw [if_neg hslash, replaceChar, flatMap_singleton, if_neg hquote,
          singleton_append, readQuotedElement, if_neg hquote, ih]
        · rfl
        · intro _ _ h
          exact absurd h hslash

private theorem readItem_bare {text rest : Text} (hne : text ≠ []) (hbare : text.all isBare)
    (hrest : rest.head?.any isBare = false) (fuel : Nat) :
    readItem (fuel + 1) (text ++ rest) =
      some (if eqIgnoreAsciiCase text "NULL" then .null else .element text, rest) := by
  have hstops : rest.takeWhile isBare = [] ∧ rest.dropWhile isBare = rest := by
    cases rest with
    | nil => exact ⟨rfl, rfl⟩
    | cons ch rest =>
      have hch : ¬isBare ch := by simpa using hrest
      exact ⟨takeWhile_cons_of_neg hch, dropWhile_cons_of_neg hch⟩
  have hall := all_eq_true.mp hbare
  obtain ⟨ch, more, rfl⟩ := exists_cons_of_ne_nil hne
  have hread : readItem (fuel + 1) (ch :: more ++ rest) = readBareElement (ch :: more ++ rest) := by
    have hch := hall ch mem_cons_self
    rw [cons_append, readItem]
    all_goals
      intro _ h
      rw [(cons.inj h).1] at hch
      cases hch
  rw [hread, readBareElement, takeWhile_append_of_pos hall, hstops.1, append_nil,
    dropWhile_append_of_pos hall, hstops.2]
  exact (apply_ite (fun item => some (item, rest)) _ _ _).symm

private theorem isBare_of_isNumberChar {ch : Char} (h : isNumberChar ch) : isBare ch := by
  rw [isBare, not_eq_true', ← not_eq_true, contains_iff_mem]
  intro hmem
  fin_cases hmem <;> cases h

private theorem not_null_of_isNumberChar {text : Text} (h : ∀ ch ∈ text, isNumberChar ch) :
    eqIgnoreAsciiCase text "NULL" = false := by
  rw [eqIgnoreAsciiCase, ← not_eq_true, beq_iff_eq]
  intro hnull
  have hmem : 'n' ∈ toAsciiLowercase text := hnull ▸ by decide
  obtain ⟨ch, hch, hlower⟩ := mem_map.mp hmem
  rcases or_eq_true _ _ ▸ h ch hch with hdigit | hsign
  · -- a digit has no case
    have hrange : 48 ≤ ch.toNat ∧ ch.toNat ≤ 57 := by
      simpa [Char.isDigit, UInt32.le_iff_toNat_le] using hdigit
    rw [Char.toLower, dif_neg] at hlower
    · rw [hlower] at hdigit
      cases hdigit
    · rintro ⟨hlow, -⟩
      have hlow' : 65 ≤ ch.toNat := UInt32.le_iff_toNat_le.mp hlow
      omega
  · rw [contains_iff_mem] at hsign
    fin_cases hsign <;> cases hlower

private theorem joinTexts_items (item next : Json) (items : List Json) :
    joinTexts [','] (formatPgArrayElements display (item :: next :: items)) =
      formatPgArrayElement display item ++ ',' ::
        joinTexts [','] (formatPgArrayElements display (next :: items)) := by
  simp only [formatPgArrayElements, joinTexts, intercalate_cons_cons, append_assoc,
    singleton_append]

private theorem readItems_closed (rest : Text) : ∀ fuel, readItems fuel ('\x7d' :: rest) = none
  | 0 | 1 | _ + 2 => rfl

variable (accepts : Text → Bool)

mutual

private theorem readItem_format : ∀ item : Json, isArrayItem accepts item →
    ∀ (fuel : Nat) (rest : Text),
      2 * (formatPgArrayElement display item).length < fuel → rest.head?.any isBare = false →
      readItem fuel (formatPgArrayElement display item ++ rest) = some (denotedItem item, rest)
  | .null, _, fuel + 1, rest, _, hrest => by
    rw [formatPgArrayElement, readItem_bare (by decide) (by decide) hrest]
    rfl
  | .bool value, _, fuel + 1, rest, _, hrest => by
    cases value <;>
      rw [formatPgArrayElement, readItem_bare (by decide) (by decide) hrest] <;> rfl
  | .number text, h, fuel + 1, rest, _, hrest => by
    rw [isArrayItem, and_eq_true, not_eq_true', all_eq_true] at h
    have hne : text ≠ [] := by simpa using h.1
    have hbare : text.all isBare :=
      all_eq_true.mpr fun ch hch => isBare_of_isNumberChar (h.2 ch hch)
    rw [formatPgArrayElement, readItem_bare hne hbare hrest]
    rw [not_null_of_isNumberChar h.2]
    rfl
  | .string text, _, fuel + 1, rest, _, _ => by
    rw [formatPgArrayElement, doubleQuoted, cons_append, cons_append, append_assoc,
      readItem, singleton_append, readQuotedElement_body]
    rfl
  | .array [], _, fuel + 1, rest, _, _ => rfl
  | .array (item :: items), h, fuel + 1, rest, hfuel, _ => by
    rw [formatPgArrayElement, cons_append, length_cons, length_append] at hfuel
    have hitems := readItems_format item items h fuel rest (by
      rw [length_singleton] at hfuel
      omega)
    rw [formatPgArrayElement, cons_append, cons_append, append_assoc,
      singleton_append, readItem, hitems]
    · rfl
    · intro _ hclosed
      rw [hclosed, readItems_closed] at hitems
      cases hitems
  | .object fields, h, _, _, _, _ => absurd h false_ne_true

private theorem readItems_format :
    ∀ (item : Json) (items : List Json), areArrayItems accepts (item :: items) →
      ∀ (fuel : Nat) (rest : Text),
      2 * (joinTexts [','] (formatPgArrayElements display (item :: items))).length + 1 < fuel →
      readItems fuel (joinTexts [','] (formatPgArrayElements display (item :: items)) ++
        '\x7d' :: rest) = some (denotedItems (item :: items), rest)
  | item, [], h, fuel + 1, rest, hfuel => by
    rw [areArrayItems, and_eq_true] at h
    have hjoin : joinTexts [','] (formatPgArrayElements display [item]) =
        formatPgArrayElement display item := append_nil _
    rw [hjoin] at hfuel ⊢
    rw [readItems, readItem_format item h.1 fuel _ (by omega) rfl]
    rfl
  | item, next :: items, h, fuel + 1, rest, hfuel => by
    rw [areArrayItems, and_eq_true] at h
    rw [joinTexts_items, length_append, length_cons] at hfuel
    rw [joinTexts_items, append_assoc, readItems,
      readItem_format item h.1 fuel _ (by omega) rfl, Option.bind_some,
      cons_append]
    exact congrArg (Option.map fun later => (denotedItem item :: later.1, later.2))
      (readItems_format next items h.2 fuel rest (by omega))

end

/-! ### Without NUL -/

private theorem not_mem_replaceChar {ch : Char} {text replacement : Text} (target : Char)
    (hreplacement : ch ∉ replacement) (htext : ch ∉ text) :
    ch ∉ replaceChar target replacement text := by
  rintro hmem
  obtain ⟨other, hother, hch⟩ := mem_flatMap.mp hmem
  split at hch
  · exact hreplacement hch
  · exact htext (mem_singleton.mp hch ▸ hother)

mutual

private theorem nul_not_mem_item :
    ∀ item : Json, isArrayItem (fun text => !text.contains '\x00') item →
      '\x00' ∉ formatPgArrayElement display item
  | .null, _ => (by decide : '\x00' ∉ "NULL".toList)
  | .bool value, _ => (by decide : ∀ value, '\x00' ∉ boolText false value) value
  | .number text, h => by
    rw [isArrayItem, and_eq_true, all_eq_true] at h
    intro hmem
    cases h.2 _ hmem
  | .string text, h => by
    have hnul : '\x00' ∉ text := by simpa [isArrayItem] using h
    have hbody := not_mem_replaceChar '"' (by decide : '\x00' ∉ "\\\"".toList)
      (not_mem_replaceChar '\\' (by decide : '\x00' ∉ "\\\\".toList) hnul)
    simpa [formatPgArrayElement, doubleQuoted] using hbody
  | .array items, h => by
    have hitems := nul_not_mem_items items h
    simpa [formatPgArrayElement] using hitems
  | .object fields, h => absurd h false_ne_true

private theorem nul_not_mem_items :
    ∀ items : List Json, areArrayItems (fun text => !text.contains '\x00') items →
      '\x00' ∉ joinTexts [','] (formatPgArrayElements display items)
  | [], _ => not_mem_nil
  | [item], h => by
    rw [areArrayItems, and_eq_true] at h
    have hitem := nul_not_mem_item item h.1
    simpa [formatPgArrayElements, joinTexts] using hitem
  | item :: next :: items, h => by
    rw [areArrayItems, and_eq_true] at h
    rw [joinTexts_items]
    simpa [nul_not_mem_item item h.1] using nul_not_mem_items (next :: items) h.2

end

private theorem readPostgresLiteral_quote (conforming : Bool) {text : Text} (hnul : '\x00' ∉ text) :
    readPostgresLiteral conforming (quotePostgresStringLiteral text) = some (text, []) := by
  unfold quotePostgresStringLiteral
  split
  next hplain =>
    have hslash : '\\' ∉ text := by
      rw [and_eq_true, not_eq_true'] at hplain
      simpa using hplain.1
    exact readQuoted_replaceQuotes (by decide) (fun _ => hslash)
  next =>
    exact readQuoted_flatMap (by decide)
      (fun ch hch => unitReads_escapePostgresChar fun heq => hnul (heq ▸ hch))

/-! ### Dimensions -/

private theorem sharedDimensions_eq_some_iff {items : List PgArray} {dims : List Nat}
    (hne : items ≠ []) :
    sharedDimensions items = some dims ↔ ∀ item ∈ items, item.dimensions = some dims := by
  induction items with
  | nil => exact absurd rfl hne
  | cons item items ih =>
    rcases items with _ | ⟨next, items⟩
    · simp [sharedDimensions]
    · rw [sharedDimensions, Option.filter_eq_some_iff, decide_eq_true_eq,
        ih (cons_ne_nil next items), forall_mem_cons (a := item)]

private theorem denotedItems_eq_map (items : List Json) :
    denotedItems items = items.map denotedItem := by
  induction items with
  | nil => rfl
  | cons item items ih => rw [denotedItems, ih, map_cons]

private theorem denotedItem_array_or {item : Json} :
    (∃ items, item = .array items) ∨
      (∀ items, item ≠ .array items) ∧ (denotedItem item).dimensions = some [] := by
  cases item with
  | array items => exact .inl ⟨items, rfl⟩
  | null | bool | number | string | object => exact .inr ⟨nofun, rfl⟩

private theorem hasDimensions_iff {dims : List Nat} (hzero : 0 ∉ dims) :
    ∀ {item : Json}, HasDimensions dims item ↔ (denotedItem item).dimensions = some dims := by
  induction dims with
  | nil =>
    intro item
    rcases @denotedItem_array_or item with ⟨items, rfl⟩ | ⟨hscalar, hdims⟩
    · refine iff_of_false (fun h => ?_) ?_
      · cases h with
        | scalar hscalar => exact hscalar items rfl
      · simp [denotedItem, PgArray.dimensions]
    · exact iff_of_true (.scalar hscalar) hdims
  | cons count dims ih =>
    intro item
    have hzero := ne_and_not_mem_of_not_mem_cons hzero
    rcases @denotedItem_array_or item with ⟨items, rfl⟩ | ⟨hscalar, hdims⟩
    · have harray : HasDimensions (count :: dims) (.array items) ↔
          items.length = count ∧ ∀ item ∈ items, HasDimensions dims item := by
        constructor
        · rintro ⟨⟩
          exact ⟨rfl, ‹_›⟩
        · rintro ⟨rfl, hitems⟩
          exact .array hitems
      rw [harray, denotedItem, PgArray.dimensions, denotedItems_eq_map, length_map,
        Option.map_eq_some_iff]
      constructor
      · rintro ⟨rfl, hitems⟩
        refine ⟨dims, (sharedDimensions_eq_some_iff ?_).mpr ?_, rfl⟩
        · rw [ne_eq, map_eq_nil_iff]
          rintro rfl
          exact hzero.1 rfl
        · exact forall_mem_map.mpr fun item hitem => (ih hzero.2).mp (hitems item hitem)
      · rintro ⟨shared, hshared, hcons⟩
        obtain ⟨rfl, rfl⟩ := cons.inj hcons
        refine ⟨rfl, fun item hitem => (ih hzero.2).mpr ?_⟩
        rw [sharedDimensions_eq_some_iff] at hshared
        · exact hshared _ (mem_map_of_mem hitem)
        · exact ne_nil_of_mem (mem_map_of_mem hitem)
    · refine iff_of_false (fun h => ?_) (by simp [hdims])
      cases h with
      | array => exact hscalar _ rfl

private theorem assemble_denotedItems_iff (items : List Json) :
    (PgArray.array (denotedItems items)).assemble = some (.array (denotedItems items)) ↔
      Rectangular items := by
  rw [PgArray.assemble, Option.map_eq_some_iff]
  constructor
  · rintro ⟨dims, hdims, hsame⟩
    rw [Option.filter_eq_some_iff, decide_eq_true_eq] at hdims
    split at hsame
    · have hnil := (PgArray.array.inj hsame).symm
      rw [denotedItems_eq_map, map_eq_nil_iff] at hnil
      exact .inl hnil
    · next hzero => exact .inr ⟨dims, (hasDimensions_iff hzero).mpr hdims.1, hzero, hdims.2.2⟩
  · rintro (rfl | ⟨dims, hdims, hzero, hdepth⟩)
    · exact ⟨[0], rfl, rfl⟩
    · refine ⟨dims, ?_, if_neg hzero⟩
      rw [Option.filter_eq_some_iff, decide_eq_true_eq]
      refine ⟨(hasDimensions_iff hzero).mp hdims, ?_, hdepth⟩
      rintro rfl
      cases hdims with
      | scalar hscalar => exact hscalar items rfl

private theorem readPgArray_format {accepts : Text → Bool} {items : List Json}
    (h : areArrayItems accepts items) :
    readPgArray (formatPgArrayText display items) = some (.array (denotedItems items)) ↔
      Rectangular items := by
  have hread := readItem_format display accepts (.array items) h
    (2 * (formatPgArrayText display items).length + 1) [] (Nat.lt_succ_self _) rfl
  rw [append_nil, ← formatPgArrayText] at hread
  rw [readPgArray, hread, ← assemble_denotedItems_iff]
  rfl

/-- An array text is read back with its nesting and elements exactly if the array is rectangular,
string literals denote their text under both settings, and so the literal of a rectangular array
denotes the array. -/
theorem postgresLiterals_read (display : Json → Text) :
    (∀ items, areArrayItems (fun _ => true) items →
      (readPgArray (formatPgArrayText display items) = some (.array (denotedItems items)) ↔
        Rectangular items)) ∧
    (∀ conforming value, '\x00' ∉ value →
      readPostgresLiteral conforming (quotePostgresStringLiteral value) = some (value, [])) ∧
    (∀ conforming items, areArrayItems (fun text => !text.contains '\x00') items →
      ((readPostgresLiteral conforming (formatPgArraySqlLiteral display items)).bind
        (fun read => readPgArray read.1) = some (.array (denotedItems items)) ↔
          Rectangular items)) := by
  refine ⟨fun _ => readPgArray_format display,
    fun conforming _ => readPostgresLiteral_quote conforming, ?_⟩
  intro conforming items h
  have hliteral : readPostgresLiteral conforming (formatPgArraySqlLiteral display items) =
      some (formatPgArrayText display items, []) :=
    readPostgresLiteral_quote conforming (nul_not_mem_item display (.array items) h)
  rw [hliteral]
  exact readPgArray_format display h

private theorem hasDimensions_pair {dims : List Nat} {first second : Json}
    (hfirst : HasDimensions dims first) (hsecond : HasDimensions dims second) :
    HasDimensions (2 :: dims) (.array [first, second]) :=
  @HasDimensions.array dims [first, second]
    (forall_mem_cons.mpr ⟨hfirst, forall_mem_singleton.mpr hsecond⟩)

/-- The string `NULL` next to a null, and a backslash, with ordinary strings that read escapes. -/
theorem postgresLiterals_read_null :
    (readPostgresLiteral false (formatPgArraySqlLiteral (fun _ => [])
      [.array [.string "NULL", .null], .array [.string "\\", .string []]])).bind
        (fun read => readPgArray read.1) =
      some (.array [.array [.element "NULL", .null], .array [.element "\\", .element []]]) := by
  refine ((postgresLiterals_read fun _ => []).2.2 false _ rfl).mpr (.inr ⟨[2, 2], ?_, by decide⟩)
  exact hasDimensions_pair (hasDimensions_pair (.scalar nofun) (.scalar nofun))
    (hasDimensions_pair (.scalar nofun) (.scalar nofun))

/-- PostgreSQL does not take arrays of different lengths for one array. -/
theorem readPgArray_ragged : readPgArray (formatPgArrayText (fun _ => [])
    [.array [.number "1"], .array [.number "2", .number "3"]]) = none := by
  rfl

end DbxSpec.Transfer
