import DbxSpec.Base.Text

/-!
# Compacting a conversation

`maybe_compact` of `crates/dbx-core/src/ai/agent_loop.rs:1267-1377`, which replaces the older part
of a conversation by a summary, and the search for a cut that parts no tool call from its result
(`1663-1700`).
-/

namespace DbxSpec.Ai

open DbxSpec.Base List

/-- `crates/dbx-ai-provider/src/ai.rs:533`; of a tool call only its id is read. -/
structure AiMessage where
  role : Text
  content : Text := []
  toolCallId : Option Text := none
  toolCalls : List Text := []
  deriving DecidableEq, Repr

/-- `agent_loop.rs:82`. -/
inductive CompactResult
  | skipped
  | compacted
  | cancelled
  deriving DecidableEq, Repr

/-- What a compaction is given: the budget and the estimates, and the summary unless it is
cancelled while it waits for one. -/
structure CompactInput where
  budget : UInt32
  estimatedBefore : UInt32
  estimateMessageTokens : AiMessage → UInt32
  summary : Option Text
  force : Bool

/-- `agent_loop.rs:1251`. -/
def keepRecentBudget (promptBudget : UInt32) : UInt32 :=
  if promptBudget ≤ 4096 then promptBudget / 2 else max 4096 (min (promptBudget * 6 / 10) 50000)

section

variable (messages : List AiMessage)

/-- `agent_loop.rs:1294-1302`, with so many messages left to look at. -/
def cutLoop (estimate : AiMessage → UInt32) (keep : UInt32) : Nat → UInt32 → Nat → Nat
  | 0, _, cut => cut
  | i + 1, recent, cut =>
    match messages[i]? with
    | none => cut
    | some message =>
      let recent := recent + estimate message
      if recent > keep && i > 0 then i + 1 else cutLoop estimate keep i recent i

/-- The tokens that are kept, `agent_loop.rs:1291`. -/
def CompactInput.keep (input : CompactInput) : UInt32 :=
  let keep := keepRecentBudget input.budget
  if input.force then keep / 2 else keep

/-- `agent_loop.rs:1292-1306`. -/
def cutPoint (input : CompactInput) : Nat :=
  let cut := cutLoop messages input.estimateMessageTokens input.keep messages.length 0
    messages.length
  if cut ≥ messages.length then messages.length - 1 else cut

/-- The message is the result of a tool call. -/
def AiMessage.isResult (message : AiMessage) : Bool := message.role == "tool".toList

/-- The message makes the call that a result answers, `agent_loop.rs:1686-1696`. -/
def AiMessage.makesCall (message : AiMessage) (toolCallId : Option Text) : Bool :=
  message.role == "assistant".toList &&
    toolCallId.elim (!message.toolCalls.isEmpty) message.toolCalls.contains

/-- `agent_loop.rs:1684-1697`: the last such message before an index. -/
def lastCaller (toolCallId : Option Text) : Nat → Option Nat
  | 0 => none
  | i + 1 => if messages[i]?.any (·.makesCall toolCallId) then some i else lastCaller toolCallId i

/-- `agent_loop.rs:1681`. -/
def findOriginatingAssistant (toolIndex : Nat) : Option Nat :=
  messages[toolIndex]?.bind fun result => lastCaller messages result.toolCallId toolIndex

/-- The loop of `agent_loop.rs:1668-1676`. Every round moves the cut back. -/
def adjustLoop : Nat → Nat → Nat
  | 0, cut => cut
  | fuel + 1, cut =>
    if messages[cut]?.any (·.isResult) then
      match findOriginatingAssistant messages cut with
      | none => cut
      | some origin => if origin ≥ cut then cut else adjustLoop fuel origin
    else cut

/-- `agent_loop.rs:1663`. -/
def adjustCutForToolPairIntegrity (cut : Nat) : Nat := adjustLoop messages cut cut

/-- The message that stands for what is left out, `agent_loop.rs:1350-1364`. -/
def summaryMessage (summary : Text) : AiMessage where
  role := "user"
  content := "[SYSTEM-GENERATED CONTEXT SUMMARY - earlier conversation compressed; " ++
    "background only, not a new user request]\n\n" ++ summary

/-- `agent_loop.rs:1267`. -/
def maybeCompact (input : CompactInput) : CompactResult × List AiMessage :=
  if !input.force && input.estimatedBefore ≤ input.budget || messages.length ≤ 2 then
    (.skipped, messages)
  else
    let cut := adjustCutForToolPairIntegrity messages (cutPoint messages input)
    if cut ≤ 1 then (.skipped, messages)
    else match input.summary with
      | none => (.cancelled, messages)
      | some summary =>
        (.compacted, messages.take 1 ++ summaryMessage summary :: messages.drop cut)

end

/-- An assistant message that calls tools. -/
def AiMessage.calls (message : AiMessage) : Prop :=
  message.role = "assistant".toList ∧ message.toolCalls ≠ []
  deriving Decidable

/-- Each message that calls tools is followed by one result for each of its calls, and there are no
other results. -/
inductive Paired : List AiMessage → Prop
  | nil : Paired []
  | plain {message : AiMessage} {rest : List AiMessage} (hresult : message.isResult = false)
      (hcalls : ¬message.calls) (hrest : Paired rest) : Paired (message :: rest)
  | group {message : AiMessage} {results rest : List AiMessage} (hcalls : message.calls)
      (hresults : ∀ result ∈ results, result.isResult)
      (hanswers : (results.map (·.toolCallId)).Perm (message.toolCalls.map some))
      (hrest : Paired rest) : Paired (message :: (results ++ rest))

/-- The conversation is as it was, or it is its first message, one more and an end of it; and calls
and results stand together. -/
def KeptTogether (messages after : List AiMessage) : Prop :=
  (after = messages ∨ ∃ summary suffix, suffix <:+ messages ∧
    after = messages.take 1 ++ summary :: suffix) ∧ Paired after

section

variable {messages rest : List AiMessage} {cut origin : Nat}

/-- The part of a conversation that a place belongs to: its first message is no result, all others
up to the place are, and that message makes the call which is answered there. -/
structure Origin (messages : List AiMessage) (cut origin : Nat) : Prop where
  le : origin ≤ cut
  paired : Paired (messages.drop origin)
  start : messages[origin]?.any (·.isResult) = false
  between : ∀ j, origin < j → j ≤ cut → messages[j]?.any (·.isResult)
  caller : origin < cut → ∀ result ∈ messages[cut]?,
    messages[origin]?.any (·.makesCall result.toolCallId)

private theorem Origin.append (front : List AiMessage) (h : Origin rest cut origin) :
    Origin (front ++ rest) (front.length + cut) (front.length + origin) := by
  have hat (j : Nat) : (front ++ rest)[front.length + j]? = rest[j]? := by
    rw [getElem?_append_right (Nat.le_add_right _ _), Nat.add_sub_cancel_left]
  refine ⟨Nat.add_le_add_left h.le _, ?_, ?_, fun j hj hle => ?_, fun hlt => ?_⟩
  · rw [drop_length_add_append]
    exact h.paired
  · rw [hat]
    exact h.start
  · obtain ⟨k, rfl⟩ := Nat.exists_eq_add_of_le (by omega : front.length ≤ j)
    rw [hat]
    exact h.between k (by omega) (by omega)
  · rw [hat, hat]
    exact h.caller (by omega)

private theorem Paired.exists_origin (h : Paired messages) (hcut : cut < messages.length) :
    ∃ origin, Origin messages cut origin := by
  induction h generalizing cut with
  | nil => cases hcut
  | @plain message rest hresult hcalls hrest ih =>
    rcases cut with _ | cut
    · exact ⟨0, le_rfl, .plain hresult hcalls hrest, by simpa, by omega, by omega⟩
    obtain ⟨origin, horigin⟩ := ih (by simpa using hcut)
    have hlater := horigin.append [message]
    rw [length_singleton, Nat.add_comm 1, Nat.add_comm 1] at hlater
    exact ⟨_, hlater⟩
  | @group message results rest hcalls hresults hanswers hrest ih =>
    by_cases hin : cut ≤ results.length
    · -- the place is in the group itself
      have hat {j : Nat} (hj : j < results.length) :
          (message :: (results ++ rest))[j + 1]? = some results[j] := by
        rw [getElem?_cons_succ, getElem?_append_left hj, getElem?_eq_getElem hj]
      refine ⟨0, Nat.zero_le _, .group hcalls hresults hanswers hrest, ?_, fun j hj hle => ?_,
        fun hpos result hresult => ?_⟩
      · simp [AiMessage.isResult, hcalls.1]
      · obtain ⟨j, rfl⟩ := Nat.exists_eq_add_one_of_ne_zero hj.ne'
        rw [hat (by omega), Option.any_some]
        exact hresults _ (getElem_mem _)
      · obtain ⟨j, rfl⟩ := Nat.exists_eq_add_one_of_ne_zero hpos.ne'
        rw [hat (by omega), Option.mem_some_iff] at hresult
        have hmem : result ∈ results := hresult ▸ getElem_mem _
        obtain ⟨id, hid, heq⟩ := mem_map.mp (hanswers.mem_iff.mp (mem_map_of_mem hmem))
        simp [AiMessage.makesCall, hcalls.1, ← heq, hid]
    · obtain ⟨later, rfl⟩ := Nat.exists_eq_add_of_le (by omega : results.length + 1 ≤ cut)
      obtain ⟨origin, horigin⟩ := @ih later (by simp at hcut; omega)
      exact ⟨_, horigin.append (message :: results)⟩

private theorem lastCaller_eq {toolCallId : Option Text}
    (hcaller : messages[origin]?.any (·.makesCall toolCallId)) (hbefore : origin < cut)
    (hresults : ∀ j, origin < j → j < cut → messages[j]?.any (·.isResult)) :
    lastCaller messages toolCallId cut = some origin := by
  induction cut with
  | zero => cases hbefore
  | succ i ih =>
    rw [lastCaller]
    by_cases hi : i = origin
    · rw [hi, if_pos hcaller]
    · have hlater : origin < i := by omega
      obtain ⟨result, hget, hresult⟩ := (Option.any_eq_true _ _).mp (hresults i hlater (by omega))
      rw [AiMessage.isResult, beq_iff_eq] at hresult
      rw [if_neg (by simp [hget, AiMessage.makesCall, hresult])]
      exact ih hlater fun j hj hlt => hresults j hj (by omega)

private theorem adjustLoop_start (fuel : Nat) (h : messages[cut]?.any (·.isResult) = false) :
    adjustLoop messages fuel cut = cut := by
  cases fuel with
  | zero => rfl
  | succ fuel => rw [adjustLoop, h, if_neg Bool.false_ne_true]

private theorem Origin.adjust (h : Origin messages cut origin) (hcut : cut < messages.length) :
    adjustCutForToolPairIntegrity messages cut = origin := by
  rcases h.le.eq_or_lt with rfl | hlt
  · exact adjustLoop_start _ h.start
  · obtain ⟨fuel, rfl⟩ := Nat.exists_eq_add_one_of_ne_zero (by omega : cut ≠ 0)
    have hget := getElem?_eq_getElem hcut
    have hfind : findOriginatingAssistant messages (fuel + 1) = some origin := by
      rw [findOriginatingAssistant, hget]
      exact lastCaller_eq (h.caller hlt _ hget) hlt fun j hj hj' => h.between j hj hj'.le
    rw [adjustCutForToolPairIntegrity, adjustLoop, if_pos (h.between _ hlt le_rfl), hfind]
    exact (if_neg (by omega)).trans (adjustLoop_start _ h.start)

end

/-! ### Where the cut is -/

/-- What the messages from a place on are estimated at. -/
def tokensFrom (messages : List AiMessage) (input : CompactInput) (place : Nat) : UInt32 :=
  ((messages.drop place).map input.estimateMessageTokens).sum

/-- A compaction parts the first message from the results of its calls: it is wanted and has a
summary, other messages follow the results, and from the last of them or a later place on the
messages are over what is kept. -/
structure PartsFirst (messages : List AiMessage) (input : CompactInput) (first : AiMessage) :
    Prop where
  calls : first.calls
  wanted : input.force ∨ input.budget < input.estimatedBefore
  summarised : input.summary.isSome
  later : first.toolCalls.length + 1 < messages.length
  exceeds : ∃ place, first.toolCalls.length ≤ place ∧ place < messages.length ∧
    input.keep < tokensFrom messages input place

section

variable {messages : List AiMessage} {input : CompactInput} {place : Nat}

private theorem lt_cutLoop_iff {count : Nat} (hcount : count ≤ messages.length) :
    place < cutLoop messages input.estimateMessageTokens input.keep count
        (tokensFrom messages input count) count ↔
      ∃ i, place ≤ i ∧ 0 < i ∧ i < count ∧ input.keep < tokensFrom messages input i := by
  induction count with
  | zero => simp [cutLoop]
  | succ i ih =>
    have htokens : tokensFrom messages input (i + 1) + input.estimateMessageTokens messages[i] =
        tokensFrom messages input i := by
      conv_rhs => rw [tokensFrom, drop_eq_getElem_cons hcount, map_cons, sum_cons, UInt32.add_comm]
      rfl
    rw [cutLoop, getElem?_eq_getElem hcount]
    dsimp only
    rw [htokens]
    by_cases hstop : input.keep < tokensFrom messages input i ∧ 0 < i
    · rw [if_pos (by simpa using hstop)]
      constructor
      · exact fun hplace => ⟨i, by omega, hstop.2, by omega, hstop.1⟩
      · rintro ⟨j, hplace, -, hj, -⟩
        omega
    · rw [if_neg (by simpa using hstop), ih (by omega)]
      constructor
      · rintro ⟨j, hplace, hpos, hj, hover⟩
        exact ⟨j, hplace, hpos, by omega, hover⟩
      · rintro ⟨j, hplace, hpos, hj, hover⟩
        have hne : j ≠ i := by
          rintro rfl
          exact hstop ⟨hover, hpos⟩
        exact ⟨j, hplace, hpos, by omega, hover⟩

private theorem lt_cutPoint_iff (hpos : 0 < place) :
    place < cutPoint messages input ↔ place + 1 < messages.length ∧
      ∃ i, place ≤ i ∧ i < messages.length ∧ input.keep < tokensFrom messages input i := by
  have hzero : tokensFrom messages input messages.length = 0 := by simp [tokensFrom]
  have hloop := @lt_cutLoop_iff messages input place messages.length le_rfl
  rw [hzero] at hloop
  have hcut : place < cutPoint messages input ↔ place + 1 < messages.length ∧
      place < cutLoop messages input.estimateMessageTokens input.keep messages.length 0
        messages.length := by
    rw [cutPoint]
    split_ifs <;> omega
  rw [hcut, hloop]
  constructor
  · rintro ⟨hlater, i, hplace, -, hi, hover⟩
    exact ⟨hlater, i, hplace, hi, hover⟩
  · rintro ⟨hlater, i, hplace, hi, hover⟩
    exact ⟨hlater, i, hplace, by omega, hi, hover⟩

private theorem Paired.head_not_result (h : Paired messages) :
    messages[0]?.any (·.isResult) = false := by
  cases h with
  | nil => rfl
  | plain hresult => simpa using hresult
  | group hcalls => simp [AiMessage.isResult, hcalls.1]

private theorem Origin.one_lt_iff {first : AiMessage} {results rest : List AiMessage}
    {cut origin : Nat} (h : Origin (first :: (results ++ rest)) cut origin) (hne : results ≠ [])
    (hresults : ∀ result ∈ results, result.isResult) (hrest : Paired rest) :
    1 < origin ↔ results.length < cut := by
  have hpos := length_pos_of_ne_nil hne
  have hzero : origin ≤ results.length → origin = 0 := by
    intro hle
    rcases origin with _ | origin
    · rfl
    have hstart := h.start
    rw [getElem?_cons_succ, getElem?_append_left hle, getElem?_eq_getElem hle, Option.any_some,
      hresults _ (getElem_mem _)] at hstart
    cases hstart
  constructor
  · intro hlater
    by_contra hcut
    have := hzero (h.le.trans (by omega))
    omega
  · intro hcut
    by_contra horigin
    have : origin = 0 := hzero (by omega)
    -- the message after the results would be a result
    have hafter := h.between (results.length + 1) (by omega) hcut
    rw [getElem?_cons_succ, getElem?_append_right le_rfl, Nat.sub_self,
      hrest.head_not_result] at hafter
    cases hafter

private theorem Origin.partsFirst_iff {first : AiMessage} {results rest : List AiMessage}
    {origin : Nat}
    (h : Origin (first :: (results ++ rest)) (cutPoint (first :: (results ++ rest)) input) origin)
    (hcalls : first.calls) (hresults : ∀ result ∈ results, result.isResult)
    (hanswers : (results.map (·.toolCallId)).Perm (first.toolCalls.map some))
    (hrest : Paired rest) :
    PartsFirst (first :: (results ++ rest)) input first ↔
      (input.force ∨ input.budget < input.estimatedBefore) ∧ input.summary.isSome ∧
        1 < origin := by
  have hlength : results.length = first.toolCalls.length := by
    simpa using hanswers.length_eq
  have hpos : 0 < first.toolCalls.length := length_pos_of_ne_nil hcalls.2
  rw [h.one_lt_iff (ne_nil_of_length_pos (by omega)) hresults hrest, hlength, lt_cutPoint_iff hpos]
  constructor
  · rintro ⟨-, hwanted, hsummary, hlater, hexceeds⟩
    exact ⟨hwanted, hsummary, hlater, hexceeds⟩
  · rintro ⟨hwanted, hsummary, hlater, hexceeds⟩
    exact ⟨hcalls, hwanted, hsummary, hlater, hexceeds⟩

end

private theorem not_paired_summary {first : AiMessage} (hcalls : first.calls) (summary : Text)
    (suffix : List AiMessage) : ¬Paired (first :: summaryMessage summary :: suffix) := by
  intro h
  generalize hlist : first :: summaryMessage summary :: suffix = messages at h
  cases h with
  | nil => cases hlist
  | plain _ hnot =>
    obtain ⟨rfl, -⟩ := cons.inj hlist
    exact hnot hcalls
  | @group _ results _ _ hresults hanswers _ =>
    obtain ⟨rfl, hrest⟩ := cons.inj hlist
    rcases results with _ | result
    · exact hcalls.2 (by simpa using hanswers)
    obtain ⟨rfl, -⟩ := cons.inj hrest
    cases hresults _ mem_cons_self

section

variable {messages : List AiMessage} (h : Paired messages) (input : CompactInput)

include h

private theorem maybeCompact_snd (hlong : 2 < messages.length) :
    ∃ origin, Origin messages (cutPoint messages input) origin ∧
      ((maybeCompact messages input).2 = messages ∧
          ¬((input.force ∨ input.budget < input.estimatedBefore) ∧ input.summary.isSome ∧
            1 < origin) ∨
        ∃ summary, (input.force ∨ input.budget < input.estimatedBefore) ∧ 1 < origin ∧
          input.summary = some summary ∧ (maybeCompact messages input).2 =
            messages.take 1 ++ summaryMessage summary :: messages.drop origin) := by
  have hcut : cutPoint messages input < messages.length := by
    simp only [cutPoint]
    split_ifs <;> omega
  obtain ⟨origin, horigin⟩ := h.exists_origin hcut
  refine ⟨origin, horigin, ?_⟩
  rw [maybeCompact, horigin.adjust hcut]
  by_cases hwanted : input.force ∨ input.budget < input.estimatedBefore
  · have hgoes : (!input.force && decide (input.estimatedBefore ≤ input.budget) ||
        decide (messages.length ≤ 2)) = false := by
      simpa [Nat.not_le.mpr hlong, or_iff_not_imp_left] using hwanted
    rw [hgoes, if_neg Bool.false_ne_true]
    dsimp only
    split
    · next hskip => exact .inl ⟨rfl, fun hparts => absurd hparts.2.2 (by omega)⟩
    · next hlater =>
      cases hsummary : input.summary with
      | none => exact .inl ⟨rfl, fun hparts => absurd hparts.2.1 (by simp)⟩
      | some summary => exact .inr ⟨summary, hwanted, by omega, rfl, rfl⟩
  · rw [if_pos]
    · exact .inl ⟨rfl, fun hparts => hwanted hparts.1⟩
    · rw [not_or, Bool.not_eq_true, UInt32.not_lt] at hwanted
      simp [hwanted]

/-- **A compaction keeps calls and results together** exactly if it does not part the first message
from the results of its calls. -/
theorem maybeCompact_keptTogether_iff :
    KeptTogether messages (maybeCompact messages input).2 ↔
      ∀ first ∈ messages.head?, ¬PartsFirst messages input first := by
  by_cases hlong : 2 < messages.length
  · obtain ⟨origin, horigin, hafter⟩ := maybeCompact_snd h input hlong
    cases h with
    | nil => cases hlong
    | @plain first rest hresult hcalls hrest =>
      refine iff_of_true ?_ ?_
      · rcases hafter with ⟨hsame, -⟩ | ⟨summary, -, -, -, hafter⟩
        · rw [hsame]
          exact ⟨.inl rfl, .plain hresult hcalls hrest⟩
        · rw [hafter]
          exact ⟨.inr ⟨_, _, drop_suffix _ _, rfl⟩,
            .plain hresult hcalls (.plain rfl (by rintro ⟨⟨⟩⟩) horigin.paired)⟩
      · rintro _ ⟨⟩ hparts
        exact hcalls hparts.calls
    | @group first results rest hcalls hresults hanswers hrest =>
      simp only [head?_cons, Option.mem_some_iff, forall_eq',
        horigin.partsFirst_iff hcalls hresults hanswers hrest]
      rcases hafter with ⟨hsame, hnot⟩ | ⟨summary, hwanted, hlater, hsummary, hafter⟩
      · rw [hsame]
        exact iff_of_true ⟨.inl rfl, .group hcalls hresults hanswers hrest⟩ hnot
      · rw [hafter]
        exact iff_of_false (fun hkept => not_paired_summary hcalls summary _ hkept.2)
          (not_not_intro ⟨hwanted, by rw [hsummary]; rfl, hlater⟩)
  · have hsame : (maybeCompact messages input).2 = messages := by
      rw [maybeCompact, if_pos]
      simp [Nat.le_of_not_lt hlong]
    rw [hsame]
    refine iff_of_true ⟨.inl rfl, h⟩ ?_
    intro first _ hparts
    have hpos := length_pos_of_ne_nil hparts.calls.2
    have hlater := hparts.later
    omega

end

private def asked : AiMessage := { role := "user" }

private def called : AiMessage := { role := "assistant", toolCalls := ["x"] }

private def answered : AiMessage := { role := "tool", toolCallId := some "x" }

/-- A forced compaction that keeps as little as it can. -/
def forced : CompactInput := ⟨0, 0, fun _ => 1, some [], true⟩

private theorem paired_called {rest : List AiMessage} (hrest : Paired rest) :
    Paired (called :: answered :: rest) :=
  @Paired.group called [answered] rest (by decide) (by decide) (.refl _) hrest

private theorem paired_asked {rest : List AiMessage} (hrest : Paired rest) :
    Paired (asked :: rest) :=
  .plain rfl (by decide) hrest

/-- The cut falls on the result and is moved to its call. -/
theorem maybeCompact_keptTogether_group :
    (maybeCompact [asked, asked, called, answered] forced).1 = .compacted ∧
      KeptTogether [asked, asked, called, answered]
        (maybeCompact [asked, asked, called, answered] forced).2 := by
  refine ⟨by decide, (maybeCompact_keptTogether_iff (paired_asked (paired_asked
    (paired_called .nil))) forced).mpr ?_⟩
  rintro _ ⟨⟩ hparts
  exact absurd hparts.calls (by decide)

/-- The first message is kept although its results are left out. -/
theorem maybeCompact_parts_first :
    Paired [called, answered, asked, asked] ∧
      ¬KeptTogether [called, answered, asked, asked]
        (maybeCompact [called, answered, asked, asked] forced).2 :=
  ⟨paired_called (paired_asked (paired_asked .nil)),
    fun hkept => not_paired_summary (by decide) [] [asked] hkept.2⟩

end DbxSpec.Ai
